import Mathlib.Data.List.Basic

/-!
# Splitting a growing buffer into frames

A splitter looks at the items that are in its buffer and asks for more, cuts a
frame off the front, or rejects the buffer.  A cut and a rejection stand when
further items arrive; the frames of a stream then do not depend on the pieces in
which the stream arrives.
-/

namespace Gmv.Library.Framing

variable {β ε : Type}

inductive Verdict (ε : Type) where
  | wait
  | cut (size : Nat)
  | reject (error : ε)

structure Splitter (β ε : Type) where
  verdict : List β → Verdict ε
  cut_fits {buffer : List β} {size : Nat} :
    verdict buffer = .cut size → 0 < size ∧ size ≤ buffer.length
  cut_append {buffer : List β} {size : Nat} (more : List β) :
    verdict buffer = .cut size → verdict (buffer ++ more) = .cut size
  reject_append {buffer : List β} {error : ε} (more : List β) :
    verdict buffer = .reject error → verdict (buffer ++ more) = .reject error

namespace Splitter

/-- Fewer items than make it ask for more make it ask for more. -/
theorem waits_of_append (splitter : Splitter β ε) {buffer more : List β}
    (waits : splitter.verdict (buffer ++ more) = .wait) : splitter.verdict buffer = .wait := by
  cases verdict : splitter.verdict buffer with
  | wait => rfl
  | cut size => simp [splitter.cut_append more verdict] at waits
  | reject error => simp [splitter.reject_append more verdict] at waits

end Splitter

section LengthPrefixed

variable (header : Nat) (field : List β → Nat) (rejects : Nat → Prop) [DecidablePred rejects]
  (error : ε) (size : Nat → Nat)

/-- The verdict on a buffer whose first items tell the size of the frame, or that it is none. -/
def lengthPrefixed (buffer : List β) : Verdict ε :=
  if buffer.length < header then .wait
  else if rejects (field buffer) then .reject error
  else if buffer.length < size (field buffer) then .wait
  else .cut (size (field buffer))

variable {header field}

/-- A length that is there does not change, and neither does a verdict by it. -/
theorem lengthPrefixed_append {buffer : List β} (more : List β)
    (kept : ¬buffer.length < header → field (buffer ++ more) = field buffer)
    (decided : lengthPrefixed header field rejects error size buffer ≠ .wait) :
    lengthPrefixed header field rejects error size (buffer ++ more) =
      lengthPrefixed header field rejects error size buffer := by
  simp only [lengthPrefixed] at decided ⊢
  split_ifs at decided with short rejected partly
  · exact absurd rfl decided
  · rw [kept short, if_neg (by rw [List.length_append]; omega), if_pos rejected, if_neg short,
      if_pos rejected]
  · exact absurd rfl decided
  · rw [kept short, if_neg (by rw [List.length_append]; omega), if_neg rejected,
      if_neg (by rw [List.length_append]; omega), if_neg short, if_neg rejected, if_neg partly]

end LengthPrefixed

/-- The frames that come off a buffer, and the items that stay in it when the
splitter asks for more. -/
inductive Splits (splitter : Splitter β ε) : List β → List (List β) → List β → Prop where
  | waits {buffer : List β} (asks : splitter.verdict buffer = .wait) :
      Splits splitter buffer [] buffer
  | frame {buffer : List β} {size : Nat} {frames : List (List β)} {left : List β}
      (cut : splitter.verdict buffer = .cut size)
      (rest : Splits splitter (buffer.drop size) frames left) :
      Splits splitter buffer (buffer.take size :: frames) left

namespace Splits

variable {splitter : Splitter β ε}

theorem left_waits {buffer left : List β} {frames : List (List β)}
    (splits : Splits splitter buffer frames left) : splitter.verdict left = .wait := by
  induction splits with
  | waits asks => exact asks
  | frame cut rest ih => exact ih

/-- A splitter leaves no choice. -/
theorem unique {buffer left left' : List β} {frames frames' : List (List β)}
    (splits : Splits splitter buffer frames left)
    (other : Splits splitter buffer frames' left') : frames' = frames ∧ left' = left := by
  induction splits generalizing frames' left' with
  | waits asks =>
      cases other with
      | waits => exact ⟨rfl, rfl⟩
      | frame cut rest => simp [asks] at cut
  | frame cut rest ih =>
      cases other with
      | waits asks => simp [cut] at asks
      | frame cut' rest' =>
          cases cut.symm.trans cut'
          obtain ⟨same, rfl⟩ := ih rest'
          exact ⟨congrArg _ same, rfl⟩

/-- A buffer can be split before its last items are there. -/
theorem of_append {buffer more last : List β} {all : List (List β)}
    (splits : Splits splitter (buffer ++ more) all last) :
    ∃ frames left frames', Splits splitter buffer frames left ∧
      Splits splitter (left ++ more) frames' last ∧ all = frames ++ frames' := by
  generalize whole : buffer ++ more = received at splits
  induction splits generalizing buffer with
  | waits asks =>
      subst whole
      exact ⟨[], buffer, [], .waits (splitter.waits_of_append asks), .waits asks, rfl⟩
  | @frame received size frames last cut rest ih =>
      subst whole
      cases verdict : splitter.verdict buffer with
      | wait => exact ⟨[], buffer, _, .waits verdict, .frame cut rest, rfl⟩
      | reject error => simp [splitter.reject_append more verdict] at cut
      | cut size' =>
          cases (splitter.cut_append more verdict).symm.trans cut
          have fits := (splitter.cut_fits verdict).2
          obtain ⟨first, left, second, early, late, rfl⟩ :=
            ih (List.drop_append_of_le_length fits).symm
          refine ⟨buffer.take size :: first, left, second, .frame verdict early, late, ?_⟩
          simp [List.take_append_of_le_length fits]

end Splits

/-- Pieces that arrive one after the other, each split with what was left over. -/
inductive Feeds (splitter : Splitter β ε) :
    List β → List (List β) → List (List β) → List β → Prop where
  | done {buffer : List β} : Feeds splitter buffer [] [] buffer
  | piece {buffer chunk left last : List β} {chunks frames more : List (List β)}
      (splits : Splits splitter (buffer ++ chunk) frames left)
      (rest : Feeds splitter left chunks more last) :
      Feeds splitter buffer (chunk :: chunks) (frames ++ more) last

/-- Pieces are split as the whole stream is. -/
theorem Splits.feeds {splitter : Splitter β ε} {buffer last : List β}
    {chunks all : List (List β)} (asks : splitter.verdict buffer = .wait)
    (splits : Splits splitter (buffer ++ chunks.flatten) all last) :
    Feeds splitter buffer chunks all last := by
  induction chunks generalizing buffer all with
  | nil =>
      obtain ⟨rfl, rfl⟩ := (Splits.waits asks).unique (by simpa using splits)
      exact .done
  | cons chunk chunks ih =>
      have arrived : Splits splitter ((buffer ++ chunk) ++ chunks.flatten) all last := by
        simpa [List.append_assoc] using splits
      obtain ⟨frames, left, more, early, late, rfl⟩ := arrived.of_append
      exact .piece early (ih early.left_waits late)

/-- Frames that a splitter recognises, whatever follows them, are split apart. -/
theorem splits_flatten {splitter : Splitter β ε} {frames : List (List β)} (left : List β)
    (known : ∀ frame ∈ frames, ∀ more, splitter.verdict (frame ++ more) = .cut frame.length)
    (asks : splitter.verdict left = .wait) :
    Splits splitter (frames.flatten ++ left) frames left := by
  induction frames with
  | nil => exact .waits asks
  | cons frame frames ih =>
      have cut := known frame (by simp) (frames.flatten ++ left)
      have rest := ih fun other member => known other (by simp [member])
      simpa using Splits.frame cut (by simpa using rest)

end Gmv.Library.Framing
