import Gmv.Stream.Timeline

/-!
# The pacing of a stream

A timeline finds a jump by the timestamps of the camera, and corrects by the timestamps that it has
written itself.  After the first correction the two stay apart, so that packets which follow on
each other for the camera are corrected all the same.
-/

namespace Gmv.Stream.TimelinePacing

open Gmv.Library Gmv.Library.Overflow Gmv.Library.Runs Timeline Timeline.StreamTimeline

/-! ## All streams -/

structure TimelineNormalizer where
  streams : List (Option StreamTimeline)
  globalBaseUs : Int64

def avTimeBaseQ : Int32 × Int32 := (1, 1000000)

def saturatingSub (one other : Int64) : Int64 := Int64.ofIntClamp (one.toInt - other.toInt)

section

variable (avRescaleQ : Int64 → Int32 × Int32 → Int32 × Int32 → Int64)

/-- How far the packet is behind the common start, in microseconds. -/
def scaleGlobal (normalizer : TimelineNormalizer) (timeline : StreamTimeline) (pts : Int64) : Int64 :=
  let global :=
    if normalizer.globalBaseUs = Int64.maxValue then 0
    else saturatingSub pts normalizer.globalBaseUs
  if global > 0 then avRescaleQ global timeline.timeBase avTimeBaseQ else 0

/-- The stream whose timeline a packet goes through. -/
def TimelineNormalizer.streamOf (normalizer : TimelineNormalizer) (pkt : AVPacket) :
    Option StreamTimeline :=
  if pkt.streamIndex < 0 then none
  else if normalizer.streams.length ≤ pkt.streamIndex.toInt.toNat then none
  else if pkt.dataIsNull ∨ pkt.size ≤ 0 then none
  else (normalizer.streams[pkt.streamIndex.toInt.toNat]?).join

def TimelineNormalizer.process (normalizer : TimelineNormalizer) (pkt : AVPacket) :
    (AVPacket × Option Int64 × ProcessResult) × TimelineNormalizer :=
  match normalizer.streamOf pkt with
  | none => ((pkt, none, .ok), normalizer)
  | some timeline =>
      match repairMissingTimestamps pkt timeline.reorderDelay with
      | none => ((pkt, none, .ok), normalizer)
      | some repaired =>
          let scaled := scaleGlobal avRescaleQ normalizer timeline repaired.pts
          let ((corrected, result), next) := step timeline repaired
          ((corrected, some scaled, result),
            { normalizer with streams :=
                normalizer.streams.set pkt.streamIndex.toInt.toNat (some next) })

end

/-! ## Pacing -/

/-- The packet is as far behind the one before it as it was, and so is its pts behind its dts. -/
def Paced (origin written next corrected : AVPacket) : Prop :=
  corrected.dts.toInt - written.dts.toInt = next.dts.toInt - origin.dts.toInt ∧
    (next.dts ≤ next.pts →
      corrected.pts.toInt - corrected.dts.toInt = next.pts.toInt - next.dts.toInt)

instance (origin written next corrected : AVPacket) :
    Decidable (Paced origin written next corrected) := inferInstanceAs (Decidable (_ ∧ _))

/-- What was written last is what the camera said; or the packet is corrected, and the correction is
by chance what the camera says, for a packet without a reorder. -/
def InStep (timeline : StreamTimeline) (next : AVPacket) : Prop :=
  timeline.lastDts = timeline.lastOriginDts ∨
    isJump (next.dts - timeline.lastDts) = true ∧
      timeline.getDelta.toInt = next.dts.toInt - timeline.lastOriginDts.toInt ∧
      Fits (timeline.lastDts.toInt + timeline.getDelta.toInt) ∧ next.pts ≤ next.dts

/-- The last packet that had its timestamps. -/
def previous (past : List Entry) : Option Entry :=
  (past.filter fun entry => (repairedOf entry).isSome).getLast?

/-! ## One packet -/

section

variable {timeline : StreamTimeline} {pkt repaired : AVPacket}

theorem step_refused (refused : repairMissingTimestamps pkt timeline.reorderDelay = none) :
    step timeline pkt = ((pkt, .ok), timeline) := process_refused wrapping refused

theorem step_first (repairs : repairMissingTimestamps pkt timeline.reorderDelay = some repaired)
    (first : timeline.initialized = false) :
    step timeline pkt = ((repaired, .ok), timeline.start repaired) :=
  process_first wrapping repairs first

/-- The packet that the arithmetic of the program makes of one behind the first. -/
def corrected (timeline : StreamTimeline) (pkt : AVPacket) : AVPacket :=
  if isJump (pkt.dts - timeline.lastDts) then
    { pkt with pts := timeline.lastDts + timeline.getDelta, dts := timeline.lastDts + timeline.getDelta }
  else raisePts pkt

theorem step_later (repairs : repairMissingTimestamps pkt timeline.reorderDelay = some repaired)
    (later : timeline.initialized = true) :
    ∃ normalDelta, step timeline pkt =
      ((corrected timeline repaired,
          if isJump (repaired.dts - timeline.lastOriginDts) then .discontinuity else .ok),
        { timeline with
          lastDts := (corrected timeline repaired).dts, lastPts := (corrected timeline repaired).pts,
          lastOriginDts := repaired.dts, normalDelta := normalDelta }) := by
  have same : raisePts (correct wrapping timeline repaired).1 = corrected timeline repaired := by
    rw [corrected]
    split_ifs with jump
    · have made : correct wrapping timeline repaired = ({ repaired with
          pts := timeline.lastDts + timeline.getDelta,
          dts := timeline.lastDts + timeline.getDelta }, 0) := if_pos jump
      rw [made, raisePts, if_neg]
      simp
    · have made : correct wrapping timeline repaired = (repaired, timeline.normalDelta) := if_neg jump
      rw [made]
  refine ⟨learn wrapping (correct wrapping timeline repaired).2
    ((corrected timeline repaired).dts - timeline.lastDts), ?_⟩
  rw [step, process, repairs]
  simp only [later, Bool.not_true, Bool.false_eq_true, if_false, ← same]
  rfl

/-- What is added to a timestamp is positive. -/
theorem getDelta_pos (timeline : StreamTimeline) : 0 < timeline.getDelta.toInt := by
  rw [getDelta]
  split_ifs with positive
  · exact Int64.lt_iff_toInt_lt.mp positive
  · rw [defaultDelta]
    split_ifs <;> decide

/-- A distance that is no jump does not overflow. -/
theorem sub_of_close {one other : Int64} (forward : 0 ≤ one.toInt - other.toInt)
    (near : one.toInt - other.toInt ≤ maxDeltaTicks.toInt) :
    (one - other).toInt = one.toInt - other.toInt ∧ isJump (one - other) = false := by
  rw [maxDeltaTicks_toInt] at near
  have diff := (@checked_sub one other ⟨by omega, by omega⟩).2
  refine ⟨diff, ?_⟩
  rw [← Bool.not_eq_true, isJump_iff, diff]
  omega

/-- A sum with a positive number is what the integers say exactly when it fits. -/
theorem add_eq_iff {one other : Int64} {by' : Int} (positive : 0 < other.toInt) (small : 0 ≤ by') :
    (one + other).toInt = one.toInt + by' ↔
      other.toInt = by' ∧ Fits (one.toInt + other.toInt) := by
  by_cases fits : Fits (one.toInt + other.toInt)
  · rw [(checked_add fits).2]
    exact ⟨fun same => ⟨by omega, fits⟩, fun same => by omega⟩
  · refine ⟨fun same => ?_, fun both => absurd both.2 fits⟩
    have low := one.le_toInt
    have high := other.toInt_lt
    rw [Int64.toInt_add] at same
    simp only [Fits] at fits
    rw [Int.bmod_eq_iff (by decide)] at same
    omega

/-- A packet behind the first that does not jump for the camera keeps its pace exactly in step. -/
theorem paced_iff {origin written : AVPacket} (last : timeline.lastDts = written.dts)
    (lastOrigin : timeline.lastOriginDts = origin.dts)
    (forward : 0 ≤ repaired.dts.toInt - origin.dts.toInt)
    (near : repaired.dts.toInt - origin.dts.toInt ≤ maxDeltaTicks.toInt) :
    Paced origin written repaired (corrected timeline repaired) ↔ InStep timeline repaired := by
  rw [Paced, InStep, corrected, ← last, ← lastOrigin]
  rw [← lastOrigin] at forward near
  by_cases jump : isJump (repaired.dts - timeline.lastDts) = true
  · have apart : timeline.lastDts ≠ timeline.lastOriginDts := by
      intro same
      rw [← same] at forward near
      rw [(sub_of_close forward near).2] at jump
      cases jump
    have dts : (timeline.lastDts + timeline.getDelta).toInt - timeline.lastDts.toInt =
          repaired.dts.toInt - timeline.lastOriginDts.toInt ↔
        timeline.getDelta.toInt = repaired.dts.toInt - timeline.lastOriginDts.toInt ∧
          Fits (timeline.lastDts.toInt + timeline.getDelta.toInt) := by
      rw [← add_eq_iff (getDelta_pos timeline) forward]
      omega
    have pts (same : Int64) : (repaired.dts ≤ repaired.pts →
        same.toInt - same.toInt = repaired.pts.toInt - repaired.dts.toInt) ↔
          repaired.pts ≤ repaired.dts := by
      rw [Int64.le_iff_toInt_le, Int64.le_iff_toInt_le]
      omega
    rw [if_pos jump, dts, pts, and_assoc]
    simp only [apart, false_or, jump, true_and]
  · have kept : repaired.dts ≤ repaired.pts → (raisePts repaired).pts = repaired.pts := fun ahead => by
      rw [raisePts, if_neg (Int64.not_lt.mpr ahead)]
    have pts : repaired.dts ≤ repaired.pts →
        (raisePts repaired).pts.toInt - repaired.dts.toInt =
          repaired.pts.toInt - repaired.dts.toInt := fun ahead => by rw [kept ahead]
    have dts : repaired.dts.toInt - timeline.lastDts.toInt =
        repaired.dts.toInt - timeline.lastOriginDts.toInt ↔
          timeline.lastDts = timeline.lastOriginDts := by
      rw [← Int64.toInt_inj]
      omega
    rw [if_neg jump, raisePts_dts, dts, and_iff_left pts]
    simp only [jump, false_and, or_false, Bool.false_eq_true]

end

/-! ## One stream among others -/

section

variable {timeline : StreamTimeline} {pkt repaired : AVPacket}

theorem repair_repaired {reorderDelay : Int32}
    (repairs : repairMissingTimestamps pkt reorderDelay = some repaired) :
    repairMissingTimestamps repaired reorderDelay = some repaired := by
  have filled : repaired.pts ≠ avNoptsValue ∧ repaired.dts ≠ avNoptsValue := by
    simp only [repairMissingTimestamps] at repairs
    generalize (if reorderDelay ≤ 0 ∧ pkt.pts = avNoptsValue then { pkt with pts := pkt.dts }
      else if reorderDelay ≤ 0 ∧ pkt.dts = avNoptsValue then { pkt with dts := pkt.pts }
      else pkt) = filledIn at repairs
    by_cases missing : pkt.pts = avNoptsValue ∧ pkt.dts = avNoptsValue
    · rw [if_pos missing] at repairs
      cases repairs
    · rw [if_neg missing] at repairs
      by_cases filled : filledIn.pts ≠ avNoptsValue ∧ filledIn.dts ≠ avNoptsValue
      · rw [if_pos filled] at repairs
        cases repairs
        exact filled
      · rw [if_neg filled] at repairs
        cases repairs
  simp [repairMissingTimestamps, filled.1, filled.2]

/-- A second repair changes nothing. -/
theorem step_repaired (repairs : repairMissingTimestamps pkt timeline.reorderDelay = some repaired) :
    step timeline repaired = step timeline pkt := by
  rw [step, process, repair_repaired repairs, step, process, repairs]

variable (avRescaleQ : Int64 → Int32 × Int32 → Int32 × Int32 → Int64)
variable {normalizer : TimelineNormalizer} {index : Nat}

/-- A packet with something in it, of the stream with this index. -/
def belongs (index : Nat) (pkt : AVPacket) : Bool :=
  ¬pkt.streamIndex < 0 ∧ pkt.streamIndex.toInt.toNat = index ∧ ¬(pkt.dataIsNull ∨ pkt.size ≤ 0)

theorem streamOf_belongs (own : belongs index pkt = true)
    (held : normalizer.streams[index]? = some (some timeline)) :
    normalizer.streamOf pkt = some timeline := by
  obtain ⟨valid, rfl, filled⟩ := of_decide_eq_true own
  have inside := (List.getElem?_eq_some_iff.mp held).1
  rw [TimelineNormalizer.streamOf, if_neg valid, if_neg (by omega), if_neg filled, held]
  rfl

/-- A packet of a stream goes through its timeline. -/
theorem process_own (own : belongs index pkt = true)
    (held : normalizer.streams[index]? = some (some timeline)) :
    ((normalizer.process avRescaleQ pkt).1.1, (normalizer.process avRescaleQ pkt).1.2.2) =
        (step timeline pkt).1 ∧
      (normalizer.process avRescaleQ pkt).2.streams[index]? = some (some (step timeline pkt).2) := by
  have found := streamOf_belongs own held
  have inside := (List.getElem?_eq_some_iff.mp held).1
  have isIndex : pkt.streamIndex.toInt.toNat = index := (of_decide_eq_true own).2.1
  cases repairs : repairMissingTimestamps pkt timeline.reorderDelay with
  | none =>
      simp only [TimelineNormalizer.process, found, repairs, step_refused repairs]
      exact ⟨trivial, held⟩
  | some repaired =>
      simp only [TimelineNormalizer.process, found, repairs, step_repaired repairs, isIndex]
      exact ⟨trivial, List.getElem?_set_self inside⟩

/-- A packet of another stream, or an empty one, leaves a timeline as it is. -/
theorem process_other (other : belongs index pkt = false) :
    (normalizer.process avRescaleQ pkt).2.streams[index]? = normalizer.streams[index]? := by
  rw [TimelineNormalizer.process]
  cases found : normalizer.streamOf pkt with
  | none => rfl
  | some timeline =>
      cases repairs : repairMissingTimestamps pkt timeline.reorderDelay with
      | none => simp only [repairs]
      | some repaired =>
          have apart : pkt.streamIndex.toInt.toNat ≠ index := by
            rintro rfl
            rw [TimelineNormalizer.streamOf] at found
            split_ifs at found with invalid outside empty
            exact of_decide_eq_false other ⟨invalid, rfl, empty⟩
          simp only [repairs, List.getElem?_set_ne apart]

/-- The packets of a stream come out of a normalizer as they come out of its timeline. -/
theorem run_normalizer {packets : List AVPacket}
    (held : normalizer.streams[index]? = some (some timeline)) :
    ((run (TimelineNormalizer.process avRescaleQ) normalizer packets).filter
        fun entry => belongs index entry.action).map (fun entry => (entry.result.1, entry.result.2.2)) =
      (run step timeline (packets.filter (belongs index))).map Transition.result := by
  induction packets generalizing normalizer timeline with
  | nil => rfl
  | cons pkt packets ih =>
      cases own : belongs index pkt with
      | true =>
          obtain ⟨same, next⟩ := process_own avRescaleQ own held
          have through : belongs index (transition (TimelineNormalizer.process avRescaleQ) normalizer
              pkt).action = true := own
          simp only [run_cons, List.filter_cons, through, own, if_true, List.map_cons, ih next]
          exact congrArg (· :: _) same
      | false =>
          have next := (process_other avRescaleQ own).trans held
          have passes : belongs index (transition (TimelineNormalizer.process avRescaleQ) normalizer
              pkt).action = false := own
          simp only [run_cons, List.filter_cons, passes, own, Bool.false_eq_true, if_false, ih next]

end

/-! ## All packets -/

/-- A timeline remembers the last packet that had its timestamps, as the camera sent it and as it was
written. -/
def Remembers (past : List Entry) (timeline : StreamTimeline) : Prop :=
  match previous past with
  | none => timeline.initialized = false
  | some prev => timeline.initialized = true ∧ timeline.lastDts = prev.result.1.dts ∧
      ∃ origin, repairedOf prev = some origin ∧ timeline.lastOriginDts = origin.dts

theorem previous_concat (past : List Entry) (entry : Entry) :
    previous (past ++ [entry]) =
      if (repairedOf entry).isSome then some entry else previous past := by
  rw [previous, List.filter_append]
  split_ifs with kept
  · simp [kept]
  · simp [kept, previous]

theorem Remembers.concat {past : List Entry} {timeline : StreamTimeline}
    (remembers : Remembers past timeline) (pkt : AVPacket) :
    Remembers (past ++ [transition step timeline pkt]) (step timeline pkt).2 := by
  rw [Remembers, previous_concat]
  cases repairs : repairMissingTimestamps pkt timeline.reorderDelay with
  | none =>
      have dropped : repairedOf (transition step timeline pkt) = none := repairs
      rw [dropped, step_refused repairs]
      exact remembers
  | some repaired =>
      have kept : repairedOf (transition step timeline pkt) = some repaired := repairs
      rw [kept]
      cases first : timeline.initialized with
      | false =>
          have first := step_first repairs first
          exact ⟨by rw [first]; rfl, by rw [transition, first]; rfl, repaired, kept, by rw [first]; rfl⟩
      | true =>
          obtain ⟨normalDelta, later⟩ := step_later repairs first
          exact ⟨by rw [later]; exact first, by rw [transition, later], repaired, kept, by rw [later]⟩

/-- Along every run of a stream, a packet that does not jump for the camera is taken for one that
does not, and keeps its pace exactly in step. -/
theorem paced_run_iff (streamType : AVMediaType) (timeBase : Int32 × Int32) (reorderDelay : Int32)
    {packets : List AVPacket} {past later : List Entry} {entry prev : Entry}
    {origin next : AVPacket}
    (split : run step (new streamType timeBase reorderDelay) packets = past ++ entry :: later)
    (isPrevious : previous past = some prev) (original : repairedOf prev = some origin)
    (repairs : repairedOf entry = some next)
    (forward : 0 ≤ next.dts.toInt - origin.dts.toInt)
    (near : next.dts.toInt - origin.dts.toInt ≤ maxDeltaTicks.toInt) :
    entry.result.2 = .ok ∧
      (Paced origin prev.result.1 next entry.result.1 ↔ InStep entry.before next) := by
  have remembers : Remembers past entry.before := by
    have kept : ∀ past timeline pkt, Remembers past timeline → True →
        Remembers (past ++ [transition step timeline pkt]) (step timeline pkt).2 :=
      fun past timeline pkt remembers _ => remembers.concat pkt
    have start : Remembers [] (new streamType timeBase reorderDelay) := rfl
    exact history_run Remembers (fun _ _ => True) kept start (fun _ _ => trivial) split
  have member : entry ∈ run step (new streamType timeBase reorderDelay) packets := by
    rw [split]
    exact List.mem_append_right _ (List.mem_cons_self ..)
  have isStep := mem_run member
  rw [Remembers, isPrevious] at remembers
  obtain ⟨initialized, last, other, same, lastOrigin⟩ := remembers
  cases original.symm.trans same
  obtain ⟨normalDelta, later⟩ := step_later repairs initialized
  have result : entry.result = (corrected entry.before next,
      if isJump (next.dts - entry.before.lastOriginDts) then .discontinuity else .ok) := by
    rw [isStep, transition]
    exact congrArg Prod.fst later
  rw [result]
  refine ⟨?_, paced_iff last lastOrigin forward near⟩
  rw [← lastOrigin] at forward near
  rw [(sub_of_close forward near).2]
  rfl

/-- A packet of a steady stream, and the one behind it. -/
theorem steady_paced :
    let entries := run step (new .video (1, 90000) 0) [⟨0, false, 9, 0, 0⟩, ⟨0, false, 9, 3600, 3600⟩]
    ∃ prev ∈ previous entries.dropLast, ∃ entry ∈ entries.getLast?,
      ∃ origin ∈ repairedOf prev, ∃ next ∈ repairedOf entry,
        entry.result.2 = .ok ∧
          (Paced origin prev.result.1 next entry.result.1 ↔ InStep entry.before next) :=
  ⟨_, rfl, _, rfl, _, rfl, _, rfl,
    @paced_run_iff .video (1, 90000) 0 [⟨0, false, 9, 0, 0⟩, ⟨0, false, 9, 3600, 3600⟩]
      [_] [] _ _ _ _ rfl rfl rfl rfl (by decide) (by decide)⟩

/-- The clock of a camera jumps by ten seconds, and the packet behind the jump is 80 ms later than
the one before it: it is written 40 ms later. -/
theorem jump_loses_pace :
    let entries := run step (new .video (1, 90000) 0)
      [⟨0, false, 9, 0, 0⟩, ⟨0, false, 9, 3600, 3600⟩, ⟨0, false, 9, 907200, 907200⟩,
        ⟨0, false, 9, 914400, 914400⟩]
    ∃ prev ∈ previous entries.dropLast, ∃ entry ∈ entries.getLast?,
      ∃ origin ∈ repairedOf prev, ∃ next ∈ repairedOf entry,
        next.dts.toInt - origin.dts.toInt = 7200 ∧ entry.result.2 = .ok ∧
          entry.result.1.dts.toInt - prev.result.1.dts.toInt = 3600 ∧
          ¬Paced origin prev.result.1 next entry.result.1 := by
  decide +kernel

end Gmv.Stream.TimelinePacing
