import Mathlib.Data.List.Basic

/-!
# Broadcasts with a bounded memory

A channel keeps the last values that were sent into it, up to its capacity.  A receiver has the place of
the value that it hears next; when that value is kept no longer it lags, and goes on with the oldest value
that is kept.  What a receiver has heard is read off the values sent since it came.
-/

namespace Gmv.Library.BroadcastLog

variable {α : Type}

/-- What a receiver finds. -/
inductive Recv (α : Type) where
  | value (value : α)
  | lagged
  | closed
  | pending
  deriving DecidableEq, Repr

/-- The values sent so far; without a sender nothing more will come. -/
structure Channel (α : Type) where
  capacity : Nat
  sent : List α
  closed : Bool

def Channel.send (channel : Channel α) (values : List α) : Channel α :=
  { channel with sent := channel.sent ++ values }

/-- A receiver looks for its next value. -/
def Channel.recv (channel : Channel α) (next : Nat) : Recv α × Nat :=
  if next + channel.capacity < channel.sent.length then
    (.lagged, channel.sent.length - channel.capacity)
  else
    match channel.sent[next]? with
    | some value => (.value value, next + 1)
    | none => (if channel.closed then .closed else .pending, next)

/-- The values between two places. -/
def window (sent : List α) (start next : Nat) : List α := (sent.take next).drop start

theorem window_self (sent : List α) (start : Nat) : window sent start start = [] :=
  List.drop_eq_nil_of_le (by rw [List.length_take]; exact Nat.min_le_left ..)

theorem window_append {sent : List α} {start next : Nat} (known : next ≤ sent.length) (more : List α) :
    window (sent ++ more) start next = window sent start next := by
  rw [window, List.take_append_of_le_length known, window]

theorem window_succ {sent : List α} {start next : Nat} {value : α} (behind : start ≤ next)
    (found : sent[next]? = some value) :
    window sent start (next + 1) = window sent start next ++ [value] := by
  have bound := (List.getElem?_eq_some_iff.mp found).1
  rw [window, List.take_add_one, found, Option.toList_some, List.drop_append_of_le_length]
  · rfl
  · rw [List.length_take]
    omega

theorem window_sublist {sent : List α} {start next later : Nat} (forward : next ≤ later) :
    (window sent start next).Sublist (window sent start later) :=
  ((List.take_prefix_take_left forward).sublist).drop start

/-- A window is a piece of what was sent from its start on. -/
theorem window_initial (sent : List α) (start next : Nat) : window sent start next <+: sent.drop start := by
  rw [window, List.drop_take]
  exact List.take_prefix ..

/-- What a receiver that came at some place has heard before its next value. -/
structure Heard (channel : Channel α) (start next : Nat) (heard : List α) (lags : Bool) : Prop where
  behind : start ≤ next
  known : next ≤ channel.sent.length
  sublist : heard.Sublist (window channel.sent start next)
  /-- A receiver that has not lagged has heard everything. -/
  all : lags = false → heard = window channel.sent start next

section

variable {channel : Channel α} {start next : Nat} {heard : List α} {lags : Bool}

theorem Heard.fresh (channel : Channel α) : Heard channel channel.sent.length channel.sent.length [] false where
  behind := Nat.le_refl _
  known := Nat.le_refl _
  sublist := List.nil_sublist _
  all _ := (window_self _ _).symm

theorem Heard.send (known : Heard channel start next heard lags) (values : List α) :
    Heard (channel.send values) start next heard lags where
  behind := known.behind
  known := Nat.le_trans known.known (by rw [Channel.send, List.length_append]; exact Nat.le_add_right ..)
  sublist := by
    rw [Channel.send, window_append known.known]
    exact known.sublist
  all never := by
    rw [Channel.send, window_append known.known]
    exact known.all never

theorem Heard.close (known : Heard channel start next heard lags) :
    Heard { channel with closed := true } start next heard lags :=
  ⟨known.behind, known.known, known.sublist, known.all⟩

/-- A receiver that finds a value has heard it behind the others. -/
theorem Heard.value (known : Heard channel start next heard lags) {value : α} {later : Nat}
    (found : channel.recv next = (.value value, later)) :
    Heard channel start later (heard ++ [value]) lags := by
  rw [Channel.recv] at found
  split at found
  · cases found
  · split at found
    · rename_i other here
      cases found
      refine ⟨Nat.le_succ_of_le known.behind, (List.getElem?_eq_some_iff.mp here).1, ?_, fun never => ?_⟩
      · rw [window_succ known.behind here]
        exact known.sublist.append (List.Sublist.refl _)
      · rw [window_succ known.behind here, known.all never]
    · split at found <;> cases found

theorem Heard.lagged (known : Heard channel start next heard lags) {later : Nat}
    (found : channel.recv next = (.lagged, later)) : Heard channel start later heard true := by
  rw [Channel.recv] at found
  split at found
  · rename_i far
    cases found
    have forward : next ≤ channel.sent.length - channel.capacity := by omega
    exact ⟨Nat.le_trans known.behind forward, Nat.sub_le .., known.sublist.trans (window_sublist forward),
      fun never => by cases never⟩
  · split at found
    · cases found
    · split at found <;> cases found

end

end Gmv.Library.BroadcastLog
