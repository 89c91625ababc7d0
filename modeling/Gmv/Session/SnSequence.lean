import Gmv.Library.CyclicCounter
import Gmv.Library.Runs
import Mathlib.Logic.Function.Basic

/-!
# The sequence numbers of commands

Threads take numbers from one atomic with a compare and exchange that may fail for no reason.  What a thread
loads, and what an exchange that fails tells it, may be any value; an exchange that succeeds has found the
value of the atomic.
-/

namespace Gmv.Session.SnSequence

open Gmv.Library CyclicCounter Runs

/-- The atomic, and what each thread in `next_atomic_value` takes for its value. -/
structure Sequence where
  value : UInt32
  current : Nat → Option UInt32

inductive Action where
  | load (thread : Nat) (seen : UInt32)
  /-- An exchange; it may fail though the value is the one expected. -/
  | exchange (thread : Nat) (fails : Bool) (actual : UInt32)
  deriving DecidableEq, Repr

def nextValue (max current : UInt32) : UInt32 := if current ≥ max then 1 else current + 1

/-- The result is what a thread returns with. -/
def step (max : UInt32) (sequence : Sequence) : Action → Option (Nat × UInt32) × Sequence
  | .load thread seen => (none, { sequence with current := Function.update sequence.current thread (some seen) })
  | .exchange thread fails actual =>
      match sequence.current thread with
      | none => (none, sequence)
      | some current =>
          if sequence.value = current ∧ fails = false then
            (some (thread, nextValue max current),
              ⟨nextValue max current, Function.update sequence.current thread none⟩)
          else (none, { sequence with current := Function.update sequence.current thread (some actual) })

abbrev Entry := Transition Sequence Action (Option (Nat × UInt32))

/-- The numbers that are handed out in a run. -/
def handedOut (entries : List Entry) : List UInt32 :=
  entries.filterMap fun entry => entry.result.map Prod.snd

theorem handedOut_concat (past : List Entry) (entry : Entry) :
    handedOut (past ++ [entry]) = handedOut past ++ (entry.result.map Prod.snd).toList := by
  rw [handedOut, List.filterMap_append, handedOut]
  cases found : entry.result with
  | none => rw [List.filterMap_cons_none (by rw [found]; rfl)]; rfl
  | some returned => rw [List.filterMap_cons_some (by rw [found]; rfl)]; rfl

/-! ## One number after another -/

section

variable {max : UInt32}

theorem nextValue_toNat {current : UInt32} (bounded : current ≤ max) :
    (nextValue max current).toNat = next max.toNat current.toNat := by
  rw [UInt32.le_iff_toNat_le] at bounded
  have most := UInt32.toNat_lt max
  rw [nextValue, next]
  by_cases last : max ≤ current
  · rw [UInt32.le_iff_toNat_le] at last
    rw [if_pos (UInt32.le_iff_toNat_le.mpr last), if_pos (Nat.le_antisymm bounded last)]
    rfl
  · rw [UInt32.le_iff_toNat_le] at last
    rw [if_neg (fun more => last (UInt32.le_iff_toNat_le.mp more)), if_neg (by omega), UInt32.toNat_add]
    exact Nat.mod_eq_of_lt (by rw [UInt32.toNat_one]; omega)

theorem nextValue_bounds (positive : 0 < max) (current : UInt32) :
    1 ≤ (nextValue max current).toNat ∧ nextValue max current ≤ max := by
  rw [UInt32.lt_iff_toNat_lt] at positive
  have most := UInt32.toNat_lt max
  have zero : (0 : UInt32).toNat = 0 := rfl
  rw [UInt32.le_iff_toNat_le, nextValue]
  split
  · rw [UInt32.toNat_one]
    omega
  · rename_i before
    rw [ge_iff_le, UInt32.le_iff_toNat_le] at before
    rw [UInt32.toNat_add, UInt32.toNat_one, Nat.mod_eq_of_lt (by omega)]
    omega

/-- A step hands out the number behind the value of the atomic, which is its value then, or nothing. -/
theorem step_cases (sequence : Sequence) (action : Action) :
    ((step max sequence action).1 = none ∧ (step max sequence action).2.value = sequence.value) ∨
      ∃ thread, (step max sequence action).1 = some (thread, nextValue max sequence.value) ∧
        (step max sequence action).2.value = nextValue max sequence.value := by
  cases action with
  | load thread seen => exact Or.inl ⟨rfl, rfl⟩
  | exchange thread fails actual =>
      rw [step]
      split
      · exact Or.inl ⟨rfl, rfl⟩
      · split
        · rename_i succeeds
          rw [← succeeds.1]
          exact Or.inr ⟨thread, rfl, rfl⟩
        · exact Or.inl ⟨rfl, rfl⟩

/-- What is handed out next follows on what was handed out. -/
structure Follows (max first : UInt32) (past : List Entry) (sequence : Sequence) : Prop where
  upcoming : (nextValue max sequence.value).toNat = after max.toNat first.toNat (handedOut past).length
  numbers : (handedOut past).map UInt32.toNat =
    (List.range (handedOut past).length).map (after max.toNat first.toNat)

theorem follows_step (positive : 0 < max) {first : UInt32} (past : List Entry) (sequence : Sequence)
    (action : Action) (follows : Follows max first past sequence) :
    Follows max first (past ++ [transition (step max) sequence action]) (step max sequence action).2 := by
  have behind := handedOut_concat past (transition (step max) sequence action)
  rcases step_cases sequence action with ⟨nothing, same⟩ | ⟨thread, handed, moved⟩
  · rw [transition, nothing, Option.map_none, Option.toList_none, List.append_nil] at behind
    rw [transition, nothing]
    exact ⟨by rw [behind, same]; exact follows.upcoming, by rw [behind]; exact follows.numbers⟩
  · rw [transition, handed, Option.map_some, Option.toList_some] at behind
    rw [transition, handed]
    refine ⟨?_, ?_⟩
    · rw [behind, moved, nextValue_toNat (nextValue_bounds positive _).2, follows.upcoming, List.length_append,
        List.length_singleton, after_succ (UInt32.lt_iff_toNat_lt.mp positive)]
    · rw [behind, List.map_append, follows.numbers, List.length_append, List.length_singleton, List.range_succ,
        List.map_append, List.map_singleton, List.map_singleton, follows.upcoming]

end

/-! ## The sequence of the commands -/

/-- `next_sn`. -/
def nextSn : Sequence → Action → Option (Nat × UInt32) × Sequence := step 0xffffffff

/-- `GB_SN`. -/
def gbSn : Sequence := ⟨0, fun _ => none⟩

/-- Whatever threads do at the same time, and however often their exchanges fail, the numbers that they get
are 1, 2 and so on, in the order in which they get them, and 1 again behind the last number of 32 bits: none
is 0, and one that comes twice comes a whole round later. -/
theorem sn_consecutive (actions : List Action) :
    (handedOut (run nextSn gbSn actions)).map UInt32.toNat =
        (List.range (handedOut (run nextSn gbSn actions)).length).map (after (2 ^ 32 - 1) 1) ∧
      (∀ number ∈ handedOut (run nextSn gbSn actions), number ≠ 0) ∧
      ∀ one other number, one < other → (handedOut (run nextSn gbSn actions))[one]? = some number →
        (handedOut (run nextSn gbSn actions))[other]? = some number → one + (2 ^ 32 - 1) ≤ other := by
  have atFirst : Follows 0xffffffff 1 [] gbSn := ⟨rfl, rfl⟩
  have follows := history_final (Follows 0xffffffff 1) (fun _ _ => True)
    (fun past sequence action follows _ => follows_step (by decide) past sequence action follows) atFirst
    (fun entry (_ : entry ∈ run (step 0xffffffff) gbSn actions) => True.intro)
  rw [List.nil_append] at follows
  have numbers : (handedOut (run nextSn gbSn actions)).map UInt32.toNat =
      (List.range (handedOut (run nextSn gbSn actions)).length).map (after (2 ^ 32 - 1) 1) := follows.numbers
  have each : ∀ index number, (handedOut (run nextSn gbSn actions))[index]? = some number →
      number.toNat = after (2 ^ 32 - 1) 1 index := by
    intro index number found
    have inside := (List.getElem?_eq_some_iff.mp found).1
    have same := congrArg (fun numbers : List Nat => numbers[index]?) numbers
    simp only [List.getElem?_map, found, Option.map_some, List.getElem?_range inside] at same
    exact Option.some.inj same
  refine ⟨numbers, fun number member => ?_, fun one other number earlier first second => ?_⟩
  · obtain ⟨index, inside, rfl⟩ := List.mem_iff_getElem.mp member
    have value := each index _ (List.getElem?_eq_getElem inside)
    intro zero
    rw [zero] at value
    exact absurd (one_le_after index) (by rw [← value]; decide)
  · exact round_apart ((each one number first).symm.trans (each other number second)) earlier

end Gmv.Session.SnSequence
