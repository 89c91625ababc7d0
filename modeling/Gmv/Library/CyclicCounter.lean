import Mathlib.Data.List.Perm.Subperm
import Mathlib.Data.Nat.ModEq

/-!
# Counters that go round

A counter hands out the numbers from one to a size and then begins again.  What it hands out is a
function of how often it has been asked, so that two askings with one answer are a whole round apart,
and a whole round has every answer.
-/

namespace Gmv.Library.CyclicCounter

/-- The number behind a number. -/
def next (size current : Nat) : Nat := if current = size then 1 else current + 1

/-- What a counter that starts at a number hands out when it has been asked some times before. -/
def after (size first asked : Nat) : Nat := (first - 1 + asked) % size + 1

variable {size first : Nat}

theorem after_zero (positive : 1 ≤ first) (bounded : first ≤ size) : after size first 0 = first := by
  rw [after, Nat.add_zero, Nat.mod_eq_of_lt (by omega)]
  omega

theorem after_succ (positive : 0 < size) (asked : Nat) :
    after size first (asked + 1) = next size (after size first asked) := by
  have bound := Nat.mod_lt (first - 1 + asked) positive
  rw [after, after, next, ← Nat.add_assoc, ← Nat.mod_add_mod]
  split
  · next last => rw [last, Nat.mod_self]
  · next inside => rw [Nat.mod_eq_of_lt (by omega)]

theorem one_le_after (asked : Nat) : 1 ≤ after size first asked := Nat.le_add_left ..

theorem after_le (positive : 0 < size) (asked : Nat) : after size first asked ≤ size :=
  Nat.mod_lt _ positive

/-- A number comes again a whole round later at the earliest. -/
theorem round_apart {one other : Nat} (same : after size first one = after size first other)
    (earlier : one < other) : one + size ≤ other := by
  have congruent : (first - 1 + one) % size = (first - 1 + other) % size := Nat.succ.inj same
  have divides : size ∣ (first - 1 + other) - (first - 1 + one) :=
    (Nat.modEq_iff_dvd' (by omega)).mp congruent
  have apart := Nat.le_of_dvd (by omega) divides
  omega

/-- Every number comes in a whole round. -/
theorem exists_after {number : Nat} (positive : 1 ≤ number) (bounded : number ≤ size) (began : Nat) :
    ∃ asked, began ≤ asked ∧ asked < began + size ∧ after size first asked = number := by
  have here := Nat.mod_lt (first - 1 + began) (Nat.lt_of_lt_of_le positive bounded)
  have away := Nat.mod_lt (number - 1 + (size - (first - 1 + began) % size))
    (Nat.lt_of_lt_of_le positive bounded)
  refine ⟨began + (number - 1 + (size - (first - 1 + began) % size)) % size, Nat.le_add_right ..,
    Nat.add_lt_add_left away _, ?_⟩
  have total : (first - 1 + began) % size + (number - 1 + (size - (first - 1 + began) % size)) =
      number - 1 + size := by omega
  rw [after, ← Nat.add_assoc, Nat.add_mod, Nat.mod_mod, ← Nat.add_mod, ← Nat.mod_add_mod, total,
    Nat.add_mod_right, Nat.mod_eq_of_lt (by omega)]
  omega

/-- As many different askings as a round has are all the askings of the round. -/
theorem mem_round {askings : List Nat} {began : Nat} (distinct : askings.Nodup)
    (inRound : ∀ asked ∈ askings, began ≤ asked ∧ asked < began + size)
    (many : size ≤ askings.length) {asked : Nat} (from' : began ≤ asked) (before : asked < began + size) :
    asked ∈ askings := by
  have isPart : askings ⊆ List.range' began size := fun other member =>
    List.mem_range'_1.mpr (inRound other member)
  have isAll := (List.subperm_of_subset distinct isPart).perm_of_length_le
    (by rw [List.length_range']; exact many)
  exact isAll.mem_iff.mpr (List.mem_range'_1.mpr ⟨from', before⟩)

end Gmv.Library.CyclicCounter
