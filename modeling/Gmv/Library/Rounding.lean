import Mathlib.Data.Int.Order.Basic

/-!
# Rounding

A rounding takes every value to one that can be kept.  It respects the order and
leaves the values that it has rounded alone.  A value that was kept before stays in
front of all the values that it was in front of.
-/

namespace Gmv.Library

structure Rounding (α : Type) [LE α] where
  round : α → α
  monotone : ∀ ⦃first second⦄, first ≤ second → round first ≤ round second
  idempotent : ∀ value, round (round value) = round value

namespace Rounding

section

variable {α : Type} [LE α]

instance : CoeFun (Rounding α) fun _ => α → α := ⟨round⟩

/-- Every value is kept. -/
def exact (α : Type) [LE α] : Rounding α := ⟨id, fun _ _ before => before, fun _ => rfl⟩

variable (rounding : Rounding α) {kept value : α}

/-- The values that can be kept. -/
def Keeps (value : α) : Prop := rounding value = value

theorem keeps_round (value : α) : rounding.Keeps (rounding value) := rounding.idempotent value

variable {rounding}

theorem Keeps.le_round (keeps : rounding.Keeps kept) (before : kept ≤ value) :
    kept ≤ rounding value := by
  have rounded := rounding.monotone before
  rw [show rounding kept = kept from keeps] at rounded
  exact rounded

end

/-- To the nearest multiple of a unit, from the middle on to the next one. -/
def nearest (unit : Nat) (positive : 0 < unit) : Rounding Int where
  round value := (value + unit / 2) / unit * unit
  monotone first second before := by
    have larger : first + unit / 2 ≤ second + unit / 2 := Int.add_le_add_right before _
    have bounded := Int.ediv_le_ediv (Int.natCast_pos.mpr positive) larger
    exact Int.mul_le_mul_of_nonneg_right bounded (Int.natCast_nonneg unit)
  idempotent value := by
    have nonzero : (unit : Int) ≠ 0 := by omega
    have half : (unit / 2 : Int) / unit = 0 :=
      Int.ediv_eq_zero_of_lt (by omega) (by omega)
    rw [Int.add_comm, Int.add_mul_ediv_right _ _ nonzero, half, Int.zero_add]

end Rounding

end Gmv.Library
