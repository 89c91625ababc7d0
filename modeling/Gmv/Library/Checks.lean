import Mathlib.Data.List.Basic

/-!
# Sequences of checks

A check either passes or refuses with an error.  A sequence of checks passes
exactly when each of them does, in whatever order a proof needs them.
-/

namespace Gmv.Library

variable {ε α β : Type}

/-- Refuse when a condition holds. -/
def rejectIf (refused : Bool) (error : ε) : Except ε Unit :=
  if refused then .error error else .ok ()

@[simp]
theorem rejectIf_eq_ok {refused : Bool} {error : ε} {value : Unit} :
    rejectIf refused error = .ok value ↔ refused = false := by
  cases refused <;> simp [rejectIf]

@[simp]
theorem check_bind_eq_ok {check : Except ε α} {rest : α → Except ε β} {value : β} :
    check >>= rest = .ok value ↔ ∃ found, check = .ok found ∧ rest found = .ok value := by
  cases check with
  | error refusal =>
      constructor
      · intro passed
        cases passed
      · rintro ⟨found, passed, -⟩
        cases passed
  | ok found =>
      constructor
      · intro passed
        exact ⟨found, rfl, passed⟩
      · rintro ⟨other, same, passed⟩
        cases same
        exact passed

@[simp]
theorem check_pure_eq_ok {found value : α} :
    (pure found : Except ε α) = .ok value ↔ found = value := by
  simp [pure, Except.pure]

@[simp]
theorem check_unit {P : Unit → Prop} : (∃ found : Unit, P found) ↔ P () := by
  constructor
  · rintro ⟨⟨⟩, holds⟩
    exact holds
  · intro holds
    exact ⟨(), holds⟩

/-- Checking a whole list succeeds when every entry passes. -/
theorem mapM_eq_ok_of_forall {items : List α} {check : α → Except ε β}
    (passes : ∀ item ∈ items, ∃ found, check item = .ok found) :
    ∃ found, items.mapM check = .ok found := by
  induction items with
  | nil => exact ⟨[], rfl⟩
  | cons item rest ih =>
      obtain ⟨found, passed⟩ := passes item List.mem_cons_self
      obtain ⟨others, restPassed⟩ :=
        ih fun other member => passes other (List.mem_cons_of_mem _ member)
      refine ⟨found :: others, ?_⟩
      simp [List.mapM_cons, passed, restPassed]

end Gmv.Library
