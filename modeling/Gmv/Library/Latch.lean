import Mathlib.Data.List.TakeWhile

/-!
# A latch

A latch lets through what comes from the first element on that opens it.
-/

namespace Gmv.Library.Latch

variable {α : Type} (opens : α → Bool)

def kept (elements : List α) : List α := elements.dropWhile fun element => !opens element

variable {opens} {elements : List α}

theorem kept_eq_nil_iff : kept opens elements = [] ↔ elements.any opens = false := by
  rw [kept, List.dropWhile_eq_nil_iff, List.any_eq_false]
  refine forall₂_congr fun element _ => ?_
  cases opens element <;> decide

theorem kept_concat (element : α) :
    kept opens (elements ++ [element]) =
      if elements.any opens || opens element then kept opens elements ++ [element] else [] := by
  rw [kept, List.dropWhile_append, ← kept]
  cases open' : elements.any opens with
  | true =>
      have filled : kept opens elements ≠ [] := fun empty => by
        rw [kept_eq_nil_iff, open'] at empty
        cases empty
      rw [if_neg (fun empty => filled (List.isEmpty_iff.mp empty)), Bool.true_or, if_pos rfl]
  | false =>
      have empty : kept opens elements = [] := kept_eq_nil_iff.mpr open'
      rw [if_pos (List.isEmpty_iff.mpr empty), empty]
      cases opening : opens element <;> simp [opening]

theorem head_kept : ∀ element ∈ (kept opens elements).head?, opens element = true := by
  intro element first
  have stops := List.head?_dropWhile_not (fun element => !opens element) elements
  rw [kept] at first
  rw [Option.mem_def.mp first] at stops
  simpa using stops

/-- What is not let through lies ahead, and none of it opens the latch. -/
theorem split_kept (opens : α → Bool) (elements : List α) :
    ∃ passed, elements = passed ++ kept opens elements ∧ ∀ element ∈ passed, opens element = false :=
  ⟨elements.takeWhile fun element => !opens element, List.takeWhile_append_dropWhile.symm,
    fun _ member => by simpa using List.mem_takeWhile_imp member⟩

end Gmv.Library.Latch
