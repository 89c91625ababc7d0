import Mathlib.Data.List.Basic

/-!
# Since

In a history something holds since it began when no later entry has ended it.
-/

namespace Gmv.Library

variable {τ : Type} (Begins Ends : τ → Prop)

/-- An entry of the history begins it, and none behind that one ends it. -/
def Since (past : List τ) : Prop :=
  ∃ before entry later, past = before ++ entry :: later ∧ Begins entry ∧ ∀ other ∈ later, ¬Ends other

namespace Since

variable {Begins Ends}

theorem not_nil : ¬Since Begins Ends [] := by
  rintro ⟨before, entry, later, split, -⟩
  exact List.append_ne_nil_of_right_ne_nil before (List.cons_ne_nil entry later) split.symm

theorem concat_iff {past : List τ} {entry : τ} :
    Since Begins Ends (past ++ [entry]) ↔ Begins entry ∨ Since Begins Ends past ∧ ¬Ends entry := by
  constructor
  · rintro ⟨before, begun, later, split, begins, lasts⟩
    rcases later.eq_nil_or_concat' with rfl | ⟨rest, last, rfl⟩
    · obtain ⟨-, same⟩ := List.append_inj' split rfl
      cases same
      exact Or.inl begins
    · rw [← List.cons_append, ← List.append_assoc] at split
      obtain ⟨same, sameLast⟩ := List.append_inj' split rfl
      cases sameLast
      refine Or.inr ⟨⟨before, begun, rest, same, begins, fun other member => ?_⟩, ?_⟩
      · exact lasts other (List.mem_append_left _ member)
      · exact lasts entry (List.mem_append_right _ (List.mem_singleton_self _))
  · rintro (begins | ⟨⟨before, begun, later, rfl, begins, lasts⟩, stays⟩)
    · exact ⟨past, entry, [], rfl, begins, fun _ member => (nomatch member)⟩
    · refine ⟨before, begun, later ++ [entry], by rw [List.append_assoc]; rfl, begins, fun other member => ?_⟩
      rcases List.mem_append.mp member with old | new
      · exact lasts other old
      · rwa [List.mem_singleton.mp new]

end Since

end Gmv.Library
