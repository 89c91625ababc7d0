import Mathlib.Data.List.Perm.Subperm
import Mathlib.Data.List.Range

/-!
# Numbers that overtake one another

The numbers below `n` arrive, each at least once, in an order that is nearly their own: a number is overtaken only
by the few that come next to it.  So what has arrived is complete up to a bounded distance behind the last arrival,
and a number that is still missing has few above it that are not.
-/

namespace Gmv.Library.Overtaking

variable {n : ℕ} {reach span : ℕ} {arrived rest : List (Fin n)} {number other : Fin n}

/-- A number arrives before any that is `reach` or more above it does, and its copies arrive before any that is
`span` or more above it does.  What has arrived before stands in front, the last arrival first. -/
def Follows (reach span : ℕ) : List (Fin n) → List (Fin n) → Prop
  | _, [] => True
  | arrived, number :: rest =>
      (∀ other ∈ arrived, other.val + 1 < number.val + span ∧
        (number ∈ arrived ∨ other.val < number.val + reach)) ∧ Follows reach span (number :: arrived) rest

def decideFollows (reach span : ℕ) : (arrived rest : List (Fin n)) → Decidable (Follows reach span arrived rest)
  | _, [] => .isTrue trivial
  | arrived, number :: rest =>
      have := decideFollows reach span (number :: arrived) rest
      inferInstanceAs (Decidable (_ ∧ _))

instance (arrived rest : List (Fin n)) : Decidable (Follows reach span arrived rest) :=
  decideFollows reach span arrived rest

/-- While a number is missing, nothing that is `reach` or more above it has arrived. -/
theorem Follows.lt_of_missing (follows : Follows reach span arrived rest) (comes : number ∈ rest)
    (missing : number ∉ arrived) : ∀ other ∈ arrived, other.val < number.val + reach := by
  induction rest generalizing arrived with
  | nil => cases comes
  | cons first rest ih =>
      obtain ⟨here, later⟩ := follows
      intro other member
      by_cases same : number = first
      · subst same
        exact (here other member).2.resolve_left missing
      · have inRest : number ∈ rest := (List.mem_cons.mp comes).resolve_left same
        have still : number ∉ first :: arrived := by simp [same, missing]
        exact ih later inRest still other (List.mem_cons_of_mem _ member)

/-- When a number arrives, all that are `reach` or more below it have arrived. -/
theorem Follows.mem_of_far (follows : Follows reach span arrived (number :: rest))
    (covers : ∀ other, other ∈ arrived ∨ other ∈ number :: rest) (positive : 0 < reach)
    (far : other.val + reach ≤ number.val) : other ∈ arrived := by
  by_contra missing
  have different : other ≠ number := by
    rintro rfl
    omega
  have inRest : other ∈ rest :=
    (List.mem_cons.mp ((covers other).resolve_left missing)).resolve_left different
  have still : other ∉ number :: arrived := by simp [different, missing]
  have near := follows.2.lt_of_missing inRest still number List.mem_cons_self
  omega

/-- Fewer than `bound` numbers fit between zero and it. -/
theorem length_lt_of_between {numbers : List ℕ} {bound : ℕ} (distinct : numbers.Nodup) (positive : 0 < bound)
    (between : ∀ number ∈ numbers, 0 < number ∧ number < bound) : numbers.length < bound := by
  have inside : numbers ⊆ List.range' 1 (bound - 1) := fun number member => by
    have bounds := between number member
    exact List.mem_range'_1.mpr ⟨bounds.1, by omega⟩
  have few := (distinct.subperm inside).length_le
  rw [List.length_range'] at few
  omega

/-- All numbers below `count` are as many as they are. -/
theorem le_length_of_covers {numbers : List ℕ} {count : ℕ} (covers : ∀ number < count, number ∈ numbers) :
    count ≤ numbers.length := by
  have inside : List.range count ⊆ numbers := fun number member => covers number (List.mem_range.mp member)
  have many := (List.nodup_range.subperm inside).length_le
  rwa [List.length_range] at many

end Gmv.Library.Overtaking
