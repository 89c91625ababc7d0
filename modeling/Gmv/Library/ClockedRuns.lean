import Gmv.Library.Runs

/-!
# Runs with a clock

When every step advances a clock, the transitions of a run are told apart by the
time before them, and those between two of them are those with a time in between.
What holds at one point of a run and no longer at a later one ended for the last
time somewhere in between.
-/

namespace Gmv.Library.Runs

variable {σ α ρ : Type} {step : σ → α → ρ × σ} {state : σ} {actions : List α}

section Clock

variable {clock : σ → Nat} (ticks : ∀ state action, clock state < clock (step state action).2)

include ticks

theorem clock_le_of_mem_run {entry : Transition σ α ρ}
    (member : entry ∈ run step state actions) : clock state ≤ clock entry.before := by
  induction actions generalizing state with
  | nil => cases member
  | cons action rest ih =>
      rcases List.mem_cons.mp member with rfl | later
      · exact Nat.le_refl _
      · exact Nat.le_of_lt (Nat.lt_of_lt_of_le (ticks state action) (ih later))

theorem clocks_increase (state : σ) (actions : List α) :
    (run step state actions).Pairwise fun first second =>
      clock first.before < clock second.before := by
  induction actions generalizing state with
  | nil => exact List.Pairwise.nil
  | cons action rest ih =>
      rw [run_cons, List.pairwise_cons]
      refine ⟨fun entry member => ?_, ih _⟩
      exact Nat.lt_of_lt_of_le (ticks state action) (clock_le_of_mem_run ticks member)

/-- The transitions before one of a run are the earlier ones. -/
theorem mem_before_iff {first later : List (Transition σ α ρ)} {entry other : Transition σ α ρ}
    (split : run step state actions = first ++ entry :: later) :
    other ∈ first ↔
      other ∈ run step state actions ∧ clock other.before < clock entry.before := by
  have increases := clocks_increase ticks state actions
  rw [split, List.pairwise_append, List.pairwise_cons] at increases
  rw [split, List.mem_append, List.mem_cons]
  constructor
  · intro member
    exact ⟨.inl member, increases.2.2 other member entry (List.mem_cons_self ..)⟩
  · rintro ⟨member | rfl | member, earlier⟩
    · exact member
    · exact absurd earlier (Nat.lt_irrefl _)
    · exact absurd earlier (Nat.lt_asymm (increases.2.1.1 other member))

/-- The transitions behind one of a run are the later ones. -/
theorem mem_behind_iff {first later : List (Transition σ α ρ)} {entry other : Transition σ α ρ}
    (split : run step state actions = first ++ entry :: later) :
    other ∈ later ↔
      other ∈ run step state actions ∧ clock entry.before < clock other.before := by
  have increases := clocks_increase ticks state actions
  rw [split, List.pairwise_append, List.pairwise_cons] at increases
  rw [split, List.mem_append, List.mem_cons]
  constructor
  · intro member
    exact ⟨.inr (.inr member), increases.2.1.1 other member⟩
  · rintro ⟨member | rfl | member, after⟩
    · exact absurd after
        (Nat.lt_asymm (increases.2.2 other member entry (List.mem_cons_self ..)))
    · exact absurd after (Nat.lt_irrefl _)
    · exact member

/-- The transitions of a run are told apart by the clock. -/
theorem eq_of_clock_eq {first second : Transition σ α ρ}
    (firstMember : first ∈ run step state actions) (secondMember : second ∈ run step state actions)
    (same : clock first.before = clock second.before) : first = second := by
  obtain ⟨earlier, later, split⟩ := List.append_of_mem secondMember
  rw [split, List.mem_append, List.mem_cons] at firstMember
  rcases firstMember with inEarlier | rfl | inLater
  · have before := ((mem_before_iff ticks split).mp inEarlier).2
    exact absurd same (Nat.ne_of_lt before)
  · rfl
  · have after := ((mem_behind_iff ticks split).mp inLater).2
    exact absurd same.symm (Nat.ne_of_lt after)

/-- What lies between two transitions of a run. -/
theorem exists_between {earlier entry : Transition σ α ρ}
    (earlierMember : earlier ∈ run step state actions) (member : entry ∈ run step state actions)
    (before : clock earlier.before < clock entry.before) :
    ∃ between later rest, run step earlier.after rest = between ++ entry :: later ∧
      ∀ other, other ∈ between ↔ other ∈ run step state actions ∧
        clock earlier.before < clock other.before ∧ clock other.before < clock entry.before := by
  obtain ⟨first, behind, split⟩ := List.append_of_mem earlierMember
  obtain ⟨rest, rfl⟩ := run_behind split
  have inBehind := (mem_behind_iff ticks split).mpr ⟨member, before⟩
  obtain ⟨between, later, behindSplit⟩ := List.append_of_mem inBehind
  refine ⟨between, later, rest, behindSplit, fun other => ?_⟩
  rw [mem_before_iff ticks behindSplit, mem_behind_iff ticks split, and_assoc]

end Clock

/-- Up to a transition before which a property fails, it has always failed, or there
was a last step that ended it. -/
theorem never_or_last_end (Holds : σ → Prop) {first later : List (Transition σ α ρ)}
    {entry : Transition σ α ρ} (split : run step state actions = first ++ entry :: later)
    (ended : ¬Holds entry.before) :
    (¬Holds state ∧ ∀ other ∈ first, ¬Holds other.after) ∨
      ∃ before ending after, first = before ++ ending :: after ∧ Holds ending.before ∧
        ¬Holds ending.after ∧ ∀ other ∈ after, ¬Holds other.after := by
  induction actions generalizing state first with
  | nil => simp at split
  | cons action rest ih =>
      cases first with
      | nil =>
          rw [run_cons, List.nil_append, List.cons.injEq] at split
          rw [← split.1] at ended
          exact .inl ⟨ended, fun _ member => absurd member List.not_mem_nil⟩
      | cons head others =>
          rw [run_cons, List.cons_append, List.cons.injEq] at split
          obtain ⟨rfl, behind⟩ := split
          rcases ih behind with ⟨next, never⟩ | ⟨before, ending, after, rfl, held, gone, never⟩
          · by_cases start : Holds state
            · exact .inr ⟨[], _, others, rfl, start, next, never⟩
            · refine .inl ⟨start, ?_⟩
              rw [List.forall_mem_cons]
              exact ⟨next, never⟩
          · exact .inr ⟨_ :: before, ending, after, rfl, held, gone, never⟩

end Gmv.Library.Runs
