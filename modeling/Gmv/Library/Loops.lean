import Mathlib.Data.List.Basic

/-!
# Loops

A turn of a loop goes on with the next state or leaves the loop with a result.  A loop is run for
as many turns as it is given, and says nothing when they do not suffice.  Where every turn brings
a measure down and keeps the answer, more turns than the measure suffice, and the loop leaves with
the answer that it began with.
-/

namespace Gmv.Library.Loops

variable {σ ρ : Type}

inductive Turn (σ ρ : Type) where
  | again (state : σ)
  | leave (result : ρ)

/-- The loop from a state on.  A turn that says nothing had a loop of its own that was given too
few turns. -/
def run (turn : σ → Option (Turn σ ρ)) : Nat → σ → Option ρ
  | 0, _ => none
  | fuel + 1, state =>
      match turn state with
      | none => none
      | some (.leave result) => some result
      | some (.again next) => run turn fuel next

variable {turn : σ → Option (Turn σ ρ)}

theorem run_leave {state : σ} {result : ρ} (left : turn state = some (.leave result)) (fuel : Nat) :
    run turn (fuel + 1) state = some result := by
  rw [run, left]

theorem run_again {state next : σ} (goesOn : turn state = some (.again next)) (fuel : Nat) :
    run turn (fuel + 1) state = run turn fuel next := by
  rw [run, goesOn]

/-- What a turn has to do: leave with the answer, or go on to a smaller state with the same one. -/
inductive Keeps (answer : σ → ρ) (measure : σ → Nat) (state : σ) : Turn σ ρ → Prop where
  | leave {result : ρ} (right : result = answer state) : Keeps answer measure state (.leave result)
  | again {next : σ} (same : answer next = answer state) (less : measure next < measure state) :
      Keeps answer measure state (.again next)

/-- A loop whose turns keep the answer and bring the measure down ends with the answer, within as
many turns as the measure says. -/
theorem run_eq_answer {answer : σ → ρ} {measure : σ → Nat}
    (keeps : ∀ state, ∃ outcome, turn state = some outcome ∧ Keeps answer measure state outcome)
    {fuel : Nat} {state : σ} (enough : measure state < fuel) :
    run turn fuel state = some (answer state) := by
  induction fuel generalizing state with
  | zero => exact absurd enough (Nat.not_lt_zero _)
  | succ fuel ih =>
      obtain ⟨outcome, turned, kept⟩ := keeps state
      cases kept with
      | leave right => rw [run_leave turned, right]
      | again same less =>
          rw [run_again turned, ih (Nat.lt_of_lt_of_le less (Nat.le_of_lt_succ enough)), same]

end Gmv.Library.Loops
