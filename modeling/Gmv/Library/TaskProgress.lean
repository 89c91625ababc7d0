import Gmv.Library.TaskPool
import Mathlib.Data.Multiset.DershowitzManna

/-!
# Tasks that can be finished

A pool in which some unfinished task can always take a step that lowers its rank can be
brought to its end: there is an order of steps after which every task is finished.  The
steps of a task may replace it by a task of a lower rank or end it.
-/

namespace Gmv.Library.TaskPool

variable {σ τ ρ : Type} [Preorder ρ] {work : σ → τ → Option τ × σ} {rank : τ → ρ}

/-- The ranks of the tasks of a pool. -/
def ranks (rank : τ → ρ) (pool : Pool σ τ) : Multiset ρ := ↑(pool.tasks.map rank)

/-- A step that lowers the rank of a task lowers the ranks of its pool. -/
theorem ranks_advanced {shared : σ} {earlier later : List τ} {task : τ}
    (lower : ∀ next ∈ (work shared task).1, rank next < rank task) :
    Multiset.IsDershowitzMannaLT
      (ranks rank ⟨(work shared task).2, earlier ++ (work shared task).1.toList ++ later⟩)
      (ranks rank ⟨shared, earlier ++ task :: later⟩) := by
  refine ⟨↑((earlier ++ later).map rank), ↑((work shared task).1.toList.map rank), {rank task},
    by simp, ?_, ?_, ?_⟩
  · simp only [ranks, Multiset.coe_add, Multiset.coe_eq_coe, ← List.map_append, List.append_assoc]
    exact (List.perm_append_comm.append_left earlier).map rank
  · rw [add_comm, Multiset.singleton_add, Multiset.cons_coe, ranks, Multiset.coe_eq_coe]
    exact List.perm_middle.map rank
  · intro low member
    obtain ⟨next, isNext, rfl⟩ := List.mem_map.mp (Multiset.mem_coe.mp member)
    exact ⟨rank task, Multiset.mem_singleton_self _, lower next (Option.mem_toList.mp isNext)⟩

/-- When some unfinished task can always go down, some order of steps finishes all tasks. -/
theorem exists_finished [WellFoundedLT ρ] (Inv : Pool σ τ → Prop) (Finished : τ → Prop)
    (advanced : ∀ shared earlier task later, Inv ⟨shared, earlier ++ task :: later⟩ →
      ¬Finished task →
      Inv ⟨(work shared task).2, earlier ++ (work shared task).1.toList ++ later⟩)
    (goesDown : ∀ pool, Inv pool → (∃ task ∈ pool.tasks, ¬Finished task) →
      ∃ task ∈ pool.tasks, ¬Finished task ∧
        ∀ next ∈ (work pool.shared task).1, rank next < rank task)
    (pool : Pool σ τ) (inv : Inv pool) :
    ∃ order : List Nat, Inv (Runs.final (step work) pool (order.map .advance)) ∧
      ∀ task ∈ (Runs.final (step work) pool (order.map .advance)).tasks, Finished task := by
  induction ranks : ranks rank pool using
    (Multiset.wellFounded_isDershowitzMannaLT (α := ρ)).induction generalizing pool with
  | _ bag ih =>
      subst ranks
      by_cases some' : ∃ task ∈ pool.tasks, ¬Finished task
      · obtain ⟨task, member, unfinished, lower⟩ := goesDown pool inv some'
        obtain ⟨index, found⟩ := List.getElem?_of_mem member
        obtain ⟨shared, tasks⟩ := pool
        have parts := split_of_getElem? found
        obtain ⟨order, last⟩ := ih _ (parts ▸ ranks_advanced lower) _
          (advanced shared _ task _ (parts ▸ inv) unfinished) rfl
        refine ⟨index :: order, ?_⟩
        simp only [List.map_cons, Runs.final_cons, step, found]
        exact last
      · exact ⟨[], inv, fun task member => Classical.not_not.mp fun unfinished =>
          some' ⟨task, member, unfinished⟩⟩

end Gmv.Library.TaskPool
