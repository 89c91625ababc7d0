import Gmv.Library.Runs

/-!
# Tasks over shared state

Calls that run at the same time are tasks over one shared state.  A task is what a
call has still to do; each of its steps is atomic, and between two steps any other
task may go on.  A pool begins tasks and advances them one step at a time, in any
order.  The rule below keeps an invariant of a pool from one step of one task.
-/

namespace Gmv.Library.TaskPool

variable {σ τ : Type}

structure Pool (σ τ : Type) where
  shared : σ
  tasks : List τ

/-- A call begins, or the task at an index goes on. -/
inductive Move (τ : Type) where
  | begin (task : τ)
  | advance (index : Nat)
  deriving DecidableEq, Repr

section

variable (work : σ → τ → Option τ × σ)

/-- One move.  A task that has nothing left to do leaves the pool. -/
def step (pool : Pool σ τ) : Move τ → Unit × Pool σ τ
  | .begin task => ((), { pool with tasks := pool.tasks ++ [task] })
  | .advance index =>
      match pool.tasks[index]? with
      | none => ((), pool)
      | some task =>
          let (next, shared) := work pool.shared task
          ((), ⟨shared, pool.tasks.take index ++ next.toList ++ pool.tasks.drop (index + 1)⟩)

/-- A guard of the tasks that begin and of the steps that are taken. -/
def Guarded (begins : τ → Prop) (advances : Pool σ τ → τ → Prop) (pool : Pool σ τ) :
    Move τ → Prop
  | .begin task => begins task
  | .advance index => ∀ task, pool.tasks[index]? = some task → advances pool task

instance {begins : τ → Prop} {advances : Pool σ τ → τ → Prop} [DecidablePred begins]
    [∀ pool, DecidablePred (advances pool)] (pool : Pool σ τ) (move : Move τ) :
    Decidable (Guarded begins advances pool move) :=
  match move with
  | .begin task => inferInstanceAs (Decidable (begins task))
  | .advance index => inferInstanceAs (Decidable (∀ task ∈ pool.tasks[index]?, advances pool task))

end

variable {work : σ → τ → Option τ × σ} {begins : τ → Prop} {advances : Pool σ τ → τ → Prop}

theorem split_of_getElem? {tasks : List τ} {index : Nat} {task : τ}
    (found : tasks[index]? = some task) :
    tasks = tasks.take index ++ task :: tasks.drop (index + 1) := by
  obtain ⟨bound, rfl⟩ := List.getElem?_eq_some_iff.mp found
  rw [List.getElem_cons_drop, List.take_append_drop]

variable (work) in
/-- A move leaves the shared state, or one task works on it. -/
theorem shared_step (pool : Pool σ τ) (move : Move τ) :
    (step work pool move).2.shared = pool.shared ∨
      ∃ index task, move = .advance index ∧ pool.tasks[index]? = some task ∧
        (step work pool move).2.shared = (work pool.shared task).2 := by
  cases move with
  | begin task => exact Or.inl rfl
  | advance index =>
      cases found : pool.tasks[index]? with
      | none => exact Or.inl (by simp only [step, found])
      | some task => exact Or.inr ⟨index, task, rfl, found, by simp only [step, found]⟩

/-- A task begins and takes its first step. -/
theorem final_begin_advance (shared : σ) (tasks : List τ) (task : τ) {index : Nat}
    (moves : List (Move τ)) (last : tasks.length = index) :
    Runs.final (step work) ⟨shared, tasks⟩ (.begin task :: .advance index :: moves) =
      Runs.final (step work) ⟨(work shared task).2, tasks ++ (work shared task).1.toList⟩ moves := by
  subst last
  simp [step]

/-- A task that goes on without others in between comes to its end. -/
inductive Completes (work : σ → τ → Option τ × σ) : σ → τ → σ → Prop where
  | last {shared next : σ} {task : τ} (done : work shared task = (none, next)) :
      Completes work shared task next
  | more {shared next last : σ} {task rest : τ} (goesOn : work shared task = (some rest, next))
      (behind : Completes work next rest last) : Completes work shared task last

/-- Such a task leaves the pool to the others with what it has made of the shared state. -/
theorem Completes.final {shared last : σ} {task : τ} (completes : Completes work shared task last)
    (tasks : List τ) :
    ∃ steps, Runs.final (step work) ⟨shared, tasks ++ [task]⟩
      (List.replicate steps (.advance tasks.length)) = ⟨last, tasks⟩ := by
  induction completes with
  | last done => exact ⟨1, by simp [step, done]⟩
  | more goesOn behind ih =>
      obtain ⟨steps, reached⟩ := ih
      refine ⟨steps + 1, ?_⟩
      rw [List.replicate_succ, Runs.final_cons, ← reached]
      simp [step, goesOn]

section Members

variable {earlier later : List τ} {task other : τ} {rest : Option τ}

theorem mem_rest_or_others (member : other ∈ earlier ++ rest.toList ++ later) :
    other ∈ rest ∨ other ∈ earlier ++ later := by
  rcases List.mem_append.mp member with front | inLater
  · rcases List.mem_append.mp front with inEarlier | isRest
    · exact Or.inr (List.mem_append_left _ inEarlier)
    · exact Or.inl (Option.mem_toList.mp isRest)
  · exact Or.inr (List.mem_append_right _ inLater)

variable (task) in
theorem mem_of_others (member : other ∈ earlier ++ later) : other ∈ earlier ++ task :: later := by
  rcases List.mem_append.mp member with inEarlier | inLater
  · exact List.mem_append_left _ inEarlier
  · exact List.mem_append_right _ (List.mem_cons_of_mem _ inLater)

variable (task) in
/-- A task that has gone on is replaced by its rest. -/
theorem mem_advanced (member : other ∈ earlier ++ rest.toList ++ later) :
    other ∈ rest ∨ other ∈ earlier ++ task :: later :=
  (mem_rest_or_others member).imp_right (mem_of_others task)

theorem mem_advanced_of_ne (member : other ∈ earlier ++ task :: later) (differs : other ≠ task) :
    other ∈ earlier ++ rest.toList ++ later := by
  rcases List.mem_append.mp member with inEarlier | inRest
  · exact List.mem_append_left _ (List.mem_append_left _ inEarlier)
  · rcases List.mem_cons.mp inRest with same | inLater
    · exact absurd same differs
    · exact List.mem_append_right _ inLater

theorem mem_advanced_of_rest (isRest : rest = some other) :
    other ∈ earlier ++ rest.toList ++ later := by
  rw [isRest]
  exact List.mem_append_left _ (List.mem_append_right _ (List.mem_singleton_self _))

/-! What the tasks hold, such as values on their way, in any order. -/

variable {β : Type} (holds : τ → Option β)

theorem held_perm :
    ((earlier ++ task :: later).filterMap holds).Perm
      ((holds task).toList ++ (earlier ++ later).filterMap holds) := by
  have middle : (earlier ++ task :: later).Perm (task :: (earlier ++ later)) := List.perm_middle
  refine (middle.filterMap holds).trans ?_
  rw [List.filterMap_cons]
  cases holds task <;> exact List.Perm.refl _

theorem held_advanced_perm :
    ((earlier ++ rest.toList ++ later).filterMap holds).Perm
      ((rest.bind holds).toList ++ (earlier ++ later).filterMap holds) := by
  cases rest with
  | none => rw [Option.toList_none, List.append_nil]; exact List.Perm.refl _
  | some other =>
      rw [Option.toList_some, List.append_assoc, List.singleton_append]
      exact held_perm holds

end Members

/-! Copies of a value that the shared state and the tasks hold, counted. -/

section Tally

variable {β : Type} [BEq β] (store : σ → List β) (holds : τ → Option β) (value : β)

def tally (pool : Pool σ τ) : Nat :=
  (store pool.shared).count value + (pool.tasks.filterMap holds).count value

/-- The copies that the shared state and one task hold. -/
def tallyHere (shared : σ) (task : Option τ) : Nat :=
  (store shared).count value + (task.bind holds).toList.count value

variable {shared : σ} {earlier later : List τ} {task : τ} {rest : Option τ}

theorem tally_split :
    tally store holds value ⟨shared, earlier ++ task :: later⟩ =
      tallyHere store holds value shared (some task) + ((earlier ++ later).filterMap holds).count value := by
  have split : ((earlier ++ task :: later).filterMap holds).Perm _ := held_perm holds
  rw [tally, split.count_eq, List.count_append, tallyHere, Option.bind_some, Nat.add_assoc]

theorem tally_advanced :
    tally store holds value ⟨shared, earlier ++ rest.toList ++ later⟩ =
      tallyHere store holds value shared rest + ((earlier ++ later).filterMap holds).count value := by
  have split : ((earlier ++ rest.toList ++ later).filterMap holds).Perm _ := held_advanced_perm holds
  rw [tally, split.count_eq, List.count_append, tallyHere, Nat.add_assoc]

/-- What a task holds once is not held by another one. -/
theorem ne_of_tally [LawfulBEq β] {other : τ}
    (once : tally store holds value ⟨shared, earlier ++ task :: later⟩ ≤ 1)
    (isHeld : holds task = some value) (member : other ∈ earlier ++ later) :
    holds other ≠ some value := by
  intro isOther
  have here : 1 ≤ tallyHere store holds value shared (some task) := by
    rw [tallyHere, Option.bind_some, isHeld, Option.toList_some, List.count_singleton_self]
    exact Nat.le_add_left ..
  have there : 0 < ((earlier ++ later).filterMap holds).count value :=
    List.count_pos_iff.mpr (List.mem_filterMap.mpr ⟨other, member, isOther⟩)
  rw [tally_split] at once
  omega

theorem tally_begin {tasks : List τ} (empty : holds task = none) :
    tally store holds value ⟨shared, tasks ++ [task]⟩ = tally store holds value ⟨shared, tasks⟩ := by
  rw [tally, List.filterMap_append, List.filterMap_cons_none empty, List.filterMap_nil, List.append_nil,
    tally]

end Tally

/-- Of the numbers below a bound each is counted once at most, and then the bound is given out. -/
theorem count_fresh {bound number count : Nat} (few : count ≤ (decide (number < bound)).toNat) :
    [bound].count number + count ≤ (decide (number < bound + 1)).toNat := by
  rw [List.count_singleton]
  by_cases same : bound = number
  · subst same
    simp only [Nat.lt_irrefl, decide_false, Bool.toNat_false, Nat.le_zero] at few
    simp [few]
  · rw [beq_false_of_ne same, if_neg Bool.false_ne_true, Nat.zero_add]
    by_cases older : number < bound
    · have still : number < bound + 1 := Nat.lt_succ_of_lt older
      simpa only [older, still] using few
    · simp only [older, decide_false, Bool.toNat_false, Nat.le_zero] at few
      rw [few]
      exact Nat.zero_le _

/-- What begins and steps of single tasks keep, every guarded move keeps. -/
theorem keep_step (Inv : Pool σ τ → Prop)
    (begun : ∀ shared tasks task, Inv ⟨shared, tasks⟩ → begins task →
      Inv ⟨shared, tasks ++ [task]⟩)
    (advanced : ∀ shared earlier task later, Inv ⟨shared, earlier ++ task :: later⟩ →
      advances ⟨shared, earlier ++ task :: later⟩ task →
      Inv ⟨(work shared task).2, earlier ++ (work shared task).1.toList ++ later⟩)
    (pool : Pool σ τ) (move : Move τ) (inv : Inv pool) (guarded : Guarded begins advances pool move) :
    Inv (step work pool move).2 := by
  obtain ⟨shared, tasks⟩ := pool
  cases move with
  | begin task => exact begun shared tasks task inv guarded
  | advance index =>
      cases found : tasks[index]? with
      | none =>
          simp only [step, found]
          exact inv
      | some task =>
          have parts := split_of_getElem? found
          have moved := advanced shared (tasks.take index) task (tasks.drop (index + 1))
            (parts ▸ inv) (parts ▸ guarded task found)
          simp only [step, found]
          exact moved

/-- An invariant that begins and steps of single tasks keep holds all along a run of
guarded moves. -/
theorem invariant_run (Inv : Pool σ τ → Prop)
    (begun : ∀ shared tasks task, Inv ⟨shared, tasks⟩ → begins task →
      Inv ⟨shared, tasks ++ [task]⟩)
    (advanced : ∀ shared earlier task later, Inv ⟨shared, earlier ++ task :: later⟩ →
      advances ⟨shared, earlier ++ task :: later⟩ task →
      Inv ⟨(work shared task).2, earlier ++ (work shared task).1.toList ++ later⟩)
    {pool : Pool σ τ} {moves : List (Move τ)} (start : Inv pool)
    (guarded : ∀ entry ∈ Runs.run (step work) pool moves,
      Guarded begins advances entry.before entry.action) :
    ∀ entry ∈ Runs.run (step work) pool moves, Inv entry.before ∧ Inv entry.after :=
  Runs.invariant_run Inv (Guarded begins advances) (keep_step Inv begun advanced) start guarded

/-- The same invariant holds of the pool at the end. -/
theorem invariant_final (Inv : Pool σ τ → Prop)
    (begun : ∀ shared tasks task, Inv ⟨shared, tasks⟩ → begins task →
      Inv ⟨shared, tasks ++ [task]⟩)
    (advanced : ∀ shared earlier task later, Inv ⟨shared, earlier ++ task :: later⟩ →
      advances ⟨shared, earlier ++ task :: later⟩ task →
      Inv ⟨(work shared task).2, earlier ++ (work shared task).1.toList ++ later⟩)
    {pool : Pool σ τ} {moves : List (Move τ)} (start : Inv pool)
    (guarded : ∀ entry ∈ Runs.run (step work) pool moves,
      Guarded begins advances entry.before entry.action) :
    Inv (Runs.final (step work) pool moves) :=
  Runs.invariant_final Inv (Guarded begins advances) (keep_step Inv begun advanced) start guarded

/-- Moves that begin only such tasks are guarded whatever steps are taken. -/
theorem guarded_run {pool : Pool σ τ} {moves : List (Move τ)}
    (allowed : ∀ task, .begin task ∈ moves → begins task) :
    ∀ entry ∈ Runs.run (step work) pool moves,
      Guarded begins (fun _ _ => True) entry.before entry.action := by
  intro entry member
  have isMove : entry.action ∈ moves := Runs.action_mem member
  cases same : entry.action with
  | begin task => exact allowed task (same ▸ isMove)
  | advance index => exact fun _ _ => True.intro

/-- What every task knows of the moves so far: it knows it when it begins, a step hands the
knowledge on to the rest of the task, and later moves do not take it away. -/
theorem history_tasks (Knows : List (Runs.Transition (Pool σ τ) (Move τ) Unit) → τ → Prop)
    (mono : ∀ past entry task, Knows past task → Knows (past ++ [entry]) task)
    (begun : ∀ past task, begins task → Knows past task)
    (advanced : ∀ past pool index task rest, pool.tasks[index]? = some task → Knows past task →
      advances pool task → (work pool.shared task).1 = some rest →
      Knows (past ++ [Runs.transition (step work) pool (.advance index)]) rest)
    {shared : σ} {moves : List (Move τ)}
    (guarded : ∀ entry ∈ Runs.run (step work) ⟨shared, []⟩ moves,
      Guarded begins advances entry.before entry.action)
    {first later : List (Runs.Transition (Pool σ τ) (Move τ) Unit)}
    {entry : Runs.Transition (Pool σ τ) (Move τ) Unit}
    (split : Runs.run (step work) ⟨shared, []⟩ moves = first ++ entry :: later) :
    ∀ task ∈ entry.before.tasks, Knows first task := by
  have keep : ∀ past pool move, (∀ task ∈ pool.tasks, Knows past task) →
      Guarded begins advances pool move →
      ∀ task ∈ (step work pool move).2.tasks,
        Knows (past ++ [Runs.transition (step work) pool move]) task := by
    intro past pool move known guard task member
    cases move with
    | begin newcomer =>
        rcases List.mem_append.mp member with old | isNew
        · exact mono past _ task (known task old)
        · rw [List.mem_singleton.mp isNew]
          exact begun _ newcomer guard
    | advance index =>
        cases found : pool.tasks[index]? with
        | none =>
            simp only [step, found] at member
            exact mono past _ task (known task member)
        | some worker =>
            have isTask : worker ∈ pool.tasks := List.mem_of_getElem? found
            simp only [step, found] at member
            rcases mem_advanced worker member with isRest | old
            · exact advanced past pool index worker task found (known worker isTask)
                (guard worker found) isRest
            · rw [← split_of_getElem? found] at old
              exact mono past _ task (known task old)
  have start : ∀ task ∈ (⟨shared, []⟩ : Pool σ τ).tasks, Knows [] task := fun task member => by
    cases member
  have history := Runs.history_run (fun past pool => ∀ task ∈ pool.tasks, Knows past task)
    (Guarded begins advances) keep start guarded split
  simpa only [List.nil_append] using history

end Gmv.Library.TaskPool
