import Gmv.Library.TaskProgress
import Gmv.Session.AuthLocks
import Mathlib.Data.Finset.Max

/-!
# Every batch of lookups can come back

A batch waits for the lock of a key only while another one holds it.  Among the batches
that wait, the one that waits for the greatest key waits for a batch that does not wait;
so some batch can always go on, and every step brings a batch nearer to its end.
-/

namespace Gmv.Session.AuthCache

open Gmv.Library Gmv.Library.TaskPool Gmv.Library.KeyedLocks

/-- The lookups of a batch that is on its way or has come back. -/
def Task.batch : Task → Option (List AuthCacheKey)
  | .getOrLoadMany lookups _ => some lookups
  | .filterRequested call _ | .acquire call _ | .lockOwned call _ _ _ | .filterMissing call _ _
  | .readOauths call _ | .takeNow call _ _ | .insertRows call _ _ _ | .measure call
  | .listOldest call _ | .evict call _ | .unlock call _ | .dropLock call _
  | .removeLocks call _ => some call.requested
  | .cleanupExpired after | .retainEntries _ after | .retainLocks after => after.map Call.requested
  | .answer requested _ _ | .returned requested _ => some requested
  | .removeExpired _ next => next.batch
  | _ => none

def Task.Returned (task : Task) : Prop := ∃ requested answers, task = .returned requested answers

/-- The reads of a task succeed. -/
def Task.Succeeds : Task → Prop
  | .getOrLoadMany _ reads => ∀ read ∈ reads, read = true
  | .filterRequested call _ | .acquire call _ | .lockOwned call _ _ _ | .filterMissing call _ _
  | .readOauths call _ | .takeNow call _ _ | .insertRows call _ _ _ =>
      ∀ read ∈ call.reads, read = true
  | .unlock _ loaded | .dropLock _ loaded => loaded = true
  | .removeExpired _ next => next.Succeeds
  | _ => True

/-- How far a task is from its end: the part that it is in, and what is left of that. -/
def Task.rank : Task → ℕ ×ₗ ℕ ×ₗ ℕ
  | .getOrLoadMany .. => toLex (15, toLex (0, 0))
  | .filterRequested _ todo => toLex (14, toLex (2 * todo.length, 0))
  | .acquire _ todo => toLex (13, toLex (2 * todo.length, 0))
  | .lockOwned _ _ _ todo => toLex (13, toLex (2 * todo.length + 1, 0))
  | .filterMissing _ todo _ => toLex (12, toLex (2 * todo.length, 0))
  | .readOauths _ todo => toLex (11, toLex (todo.length, 0))
  | .takeNow _ rows todo => toLex (11, toLex (todo.length, rows.length + 2))
  | .insertRows _ _ rows todo => toLex (11, toLex (todo.length, rows.length + 1))
  | .cleanupExpired _ => toLex (10, toLex (0, 0))
  | .retainEntries .. => toLex (9, toLex (0, 0))
  | .retainLocks _ => toLex (8, toLex (0, 0))
  | .measure _ => toLex (7, toLex (0, 0))
  | .listOldest .. => toLex (6, toLex (0, 0))
  | .evict _ oldest => toLex (5, toLex (oldest.length, 0))
  | .unlock call _ => toLex (4, toLex (2 * call.held.length, 0))
  | .dropLock call _ => toLex (4, toLex (2 * (call.held.length - 1) + 1, 0))
  | .removeLocks _ todo => toLex (3, toLex (todo.length, 0))
  | .answer _ todo _ => toLex (2, toLex (2 * todo.length, 0))
  | .removeExpired _ next =>
      toLex ((ofLex next.rank).1, toLex ((ofLex (ofLex next.rank).2).1 + 1, 0))
  | .invalidateDevice _ => toLex (1, toLex (0, 0))
  | .returned .. | .invalidateLocks _ | .tick _ | .update .. => toLex (0, toLex (0, 0))

/-- A task that waits for a lock that is not free. -/
def Task.Waits (state : State) : Task → Prop
  | .lockOwned _ _ lock _ => state.loadLocks.locked lock = true
  | _ => False

section

variable {state : State} {task : Task}

theorem reads_tail {reads : List Bool} (succeed : ∀ read ∈ reads, read = true) :
    ∀ read ∈ reads.tail, read = true := fun read member =>
  succeed read (List.mem_of_mem_tail member)

theorem headD_of_succeed {reads : List Bool} (succeed : ∀ read ∈ reads, read = true) :
    reads.headD true = true := by
  cases reads with
  | nil => rfl
  | cons read rest => exact succeed read (List.mem_cons_self ..)

theorem succeeds_work (succeeds : task.Succeeds) :
    ∀ next ∈ (work state task).1, next.Succeeds := by
  fun_cases work state task
  -- a read succeeds
  case case16 call key todo chunk rest first rows =>
    simp only [Option.mem_some_iff, forall_eq']
    exact reads_tail succeeds
  -- a read that fails
  case case17 call key todo fails => exact absurd (headD_of_succeed succeeds) fails
  all_goals simp_all [Task.Succeeds, Call.addMissing]

/-- A batch stays the batch that it is until it has come back. -/
theorem batch_work (succeeds : task.Succeeds) (unfinished : ¬task.Returned) :
    (work state task).1.bind Task.batch = task.batch := by
  fun_cases work state task
  -- the cleanup of a batch or that of the cleanup task
  case case23 after => cases after <;> rfl
  case case39 requested answers => exact absurd ⟨requested, answers, rfl⟩ unfinished
  all_goals simp_all [Task.Succeeds, Task.batch, Call.addMissing]

/-- A task that need not wait comes nearer to its end. -/
theorem rank_work (goesOn : ¬task.Waits state) :
    ∀ next ∈ (work state task).1, next.rank < task.rank := by
  fun_cases work state task
  -- a chunk leaves fewer keys to read
  case case16 call key todo chunk rest first rows =>
    have fewer : rest.length < todo.length + 1 := by
      simp only [rest, List.length_drop, List.length_cons, authDbBatchLimit]
      omega
    simp [Task.rank, Prod.Lex.lt_iff]
    omega
  all_goals simp_all [Task.rank, Prod.Lex.lt_iff, Call.addMissing, Task.Waits]
  all_goals omega

end

/-! ## Some batch can go on -/

theorem looseClaims_not_held (task : Task) : ∀ claim ∈ task.looseClaims, claim.held = false := by
  induction task with
  | lockOwned call key lock todo => simp [Task.looseClaims]
  | dropLock call loaded => cases held : call.held <;> simp [Task.looseClaims, held]
  | removeExpired key next ih => exact ih
  | _ => simp [Task.looseClaims]

/-- Only the locks that a task has acquired are held. -/
theorem holds_of_claim {task : Task} {claim : Claim AuthCacheKey} (isClaim : claim ∈ task.claims)
    (held : claim.held = true) : task.Holds claim.key := by
  rcases List.mem_append.mp isClaim with loose | acquired
  · rw [looseClaims_not_held task claim loose] at held
    cases held
  · obtain ⟨lock, isHeld, rfl⟩ := List.mem_map.mp acquired
    exact List.mem_map_of_mem isHeld

/-- A task that waits for a lock waits for a task of the pool, which holds it. -/
theorem exists_holder {pool : Pool State Task} (orderly : Orderly pool) {task : Task}
    (member : task ∈ pool.tasks) (waits : task.Waits pool.shared) :
    ∃ key, task.awaited = some key ∧ ∃ holder ∈ pool.tasks, holder.Holds key := by
  cases task with
  | lockOwned call key lock todo =>
      have taken : pool.shared.loadLocks.locked lock = true := waits
      have one := orderly.sound.single lock
      rw [taken, Bool.toNat_true] at one
      obtain ⟨claim, isClaim, holds⟩ :=
        List.countP_pos_iff.mp (Nat.lt_of_lt_of_eq Nat.one_pos one.symm)
      obtain ⟨held, same⟩ : claim.held = true ∧ claim.lock = lock := by
        simpa [Claim.holds] using holds
      have waited : pool.shared.loadLocks.find key = some lock :=
        orderly.sound.current ⟨key, lock, 2, false⟩
          (List.mem_flatMap.mpr ⟨_, member, List.mem_append_left _ (List.mem_singleton_self _)⟩)
      have found : pool.shared.loadLocks.find claim.key = some lock := by
        rw [← same]
        exact orderly.sound.current claim isClaim
      obtain ⟨holder, isHolder, isHeld⟩ := List.mem_flatMap.mp isClaim
      refine ⟨key, rfl, holder, isHolder, ?_⟩
      rw [orderly.sound.apart waited found]
      exact holds_of_claim isHeld held
  | _ => exact waits.elim

/-- What has come back holds no lock and waits for none. -/
theorem Task.Returned.not_holds {task : Task} (returned : task.Returned) (key : AuthCacheKey) :
    ¬task.Holds key := by
  obtain ⟨requested, answers, rfl⟩ := returned
  exact List.not_mem_nil

/-- Unless all its tasks have come back, some task of a pool can go on. -/
theorem exists_goesOn {pool : Pool State Task} (orderly : Orderly pool)
    (some' : ∃ task ∈ pool.tasks, ¬task.Returned) :
    ∃ task ∈ pool.tasks, ¬task.Returned ∧ ¬task.Waits pool.shared := by
  by_contra none
  have allWait (task : Task) (member : task ∈ pool.tasks) (unfinished : ¬task.Returned) :
      task.Waits pool.shared :=
    Classical.not_not.mp fun goesOn => none ⟨task, member, unfinished, goesOn⟩
  have awaited (task : Task) (member : task ∈ pool.tasks) (unfinished : ¬task.Returned) :=
    exists_holder orderly member (allWait task member unfinished)
  -- the task that waits for the greatest key waits for one that waits for a greater key
  let keys := (pool.tasks.filterMap Task.awaited).toFinset
  have mem_keys {task : Task} {key : AuthCacheKey} (member : task ∈ pool.tasks)
      (awaits : task.awaited = some key) : key ∈ keys :=
    List.mem_toFinset.mpr (List.mem_filterMap.mpr ⟨task, member, awaits⟩)
  obtain ⟨first, isFirst, unfinished⟩ := some'
  obtain ⟨key, awaits, -⟩ := awaited first isFirst unfinished
  obtain ⟨greatest, isGreatest, greater⟩ := keys.exists_max_image id ⟨key, mem_keys isFirst awaits⟩
  obtain ⟨task, isTask, isAwaited⟩ := List.mem_filterMap.mp (List.mem_toFinset.mp isGreatest)
  have waiting : ¬task.Returned := by
    rintro ⟨requested, answers, rfl⟩
    cases isAwaited
  obtain ⟨same, isSame, holder, isHolder, holds⟩ := awaited task isTask waiting
  obtain rfl : same = greatest := Option.some.inj (isSame.symm.trans isAwaited)
  obtain ⟨later, awaitsLater, -⟩ :=
    awaited holder isHolder fun returned => returned.not_holds same holds
  have above : same < later := held_lt_awaited (orderly.ascending holder isHolder) holds awaitsLater
  exact absurd (greater later (mem_keys isHolder awaitsLater)) (not_le_of_gt above)

/-- Every batch of a pool can come back. -/
def CanReturn (pool : Pool State Task) : Prop :=
  ∃ order : List Nat,
    (∀ task ∈ (Runs.final (step work) pool (order.map .advance)).tasks, task.Returned) ∧
    (Runs.final (step work) pool (order.map .advance)).tasks.filterMap Task.batch =
      pool.tasks.filterMap Task.batch

theorem canReturn {pool : Pool State Task} (orderly : Orderly pool)
    (succeed : ∀ task ∈ pool.tasks, task.Succeeds) : CanReturn pool := by
  let Inv (other : Pool State Task) : Prop :=
    Orderly other ∧ (∀ task ∈ other.tasks, task.Succeeds) ∧
      other.tasks.filterMap Task.batch = pool.tasks.filterMap Task.batch
  have advanced : ∀ shared earlier task later, Inv ⟨shared, earlier ++ task :: later⟩ →
      ¬task.Returned → Inv ⟨(work shared task).2, earlier ++ (work shared task).1.toList ++ later⟩ := by
    rintro shared earlier task later ⟨orderly, succeed, same⟩ unfinished
    have succeeds : task.Succeeds := succeed task (List.mem_append_right _ (List.mem_cons_self ..))
    refine ⟨orderly.advance, fun other member => ?_, ?_⟩
    · rcases mem_advanced task member with isRest | old
      · exact succeeds_work succeeds other isRest
      · exact succeed other old
    · rw [← same, List.filterMap_append, List.filterMap_append, List.filterMap_append,
        List.filterMap_cons, ← batch_work succeeds unfinished]
      cases (work shared task).1 with
      | none => simp
      | some next => cases batch : next.batch <;> simp [batch]
  have goesDown : ∀ other, Inv other → (∃ task ∈ other.tasks, ¬task.Returned) →
      ∃ task ∈ other.tasks, ¬task.Returned ∧
        ∀ next ∈ (work other.shared task).1, next.rank < task.rank := by
    intro other inv some'
    obtain ⟨task, member, unfinished, goesOn⟩ := exists_goesOn inv.1 some'
    exact ⟨task, member, unfinished, rank_work goesOn⟩
  obtain ⟨order, last, returned⟩ :=
    exists_finished Inv Task.Returned advanced goesDown pool ⟨orderly, succeed, rfl⟩
  exact ⟨order, returned, last.2.2⟩

end Gmv.Session.AuthCache
