import Gmv.Library.Trimming
import Gmv.Session.AuthReturns

/-!
# The device auth cache stays within its capacity

A batch puts the rows that it has read into the cache and then trims it.  Others read, trim, clean up and
invalidate in between, so a batch may measure a cache that is not there any more when it removes what it has
listed.  A batch whose read fails comes back without trimming; with no more lookups than one read takes it has
put nothing in by then.
-/

namespace Gmv.Session.AuthCache

open Gmv.Library Gmv.Library.TaskPool Gmv.Library.Trimming

/-- One read takes so many keys, or no read fails. -/
def ReadsWhole (reads : List Bool) (keys : Nat) : Prop :=
  keys ≤ authDbBatchLimit ∨ false ∉ reads

instance (reads : List Bool) (keys : Nat) : Decidable (ReadsWhole reads keys) :=
  inferInstanceAs (Decidable (_ ∨ _))

/-- A batch that has put rows in and may still fail has no read that fails. -/
def Task.Fits : Task → Prop
  | .getOrLoadMany lookups reads => ReadsWhole reads lookups.length
  | .filterRequested call todo => ReadsWhole call.reads (call.missing.length + todo.length)
  | .acquire call _ | .lockOwned call _ _ _ => ReadsWhole call.reads call.missing.length
  | .filterMissing call todo missing => ReadsWhole call.reads (missing.length + todo.length)
  | .readOauths call todo =>
      todo.length ≤ call.missing.length ∧
        (todo.length = call.missing.length ∧ todo.length ≤ authDbBatchLimit ∨ todo = [] ∨ false ∉ call.reads)
  | .takeNow call rows todo | .insertRows call _ rows todo =>
      rows.length + todo.length ≤ call.missing.length ∧ (todo = [] ∨ false ∉ call.reads)
  | .removeExpired _ next => next.Fits
  | _ => True

/-- The rows that a batch has put in and has not measured yet. -/
def Task.owed : Task → Nat
  | .readOauths call todo => call.missing.length - todo.length
  | .takeNow call rows todo | .insertRows call _ rows todo =>
      call.missing.length - (rows.length + todo.length)
  | .cleanupExpired (some call) | .retainEntries _ (some call) | .retainLocks (some call)
  | .measure call => call.missing.length
  | .removeExpired _ next => next.owed
  | _ => 0

def Task.trimmer : Task → Option (Trimmer AuthCacheKey)
  | .listOldest call excess => some ⟨.list excess, call.missing.length⟩
  | .evict call oldest => some ⟨.remove oldest, call.missing.length⟩
  | .removeExpired _ next => next.trimmer
  | _ => none

/-- The rows that a batch has put in and is not through with trimming. -/
def Task.untrimmed : Task → Nat
  | .readOauths call todo => call.missing.length - todo.length
  | .takeNow call rows todo | .insertRows call _ rows todo =>
      call.missing.length - (rows.length + todo.length)
  | .cleanupExpired (some call) | .retainEntries _ (some call) | .retainLocks (some call)
  | .measure call | .listOldest call _ | .evict call _ => call.missing.length
  | .removeExpired _ next => next.untrimmed
  | _ => 0

theorem Task.untrimmed_eq (task : Task) :
    task.untrimmed = task.owed + added task.trimmer.toList := by
  induction task with
  | cleanupExpired after => cases after <;> rfl
  | retainEntries now after => cases after <;> rfl
  | retainLocks after => cases after <;> rfl
  | removeExpired key next ih => exact ih
  | listOldest call excess => simp [untrimmed, owed, trimmer]
  | evict call oldest => simp [untrimmed, owed, trimmer]
  | _ => rfl

section

variable {state : State} {task : Task} {owed : Nat} {trimmers : List (Trimmer AuthCacheKey)}

theorem length_keys (state : State) : state.entries.keys.length = state.entries.entries.length := by
  rw [AList.keys, List.keys, List.length_map]

theorem keys_retain (keep : AuthCacheKey → AuthCacheEntry → Bool) :
    (state.retain keep).entries.keys.Sublist state.entries.keys :=
  List.filter_sublist.map Sigma.fst

theorem keys_removeExpired (key : AuthCacheKey) :
    (state.removeExpired key).entries.keys.Sublist state.entries.keys := by
  rw [State.removeExpired]
  split
  · exact List.Sublist.refl _
  · split
    · rw [AList.keys_erase]
      exact List.erase_sublist
    · exact List.Sublist.refl _

@[simp]
theorem removeExpired_maxEntries (key : AuthCacheKey) :
    (state.removeExpired key).maxEntries = state.maxEntries := by
  rw [State.removeExpired]
  split
  · rfl
  · split <;> rfl

theorem length_sortedKeys_le (keys : List AuthCacheKey) : (sortedKeys keys).length ≤ keys.length := by
  rw [sortedKeys, List.length_insertionSort]
  exact (List.dedup_sublist keys).length_le

theorem ReadsWhole.mono {reads : List Bool} {fewer keys : Nat} (whole : ReadsWhole reads keys)
    (few : fewer ≤ keys) : ReadsWhole reads fewer :=
  whole.imp_left few.trans

theorem fits_work (fits : task.Fits) : ∀ next ∈ (work state task).1, next.Fits := by
  fun_cases work state task
  -- the keys that are locked are those that were missing
  case case3 call missing =>
    simp only [Option.mem_some_iff, forall_eq']
    exact fits.mono (Nat.le_trans (length_sortedKeys_le _) (Nat.le_add_right ..))
  -- a chunk that is read leaves nothing to read, or no read fails
  case case16 call key todo chunk rest first rows =>
    simp only [Option.mem_some_iff, forall_eq']
    have parts : rows.length + rest.length = (key :: todo).length := by
      rw [List.length_map, ← List.length_append, List.take_append_drop]
    refine ⟨parts ▸ fits.1, ?_⟩
    rcases fits.2 with ⟨-, few⟩ | isNil | succeed
    · exact Or.inl (List.drop_eq_nil_of_le few)
    · cases isNil
    · exact Or.inr fun failing => succeed (List.mem_of_mem_tail failing)
  all_goals simp_all [Task.Fits, Call.addMissing]
  -- one key less is to look at
  case case11 call missing => exact fits.imp_right Or.inr
  case case20 call now row rows todo => omega
  all_goals exact fits.mono (by omega)

/-- The cache and what a task and the others have put in or still remove. -/
def Holds (state : State) (task : Option Task) (owed : Nat) (trimmers : List (Trimmer AuthCacheKey)) : Prop :=
  Trimmed state.maxEntries state.entries.keys (task.elim 0 Task.owed + owed)
    ((task.bind Task.trimmer).toList ++ trimmers)

theorem holds_work (fits : task.Fits) (holds : Holds state (some task) owed trimmers) :
    Holds (work state task).2 (work state task).1 owed trimmers := by
  fun_cases work state task
  all_goals simp_all [Task.Fits, Call.addMissing, Holds, Task.owed, Task.trimmer]
  case case16 call key todo chunk rest rows succeeds =>
    have parts : rows.length + rest.length = todo.length + 1 := by
      rw [List.length_map, ← List.length_append, List.take_append_drop, List.length_cons]
    rw [parts]
    exact holds
  -- the first read fails before anything has been put in
  case case17 call key todo fails =>
    have first : todo.length + 1 = call.missing.length := by
      rcases fits.2 with ⟨first, -⟩ | succeed
      · exact first
      · cases reads : call.reads with
        | nil => simp [reads] at fails
        | cons read later => simp_all
    rwa [first, Nat.sub_self, Nat.zero_add] at holds
  case case20 call now row rows todo =>
    have filled := holds.fill row.key (List.erase_sublist (a := row.key))
    have one : call.missing.length - (rows.length + 1 + todo.length) + owed + 1 =
        call.missing.length - (rows.length + todo.length) + owed := by omega
    rw [one, ← AList.keys_insert] at filled
    exact filled
  case case21 after => cases after <;> exact holds
  case case22 now after =>
    have kept := holds.shrink (keys_retain fun _ entry => decide (now < entry.expiresAt))
    cases after <;> exact kept
  case case23 after => cases after <;> simpa [Task.owed, Task.trimmer] using holds
  case case24 call excess few =>
    refine holds.enough ?_
    rw [length_keys]
    omega
  case case25 call excess above =>
    have above : state.maxEntries < state.entries.keys.length := by
      rw [length_keys]
      omega
    have measured := holds.measure above
    rw [length_keys] at measured
    exact measured
  case case26 call excess oldest =>
    have sorted : oldest.Perm state.entries.entries := List.perm_insertionSort ..
    have parts : state.entries.keys.Perm
        ((oldest.map Sigma.fst).take excess ++ (oldest.drop excess).map Sigma.fst) := by
      rw [← List.map_take, ← List.map_append, List.take_append_drop]
      exact (sorted.map Sigma.fst).symm
    refine holds.list parts ?_
    rw [List.length_map, List.length_drop, sorted.length_eq, length_keys]
  case case27 call => exact holds.leave
  case case28 call key oldest => exact holds.remove state.entries.keys_nodup
  case case29 call loaded held => cases loaded <;> simpa [Task.owed, Task.trimmer] using holds
  case case40 key next => exact holds.shrink (keys_removeExpired key)
  case case41 deviceId retained => exact holds.shrink (keys_retain _)

end

/-! ## Runs -/

/-- The number of rows that the tasks have put in and are not through with trimming. -/
def untrimmed (tasks : List Task) : Nat := (tasks.map Task.untrimmed).sum

/-- What a pool keeps while batches come and go. -/
structure Trims (maxEntries : Nat) (pool : Pool State Task) : Prop where
  capacity : pool.shared.maxEntries = maxEntries
  fits : ∀ task ∈ pool.tasks, task.Fits
  trimmed : Trimmed maxEntries pool.shared.entries.keys (pool.tasks.map Task.owed).sum
    (pool.tasks.filterMap Task.trimmer)

theorem maxEntries_work (state : State) (task : Task) :
    (work state task).2.maxEntries = state.maxEntries := by
  fun_cases work state task
  all_goals first
    | rfl
    | exact removeExpired_maxEntries ..

theorem untrimmed_eq (tasks : List Task) :
    untrimmed tasks = (tasks.map Task.owed).sum + added (tasks.filterMap Task.trimmer) := by
  induction tasks with
  | nil => rfl
  | cons task tasks ih =>
      rw [untrimmed, List.map_cons, List.sum_cons, ← untrimmed, ih, List.map_cons, List.sum_cons,
        task.untrimmed_eq, List.filterMap_cons]
      cases task.trimmer <;> simp <;> omega

theorem trims_begin {maxEntries : Nat} {shared : State} {tasks : List Task} {task : Task}
    (trims : Trims maxEntries ⟨shared, tasks⟩) (isCall : task.isCall = true) (fits : task.Fits) :
    Trims maxEntries ⟨shared, tasks ++ [task]⟩ := by
  have nothing : task.owed = 0 ∧ task.trimmer = none := by
    rcases Task.isCall_cases isCall with ⟨lookups, reads, rfl⟩ | rfl | ⟨deviceId, rfl⟩ |
      ⟨elapsed, rfl⟩ | ⟨deviceId, oauth, rfl⟩ <;> exact ⟨rfl, rfl⟩
  refine ⟨trims.capacity, ?_, ?_⟩
  · intro other member
    rcases List.mem_append.mp member with old | isNew
    · exact trims.fits other old
    · exact List.mem_singleton.mp isNew ▸ fits
  · simpa [nothing] using trims.trimmed

theorem trims_advance {maxEntries : Nat} {shared : State} {earlier later : List Task} {task : Task}
    (trims : Trims maxEntries ⟨shared, earlier ++ task :: later⟩) :
    Trims maxEntries
      ⟨(work shared task).2, earlier ++ (work shared task).1.toList ++ later⟩ := by
  have isTask : task ∈ earlier ++ task :: later := List.mem_append_right _ List.mem_cons_self
  have fits := trims.fits task isTask
  have here : Holds shared (some task) ((earlier ++ later).map Task.owed).sum
      ((earlier ++ later).filterMap Task.trimmer) := by
    have split := trims.trimmed.perm (held_perm Task.trimmer)
    have owed : ((earlier ++ task :: later).map Task.owed).sum =
        task.owed + ((earlier ++ later).map Task.owed).sum := by
      simp only [List.map_append, List.map_cons, List.sum_append, List.sum_cons]
      omega
    rw [Holds, trims.capacity]
    exact owed ▸ split
  have next := holds_work fits here
  refine ⟨(maxEntries_work ..).trans trims.capacity, fun other member => ?_, ?_⟩
  · rcases mem_advanced task member with isRest | old
    · exact fits_work fits other isRest
    · exact trims.fits other old
  · have split := next.perm (held_advanced_perm Task.trimmer).symm
    have owed : ((earlier ++ (work shared task).1.toList ++ later).map Task.owed).sum =
        (work shared task).1.elim 0 Task.owed + ((earlier ++ later).map Task.owed).sum := by
      cases (work shared task).1 with
      | none => simp
      | some next =>
          simp only [List.map_append, List.sum_append, Option.toList_some, List.map_cons, List.map_nil,
            List.sum_cons, List.sum_nil, Option.elim_some]
          omega
    rw [maxEntries_work, trims.capacity] at split
    exact owed ▸ split

/-- Whatever goes on at the same time, the cache holds at most its capacity and the rows of the batches that have
put them in and are not through with trimming; each batch asks for no more than one read takes, as the callers
do, or none of its reads fails. -/
theorem entries_within_capacity {maxEntries now : Nat} {oauth : String → Option GmvOauth}
    {moves : List (Move Task)} (calls : ∀ task, .begin task ∈ moves → task.isCall = true)
    (whole : ∀ lookups reads, .begin (.getOrLoadMany lookups reads) ∈ moves → ReadsWhole reads lookups.length) :
    let pool := Runs.final (step work) ⟨.init maxEntries oauth now, []⟩ moves
    pool.shared.entries.entries.length ≤ maxEntries + untrimmed pool.tasks := by
  intro pool
  have allowed : ∀ task, .begin task ∈ moves → task.isCall = true ∧ task.Fits := by
    intro task begun
    refine ⟨calls task begun, ?_⟩
    rcases Task.isCall_cases (calls task begun) with ⟨lookups, reads, rfl⟩ | rfl | ⟨deviceId, rfl⟩ |
      ⟨elapsed, rfl⟩ | ⟨deviceId, oauth, rfl⟩
    · exact whole lookups reads begun
    all_goals exact True.intro
  have start : Trims maxEntries ⟨.init maxEntries oauth now, []⟩ :=
    ⟨rfl, fun task member => (List.not_mem_nil member).elim, Trimmed.empty maxEntries⟩
  have trims : Trims maxEntries pool :=
    invariant_final (Trims maxEntries) (fun _ _ _ trims allowed => trims_begin trims allowed.1 allowed.2)
      (fun _ _ _ _ trims _ => trims_advance trims) start (guarded_run allowed)
  have few := trims.trimmed.1
  rw [length_keys] at few
  rw [untrimmed_eq]
  omega

theorem entries_within_capacity_two :
    let moves : List (Move Task) :=
      [.begin (.getOrLoadMany [⟨"a", "r"⟩] []), .begin (.getOrLoadMany [⟨"b", "r"⟩] [false])] ++
        List.replicate 10 (.advance 0) ++ List.replicate 9 (.advance 1)
    let pool := Runs.final (step work) ⟨.init 0 (fun _ => none) 0, []⟩ moves
    pool.shared.entries.entries.length ≤ 0 + untrimmed pool.tasks :=
  entries_within_capacity
    (by
      intro task begun
      simp only [List.mem_append, List.mem_cons, List.mem_replicate, Move.begin.injEq, reduceCtorEq,
        and_false, or_false, List.not_mem_nil] at begun
      rcases begun with rfl | rfl <;> rfl)
    (by
      intro lookups reads begun
      simp only [List.mem_append, List.mem_cons, List.mem_replicate, Move.begin.injEq, reduceCtorEq,
        Task.getOrLoadMany.injEq, and_false, or_false, List.not_mem_nil] at begun
      rcases begun with ⟨rfl, rfl⟩ | ⟨rfl, rfl⟩ <;> exact Or.inl (by decide))

end Gmv.Session.AuthCache
