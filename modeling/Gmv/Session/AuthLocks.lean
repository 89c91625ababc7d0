import Gmv.Session.AuthCache

/-!
# The load locks of the auth cache

As long as no device is invalidated, the map keeps the lock of every key that a batch has
looked up, so one batch at a time loads a key; and since each batch locks its keys in
ascending order, batches never wait for each other in a circle.
-/

namespace Gmv.Session.AuthCache

open Gmv.Library Gmv.Library.TaskPool Gmv.Library.KeyedLocks

/-! ## What a task has to do with the locks -/

/-- The locks that a task has acquired and not yet released. -/
def Task.heldLocks : Task → List (AuthCacheKey × Nat)
  | .filterRequested call _ | .acquire call _ | .lockOwned call _ _ _ | .filterMissing call _ _
  | .readOauths call _ | .takeNow call _ _ | .insertRows call _ _ _ | .measure call
  | .listOldest call _ | .evict call _ | .unlock call _ => call.held
  | .cleanupExpired after | .retainEntries _ after | .retainLocks after => after.elim [] Call.held
  | .dropLock call _ => call.held.tail
  | .removeExpired _ next => next.heldLocks
  | _ => []

def Task.Holds (task : Task) (key : AuthCacheKey) : Prop := key ∈ task.heldLocks.map Prod.fst

/-- The references of a task to locks that it does not hold: to the one that it waits for,
and the last one to a lock that it has just let go. -/
def Task.looseClaims : Task → List (Claim AuthCacheKey)
  | .lockOwned _ key lock _ => [⟨key, lock, 2, false⟩]
  | .dropLock call _ => call.held.head?.toList.map fun (key, lock) => ⟨key, lock, 1, false⟩
  | .removeExpired _ next => next.looseClaims
  | _ => []

def heldClaim (held : AuthCacheKey × Nat) : Claim AuthCacheKey := ⟨held.1, held.2, 2, true⟩

def Task.claims (task : Task) : List (Claim AuthCacheKey) :=
  task.looseClaims ++ task.heldLocks.map heldClaim

theorem mem_claims_of_held {task : Task} {held : AuthCacheKey × Nat} (isHeld : held ∈ task.heldLocks) :
    heldClaim held ∈ task.claims := List.mem_append_right _ (List.mem_map_of_mem isHeld)

/-- The key whose lock a task waits for. -/
def Task.awaited : Task → Option AuthCacheKey
  | .lockOwned _ key _ _ => some key
  | _ => none

/-- The part of a task that invalidates a device. -/
def Task.invalidates : Task → Bool
  | .invalidateDevice _ | .invalidateLocks _ => true
  | .removeExpired _ next => next.invalidates
  | _ => false

/-- The keys that a batch has locked and those that it will lock ascend. -/
def Task.Ascending : Task → Prop
  | .filterRequested call _ => call.held = []
  | .acquire call todo => (call.held.map Prod.fst ++ todo).Pairwise (· < ·)
  | .lockOwned call key _ todo => (call.held.map Prod.fst ++ key :: todo).Pairwise (· < ·)
  | .removeExpired _ next => next.Ascending
  | _ => True

/-- What a task waits for is above everything that it holds. -/
theorem held_lt_awaited {task : Task} {name later : AuthCacheKey} (ascends : task.Ascending)
    (holds : task.Holds name) (awaits : task.awaited = some later) : name < later := by
  cases task with
  | lockOwned call key lock todo =>
      cases awaits
      exact (List.pairwise_append.mp ascends).2.2 name holds _ (List.mem_cons_self ..)
  | _ => cases awaits

theorem sortedKeys_ascending (keys : List AuthCacheKey) : (sortedKeys keys).Pairwise (· < ·) := by
  have sorted : (sortedKeys keys).Pairwise (· ≤ ·) := List.pairwise_insertionSort ..
  have distinct : (sortedKeys keys).Nodup :=
    (List.perm_insertionSort _ _).nodup_iff.mpr keys.nodup_dedup
  exact (sorted.and distinct).imp fun both => lt_of_le_of_ne both.1 both.2

/-! ## One step -/

section

variable {state : State} {task : Task}

/-- What a task leaves to do does not begin an invalidation. -/
theorem invalidates_work (quiet : task.invalidates = false) :
    ∀ next ∈ (work state task).1, next.invalidates = false := by
  fun_cases work state task
  all_goals simp_all [Task.invalidates]

theorem ascending_work (ascends : task.Ascending) :
    ∀ next ∈ (work state task).1, next.Ascending := by
  fun_cases work state task
  case case3 call missing =>
    have none : call.held = [] := ascends
    simpa [Task.Ascending, none] using sortedKeys_ascending call.missing
  all_goals simp_all [Task.Ascending]

/-- The tasks whose next step is about the locks. -/
def Task.locks : Task → Bool
  | .acquire .. | .lockOwned .. | .retainLocks _ | .unlock .. | .dropLock .. | .removeLocks ..
  | .invalidateLocks _ => true
  | _ => false

/-- The other steps leave the locks alone, and the task has the same claims to them. -/
theorem work_frame (state : State) (other : task.locks = false) :
    (work state task).2.loadLocks = state.loadLocks ∧
      (work state task).1.toList.flatMap Task.claims = task.claims := by
  fun_cases work state task
  all_goals try cases other
  all_goals constructor
  all_goals first
    | rfl
    | simp [Task.claims, Task.looseClaims, Task.heldLocks]

/-- A step keeps the books of the locks. -/
theorem sound_work {others : List (Claim AuthCacheKey)} (quiet : task.invalidates = false)
    (sound : Sound state.loadLocks (task.claims ++ others)) :
    Sound (work state task).2.loadLocks
      ((work state task).1.toList.flatMap Task.claims ++ others) := by
  by_cases other : task.locks = false
  · obtain ⟨sameLocks, sameClaims⟩ := work_frame state other
    rw [sameLocks, sameClaims]
    exact sound
  cases task with
  | acquire call todo =>
      cases todo with
      | nil => simpa [work, Task.claims, Task.looseClaims, Task.heldLocks] using sound
      | cons key todo =>
          have found := sound.entry key (by decide : 0 < 2)
          simpa [work, Task.claims, Task.looseClaims, Task.heldLocks] using found
  | lockOwned call key lock todo =>
      cases taken : state.loadLocks.locked lock with
      | true => simpa [work, taken] using sound
      | false =>
          have locked := (Sound.lock sound taken rfl).perm List.perm_middle.symm
          simpa [work, taken, Task.claims, Task.looseClaims, Task.heldLocks, heldClaim] using locked
  | retainLocks after =>
      have kept : Sound (work state (.retainLocks after)).2.loadLocks
          ((Task.retainLocks after).claims ++ others) :=
        sound.retain fun claim member => by simpa using sound.strongCount_gt member
      cases after <;> simpa [work, Task.claims, Task.looseClaims, Task.heldLocks] using kept
  | unlock call loaded =>
      cases held : call.held with
      | nil =>
          cases loaded <;>
            simpa [work, held, Task.claims, Task.looseClaims, Task.heldLocks] using sound
      | cons first rest =>
          have claims : (Task.unlock call loaded).claims =
              heldClaim first :: rest.map heldClaim := by
            simp [Task.claims, Task.looseClaims, Task.heldLocks, held]
          rw [claims] at sound
          have free := Sound.unlock sound rfl (by decide : 1 < 2)
          simpa [work, held, Task.claims, Task.looseClaims, Task.heldLocks, heldClaim] using free
  | dropLock call loaded =>
      cases held : call.held with
      | nil => simpa [work, held, Task.claims, Task.looseClaims, Task.heldLocks] using sound
      | cons first rest =>
          have claims : (Task.dropLock call loaded).claims =
              ⟨first.1, first.2, 1, false⟩ :: rest.map heldClaim := by
            simp [Task.claims, Task.looseClaims, Task.heldLocks, held]
          rw [claims] at sound
          have dropped := Sound.drop sound rfl
          simpa [work, held, Task.claims, Task.looseClaims, Task.heldLocks] using dropped
  | removeLocks call todo =>
      cases todo with
      | nil => simpa [work, Task.claims, Task.looseClaims, Task.heldLocks] using sound
      | cons key todo =>
          have kept : Sound (work state (.removeLocks call (key :: todo))).2.loadLocks
              ((Task.removeLocks call (key :: todo)).claims ++ others) := by
            refine sound.retain fun claim member => ?_
            have several := sound.strongCount_gt member
            simp only [Bool.or_eq_true, bne_iff_ne]
            exact Or.inr (Nat.ne_of_gt several)
          simpa [work, Task.claims, Task.looseClaims, Task.heldLocks] using kept
  | invalidateLocks deviceId => cases quiet
  | _ => exact absurd rfl other

end

/-! ## Every run -/

/-- What the pool keeps to as long as no device is invalidated. -/
structure Orderly (pool : Pool State Task) : Prop where
  quiet : ∀ task ∈ pool.tasks, task.invalidates = false
  ascending : ∀ task ∈ pool.tasks, task.Ascending
  sound : Sound pool.shared.loadLocks (pool.tasks.flatMap Task.claims)

/-- A call waits for a lock that another one holds. -/
def WaitsFor (pool : Pool State Task) (one other : Nat) : Prop :=
  ∃ call key lock todo, pool.tasks[one]? = some (.lockOwned call key lock todo) ∧
    ∃ task name, pool.tasks[other]? = some task ∧ (name, lock) ∈ task.heldLocks

/-- One call at a time is between acquiring and releasing the lock of a key, the map keeps
the lock meanwhile, and no call waits for itself in the end. -/
structure SingleFlight (pool : Pool State Task) : Prop where
  exclusive : pool.tasks.Pairwise fun one other => ∀ key, ¬(one.Holds key ∧ other.Holds key)
  kept : ∀ task ∈ pool.tasks, ∀ held ∈ task.heldLocks,
    pool.shared.loadLocks.find held.1 = some held.2
  noCircle : ∀ call, ¬Relation.TransGen (WaitsFor pool) call call

namespace Orderly

variable {pool : Pool State Task}

theorem init (maxEntries : Nat) (oauth : String → Option GmvOauth) (now : Nat) :
    Orderly ⟨State.init maxEntries oauth now, []⟩ where
  quiet _ member := by cases member
  ascending _ member := by cases member
  sound := Sound.empty

/-- A call begins. -/
theorem begin {shared : State} {tasks : List Task} {task : Task} (orderly : Orderly ⟨shared, tasks⟩)
    (isCall : task.isCall = true) (quiet : task.invalidates = false) :
    Orderly ⟨shared, tasks ++ [task]⟩ where
  quiet other member := by
    rcases List.mem_append.mp member with old | new
    · exact orderly.quiet other old
    · rw [List.mem_singleton.mp new]; exact quiet
  ascending other member := by
    rcases List.mem_append.mp member with old | new
    · exact orderly.ascending other old
    · rw [List.mem_singleton.mp new]
      rcases Task.isCall_cases isCall with ⟨_, _, rfl⟩ | rfl | ⟨_, rfl⟩ | ⟨_, rfl⟩ | ⟨_, _, rfl⟩ <;>
        exact trivial
  sound := by
    have none : task.claims = [] := by
      rcases Task.isCall_cases isCall with ⟨_, _, rfl⟩ | rfl | ⟨_, rfl⟩ | ⟨_, rfl⟩ | ⟨_, _, rfl⟩ <;>
        rfl
    simpa [none] using orderly.sound

/-- A task goes on. -/
theorem advance {shared : State} {earlier later : List Task} {task : Task}
    (orderly : Orderly ⟨shared, earlier ++ task :: later⟩) :
    Orderly ⟨(work shared task).2, earlier ++ (work shared task).1.toList ++ later⟩ := by
  have isHere : task ∈ earlier ++ task :: later := List.mem_append_right _ (List.mem_cons_self ..)
  refine ⟨fun other member => ?_, fun other member => ?_, ?_⟩
  · rcases mem_advanced task member with isRest | old
    · exact invalidates_work (orderly.quiet task isHere) other isRest
    · exact orderly.quiet other old
  · rcases mem_advanced task member with isRest | old
    · exact ascending_work (orderly.ascending task isHere) other isRest
    · exact orderly.ascending other old
  · have before : ((earlier ++ task :: later).flatMap Task.claims).Perm
        (task.claims ++ (earlier ++ later).flatMap Task.claims) := by
      have middle : (earlier ++ task :: later).Perm (task :: (earlier ++ later)) := List.perm_middle
      simpa using middle.flatMap_right Task.claims
    have after : ((earlier ++ (work shared task).1.toList ++ later).flatMap Task.claims).Perm
        ((work shared task).1.toList.flatMap Task.claims ++
          (earlier ++ later).flatMap Task.claims) := by
      rw [List.append_assoc, List.flatMap_append, List.flatMap_append, List.flatMap_append]
      exact List.perm_append_comm_assoc ..
    exact (sound_work (orderly.quiet task isHere) (orderly.sound.perm before)).perm after.symm

theorem exclusive (orderly : Orderly pool) :
    pool.tasks.Pairwise fun one other => ∀ key, ¬(one.Holds key ∧ other.Holds key) := by
  refine (List.pairwise_flatMap.mp orderly.sound.exclusive).2.imp fun apart key => ?_
  rintro ⟨oneHolds, otherHolds⟩
  obtain ⟨one, isOne, rfl⟩ := List.mem_map.mp oneHolds
  obtain ⟨other, isOther, sameKey⟩ := List.mem_map.mp otherHolds
  exact apart _ (mem_claims_of_held isOne) _ (mem_claims_of_held isOther) ⟨rfl, rfl, sameKey.symm⟩

theorem kept (orderly : Orderly pool) : ∀ task ∈ pool.tasks, ∀ held ∈ task.heldLocks,
    pool.shared.loadLocks.find held.1 = some held.2 := by
  intro task member held isHeld
  exact orderly.sound.current _ (List.mem_flatMap.mpr ⟨task, member, mem_claims_of_held isHeld⟩)

theorem noCircle (orderly : Orderly pool) (call : Nat) :
    ¬Relation.TransGen (WaitsFor pool) call call := by
  refine not_transGen_self (fun index => pool.tasks[index]?.bind Task.awaited) ?_ call
  rintro one other ⟨call, key, lock, todo, isOne, task, name, isOther, isHeld⟩
  have inOther : task ∈ pool.tasks := List.mem_of_getElem? isOther
  have waited : pool.shared.loadLocks.find key = some lock :=
    orderly.sound.current _ (List.mem_flatMap.mpr
      ⟨_, List.mem_of_getElem? isOne, List.mem_append_left _ (List.mem_singleton_self _)⟩)
  have sameKey : name = key := orderly.sound.apart (orderly.kept task inOther _ isHeld) waited
  refine ⟨key, by rw [isOne]; rfl, fun later awaits => ?_⟩
  rw [isOther, Option.bind_some] at awaits
  rw [← sameKey]
  exact held_lt_awaited (orderly.ascending task inOther) (List.mem_map_of_mem isHeld) awaits

theorem singleFlight (orderly : Orderly pool) : SingleFlight pool :=
  ⟨orderly.exclusive, orderly.kept, orderly.noCircle⟩

end Orderly

/-- Any number of batches, cleanups and changes of the table, in any order and without an
invalidation, load each key one at a time and never wait for each other in a circle. -/
theorem single_flight (maxEntries : Nat) (oauth : String → Option GmvOauth) (now : Nat)
    (moves : List (Move Task))
    (calls : ∀ task, .begin task ∈ moves → task.isCall = true ∧ task.invalidates = false) :
    ∀ entry ∈ Runs.run (step work) ⟨State.init maxEntries oauth now, []⟩ moves,
      SingleFlight entry.after := by
  have guarded : ∀ entry ∈ Runs.run (step work) ⟨State.init maxEntries oauth now, []⟩ moves,
      Guarded (fun task => task.isCall = true ∧ task.invalidates = false) (fun _ _ => True)
        entry.before entry.action := by
    intro entry member
    cases isAction : entry.action with
    | begin task => exact calls task (isAction ▸ Runs.action_mem member)
    | advance index => exact fun _ _ => trivial
  intro entry member
  have orderly := invariant_run Orderly (fun _ _ _ orderly calls => orderly.begin calls.1 calls.2)
    (fun _ _ _ _ orderly _ => orderly.advance) (Orderly.init maxEntries oauth now) guarded entry member
  exact orderly.2.singleFlight

def firstDevice : AuthCacheKey := ⟨"34020000001110000001", "3402000000"⟩
def secondDevice : AuthCacheKey := ⟨"34020000001110000002", "3402000000"⟩

/-- Two batches over the same two devices, named in opposite orders. -/
def crossedBatches : List (Move Task) :=
  [.begin (.getOrLoadMany [firstDevice, secondDevice] []),
    .begin (.getOrLoadMany [secondDevice, firstDevice] [])] ++
    (List.replicate 6 [.advance 0, .advance 1]).flatten

/-- The second batch waits for the first one. -/
theorem single_flight_crossedBatches :
    WaitsFor (Runs.final (step work) ⟨State.init 40000 (fun _ => none) 0, []⟩ crossedBatches) 1 0 ∧
      ∀ entry ∈ Runs.run (step work) ⟨State.init 40000 (fun _ => none) 0, []⟩ crossedBatches,
        SingleFlight entry.after := by
  refine ⟨⟨⟨[secondDevice, firstDevice], [], [firstDevice, secondDevice], []⟩, firstDevice, 0,
    [secondDevice], by decide +kernel, .acquire ⟨[firstDevice, secondDevice], [],
      [firstDevice, secondDevice], [(firstDevice, 0)]⟩ [secondDevice], firstDevice,
    by decide +kernel, List.mem_singleton_self _⟩, ?_⟩
  exact single_flight 40000 (fun _ => none) 0 crossedBatches (by
    simp [crossedBatches, Task.isCall, Task.invalidates])

end Gmv.Session.AuthCache
