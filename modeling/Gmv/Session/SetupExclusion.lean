import Gmv.Library.TaskPool
import Gmv.Session.DeviceReset
import Gmv.Session.MediaRequest

/-!
# The set-up locks of streams and talks

`play_live`, `play_back`, `download` and `talk_start` look the lock of a device, a channel and a
mode up, lock it, ask whether there is such a stream already, and set one up if there is none.  A
reset of the device takes its locks out of the map, also those that a call holds.  Calls exclude
each other as long as nobody looks a lock up while a call still uses one that was taken out.
-/

namespace Gmv.Session.SetupExclusion

open Gmv.Library Gmv.Library.TaskPool Gmv.Library.KeyedLocks
open DeviceReset (Shared)
open MediaRequest (deviceMapGetInviteInfo)

/-! ## Calls -/

inductive Request where
  | playLive
  | playBack
  | download
  | talkStart
  deriving DecidableEq, Repr

def Request.am : Request → AccessMode
  | .playLive => .live
  | .playBack => .back
  | .download => .down
  | .talkStart => .talk

/-- What the media node says of a listed stream, or the database of a running download. -/
inductive Answer where
  | present
  | absent
  | failed
  deriving DecidableEq, Repr

/-- A call, with the answer that it gets, and with what its set-up does to everything but the locks
from one await to the next.  An error, or a client that has gone, is a set-up that ends early. -/
structure Call where
  request : Request
  deviceId : String
  channelId : Option String
  /-- The device has a session, and what is checked before the lock is in order. -/
  admitted : Bool
  /-- How often the lock is asked for before the client has gone. -/
  patience : Option Nat
  answer : Answer
  setUp : List (Shared → Shared)

namespace Call

variable (call : Call)

def channel : String := call.channelId.getD call.deviceId

/-- What a call sets up. -/
def target : String × String × AccessMode := (call.deviceId, call.channel, call.request.am)

def key : String := setupLockKey call.deviceId call.channel call.request.am

end Call

/-- What a call has still to do, a reset of a device, or a step of anything else that the server
does. -/
inductive Task where
  | admission (call : Call)
  | streamSetupLock (call : Call)
  | lock (call : Call) (setupLock : Nat) (polls : Option Nat)
  | checkExists (call : Call) (setupLock : Nat)
  | askExists (call : Call) (setupLock : Nat)
  | setUp (call : Call) (setupLock : Nat) (rest : List (Shared → Shared))
  | dropGuard (call : Call) (setupLock : Nat)
  | dropLock (call : Call) (setupLock : Nat)
  | resetDeviceState (deviceId : String)
  | other (change : Shared → Shared)

def talkMapGetByDeviceChannel (cache : Cache) (deviceId channelId : String) : Option TalkSessionState :=
  (cache.talkMap.entries.map Sigma.snd).find? fun talk =>
    talk.deviceId == deviceId && talk.channelId == channelId

section

variable (shared : Shared)

/-- Only `stream_setup_lock` and resets touch the map of the locks. -/
def changeRest (change : Shared → Shared) : Shared :=
  { change shared with setupLocks := shared.setupLocks }

/-- `stream_setup_lock`. -/
def streamSetupLock (deviceId channelId : String) (am : AccessMode) : Nat × Shared :=
  let found := shared.setupLocks.entry (setupLockKey deviceId channelId am)
  (found.1, { shared with setupLocks := found.2.clone found.1 1 })

/-- One step of a task. -/
def work : Task → Option Task × Shared
  | .admission call => (if call.admitted then some (.streamSetupLock call) else none, shared)
  | .streamSetupLock call =>
      let found := streamSetupLock shared call.deviceId call.channel call.request.am
      (some (.lock call found.1 call.patience), found.2)
  | .lock call setupLock polls =>
      if polls = some 0 then (some (.dropLock call setupLock), shared)
      else if shared.setupLocks.locked setupLock then
        (some (.lock call setupLock (polls.map Nat.pred)), shared)
      else
        (some (.checkExists call setupLock),
          { shared with setupLocks := shared.setupLocks.setLocked setupLock true })
  | .checkExists call setupLock =>
      match call.request with
      | .playLive | .playBack =>
          match deviceMapGetInviteInfo shared.cache call.deviceId call.channel call.request.am with
          | none => (some (.setUp call setupLock call.setUp), shared)
          | some _ => (some (.askExists call setupLock), shared)
      | .download => (some (.askExists call setupLock), shared)
      | .talkStart =>
          match talkMapGetByDeviceChannel shared.cache call.deviceId call.channel with
          | none => (some (.setUp call setupLock call.setUp), shared)
          | some _ => (some (.dropGuard call setupLock), shared)
  | .askExists call setupLock =>
      match call.answer with
      | .absent => (some (.setUp call setupLock call.setUp), shared)
      | .present | .failed => (some (.dropGuard call setupLock), shared)
  | .setUp call setupLock [] => (some (.dropGuard call setupLock), shared)
  | .setUp call setupLock (change :: rest) =>
      (some (.setUp call setupLock rest), changeRest shared change)
  -- the guard is dropped first, and then the reference that it borrows
  | .dropGuard call setupLock =>
      (some (.dropLock call setupLock),
        { shared with setupLocks := shared.setupLocks.setLocked setupLock false })
  | .dropLock _ setupLock =>
      (none, { shared with setupLocks := shared.setupLocks.drop setupLock 1 })
  | .resetDeviceState deviceId => (none, shared.resetDeviceState deviceId)
  | .other change => (none, changeRest shared change)

end

/-- The tasks that a server begins. -/
def Task.Begins : Task → Prop
  | .admission _ | .resetDeviceState _ | .other _ => True
  | _ => False

instance : DecidablePred Task.Begins := fun task =>
  match task with
  | .admission _ | .resetDeviceState _ | .other _ => inferInstanceAs (Decidable True)
  | .streamSetupLock _ | .lock _ _ _ | .checkExists _ _ | .askExists _ _ | .setUp _ _ _
  | .dropGuard _ _ | .dropLock _ _ => inferInstanceAs (Decidable False)

def start : Pool Shared Task := ⟨⟨.init, .init, .empty, fun _ => false, fun _ _ found => by cases found⟩, []⟩

/-! ## Exclusion -/

/-- What a call works on between acquiring its lock and letting it go. -/
def Task.inside : Task → Option (String × String × AccessMode)
  | .checkExists call _ | .askExists call _ | .setUp call _ _ | .dropGuard call _ => some call.target
  | _ => none

/-- What a call sets up that has found nothing there. -/
def Task.passed : Task → Option (String × String × AccessMode)
  | .setUp call _ _ => some call.target
  | _ => none

/-- No two tasks are at the same target. -/
def Apart (at' : Task → Option (String × String × AccessMode)) (tasks : List Task) : Prop :=
  tasks.Pairwise fun one other => ∀ target, ¬(at' one = some target ∧ at' other = some target)

/-- At most one call is between acquiring and releasing, and no two calls have passed the check. -/
structure Exclusion (pool : Pool Shared Task) : Prop where
  inside : Apart Task.inside pool.tasks
  passed : Apart Task.passed pool.tasks

/-- What a task has to do with a lock. -/
def Task.claim : Task → Option (Claim String)
  | .lock call setupLock _ | .dropLock call setupLock => some ⟨call.key, setupLock, 1, false⟩
  | .checkExists call setupLock | .askExists call setupLock | .setUp call setupLock _
  | .dropGuard call setupLock => some ⟨call.key, setupLock, 1, true⟩
  | _ => none

/-- Whoever uses a lock of the key that is looked up uses the one that is in the map. -/
def Careful (pool : Pool Shared Task) : Task → Prop
  | .streamSetupLock call => ∀ other ∈ pool.tasks, ∀ claim ∈ other.claim, claim.key = call.key →
      pool.shared.setupLocks.find call.key = some claim.lock
  | _ => True

instance (pool : Pool Shared Task) : DecidablePred (Careful pool) := fun task =>
  match task with
  | .streamSetupLock call =>
      inferInstanceAs (Decidable (∀ other ∈ pool.tasks, ∀ claim ∈ other.claim, claim.key = call.key →
        pool.shared.setupLocks.find call.key = some claim.lock))
  | .admission _ | .lock _ _ _ | .checkExists _ _ | .askExists _ _ | .setUp _ _ _ | .dropGuard _ _
  | .dropLock _ _ | .resetDeviceState _ | .other _ => inferInstanceAs (Decidable True)

section

variable {shared : Shared} {task : Task} {tasks : List Task}

theorem claim_of_inside {target : String × String × AccessMode} (inside : task.inside = some target) :
    ∃ lock, task.claim = some ⟨setupLockKey target.1 target.2.1 target.2.2, lock, 1, true⟩ := by
  cases task with
  | checkExists _ lock | askExists _ lock | setUp _ lock _ | dropGuard _ lock =>
      cases inside
      exact ⟨lock, rfl⟩
  | _ => cases inside

theorem inside_of_passed {target : String × String × AccessMode} (passed : task.passed = some target) :
    task.inside = some target := by
  cases task with
  | setUp => exact passed
  | _ => cases passed

theorem exclusion_of_tracked (tracked : Tracked shared.setupLocks (tasks.filterMap Task.claim)) :
    Exclusion ⟨shared, tasks⟩ := by
  have inside : Apart Task.inside tasks := by
    refine (List.pairwise_filterMap.mp tracked.exclusive).imp ?_
    rintro one other apart target ⟨oneInside, otherInside⟩
    obtain ⟨first, isFirst⟩ := claim_of_inside oneInside
    obtain ⟨second, isSecond⟩ := claim_of_inside otherInside
    exact apart _ isFirst _ isSecond ⟨rfl, rfl, rfl⟩
  exact ⟨inside, inside.imp fun apart target both =>
    apart target ⟨inside_of_passed both.1, inside_of_passed both.2⟩⟩

/-- The tasks whose next step is about the locks. -/
def Task.locks : Task → Bool
  | .streamSetupLock _ | .lock _ _ _ | .dropGuard _ _ | .dropLock _ _ | .resetDeviceState _ => true
  | _ => false

/-- The other steps leave the locks alone, and the task has the same claim to them. -/
theorem work_frame (other : task.locks = false) :
    (work shared task).2.setupLocks = shared.setupLocks ∧
      (work shared task).1.bind Task.claim = task.claim := by
  fun_cases work shared task
  all_goals simp_all [Task.locks, Task.claim, changeRest]

/-- A step keeps the books of the locks. -/
theorem tracked_work {others : List (Claim String)}
    (careful : ∀ call, task = .streamSetupLock call → ∀ claim ∈ others, claim.key = call.key →
      shared.setupLocks.find call.key = some claim.lock)
    (tracked : Tracked shared.setupLocks (task.claim.toList ++ others)) :
    Tracked (work shared task).2.setupLocks
      (((work shared task).1.bind Task.claim).toList ++ others) := by
  by_cases other : task.locks = false
  · obtain ⟨sameLocks, sameClaim⟩ := @work_frame shared _ other
    rw [sameLocks, sameClaim]
    exact tracked
  cases task with
  | streamSetupLock call => exact tracked.entry call.key Nat.one_pos (careful call rfl)
  | lock call setupLock polls =>
      rw [work]
      split
      · exact tracked
      split
      · exact tracked
      · next free => exact tracked.lock (Bool.eq_false_iff.mpr free) rfl
  | dropGuard call setupLock => exact tracked.unlock rfl
  | dropLock call setupLock => exact tracked.drop rfl
  | resetDeviceState deviceId => exact tracked.retain _
  | _ => exact absurd rfl other

theorem claim_of_begins (begins : task.Begins) : task.claim = none := by
  cases task with
  | admission | resetDeviceState | other => rfl
  | _ => exact begins.elim

end

/-- Calls exclude each other in every run in which no lock is looked up while a call uses an older
lock of the same key. -/
theorem exclusion_of_careful {moves : List (Move Task)}
    (guarded : ∀ entry ∈ Runs.run (step work) start moves,
      Guarded Task.Begins Careful entry.before entry.action) :
    ∀ entry ∈ Runs.run (step work) start moves, Exclusion entry.before ∧ Exclusion entry.after := by
  have empty : Tracked start.shared.setupLocks (start.tasks.filterMap Task.claim) := Tracked.empty
  have tracked := invariant_run
    (fun pool : Pool Shared Task => Tracked pool.shared.setupLocks (pool.tasks.filterMap Task.claim))
    (fun shared tasks task inv begins => by
      rwa [List.filterMap_append, List.filterMap_cons_none (claim_of_begins begins),
        List.filterMap_nil, List.append_nil])
    (fun shared earlier task later inv careful => by
      refine (tracked_work ?_ (inv.perm (held_perm Task.claim))).perm
        (held_advanced_perm Task.claim).symm
      rintro call rfl claim member isKey
      obtain ⟨other, isOther, isIts⟩ := List.mem_filterMap.mp member
      exact careful other (mem_of_others _ isOther) claim isIts isKey)
    empty guarded
  intro entry member
  obtain ⟨before, after⟩ := tracked entry member
  exact ⟨exclusion_of_tracked before, exclusion_of_tracked after⟩

/-- A call that starts a talk. -/
def startsTalk : Call := ⟨.talkStart, "340", none, true, none, .absent, [id]⟩

/-- The second call waits for the first one, and a third one follows a reset. -/
def resetBetween : List (Move Task) :=
  [.begin (.admission startsTalk), .advance 0, .advance 0, .advance 0, .begin (.admission startsTalk),
    .advance 1, .advance 1, .advance 1, .advance 0, .advance 0, .advance 0, .advance 0, .advance 1,
    .advance 0, .advance 0, .advance 0, .advance 0, .advance 0, .advance 0, .advance 0,
    .begin (.resetDeviceState "340"), .advance 0, .begin (.admission startsTalk), .advance 0, .advance 0,
    .advance 0, .advance 0]

theorem exclusion_resetBetween :
    (Runs.final (step work) start resetBetween).tasks ≠ [] ∧
    ∀ entry ∈ Runs.run (step work) start resetBetween,
      Exclusion entry.before ∧ Exclusion entry.after :=
  ⟨by decide +kernel, exclusion_of_careful (by decide +kernel)⟩

/-- A reset takes the lock of a talk that is being set up, and another call sets the talk up too. -/
def resetMeanwhile : List (Move Task) :=
  [.begin (.admission startsTalk), .advance 0, .advance 0, .advance 0, .advance 0,
    .begin (.resetDeviceState "340"), .advance 1,
    .begin (.admission startsTalk), .advance 1, .advance 1, .advance 1, .advance 1]

theorem exclusion_resetMeanwhile :
    (∀ entry ∈ Runs.run (step work) start resetMeanwhile,
      Guarded Task.Begins (fun _ _ => True) entry.before entry.action) ∧
    ¬Exclusion (Runs.final (step work) start resetMeanwhile) := by
  have both : (Runs.final (step work) start resetMeanwhile).tasks.map Task.passed =
      [some startsTalk.target, some startsTalk.target] := by decide +kernel
  refine ⟨by decide +kernel, fun exclusion => ?_⟩
  have apart := (List.pairwise_map (R := fun one other => ∀ target,
    ¬(one = some target ∧ other = some target))).mpr exclusion.passed
  rw [both] at apart
  exact (List.pairwise_cons.mp apart).1 _ (List.mem_singleton_self _) startsTalk.target ⟨rfl, rfl⟩

end Gmv.Session.SetupExclusion
