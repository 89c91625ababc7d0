import Gmv.Library.ClockedRuns
import Gmv.Session.LifetimeTimers

/-!
# Stale expiry events

The scheduler hands out expired timers in batches, and one task handles them while
heartbeats and registrations arrive on others.  An event that was handed out is
handled whatever happened since: the handler of the heartbeat and the registration
timer does not look at its version, and removes the session that it finds.
-/

namespace Gmv.Session

open Gmv.Library Network

/-- An expired timer that the scheduler handed out, and when. -/
structure ExpiryEvent where
  key : TimeScheduleKey
  takenAt : Nat
  deriving DecidableEq, Repr

/-- The register, the events on their way to the handler, and the number of steps
so far. -/
structure SharedRegister where
  register : TimedRegister
  taken : List ExpiryEvent
  clock : Nat

namespace SharedRegister

def empty : SharedRegister where
  register := .empty
  taken := []
  clock := 0

/-- The calls on the register, with the answers of the scheduler, and the two halves
of an expiry. -/
inductive Action where
  | registerDevice (deviceId : String) (registration : Registration)
      (accepts : TimeScheduleKey → Bool)
  | deviceHeart (deviceId : String) (association : Association) (now : Instant)
      (accepts : TimeScheduleKey → Bool)
  | detachDeviceAssociation (association : Association) (now : Instant)
      (accepts : TimeScheduleKey → Bool)
  | removeDevice (deviceId : String)
  | take (key : TimeScheduleKey)
  | handle (event : ExpiryEvent)

/-- What an action does to the register. -/
def act (shared : SharedRegister) : Action → RegisterOutcome × TimedRegister
  | .registerDevice deviceId registration accepts =>
      shared.register.registerDevice accepts deviceId registration.session
  | .deviceHeart deviceId association now accepts =>
      shared.register.deviceHeart accepts deviceId association now
  | .detachDeviceAssociation association now accepts =>
      shared.register.detachDeviceAssociation accepts association now
  | .removeDevice deviceId => shared.register.removeDevice deviceId
  | .take key =>
      ({}, { shared.register with armed := shared.register.armed.removeRegister key })
  | .handle event =>
      if event ∈ shared.taken then shared.register.onTimeSchedule event.key
      else ({}, shared.register)

/-- The events on their way after an action. A timer that is not armed does not expire. -/
def events (shared : SharedRegister) : Action → List ExpiryEvent
  | .take key =>
      if shared.register.armed key then ⟨key, shared.clock⟩ :: shared.taken else shared.taken
  | .handle event => shared.taken.erase event
  | _ => shared.taken

def step (shared : SharedRegister) (action : Action) : RegisterOutcome × SharedRegister :=
  ((shared.act action).1,
    { register := (shared.act action).2
      taken := shared.events action
      clock := shared.clock + 1 })

abbrev Entry := Runs.Transition SharedRegister Action RegisterOutcome

/-- A heartbeat or a registration of a device that completes. -/
def SignOfLife (entry : Entry) (deviceId : String) : Prop :=
  entry.result.completes = true ∧
    match entry.action with
    | .registerDevice other _ _ => other = deviceId
    | .deviceHeart other _ _ _ => other = deviceId
    | _ => False

/-- The timers that a sign of life renews. -/
def IsLifetime (key : TimeScheduleKey) (deviceId : String) : Prop :=
  key = .device3Heart deviceId ∨ key = .deviceRegistration deviceId

def Present (deviceId : String) (shared : SharedRegister) : Prop :=
  ∃ session, shared.register.ioMap.session deviceId = some session

/-- An event is handled after a sign of life that came when it had been handed out,
and its timer has not expired again. -/
structure Stale (entries : List Entry) (deviceId : String) (event : ExpiryEvent)
    (life handling : Entry) : Prop where
  handles : handling.action = .handle event
  taken : event ∈ handling.before.taken
  lifetime : IsLifetime event.key deviceId
  lives : life ∈ entries
  sign : SignOfLife life deviceId
  expired : event.takenAt < life.before.clock
  later : life.before.clock < handling.before.clock
  notAgain : ∀ other ∈ entries, life.before.clock < other.before.clock →
    other.before.clock < handling.before.clock → other.action = .take event.key →
      other.before.register.armed event.key = false

/-- A stale event neither removes the session nor resets the streams. -/
def StaleHarmless (entries : List Entry) : Prop :=
  ∀ handling ∈ entries, ∀ deviceId event life, Stale entries deviceId event life handling →
    handling.result.removed = none ∧ handling.result.reset = none

/-- Since a point of time the session of a device has been removed, and there was no
sign of life after that. -/
def RemovedSince (entries : List Entry) (deviceId : String) (time : Nat) (handling : Entry) :
    Prop :=
  ∃ removal ∈ entries, time < removal.before.clock ∧
    removal.before.clock < handling.before.clock ∧
    Present deviceId removal.before ∧ ¬Present deviceId removal.after ∧
    ∀ other ∈ entries, removal.before.clock < other.before.clock →
      other.before.clock < handling.before.clock → ¬SignOfLife other deviceId

section Presence

variable {network next : Network} {deviceId other : String} {session : DeviceSession}

theorem absent_of_seats {advance : UInt64 → UInt64} (seats : Seats advance network other session next)
    (different : deviceId ≠ other) (absent : network.session deviceId = none) :
    next.session deviceId = none := by
  by_cases displaced : network.netDeviceMap session.association = some deviceId
  · rw [seats.displaced deviceId different displaced, absent, Option.map_none]
  · rw [seats.others deviceId different displaced, absent]

/-- A rebound device is stored again, in a network with the same sessions. -/
theorem rebind_displaces (held : network.session deviceId = some session)
    (association : Association) (now : Instant) :
    ∃ (cleared : Network) (bound : DeviceSession), cleared.session = network.session ∧
      (network.rebind deviceId association now).2 = cleared.displace deviceId bound := by
  simp only [rebind, held]
  refine ⟨_, _, ?_, rfl⟩
  split
  · exact removeDeviceMapping_session ..
  · rfl

theorem rebindRegistration_displaces (held : network.session deviceId = some session)
    (offline : session.connected = false) (newSession : DeviceSession) :
    ∃ (cleared : Network) (bound : DeviceSession), cleared.session = network.session ∧
      (network.rebindRegistration deviceId newSession).2 = cleared.displace deviceId bound := by
  simp only [rebindRegistration, held, offline, Bool.false_eq_true, if_false]
  exact ⟨_, _, removeDeviceMapping_session .., rfl⟩

/-- Nobody but the displacing device appears. -/
theorem absent_displace {cleared : Network} (same : cleared.session = network.session)
    (different : deviceId ≠ other) (absent : network.session deviceId = none)
    (bound : DeviceSession) : (cleared.displace other bound).session deviceId = none := by
  apply absent_of_seats (displace_seats cleared other bound) different
  rw [same]
  exact absent

theorem absent_detachAssociation (absent : network.session deviceId = none)
    (association : Association) (now : Instant) :
    (network.detachAssociation association now).2.session deviceId = none := by
  unfold detachAssociation
  split
  · exact absent
  · next detachedId owner =>
      split
      · exact absent
      · next session held =>
          have different : deviceId ≠ detachedId := by
            rintro rfl
            rw [held] at absent
            cases absent
          split
          · exact absent
          · split
            · simp [different, absent]
            · exact absent

variable {register : TimedRegister}

theorem absent_removeDeviceByInner (absent : register.ioMap.session deviceId = none)
    (other : String) : (register.removeDeviceByInner other).2.ioMap.session deviceId = none := by
  rw [TimedRegister.removeDeviceByInner_session, absent, ite_self]

theorem absent_expireDisconnectedByInner (absent : register.ioMap.session deviceId = none)
    (generation : UInt64) :
    (register.expireDisconnectedByInner other generation).2.ioMap.session deviceId = none := by
  rcases removeDisconnected_cases register.ioMap other generation with
    ignored | ⟨session, held, -, -, removed⟩
  · simpa only [TimedRegister.expireDisconnectedByInner, ignored] using absent
  · simp only [TimedRegister.expireDisconnectedByInner, removed]
    rw [unseat_session, absent, ite_self]

theorem absent_onTimeSchedule (absent : register.ioMap.session deviceId = none)
    (key : TimeScheduleKey) : (register.onTimeSchedule key).2.ioMap.session deviceId = none := by
  cases key with
  | device3Heart other => exact absent_removeDeviceByInner absent other
  | deviceRegistration other => exact absent_removeDeviceByInner absent other
  | deviceReconnect other generation => exact absent_expireDisconnectedByInner absent generation
  | _ => exact absent

end Presence

section Steps

variable {shared : SharedRegister} {deviceId : String}

theorem not_present_iff :
    ¬Present deviceId shared ↔ shared.register.ioMap.session deviceId = none := by
  rw [Present, ← Option.ne_none_iff_exists', not_not]

theorem absent_registerDevice {register : TimedRegister}
    (absent : register.ioMap.session deviceId = none) (accepts : TimeScheduleKey → Bool)
    (other : String) (session : DeviceSession)
    (incomplete : other = deviceId →
      (register.registerDevice accepts other session).1.completes ≠ true) :
    (register.registerDevice accepts other session).2.ioMap.session deviceId = none := by
  rcases TimedRegister.registerDevice_cases accepts register other session with
    ⟨current, held, offline, rebound⟩ | ⟨reset, removed⟩
  · obtain ⟨cleared, bound, same, displaced⟩ :=
      rebindRegistration_displaces held offline session
    have different : deviceId ≠ other := by
      rintro rfl
      rw [held] at absent
      cases absent
    rw [rebound, displaced]
    exact absent_displace same different absent bound
  · rw [removed] at incomplete ⊢
    dsimp only at incomplete ⊢
    have cleared := absent_removeDeviceByInner absent other
    split
    · next accepted =>
        have different : deviceId ≠ other := fun same => incomplete same.symm accepted
        exact absent_of_seats (insert_seats _ other session) different cleared
    · exact cleared

theorem absent_deviceHeart {register : TimedRegister}
    (absent : register.ioMap.session deviceId = none) (accepts : TimeScheduleKey → Bool)
    (other : String) (association : Association) (now : Instant) :
    (register.deviceHeart accepts other association now).2.ioMap.session deviceId = none := by
  cases held : register.ioMap.session other with
  | none => simpa [TimedRegister.deviceHeart, rebind, held] using absent
  | some session =>
      obtain ⟨cleared, bound, same, displaced⟩ := rebind_displaces held association now
      have different : deviceId ≠ other := by
        rintro rfl
        rw [held] at absent
        cases absent
      rw [TimedRegister.deviceHeart_eq accepts register other held, displaced]
      exact absent_displace same different absent bound

theorem absent_detachDeviceAssociation {register : TimedRegister}
    (absent : register.ioMap.session deviceId = none) (accepts : TimeScheduleKey → Bool)
    (association : Association) (now : Instant) :
    (register.detachDeviceAssociation accepts association now).2.ioMap.session deviceId =
      none := by
  have detached := absent_detachAssociation absent association now
  unfold TimedRegister.detachDeviceAssociation
  split
  · exact absent
  · next found ioMap result =>
      rw [result] at detached
      dsimp only at detached ⊢
      split
      · exact detached
      · exact absent_expireDisconnectedByInner detached _

/-- Only a sign of life makes a device appear. -/
theorem absent_step {action : Action} (absent : ¬Present deviceId shared)
    (unsigned : ¬SignOfLife (Runs.transition step shared action) deviceId) :
    ¬Present deviceId (step shared action).2 := by
  rw [not_present_iff] at absent ⊢
  cases action with
  | registerDevice other registration accepts =>
      apply absent_registerDevice absent
      intro same completes
      exact unsigned ⟨completes, same⟩
  | deviceHeart other association now accepts =>
      exact absent_deviceHeart absent accepts other association now
  | detachDeviceAssociation association now accepts =>
      exact absent_detachDeviceAssociation absent accepts association now
  | removeDevice other => exact absent_removeDeviceByInner absent other
  | take key => exact absent
  | handle event =>
      simp only [step, act]
      split
      · exact absent_onTimeSchedule absent event.key
      · exact absent

theorem present_registerDevice {register : TimedRegister} {accepts : TimeScheduleKey → Bool}
    {session : DeviceSession}
    (completes : (register.registerDevice accepts deviceId session).1.completes = true) :
    (register.registerDevice accepts deviceId session).2.ioMap.session deviceId ≠ none := by
  rcases TimedRegister.registerDevice_cases accepts register deviceId session with
    ⟨current, held, offline, rebound⟩ | ⟨reset, removed⟩
  · obtain ⟨cleared, bound, -, displaced⟩ := rebindRegistration_displaces held offline session
    rw [rebound, displaced, (displace_seats cleared deviceId bound).self]
    exact Option.some_ne_none _
  · rw [removed] at completes ⊢
    dsimp only at completes ⊢
    rw [if_pos completes, (insert_seats _ deviceId session).self]
    exact Option.some_ne_none _

theorem present_deviceHeart {register : TimedRegister} {accepts : TimeScheduleKey → Bool}
    {association : Association} {now : Instant}
    (completes : (register.deviceHeart accepts deviceId association now).1.completes = true) :
    (register.deviceHeart accepts deviceId association now).2.ioMap.session deviceId ≠ none := by
  cases held : register.ioMap.session deviceId with
  | none => simp [TimedRegister.deviceHeart, rebind, held] at completes
  | some session =>
      obtain ⟨cleared, bound, -, displaced⟩ := rebind_displaces held association now
      rw [TimedRegister.deviceHeart_eq accepts register deviceId held, displaced,
        (displace_seats cleared deviceId bound).self]
      exact Option.some_ne_none _

/-- A sign of life leaves its device with a session. -/
theorem present_of_sign {action : Action}
    (sign : SignOfLife (Runs.transition step shared action) deviceId) :
    Present deviceId (step shared action).2 := by
  obtain ⟨completes, its⟩ := sign
  rw [Present, ← Option.ne_none_iff_exists']
  cases action with
  | registerDevice other registration accepts =>
      cases its
      exact present_registerDevice completes
  | deviceHeart other association now accepts =>
      cases its
      exact present_deviceHeart completes
  | _ => exact its.elim

/-- The handler of a lifetime timer removes the session it finds. -/
theorem harmless_iff_absent {event : ExpiryEvent} (taken : event ∈ shared.taken)
    (lifetime : IsLifetime event.key deviceId) :
    ((step shared (.handle event)).1.removed = none ∧
        (step shared (.handle event)).1.reset = none) ↔ ¬Present deviceId shared := by
  have found : (shared.register.removeDeviceByInner deviceId).1 =
      shared.register.ioMap.session deviceId := by
    cases held : shared.register.ioMap.session deviceId <;>
      simp [TimedRegister.removeDeviceByInner, held]
  rw [not_present_iff, ← found]
  rcases lifetime with key | key <;>
    simp [step, act, taken, key, TimedRegister.onTimeSchedule]

end Steps

section Runs

variable {actions : List Action} {deviceId : String} {event : ExpiryEvent} {life handling : Entry}

theorem ticks (shared : SharedRegister) (action : Action) :
    shared.clock < (step shared action).2.clock := Nat.lt_succ_self shared.clock

theorem present_after_sign {shared : SharedRegister} {entry : Entry}
    (member : entry ∈ Runs.run step shared actions) (sign : SignOfLife entry deviceId) :
    Present deviceId entry.after := by
  rw [Runs.mem_run member] at sign ⊢
  exact present_of_sign sign

theorem sign_of_appears {shared : SharedRegister} {entry : Entry}
    (member : entry ∈ Runs.run step shared actions) (absent : ¬Present deviceId entry.before)
    (present : Present deviceId entry.after) : SignOfLife entry deviceId := by
  by_contra unsigned
  rw [Runs.mem_run member] at unsigned present
  exact absent_step absent unsigned present

/-- After a sign of life a device is without a session exactly when that was removed
and no other sign of life has come. -/
theorem absent_iff_removedSince (lives : life ∈ Runs.run step empty actions)
    (member : handling ∈ Runs.run step empty actions) (sign : SignOfLife life deviceId)
    (later : life.before.clock < handling.before.clock) :
    ¬Present deviceId handling.before ↔
      RemovedSince (Runs.run step empty actions) deviceId life.before.clock handling := by
  constructor
  · intro absent
    obtain ⟨between, behind, rest, split, inBetween⟩ :=
      Runs.exists_between ticks lives member later
    rcases Runs.never_or_last_end (Present deviceId) split absent with
      ⟨ended, -⟩ | ⟨before, removal, after, rfl, held, gone, never⟩
    · exact absurd (present_after_sign lives sign) ended
    · obtain ⟨removes, since, earlier⟩ :=
        (inBetween removal).mp (List.mem_append_right _ (List.mem_cons_self ..))
      refine ⟨removal, removes, since, earlier, held, gone, ?_⟩
      intro other otherMember afterRemoval beforeHandling signs
      have inAll := (inBetween other).mpr
        ⟨otherMember, Nat.lt_trans since afterRemoval, beforeHandling⟩
      rw [List.append_assoc, List.cons_append] at split
      rcases List.mem_append.mp inAll with inBefore | inRest
      · exact Nat.lt_asymm afterRemoval ((Runs.mem_before_iff ticks split).mp inBefore).2
      · rcases List.mem_cons.mp inRest with rfl | inAfter
        · exact Nat.lt_irrefl _ afterRemoval
        · exact never other inAfter (present_after_sign otherMember signs)
  · rintro ⟨removal, removes, since, earlier, held, gone, unsigned⟩ present
    obtain ⟨between, behind, rest, split, inBetween⟩ :=
      Runs.exists_between ticks removes member earlier
    rcases Runs.never_or_last_end (fun shared => ¬Present deviceId shared) split
        (not_not_intro present) with
      ⟨started, -⟩ | ⟨before, appearing, after, rfl, absent, appeared, -⟩
    · exact started gone
    · obtain ⟨appears, afterRemoval, beforeHandling⟩ :=
        (inBetween appearing).mp (List.mem_append_right _ (List.mem_cons_self ..))
      exact unsigned appearing appears afterRemoval beforeHandling
        (sign_of_appears appears absent (not_not.mp appeared))

/-- A stale event is harmless exactly when the session it would remove has been
removed since the sign of life. -/
theorem stale_harmless_iff (actions : List Action) :
    StaleHarmless (Runs.run step empty actions) ↔
      ∀ handling ∈ Runs.run step empty actions, ∀ deviceId event life,
        Stale (Runs.run step empty actions) deviceId event life handling →
          RemovedSince (Runs.run step empty actions) deviceId life.before.clock handling := by
  refine forall₂_congr fun handling member => forall₃_congr fun deviceId event life =>
    imp_congr_right fun stale => ?_
  rw [← absent_iff_removedSince stale.lives member stale.sign stale.later]
  have handled := Runs.mem_run member
  rw [stale.handles] at handled
  rw [handled]
  exact harmless_iff_absent stale.taken stale.lifetime

end Runs

/-- The heartbeat timer of a device expires. It registers again before the event is
handled. -/
def registersInTime : List Action :=
  [.registerDevice "34020000001320000001" (registrationFrom 40001) fun _ => true,
    .take (.device3Heart "34020000001320000001"),
    .registerDevice "34020000001320000001" (registrationFrom 40001) fun _ => true,
    .handle ⟨.device3Heart "34020000001320000001", 1⟩]

/-- The old event removes the new session, and the streams are reset. -/
theorem stale_event_removes_session :
    ¬StaleHarmless (Runs.run step empty registersInTime) := by
  intro harmless
  have handled := List.get_mem (Runs.run step empty registersInTime) ⟨3, by decide⟩
  have lives := List.get_mem (Runs.run step empty registersInTime) ⟨2, by decide⟩
  have stale : Stale (Runs.run step empty registersInTime) "34020000001320000001"
      ⟨.device3Heart "34020000001320000001", 1⟩
      ((Runs.run step empty registersInTime).get ⟨2, by decide⟩)
      ((Runs.run step empty registersInTime).get ⟨3, by decide⟩) := by
    constructor
    · rfl
    · decide +kernel
    · exact .inl rfl
    · exact lives
    · exact ⟨by decide +kernel, rfl⟩
    · decide
    · decide
    · intro other member later earlier
      exact absurd (Nat.lt_of_lt_of_le later (Nat.le_of_lt_succ earlier)) (Nat.lt_irrefl _)
  have kept := (harmless _ handled _ _ _ stale).1
  have removes : ((Runs.run step empty registersInTime).get
      ⟨3, by decide⟩).result.removed.isSome = true := by
    decide +kernel
  rw [kept] at removes
  cases removes

end SharedRegister

end Gmv.Session
