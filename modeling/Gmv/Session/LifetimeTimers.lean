import Gmv.Session.DeviceReset
import Gmv.Session.NetworkMapping

/-!
# The lifetime timers of a device

A device session ends by one of three timers: that of its heartbeat, that of its
registration, and, while it has lost its association, that of the reconnection,
which is keyed by the generation of its connection.  Each operation of the register
arms and cancels them as it changes the session.
-/

namespace Gmv.Session

open Gmv.Library Network

/-- The device whose lifetime a timer ends. -/
def TimeScheduleKey.device : TimeScheduleKey → Option String
  | device3Heart deviceId => some deviceId
  | deviceRegistration deviceId => some deviceId
  | deviceReconnect deviceId _ => some deviceId
  | _ => none

namespace Timers

def insertRegister (armed : Timers) (key : TimeScheduleKey) : Timers :=
  Function.update armed key true

/-- A refresh arms nothing that is not armed. -/
def refreshRegister (armed : Timers) (_ : TimeScheduleKey) : Timers := armed

def removeRegister (armed : Timers) (key : TimeScheduleKey) : Timers :=
  Function.update armed key false

@[simp]
theorem insertRegister_apply (armed : Timers) (key other : TimeScheduleKey) :
    armed.insertRegister key other = if other = key then true else armed other := by
  simp [insertRegister, Function.update_apply]

@[simp]
theorem refreshRegister_apply (armed : Timers) (key other : TimeScheduleKey) :
    armed.refreshRegister key other = armed other := rfl

@[simp]
theorem removeRegister_apply (armed : Timers) (key other : TimeScheduleKey) :
    armed.removeRegister key other = if other = key then false else armed other := by
  simp [removeRegister, Function.update_apply]

end Timers

/-- What a call comes back with, and what it did to the state of a device beside
the register. -/
structure RegisterOutcome where
  completes : Bool := true
  removed : Option DeviceSession := none
  reset : Option String := none

/-- The network and the timers of the scheduler. -/
structure TimedRegister where
  ioMap : Network
  armed : Timers

namespace TimedRegister

def empty : TimedRegister where
  ioMap := Network.empty
  armed _ := false

def removeDeviceByInner (register : TimedRegister) (deviceId : String) :
    Option DeviceSession × TimedRegister :=
  let armed := (register.armed.removeRegister (.device3Heart deviceId)).removeRegister
    (.deviceRegistration deviceId)
  match register.ioMap.session deviceId with
  | none => (none, { register with armed := armed })
  | some session =>
      (some session,
        { ioMap := (register.ioMap.removeDeviceByInner deviceId).2
          armed := armed.removeRegister
            (.deviceReconnect deviceId session.connectionGeneration) })

/-- The heartbeat and the registration timer. The second one is not inserted when
the scheduler refuses the first. -/
def insertLifetime (accepts : TimeScheduleKey → Bool) (armed : Timers) (deviceId : String) :
    Bool × Timers :=
  if accepts (.device3Heart deviceId) then
    let heart := armed.insertRegister (.device3Heart deviceId)
    if accepts (.deviceRegistration deviceId) then
      (true, heart.insertRegister (.deviceRegistration deviceId))
    else (false, heart)
  else (false, armed)

/-- Only a device that restarted has its state reset. -/
def registerDevice (accepts : TimeScheduleKey → Bool) (register : TimedRegister)
    (deviceId : String) (session : DeviceSession) : RegisterOutcome × TimedRegister :=
  let newGeneration := (register.ioMap.session deviceId).any fun current =>
    current.registrationGenerationChanged session
  let rebound :=
    if newGeneration then (none, register.ioMap)
    else register.ioMap.rebindRegistration deviceId session
  match rebound with
  | (some generation, ioMap) =>
      let cancelled := register.armed.removeRegister (.deviceReconnect deviceId generation)
      let (accepted, armed) := insertLifetime accepts cancelled deviceId
      ({ completes := accepted }, { ioMap := ioMap, armed := armed })
  | (none, _) =>
      let (removed, cleared) := register.removeDeviceByInner deviceId
      let (accepted, armed) := insertLifetime accepts cleared.armed deviceId
      ({ completes := accepted
         removed := removed
         reset := if newGeneration then some deviceId else none },
        { ioMap := if accepted then cleared.ioMap.insert deviceId session else cleared.ioMap
          armed := armed })

def deviceHeart (accepts : TimeScheduleKey → Bool) (register : TimedRegister)
    (deviceId : String) (association : Association) (now : Instant) :
    RegisterOutcome × TimedRegister :=
  let key := TimeScheduleKey.device3Heart deviceId
  match register.ioMap.rebind deviceId association now with
  | (none, _) => ({ completes := false }, register)
  | (some (some generation), ioMap) =>
      let cancelled := register.armed.removeRegister (.deviceReconnect deviceId generation)
      ({ completes := accepts key },
        { ioMap := ioMap
          armed := if accepts key then cancelled.insertRegister key else cancelled })
  | (some none, ioMap) =>
      ({ completes := accepts key },
        { ioMap := ioMap, armed := register.armed.refreshRegister key })

def expireDisconnectedByInner (register : TimedRegister) (deviceId : String)
    (generation : UInt64) : RegisterOutcome × TimedRegister :=
  match register.ioMap.removeDisconnected deviceId generation with
  | (none, _) => ({}, register)
  | (some session, ioMap) =>
      ({ removed := some session, reset := some deviceId },
        { ioMap := ioMap
          armed := ((register.armed.removeRegister (.device3Heart deviceId)).removeRegister
            (.deviceRegistration deviceId)).removeRegister
              (.deviceReconnect deviceId generation) })

def detachDeviceAssociation (accepts : TimeScheduleKey → Bool) (register : TimedRegister)
    (association : Association) (now : Instant) : RegisterOutcome × TimedRegister :=
  match register.ioMap.detachAssociation association now with
  | (none, _) => ({ completes := false }, register)
  | (some detached, ioMap) =>
      let armed := register.armed.removeRegister (.device3Heart detached.deviceId)
      let key := TimeScheduleKey.deviceReconnect detached.deviceId detached.generation
      if accepts key then ({}, { ioMap := ioMap, armed := armed.insertRegister key })
      else
        expireDisconnectedByInner { ioMap := ioMap, armed := armed } detached.deviceId
          detached.generation

def removeDevice (register : TimedRegister) (deviceId : String) :
    RegisterOutcome × TimedRegister :=
  let (removed, cleared) := register.removeDeviceByInner deviceId
  ({ removed := removed, reset := some deviceId }, cleared)

/-- The handler of an expired timer. Those of other keys do not touch the register. -/
def onTimeSchedule (register : TimedRegister) :
    TimeScheduleKey → RegisterOutcome × TimedRegister
  | .device3Heart deviceId | .deviceRegistration deviceId =>
      let (removed, cleared) := register.removeDeviceByInner deviceId
      ({ removed := removed, reset := removed.map fun _ => deviceId }, cleared)
  | .deviceReconnect deviceId generation =>
      register.expireDisconnectedByInner deviceId generation
  | _ => ({}, register)

inductive Action where
  | registerDevice (deviceId : String) (registration : Registration)
  | deviceHeart (deviceId : String) (association : Association) (now : Instant)
  | detachDeviceAssociation (association : Association) (now : Instant)
  | removeDevice (deviceId : String)
  | expire (key : TimeScheduleKey)

/-- The scheduler accepts every timer, and an expired timer is handled at once. -/
def step (register : TimedRegister) : Action → RegisterOutcome × TimedRegister
  | .registerDevice deviceId registration =>
      registerDevice (fun _ => true) register deviceId registration.session
  | .deviceHeart deviceId association now =>
      deviceHeart (fun _ => true) register deviceId association now
  | .detachDeviceAssociation association now =>
      detachDeviceAssociation (fun _ => true) register association now
  | .removeDevice deviceId => register.removeDevice deviceId
  | .expire key =>
      if register.armed key then
        onTimeSchedule { register with armed := register.armed.removeRegister key } key
      else ({}, register)

/-- The timers a session has to have. -/
structure Attended (armed : Timers) (deviceId : String) (session : DeviceSession) : Prop where
  registration : armed (.deviceRegistration deviceId) = true
  heart : session.connected = true ∨ session.associationExpire = true →
    armed (.device3Heart deviceId) = true
  reconnect : session.connected = false → session.associationExpire = false →
    armed (.deviceReconnect deviceId session.connectionGeneration) = true

def Timed (register : TimedRegister) : Prop :=
  ∀ deviceId session, register.ioMap.session deviceId = some session →
    Attended register.armed deviceId session

/-- A detach of a session in the last generation. The generation wraps, and the
timer is keyed by the saturated one. -/
def Wraps (register : TimedRegister) : Action → Prop
  | .detachDeviceAssociation association _ =>
      ∃ deviceId session, register.ioMap.netDeviceMap association = some deviceId ∧
        register.ioMap.session deviceId = some session ∧ session.association = association ∧
        session.connected = true ∧ session.connectionGeneration = 18446744073709551615
  | _ => False

/-- What holds in every register before a generation wraps: besides the timers of
every session, a reconnect timer is that of a disconnected session in its generation. -/
structure Kept (register : TimedRegister) : Prop where
  sane : Sane register.ioMap
  timed : Timed register
  precise : ∀ deviceId generation, register.armed (.deviceReconnect deviceId generation) = true →
    ∃ session, register.ioMap.session deviceId = some session ∧ session.connected = false ∧
      session.connectionGeneration = generation

/-- Only the timers of one device change. -/
def OwnTimers (deviceId : String) (armed next : Timers) : Prop :=
  ∀ key, key.device ≠ some deviceId → next key = armed key

section OwnTimers

variable {deviceId : String} {armed next : Timers} {key : TimeScheduleKey}

theorem OwnTimers.refl (deviceId : String) (armed : Timers) : OwnTimers deviceId armed armed :=
  fun _ _ => rfl

theorem OwnTimers.trans {last : Timers} (first : OwnTimers deviceId armed next)
    (second : OwnTimers deviceId next last) : OwnTimers deviceId armed last :=
  fun key foreign => (second key foreign).trans (first key foreign)

/-- One more timer of the device changes. -/
theorem OwnTimers.change {last : Timers} (own : OwnTimers deviceId armed next)
    (its : key.device = some deviceId) (others : ∀ other, other ≠ key → last other = next other) :
    OwnTimers deviceId armed last := by
  intro other foreign
  have different : other ≠ key := by
    rintro rfl
    exact foreign its
  rw [others other different]
  exact own other foreign

theorem OwnTimers.insertRegister (own : OwnTimers deviceId armed next)
    (its : key.device = some deviceId) : OwnTimers deviceId armed (next.insertRegister key) :=
  own.change its fun other different => by rw [Timers.insertRegister_apply, if_neg different]

theorem OwnTimers.removeRegister (own : OwnTimers deviceId armed next)
    (its : key.device = some deviceId) : OwnTimers deviceId armed (next.removeRegister key) :=
  own.change its fun other different => by rw [Timers.removeRegister_apply, if_neg different]

theorem OwnTimers.attended (own : OwnTimers deviceId armed next) {other : String}
    {session : DeviceSession} (different : other ≠ deviceId)
    (attended : Attended armed other session) : Attended next other session := by
  have same : ∀ key : TimeScheduleKey, key.device = some other → next key = armed key := by
    intro key its
    apply own
    rw [its]
    exact fun here => different (Option.some.inj here)
  constructor
  · rw [same _ rfl]
    exact attended.registration
  · rw [same _ rfl]
    exact attended.heart
  · rw [same _ rfl]
    exact attended.reconnect

theorem OwnTimers.reconnect (own : OwnTimers deviceId armed next) {other : String}
    (different : other ≠ deviceId) (generation : UInt64) :
    next (.deviceReconnect other generation) = armed (.deviceReconnect other generation) := by
  apply own
  exact fun here => different (Option.some.inj here)

end OwnTimers

section Kept

variable {register next : TimedRegister} {deviceId : String}

theorem kept_empty : Kept empty := by
  constructor
  · exact sane_empty
  · intro deviceId session held
    cases held
  · intro deviceId generation armed
    cases armed

/-- A connected device has no reconnect timer. -/
theorem Kept.quiet (kept : Kept register) {session : DeviceSession}
    (held : register.ioMap.session deviceId = some session) (online : session.connected = true)
    (generation : UInt64) : register.armed (.deviceReconnect deviceId generation) = false := by
  rw [Bool.eq_false_iff]
  intro armed
  obtain ⟨found, same, offline, -⟩ := kept.precise deviceId generation armed
  rw [held] at same
  cases same
  rw [online] at offline
  cases offline

/-- The only reconnect timer of a device is that of its generation. -/
theorem Kept.quiet_of_ne (kept : Kept register) {session : DeviceSession}
    (held : register.ioMap.session deviceId = some session) {generation : UInt64}
    (other : generation ≠ session.connectionGeneration) :
    register.armed (.deviceReconnect deviceId generation) = false := by
  rw [Bool.eq_false_iff]
  intro armed
  obtain ⟨found, same, -, rfl⟩ := kept.precise deviceId generation armed
  rw [held] at same
  cases same
  exact other rfl

variable (deviceId) in
/-- A session goes away with its reconnect timer. -/
theorem Kept.vacates (kept : Kept register) (sane : Sane next.ioMap)
    (gone : ∀ other, next.ioMap.session other =
      if other = deviceId then none else register.ioMap.session other)
    (own : OwnTimers deviceId register.armed next.armed)
    (quiet : ∀ generation, next.armed (.deviceReconnect deviceId generation) = false) :
    Kept next := by
  constructor
  · exact sane
  · intro other session held
    rw [gone] at held
    split at held
    · cases held
    · next different => exact own.attended different (kept.timed other session held)
  · intro other generation armed
    by_cases same : other = deviceId
    · subst same
      rw [quiet] at armed
      cases armed
    · rw [own.reconnect same] at armed
      rw [gone, if_neg same]
      exact kept.precise other generation armed

/-- A device is stored under an association with its lifetime timers. The previous
owner was connected, and keeps those it had. -/
theorem Kept.seats (kept : Kept register) {advance : UInt64 → UInt64} {cleared : Network}
    {bound : DeviceSession}
    (seats : Seats advance cleared deviceId bound next.ioMap)
    (clears : Clears register.ioMap deviceId bound.association cleared)
    (online : bound.connected = true) (fresh : bound.associationExpire = false)
    (own : OwnTimers deviceId register.armed next.armed)
    (registration : next.armed (.deviceRegistration deviceId) = true)
    (heart : next.armed (.device3Heart deviceId) = true)
    (quiet : ∀ generation, next.armed (.deviceReconnect deviceId generation) = false) :
    Kept next := by
  have owner : cleared.netDeviceMap bound.association =
      register.ioMap.netDeviceMap bound.association := by
    rw [clears.mapping, if_neg]
    exact fun elsewhere => elsewhere.1 rfl
  constructor
  · exact clears.sane seats online fresh kept.sane
  · intro other session held
    by_cases same : other = deviceId
    · subst same
      rw [seats.self] at held
      cases held
      constructor
      · exact registration
      · intro _
        exact heart
      · intro offline
        rw [online] at offline
        cases offline
    · by_cases displaced : cleared.netDeviceMap bound.association = some other
      · rw [seats.displaced other same displaced, Option.map_eq_some_iff, clears.session] at held
        obtain ⟨before, stored, rfl⟩ := held
        obtain ⟨found, its, connected, -⟩ := kept.sane.owner (owner.symm.trans displaced)
        rw [stored] at its
        cases its
        have attended := own.attended same (kept.timed other before stored)
        constructor
        · exact attended.registration
        · intro _
          exact attended.heart (.inl connected)
        · intro _ notExpired
          cases notExpired
      · rw [seats.others other same displaced, clears.session] at held
        exact own.attended same (kept.timed other session held)
  · intro other generation armed
    by_cases same : other = deviceId
    · subst same
      rw [quiet] at armed
      cases armed
    · rw [own.reconnect same] at armed
      obtain ⟨session, held, offline, its⟩ := kept.precise other generation armed
      have notDisplaced : cleared.netDeviceMap bound.association ≠ some other := by
        intro displaced
        exact kept.sane.disconnected held offline _ (owner.symm.trans displaced)
      rw [seats.others other same notDisplaced, clears.session]
      exact ⟨session, held, offline, its⟩

end Kept

section Operations

variable (accepts : TimeScheduleKey → Bool) (register : TimedRegister) (deviceId : String)

theorem removeDeviceByInner_session (other : String) :
    (register.removeDeviceByInner deviceId).2.ioMap.session other =
      if other = deviceId then none else register.ioMap.session other := by
  cases held : register.ioMap.session deviceId with
  | none =>
      simp only [removeDeviceByInner, held]
      split
      · next same => rw [same, held]
      · rfl
  | some session =>
      simp only [removeDeviceByInner, Network.removeDeviceByInner, held]
      split <;> simp

theorem removeDeviceByInner_ioMap :
    (register.removeDeviceByInner deviceId).2.ioMap =
      (register.ioMap.removeDeviceByInner deviceId).2 := by
  cases held : register.ioMap.session deviceId <;>
    simp [removeDeviceByInner, Network.removeDeviceByInner, held]

theorem removeDeviceByInner_own :
    OwnTimers deviceId register.armed (register.removeDeviceByInner deviceId).2.armed := by
  have lifetime : OwnTimers deviceId register.armed
      ((register.armed.removeRegister (.device3Heart deviceId)).removeRegister
        (.deviceRegistration deviceId)) :=
    ((OwnTimers.refl deviceId register.armed).removeRegister rfl).removeRegister rfl
  cases held : register.ioMap.session deviceId with
  | none => simpa only [removeDeviceByInner, held] using lifetime
  | some session =>
      simp only [removeDeviceByInner, held]
      exact lifetime.removeRegister rfl

/-- What a registration does: a disconnected session is rebound, unless the device
restarted; every other session is removed first. -/
theorem registerDevice_cases (session : DeviceSession) :
    (∃ current, register.ioMap.session deviceId = some current ∧ current.connected = false ∧
        registerDevice accepts register deviceId session =
          ({ completes := (insertLifetime accepts (register.armed.removeRegister
                (.deviceReconnect deviceId current.connectionGeneration)) deviceId).1 },
            { ioMap := (register.ioMap.rebindRegistration deviceId session).2
              armed := (insertLifetime accepts (register.armed.removeRegister
                (.deviceReconnect deviceId current.connectionGeneration)) deviceId).2 })) ∨
      ∃ reset, registerDevice accepts register deviceId session =
        ({ completes := (insertLifetime accepts
              (register.removeDeviceByInner deviceId).2.armed deviceId).1
           removed := (register.removeDeviceByInner deviceId).1
           reset := reset },
          { ioMap :=
              if (insertLifetime accepts (register.removeDeviceByInner deviceId).2.armed
                deviceId).1 then
                (register.removeDeviceByInner deviceId).2.ioMap.insert deviceId session
              else (register.removeDeviceByInner deviceId).2.ioMap
            armed := (insertLifetime accepts (register.removeDeviceByInner deviceId).2.armed
              deviceId).2 }) := by
  cases held : register.ioMap.session deviceId with
  | none =>
      refine .inr ⟨none, ?_⟩
      simp [registerDevice, rebindRegistration, held]
  | some current =>
      cases changed : current.registrationGenerationChanged session with
      | true =>
          refine .inr ⟨some deviceId, ?_⟩
          simp [registerDevice, held, changed]
      | false =>
          cases online : current.connected with
          | true =>
              refine .inr ⟨none, ?_⟩
              simp [registerDevice, rebindRegistration, held, changed, online]
          | false =>
              refine .inl ⟨current, rfl, online, ?_⟩
              simp [registerDevice, rebindRegistration, held, changed, online]

variable {register}

/-- A session is removed, after some of its timers have left the scheduler. -/
theorem Kept.removeDeviceByInner (kept : Kept register) {fired : Timers}
    (own : OwnTimers deviceId register.armed fired)
    (fewer : ∀ generation, fired (.deviceReconnect deviceId generation) = true →
      register.armed (.deviceReconnect deviceId generation) = true) :
    Kept (TimedRegister.removeDeviceByInner ⟨register.ioMap, fired⟩ deviceId).2 := by
  apply kept.vacates deviceId
  · rw [removeDeviceByInner_ioMap]
    exact kept.sane.removeDeviceByInner
  · exact removeDeviceByInner_session _ deviceId
  · exact own.trans (removeDeviceByInner_own _ deviceId)
  · intro generation
    rw [Bool.eq_false_iff]
    intro armed
    cases held : register.ioMap.session deviceId with
    | none =>
        simp only [TimedRegister.removeDeviceByInner, held, Timers.removeRegister_apply,
          reduceCtorEq, if_false] at armed
        obtain ⟨found, its, -⟩ := kept.precise deviceId generation (fewer generation armed)
        rw [held] at its
        cases its
    | some session =>
        simp only [TimedRegister.removeDeviceByInner, held, Timers.removeRegister_apply,
          reduceCtorEq, if_false, Bool.ite_eq_true_distrib, Bool.false_eq_true,
          if_false_left] at armed
        have other : generation ≠ session.connectionGeneration := by
          rintro rfl
          exact armed.1 rfl
        have quiet := kept.quiet_of_ne held other
        rw [fewer generation armed.2] at quiet
        cases quiet

/-- The lifetime timers of a device that the scheduler accepts. -/
theorem insertLifetime_accepted (armed : Timers) :
    insertLifetime (fun _ => true) armed deviceId =
      (true, (armed.insertRegister (.device3Heart deviceId)).insertRegister
        (.deviceRegistration deviceId)) := rfl

theorem Kept.registerDevice (kept : Kept register) (registration : Registration) :
    Kept (TimedRegister.registerDevice (fun _ => true) register deviceId
      registration.session).2 := by
  rcases registerDevice_cases (fun _ => true) register deviceId registration.session with
    ⟨current, held, offline, rebound⟩ | ⟨reset, removed⟩
  · rw [rebound, insertLifetime_accepted]
    obtain ⟨-, cleared, clears, seats⟩ :=
      kept.sane.rebindRegistration_seats held offline registration.session
    refine kept.seats seats clears rfl rfl ?_ ?_ ?_ ?_
    · exact (((OwnTimers.refl deviceId register.armed).removeRegister rfl).insertRegister
        rfl).insertRegister rfl
    · simp
    · simp
    · intro generation
      simp only [Timers.insertRegister_apply, Timers.removeRegister_apply, reduceCtorEq, if_false]
      split
      · rfl
      · next other =>
          apply kept.quiet_of_ne held
          rintro rfl
          exact other rfl
  · rw [removed, insertLifetime_accepted]
    have cleared := kept.removeDeviceByInner deviceId (.refl _ _) fun _ armed => armed
    have clears := kept.sane.clears_removed deviceId registration.session.association
    rw [← removeDeviceByInner_ioMap] at clears
    simp only [if_true]
    apply cleared.seats (insert_seats _ deviceId registration.session) clears rfl rfl
    · exact ((OwnTimers.refl deviceId _).insertRegister rfl).insertRegister rfl
    · simp
    · simp
    · intro generation
      simp only [Timers.insertRegister_apply, reduceCtorEq, if_false]
      rw [Bool.eq_false_iff]
      intro armed
      obtain ⟨found, its, -⟩ := cleared.precise deviceId generation armed
      rw [removeDeviceByInner_session, if_pos rfl] at its
      cases its

variable (register) in
/-- A sign of life of a device that has a session. A connected one has its heartbeat
timer refreshed, another one trades its reconnect timer for it. -/
theorem deviceHeart_eq {session : DeviceSession}
    (held : register.ioMap.session deviceId = some session) (association : Association)
    (now : Instant) :
    deviceHeart accepts register deviceId association now =
      ({ completes := accepts (.device3Heart deviceId) },
        { ioMap := (register.ioMap.rebind deviceId association now).2
          armed :=
            if session.connected then register.armed
            else if accepts (.device3Heart deviceId) then
              (register.armed.removeRegister
                (.deviceReconnect deviceId session.connectionGeneration)).insertRegister
                  (.device3Heart deviceId)
            else
              register.armed.removeRegister
                (.deviceReconnect deviceId session.connectionGeneration) }) := by
  cases online : session.connected with
  | true => simp [deviceHeart, rebind, held, online, Timers.refreshRegister]
  | false => simp [deviceHeart, rebind, held, online]

theorem Kept.deviceHeart (kept : Kept register) (association : Association) (now : Instant) :
    Kept (TimedRegister.deviceHeart (fun _ => true) register deviceId association now).2 := by
  cases held : register.ioMap.session deviceId with
  | none => simpa [TimedRegister.deviceHeart, rebind, held] using kept
  | some session =>
      rw [deviceHeart_eq _ register deviceId held]
      obtain ⟨bound, cleared, clears, online, fresh, -, seats⟩ :=
        kept.sane.rebind_seats held association now
      have attended := kept.timed deviceId session held
      cases connected : session.connected with
      | true =>
          simp only [if_true]
          refine kept.seats seats clears online fresh (.refl _ _) attended.registration
            (attended.heart (.inl connected)) ?_
          intro generation
          exact kept.quiet held connected generation
      | false =>
          simp only [Bool.false_eq_true, if_false, if_true]
          refine kept.seats seats clears online fresh ?_ ?_ ?_ ?_
          · exact ((OwnTimers.refl deviceId register.armed).removeRegister rfl).insertRegister rfl
          · simpa using attended.registration
          · simp
          · intro generation
            simp only [Timers.insertRegister_apply, Timers.removeRegister_apply, reduceCtorEq,
              if_false]
            split
            · rfl
            · next other =>
                apply kept.quiet_of_ne held
                rintro rfl
                exact other rfl

/-- The reconnect timer of a session that has moved on is not missed. -/
theorem Kept.fires (kept : Kept register) {generation : UInt64}
    (past : ∀ session, register.ioMap.session deviceId = some session →
      session.connected = false → session.connectionGeneration ≠ generation) :
    Kept ⟨register.ioMap, register.armed.removeRegister (.deviceReconnect deviceId generation)⟩ := by
  constructor
  · exact kept.sane
  · intro other session held
    have attended := kept.timed other session held
    constructor
    · simpa using attended.registration
    · simpa using attended.heart
    · intro offline fresh
      dsimp only
      rw [Timers.removeRegister_apply, if_neg]
      · exact attended.reconnect offline fresh
      · rintro ⟨⟩
        exact past session held offline rfl
  · intro other generation' armed
    dsimp only at armed
    rw [Timers.removeRegister_apply] at armed
    split at armed
    · cases armed
    · exact kept.precise other generation' armed

/-- The register does not depend on the timers of other components. -/
theorem Kept.foreign (kept : Kept register) {key : TimeScheduleKey} (foreign : key.device = none) :
    Kept ⟨register.ioMap, register.armed.removeRegister key⟩ := by
  have same : ∀ other : TimeScheduleKey, other.device ≠ none →
      register.armed.removeRegister key other = register.armed other := by
    intro other its
    rw [Timers.removeRegister_apply, if_neg]
    rintro rfl
    exact its foreign
  constructor
  · exact kept.sane
  · intro deviceId session held
    have attended := kept.timed deviceId session held
    constructor
    · exact (same (.deviceRegistration deviceId) (Option.some_ne_none _)).trans
        attended.registration
    · intro needs
      exact (same (.device3Heart deviceId) (Option.some_ne_none _)).trans (attended.heart needs)
    · intro offline fresh
      exact (same (.deviceReconnect deviceId _) (Option.some_ne_none _)).trans
        (attended.reconnect offline fresh)
  · intro deviceId generation armed
    have before := (same (.deviceReconnect deviceId generation) (Option.some_ne_none _)).symm
    exact kept.precise deviceId generation (before.trans armed)

theorem Kept.reconnectExpires (kept : Kept register) (generation : UInt64) :
    Kept (TimedRegister.expireDisconnectedByInner
      ⟨register.ioMap, register.armed.removeRegister (.deviceReconnect deviceId generation)⟩
      deviceId generation).2 := by
  rcases removeDisconnected_cases register.ioMap deviceId generation with
    ignored | ⟨session, held, -, rfl, removed⟩
  · simp only [TimedRegister.expireDisconnectedByInner, ignored]
    apply kept.fires
    intro session held offline same
    simp [removeDisconnected, held, offline, same] at ignored
  · simp only [TimedRegister.expireDisconnectedByInner, removed]
    apply kept.vacates deviceId
    · apply kept.sane.unseat held
      intro left impossible
      cases impossible
    · intro other
      rw [unseat_session]
    · exact ((((OwnTimers.refl deviceId register.armed).removeRegister rfl).removeRegister
        rfl).removeRegister rfl).removeRegister rfl
    · intro generation
      simp only [Timers.removeRegister_apply, reduceCtorEq, if_false]
      split
      · rfl
      · next other =>
          apply kept.quiet_of_ne held
          rintro rfl
          exact other rfl

theorem Kept.expires (kept : Kept register) (key : TimeScheduleKey) :
    Kept (onTimeSchedule ⟨register.ioMap, register.armed.removeRegister key⟩ key).2 := by
  cases key with
  | device3Heart deviceId =>
      apply kept.removeDeviceByInner
      · exact (OwnTimers.refl deviceId register.armed).removeRegister rfl
      · intro generation armed
        simpa using armed
  | deviceRegistration deviceId =>
      apply kept.removeDeviceByInner
      · exact (OwnTimers.refl deviceId register.armed).removeRegister rfl
      · intro generation armed
        simpa using armed
  | deviceReconnect deviceId generation => exact kept.reconnectExpires deviceId generation
  | _ => exact kept.foreign rfl

variable (register) in
/-- A detach of a device takes its heartbeat timer and arms that of its generation. -/
theorem detachDeviceAssociation_cases (sane : Sane register.ioMap) (association : Association)
    (now : Instant) :
    (detachDeviceAssociation (fun _ => true) register association now =
          ({ completes := false }, register) ∧
        register.ioMap.netDeviceMap association = none) ∨
      ∃ deviceId session, register.ioMap.netDeviceMap association = some deviceId ∧
        register.ioMap.session deviceId = some session ∧ session.connected = true ∧
        session.association = association ∧
        detachDeviceAssociation (fun _ => true) register association now =
          ({},
            { ioMap := register.ioMap.unseat deviceId session (some (detachedSession session))
              armed := (register.armed.removeRegister (.device3Heart deviceId)).insertRegister
                (.deviceReconnect deviceId (saturatingSucc session.connectionGeneration)) }) := by
  rcases sane.detachAssociation_cases association now with
    ⟨ignored, unowned⟩ | ⟨deviceId, session, owner, held, online, associated, detached⟩
  · refine .inl ⟨?_, unowned⟩
    simp [detachDeviceAssociation, ignored]
  · refine .inr ⟨deviceId, session, owner, held, online, associated, ?_⟩
    simp [detachDeviceAssociation, detached]

theorem Kept.detachDeviceAssociation (kept : Kept register) {association : Association}
    {now : Instant}
    (unwrapped : ¬Wraps register (.detachDeviceAssociation association now)) :
    Kept (TimedRegister.detachDeviceAssociation (fun _ => true) register association now).2 := by
  rcases detachDeviceAssociation_cases register kept.sane association now with
    ⟨ignored, -⟩ | ⟨deviceId, session, owner, held, online, associated, detached⟩
  · rw [ignored]
    exact kept
  · have below : session.connectionGeneration ≠ 18446744073709551615 := by
      intro last
      exact unwrapped ⟨deviceId, session, owner, held, associated, online, last⟩
    have own : OwnTimers deviceId register.armed
        ((register.armed.removeRegister (.device3Heart deviceId)).insertRegister
          (.deviceReconnect deviceId (saturatingSucc session.connectionGeneration))) :=
      ((OwnTimers.refl deviceId register.armed).removeRegister rfl).insertRegister rfl
    rw [detached, saturatingSucc_of_ne below] at *
    constructor
    · apply kept.sane.unseat held
      rintro left ⟨⟩
      rfl
    · intro other stored found
      rw [unseat_session] at found
      split at found
      · next same =>
          subst same
          cases found
          constructor
          · simpa using (kept.timed other session held).registration
          · rintro (connected | expired)
            · cases connected
            · have fresh := kept.sane.fresh other session held online
              rw [detachedSession, fresh] at expired
              cases expired
          · intro _ _
            simp [detachedSession]
      · next different => exact own.attended different (kept.timed other stored found)
    · intro other generation armed
      rw [unseat_session]
      by_cases same : other = deviceId
      · subst same
        simp only [Timers.insertRegister_apply, Timers.removeRegister_apply, reduceCtorEq,
          if_false, kept.quiet held online] at armed
        split at armed
        · next its =>
            cases its
            exact ⟨_, if_pos rfl, rfl, rfl⟩
        · cases armed
      · rw [if_neg same]
        exact kept.precise other generation ((own.reconnect same generation).symm.trans armed)

/-- The wrapped generation has no timer. -/
theorem Kept.untimed_of_wraps (kept : Kept register) {association : Association} {now : Instant}
    (wraps : Wraps register (.detachDeviceAssociation association now)) :
    ¬Timed (TimedRegister.detachDeviceAssociation (fun _ => true) register association now).2 := by
  obtain ⟨deviceId, session, owner, held, -, online, last⟩ := wraps
  rcases detachDeviceAssociation_cases register kept.sane association now with
    ⟨-, unowned⟩ | ⟨other, its, otherOwner, otherHeld, -, -, detached⟩
  · rw [owner] at unowned
    cases unowned
  · rw [owner] at otherOwner
    cases otherOwner
    rw [held] at otherHeld
    cases otherHeld
    rw [detached]
    intro timed
    have fresh := kept.sane.fresh deviceId session held online
    have attended := timed deviceId (detachedSession session) (by rw [unseat_session, if_pos rfl])
    have armed := attended.reconnect rfl fresh
    simp [detachedSession, last, saturatingSucc, kept.quiet held online] at armed

theorem kept_step (register : TimedRegister) (action : Action) (kept : Kept register)
    (unwrapped : ¬Wraps register action) : Kept (step register action).2 := by
  cases action with
  | registerDevice deviceId registration => exact kept.registerDevice deviceId registration
  | deviceHeart deviceId association now => exact kept.deviceHeart deviceId association now
  | detachDeviceAssociation association now => exact kept.detachDeviceAssociation unwrapped
  | removeDevice deviceId => exact kept.removeDeviceByInner deviceId (.refl _ _) fun _ armed => armed
  | expire key =>
      cases armed : register.armed key with
      | false => simpa [step, armed] using kept
      | true =>
          simp only [step, armed, if_true]
          exact kept.expires key

theorem timed_step_iff (register : TimedRegister) (action : Action) (kept : Kept register) :
    Timed (step register action).2 ↔ ¬Wraps register action := by
  constructor
  · intro timed wraps
    cases action with
    | detachDeviceAssociation association now => exact kept.untimed_of_wraps wraps timed
    | _ => exact wraps
  · intro unwrapped
    exact (kept_step register action kept unwrapped).timed

end Operations

theorem timed_run_iff {register : TimedRegister} (kept : Kept register) (actions : List Action) :
    (∀ entry ∈ Runs.run step register actions, Timed entry.after) ↔
      ∀ entry ∈ Runs.run step register actions, ¬Wraps entry.before entry.action :=
  Runs.check_run_iff Kept (fun entry => Timed entry.after)
    (fun register action => ¬Wraps register action) kept_step timed_step_iff kept

/-- Every session has its timers after every step exactly when no device is detached
in the last generation. -/
theorem timed_iff_never_wraps (actions : List Action) :
    (∀ entry ∈ Runs.run step empty actions, Timed entry.after) ↔
      ∀ entry ∈ Runs.run step empty actions, ¬Wraps entry.before entry.action :=
  timed_run_iff kept_empty actions

section WornOut

/-- The session of a device that registered once, in a later generation. -/
def wornSession (connected : Bool) (generation : UInt64) : DeviceSession :=
  { (registrationFrom 40001).session with
    connected := connected
    connectionGeneration := generation }

/-- The device is alone on its association. -/
structure WornTo (connected : Bool) (generation : UInt64) (register : TimedRegister) : Prop where
  held : register.ioMap.session "34020000001320000001" = some (wornSession connected generation)
  owner : register.ioMap.netDeviceMap (tcpAssociation 40001) =
    if connected then some "34020000001320000001" else none

def wornDetach : Action := .detachDeviceAssociation (tcpAssociation 40001) 0

def wornHeart : Action := .deviceHeart "34020000001320000001" (tcpAssociation 40001) 0

def wornRegister : Action := .registerDevice "34020000001320000001" (registrationFrom 40001)

variable {register : TimedRegister} {generation : UInt64}

theorem wornTo_registered : WornTo true 0 (step empty wornRegister).2 := by
  constructor <;> decide +kernel

theorem WornTo.detach (worn : WornTo true generation register) :
    WornTo false (generation + 1) (step register wornDetach).2 := by
  have owner := worn.owner
  rw [if_pos rfl] at owner
  constructor
  · simp [step, wornDetach, detachDeviceAssociation, detachAssociation, owner, worn.held,
      wornSession, registrationFrom]
  · simp [step, wornDetach, detachDeviceAssociation, detachAssociation, owner, worn.held,
      wornSession, registrationFrom, removeDeviceMapping]

theorem wornTo_of_displace (before : Network)
    (bound : register.ioMap = before.displace "34020000001320000001"
      (wornSession true generation)) : WornTo true generation register := by
  have seats := displace_seats before "34020000001320000001" (wornSession true generation)
  rw [← bound] at seats
  constructor
  · exact seats.self
  · exact seats.gained

theorem WornTo.heart (worn : WornTo false generation register) :
    WornTo true (generation + 1) (step register wornHeart).2 := by
  apply wornTo_of_displace register.ioMap
  simp only [step, wornHeart, deviceHeart, rebind, worn.held]
  rfl

theorem WornTo.registers (worn : WornTo false generation register) :
    WornTo true (saturatingSucc generation) (step register wornRegister).2 := by
  have unchanged : (wornSession false generation).registrationGenerationChanged
      (registrationFrom 40001).session = false := by
    simp [DeviceSession.registrationGenerationChanged, wornSession, registrationFrom,
      Registration.session, DeviceSession.build, DeviceSession.setRegistrationIdentity]
  have unowned := worn.owner
  rw [if_neg Bool.false_ne_true] at unowned
  have cleared : register.ioMap.removeDeviceMapping "34020000001320000001"
      (tcpAssociation 40001) = register.ioMap := by
    simp [removeDeviceMapping, unowned]
  apply wornTo_of_displace register.ioMap
  simp only [step, wornRegister, registerDevice, rebindRegistration, worn.held, Option.any_some,
    unchanged, Bool.false_eq_true, if_false]
  conv_rhs => rw [← cleared]
  rfl

/-- The association closes and comes back again and again. -/
def wornCycles (times : Nat) : List Action :=
  (List.replicate times [wornDetach, wornHeart]).flatten

theorem WornTo.cycles (times : Nat) (worn : WornTo true generation register) :
    WornTo true (generation + UInt64.ofNat (2 * times))
      (Runs.final step register (wornCycles times)) := by
  induction times generalizing register generation with
  | zero => simpa [wornCycles] using worn
  | succ times ih =>
      have again := ih worn.detach.heart
      have total : generation + 1 + 1 + UInt64.ofNat (2 * times) =
          generation + UInt64.ofNat (2 * (times + 1)) := by
        rw [Nat.mul_add, UInt64.ofNat_add, UInt64.add_comm (UInt64.ofNat (2 * times)),
          UInt64.add_assoc generation, UInt64.add_assoc]
        rfl
      rw [total] at again
      exact again

/-- A device reconnects until its generation is the last one, is registered again
in it, and loses its association once more. -/
def wornOut (times : Nat) : List Action :=
  (wornRegister :: wornCycles times) ++ [wornDetach, wornRegister, wornDetach]

theorem not_timed_of_worn {times : Nat}
    (last : UInt64.ofNat (2 * times) + 1 = 18446744073709551615) :
    ¬∀ entry ∈ Runs.run step empty (wornOut times), Timed entry.after := by
  have worn := ((wornTo_registered.cycles times).detach).registers
  rw [UInt64.zero_add, last] at worn
  intro timed
  rw [timed_run_iff kept_empty, wornOut, Runs.run_append] at timed
  have detached := timed _ (List.mem_append_right _ (List.mem_cons_of_mem _
    (List.mem_cons_of_mem _ List.mem_cons_self)))
  exact detached ⟨_, _, worn.owner, worn.held, rfl, rfl, rfl⟩

/-- After 2 to the 63 reconnections the timer of the last detach is not the one of
its generation. -/
theorem wornOut_not_timed :
    ¬∀ entry ∈ Runs.run step empty (wornOut 9223372036854775807), Timed entry.after :=
  not_timed_of_worn (by decide)

end WornOut

end TimedRegister

end Gmv.Session
