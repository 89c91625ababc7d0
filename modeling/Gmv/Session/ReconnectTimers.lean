import Gmv.Library.ClockedRuns
import Gmv.Session.NetworkMapping

/-!
# Reconnect timers

A device that loses its association keeps its session until its reconnect timer
fires.  The timer is keyed by the device and the generation of its connection, and
its handler removes the session when it is still disconnected in that generation.
An event that the scheduler has handed out can no longer be cancelled and may be
handled at any later time.  The handler is safe as long as no device goes offline in a
generation for which an older event is still under way; a fresh session starts
again at generation zero, and this is how it happens.
-/

namespace Gmv.Session

open Gmv.Library Network

/-- A reconnect timer that the scheduler handed out, and when it was armed. -/
structure ReconnectEvent where
  deviceId : String
  generation : UInt64
  armedAt : Nat
  deriving DecidableEq, Repr

def ReconnectEvent.key (event : ReconnectEvent) : ReconnectKey :=
  (event.deviceId, event.generation)

/-- The network, the reconnect timers in the scheduler with the time they were
armed, the events that were handed out, and the number of steps so far. -/
structure Register where
  ioMap : Network
  armed : ReconnectKey → Option Nat
  taken : List ReconnectEvent
  clock : Nat

namespace Register

def empty : Register where
  ioMap := Network.empty
  armed _ := none
  taken := []
  clock := 0

inductive Action where
  | registerDevice (deviceId : String) (registration : Registration) (scheduled : Bool)
  | deviceHeart (deviceId : String) (association : Association) (now : Instant)
  | detachDeviceAssociation (association : Association) (scheduled : Bool) (now : Instant)
  | lifetimeExpired (deviceId : String)
  | takeReconnect (key : ReconnectKey)
  | handleReconnect (event : ReconnectEvent)

/-- The operation of the register that an action performs. -/
def Action.operation (register : Register) : Action → Option Operation
  | registerDevice deviceId registration scheduled =>
      some (.registerDevice deviceId registration scheduled)
  | deviceHeart deviceId association now => some (.deviceHeart deviceId association now)
  | detachDeviceAssociation association scheduled now =>
      some (.detachDeviceAssociation association scheduled now)
  | lifetimeExpired deviceId => some (.lifetimeExpired deviceId)
  | takeReconnect _ => none
  | handleReconnect event =>
      if event ∈ register.taken then some (.reconnectExpired event.deviceId event.generation)
      else none

/-- The timers after an operation cancelled and armed some. -/
def schedule (armed : ReconnectKey → Option Nat) (effect : Effect) (clock : Nat) :
    ReconnectKey → Option Nat := fun key =>
  if effect.armed = some key then some clock
  else if effect.cancelled = some key then none
  else armed key

/-- The events after an action. -/
def Action.events (register : Register) : Action → List ReconnectEvent
  | takeReconnect key =>
      match register.armed key with
      | some armedAt => ⟨key.1, key.2, armedAt⟩ :: register.taken
      | none => register.taken
  | handleReconnect event => register.taken.erase event
  | _ => register.taken

/-- The timer that fires. It leaves the scheduler. -/
def Action.fired : Action → Option ReconnectKey
  | takeReconnect key => some key
  | _ => none

def step (register : Register) (action : Action) : Effect × Register :=
  let (effect, ioMap) : Effect × Network :=
    match action.operation register with
    | some operation => register.ioMap.step operation
    | none => ({ cancelled := action.fired }, register.ioMap)
  (effect,
    { ioMap := ioMap
      armed := schedule register.armed effect register.clock
      taken := action.events register
      clock := register.clock + 1 })

abbrev Entry := Runs.Transition Register Action Effect

/-- A device has a session that is not connected. -/
def Disconnected (network : Network) (deviceId : String) : Prop :=
  ∃ session, network.session deviceId = some session ∧ session.connected = false

/-- A reconnect event removes a session only when a detach armed it and the device
has been disconnected ever since. -/
def TimersHarmless (entries : List Entry) : Prop :=
  ∀ entry ∈ entries, ∀ event session, entry.action = .handleReconnect event →
    entry.result.removed = some session →
    (∃ arming ∈ entries, arming.before.clock = event.armedAt ∧
        arming.result.armed = some event.key) ∧
      ∀ between ∈ entries, event.armedAt < between.before.clock →
        between.before.clock ≤ entry.before.clock →
        Disconnected between.before.ioMap event.deviceId

/-- The device that another one displaces, with the generation it goes offline in. -/
def displacedKey (network : Network) (association : Association) (deviceId : String)
    (advance : UInt64 → UInt64) : Option ReconnectKey :=
  (network.displacedBy association deviceId).bind fun other =>
    (network.session other).map fun session => (other, advance session.connectionGeneration)

/-- The device that an operation takes offline and keeps, with the generation of
its session afterwards. -/
def takenOffline (network : Network) : Operation → Option ReconnectKey
  | .registerDevice deviceId registration scheduled =>
      if (network.session deviceId).any fun current =>
          !current.connected && !current.registrationGenerationChanged registration.session then
        displacedKey network registration.association deviceId (· + 1)
      else if scheduled then
        displacedKey (network.removeDeviceByInner deviceId).2 registration.association deviceId id
      else none
  | .deviceHeart deviceId association _ =>
      if (network.session deviceId).isSome then displacedKey network association deviceId (· + 1)
      else none
  | .detachDeviceAssociation association scheduled _ =>
      (network.netDeviceMap association).bind fun deviceId =>
        (network.session deviceId).bind fun session =>
          if scheduled || session.connectionGeneration == 18446744073709551615 then
            some (deviceId, session.connectionGeneration + 1)
          else none
  | _ => none

/-- A detach arms the timer of the generation it starts, unless that wrapped. -/
def rearms (operation : Operation) (key : ReconnectKey) : Bool :=
  match operation with
  | .detachDeviceAssociation .. => key.2 != 0
  | _ => false

/-- The action takes a device offline in a generation for which an older event is
under way. -/
def revives (register : Register) (action : Action) : Bool :=
  (action.operation register).any fun operation =>
    (takenOffline register.ioMap operation).any fun key =>
      register.taken.any (fun event => event.key == key) ||
        (register.armed key).isSome && !rearms operation key

section Offline

variable {network : Network} {deviceId : String} {session : DeviceSession}

/-- A seated device takes only the previous owner of its association offline. -/
theorem offline_of_seats {advance : UInt64 → UInt64} {cleared next : Network} {newcomer : String}
    {bound : DeviceSession} (seats : Seats advance cleared newcomer bound next)
    (clears : Clears network newcomer bound.association cleared)
    (online : bound.connected = true) (stored : next.session deviceId = some session)
    (offline : session.connected = false) :
    network.session deviceId = some session ∨
      displacedKey network bound.association newcomer advance =
        some (deviceId, session.connectionGeneration) := by
  have different : deviceId ≠ newcomer := by
    rintro rfl
    rw [seats.self] at stored
    cases stored
    rw [online] at offline
    cases offline
  have owner : cleared.netDeviceMap bound.association =
      network.netDeviceMap bound.association := by
    rw [clears.mapping, if_neg]
    exact fun elsewhere => elsewhere.1 rfl
  by_cases displaced : cleared.netDeviceMap bound.association = some deviceId
  · rw [seats.displaced deviceId different displaced, Option.map_eq_some_iff, clears.session]
      at stored
    obtain ⟨before, held, rfl⟩ := stored
    apply Or.inr
    have displacedBy : network.displacedBy bound.association newcomer = some deviceId :=
      displacedBy_eq_some.mpr ⟨owner.symm.trans displaced, different⟩
    simp [displacedKey, displacedBy, held, takenOver]
  · apply Or.inl
    rw [seats.others deviceId different displaced, clears.session] at stored
    exact stored

theorem session_of_removeDeviceByInner {removedId : String}
    (stored : (network.removeDeviceByInner removedId).2.session deviceId = some session) :
    network.session deviceId = some session := by
  cases held : network.session removedId with
  | none => simpa [removeDeviceByInner, held] using stored
  | some removed =>
      simp only [removeDeviceByInner, held] at stored
      split at stored <;> simp at stored <;> exact stored.2

theorem session_of_expireDisconnectedByInner {expiredId : String} {generation : UInt64}
    (stored : (network.expireDisconnectedByInner expiredId generation).2.session deviceId =
      some session) : network.session deviceId = some session := by
  unfold expireDisconnectedByInner at stored
  rcases removeDisconnected_cases network expiredId generation with
    ignored | ⟨removed, held, -, -, expired⟩
  · rw [ignored] at stored
    exact stored
  · rw [expired] at stored
    simp at stored
    exact stored.2

/-- A registration leaves a session disconnected that was so before, or takes it offline. -/
theorem offline_registerDevice (sane : Sane network) {newcomer : String} {registration : Registration}
    {scheduled : Bool}
    (stored : (network.step (.registerDevice newcomer registration scheduled)).2.session deviceId =
      some session) (offline : session.connected = false) :
    network.session deviceId = some session ∨
      takenOffline network (.registerDevice newcomer registration scheduled) =
        some (deviceId, session.connectionGeneration) := by
  simp only [Network.step] at stored
  rcases registerDevice_cases network newcomer registration.session scheduled with
    ⟨current, held, currentOffline, unchanged, rebound⟩ | ⟨restarted, removed⟩
  · rw [rebound] at stored
    obtain ⟨-, cleared, clears, seats⟩ :=
      sane.rebindRegistration_seats held currentOffline registration.session
    rcases offline_of_seats seats clears rfl stored offline with same | displaced
    · exact .inl same
    · apply Or.inr
      simpa [takenOffline, held, currentOffline, unchanged] using displaced
  · rw [removed] at stored
    have replaced : ((network.session newcomer).any fun current =>
        !current.connected && !current.registrationGenerationChanged
          registration.session) = false := by
      rw [Option.any_eq_false]
      intro current held
      cases online : current.connected with
      | true => rfl
      | false => simp [restarted current held online]
    cases scheduled with
    | false => exact .inl (session_of_removeDeviceByInner stored)
    | true =>
        have seats := insert_seats (network.removeDeviceByInner newcomer).2 newcomer
          registration.session
        have clears := sane.clears_removed newcomer registration.session.association
        rcases offline_of_seats seats clears rfl stored offline with same | displaced
        · exact .inl (session_of_removeDeviceByInner same)
        · apply Or.inr
          simpa [takenOffline, replaced] using displaced

/-- A detach leaves a session disconnected that was so before, or takes it offline. -/
theorem offline_detach (sane : Sane network) {association : Association} {scheduled : Bool}
    {now : Instant}
    (stored : (network.step (.detachDeviceAssociation association scheduled now)).2.session deviceId =
      some session) (offline : session.connected = false) :
    network.session deviceId = some session ∨
      takenOffline network (.detachDeviceAssociation association scheduled now) =
        some (deviceId, session.connectionGeneration) := by
  simp only [Network.step, detachDeviceAssociation] at stored
  rcases sane.detachAssociation_cases association now with
    ⟨ignored, -⟩ | ⟨detachedId, current, owner, held, online, -, detached⟩
  · rw [ignored] at stored
    exact .inl stored
  · rw [detached] at stored
    have unseated : ((network.unseat detachedId current
        (some (detachedSession current))).session deviceId = some session) →
        network.session deviceId = some session ∨
          (deviceId, session.connectionGeneration) =
            (detachedId, current.connectionGeneration + 1) := by
      intro left
      rw [unseat_session] at left
      split at left
      · next same =>
          cases left
          exact .inr (by rw [same]; rfl)
      · exact .inl left
    cases scheduled with
    | true =>
        rcases unseated stored with same | wentOffline
        · exact .inl same
        · apply Or.inr
          simp [takenOffline, owner, held, wentOffline]
    | false =>
        rcases unseated (session_of_expireDisconnectedByInner stored) with same | wentOffline
        · exact .inl same
        · apply Or.inr
          by_cases wraps : current.connectionGeneration = 18446744073709551615
          · simp [takenOffline, owner, held, wentOffline, wraps]
          · exfalso
            obtain ⟨rfl, -⟩ := Prod.mk.inj wentOffline
            simp [expireDisconnectedByInner, removeDisconnected, saturatingSucc_of_ne wraps,
              detachedSession] at stored

/-- A session that is disconnected after an operation was so before, or the
operation has just taken it offline. -/
theorem offline_step (sane : Sane network) (operation : Operation)
    (stored : (network.step operation).2.session deviceId = some session)
    (offline : session.connected = false) :
    network.session deviceId = some session ∨
      takenOffline network operation = some (deviceId, session.connectionGeneration) := by
  cases operation with
  | registerDevice => exact offline_registerDevice sane stored offline
  | deviceHeart newcomer association now =>
      simp only [Network.step] at stored
      rw [deviceHeart_network] at stored
      cases held : network.session newcomer with
      | none =>
          simp only [rebind, held] at stored
          exact .inl stored
      | some current =>
          obtain ⟨bound, cleared, clears, online, -, rfl, seats⟩ :=
            sane.rebind_seats held association now
          rcases offline_of_seats seats clears online stored offline with same | displaced
          · exact .inl same
          · apply Or.inr
            simpa [takenOffline, held] using displaced
  | detachDeviceAssociation => exact offline_detach sane stored offline
  | lifetimeExpired removedId => exact .inl (session_of_removeDeviceByInner stored)
  | reconnectExpired expiredId generation =>
      exact .inl (session_of_expireDisconnectedByInner stored)

/-- A detach that keeps the device arms the timer of its new generation. -/
theorem armed_of_rearms (sane : Sane network) {operation : Operation} {key : ReconnectKey}
    (offline : takenOffline network operation = some key) (again : rearms operation key = true) :
    (network.step operation).1.armed = some key := by
  cases operation with
  | detachDeviceAssociation association scheduled now =>
      rcases sane.detachAssociation_cases association now with
        ⟨-, unowned⟩ | ⟨detachedId, current, owner, held, online, -, detached⟩
      · simp [takenOffline, unowned] at offline
      · simp only [takenOffline, owner, held, Option.bind_some, Option.ite_none_right_eq_some,
          Option.some.injEq] at offline
        obtain ⟨kept, rfl⟩ := offline
        have below : current.connectionGeneration ≠ 18446744073709551615 := by
          intro last
          simp [rearms, last] at again
        have accepted : scheduled = true := by simpa [below] using kept
        simp [Network.step, detachDeviceAssociation, detached, accepted,
          saturatingSucc_of_ne below]
  | _ => cases again

end Offline

/-- A timer in the scheduler or an event that was handed out. -/
def Outstanding (register : Register) (event : ReconnectEvent) : Prop :=
  event ∈ register.taken ∨ register.armed event.key = some event.armedAt

theorem schedule_eq_some {armed : ReconnectKey → Option Nat} {effect : Effect} {clock time : Nat}
    {key : ReconnectKey} (scheduled : schedule armed effect clock key = some time) :
    armed key = some time ∨ (time = clock ∧ effect.armed = some key) := by
  unfold schedule at scheduled
  split at scheduled
  · next arms => exact .inr ⟨(Option.some.inj scheduled).symm, arms⟩
  · split at scheduled
    · cases scheduled
    · exact .inl scheduled

theorem outstanding_of_mem_events {register : Register} {action : Action}
    {event : ReconnectEvent} (member : event ∈ action.events register) :
    Outstanding register event := by
  cases action with
  | takeReconnect key =>
      cases armed : register.armed key with
      | none => exact .inl (by simpa [Action.events, armed] using member)
      | some armedAt =>
          simp only [Action.events, armed, List.mem_cons] at member
          rcases member with rfl | member
          · exact .inr armed
          · exact .inl member
  | handleReconnect handled => exact .inl (List.mem_of_mem_erase member)
  | _ => exact .inl member

/-- An outstanding event was so before, or the step has just armed it. -/
theorem outstanding_step {register : Register} {action : Action} {event : ReconnectEvent}
    (outstanding : Outstanding (step register action).2 event) :
    Outstanding register event ∨
      (event.armedAt = register.clock ∧ (step register action).1.armed = some event.key) := by
  rcases outstanding with taken | armed
  · exact .inl (outstanding_of_mem_events taken)
  · rcases schedule_eq_some armed with before | now
    · exact .inl (.inr before)
    · exact .inr now

/-- What holds of a register and the steps that led to it. -/
structure History (past : List Entry) (register : Register) : Prop where
  sane : Sane register.ioMap
  earlier : ∀ entry ∈ past, entry.before.clock < register.clock
  armedBy : ∀ event, Outstanding register event →
    ∃ arming ∈ past, arming.before.clock = event.armedAt ∧ arming.result.armed = some event.key
  continuous : ∀ event session, Outstanding register event →
    register.ioMap.session event.deviceId = some session → session.connected = false →
    session.connectionGeneration = event.generation →
    ∀ entry ∈ past, event.armedAt < entry.before.clock →
      Disconnected entry.before.ioMap event.deviceId

theorem step_of_operation {register : Register} {action : Action} {operation : Operation}
    (performs : action.operation register = some operation) :
    (step register action).1 = (register.ioMap.step operation).1 ∧
      (step register action).2.ioMap = (register.ioMap.step operation).2 := by
  simp [step, performs]

/-- An event that is outstanding when its device goes offline in its generation has
just been armed. -/
theorem armed_now {register : Register} {action : Action} {operation : Operation}
    {event : ReconnectEvent} (sane : Sane register.ioMap)
    (unambiguous : revives register action = false)
    (performs : action.operation register = some operation)
    (offline : takenOffline register.ioMap operation = some event.key)
    (outstanding : Outstanding (step register action).2 event) :
    event.armedAt = register.clock := by
  simp only [revives, performs, Option.any_some, offline, Bool.or_eq_false_iff,
    Bool.and_eq_false_iff, Bool.not_eq_false'] at unambiguous
  obtain ⟨untaken, unarmed⟩ := unambiguous
  rcases outstanding with taken | armed
  · have before : event ∈ register.taken := by
      cases action with
      | takeReconnect key => cases performs
      | handleReconnect handled => exact List.mem_of_mem_erase taken
      | _ => exact taken
    rw [List.any_eq_false] at untaken
    exact absurd (beq_self_eq_true event.key) (untaken event before)
  · rcases schedule_eq_some armed with before | ⟨now, -⟩
    · rcases unarmed with absent | again
      · rw [before] at absent
        cases absent
      · have arms : (step register action).1.armed = some event.key := by
          rw [(step_of_operation performs).1]
          exact armed_of_rearms sane offline again
        have scheduled : (step register action).2.armed event.key = some register.clock :=
          if_pos arms
        rw [scheduled] at armed
        exact (Option.some.inj armed).symm
    · exact now

theorem history_step (past : List Entry) (register : Register) (action : Action)
    (history : History past register) (unambiguous : revives register action = false) :
    History (past ++ [Runs.transition step register action]) (step register action).2 := by
  have earlier : ∀ entry ∈ past ++ [Runs.transition step register action],
      entry.before.clock ≤ register.clock := by
    intro entry member
    rcases List.mem_append.mp member with old | new
    · exact Nat.le_of_lt (history.earlier entry old)
    · cases List.mem_singleton.mp new
      exact Nat.le_refl _
  have kept : ∀ event session, Outstanding (step register action).2 event →
      (step register action).2.ioMap.session event.deviceId = some session →
      session.connected = false → session.connectionGeneration = event.generation →
      register.ioMap.session event.deviceId = some session ∨ event.armedAt = register.clock := by
    intro event session outstanding stored offline generation
    cases performs : action.operation register with
    | none =>
        apply Or.inl
        simpa [step, performs] using stored
    | some operation =>
        rw [(step_of_operation performs).2] at stored
        rcases offline_step history.sane operation stored offline with same | wentOffline
        · exact .inl same
        · rw [generation] at wentOffline
          exact .inr (armed_now history.sane unambiguous performs wentOffline outstanding)
  constructor
  · cases performs : action.operation register with
    | none => simpa [step, performs] using history.sane
    | some operation =>
        rw [(step_of_operation performs).2]
        exact (keeps_step history.sane operation).sane
  · intro entry member
    exact Nat.lt_succ_of_le (earlier entry member)
  · intro event outstanding
    rcases outstanding_step outstanding with before | ⟨now, arms⟩
    · obtain ⟨arming, member, armed⟩ := history.armedBy event before
      exact ⟨arming, List.mem_append_left _ member, armed⟩
    · exact ⟨_, List.mem_append_right _ (List.mem_singleton.mpr rfl), now.symm, arms⟩
  · intro event session outstanding stored offline generation entry member later
    have notNow : event.armedAt ≠ register.clock := by
      have bound := earlier entry member
      omega
    have same : register.ioMap.session event.deviceId = some session :=
      (kept event session outstanding stored offline generation).resolve_right notNow
    rcases List.mem_append.mp member with old | new
    · rcases outstanding_step outstanding with before | ⟨now, -⟩
      · exact history.continuous event session before same offline generation entry old later
      · exact absurd now notNow
    · cases List.mem_singleton.mp new
      exact ⟨session, same, offline⟩

theorem step_ticks (register : Register) (action : Action) :
    register.clock < (step register action).2.clock :=
  Nat.lt_succ_self register.clock

/-- An event removes a session that is disconnected in its generation. -/
theorem removed_by_event {register : Register} {event : ReconnectEvent} {session : DeviceSession}
    (removed : (step register (.handleReconnect event)).1.removed = some session) :
    event ∈ register.taken ∧ register.ioMap.session event.deviceId = some session ∧
      session.connected = false ∧ session.connectionGeneration = event.generation := by
  by_cases taken : event ∈ register.taken
  · simp only [step, Action.operation, taken, if_true, Network.step,
      expireDisconnectedByInner] at removed
    rcases removeDisconnected_cases register.ioMap event.deviceId event.generation with
      ignored | ⟨found, held, offline, same, expired⟩
    · simp [ignored] at removed
    · simp only [expired, Option.some.injEq] at removed
      subst removed
      exact ⟨taken, held, offline, same⟩
  · simp [step, Action.operation, taken] at removed

theorem history_empty : History [] empty := by
  constructor
  · exact sane_empty
  · intro entry member
    cases member
  · rintro event (taken | armed)
    · cases taken
    · cases armed
  · intro event session outstanding stored offline generation entry member
    cases member

/-- Reconnect timers are harmless in every run in which no device goes offline in a
generation for which an older event is still under way. -/
theorem timers_harmless (actions : List Action)
    (unambiguous : ∀ entry ∈ Runs.run step empty actions,
      revives entry.before entry.action = false) :
    TimersHarmless (Runs.run step empty actions) := by
  intro entry member event session handles removed
  obtain ⟨first, second, split⟩ := List.append_of_mem member
  have history : History ([] ++ first) entry.before :=
    Runs.history_run History (fun register action => revives register action = false)
      history_step history_empty unambiguous split
  rw [List.nil_append] at history
  rw [Runs.mem_run member, handles] at removed
  obtain ⟨taken, held, offline, generation⟩ := removed_by_event removed
  constructor
  · obtain ⟨arming, inFirst, armed⟩ := history.armedBy event (.inl taken)
    exact ⟨arming, ((Runs.mem_before_iff step_ticks split).mp inFirst).1, armed⟩
  · intro between inRun later notAfter
    rcases Nat.lt_or_eq_of_le notAfter with before | same
    · exact history.continuous event session (.inl taken) held offline generation between
        ((Runs.mem_before_iff step_ticks split).mpr ⟨inRun, before⟩) later
    · rw [Runs.eq_of_clock_eq step_ticks inRun member same]
      exact ⟨session, held, offline⟩

/-- A device disconnects and does not come back. -/
def neverReconnects : List Action :=
  [.registerDevice "34020000001320000001" (registrationFrom 40001) true,
    .detachDeviceAssociation (tcpAssociation 40001) true 0,
    .takeReconnect ("34020000001320000001", 1),
    .handleReconnect ⟨"34020000001320000001", 1, 1⟩]

theorem timers_harmless_neverReconnects :
    (((Runs.run step empty neverReconnects).map fun entry => entry.result.removed.isSome) =
        [false, false, false, true]) ∧
      TimersHarmless (Runs.run step empty neverReconnects) :=
  ⟨by decide +kernel, timers_harmless neverReconnects (by decide +kernel)⟩

/-- A timer fires, and its event waits. Meanwhile the device registers twice, which
gives it a fresh session, and disconnects again. -/
def reconnectsTwice : List Action :=
  [.registerDevice "34020000001320000001" (registrationFrom 40001) true,
    .detachDeviceAssociation (tcpAssociation 40001) true 0,
    .takeReconnect ("34020000001320000001", 1),
    .registerDevice "34020000001320000001" (registrationFrom 40002) true,
    .registerDevice "34020000001320000001" (registrationFrom 40002) true,
    .detachDeviceAssociation (tcpAssociation 40002) true 0,
    .handleReconnect ⟨"34020000001320000001", 1, 1⟩]

/-- The old event removes the session although the device was connected since. -/
theorem old_event_removes_fresh_session :
    ¬TimersHarmless (Runs.run step empty reconnectsTwice) := by
  intro harmless
  have handled := List.get_mem (Runs.run step empty reconnectsTwice) ⟨6, by decide⟩
  have reconnected := List.get_mem (Runs.run step empty reconnectsTwice) ⟨4, by decide⟩
  have removes : ((Runs.run step empty reconnectsTwice).get
      ⟨6, by decide⟩).result.removed.isSome = true := by
    decide +kernel
  obtain ⟨session, removed⟩ := Option.isSome_iff_exists.mp removes
  obtain ⟨held, found, offline⟩ :=
    (harmless _ handled ⟨"34020000001320000001", 1, 1⟩ session rfl removed).2 _ reconnected
      (by decide) (by decide)
  have online : (((Runs.run step empty reconnectsTwice).get
      ⟨4, by decide⟩).before.ioMap.session "34020000001320000001").map
        DeviceSession.connected = some true := by
    decide +kernel
  rw [found, Option.map_some, offline] at online
  cases online

end Register

end Gmv.Session
