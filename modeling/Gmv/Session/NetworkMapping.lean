import Gmv.Library.Runs
import Gmv.Library.Tenancy
import Gmv.Session.Network

/-!
# The mapping of associations to devices

A connected device is the tenant of its association.  Every entry of the mapping
names a device that is connected through that association, whatever happens.  The
other direction depends on the removal of sessions: `remove_device_by_inner` clears
the entry of the association without asking who owns it, so it cuts off another
device that has taken over the association of a detached one.
-/

namespace Gmv.Session.Network

open Gmv.Library

/-- The association of a session that is connected and not taken over. -/
def seat (session : Option DeviceSession) : Option Association :=
  (session.filter fun session => session.connected && !session.associationExpire).map
    DeviceSession.association

/-- The association through which a device is connected. -/
def place (network : Network) (deviceId : String) : Option Association :=
  seat (network.session deviceId)

theorem place_eq_connectedSession (network : Network) (deviceId : String) :
    network.place deviceId = (network.connectedSession deviceId).map DeviceSession.association :=
  rfl

theorem seat_eq_some {session : Option DeviceSession} {association : Association} :
    seat session = some association ↔ ∃ held, session = some held ∧ held.connected = true ∧
      held.associationExpire = false ∧ held.association = association := by
  cases session with
  | none => simp [seat]
  | some held => simp [seat, Option.filter, and_assoc, Bool.and_eq_true]

@[simp]
theorem setSession_session (network : Network) (deviceId other : String)
    (session : Option DeviceSession) : (network.setSession deviceId session).session other =
      if other = deviceId then session else network.session other := by
  simp [setSession, Function.update_apply]

@[simp]
theorem setSession_netDeviceMap (network : Network) (deviceId : String)
    (session : Option DeviceSession) :
    (network.setSession deviceId session).netDeviceMap = network.netDeviceMap := rfl

@[simp]
theorem setMapping_session (network : Network) (association : Association)
    (deviceId : Option String) :
    (network.setMapping association deviceId).session = network.session := rfl

@[simp]
theorem setMapping_netDeviceMap (network : Network) (association other : Association)
    (deviceId : Option String) : (network.setMapping association deviceId).netDeviceMap other =
      if other = association then deviceId else network.netDeviceMap other := by
  simp [setMapping, Function.update_apply]

@[simp]
theorem removeDeviceMapping_session (network : Network) (deviceId : String)
    (association : Association) :
    (network.removeDeviceMapping deviceId association).session = network.session := by
  unfold removeDeviceMapping
  split <;> rfl

theorem removeDeviceMapping_netDeviceMap (network : Network) (deviceId : String)
    (association other : Association) :
    (network.removeDeviceMapping deviceId association).netDeviceMap other =
      if other = association ∧ network.netDeviceMap association = some deviceId then none
      else network.netDeviceMap other := by
  unfold removeDeviceMapping
  split
  · next own => simp [own]
  · next foreign => simp [foreign]

theorem displacedBy_eq_some {network : Network} {association : Association}
    {deviceId other : String} : network.displacedBy association deviceId = some other ↔
      network.netDeviceMap association = some other ∧ other ≠ deviceId := by
  simp [displacedBy, Option.filter_eq_some_iff]

@[simp]
theorem expel_netDeviceMap (network : Network) (displacedDeviceId : Option String)
    (advance : UInt64 → UInt64) :
    (network.expel displacedDeviceId advance).netDeviceMap = network.netDeviceMap := by
  cases displacedDeviceId <;> rfl

@[simp]
theorem expel_session (network : Network) (displacedDeviceId : Option String)
    (advance : UInt64 → UInt64) (other : String) :
    (network.expel displacedDeviceId advance).session other =
      if displacedDeviceId = some other then (network.session other).map (takenOver advance)
      else network.session other := by
  cases displacedDeviceId with
  | none => simp [expel]
  | some deviceId =>
      by_cases same : other = deviceId
      · simp [expel, same]
      · simp [expel, same, Ne.symm same]

/-- A device is stored under its association and displaces the owner. -/
structure Seats (advance : UInt64 → UInt64) (network : Network) (deviceId : String)
    (session : DeviceSession) (next : Network) : Prop where
  gained : next.netDeviceMap session.association = some deviceId
  kept : ∀ other, other ≠ session.association →
    next.netDeviceMap other = network.netDeviceMap other
  self : next.session deviceId = some session
  displaced : ∀ other, other ≠ deviceId → network.netDeviceMap session.association = some other →
    next.session other = (network.session other).map (takenOver advance)
  others : ∀ other, other ≠ deviceId → network.netDeviceMap session.association ≠ some other →
    next.session other = network.session other

theorem displace_seats (network : Network) (deviceId : String) (session : DeviceSession) :
    Seats (· + 1) network deviceId session (network.displace deviceId session) := by
  unfold displace
  constructor
  · simp
  · intro other elsewhere
    simp [elsewhere]
  · have notSelf : network.displacedBy session.association deviceId ≠ some deviceId := by
      simp [displacedBy_eq_some]
    simp [notSelf]
  · intro other different owner
    simp [displacedBy_eq_some, different, owner]
  · intro other different foreign
    simp [displacedBy_eq_some, different, foreign]

theorem insert_seats (network : Network) (deviceId : String) (session : DeviceSession) :
    Seats id network deviceId { session with associationExpire := false, connected := true }
      (network.insert deviceId session) := by
  unfold insert updateNetDeviceMapping
  constructor
  · simp
  · intro other elsewhere
    simp [elsewhere]
  · simp
  · intro other different owner
    simp [displacedBy_eq_some, different, owner]
  · intro other different foreign
    simp [displacedBy_eq_some, different, foreign]

/-- What holds in every network: an entry of the mapping names a device that is
connected through it, and a connected session is not taken over. -/
structure Sane (network : Network) : Prop where
  sound : Tenancy.Sound network.netDeviceMap network.place
  fresh : ∀ deviceId session, network.session deviceId = some session →
    session.connected = true → session.associationExpire = false

/-- The mapping and the connected sessions agree. -/
structure Mapped (network : Network) : Prop where
  connected : ∀ deviceId session, network.session deviceId = some session →
    session.connected = true → session.associationExpire = false →
    network.netDeviceMap session.association = some deviceId
  entries : ∀ association deviceId, network.netDeviceMap association = some deviceId →
    ∃ session, network.session deviceId = some session ∧ session.association = association ∧
      session.connected = true

section Sane

variable {network next : Network} {deviceId : String} {session : DeviceSession}

theorem Sane.owner (sane : Sane network) {association : Association}
    (owner : network.netDeviceMap association = some deviceId) :
    ∃ held, network.session deviceId = some held ∧ held.connected = true ∧
      held.associationExpire = false ∧ held.association = association :=
  seat_eq_some.mp (sane.sound association deviceId owner)

/-- A disconnected device owns no association. -/
theorem Sane.disconnected (sane : Sane network) (held : network.session deviceId = some session)
    (offline : session.connected = false) (association : Association) :
    network.netDeviceMap association ≠ some deviceId := by
  intro owner
  obtain ⟨other, found, online, -⟩ := sane.owner owner
  rw [held] at found
  cases found
  rw [offline] at online
  cases online

theorem Sane.mapped_iff (sane : Sane network) :
    Mapped network ↔ Tenancy.Complete network.netDeviceMap network.place := by
  constructor
  · intro mapped association deviceId located
    obtain ⟨session, held, online, fresh, rfl⟩ := seat_eq_some.mp located
    exact mapped.connected deviceId session held online fresh
  · intro complete
    constructor
    · intro deviceId session held online fresh
      exact complete _ _ (seat_eq_some.mpr ⟨session, held, online, fresh, rfl⟩)
    · intro association deviceId owner
      obtain ⟨session, held, online, -, associated⟩ := sane.owner owner
      exact ⟨session, held, associated, online⟩

theorem sane_empty : Sane empty := by
  constructor
  · intro association deviceId owner
    cases owner
  · intro deviceId session held
    cases held

/-- The entries of a device other than the one for an association are cleared. -/
structure Clears (network : Network) (deviceId : String) (association : Association)
    (cleared : Network) : Prop where
  session : cleared.session = network.session
  mapping : ∀ other, cleared.netDeviceMap other =
    if other ≠ association ∧ network.netDeviceMap other = some deviceId then none
    else network.netDeviceMap other

theorem Clears.occupies {advance : UInt64 → UInt64} {cleared : Network}
    (clears : Clears network deviceId session.association cleared)
    (seats : Seats advance cleared deviceId session next) (online : session.connected = true)
    (fresh : session.associationExpire = false) :
    Tenancy.Occupies network.netDeviceMap network.place deviceId session.association
      next.netDeviceMap next.place := by
  have owner : cleared.netDeviceMap session.association =
      network.netDeviceMap session.association := by
    rw [clears.mapping, if_neg]
    exact fun different => different.1 rfl
  constructor
  · exact seats.gained
  · intro other elsewhere
    rw [seats.kept other elsewhere, clears.mapping]
    simp [elsewhere]
  · exact seat_eq_some.mpr ⟨session, seats.self, online, fresh, rfl⟩
  · intro other different
    rw [place, place, ← owner]
    split
    · next displaced =>
        rw [seats.displaced other different displaced]
        cases cleared.session other <;> simp [seat, takenOver]
    · next kept =>
        rw [seats.others other different kept, clears.session]

theorem Clears.sane {advance : UInt64 → UInt64} {cleared : Network}
    (clears : Clears network deviceId session.association cleared)
    (seats : Seats advance cleared deviceId session next) (online : session.connected = true)
    (fresh : session.associationExpire = false) (sane : Sane network) : Sane next := by
  constructor
  · exact sane.sound.occupies (clears.occupies seats online fresh)
  · intro other held found connected
    by_cases same : other = deviceId
    · subst same
      rw [seats.self] at found
      cases found
      exact fresh
    · by_cases displaced : cleared.netDeviceMap session.association = some other
      · rw [seats.displaced other same displaced, Option.map_eq_some_iff] at found
        obtain ⟨before, -, rfl⟩ := found
        cases connected
      · rw [seats.others other same displaced, clears.session] at found
        exact sane.fresh other held found connected

/-- A session that is removed leaves its place. -/
theorem Sane.removeDeviceByInner_leaves (sane : Sane network)
    (held : network.session deviceId = some session) :
    Tenancy.Leaves network.netDeviceMap network.place deviceId
      (network.removeDeviceByInner deviceId).2.netDeviceMap
      (network.removeDeviceByInner deviceId).2.place := by
  simp only [removeDeviceByInner, held]
  constructor
  · intro association other owner
    cases expired : session.associationExpire with
    | true =>
        simp only [expired, if_true, setSession_netDeviceMap] at owner
        refine ⟨owner, ?_⟩
        rintro rfl
        obtain ⟨found, same, -, fresh, -⟩ := sane.owner owner
        rw [held] at same
        cases same
        rw [expired] at fresh
        cases fresh
    | false =>
        simp only [expired, Bool.false_eq_true, if_false, setMapping_netDeviceMap,
          setSession_netDeviceMap] at owner
        split at owner
        · cases owner
        · next elsewhere =>
            refine ⟨owner, ?_⟩
            rintro rfl
            obtain ⟨found, same, -, -, associated⟩ := sane.owner owner
            rw [held] at same
            cases same
            exact elsewhere associated.symm
  · cases session.associationExpire <;> simp [place, seat]
  · intro other different
    cases session.associationExpire <;> simp [place, different]

/-- The removal of this session clears an entry that belongs to another device. -/
def CutsOffOwner (network : Network) (session : DeviceSession) : Prop :=
  session.connected = false ∧ session.associationExpire = false ∧
    network.netDeviceMap session.association ≠ none

theorem Sane.removeDeviceByInner_complete_iff (sane : Sane network)
    (held : network.session deviceId = some session)
    (complete : Tenancy.Complete network.netDeviceMap network.place) :
    Tenancy.Complete (network.removeDeviceByInner deviceId).2.netDeviceMap
        (network.removeDeviceByInner deviceId).2.place ↔ ¬CutsOffOwner network session := by
  rw [complete.leaves_iff sane.sound (sane.removeDeviceByInner_leaves held)]
  simp only [removeDeviceByInner, held]
  constructor
  · rintro kept ⟨offline, fresh, owned⟩
    obtain ⟨other, owner⟩ := Option.ne_none_iff_exists'.mp owned
    have different : other ≠ deviceId := by
      rintro rfl
      exact sane.disconnected held offline _ owner
    have after := kept session.association other different owner
    simp [fresh] at after
  · intro harmless association other different owner
    cases expired : session.associationExpire with
    | true => simpa using owner
    | false =>
        have elsewhere : association ≠ session.association := by
          rintro rfl
          cases online : session.connected with
          | true =>
              have own := complete _ _ (seat_eq_some.mpr ⟨session, held, online, expired, rfl⟩)
              rw [own] at owner
              exact different (Option.some.inj owner).symm
          | false =>
              apply harmless
              exact ⟨online, expired, by rw [owner]; exact Option.some_ne_none _⟩
        simpa [elsewhere] using owner

theorem Sane.removeDeviceByInner (sane : Sane network) :
    Sane (network.removeDeviceByInner deviceId).2 := by
  cases held : network.session deviceId with
  | none => simpa only [Network.removeDeviceByInner, held] using sane
  | some session =>
      constructor
      · exact sane.sound.leaves (sane.removeDeviceByInner_leaves held)
      · intro other found stored online
        simp only [Network.removeDeviceByInner, held] at stored
        have before : network.session other = some found := by
          split at stored <;> simp at stored <;> exact stored.2
        exact sane.fresh other found before online

theorem removeDeviceByInner_absent (network : Network) (deviceId : String) :
    (network.removeDeviceByInner deviceId).2.session deviceId = none := by
  cases held : network.session deviceId with
  | none => simp [Network.removeDeviceByInner, held]
  | some session =>
      simp only [Network.removeDeviceByInner, held]
      split <;> simp

/-- A device gives up the association it had before it is seated again. -/
theorem Sane.clears_removeDeviceMapping (sane : Sane network)
    (held : network.session deviceId = some session) {association : Association}
    (moves : session.association ≠ association ∨ session.connected = false) :
    Clears network deviceId association
      (network.removeDeviceMapping deviceId session.association) := by
  constructor
  · exact removeDeviceMapping_session ..
  · intro other
    rw [removeDeviceMapping_netDeviceMap]
    apply if_congr _ rfl rfl
    constructor
    · rintro ⟨rfl, owner⟩
      refine ⟨?_, owner⟩
      rcases moves with changed | offline
      · exact changed
      · exact absurd owner (sane.disconnected held offline _)
    · rintro ⟨elsewhere, owner⟩
      obtain ⟨found, same, -, -, rfl⟩ := sane.owner owner
      rw [held] at same
      cases same
      exact ⟨rfl, owner⟩

theorem Sane.clears_self (sane : Sane network) {association : Association}
    (only : ∀ held, network.session deviceId = some held → held.association = association) :
    Clears network deviceId association network := by
  constructor
  · rfl
  · intro other
    rw [if_neg]
    rintro ⟨elsewhere, owner⟩
    obtain ⟨found, held, -, -, rfl⟩ := sane.owner owner
    exact elsewhere (only found held)

/-- A removed device has no entries left. -/
theorem Sane.clears_removed (sane : Sane network) (deviceId : String)
    (association : Association) :
    Clears (network.removeDeviceByInner deviceId).2 deviceId association
      (network.removeDeviceByInner deviceId).2 := by
  apply sane.removeDeviceByInner.clears_self
  intro held found
  rw [removeDeviceByInner_absent] at found
  cases found

/-- What `rebind` does to a device that has a session. -/
theorem Sane.rebind_seats (sane : Sane network) (held : network.session deviceId = some session)
    (association : Association) (now : Instant) :
    ∃ bound cleared, Clears network deviceId bound.association cleared ∧
      bound.connected = true ∧ bound.associationExpire = false ∧
      bound.association = association ∧
      Seats (· + 1) cleared deviceId bound (network.rebind deviceId association now).2 := by
  simp only [rebind, held]
  refine ⟨_, _, ?_, rfl, rfl, rfl, displace_seats _ _ _⟩
  by_cases changed : session.association = association
  · have unchanged : (session.association != association) = false := by simp [changed]
    simp only [unchanged, Bool.false_eq_true, if_false]
    apply sane.clears_self
    intro found same
    rw [held] at same
    cases same
    exact changed
  · have different : (session.association != association) = true := by simp [changed]
    simp only [different, if_true]
    exact sane.clears_removeDeviceMapping held (.inl changed)

/-- What `rebind_registration` does to a disconnected device. -/
theorem Sane.rebindRegistration_seats (sane : Sane network)
    (held : network.session deviceId = some session) (offline : session.connected = false)
    (newSession : DeviceSession) :
    (network.rebindRegistration deviceId newSession).1 = some session.connectionGeneration ∧
      ∃ cleared, Clears network deviceId newSession.association cleared ∧
        Seats (· + 1) cleared deviceId
          { newSession with connectionGeneration := saturatingSucc session.connectionGeneration }
          (network.rebindRegistration deviceId newSession).2 := by
  simp only [rebindRegistration, held, offline, Bool.false_eq_true, if_false]
  exact ⟨trivial, _, sane.clears_removeDeviceMapping held (.inr offline), displace_seats _ _ _⟩

/-- A device whose session goes offline, or goes away, gives up its own entry. -/
def unseat (network : Network) (deviceId : String) (session : DeviceSession)
    (replacement : Option DeviceSession) : Network :=
  (network.setSession deviceId replacement).removeDeviceMapping deviceId session.association

@[simp]
theorem unseat_session (replacement : Option DeviceSession) (other : String) :
    (network.unseat deviceId session replacement).session other =
      if other = deviceId then replacement else network.session other := by
  simp [unseat]

theorem unseat_netDeviceMap (replacement : Option DeviceSession) (other : Association) :
    (network.unseat deviceId session replacement).netDeviceMap other =
      if other = session.association ∧ network.netDeviceMap session.association = some deviceId
      then none else network.netDeviceMap other := by
  rw [unseat, removeDeviceMapping_netDeviceMap]
  rfl

theorem Sane.unseat_leaves (sane : Sane network) (held : network.session deviceId = some session)
    {replacement : Option DeviceSession} (unseated : seat replacement = none) :
    Tenancy.Leaves network.netDeviceMap network.place deviceId
      (network.unseat deviceId session replacement).netDeviceMap
      (network.unseat deviceId session replacement).place := by
  constructor
  · intro association other owner
    rw [unseat_netDeviceMap] at owner
    split at owner
    · cases owner
    · next kept =>
        refine ⟨owner, ?_⟩
        rintro rfl
        obtain ⟨found, same, -, -, rfl⟩ := sane.owner owner
        rw [held] at same
        cases same
        exact kept ⟨rfl, owner⟩
  · simp [place, unseated]
  · intro other different
    simp [place, different]

theorem Sane.unseat_complete (sane : Sane network)
    (held : network.session deviceId = some session) {replacement : Option DeviceSession}
    (unseated : seat replacement = none)
    (complete : Tenancy.Complete network.netDeviceMap network.place) :
    Tenancy.Complete (network.unseat deviceId session replacement).netDeviceMap
      (network.unseat deviceId session replacement).place := by
  rw [complete.leaves_iff sane.sound (sane.unseat_leaves held unseated)]
  intro association other different owner
  rw [unseat_netDeviceMap, if_neg]
  · exact owner
  · rintro ⟨rfl, own⟩
    rw [own] at owner
    exact different (Option.some.inj owner).symm

theorem Sane.unseat (sane : Sane network) (held : network.session deviceId = some session)
    {replacement : Option DeviceSession}
    (offline : ∀ left, replacement = some left → left.connected = false) :
    Sane (network.unseat deviceId session replacement) := by
  have unseated : seat replacement = none := by
    cases replacement with
    | none => rfl
    | some left => simp [seat, offline left rfl]
  constructor
  · exact sane.sound.leaves (sane.unseat_leaves held unseated)
  · intro other found stored online
    rw [unseat_session] at stored
    split at stored
    · rw [offline found stored] at online
      cases online
    · exact sane.fresh other found stored online

end Sane

/-- The session of a device after its association closed. -/
def detachedSession (session : DeviceSession) : DeviceSession :=
  { session with
    connected := false
    connectionGeneration := session.connectionGeneration + 1 }

/-- An association closes on the device that it maps to, or nothing happens. -/
theorem Sane.detachAssociation_cases {network : Network} (sane : Sane network)
    (association : Association) (now : Instant) :
    ((network.detachAssociation association now) = (none, network) ∧
        network.netDeviceMap association = none) ∨
      ∃ deviceId session, network.netDeviceMap association = some deviceId ∧
        network.session deviceId = some session ∧ session.connected = true ∧
        session.association = association ∧
        network.detachAssociation association now =
          (some
            { deviceId := deviceId
              generation := saturatingSucc session.connectionGeneration
              timeout := (detachedSession session).reconnectTimeout now },
            network.unseat deviceId session (some (detachedSession session))) := by
  cases owner : network.netDeviceMap association with
  | none => simp [detachAssociation, owner]
  | some deviceId =>
      obtain ⟨session, held, online, -, rfl⟩ := sane.owner owner
      refine .inr ⟨deviceId, session, rfl, held, online, rfl, ?_⟩
      simp [detachAssociation, owner, held, online, Network.unseat, detachedSession]

/-- A reconnect timer removes a session that is disconnected in its generation. -/
theorem removeDisconnected_cases (network : Network) (deviceId : String) (generation : UInt64) :
    network.removeDisconnected deviceId generation = (none, network) ∨
      ∃ session, network.session deviceId = some session ∧ session.connected = false ∧
        session.connectionGeneration = generation ∧
        network.removeDisconnected deviceId generation =
          (some session, network.unseat deviceId session none) := by
  cases held : network.session deviceId with
  | none => simp [removeDisconnected, held]
  | some session =>
      by_cases due : session.connected = false ∧ session.connectionGeneration = generation
      · obtain ⟨offline, same⟩ := due
        refine .inr ⟨session, rfl, offline, same, ?_⟩
        simp [removeDisconnected, held, offline, same, unseat]
      · apply Or.inl
        simp only [removeDisconnected, held]
        rw [if_neg]
        simpa using due

/-- The sessions that a registration builds are connected and not taken over. -/
@[simp]
theorem Registration.session_connected (registration : Registration) :
    registration.session.connected = true := rfl

@[simp]
theorem Registration.session_associationExpire (registration : Registration) :
    registration.session.associationExpire = false := rfl

@[simp]
theorem Registration.session_association (registration : Registration) :
    registration.session.association = registration.association := rfl

/-- What a registration does: a disconnected session is rebound, unless the device
restarted; every other session is removed first. -/
theorem registerDevice_cases (network : Network) (deviceId : String) (session : DeviceSession)
    (scheduled : Bool) :
    (∃ current, network.session deviceId = some current ∧ current.connected = false ∧
        current.registrationGenerationChanged session = false ∧
        network.registerDevice deviceId session scheduled =
          ({ cancelled := some (deviceId, current.connectionGeneration) },
            (network.rebindRegistration deviceId session).2)) ∨
      ((∀ current, network.session deviceId = some current → current.connected = false →
          current.registrationGenerationChanged session = true) ∧
        network.registerDevice deviceId session scheduled =
          ((network.removeDeviceByInner deviceId).1,
            if scheduled then (network.removeDeviceByInner deviceId).2.insert deviceId session
            else (network.removeDeviceByInner deviceId).2)) := by
  cases held : network.session deviceId with
  | none =>
      refine .inr ⟨nofun, ?_⟩
      simp [registerDevice, rebindRegistration, held]
  | some current =>
      cases changed : current.registrationGenerationChanged session with
      | true =>
          refine .inr ⟨?_, ?_⟩
          · rintro other ⟨⟩ -
            exact changed
          · simp [registerDevice, held, changed]
      | false =>
          cases online : current.connected with
          | true =>
              refine .inr ⟨?_, ?_⟩
              · rintro other ⟨⟩ offline
                rw [online] at offline
                cases offline
              · simp [registerDevice, rebindRegistration, held, changed, online]
          | false =>
              refine .inl ⟨current, rfl, online, changed, ?_⟩
              simp [registerDevice, rebindRegistration, held, changed, online]

/-- An operation that clears the entry of another device. -/
def CutsOff (network : Network) : Operation → Prop
  | .lifetimeExpired deviceId =>
      ∃ session, network.session deviceId = some session ∧ CutsOffOwner network session
  | .registerDevice deviceId registration _ =>
      ∃ session, network.session deviceId = some session ∧
        session.registrationGenerationChanged registration.session = true ∧
        CutsOffOwner network session
  | _ => False

/-- A step keeps what holds in every network, and it keeps the mapping complete
unless it cuts off another device. -/
structure Keeps (network next : Network) (cutsOff : Prop) : Prop where
  sane : Sane next
  complete : Tenancy.Complete network.netDeviceMap network.place →
    (Tenancy.Complete next.netDeviceMap next.place ↔ ¬cutsOff)

section Steps

variable {network : Network} (sane : Sane network)

include sane

theorem keeps_same : Keeps network network False :=
  ⟨sane, fun complete => ⟨fun _ => not_false, fun _ => complete⟩⟩

theorem keeps_seats {advance : UInt64 → UInt64} {cleared next : Network} {deviceId : String}
    {session : DeviceSession} (seats : Seats advance cleared deviceId session next)
    (clears : Clears network deviceId session.association cleared)
    (online : session.connected = true) (fresh : session.associationExpire = false) :
    Keeps network next False := by
  constructor
  · exact clears.sane seats online fresh sane
  · intro complete
    have occupied := complete.occupies (clears.occupies seats online fresh)
    exact ⟨fun _ => not_false, fun _ => occupied⟩

theorem keeps_unseat {deviceId : String} {session : DeviceSession}
    (held : network.session deviceId = some session) (replacement : Option DeviceSession)
    (offline : ∀ left, replacement = some left → left.connected = false) :
    Keeps network (network.unseat deviceId session replacement) False := by
  have unseated : seat replacement = none := by
    cases replacement with
    | none => rfl
    | some left => simp [seat, offline left rfl]
  constructor
  · exact sane.unseat held offline
  · intro complete
    exact ⟨fun _ => not_false, fun _ => sane.unseat_complete held unseated complete⟩

theorem keeps_removeDeviceByInner (deviceId : String) :
    Keeps network (network.removeDeviceByInner deviceId).2
      (∃ session, network.session deviceId = some session ∧ CutsOffOwner network session) := by
  constructor
  · exact sane.removeDeviceByInner
  · intro complete
    cases held : network.session deviceId with
    | none => simpa [removeDeviceByInner, held] using complete
    | some session =>
        rw [sane.removeDeviceByInner_complete_iff held complete]
        simp

theorem keeps_expireDisconnectedByInner (deviceId : String) (generation : UInt64) :
    Keeps network (network.expireDisconnectedByInner deviceId generation).2 False := by
  unfold expireDisconnectedByInner
  rcases removeDisconnected_cases network deviceId generation with
    ignored | ⟨session, held, -, -, removed⟩
  · rw [ignored]
    exact keeps_same sane
  · rw [removed]
    exact keeps_unseat sane held none nofun

omit sane in
theorem deviceHeart_network (deviceId : String) (association : Association) (now : Instant) :
    (network.deviceHeart deviceId association now).2 =
      (network.rebind deviceId association now).2 := by
  unfold deviceHeart
  split <;> simp_all

theorem keeps_deviceHeart (deviceId : String) (association : Association) (now : Instant) :
    Keeps network (network.deviceHeart deviceId association now).2 False := by
  rw [deviceHeart_network]
  cases held : network.session deviceId with
  | none =>
      simp only [rebind, held]
      exact keeps_same sane
  | some session =>
      obtain ⟨bound, cleared, clears, online, fresh, -, seats⟩ :=
        sane.rebind_seats held association now
      exact keeps_seats sane seats clears online fresh

theorem keeps_detachDeviceAssociation (association : Association) (scheduled : Bool)
    (now : Instant) :
    Keeps network (network.detachDeviceAssociation association scheduled now).2 False := by
  unfold detachDeviceAssociation
  rcases sane.detachAssociation_cases association now with
    ⟨ignored, -⟩ | ⟨deviceId, session, owner, held, online, -, detached⟩
  · rw [ignored]
    exact keeps_same sane
  · rw [detached]
    have unseats := keeps_unseat sane held (some (detachedSession session)) (by
      rintro left ⟨⟩
      rfl)
    cases scheduled with
    | true => exact unseats
    | false =>
        have expires := keeps_expireDisconnectedByInner unseats.sane deviceId
          (saturatingSucc session.connectionGeneration)
        exact ⟨expires.sane, fun complete =>
          expires.complete ((unseats.complete complete).mpr not_false)⟩

theorem keeps_registerDevice (deviceId : String) (registration : Registration)
    (scheduled : Bool) :
    Keeps network (network.registerDevice deviceId registration.session scheduled).2
      (CutsOff network (.registerDevice deviceId registration scheduled)) := by
  rcases registerDevice_cases network deviceId registration.session scheduled with
    ⟨current, held, offline, unchanged, rebound⟩ | ⟨restarted, removed⟩
  · rw [rebound]
    obtain ⟨-, cleared, clears, seats⟩ :=
      sane.rebindRegistration_seats held offline registration.session
    have keeps := keeps_seats sane seats clears rfl rfl
    have harmless : ¬CutsOff network (.registerDevice deviceId registration scheduled) := by
      rintro ⟨session, found, changed, -⟩
      rw [held] at found
      cases found
      rw [unchanged] at changed
      cases changed
    exact ⟨keeps.sane, fun complete =>
      ⟨fun _ => harmless, fun _ => (keeps.complete complete).mpr not_false⟩⟩
  · rw [removed]
    have keeps := keeps_removeDeviceByInner sane deviceId
    have cutsOff : CutsOff network (.registerDevice deviceId registration scheduled) ↔
        ∃ session, network.session deviceId = some session ∧ CutsOffOwner network session := by
      constructor
      · rintro ⟨session, held, -, owner⟩
        exact ⟨session, held, owner⟩
      · rintro ⟨session, held, owner⟩
        exact ⟨session, held, restarted session held owner.1, owner⟩
    rw [cutsOff]
    cases scheduled with
    | false => exact keeps
    | true =>
        have seats := insert_seats (network.removeDeviceByInner deviceId).2 deviceId
          registration.session
        have clears := sane.clears_removed deviceId registration.session.association
        constructor
        · exact clears.sane seats rfl rfl keeps.sane
        · intro complete
          rw [← keeps.complete complete]
          have occupies := clears.occupies seats rfl rfl
          constructor
          · apply Tenancy.Complete.of_occupies keeps.sane.sound _ occupies
            rw [place, removeDeviceByInner_absent]
            rfl
          · intro stillComplete
            exact stillComplete.occupies occupies

theorem keeps_step (operation : Operation) :
    Keeps network (network.step operation).2 (CutsOff network operation) := by
  cases operation with
  | registerDevice deviceId registration scheduled =>
      exact keeps_registerDevice sane deviceId registration scheduled
  | deviceHeart deviceId association now => exact keeps_deviceHeart sane deviceId association now
  | detachDeviceAssociation association scheduled now =>
      exact keeps_detachDeviceAssociation sane association scheduled now
  | lifetimeExpired deviceId => exact keeps_removeDeviceByInner sane deviceId
  | reconnectExpired deviceId generation =>
      exact keeps_expireDisconnectedByInner sane deviceId generation

end Steps

theorem sane_run {operations : List Operation} {entry : Runs.Transition Network Operation Effect}
    (member : entry ∈ Runs.run step empty operations) : Sane entry.before ∧ Sane entry.after :=
  Runs.invariant_run Sane (fun _ _ => True)
    (fun _ operation sane _ => (keeps_step sane operation).sane) sane_empty
    (fun _ _ => trivial) entry member

/-- The mapping and the connected sessions agree after every operation exactly when
no operation clears the entry of another device. -/
theorem mapped_iff_never_cut_off (operations : List Operation) :
    (∀ entry ∈ Runs.run step empty operations, Mapped entry.after) ↔
      ∀ entry ∈ Runs.run step empty operations, ¬CutsOff entry.before entry.action := by
  have keep : ∀ network operation, (Sane network ∧ Mapped network) →
      ((Sane (step network operation).2 ∧ Mapped (step network operation).2) ↔
        ¬CutsOff network operation) := by
    rintro network operation ⟨sane, mapped⟩
    have keeps := keeps_step sane operation
    rw [keeps.sane.mapped_iff, keeps.complete (sane.mapped_iff.mp mapped)]
    exact and_iff_right keeps.sane
  have start : Sane empty ∧ Mapped empty :=
    ⟨sane_empty, sane_empty.mapped_iff.mpr (by intro association deviceId located; cases located)⟩
  rw [← Runs.invariant_run_iff (fun network => Sane network ∧ Mapped network)
    (fun network operation => ¬CutsOff network operation) keep start]
  constructor
  · intro mapped entry member
    exact ⟨(sane_run member).2, mapped entry member⟩
  · intro kept entry member
    exact (kept entry member).2

/-- The TCP association of a device that connects from a port. -/
def tcpAssociation (port : UInt16) : Association where
  localAddr := .v4 ⟨0, 0, 0, 0⟩ 25600
  remoteAddr := .v4 ⟨127, 0, 0, 1⟩ port
  protocol := .tcp

def registrationFrom (port : UInt16) : Registration where
  association := tcpAssociation port
  callId := "call-id"
  cseq := 1
  heartbeat := 60
  duration := 3600000000000
  now := 0

/-- A device disconnects, another one connects through its port, and the lifetime
of the first one ends. -/
def portReused : List Operation :=
  [.registerDevice "34020000001320000001" (registrationFrom 40001) true,
    .detachDeviceAssociation (tcpAssociation 40001) true 0,
    .registerDevice "34020000001320000002" (registrationFrom 40001) true,
    .lifetimeExpired "34020000001320000001"]

/-- The second device stays connected without an entry. -/
theorem reused_port_loses_its_entry :
    ((Runs.final step empty portReused).connectedSession "34020000001320000002").map
        DeviceSession.association = some (tcpAssociation 40001) ∧
      (Runs.final step empty portReused).netDeviceMap (tcpAssociation 40001) = none ∧
      ¬∀ entry ∈ Runs.run step empty portReused, Mapped entry.after := by
  have online : ((Runs.final step empty portReused).connectedSession
      "34020000001320000002").map DeviceSession.association = some (tcpAssociation 40001) := by
    decide +kernel
  have cleared :
      (Runs.final step empty portReused).netDeviceMap (tcpAssociation 40001) = none := by
    decide +kernel
  refine ⟨online, cleared, ?_⟩
  intro mapped
  have last : Mapped (Runs.final step empty portReused) :=
    mapped _ (List.mem_cons_of_mem _ (List.mem_cons_of_mem _ (List.mem_cons_of_mem _
      List.mem_cons_self)))
  rw [← place_eq_connectedSession] at online
  obtain ⟨session, held, connected, fresh, associated⟩ := seat_eq_some.mp online
  have owner := last.connected _ session held connected fresh
  rw [associated, cleared] at owner
  cases owner

end Gmv.Session.Network
