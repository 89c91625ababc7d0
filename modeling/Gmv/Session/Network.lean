import Gmv.Session.SocketAddr
import Mathlib.Logic.Function.Basic

/-!
# Devices and their network associations

The sessions of registered devices and the map from network associations to
devices.  A device keeps one session; the association it is reached through may be
taken over by another device, which marks the old session as expired.  Each
operation of the register is one step on both maps, and tells which reconnect timers
it cancels and arms.
-/

namespace Gmv.Session

inductive Protocol where
  | udp
  | tcp
  deriving DecidableEq, Repr

structure Association where
  localAddr : SocketAddr
  remoteAddr : SocketAddr
  protocol : Protocol
  deriving DecidableEq, Repr

/-- A point of time, and the length of an interval, in nanoseconds. -/
abbrev Instant := Nat
abbrev Duration := Nat

structure DeviceSession where
  registrationCallId : String
  registrationCseq : UInt32
  association : Association
  connected : Bool
  connectionGeneration : UInt64
  associationExpire : Bool
  heartbeatSec : UInt8
  lastSeen : Instant
  registrationDuration : Duration
  registrationExpiresAt : Instant
  deriving DecidableEq, Repr

namespace DeviceSession

def build (association : Association) (heartbeat : UInt8) (registrationDuration : Duration)
    (now : Instant) : DeviceSession where
  registrationCallId := ""
  registrationCseq := 0
  association := association
  connected := true
  connectionGeneration := 0
  associationExpire := false
  heartbeatSec := heartbeat
  lastSeen := now
  registrationDuration := registrationDuration
  registrationExpiresAt := now + registrationDuration

def setRegistrationIdentity (session : DeviceSession) (callId : String) (cseq : UInt32) :
    DeviceSession :=
  { session with registrationCallId := callId, registrationCseq := cseq }

/-- A device that restarted counts its registrations from the beginning again. -/
def registrationGenerationChanged (session next : DeviceSession) : Bool :=
  let transportChanged := session.association != next.association || !session.connected
  session.registrationCallId != "" && session.registrationCallId == next.registrationCallId &&
    decide (0 < session.registrationCseq) && decide (0 < next.registrationCseq) &&
    decide (next.registrationCseq < session.registrationCseq) && transportChanged

def reconnectTimeout (session : DeviceSession) (now : Instant) : Duration :=
  min (session.heartbeatSec.toNat * 3 * 1000000000) (session.registrationExpiresAt - now)

end DeviceSession

/-- `u64::saturating_add(1)`. -/
def saturatingSucc (generation : UInt64) : UInt64 :=
  if generation = 18446744073709551615 then generation else generation + 1

theorem saturatingSucc_of_ne {generation : UInt64} (below : generation ≠ 18446744073709551615) :
    saturatingSucc generation = generation + 1 := by
  rw [saturatingSucc, if_neg below]

structure DetachedAssociation where
  deviceId : String
  generation : UInt64
  timeout : Duration
  deriving DecidableEq, Repr

structure Network where
  session : String → Option DeviceSession
  netDeviceMap : Association → Option String

namespace Network

/-- No device has registered. -/
def empty : Network where
  session _ := none
  netDeviceMap _ := none

def setSession (network : Network) (deviceId : String) (session : Option DeviceSession) :
    Network :=
  { network with session := Function.update network.session deviceId session }

def setMapping (network : Network) (association : Association) (deviceId : Option String) :
    Network :=
  { network with netDeviceMap := Function.update network.netDeviceMap association deviceId }

/-- A session whose association another device has taken. -/
def takenOver (advance : UInt64 → UInt64) (session : DeviceSession) : DeviceSession :=
  { session with
    associationExpire := true
    connected := false
    connectionGeneration := advance session.connectionGeneration }

/-- Take the previous owner of an association offline, if it has a session. -/
def expel (network : Network) (displacedDeviceId : Option String) (advance : UInt64 → UInt64) :
    Network :=
  match displacedDeviceId with
  | some deviceId =>
      network.setSession deviceId ((network.session deviceId).map (takenOver advance))
  | none => network

/-- The device that a different one displaces from an association. -/
def displacedBy (network : Network) (association : Association) (deviceId : String) :
    Option String :=
  (network.netDeviceMap association).filter fun oldDeviceId => oldDeviceId ≠ deviceId

def updateNetDeviceMapping (network : Network) (association : Association) (deviceId : String) :
    Option String × Network :=
  let displacedDeviceId := network.displacedBy association deviceId
  (displacedDeviceId,
    (network.setMapping association (some deviceId)).expel displacedDeviceId id)

def removeDeviceMapping (network : Network) (deviceId : String) (oldAssociation : Association) :
    Network :=
  if network.netDeviceMap oldAssociation = some deviceId then
    network.setMapping oldAssociation none
  else network

def insert (network : Network) (deviceId : String) (deviceSession : DeviceSession) : Network :=
  let deviceSession := { deviceSession with associationExpire := false, connected := true }
  let (_, mapped) := network.updateNetDeviceMapping deviceSession.association deviceId
  mapped.setSession deviceId (some deviceSession)

/-- Store a session under its association, and take the device that owned it
offline. The generation of the displaced session advances. -/
def displace (network : Network) (deviceId : String) (session : DeviceSession) : Network :=
  let displacedDeviceId := network.displacedBy session.association deviceId
  ((network.setMapping session.association (some deviceId)).setSession deviceId
    (some session)).expel displacedDeviceId (· + 1)

/-- The generation at which a disconnected session was rebound, if it was one. -/
def rebind (network : Network) (deviceId : String) (association : Association) (now : Instant) :
    Option (Option UInt64) × Network :=
  match network.session deviceId with
  | none => (none, network)
  | some session =>
      let associationChanged := session.association != association
      let reconnectGeneration :=
        if session.connected then none else some session.connectionGeneration
      let cleared :=
        if associationChanged then network.removeDeviceMapping deviceId session.association
        else network
      let bound :=
        { session with
          association := association
          connected := true
          connectionGeneration :=
            if session.connected then session.connectionGeneration
            else session.connectionGeneration + 1
          associationExpire := false
          lastSeen := now }
      (some reconnectGeneration, cleared.displace deviceId bound)

/-- The generation whose cleanup is no longer due, unless the device is connected. -/
def rebindRegistration (network : Network) (deviceId : String) (newSession : DeviceSession) :
    Option UInt64 × Network :=
  match network.session deviceId with
  | none => (none, network)
  | some currentSession =>
      if currentSession.connected then (none, network)
      else
        let cleanupGeneration := currentSession.connectionGeneration
        let cleared := network.removeDeviceMapping deviceId currentSession.association
        let bound :=
          { newSession with connectionGeneration := saturatingSucc cleanupGeneration }
        (some cleanupGeneration, cleared.displace deviceId bound)

def detachAssociation (network : Network) (association : Association) (now : Instant) :
    Option DetachedAssociation × Network :=
  match network.netDeviceMap association with
  | none => (none, network)
  | some deviceId =>
      match network.session deviceId with
      | none => (none, network)
      | some session =>
          if session.association ≠ association then (none, network)
          else if session.connected then
            let detached :=
              { session with
                connected := false
                connectionGeneration := session.connectionGeneration + 1 }
            (some
                { deviceId := deviceId
                  generation := saturatingSucc session.connectionGeneration
                  timeout := detached.reconnectTimeout now },
              (network.setSession deviceId (some detached)).removeDeviceMapping deviceId association)
          else (none, network)

def removeDisconnected (network : Network) (deviceId : String) (generation : UInt64) :
    Option DeviceSession × Network :=
  match network.session deviceId with
  | none => (none, network)
  | some session =>
      if !session.connected && session.connectionGeneration == generation then
        (some session,
          (network.setSession deviceId none).removeDeviceMapping deviceId session.association)
      else (none, network)

def connectedSession (network : Network) (deviceId : String) : Option DeviceSession :=
  (network.session deviceId).filter fun session =>
    session.connected && !session.associationExpire

/-- A reconnect timer of a device for one generation. -/
abbrev ReconnectKey := String × UInt64

/-- What an operation tells the scheduler and its caller. -/
structure Effect where
  cancelled : Option ReconnectKey := none
  armed : Option ReconnectKey := none
  removed : Option DeviceSession := none

def removeDeviceByInner (network : Network) (deviceId : String) : Effect × Network :=
  match network.session deviceId with
  | none => ({}, network)
  | some session =>
      let removed := network.setSession deviceId none
      ({ cancelled := some (deviceId, session.connectionGeneration), removed := some session },
        if session.associationExpire then removed
        else removed.setMapping session.association none)

/-- The session is stored only when the scheduler accepts its lifetime timers. -/
def registerDevice (network : Network) (deviceId : String) (session : DeviceSession)
    (scheduled : Bool) : Effect × Network :=
  let newGeneration := (network.session deviceId).any fun current =>
    current.registrationGenerationChanged session
  let rebound :=
    if newGeneration then (none, network) else network.rebindRegistration deviceId session
  match rebound with
  | (some generation, network) => ({ cancelled := some (deviceId, generation) }, network)
  | (none, _) =>
      let (effect, cleared) := network.removeDeviceByInner deviceId
      (effect, if scheduled then cleared.insert deviceId session else cleared)

def deviceHeart (network : Network) (deviceId : String) (association : Association)
    (now : Instant) : Effect × Network :=
  match network.rebind deviceId association now with
  | (some (some generation), network) => ({ cancelled := some (deviceId, generation) }, network)
  | (_, network) => ({}, network)

def expireDisconnectedByInner (network : Network) (deviceId : String) (generation : UInt64) :
    Effect × Network :=
  match network.removeDisconnected deviceId generation with
  | (some session, network) =>
      ({ cancelled := some (deviceId, generation), removed := some session }, network)
  | (none, network) => ({}, network)

/-- A detached device is removed at once when its timer cannot be scheduled. -/
def detachDeviceAssociation (network : Network) (association : Association) (scheduled : Bool)
    (now : Instant) : Effect × Network :=
  match network.detachAssociation association now with
  | (none, network) => ({}, network)
  | (some detached, network) =>
      if scheduled then ({ armed := some (detached.deviceId, detached.generation) }, network)
      else network.expireDisconnectedByInner detached.deviceId detached.generation

/-- A registration as the callers of `register_device` build it. -/
structure Registration where
  association : Association
  callId : String
  cseq : UInt32
  heartbeat : UInt8
  duration : Duration
  now : Instant
  deriving DecidableEq, Repr

def Registration.session (registration : Registration) : DeviceSession :=
  (DeviceSession.build registration.association registration.heartbeat registration.duration
    registration.now).setRegistrationIdentity registration.callId registration.cseq

/-- The operations on the register. `lifetimeExpired` is the handler of the
heartbeat and registration timers, `reconnectExpired` that of a reconnect timer. -/
inductive Operation where
  | registerDevice (deviceId : String) (registration : Registration) (scheduled : Bool)
  | deviceHeart (deviceId : String) (association : Association) (now : Instant)
  | detachDeviceAssociation (association : Association) (scheduled : Bool) (now : Instant)
  | lifetimeExpired (deviceId : String)
  | reconnectExpired (deviceId : String) (generation : UInt64)

def step (network : Network) : Operation → Effect × Network
  | .registerDevice deviceId registration scheduled =>
      network.registerDevice deviceId registration.session scheduled
  | .deviceHeart deviceId association now => network.deviceHeart deviceId association now
  | .detachDeviceAssociation association scheduled now =>
      network.detachDeviceAssociation association scheduled now
  | .lifetimeExpired deviceId => network.removeDeviceByInner deviceId
  | .reconnectExpired deviceId generation =>
      network.expireDisconnectedByInner deviceId generation

end Network

end Gmv.Session
