import Gmv.Session.DeviceMap
import Gmv.Session.DialogRecovery
import Gmv.Session.ReconnectTimers

/-!
# Closes and their timers

`stream_close::begin` and `talk_close::begin` mark an entry as closing and read the session of
its device.  With a session the close gets a timer, `StreamClosing` or `TalkClosing`, which
removes the entry when no BYE has; without one the entry is removed at once, but for a stream
that was restored, which waits for its device.  The module runs starts, recoveries, closes,
results of BYEs, registrations, heartbeats and timers as tasks over one cache, one register and
one scheduler.
-/

namespace Gmv.Session.CloseTimers

open Gmv.Library.TaskPool
open DialogRecovery (Kind Conf Run)
open DeviceMap (Plan)

/-- `StreamClosing` or `TalkClosing`. -/
structure TimerKey where
  kind : Kind
  id : String
  generation : UInt64
  deriving DecidableEq, Repr

/-- A close as it begins. -/
structure Close where
  kind : Kind
  id : String
  generation : UInt64
  deviceId : String
  deriving DecidableEq, Repr

def Close.key (close : Close) : TimerKey := ⟨close.kind, close.id, close.generation⟩

structure World where
  cache : Cache
  network : Network
  armed : TimerKey → Bool

namespace World

def init : World := ⟨Cache.init, Network.empty, fun _ => false⟩

def arm (world : World) (key : TimerKey) (isArmed : Bool) : World :=
  { world with armed := Function.update world.armed key isArmed }

/-- An entry has left the cache, and its timer is cancelled if it was closing. -/
def leave (world : World) (next : Cache) (kind : Kind) (id : String) (generation : Option UInt64) :
    World :=
  match generation with
  | none => { world with cache := next }
  | some generation => { world with cache := next }.arm ⟨kind, id, generation⟩ false

/-- `stream_map.remove_if` with `finish_removed_stream`. -/
def streamRemoveIf (world : World) (streamId : String) (condition : StreamTable → Bool) :
    Bool × World :=
  match world.cache.streamMapRemoveIf streamId condition with
  | (none, _) => (false, world)
  | (some stream, next) =>
      (true, world.leave
        (next.finishRemovedStream streamId stream (stream.closingGeneration.getD 0)).2
        .stream streamId stream.closingGeneration)

/-- `talk_map.remove_if` with `cancel_talk_close_timer`. -/
def talkRemoveIf (world : World) (talkId : String) (condition : TalkSessionState → Bool) : World :=
  match world.cache.talkMap.lookup talkId with
  | none => world
  | some talk =>
      if condition talk then
        world.leave { world.cache with talkMap := world.cache.talkMap.erase talkId } .talk talkId
          talk.closingGeneration
      else world

/-- Complete or force a close. -/
def closeRemove (world : World) (key : TimerKey) : World :=
  match key.kind with
  | .stream =>
      (world.streamRemoveIf key.id fun stream => stream.isClosingGeneration key.generation).2
  | .talk => world.talkRemoveIf key.id fun talk => talk.closingGeneration == some key.generation

/-- One removal of `reset_device_state`, which has emptied the entry of the device before. -/
def resetRemove (world : World) (id : String) : Kind → World
  | .stream =>
      match world.cache.streamMap.lookup id with
      | none => world
      | some stream =>
          world.leave { world.cache with streamMap := world.cache.streamMap.erase id } .stream id
            stream.closingGeneration
  | .talk => world.talkRemoveIf id fun _ => true

end World

/-! ## The two kinds of entries -/

def closeBegin (cache : Cache) (id : String) : Kind → Option CloseStart × Cache
  | .stream => cache.streamCloseBegin id
  | .talk => cache.talkCloseBegin id

def closeTakeBye (cache : Cache) (id : String) : Kind → Option ByeCommand × Cache
  | .stream => cache.streamCloseTakeBye id
  | .talk => cache.talkCloseTakeBye id

def closeMarkFailed (cache : Cache) (key : TimerKey) (seq : UInt32) (reason : String) : Cache :=
  match key.kind with
  | .stream => (cache.streamCloseMarkFailed key.id key.generation seq reason).2
  | .talk => (cache.talkCloseMarkFailed key.id key.generation seq reason).2

/-- `stream_close_ids_by_device` and `talk_close_ids_by_device`. -/
def closeIdsByDevice (cache : Cache) (deviceId : String) : Kind → List String
  | .stream =>
      cache.streamMap.entries.filterMap fun entry =>
        if entry.2.deviceId = deviceId ∧ entry.2.isClosing = true then some entry.1 else none
  | .talk =>
      cache.talkMap.entries.filterMap fun entry =>
        if entry.2.deviceId = deviceId ∧ entry.2.closingGeneration.isSome = true then
          some entry.2.talkId
        else none

def idsOfDevice (cache : Cache) (deviceId : String) : Kind → List String
  | .stream => cache.streamIdsOfDevice deviceId
  | .talk => cache.talkIdsOfDevice deviceId

/-- An entry that `begin` leaves alone when its device has no session.  `talk_close::begin` knows
none. -/
def isRestored (cache : Cache) (id : String) : Kind → Bool
  | .stream => cache.streamIsRestored id
  | .talk => false

/-! ## Tasks -/

/-- When a `begin` reads the session, and whether the scheduler takes its timer. -/
structure BeginOutcome where
  now : Instant
  scheduled : Bool
  deriving DecidableEq, Repr

/-- A run of `recover_dialog`.  `updated` tells whether the update of an established row is
answered.  A recovery of a UDP dialog registers its device before it enters anything; here that is
a registration of its own. -/
structure Recovery where
  run : Run
  now : NaiveDateTime
  updated : Bool
  out : BeginOutcome
  deriving DecidableEq, Repr

/-- The session that `register_device` enters, whether the device has restarted, and whether the
scheduler takes its lifetime timers. -/
structure Entering where
  deviceId : String
  session : DeviceSession
  newGeneration : Bool
  scheduled : Bool
  deriving DecidableEq, Repr

/-- What a call has still to do, by its next step.  A BYE that is sent is not waited for: its result
is a call of its own, and so is a timer that goes off. -/
inductive Task where
  | startStream (plan : Plan) (heard : Option String) (out : BeginOutcome)
  | updateSource (plan : Plan) (proxyAddr : String)
  | listStream (plan : Plan)
  | startTalk (plan : Plan)
  | recover (recovery : Recovery)
  | insertTalk (recovery : Recovery) (ssrc : UInt32)
  | insertStream (recovery : Recovery) (ssrc : UInt32) (am : AccessMode)
  | listRestored (recovery : Recovery) (am : AccessMode)
  | insertClosing (recovery : Recovery) (ssrc : UInt32) (am : AccessMode)
  | closeBegin (kind : Kind) (id : String) (out : BeginOutcome)
  | begun (close : Close) (out : BeginOutcome)
  | unregistered (close : Close)
  | arming (close : Close) (scheduled : Bool)
  | forceCleanup (close : Close)
  | retry (kind : Kind) (id : String)
  | byeResult (key : TimerKey) (seq : UInt32) (failed : Option String)
  | terminated (callId : String)
  | terminatedStream (streamId callId : String)
  | terminatedTalk (callId : String)
  | terminatedRemove (talkId callId : String)
  | expire (key : TimerKey)
  | expired (key : TimerKey)
  | register (deviceId : String) (session : DeviceSession) (scheduled : Bool)
  | rebindRegistration (entering : Entering)
  | removeSession (entering : Entering)
  | enter (entering : Entering)
  | deviceHeart (deviceId : String) (association : Association) (now : Instant) (scheduled : Bool)
  | rebind (deviceId : String) (previous association : Association) (now : Instant)
      (scheduled : Bool)
  | retryDevice (deviceId : String) (kind : Kind)
  | retryEach (deviceId : String) (kind : Kind) (ids : List String)
  | detach (association : Association) (scheduled : Bool) (now : Instant)
  | reconnectExpired (deviceId : String) (generation : UInt64)
  | lifetimeExpired (deviceId : String)
  | removeDevice (deviceId : String)
  | reset (deviceId : String) (entering : Option Entering)
  | resetEntries (deviceId : String) (streamIds : List String) (entering : Option Entering)
  | resetScan (deviceId : String) (kind : Kind) (entering : Option Entering)
  | resetRest (deviceId : String) (kind : Kind) (ids : List String) (entering : Option Entering)

/-- Behind the retries of one kind. -/
def afterRetries (deviceId : String) : Kind → Option Task
  | .stream => some (.retryDevice deviceId .talk)
  | .talk => none

/-- Behind the removals of one kind. -/
def afterRemovals (deviceId : String) (entering : Option Entering) : Kind → Option Task
  | .stream => some (.resetScan deviceId .talk entering)
  | .talk => entering.map .enter

def startWork (world : World) (plan : Plan) (heard : Option String) (out : BeginOutcome) :
    Option Task × World :=
  match world.cache.streamMapInsertInfo plan.streamId plan.deviceId plan.channelId plan.u32ssrc ""
    plan.nodeName plan.callId plan.seq plan.am with
  | (false, next) => (none, { world with cache := next })
  | (true, next) =>
      match heard with
      | some proxyAddr => (some (.updateSource plan proxyAddr), { world with cache := next })
      | none => (some (.closeBegin .stream plan.streamId out), { world with cache := next })

/-- A talk is inserted as it plays. -/
def insertTalk (world : World) (talkId deviceId channelId : String) (ssrc : UInt32)
    (streamNodeName callId : String) (seq : UInt32) (restored : Bool) : Bool × World :=
  let (success, next) := world.cache.talkMapInsert
    (Cache.playingTalk talkId deviceId channelId ssrc streamNodeName callId seq restored)
  (success, { world with cache := next })

def insertRestored (world : World) (recovery : Recovery) (ssrc : UInt32) (am : AccessMode) :
    Bool × World :=
  let (success, next) := DialogRecovery.insertRestored world.cache recovery.run.session ssrc am
  (success, { world with cache := next })

/-- The close of a dialog whose row is `Terminating`. -/
def Recovery.closes (recovery : Recovery) (kind : Kind) : Option Task :=
  if recovery.run.session.state = .terminating then
    some (.closeBegin kind recovery.run.session.streamId recovery.out)
  else none

def recoverWork (conf : Conf) (recovery : Recovery) : Option Task :=
  match DialogRecovery.recoverDialog conf recovery.run.answers recovery.run.session recovery.now with
  | .fail | .orphan _ => none
  | .talk ssrc => some (.insertTalk recovery ssrc)
  | .online ssrc am => some (.insertStream recovery ssrc am)
  | .offline ssrc am =>
      if recovery.run.session.state = .established ∧ recovery.updated = false then none
      else some (.insertClosing recovery ssrc am)

/-- The steps of a start or a recovery, of a close, of the handler of a BYE, of a timer, of a
registration, of a heartbeat, of the end of a connection or a lifetime, and of a reset. -/
def work (conf : Conf) (world : World) : Task → Option Task × World
  | .startStream plan heard out => startWork world plan heard out
  | .updateSource plan proxyAddr =>
      (some (.listStream plan), { world with
        cache := (world.cache.streamMapUpdateSource plan.streamId proxyAddr plan.nodeName).2 })
  | .listStream plan =>
      (none, { world with
        cache := world.cache.deviceMapInsert plan.deviceId plan.channelId plan.ssrc plan.streamId
          plan.am })
  | .startTalk plan =>
      (none, (insertTalk world plan.streamId plan.deviceId plan.channelId plan.u32ssrc plan.nodeName
        plan.callId plan.seq false).2)
  | .recover recovery => (recoverWork conf recovery, world)
  | .insertTalk recovery ssrc =>
      let session := recovery.run.session
      match insertTalk world session.streamId session.deviceId session.channelId ssrc
        session.mediaNodeId session.callId (DialogRecovery.restoredSeq session) true with
      | (false, next) => (none, next)
      | (true, next) => (recovery.closes .talk, next)
  | .insertStream recovery ssrc am =>
      match insertRestored world recovery ssrc am with
      | (false, next) => (none, next)
      | (true, next) => (some (.listRestored recovery am), next)
  | .listRestored recovery am =>
      let session := recovery.run.session
      (recovery.closes .stream, { world with
        cache := world.cache.deviceMapInsert session.deviceId session.channelId
          (session.ssrc.getD "") session.streamId am })
  | .insertClosing recovery ssrc am =>
      match insertRestored world recovery ssrc am with
      | (false, next) => (none, next)
      | (true, next) =>
          (some (.closeBegin .stream recovery.run.session.streamId recovery.out), next)
  | .closeBegin kind id out =>
      match Session.CloseTimers.closeBegin world.cache id kind with
      | (none, next) => (none, { world with cache := next })
      | (some start, next) =>
          (if start.newlyStarted then some (.begun ⟨kind, id, start.generation, start.deviceId⟩ out)
            else none, { world with cache := next })
  | .begun close out =>
      match world.network.session close.deviceId with
      | none => (some (.unregistered close), world)
      | some session =>
          (some (if session.reconnectTimeout out.now = 0 then .forceCleanup close
            else .arming close out.scheduled), world)
  | .unregistered close =>
      (if isRestored world.cache close.id close.kind then none else some (.forceCleanup close),
        world)
  | .arming close scheduled =>
      if scheduled then (some (.retry close.kind close.id), world.arm close.key true)
      else (some (.forceCleanup close), world)
  | .forceCleanup close => (none, world.closeRemove close.key)
  | .retry kind id => (none, { world with cache := (closeTakeBye world.cache id kind).2 })
  | .byeResult key _ none => (none, world.closeRemove key)
  | .byeResult key seq (some reason) =>
      (none, { world with cache := closeMarkFailed world.cache key seq reason })
  | .terminated callId =>
      match world.cache.streamIdByCallId callId with
      | some streamId => (some (.terminatedStream streamId callId), world)
      | none => (some (.terminatedTalk callId), world)
  | .terminatedStream streamId callId =>
      match world.streamRemoveIf streamId fun stream => stream.callId == callId with
      | (true, next) => (none, next)
      | (false, next) => (some (.terminatedTalk callId), next)
  | .terminatedTalk callId =>
      ((world.cache.talkIdByCallId callId).map fun talkId => .terminatedRemove talkId callId, world)
  | .terminatedRemove talkId callId =>
      (none, world.talkRemoveIf talkId fun talk => talk.callId == callId)
  | .expire key => (if world.armed key then some (.expired key) else none, world.arm key false)
  | .expired key => (none, world.closeRemove key)
  | .register deviceId session scheduled =>
      if (world.network.session deviceId).any fun current =>
          current.registrationGenerationChanged session then
        (some (.removeSession ⟨deviceId, session, true, scheduled⟩), world)
      else (some (.rebindRegistration ⟨deviceId, session, false, scheduled⟩), world)
  | .rebindRegistration entering =>
      match world.network.rebindRegistration entering.deviceId entering.session with
      | (some _, next) =>
          (if entering.scheduled then some (.retryDevice entering.deviceId .stream) else none,
            { world with network := next })
      | (none, next) => (some (.removeSession entering), { world with network := next })
  | .removeSession entering =>
      (some (if entering.newGeneration then .reset entering.deviceId (some entering)
        else .enter entering),
        { world with network := (world.network.removeDeviceByInner entering.deviceId).2 })
  | .enter entering =>
      if entering.scheduled then
        (if entering.newGeneration then none else some (.retryDevice entering.deviceId .stream),
          { world with network := world.network.insert entering.deviceId entering.session })
      else (none, world)
  | .deviceHeart deviceId association now scheduled =>
      ((world.network.session deviceId).map fun previous =>
        .rebind deviceId previous.association association now scheduled, world)
  | .rebind deviceId previous association now scheduled =>
      match world.network.rebind deviceId association now with
      | (none, next) => (none, { world with network := next })
      | (some reconnectGeneration, next) =>
          (if scheduled = true ∧ (reconnectGeneration.isSome = true ∨ previous ≠ association) then
            some (.retryDevice deviceId .stream) else none, { world with network := next })
  | .retryDevice deviceId kind =>
      (some (.retryEach deviceId kind (closeIdsByDevice world.cache deviceId kind)), world)
  | .retryEach deviceId kind [] => (afterRetries deviceId kind, world)
  | .retryEach deviceId kind (id :: rest) =>
      (some (.retryEach deviceId kind rest),
        { world with cache := (closeTakeBye world.cache id kind).2 })
  | .detach association scheduled now =>
      match world.network.detachAssociation association now with
      | (none, next) => (none, { world with network := next })
      | (some detached, next) =>
          (if scheduled then none
            else some (.reconnectExpired detached.deviceId detached.generation),
            { world with network := next })
  | .reconnectExpired deviceId generation =>
      match world.network.removeDisconnected deviceId generation with
      | (none, next) => (none, { world with network := next })
      | (some _, next) => (some (.reset deviceId none), { world with network := next })
  | .lifetimeExpired deviceId =>
      let (effect, next) := world.network.removeDeviceByInner deviceId
      (effect.removed.map fun _ => .reset deviceId none, { world with network := next })
  | .removeDevice deviceId =>
      (some (.reset deviceId none),
        { world with network := (world.network.removeDeviceByInner deviceId).2 })
  | .reset deviceId entering =>
      (some (.resetEntries deviceId ((world.cache.deviceMap deviceId).map DeviceTable.streamId)
        entering), { world with
          cache := { world.cache with
            deviceMap := Function.update world.cache.deviceMap deviceId [] } })
  | .resetEntries deviceId [] entering => (some (.resetScan deviceId .stream entering), world)
  | .resetEntries deviceId (streamId :: rest) entering =>
      (some (.resetEntries deviceId rest entering), world.resetRemove streamId .stream)
  | .resetScan deviceId kind entering =>
      (some (.resetRest deviceId kind (idsOfDevice world.cache deviceId kind) entering), world)
  | .resetRest deviceId kind [] entering => (afterRemovals deviceId entering kind, world)
  | .resetRest deviceId kind (id :: rest) entering =>
      (some (.resetRest deviceId kind rest entering), world.resetRemove id kind)

/-! ## Deadlines -/

/-- The close of an entry that is closing. -/
def closeOf (cache : Cache) (id : String) : Kind → Option Close
  | .stream =>
      (cache.streamMap.lookup id).bind fun stream =>
        stream.closingGeneration.map fun generation => ⟨.stream, id, generation, stream.deviceId⟩
  | .talk =>
      (cache.talkMap.lookup id).bind fun talk =>
        talk.closingGeneration.map fun generation => ⟨.talk, id, generation, talk.deviceId⟩

/-- The entry of the close is in the cache, and closing in its generation. -/
def Close.GoesOn (close : Close) (cache : Cache) : Prop :=
  closeOf cache close.id close.kind = some close

instance (close : Close) (cache : Cache) : Decidable (close.GoesOn cache) :=
  inferInstanceAs (Decidable (_ = _))

/-- The task is still at the close: it goes on to arm its timer or to remove its entry. -/
def Task.handles (cache : Cache) (close : Close) : Task → Bool
  | .begun other _ | .arming other _ | .forceCleanup other => other == close
  | .unregistered other => other == close && !isRestored cache close.id close.kind
  | .expired key => key == close.key
  | _ => false

/-- The timer of the close is armed, or a call is still at it. -/
def Attended (pool : Pool World Task) (close : Close) : Prop :=
  pool.shared.armed close.key = true ∨
    ∃ task ∈ pool.tasks, task.handles pool.shared.cache close = true

instance (pool : Pool World Task) (close : Close) : Decidable (Attended pool close) :=
  inferInstanceAs (Decidable (_ ∨ _))

/-- Every stream and every talk that is closing and whose device has a session has its timer, or a
call is still at it. -/
def Deadlines (pool : Pool World Task) : Prop :=
  ∀ close : Close, close.GoesOn pool.shared.cache →
    (pool.shared.network.session close.deviceId).isSome = true → Attended pool close

/-- The device whose session a task enters. -/
def Task.enters : Task → Option String
  | .enter entering => if entering.scheduled then some entering.deviceId else none
  | _ => none

/-- When `register_device` enters a session, every restored stream of the device that is closing
has its timer, or a call is still at it. -/
def EntersTimely (pool : Pool World Task) (task : Task) : Prop :=
  ∀ deviceId ∈ task.enters, ∀ stream ∈ pool.shared.cache.streamMap.entries,
    stream.2.restored = true → stream.2.deviceId = deviceId →
      ∀ generation ∈ stream.2.closingGeneration,
        Attended pool ⟨.stream, stream.1, generation, deviceId⟩

instance (pool : Pool World Task) (task : Task) : Decidable (EntersTimely pool task) :=
  have (deviceId : String) (stream : Sigma fun _ : String => StreamTable) :
      Decidable (∀ generation ∈ stream.2.closingGeneration,
        Attended pool ⟨.stream, stream.1, generation, deviceId⟩) :=
    Option.decidableForallMem _
  inferInstanceAs (Decidable (∀ deviceId ∈ task.enters, _))

end Gmv.Session.CloseTimers
