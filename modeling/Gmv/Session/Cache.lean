import Mathlib.Data.List.AList

/-!
# The session cache

The streams and talks that are up, the streams of each device, and the operations
that open, close and drop them.  A map is an association list with distinct keys;
where the source walks over a map the order of the list stands for the order of the
walk.  A device without streams has no entry of its own, so `device_map` is a
function to lists.
-/

namespace Gmv.Session

inductive AccessMode where
  | live
  | back
  | down
  | talk
  deriving DecidableEq, Repr

/-- `saturating_add(1)`. -/
def saturatingSucc32 (seq : UInt32) : UInt32 := if seq = 4294967295 then seq else seq + 1

inductive StreamLifecycle where
  | playing
  | closing (generation : UInt64) (inflightSeq : Option UInt32) (lastError : Option String)
  deriving DecidableEq, Repr

structure StreamTable where
  deviceId : String
  channelId : String
  proxyAddr : String
  streamNodeName : String
  callId : String
  seq : UInt32
  am : AccessMode
  ssrc : UInt32
  restored : Bool
  lifecycle : StreamLifecycle
  deriving DecidableEq, Repr

namespace StreamTable

def closingGeneration (stream : StreamTable) : Option UInt64 :=
  match stream.lifecycle with
  | .playing => none
  | .closing generation _ _ => some generation

def isClosing (stream : StreamTable) : Bool := stream.closingGeneration.isSome

def isClosingGeneration (stream : StreamTable) (expectedGeneration : UInt64) : Bool :=
  stream.closingGeneration == some expectedGeneration

def lastError (stream : StreamTable) : Option String :=
  match stream.lifecycle with
  | .playing => none
  | .closing _ _ lastError => lastError

def beginClose (stream : StreamTable) (generation : UInt64) : Bool × StreamTable :=
  match stream.lifecycle with
  | .closing _ _ _ => (false, stream)
  | .playing => (true, { stream with lifecycle := .closing generation none none })

def takeBye (stream : StreamTable) : Option (UInt64 × UInt32) × StreamTable :=
  match stream.lifecycle with
  | .closing generation none lastError =>
      let seq := saturatingSucc32 stream.seq
      (some (generation, seq),
        { stream with seq := seq, lifecycle := .closing generation (some seq) lastError })
  | _ => (none, stream)

def markByeFailed (stream : StreamTable) (expectedGeneration : UInt64) (expectedSeq : UInt32)
    (reason : String) : Bool × StreamTable :=
  match stream.lifecycle with
  | .closing generation inflightSeq _ =>
      if generation = expectedGeneration ∧ inflightSeq = some expectedSeq then
        (true, { stream with lifecycle := .closing generation none (some reason) })
      else (false, stream)
  | .playing => (false, stream)

end StreamTable

structure TalkSessionState where
  talkId : String
  deviceId : String
  channelId : String
  ssrc : UInt32
  streamNodeName : String
  callId : String
  seq : UInt32
  restored : Bool
  closingGeneration : Option UInt64
  byeInflightSeq : Option UInt32
  closeLastError : Option String
  deriving DecidableEq, Repr

structure DeviceTable where
  channelId : String
  am : AccessMode
  streamId : String
  ssrc : String
  deriving DecidableEq, Repr

/-- What a first or a repeated close finds. -/
structure CloseStart where
  generation : UInt64
  deviceId : String
  newlyStarted : Bool
  deriving DecidableEq, Repr

structure ByeCommand where
  streamId : String
  generation : UInt64
  deviceId : String
  callId : String
  seq : UInt32
  deriving DecidableEq, Repr

/-- What is left to tell of an entry that was dropped. -/
structure CloseInfo where
  streamId : String
  generation : UInt64
  deviceId : String
  channelId : String
  ssrc : UInt32
  callId : String
  lastError : Option String
  deriving DecidableEq, Repr

abbrev StreamMap := AList fun _ : String => StreamTable
abbrev TalkMap := AList fun _ : String => TalkSessionState

/-- The cache, with the counters that number the closes. -/
structure Cache where
  streamMap : StreamMap
  talkMap : TalkMap
  deviceMap : String → List DeviceTable
  streamCloseGeneration : UInt64
  talkCloseGeneration : UInt64

namespace Cache

def init : Cache := ⟨∅, ∅, fun _ => [], 1, 1⟩

/-! ## Streams -/

def streamMapInsert (cache : Cache) (streamId deviceId channelId : String) (ssrc : UInt32)
    (proxyAddr streamNodeName callId : String) (seq : UInt32) (am : AccessMode)
    (restored : Bool) : Bool × Cache :=
  match cache.streamMap.lookup streamId with
  | some _ => (false, cache)
  | none =>
      (true, { cache with
        streamMap := cache.streamMap.insert streamId
          ⟨deviceId, channelId, proxyAddr, streamNodeName, callId, seq, am, ssrc, restored,
            .playing⟩ })

def streamMapInsertInfo (cache : Cache) (streamId deviceId channelId : String) (ssrc : UInt32)
    (proxyAddr streamNodeName callId : String) (seq : UInt32) (am : AccessMode) : Bool × Cache :=
  cache.streamMapInsert streamId deviceId channelId ssrc proxyAddr streamNodeName callId seq am
    false

def streamMapInsertRestored (cache : Cache) (streamId deviceId channelId : String)
    (ssrc : UInt32) (streamNodeName callId : String) (seq : UInt32) (am : AccessMode) :
    Bool × Cache :=
  cache.streamMapInsert streamId deviceId channelId ssrc "" streamNodeName callId seq am true

def streamMapUpdateSource (cache : Cache) (streamId proxyAddr streamNodeName : String) :
    Bool × Cache :=
  match cache.streamMap.lookup streamId with
  | none => (false, cache)
  | some stream =>
      (true, { cache with
        streamMap := cache.streamMap.insert streamId
          { stream with proxyAddr := proxyAddr, streamNodeName := streamNodeName } })

def streamIsRestored (cache : Cache) (streamId : String) : Bool :=
  (cache.streamMap.lookup streamId).any StreamTable.restored

/-- Every call takes a number, also one for a stream that is closing already. -/
def streamCloseBegin (cache : Cache) (streamId : String) : Option CloseStart × Cache :=
  match cache.streamMap.lookup streamId with
  | none => (none, cache)
  | some stream =>
      let generation := cache.streamCloseGeneration
      let (newlyStarted, stream) := stream.beginClose generation
      (stream.closingGeneration.map fun current => ⟨current, stream.deviceId, newlyStarted⟩,
        { cache with
          streamMap := cache.streamMap.insert streamId stream
          streamCloseGeneration := generation + 1 })

def streamCloseTakeBye (cache : Cache) (streamId : String) : Option ByeCommand × Cache :=
  match cache.streamMap.lookup streamId with
  | none => (none, cache)
  | some stream =>
      match stream.takeBye with
      | (none, _) => (none, cache)
      | (some (generation, seq), stream) =>
          (some ⟨streamId, generation, stream.deviceId, stream.callId, seq⟩,
            { cache with streamMap := cache.streamMap.insert streamId stream })

def streamCloseMarkFailed (cache : Cache) (streamId : String) (generation : UInt64)
    (seq : UInt32) (reason : String) : Bool × Cache :=
  match cache.streamMap.lookup streamId with
  | none => (false, cache)
  | some stream =>
      match stream.markByeFailed generation seq reason with
      | (false, _) => (false, cache)
      | (true, stream) =>
          (true, { cache with streamMap := cache.streamMap.insert streamId stream })

def deviceMapRemoveStream (cache : Cache) (deviceId streamId : String) : Cache :=
  { cache with
    deviceMap := Function.update cache.deviceMap deviceId
      ((cache.deviceMap deviceId).filter fun entry => entry.streamId != streamId) }

/-- The rest of a removal, behind the removal from `stream_map`. -/
def finishRemovedStream (cache : Cache) (streamId : String) (stream : StreamTable)
    (generation : UInt64) : CloseInfo × Cache :=
  (⟨streamId, generation, stream.deviceId, stream.channelId, stream.ssrc, stream.callId,
    stream.lastError⟩, cache.deviceMapRemoveStream stream.deviceId streamId)

/-- `stream_map.remove_if` with the condition of a removal. -/
def streamMapRemoveIf (cache : Cache) (streamId : String) (condition : StreamTable → Bool) :
    Option StreamTable × Cache :=
  match cache.streamMap.lookup streamId with
  | none => (none, cache)
  | some stream =>
      if condition stream then
        (some stream, { cache with streamMap := cache.streamMap.erase streamId })
      else (none, cache)

def streamCloseRemove (cache : Cache) (streamId : String) (generation : UInt64) :
    Option CloseInfo × Cache :=
  match cache.streamMapRemoveIf streamId fun stream => stream.isClosingGeneration generation with
  | (none, cache) => (none, cache)
  | (some stream, cache) =>
      let (info, cache) := cache.finishRemovedStream streamId stream generation
      (some info, cache)

def streamCloseComplete (cache : Cache) (streamId : String) (generation : UInt64) :
    Option CloseInfo × Cache :=
  cache.streamCloseRemove streamId generation

def streamCloseForce (cache : Cache) (streamId : String) (generation : UInt64) :
    Option CloseInfo × Cache :=
  cache.streamCloseRemove streamId generation

/-- The first stream of a walk with the given call. -/
def streamIdByCallId (cache : Cache) (callId : String) : Option String :=
  (cache.streamMap.entries.find? fun entry => entry.2.callId == callId).map Sigma.fst

def streamTerminatedByCallId (cache : Cache) (callId : String) : Option CloseInfo × Cache :=
  match cache.streamIdByCallId callId with
  | none => (none, cache)
  | some streamId =>
      match cache.streamMapRemoveIf streamId fun stream => stream.callId == callId with
      | (none, cache) => (none, cache)
      | (some stream, cache) =>
          let (info, cache) :=
            cache.finishRemovedStream streamId stream (stream.closingGeneration.getD 0)
          (some info, cache)

def deviceMapInsert (cache : Cache) (deviceId channelId ssrc streamId : String)
    (am : AccessMode) : Cache :=
  { cache with
    deviceMap := Function.update cache.deviceMap deviceId
      (cache.deviceMap deviceId ++ [⟨channelId, am, streamId, ssrc⟩]) }

/-! ## Talks -/

def talkMapInsert (cache : Cache) (state : TalkSessionState) : Bool × Cache :=
  match cache.talkMap.lookup state.talkId with
  | some _ => (false, cache)
  | none => (true, { cache with talkMap := cache.talkMap.insert state.talkId state })

def talkIdByCallId (cache : Cache) (callId : String) : Option String :=
  (cache.talkMap.entries.find? fun entry => entry.2.callId == callId).map Sigma.fst

def talkMapRemoveByCallId (cache : Cache) (callId : String) : Option TalkSessionState × Cache :=
  match cache.talkIdByCallId callId with
  | none => (none, cache)
  | some talkId =>
      match cache.talkMap.lookup talkId with
      | none => (none, cache)
      | some talk =>
          if talk.callId = callId then
            (some talk, { cache with talkMap := cache.talkMap.erase talkId })
          else (none, cache)

def talkCloseBegin (cache : Cache) (talkId : String) : Option CloseStart × Cache :=
  match cache.talkMap.lookup talkId with
  | none => (none, cache)
  | some talk =>
      match talk.closingGeneration with
      | some generation => (some ⟨generation, talk.deviceId, false⟩, cache)
      | none =>
          let generation := cache.talkCloseGeneration
          (some ⟨generation, talk.deviceId, true⟩,
            { cache with
              talkMap := cache.talkMap.insert talkId
                { talk with
                  closingGeneration := some generation
                  byeInflightSeq := none
                  closeLastError := none }
              talkCloseGeneration := generation + 1 })

def talkCloseTakeBye (cache : Cache) (talkId : String) : Option ByeCommand × Cache :=
  match cache.talkMap.lookup talkId with
  | none => (none, cache)
  | some talk =>
      match talk.closingGeneration, talk.byeInflightSeq with
      | some generation, none =>
          let seq := saturatingSucc32 talk.seq
          (some ⟨talkId, generation, talk.deviceId, talk.callId, seq⟩,
            { cache with
              talkMap := cache.talkMap.insert talkId
                { talk with seq := seq, byeInflightSeq := some seq } })
      | _, _ => (none, cache)

def talkCloseMarkFailed (cache : Cache) (talkId : String) (generation : UInt64) (seq : UInt32)
    (reason : String) : Bool × Cache :=
  match cache.talkMap.lookup talkId with
  | none => (false, cache)
  | some talk =>
      if talk.closingGeneration = some generation ∧ talk.byeInflightSeq = some seq then
        (true, { cache with
          talkMap := cache.talkMap.insert talkId
            { talk with byeInflightSeq := none, closeLastError := some reason } })
      else (false, cache)

def talkCloseComplete (cache : Cache) (talkId : String) (generation : UInt64) :
    Option CloseInfo × Cache :=
  match cache.talkMap.lookup talkId with
  | none => (none, cache)
  | some talk =>
      if talk.closingGeneration = some generation then
        (some ⟨talkId, generation, talk.deviceId, talk.channelId, talk.ssrc, talk.callId,
          talk.closeLastError⟩, { cache with talkMap := cache.talkMap.erase talkId })
      else (none, cache)

def talkCloseForce (cache : Cache) (talkId : String) (generation : UInt64) :
    Option CloseInfo × Cache :=
  cache.talkCloseComplete talkId generation

/-! ## Devices -/

/-- The streams of a device that a walk over `stream_map` finds. -/
def streamIdsOfDevice (cache : Cache) (deviceId : String) : List String :=
  cache.streamMap.entries.filterMap fun entry =>
    if entry.2.deviceId = deviceId then some entry.1 else none

def talkIdsOfDevice (cache : Cache) (deviceId : String) : List String :=
  cache.talkMap.entries.filterMap fun entry =>
    if entry.2.deviceId = deviceId then some entry.2.talkId else none

def streamMapRemoveAll (cache : Cache) (streamIds : List String) : Cache :=
  { cache with streamMap := streamIds.foldl (fun streams id => streams.erase id) cache.streamMap }

def talkMapRemoveAll (cache : Cache) (talkIds : List String) : Cache :=
  { cache with talkMap := talkIds.foldl (fun talks id => talks.erase id) cache.talkMap }

/-- The streams of the device go by their entries first and then by a walk; the
talks go by a walk. -/
def resetDeviceState (cache : Cache) (deviceId : String) : Cache :=
  let entries := cache.deviceMap deviceId
  let cache := { cache with deviceMap := Function.update cache.deviceMap deviceId [] }
  let cache := cache.streamMapRemoveAll (entries.map DeviceTable.streamId)
  let cache := cache.streamMapRemoveAll (cache.streamIdsOfDevice deviceId)
  cache.talkMapRemoveAll (cache.talkIdsOfDevice deviceId)

end Cache

end Gmv.Session
