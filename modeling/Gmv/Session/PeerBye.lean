import Gmv.Session.CloseProtocol

/-!
# A BYE of the peer against a start

A start enters its stream or talk into memory some time after its dialog row is
established: a stream waits for the media node in between.  The handler of a BYE
writes the row, looks the call up in memory and drops what it finds.  The module
runs one start and one handler of the same call in any order of their steps, and
tells in which orders the BYE is lost.
-/

namespace Gmv.Session.PeerBye

open Gmv.Library

/-! ## The start -/

/-- What `start_invite_stream` knows once the dialog is established. -/
structure StreamCall where
  streamId : String
  deviceId : String
  channelId : String
  ssrc : String
  u32ssrc : UInt32
  nodeName : String
  callId : String
  am : AccessMode
  deriving DecidableEq, Repr

/-- What `stream_close::begin` finds of the device. -/
inductive DeviceSession where
  | missing
  | expired
  | scheduled
  deriving DecidableEq, Repr

/-- The answers that a start waits for: whether the answer of the device is valid,
whether the media node takes it, the address that the media arrives from or nothing
when the wait ends, and the session of the device. -/
structure Answers where
  answerValid : Bool
  initExt : Bool
  heard : Option String
  device : DeviceSession
  deriving DecidableEq, Repr

/-- A start of a stream, or of a talk with the state that it enters. -/
inductive Start where
  | startInviteStream (call : StreamCall) (answers : Answers)
  | talkStart (talk : TalkSessionState)
  deriving DecidableEq, Repr

def Start.callId : Start → String
  | .startInviteStream call _ => call.callId
  | .talkStart talk => talk.callId

inductive CallerPhase where
  | parsing
  | initExt
  | inserting
  | waiting
  | updating (proxyAddr : String)
  | listing
  | closing
  | closeStarted (generation : UInt64)
  | forcing (generation : UInt64)
  | stopping
  | done (ok : Bool)
  deriving DecidableEq, Repr

def Start.first : Start → CallerPhase
  | .startInviteStream .. => .parsing
  | .talkStart _ => .inserting

/-- One step of the rest of `start_invite_stream`.  Stopping the dialog touches neither
map. -/
def streamStep (call : StreamCall) (answers : Answers) (cache : Cache) :
    CallerPhase → CallerPhase × Cache
  | .parsing => (if answers.answerValid then .initExt else .stopping, cache)
  | .initExt => (if answers.initExt then .inserting else .stopping, cache)
  | .inserting =>
      match cache.streamMapInsertInfo call.streamId call.deviceId call.channelId call.u32ssrc ""
        call.nodeName call.callId 1 call.am with
      | (true, next) => (.waiting, next)
      | (false, next) => (.stopping, next)
  | .waiting =>
      match answers.heard with
      | some proxyAddr => (.updating proxyAddr, cache)
      | none => (.closing, cache)
  | .updating proxyAddr =>
      (.listing, (cache.streamMapUpdateSource call.streamId proxyAddr call.nodeName).2)
  | .listing =>
      (.done true, cache.deviceMapInsert call.deviceId call.channelId call.ssrc call.streamId
        call.am)
  | .closing =>
      match cache.streamCloseBegin call.streamId with
      | (some start, next) =>
          (if start.newlyStarted then .closeStarted start.generation else .done false, next)
      | (none, next) => (.done false, next)
  | .closeStarted generation =>
      match answers.device with
      | .missing =>
          (if cache.streamIsRestored call.streamId then .done false else .forcing generation, cache)
      | .expired => (.forcing generation, cache)
      | .scheduled => (.done false, (cache.streamCloseTakeBye call.streamId).2)
  | .forcing generation => (.done false, (cache.streamCloseForce call.streamId generation).2)
  | .stopping => (.done false, cache)
  | .done ok => (.done ok, cache)

/-- One step of the rest of `talk_start`. -/
def talkStep (talk : TalkSessionState) (cache : Cache) : CallerPhase → CallerPhase × Cache
  | .inserting =>
      match cache.talkMapInsert talk with
      | (true, next) => (.done true, next)
      | (false, next) => (.stopping, next)
  | .stopping => (.done false, cache)
  | phase => (phase, cache)

def callerStep (cache : Cache) (phase : CallerPhase) : Start → CallerPhase × Cache
  | .startInviteStream call answers => streamStep call answers cache phase
  | .talkStart talk => talkStep talk cache phase

/-! ## The handler -/

/-- `peer_dialog_terminated`: the row, then the streams, then the talks.  A map is
searched in one step and changed in the next. -/
inductive HandlerPhase where
  | persisting
  | findingStream
  | removingStream (streamId : String)
  | unlinking (streamId : String) (stream : StreamTable)
  | findingTalk
  | removingTalk (talkId : String)
  | done
  deriving DecidableEq, Repr

/-- `talk_map.remove_if` with the call of a BYE. -/
def talkMapRemoveIf (cache : Cache) (talkId callId : String) : Cache :=
  match cache.talkMap.lookup talkId with
  | none => cache
  | some talk =>
      if talk.callId = callId then { cache with talkMap := cache.talkMap.erase talkId } else cache

def handlerStep (callId : String) (cache : Cache) : HandlerPhase → HandlerPhase × Cache
  | .persisting => (.findingStream, cache)
  | .findingStream =>
      match cache.streamIdByCallId callId with
      | some streamId => (.removingStream streamId, cache)
      | none => (.findingTalk, cache)
  | .removingStream streamId =>
      match cache.streamMapRemoveIf streamId fun stream => stream.callId == callId with
      | (some stream, next) => (.unlinking streamId stream, next)
      | (none, next) => (.findingTalk, next)
  | .unlinking streamId stream =>
      (.done, (cache.finishRemovedStream streamId stream (stream.closingGeneration.getD 0)).2)
  | .findingTalk =>
      match cache.talkIdByCallId callId with
      | some talkId => (.removingTalk talkId, cache)
      | none => (.done, cache)
  | .removingTalk talkId => (.done, talkMapRemoveIf cache talkId callId)
  | .done => (.done, cache)

/-- The handler has searched the streams. -/
def HandlerPhase.searchedStreams : HandlerPhase → Bool
  | .persisting | .findingStream => false
  | _ => true

/-- The handler has searched the talks. -/
def HandlerPhase.searchedTalks : HandlerPhase → Bool
  | .removingTalk _ | .done => true
  | _ => false

/-! ## Runs -/

structure State where
  caller : CallerPhase
  handler : HandlerPhase
  cache : Cache

inductive Turn where
  | caller
  | handler
  deriving DecidableEq, Repr

def initial (start : Start) (cache : Cache) : State := ⟨start.first, .persisting, cache⟩

def step (start : Start) (state : State) : Turn → Unit × State
  | .caller =>
      let (caller, cache) := callerStep state.cache state.caller start
      ((), { state with caller := caller, cache := cache })
  | .handler =>
      let (handler, cache) := handlerStep start.callId state.cache state.handler
      ((), { state with handler := handler, cache := cache })

/-- No stream that plays and no talk of the call is left. -/
structure NothingLeft (callId : String) (cache : Cache) : Prop where
  streams : ∀ id stream, cache.streamMap.lookup id = some stream → stream.callId = callId →
    stream.lifecycle ≠ .playing
  talks : ∀ id talk, cache.talkMap.lookup id = some talk → talk.callId ≠ callId

/-- No stream and no talk of the call is in memory. -/
structure Absent (callId : String) (cache : Cache) : Prop where
  streams : ∀ id stream, cache.streamMap.lookup id = some stream → stream.callId ≠ callId
  talks : ∀ id talk, cache.talkMap.lookup id = some talk → talk.callId ≠ callId

/-- The start enters its stream or talk, under an id that is free, when the handler has
searched the map already; and a stream goes on to play. -/
def EntersLate (start : Start) (state : State) (turn : Turn) : Prop :=
  turn = .caller ∧ state.caller = .inserting ∧
    match start with
    | .startInviteStream call answers =>
        state.handler.searchedStreams = true ∧ state.cache.streamMap.lookup call.streamId = none ∧
          answers.heard.isSome = true
    | .talkStart talk =>
        state.handler.searchedTalks = true ∧ state.cache.talkMap.lookup talk.talkId = none

instance (start : Start) (state : State) (turn : Turn) : Decidable (EntersLate start state turn) :=
  match start with
  | .startInviteStream _ _ => inferInstanceAs (Decidable (_ ∧ _ ∧ _ ∧ _ ∧ _))
  | .talkStart _ => inferInstanceAs (Decidable (_ ∧ _ ∧ _ ∧ _))

/-! ## Searching the maps -/

section Search

variable {β : Type} {callOf : β → String} {map : AList fun _ : String => β} {callId id : String}

/-- What a search by the call finds is under that call. -/
theorem lookup_of_search
    (found : (map.entries.find? fun entry => callOf entry.2 == callId).map Sigma.fst = some id) :
    ∃ entry, map.lookup id = some entry ∧ callOf entry = callId := by
  rw [Option.map_eq_some_iff] at found
  obtain ⟨entry, isEntry, rfl⟩ := found
  have holds := List.find?_some isEntry
  exact ⟨entry.2, AList.mem_lookup_iff.mpr (List.mem_of_find?_eq_some isEntry),
    beq_iff_eq.mp holds⟩

theorem search_isSome {entry : β} (found : map.lookup id = some entry) (call : callOf entry = callId) :
    ((map.entries.find? fun entry => callOf entry.2 == callId).map Sigma.fst).isSome = true := by
  rw [Option.isSome_map, List.find?_isSome]
  exact ⟨⟨id, entry⟩, AList.mem_lookup_iff.mp found, beq_iff_eq.mpr call⟩

/-- A search for a call that nothing is under finds nothing. -/
theorem search_eq_none (apart : ∀ id entry, map.lookup id = some entry → callOf entry ≠ callId) :
    (map.entries.find? fun entry => callOf entry.2 == callId).map Sigma.fst = none := by
  cases found : (map.entries.find? fun entry => callOf entry.2 == callId).map Sigma.fst with
  | none => rfl
  | some id =>
      obtain ⟨entry, held, call⟩ := lookup_of_search found
      exact absurd call (apart id entry held)

end Search

section

variable {cache : Cache} {callId id : String}

theorem lookup_of_streamIdByCallId (found : cache.streamIdByCallId callId = some id) :
    ∃ stream, cache.streamMap.lookup id = some stream ∧ stream.callId = callId :=
  @lookup_of_search _ StreamTable.callId _ _ _ found

theorem streamIdByCallId_isSome {stream : StreamTable}
    (found : cache.streamMap.lookup id = some stream) (call : stream.callId = callId) :
    (cache.streamIdByCallId callId).isSome = true :=
  @search_isSome _ StreamTable.callId _ _ _ _ found call

theorem lookup_of_talkIdByCallId (found : cache.talkIdByCallId callId = some id) :
    ∃ talk, cache.talkMap.lookup id = some talk ∧ talk.callId = callId :=
  @lookup_of_search _ TalkSessionState.callId _ _ _ found

theorem talkIdByCallId_isSome {talk : TalkSessionState}
    (found : cache.talkMap.lookup id = some talk) (call : talk.callId = callId) :
    (cache.talkIdByCallId callId).isSome = true :=
  @search_isSome _ TalkSessionState.callId _ _ _ _ found call

end

/-! ## Steps that enter nothing -/

/-- Every stream of the next cache was there under the same call, and plays only if it
played; every talk was there. -/
structure Keeps (cache next : Cache) : Prop where
  streams : ∀ id stream, next.streamMap.lookup id = some stream →
    ∃ old, cache.streamMap.lookup id = some old ∧ old.callId = stream.callId ∧
      (stream.lifecycle = .playing → old.lifecycle = .playing)
  talks : ∀ id talk, next.talkMap.lookup id = some talk → cache.talkMap.lookup id = some talk

section Memory

variable {callId : String} {cache next : Cache}

theorem Keeps.refl (cache : Cache) : Keeps cache cache :=
  ⟨fun _ stream found => ⟨stream, found, rfl, id⟩, fun _ _ found => found⟩

/-- A cache that has no stream but those that were there. -/
theorem Keeps.of_subset (streams : ∀ id stream, next.streamMap.lookup id = some stream →
      cache.streamMap.lookup id = some stream)
    (talks : next.talkMap = cache.talkMap) : Keeps cache next := by
  constructor
  · intro id stream found
    exact ⟨stream, streams id stream found, rfl, fun playing => playing⟩
  · intro id talk found
    rw [talks] at found
    exact found

/-- Steps that leave both maps alone. -/
theorem Keeps.of_eq (streams : next.streamMap = cache.streamMap)
    (talks : next.talkMap = cache.talkMap) : Keeps cache next :=
  .of_subset (fun id stream found => by rwa [streams] at found) talks

theorem Keeps.of_insert {key : String} {old replaced : StreamTable}
    (held : cache.streamMap.lookup key = some old)
    (streams : next.streamMap = cache.streamMap.insert key replaced)
    (talks : next.talkMap = cache.talkMap) (same : old.callId = replaced.callId)
    (playing : replaced.lifecycle = .playing → old.lifecycle = .playing) : Keeps cache next := by
  constructor
  · intro id stream found
    rw [streams] at found
    by_cases isKey : id = key
    · rw [isKey, AList.lookup_insert] at found
      cases found
      rw [isKey]
      exact ⟨old, held, same, playing⟩
    · rw [AList.lookup_insert_ne isKey] at found
      exact ⟨stream, found, rfl, fun playing => playing⟩
  · intro id talk found
    rw [talks] at found
    exact found

theorem lookup_of_erase {β : Type} {map : AList fun _ : String => β} {key id : String} {entry : β}
    (found : (map.erase key).lookup id = some entry) : map.lookup id = some entry := by
  by_cases same : id = key
  · rw [same, AList.lookup_erase] at found
    cases found
  · rw [AList.lookup_erase_ne same] at found
    exact found

theorem lookup_of_insert {β : Type} {map : AList fun _ : String => β} {key id : String}
    {written entry : β} (found : (map.insert key written).lookup id = some entry) :
    (id = key ∧ written = entry) ∨ map.lookup id = some entry := by
  by_cases same : id = key
  · rw [same, AList.lookup_insert] at found
    exact Or.inl ⟨same, Option.some.inj found⟩
  · rw [AList.lookup_insert_ne same] at found
    exact Or.inr found

theorem Keeps.of_erase {key : String} (streams : next.streamMap = cache.streamMap.erase key)
    (talks : next.talkMap = cache.talkMap) : Keeps cache next := by
  refine .of_subset (fun id stream found => ?_) talks
  rw [streams] at found
  exact lookup_of_erase found

theorem Absent.keeps (absent : Absent callId cache) (keeps : Keeps cache next) :
    Absent callId next := by
  constructor
  · intro id stream found
    obtain ⟨old, held, same, _⟩ := keeps.streams id stream found
    rw [← same]
    exact absent.streams id old held
  · intro id talk found
    exact absent.talks id talk (keeps.talks id talk found)

theorem NothingLeft.keeps (nothing : NothingLeft callId cache) (keeps : Keeps cache next) :
    NothingLeft callId next := by
  constructor
  · intro id stream found call playing
    obtain ⟨old, held, same, played⟩ := keeps.streams id stream found
    exact nothing.streams id old held (same.trans call) (played playing)
  · intro id talk found
    exact nothing.talks id talk (keeps.talks id talk found)

theorem Absent.nothingLeft (absent : Absent callId cache) : NothingLeft callId cache :=
  ⟨fun id stream found call => absurd call (absent.streams id stream found), absent.talks⟩

/-- A search for a call that is absent finds nothing. -/
theorem Absent.streamIdByCallId (absent : Absent callId cache) :
    cache.streamIdByCallId callId = none :=
  @search_eq_none _ StreamTable.callId _ _ absent.streams

theorem Absent.talkIdByCallId (absent : Absent callId cache) :
    cache.talkIdByCallId callId = none :=
  @search_eq_none _ TalkSessionState.callId _ _ absent.talks

theorem handlerStep_keeps (callId : String) (cache : Cache) (phase : HandlerPhase) :
    Keeps cache (handlerStep callId cache phase).2 := by
  cases phase with
  | persisting => exact Keeps.refl cache
  | findingStream =>
      rw [handlerStep]
      split <;> exact Keeps.refl cache
  | removingStream streamId =>
      rw [handlerStep]
      rcases cache.streamMapRemoveIf_cases streamId (fun stream => stream.callId == callId) with
        same | ⟨stream, _, _, same⟩ <;> rw [same]
      · exact Keeps.refl cache
      · exact Keeps.of_erase rfl rfl
  | unlinking streamId stream => exact Keeps.of_eq rfl rfl
  | findingTalk =>
      rw [handlerStep]
      split <;> exact Keeps.refl cache
  | removingTalk talkId =>
      rw [handlerStep, talkMapRemoveIf]
      split
      · exact Keeps.refl cache
      · split
        · exact ⟨(Keeps.refl cache).streams, fun _ _ found => lookup_of_erase found⟩
        · exact Keeps.refl cache
  | done => exact Keeps.refl cache

theorem streamStep_keeps (call : StreamCall) (answers : Answers) (cache : Cache)
    {phase : CallerPhase} (enters : phase ≠ .inserting) :
    Keeps cache (streamStep call answers cache phase).2 := by
  cases phase with
  | inserting => exact absurd rfl enters
  | waiting =>
      rw [streamStep]
      split <;> exact Keeps.refl cache
  | updating proxyAddr =>
      rw [streamStep, Cache.streamMapUpdateSource]
      split
      · exact Keeps.refl cache
      · rename_i stream held
        exact Keeps.of_insert held rfl rfl rfl fun playing => playing
  | closing =>
      rw [streamStep]
      rcases cache.streamCloseBegin_cases call.streamId with
        same | ⟨stream, held, _, same⟩ | ⟨stream, _, held, _, same⟩ <;> rw [same]
      · exact Keeps.refl cache
      · exact Keeps.of_insert held rfl rfl rfl fun playing => by cases playing
      · exact Keeps.of_insert held rfl rfl rfl fun playing => playing
  | closeStarted generation =>
      rw [streamStep]
      cases answers.device with
      | missing => exact Keeps.refl cache
      | expired => exact Keeps.refl cache
      | scheduled =>
          dsimp only
          rcases cache.streamCloseTakeBye_cases call.streamId with
            same | ⟨stream, _, _, held, _, same⟩ <;> rw [same]
          · exact Keeps.refl cache
          · exact Keeps.of_insert held rfl rfl rfl fun playing => by cases playing
  | forcing generation =>
      rw [streamStep, Cache.streamCloseForce]
      rcases cache.streamCloseRemove_cases call.streamId generation with
        same | ⟨_, _, _, _, _, streams, talks, _⟩
      · rw [same]
        exact Keeps.refl cache
      · exact Keeps.of_erase streams talks
  | _ => exact Keeps.of_eq rfl rfl

end Memory

/-! ## The call in memory -/

/-- The stream of the call plays under its id, and nothing else of the call is up. -/
structure StreamUp (call : StreamCall) (cache : Cache) : Prop where
  held : ∃ stream, cache.streamMap.lookup call.streamId = some stream ∧
    stream.callId = call.callId ∧ stream.lifecycle = .playing
  sole : ∀ id stream, cache.streamMap.lookup id = some stream → stream.callId = call.callId →
    id = call.streamId
  talks : ∀ id talk, cache.talkMap.lookup id = some talk → talk.callId ≠ call.callId

structure TalkUp (talk : TalkSessionState) (cache : Cache) : Prop where
  held : cache.talkMap.lookup talk.talkId = some talk
  sole : ∀ id other, cache.talkMap.lookup id = some other → other.callId = talk.callId →
    id = talk.talkId
  streams : ∀ id stream, cache.streamMap.lookup id = some stream → stream.callId ≠ talk.callId

section Up

variable {call : StreamCall} {answers : Answers} {talk : TalkSessionState} {cache next : Cache}

theorem StreamUp.of_eq (up : StreamUp call cache) (streams : next.streamMap = cache.streamMap)
    (talks : next.talkMap = cache.talkMap) : StreamUp call next := by
  obtain ⟨held, sole, noTalk⟩ := up
  refine ⟨?_, ?_, ?_⟩
  · rw [streams]
    exact held
  · rw [streams]
    exact sole
  · rw [talks]
    exact noTalk

variable (answers) in
/-- The insert under a free id brings the stream up. -/
theorem streamUp_of_insert (absent : Absent call.callId cache)
    (free : cache.streamMap.lookup call.streamId = none) :
    ∃ next, streamStep call answers cache .inserting = (.waiting, next) ∧ StreamUp call next := by
  have stepped : streamStep call answers cache .inserting = (.waiting, { cache with
      streamMap := cache.streamMap.insert call.streamId
        ⟨call.deviceId, call.channelId, "", call.nodeName, call.callId, 1, call.am, call.u32ssrc,
          false, .playing⟩ }) := by
    rw [streamStep, Cache.streamMapInsertInfo, Cache.streamMapInsert, free]
  refine ⟨_, stepped, ?_, ?_, absent.talks⟩
  · exact ⟨_, AList.lookup_insert _, rfl, rfl⟩
  · intro id stream found same
    by_cases isId : id = call.streamId
    · exact isId
    · rw [AList.lookup_insert_ne isId] at found
      exact absurd same (absent.streams id stream found)

theorem streamStep_inserting_taken {stream : StreamTable}
    (taken : cache.streamMap.lookup call.streamId = some stream) :
    streamStep call answers cache .inserting = (.stopping, cache) := by
  rw [streamStep, Cache.streamMapInsertInfo, Cache.streamMapInsert, taken]

theorem StreamUp.update (up : StreamUp call cache) (proxyAddr : String) :
    StreamUp call (streamStep call answers cache (.updating proxyAddr)).2 := by
  obtain ⟨⟨stream, held, same, playing⟩, sole, talks⟩ := up
  have stepped : (streamStep call answers cache (.updating proxyAddr)).2 =
      { cache with
        streamMap := cache.streamMap.insert call.streamId
          { stream with proxyAddr := proxyAddr, streamNodeName := call.nodeName } } := by
    rw [streamStep, Cache.streamMapUpdateSource, held]
  rw [stepped]
  refine ⟨⟨_, AList.lookup_insert _, same, playing⟩, ?_, talks⟩
  intro id other found calls
  by_cases isId : id = call.streamId
  · exact isId
  · rw [AList.lookup_insert_ne isId] at found
    exact sole id other found calls

/-- A close takes the stream out of play. -/
theorem StreamUp.close (up : StreamUp call cache) :
    NothingLeft call.callId (streamStep call answers cache .closing).2 := by
  obtain ⟨⟨stream, held, same, playing⟩, sole, talks⟩ := up
  have stepped : (streamStep call answers cache .closing).2 =
      { cache with
        streamMap := cache.streamMap.insert call.streamId
          { stream with lifecycle := .closing cache.streamCloseGeneration none none }
        streamCloseGeneration := cache.streamCloseGeneration + 1 } := by
    rw [streamStep, Cache.streamCloseBegin, held]
    simp [StreamTable.beginClose, playing, StreamTable.closingGeneration]
  rw [stepped]
  refine ⟨fun id other found calls => ?_, talks⟩
  by_cases isId : id = call.streamId
  · rw [isId, AList.lookup_insert] at found
    cases found
    intro plays
    cases plays
  · rw [AList.lookup_insert_ne isId] at found
    exact absurd (sole id other found calls) isId

theorem StreamUp.find (up : StreamUp call cache) :
    cache.streamIdByCallId call.callId = some call.streamId := by
  obtain ⟨⟨stream, held, same, _⟩, sole, _⟩ := up
  obtain ⟨id, found⟩ := Option.isSome_iff_exists.mp (streamIdByCallId_isSome held same)
  obtain ⟨other, isOther, calls⟩ := lookup_of_streamIdByCallId found
  rw [found, sole id other isOther calls]

theorem StreamUp.noTalk (up : StreamUp call cache) :
    cache.talkIdByCallId call.callId = none :=
  @search_eq_none _ TalkSessionState.callId _ _ up.talks

/-- The handler drops the stream that it found. -/
theorem StreamUp.remove (up : StreamUp call cache) :
    Absent call.callId
      (handlerStep call.callId cache (.removingStream call.streamId)).2 := by
  obtain ⟨⟨stream, held, same, _⟩, sole, talks⟩ := up
  have stepped : (handlerStep call.callId cache (.removingStream call.streamId)).2 =
      { cache with streamMap := cache.streamMap.erase call.streamId } := by
    rw [handlerStep, Cache.streamMapRemoveIf, held]
    simp [same]
  rw [stepped]
  refine ⟨fun id other found calls => ?_, talks⟩
  have isId := sole id other (lookup_of_erase found) calls
  rw [isId, AList.lookup_erase] at found
  cases found

theorem StreamUp.left (up : StreamUp call cache) : ¬ NothingLeft call.callId cache := by
  obtain ⟨⟨stream, held, same, playing⟩, _, _⟩ := up
  intro nothing
  exact nothing.streams call.streamId stream held same playing

theorem talkUp_of_insert (absent : Absent talk.callId cache)
    (free : cache.talkMap.lookup talk.talkId = none) :
    ∃ next, talkStep talk cache .inserting = (.done true, next) ∧ TalkUp talk next := by
  have stepped : talkStep talk cache .inserting = (.done true, { cache with
      talkMap := cache.talkMap.insert talk.talkId talk }) := by
    rw [talkStep, Cache.talkMapInsert, free]
  refine ⟨_, stepped, AList.lookup_insert _, ?_, absent.streams⟩
  intro id other found same
  by_cases isId : id = talk.talkId
  · exact isId
  · rw [AList.lookup_insert_ne isId] at found
    exact absurd same (absent.talks id other found)

theorem talkStep_inserting_taken {other : TalkSessionState}
    (taken : cache.talkMap.lookup talk.talkId = some other) :
    talkStep talk cache .inserting = (.stopping, cache) := by
  rw [talkStep, Cache.talkMapInsert, taken]

theorem TalkUp.noStream (up : TalkUp talk cache) :
    cache.streamIdByCallId talk.callId = none :=
  @search_eq_none _ StreamTable.callId _ _ up.streams

theorem TalkUp.find (up : TalkUp talk cache) :
    cache.talkIdByCallId talk.callId = some talk.talkId := by
  obtain ⟨id, found⟩ := Option.isSome_iff_exists.mp (talkIdByCallId_isSome up.held rfl)
  obtain ⟨other, isOther, calls⟩ := lookup_of_talkIdByCallId found
  rw [found, up.sole id other isOther calls]

theorem TalkUp.remove (up : TalkUp talk cache) :
    Absent talk.callId (handlerStep talk.callId cache (.removingTalk talk.talkId)).2 := by
  have stepped : (handlerStep talk.callId cache (.removingTalk talk.talkId)).2 =
      { cache with talkMap := cache.talkMap.erase talk.talkId } := by
    rw [handlerStep, talkMapRemoveIf, up.held]
    simp
  rw [stepped]
  refine ⟨up.streams, fun id other found calls => ?_⟩
  have isId := up.sole id other (lookup_of_erase found) calls
  rw [isId, AList.lookup_erase] at found
  cases found

theorem TalkUp.left (up : TalkUp talk cache) : ¬ NothingLeft talk.callId cache :=
  fun nothing => nothing.talks talk.talkId talk up.held rfl

end Up

/-! ## Views of a run -/

abbrev Past := List (Runs.Transition State Turn Unit)

def WasLate (start : Start) (past : Past) : Prop :=
  ∃ entry ∈ past, EntersLate start entry.before entry.action

theorem wasLate_concat {start : Start} {past : Past} {state : State} {turn : Turn} :
    WasLate start (past ++ [Runs.transition (step start) state turn]) ↔
      WasLate start past ∨ EntersLate start state turn :=
  Runs.exists_mem_concat

/-- A step that does not enter late leaves the run early. -/
theorem early_concat {start : Start} {past : Past} {state : State} {turn : Turn}
    (early : ¬ WasLate start past) (other : ¬ EntersLate start state turn) :
    ¬ WasLate start (past ++ [Runs.transition (step start) state turn]) := by
  rw [wasLate_concat]
  exact fun late => late.elim early other

theorem early_of_handler {start : Start} {past : Past} {state : State}
    (early : ¬ WasLate start past) :
    ¬ WasLate start (past ++ [Runs.transition (step start) state .handler]) :=
  early_concat early fun late => by cases late.1

theorem early_of_phase {start : Start} {past : Past} {state : State} {turn : Turn}
    (early : ¬ WasLate start past) (phase : state.caller ≠ .inserting) :
    ¬ WasLate start (past ++ [Runs.transition (step start) state turn]) :=
  early_concat early fun late => phase late.2.1

/-- The phases up to the insert. -/
def CallerPhase.isBefore : CallerPhase → Bool
  | .parsing | .initExt | .inserting => true
  | _ => false

/-- The phases of a start whose stream plays, with what it has heard. -/
def CallerPhase.plays (heard : Option String) : CallerPhase → Bool
  | .waiting => true
  | .updating _ | .listing | .done true => heard.isSome
  | .closing => heard.isNone
  | _ => false

/-- The phases of a handler that has found nothing. -/
def HandlerPhase.isIdle : HandlerPhase → Bool
  | .persisting | .findingStream | .findingTalk | .done => true
  | _ => false

theorem not_inserting_of_isBefore {phase : CallerPhase} (behind : phase.isBefore = false) :
    phase ≠ .inserting := by
  rintro rfl
  cases behind

theorem isBefore_of_plays {heard : Option String} {phase : CallerPhase}
    (plays : phase.plays heard = true) : phase.isBefore = false := by
  cases phase with
  | parsing | initExt | inserting => cases plays
  | _ => rfl

theorem streamStep_isBefore (call : StreamCall) (answers : Answers) (cache : Cache)
    {phase : CallerPhase} (behind : phase.isBefore = false) :
    (streamStep call answers cache phase).1.isBefore = false := by
  cases phase with
  | parsing | initExt | inserting => cases behind
  | waiting =>
      rw [streamStep]
      split <;> rfl
  | closing =>
      rw [streamStep]
      split
      · dsimp only
        split <;> rfl
      · rfl
  | closeStarted generation =>
      rw [streamStep]
      split
      · dsimp only
        split <;> rfl
      · rfl
      · rfl
  | _ => rfl

/-- An idle handler that finds nothing stays idle. -/
theorem Absent.idle {callId : String} {cache : Cache} (absent : Absent callId cache)
    {phase : HandlerPhase} (idle : phase.isIdle = true) :
    (handlerStep callId cache phase).1.isIdle = true := by
  cases phase with
  | findingStream => rw [handlerStep, absent.streamIdByCallId]; rfl
  | findingTalk => rw [handlerStep, absent.talkIdByCallId]; rfl
  | persisting | done => rfl
  | _ => cases idle

/-! ### A stream -/

/-- What a run of a stream start looks like: the stream is not entered yet; or
nothing is left of it; or it plays and the handler is going to find it; or it plays
and the handler has passed. -/
inductive StreamView (call : StreamCall) (answers : Answers) (past : Past) (state : State) : Prop
  | before (absent : Absent call.callId state.cache) (phase : state.caller.isBefore = true)
      (handler : state.handler.isIdle = true)
      (early : ¬ WasLate (.startInviteStream call answers) past)
  | settled (nothing : NothingLeft call.callId state.cache) (phase : state.caller.isBefore = false)
      (early : ¬ WasLate (.startInviteStream call answers) past)
  | up (up : StreamUp call state.cache) (phase : state.caller.plays answers.heard = true)
      (handler : state.handler = .persisting ∨ state.handler = .findingStream ∨
        state.handler = .removingStream call.streamId)
      (early : ¬ WasLate (.startInviteStream call answers) past)
  | late (up : StreamUp call state.cache) (phase : state.caller.plays answers.heard = true)
      (handler : state.handler = .findingTalk ∨ state.handler = .done)
      (late : answers.heard.isSome = true → WasLate (.startInviteStream call answers) past)

section Stream

variable {call : StreamCall} {answers : Answers} {past : Past} {state : State}

/-- A start that never hears of its stream is not late. -/
theorem not_wasLate_of_unheard (unheard : answers.heard = none) :
    ¬ WasLate (.startInviteStream call answers) past := by
  rintro ⟨entry, _, _, _, _, _, heard⟩
  rw [unheard] at heard
  cases heard

/-- The start of a stream that plays goes on, or gives the stream up. -/
theorem StreamUp.caller_step {cache : Cache} (up : StreamUp call cache) {phase : CallerPhase}
    (plays : phase.plays answers.heard = true) :
    (StreamUp call (streamStep call answers cache phase).2 ∧
      (streamStep call answers cache phase).1.plays answers.heard = true) ∨
    (NothingLeft call.callId (streamStep call answers cache phase).2 ∧ answers.heard = none) := by
  cases phase with
  | waiting =>
      rw [streamStep]
      cases heard : answers.heard with
      | some proxyAddr => exact Or.inl ⟨up, rfl⟩
      | none => exact Or.inl ⟨up, rfl⟩
  | updating proxyAddr => exact Or.inl ⟨up.update proxyAddr, plays⟩
  | listing => exact Or.inl ⟨up.of_eq rfl rfl, plays⟩
  | closing => exact Or.inr ⟨up.close, Option.isNone_iff_eq_none.mp plays⟩
  | done ok => exact Or.inl ⟨up, plays⟩
  | _ => cases plays

theorem StreamView.caller_step (view : StreamView call answers past state) :
    StreamView call answers
      (past ++ [Runs.transition (step (.startInviteStream call answers)) state .caller])
      (step (.startInviteStream call answers) state .caller).2 := by
  obtain ⟨caller, handler, cache⟩ := state
  cases view with
  | before absent phase idle early =>
      cases caller with
      | parsing | initExt =>
          simp only [step, callerStep, streamStep]
          split
          · exact .before absent rfl idle (early_of_phase early (by simp))
          · exact .settled absent.nothingLeft rfl (early_of_phase early (by simp))
      | inserting =>
          cases taken : cache.streamMap.lookup call.streamId with
          | some stream =>
              simp only [step, callerStep, streamStep_inserting_taken taken]
              refine .settled absent.nothingLeft rfl (early_concat early ?_)
              rintro ⟨_, _, _, free, _⟩
              rw [taken] at free
              cases free
          | none =>
              obtain ⟨next, stepped, up⟩ := streamUp_of_insert answers absent taken
              simp only [step, callerStep, stepped]
              cases handler with
              | persisting =>
                  refine .up up rfl (Or.inl rfl) (early_concat early ?_)
                  rintro ⟨_, _, searched, _⟩
                  cases searched
              | findingStream =>
                  refine .up up rfl (Or.inr (Or.inl rfl)) (early_concat early ?_)
                  rintro ⟨_, _, searched, _⟩
                  cases searched
              | findingTalk =>
                  refine .late up rfl (Or.inl rfl) fun heard => ?_
                  exact wasLate_concat.mpr (Or.inr ⟨rfl, rfl, rfl, taken, heard⟩)
              | done =>
                  refine .late up rfl (Or.inr rfl) fun heard => ?_
                  exact wasLate_concat.mpr (Or.inr ⟨rfl, rfl, rfl, taken, heard⟩)
              | _ => cases idle
      | _ => cases phase
  | settled nothing phase early =>
      have notInserting := not_inserting_of_isBefore phase
      exact .settled (nothing.keeps (streamStep_keeps call answers cache notInserting))
        (streamStep_isBefore call answers cache phase)
        (early_of_phase early notInserting)
  | up up phase handler early =>
      have behind := isBefore_of_plays phase
      have notInserting := not_inserting_of_isBefore behind
      rcases up.caller_step phase with ⟨still, plays⟩ | ⟨nothing, _⟩
      · exact .up still plays handler (early_of_phase early notInserting)
      · exact .settled nothing (streamStep_isBefore call answers cache behind)
          (early_of_phase early notInserting)
  | late up phase handler late =>
      rcases up.caller_step phase with ⟨still, plays⟩ | ⟨nothing, unheard⟩
      · exact .late still plays handler fun heard => wasLate_concat.mpr (Or.inl (late heard))
      · exact .settled nothing
          (streamStep_isBefore call answers cache (isBefore_of_plays phase))
          (not_wasLate_of_unheard unheard)

theorem StreamView.handler_step (view : StreamView call answers past state) :
    StreamView call answers
      (past ++ [Runs.transition (step (.startInviteStream call answers)) state .handler])
      (step (.startInviteStream call answers) state .handler).2 := by
  obtain ⟨caller, handler, cache⟩ := state
  have keeps := handlerStep_keeps call.callId cache handler
  cases view with
  | before absent phase idle early =>
      exact .before (absent.keeps keeps) phase (absent.idle idle)
        (early_of_handler early)
  | settled nothing phase early =>
      exact .settled (nothing.keeps keeps) phase (early_of_handler early)
  | up up phase handler early =>
      rcases handler with rfl | rfl | rfl
      · exact .up up phase (Or.inr (Or.inl rfl)) (early_of_handler early)
      · simp only [step, handlerStep, Start.callId, up.find]
        exact .up up phase (Or.inr (Or.inr rfl)) (early_of_handler early)
      · exact .settled up.remove.nothingLeft (isBefore_of_plays phase) (early_of_handler early)
  | late up phase handler late =>
      rcases handler with rfl | rfl
      · simp only [step, handlerStep, Start.callId, up.noTalk]
        exact .late up phase (Or.inr rfl) fun heard => wasLate_concat.mpr (Or.inl (late heard))
      · exact .late up phase (Or.inr rfl) fun heard => wasLate_concat.mpr (Or.inl (late heard))

/-- Where both calls have finished, something is left exactly behind a late entry. -/
theorem StreamView.nothingLeft_iff (view : StreamView call answers past state) {ok : Bool}
    (returned : state.caller = .done ok) (handled : state.handler = .done) :
    NothingLeft call.callId state.cache ↔ ¬ WasLate (.startInviteStream call answers) past := by
  cases view with
  | before absent phase =>
      rw [returned] at phase
      cases phase
  | settled nothing _ early => exact ⟨fun _ => early, fun _ => nothing⟩
  | up _ _ handler =>
      rw [handled] at handler
      rcases handler with same | same | same <;> cases same
  | late up phase _ late =>
      rw [returned] at phase
      cases ok with
      | false => cases phase
      | true => exact ⟨fun nothing => absurd nothing up.left, fun early => absurd (late phase) early⟩

end Stream

/-! ### A talk -/

/-- What a run of a talk start looks like. -/
inductive TalkView (talk : TalkSessionState) (past : Past) (state : State) : Prop
  | before (absent : Absent talk.callId state.cache) (phase : state.caller = .inserting)
      (handler : state.handler.isIdle = true) (early : ¬ WasLate (.talkStart talk) past)
  | settled (nothing : NothingLeft talk.callId state.cache)
      (phase : state.caller = .stopping ∨ ∃ ok, state.caller = .done ok)
      (early : ¬ WasLate (.talkStart talk) past)
  | up (up : TalkUp talk state.cache) (phase : state.caller = .done true)
      (handler : state.handler = .persisting ∨ state.handler = .findingStream ∨
        state.handler = .findingTalk ∨ state.handler = .removingTalk talk.talkId)
      (early : ¬ WasLate (.talkStart talk) past)
  | late (up : TalkUp talk state.cache) (phase : state.caller = .done true)
      (handler : state.handler = .done) (late : WasLate (.talkStart talk) past)

section Talk

variable {talk : TalkSessionState} {past : Past} {state : State}

theorem TalkView.caller_step (view : TalkView talk past state) :
    TalkView talk (past ++ [Runs.transition (step (.talkStart talk)) state .caller])
      (step (.talkStart talk) state .caller).2 := by
  obtain ⟨caller, handler, cache⟩ := state
  cases view with
  | before absent phase idle early =>
      cases phase
      cases taken : cache.talkMap.lookup talk.talkId with
      | some other =>
          simp only [step, callerStep, talkStep_inserting_taken taken]
          refine .settled absent.nothingLeft (Or.inl rfl) (early_concat early ?_)
          rintro ⟨_, _, _, free⟩
          rw [taken] at free
          cases free
      | none =>
          obtain ⟨next, stepped, up⟩ := talkUp_of_insert absent taken
          have notSearched : handler.searchedTalks = false →
              ¬ EntersLate (.talkStart talk) ⟨.inserting, handler, cache⟩ .caller := by
            rintro unsearched ⟨_, _, searched, _⟩
            rw [unsearched] at searched
            cases searched
          simp only [step, callerStep, stepped]
          cases handler with
          | persisting => exact .up up rfl (Or.inl rfl) (early_concat early (notSearched rfl))
          | findingStream =>
              exact .up up rfl (Or.inr (Or.inl rfl)) (early_concat early (notSearched rfl))
          | findingTalk =>
              exact .up up rfl (Or.inr (Or.inr (Or.inl rfl)))
                (early_concat early (notSearched rfl))
          | done =>
              exact .late up rfl rfl (wasLate_concat.mpr (Or.inr ⟨rfl, rfl, rfl, taken⟩))
          | _ => cases idle
  | settled nothing phase early =>
      rcases phase with same | ⟨ok, same⟩ <;> cases same
      · exact .settled nothing (Or.inr ⟨false, rfl⟩) (early_of_phase early (by simp))
      · exact .settled nothing (Or.inr ⟨ok, rfl⟩) (early_of_phase early (by simp))
  | up up phase handler early =>
      cases phase
      exact .up up rfl handler (early_of_phase early (by simp))
  | late up phase handler late =>
      cases phase
      exact .late up rfl handler (wasLate_concat.mpr (Or.inl late))

theorem TalkView.handler_step (view : TalkView talk past state) :
    TalkView talk (past ++ [Runs.transition (step (.talkStart talk)) state .handler])
      (step (.talkStart talk) state .handler).2 := by
  obtain ⟨caller, handler, cache⟩ := state
  have keeps := handlerStep_keeps talk.callId cache handler
  cases view with
  | before absent phase idle early =>
      exact .before (absent.keeps keeps) phase (absent.idle idle) (early_of_handler early)
  | settled nothing phase early =>
      exact .settled (nothing.keeps keeps) phase (early_of_handler early)
  | up up phase handler early =>
      rcases handler with rfl | rfl | rfl | rfl
      · exact .up up phase (Or.inr (Or.inl rfl)) (early_of_handler early)
      · simp only [step, handlerStep, Start.callId, up.noStream]
        exact .up up phase (Or.inr (Or.inr (Or.inl rfl))) (early_of_handler early)
      · simp only [step, handlerStep, Start.callId, up.find]
        exact .up up phase (Or.inr (Or.inr (Or.inr rfl))) (early_of_handler early)
      · exact .settled up.remove.nothingLeft (Or.inr ⟨true, phase⟩) (early_of_handler early)
  | late up phase handler late =>
      cases handler
      exact .late up phase rfl (wasLate_concat.mpr (Or.inl late))

theorem TalkView.nothingLeft_iff (view : TalkView talk past state)
    (handled : state.handler = .done) {ok : Bool} (returned : state.caller = .done ok) :
    NothingLeft talk.callId state.cache ↔ ¬ WasLate (.talkStart talk) past := by
  cases view with
  | before _ phase =>
      rw [returned] at phase
      cases phase
  | settled nothing _ early => exact ⟨fun _ => early, fun _ => nothing⟩
  | up _ _ handler =>
      rw [handled] at handler
      rcases handler with same | same | same | same <;> cases same
  | late up _ _ late => exact ⟨fun nothing => absurd nothing up.left, fun early => absurd late early⟩

end Talk

/-! ## Every order of the steps -/

/-- In every order in which the steps of a start and of the handler can come, once both
have finished: nothing of the call that plays is left in memory exactly when the start
did not enter its stream or talk behind the search of the handler. -/
theorem nothingLeft_iff_entered_in_time (start : Start) (cache : Cache)
    (new : Absent start.callId cache) (turns : List Turn) (ok : Bool)
    (returned : (Runs.final (step start) (initial start cache) turns).caller = .done ok)
    (handled : (Runs.final (step start) (initial start cache) turns).handler = .done) :
    NothingLeft start.callId (Runs.final (step start) (initial start cache) turns).cache ↔
      ∀ entry ∈ Runs.run (step start) (initial start cache) turns,
        ¬ EntersLate start entry.before entry.action := by
  have notLate : (¬ WasLate start (Runs.run (step start) (initial start cache) turns)) ↔
      ∀ entry ∈ Runs.run (step start) (initial start cache) turns,
        ¬ EntersLate start entry.before entry.action := by
    rw [WasLate]
    push Not
    rfl
  rw [← notLate]
  have none : ¬ WasLate start [] := by
    rintro ⟨entry, member, _⟩
    cases member
  cases start with
  | startInviteStream call answers =>
      have first : StreamView call answers [] (initial (.startInviteStream call answers) cache) :=
        .before new rfl rfl none
      have view : StreamView call answers (Runs.run _ _ turns) (Runs.final _ _ turns) :=
        Runs.history_final (StreamView call answers) (fun _ _ => True)
          (fun past state turn view _ => by
            cases turn with
            | caller => exact view.caller_step
            | handler => exact view.handler_step) first (fun _ _ => trivial)
      exact view.nothingLeft_iff returned handled
  | talkStart talk =>
      have first : TalkView talk [] (initial (.talkStart talk) cache) := .before new rfl rfl none
      have view : TalkView talk (Runs.run _ _ turns) (Runs.final _ _ turns) :=
        Runs.history_final (TalkView talk) (fun _ _ => True)
          (fun past state turn view _ => by
            cases turn with
            | caller => exact view.caller_step
            | handler => exact view.handler_step) first (fun _ _ => trivial)
      exact view.nothingLeft_iff handled returned

/-- A live stream whose media arrives. -/
def liveStart : Start :=
  .startInviteStream ⟨"a", "34020000001320000001", "34020000001310000001", "0200000001", 200000001,
    "node", "call-a", .live⟩ ⟨true, true, some "10.0.0.9:30000", .scheduled⟩

theorem absent_init (callId : String) : Absent callId Cache.init where
  streams _ _ found := by cases found
  talks _ _ found := by cases found

/-- Six steps of the start and then four of the handler. -/
def handlerLast : List Turn := List.replicate 6 .caller ++ List.replicate 4 .handler

theorem nothingLeft_iff_entered_in_time_handlerLast : NothingLeft liveStart.callId
    (Runs.final (step liveStart) (initial liveStart Cache.init) handlerLast).cache :=
  (nothingLeft_iff_entered_in_time liveStart Cache.init (absent_init _) handlerLast true
    (by decide +kernel) (by decide +kernel)).mpr (by decide +kernel)

/-- The handler runs while the media node is told of the answer. -/
def handlerBetween : List Turn :=
  .caller :: (List.replicate 3 .handler ++ List.replicate 5 .caller)

/-- A BYE between the answer and the insert is lost: the handler finds nothing, and both
calls end with the stream in play. -/
theorem bye_before_insert_is_lost :
    (Runs.final (step liveStart) (initial liveStart Cache.init) handlerBetween).caller =
        .done true ∧
      (Runs.final (step liveStart) (initial liveStart Cache.init) handlerBetween).handler = .done ∧
      ¬ NothingLeft liveStart.callId
        (Runs.final (step liveStart) (initial liveStart Cache.init) handlerBetween).cache := by
  refine ⟨by decide +kernel, by decide +kernel, fun nothing => ?_⟩
  have held : (Runs.final (step liveStart) (initial liveStart Cache.init)
      handlerBetween).cache.streamMap.lookup "a" = some ⟨"34020000001320000001",
        "34020000001310000001", "10.0.0.9:30000", "node", "call-a", 1, .live, 200000001, false,
        .playing⟩ := by decide +kernel
  exact nothing.streams "a" _ held rfl rfl

end Gmv.Session.PeerBye
