import Gmv.Session.CloseTimers

/-!
# Steps that begin no close

Most steps begin no close, take the timer of no close that goes on, and enter no session: a
removal cancels the timer of its own entry, a BYE changes the number of its entry alone, and the
register enters sessions in one place.  The module shows it of the operations of the cache, of the
scheduler and of the register.
-/

namespace Gmv.Session.CloseTimers

open DialogRecovery (Kind)

/-- Every close that goes on in the next cache went on before, restored or not as it is. -/
structure QuietCache (cache next : Cache) : Prop where
  closes : ∀ close : Close, close.GoesOn next → close.GoesOn cache
  restored : ∀ close : Close, close.GoesOn next →
    isRestored next close.id close.kind = isRestored cache close.id close.kind

/-- No close begins, none that goes on loses its timer, and no session is entered. -/
structure Quiet (world next : World) : Prop where
  cache : QuietCache world.cache next.cache
  armed : ∀ close : Close, close.GoesOn next.cache → world.armed close.key = true →
    next.armed close.key = true
  sessions : ∀ deviceId, world.network.session deviceId = none →
    next.network.session deviceId = none

section Caches

variable {cache next : Cache} {id streamId talkId : String} {close : Close} {stream : StreamTable}
  {talk : TalkSessionState}

theorem closeOf_stream (found : cache.streamMap.lookup id = some stream) :
    closeOf cache id .stream =
      stream.closingGeneration.map fun generation => ⟨.stream, id, generation, stream.deviceId⟩ := by
  rw [closeOf, found]
  rfl

theorem closeOf_talk (found : cache.talkMap.lookup id = some talk) :
    closeOf cache id .talk =
      talk.closingGeneration.map fun generation => ⟨.talk, id, generation, talk.deviceId⟩ := by
  rw [closeOf, found]
  rfl

theorem isRestored_stream (found : cache.streamMap.lookup id = some stream) :
    isRestored cache id .stream = stream.restored := by
  rw [isRestored, Cache.streamIsRestored, found]
  rfl

/-- The entry of a close that goes on. -/
theorem Close.GoesOn.entry (goesOn : close.GoesOn cache) :
    (close.kind = .stream ∧ ∃ stream, cache.streamMap.lookup close.id = some stream ∧
      stream.closingGeneration = some close.generation ∧ stream.deviceId = close.deviceId) ∨
    (close.kind = .talk ∧ ∃ talk, cache.talkMap.lookup close.id = some talk ∧
      talk.closingGeneration = some close.generation ∧ talk.deviceId = close.deviceId) := by
  obtain ⟨kind, id, generation, deviceId⟩ := close
  rw [Close.GoesOn] at goesOn
  cases kind with
  | stream =>
      obtain ⟨stream, found, isClose⟩ := Option.bind_eq_some_iff.mp goesOn
      obtain ⟨current, closing, same⟩ := Option.map_eq_some_iff.mp isClose
      cases same
      exact Or.inl ⟨rfl, stream, found, closing, rfl⟩
  | talk =>
      obtain ⟨talk, found, isClose⟩ := Option.bind_eq_some_iff.mp goesOn
      obtain ⟨current, closing, same⟩ := Option.map_eq_some_iff.mp isClose
      cases same
      exact Or.inr ⟨rfl, talk, found, closing, rfl⟩

theorem goesOn_stream {generation : UInt64} {deviceId : String}
    (found : cache.streamMap.lookup id = some stream)
    (closing : stream.closingGeneration = some generation) (device : stream.deviceId = deviceId) :
    Close.GoesOn ⟨.stream, id, generation, deviceId⟩ cache := by
  rw [Close.GoesOn, closeOf_stream found, closing, device]
  rfl

theorem goesOn_talk {generation : UInt64} {deviceId : String}
    (found : cache.talkMap.lookup id = some talk)
    (closing : talk.closingGeneration = some generation) (device : talk.deviceId = deviceId) :
    Close.GoesOn ⟨.talk, id, generation, deviceId⟩ cache := by
  rw [Close.GoesOn, closeOf_talk found, closing, device]
  rfl

theorem QuietCache.refl (cache : Cache) : QuietCache cache cache :=
  ⟨fun _ goesOn => goesOn, fun _ _ => rfl⟩

/-- Every closing entry was there, closing in its generation. -/
theorem QuietCache.of_entries
    (streams : ∀ id stream, next.streamMap.lookup id = some stream →
      stream.closingGeneration.isSome = true → ∃ old, cache.streamMap.lookup id = some old ∧
        old.closingGeneration = stream.closingGeneration ∧ old.deviceId = stream.deviceId ∧
        old.restored = stream.restored)
    (talks : ∀ id talk, next.talkMap.lookup id = some talk →
      talk.closingGeneration.isSome = true → ∃ old, cache.talkMap.lookup id = some old ∧
        old.closingGeneration = talk.closingGeneration ∧ old.deviceId = talk.deviceId) :
    QuietCache cache next := by
  constructor
  · intro close goesOn
    obtain ⟨kind, id, generation, deviceId⟩ := close
    rcases goesOn.entry with ⟨isStream, stream, found, closing, device⟩ |
      ⟨isTalk, talk, found, closing, device⟩
    · cases isStream
      obtain ⟨old, wasThere, sameClose, sameDevice, _⟩ := streams id stream found (by rw [closing]; rfl)
      exact goesOn_stream wasThere (sameClose.trans closing) (sameDevice.trans device)
    · cases isTalk
      obtain ⟨old, wasThere, sameClose, sameDevice⟩ := talks id talk found (by rw [closing]; rfl)
      exact goesOn_talk wasThere (sameClose.trans closing) (sameDevice.trans device)
  · intro close goesOn
    obtain ⟨kind, id, generation, deviceId⟩ := close
    rcases goesOn.entry with ⟨isStream, stream, found, closing, _⟩ | ⟨isTalk, _⟩
    · cases isStream
      obtain ⟨old, wasThere, _, _, sameOrigin⟩ := streams id stream found (by rw [closing]; rfl)
      rw [isRestored_stream found, isRestored_stream wasThere, sameOrigin]
    · cases isTalk
      rfl

theorem QuietCache.of_streams (talks : next.talkMap = cache.talkMap)
    (streams : ∀ id stream, next.streamMap.lookup id = some stream →
      stream.closingGeneration.isSome = true → ∃ old, cache.streamMap.lookup id = some old ∧
        old.closingGeneration = stream.closingGeneration ∧ old.deviceId = stream.deviceId ∧
        old.restored = stream.restored) : QuietCache cache next :=
  QuietCache.of_entries streams fun _ talk found _ => ⟨talk, talks ▸ found, rfl, rfl⟩

theorem QuietCache.of_talks (streams : next.streamMap = cache.streamMap)
    (talks : ∀ id talk, next.talkMap.lookup id = some talk →
      talk.closingGeneration.isSome = true → ∃ old, cache.talkMap.lookup id = some old ∧
        old.closingGeneration = talk.closingGeneration ∧ old.deviceId = talk.deviceId) :
    QuietCache cache next :=
  QuietCache.of_entries (fun _ stream found _ => ⟨stream, streams ▸ found, rfl, rfl, rfl⟩) talks

theorem QuietCache.of_maps (streams : next.streamMap = cache.streamMap)
    (talks : next.talkMap = cache.talkMap) : QuietCache cache next :=
  QuietCache.of_talks streams fun _ talk found _ => ⟨talk, talks ▸ found, rfl, rfl⟩

theorem QuietCache.erase_stream (streams : next.streamMap = cache.streamMap.erase streamId)
    (talks : next.talkMap = cache.talkMap) : QuietCache cache next := by
  refine QuietCache.of_streams talks fun id stream found _ => ?_
  rw [streams] at found
  exact ⟨stream, PeerBye.lookup_of_erase found, rfl, rfl, rfl⟩

theorem QuietCache.erase_talk (streams : next.streamMap = cache.streamMap)
    (talks : next.talkMap = cache.talkMap.erase talkId) : QuietCache cache next := by
  refine QuietCache.of_talks streams fun id talk found _ => ?_
  rw [talks] at found
  exact ⟨talk, PeerBye.lookup_of_erase found, rfl, rfl⟩

/-- A stream is written that plays, or that was closing as it is. -/
theorem QuietCache.insert_stream (streams : next.streamMap = cache.streamMap.insert streamId stream)
    (talks : next.talkMap = cache.talkMap)
    (known : stream.closingGeneration.isSome = true → ∃ old,
      cache.streamMap.lookup streamId = some old ∧
        old.closingGeneration = stream.closingGeneration ∧ old.deviceId = stream.deviceId ∧
        old.restored = stream.restored) : QuietCache cache next := by
  refine QuietCache.of_streams talks fun id other found closing => ?_
  rw [streams] at found
  rcases PeerBye.lookup_of_insert found with ⟨rfl, rfl⟩ | before
  · exact known closing
  · exact ⟨other, before, rfl, rfl, rfl⟩

theorem QuietCache.insert_talk (streams : next.streamMap = cache.streamMap)
    (talks : next.talkMap = cache.talkMap.insert talkId talk)
    (known : talk.closingGeneration.isSome = true → ∃ old,
      cache.talkMap.lookup talkId = some old ∧ old.closingGeneration = talk.closingGeneration ∧
        old.deviceId = talk.deviceId) : QuietCache cache next := by
  refine QuietCache.of_talks streams fun id other found closing => ?_
  rw [talks] at found
  rcases PeerBye.lookup_of_insert found with ⟨rfl, rfl⟩ | before
  · exact known closing
  · exact ⟨other, before, rfl, rfl⟩

/-! ## The operations of the cache -/

theorem quiet_streamMapInsert (cache : Cache) (streamId deviceId channelId : String) (ssrc : UInt32)
    (proxyAddr streamNodeName callId : String) (seq : UInt32) (am : AccessMode) (restored : Bool) :
    QuietCache cache (cache.streamMapInsert streamId deviceId channelId ssrc proxyAddr streamNodeName
      callId seq am restored).2 := by
  rw [Cache.streamMapInsert]
  cases cache.streamMap.lookup streamId with
  | some stream => exact QuietCache.refl cache
  | none => exact QuietCache.insert_stream rfl rfl fun closing => by cases closing

theorem quiet_updateSource (cache : Cache) (streamId proxyAddr streamNodeName : String) :
    QuietCache cache (cache.streamMapUpdateSource streamId proxyAddr streamNodeName).2 := by
  rw [Cache.streamMapUpdateSource]
  cases found : cache.streamMap.lookup streamId with
  | none => exact QuietCache.refl cache
  | some stream => exact QuietCache.insert_stream rfl rfl fun _ => ⟨stream, found, rfl, rfl, rfl⟩

theorem quiet_closeTakeBye (cache : Cache) (id : String) (kind : Kind) :
    QuietCache cache (closeTakeBye cache id kind).2 := by
  cases kind with
  | stream =>
      rw [closeTakeBye]
      rcases cache.streamCloseTakeBye_cases id with
        same | ⟨stream, generation, lastError, found, lifecycle, taken⟩
      · rw [same]
        exact QuietCache.refl cache
      · rw [taken]
        refine QuietCache.insert_stream rfl rfl fun _ => ⟨stream, found, ?_, rfl, rfl⟩
        rw [StreamTable.closingGeneration, lifecycle, StreamTable.closingGeneration]
  | talk =>
      rw [closeTakeBye]
      rcases cache.talkCloseTakeBye_cases id with
        same | ⟨talk, generation, found, closing, _, taken⟩
      · rw [same]
        exact QuietCache.refl cache
      · rw [taken]
        exact QuietCache.insert_talk rfl rfl fun _ => ⟨talk, found, rfl, rfl⟩

theorem quiet_closeMarkFailed (cache : Cache) (key : TimerKey) (seq : UInt32) (reason : String) :
    QuietCache cache (closeMarkFailed cache key seq reason) := by
  obtain ⟨kind, id, generation⟩ := key
  cases kind with
  | stream =>
      rw [closeMarkFailed]
      rcases cache.streamCloseMarkFailed_cases id generation seq reason with
        same | ⟨stream, lastError, found, lifecycle, failed⟩
      · rw [same]
        exact QuietCache.refl cache
      · rw [failed]
        refine QuietCache.insert_stream rfl rfl fun _ => ⟨stream, found, ?_, rfl, rfl⟩
        rw [StreamTable.closingGeneration, lifecycle, StreamTable.closingGeneration]
  | talk =>
      rw [closeMarkFailed]
      rcases cache.talkCloseMarkFailed_cases id generation seq reason with
        same | ⟨talk, found, closing, _, failed⟩
      · rw [same]
        exact QuietCache.refl cache
      · rw [failed]
        exact QuietCache.insert_talk rfl rfl fun _ => ⟨talk, found, rfl, rfl⟩

theorem quiet_talkMapInsert (cache : Cache) (talk : TalkSessionState)
    (plays : talk.closingGeneration = none) : QuietCache cache (cache.talkMapInsert talk).2 := by
  rw [Cache.talkMapInsert]
  cases cache.talkMap.lookup talk.talkId with
  | some other => exact QuietCache.refl cache
  | none =>
      refine QuietCache.insert_talk rfl rfl fun closing => ?_
      rw [plays] at closing
      cases closing

/-- In the next cache one close goes on beside those that went on before. -/
def Adds (cache next : Cache) (added : Close) : Prop :=
  ∀ close : Close, close.GoesOn next → close = added ∨
    (close.GoesOn cache ∧
      isRestored next close.id close.kind = isRestored cache close.id close.kind)

theorem adds_stream {generation : UInt64} {deviceId : String}
    (streams : next.streamMap = cache.streamMap.insert streamId stream)
    (talks : next.talkMap = cache.talkMap) (begun : stream.closingGeneration = some generation)
    (owner : stream.deviceId = deviceId) :
    Adds cache next ⟨.stream, streamId, generation, deviceId⟩ := by
  intro close goesOn
  obtain ⟨kind, id, current, other⟩ := close
  rcases goesOn.entry with ⟨isStream, entry, found, closing, device⟩ |
    ⟨isTalk, talk, found, closing, device⟩
  · cases isStream
    dsimp only at found closing device
    have written := found
    rw [streams] at written
    rcases PeerBye.lookup_of_insert written with ⟨rfl, rfl⟩ | before
    · rw [begun] at closing
      rw [owner] at device
      cases closing
      cases device
      exact Or.inl rfl
    · refine Or.inr ⟨goesOn_stream before closing device, ?_⟩
      rw [isRestored_stream found, isRestored_stream before]
  · cases isTalk
    exact Or.inr ⟨goesOn_talk (talks ▸ found) closing device, rfl⟩

theorem adds_talk {generation : UInt64} {deviceId : String}
    (streams : next.streamMap = cache.streamMap)
    (talks : next.talkMap = cache.talkMap.insert talkId talk)
    (begun : talk.closingGeneration = some generation) (owner : talk.deviceId = deviceId) :
    Adds cache next ⟨.talk, talkId, generation, deviceId⟩ := by
  intro close goesOn
  obtain ⟨kind, id, current, other⟩ := close
  rcases goesOn.entry with ⟨isStream, stream, found, closing, device⟩ |
    ⟨isTalk, entry, found, closing, device⟩
  · cases isStream
    dsimp only at found
    refine Or.inr ⟨goesOn_stream (streams ▸ found) closing device, ?_⟩
    rw [isRestored_stream found, isRestored_stream (streams ▸ found)]
  · cases isTalk
    dsimp only at found closing device
    rw [talks] at found
    rcases PeerBye.lookup_of_insert found with ⟨rfl, rfl⟩ | before
    · rw [begun] at closing
      rw [owner] at device
      cases closing
      cases device
      exact Or.inl rfl
    · exact Or.inr ⟨goesOn_talk before closing device, rfl⟩

/-- A close that begins for the first time is the only one that comes up. -/
theorem closeBegin_cases (cache : Cache) (id : String) (kind : Kind) :
    (QuietCache cache (closeBegin cache id kind).2 ∧
      ∀ start, (closeBegin cache id kind).1 = some start → start.newlyStarted = false) ∨
    ∃ start, (closeBegin cache id kind).1 = some start ∧ start.newlyStarted = true ∧
      Adds cache (closeBegin cache id kind).2 ⟨kind, id, start.generation, start.deviceId⟩ := by
  cases kind with
  | stream =>
      rw [closeBegin]
      rcases cache.streamCloseBegin_cases id with
        absent | ⟨stream, found, _, begun⟩ | ⟨stream, generation, found, _, begun⟩
      · rw [absent]
        exact Or.inl ⟨QuietCache.refl cache, fun _ isStart => by cases isStart⟩
      · rw [begun]
        exact Or.inr ⟨_, rfl, rfl, adds_stream rfl rfl rfl rfl⟩
      · rw [begun]
        refine Or.inl ⟨?_, fun start isStart => by cases isStart; rfl⟩
        exact QuietCache.insert_stream rfl rfl fun _ => ⟨stream, found, rfl, rfl, rfl⟩
  | talk =>
      rw [closeBegin]
      rcases cache.talkCloseBegin_cases id with
        absent | ⟨talk, found, _, begun⟩ | ⟨talk, generation, found, _, begun⟩
      · rw [absent]
        exact Or.inl ⟨QuietCache.refl cache, fun _ isStart => by cases isStart⟩
      · rw [begun]
        exact Or.inr ⟨_, rfl, rfl, adds_talk rfl rfl rfl rfl⟩
      · rw [begun]
        exact Or.inl ⟨QuietCache.refl cache, fun start isStart => by cases isStart; rfl⟩

end Caches

/-! ## The operations of the world -/

section Worlds

variable {world next : World} {cache : Cache} {network : Network}

theorem Quiet.refl (world : World) : Quiet world world :=
  ⟨QuietCache.refl world.cache, fun _ _ isArmed => isArmed, fun _ absent => absent⟩

theorem Quiet.of_cache (quiet : QuietCache world.cache cache) :
    Quiet world { world with cache := cache } :=
  ⟨quiet, fun _ _ isArmed => isArmed, fun _ absent => absent⟩

theorem Quiet.of_network (sessions : ∀ deviceId, world.network.session deviceId = none →
    network.session deviceId = none) : Quiet world { world with network := network } :=
  ⟨QuietCache.refl world.cache, fun _ _ isArmed => isArmed, sessions⟩

theorem leave_cache (kind : Kind) (id : String) (generation : Option UInt64) :
    (world.leave cache kind id generation).cache = cache := by
  cases generation <;> rfl

/-- A timer is cancelled behind its entry. -/
theorem Quiet.leave {kind : Kind} {id : String} (quiet : QuietCache world.cache cache)
    (gone : closeOf cache id kind = none) (generation : Option UInt64) :
    Quiet world (world.leave cache kind id generation) := by
  cases generation with
  | none => exact Quiet.of_cache quiet
  | some generation =>
      refine ⟨quiet, fun close goesOn isArmed => ?_, fun _ absent => absent⟩
      have other : close.key ≠ ⟨kind, id, generation⟩ := by
        intro same
        injection same with sameKind sameId
        rw [← sameKind, ← sameId] at gone
        have held : closeOf cache close.id close.kind = some close := goesOn
        rw [gone] at held
        cases held
      exact (Function.update_of_ne other false world.armed).trans isArmed

/-- An entry that is gone has left with its timer. -/
theorem Quiet.leave_gone {kind : Kind} {id : String} (quiet : QuietCache world.cache cache)
    (gone : closeOf cache id kind = none) (generation : Option UInt64) :
    Quiet world (world.leave cache kind id generation) ∧
      closeOf (world.leave cache kind id generation).cache id kind = none := by
  rw [leave_cache]
  exact ⟨Quiet.leave quiet gone generation, gone⟩

theorem Quiet.leave_stream (world : World) (cache : Cache) {streamId : String}
    (generation : Option UInt64)
    (streams : cache.streamMap = world.cache.streamMap.erase streamId)
    (talks : cache.talkMap = world.cache.talkMap) :
    Quiet world (world.leave cache .stream streamId generation) ∧
      closeOf (world.leave cache .stream streamId generation).cache streamId .stream = none := by
  refine Quiet.leave_gone (QuietCache.erase_stream streams talks) ?_ generation
  rw [closeOf, streams, AList.lookup_erase]
  rfl

theorem Quiet.leave_talk (world : World) (cache : Cache) {talkId : String}
    (generation : Option UInt64)
    (streams : cache.streamMap = world.cache.streamMap)
    (talks : cache.talkMap = world.cache.talkMap.erase talkId) :
    Quiet world (world.leave cache .talk talkId generation) ∧
      closeOf (world.leave cache .talk talkId generation).cache talkId .talk = none := by
  refine Quiet.leave_gone (QuietCache.erase_talk streams talks) ?_ generation
  rw [closeOf, talks, AList.lookup_erase]
  rfl

/-- A removal finds no entry that meets its condition, or takes it out. -/
theorem streamRemoveIf_cases (world : World) (streamId : String) (condition : StreamTable → Bool) :
    (world.streamRemoveIf streamId condition = (false, world) ∧
      ∀ stream, world.cache.streamMap.lookup streamId = some stream → condition stream = false) ∨
    ((world.streamRemoveIf streamId condition).1 = true ∧
      Quiet world (world.streamRemoveIf streamId condition).2 ∧
      closeOf (world.streamRemoveIf streamId condition).2.cache streamId .stream = none) := by
  rw [World.streamRemoveIf, Cache.streamMapRemoveIf]
  cases found : world.cache.streamMap.lookup streamId with
  | none => exact Or.inl ⟨rfl, fun stream isFound => by cases isFound⟩
  | some stream =>
      cases holds : condition stream with
      | false =>
          refine Or.inl ⟨by simp only [holds, Bool.false_eq_true, if_false], fun other isFound => ?_⟩
          cases isFound
          exact holds
      | true =>
          simp only [if_true, holds]
          exact Or.inr ⟨trivial, Quiet.leave_stream world _ _ rfl rfl⟩

theorem talkRemoveIf_cases (world : World) (talkId : String) (condition : TalkSessionState → Bool) :
    (world.talkRemoveIf talkId condition = world ∧
      ∀ talk, world.cache.talkMap.lookup talkId = some talk → condition talk = false) ∨
    (Quiet world (world.talkRemoveIf talkId condition) ∧
      closeOf (world.talkRemoveIf talkId condition).cache talkId .talk = none) := by
  rw [World.talkRemoveIf]
  cases found : world.cache.talkMap.lookup talkId with
  | none => exact Or.inl ⟨rfl, fun talk isFound => by cases isFound⟩
  | some talk =>
      cases holds : condition talk with
      | false =>
          refine Or.inl ⟨by simp only [holds, Bool.false_eq_true, if_false], fun other isFound => ?_⟩
          cases isFound
          exact holds
      | true =>
          simp only [if_true, holds]
          exact Or.inr (Quiet.leave_talk world _ _ rfl rfl)

theorem quiet_streamRemoveIf (world : World) (streamId : String) (condition : StreamTable → Bool) :
    Quiet world (world.streamRemoveIf streamId condition).2 := by
  rcases streamRemoveIf_cases world streamId condition with ⟨same, _⟩ | ⟨_, quiet, _⟩
  · rw [same]
    exact Quiet.refl world
  · exact quiet

theorem quiet_talkRemoveIf (world : World) (talkId : String) (condition : TalkSessionState → Bool) :
    Quiet world (world.talkRemoveIf talkId condition) := by
  rcases talkRemoveIf_cases world talkId condition with ⟨same, _⟩ | ⟨quiet, _⟩
  · rw [same]
    exact Quiet.refl world
  · exact quiet

theorem quiet_closeRemove (world : World) (key : TimerKey) : Quiet world (world.closeRemove key) := by
  obtain ⟨kind, id, generation⟩ := key
  cases kind with
  | stream => exact quiet_streamRemoveIf world id _
  | talk => exact quiet_talkRemoveIf world id _

/-- A close that is completed or forced goes on no more. -/
theorem closeRemove_ends (world : World) {close : Close}
    (goesOn : close.GoesOn (world.closeRemove close.key).cache) : False := by
  obtain ⟨kind, id, generation, deviceId⟩ := close
  have before := (quiet_closeRemove world ⟨kind, id, generation⟩).cache.closes _ goesOn
  have held : closeOf (world.closeRemove ⟨kind, id, generation⟩).cache id kind = some _ := goesOn
  cases kind with
  | stream =>
      rcases streamRemoveIf_cases world id (fun stream => stream.isClosingGeneration generation) with
        ⟨_, spared⟩ | ⟨_, _, gone⟩
      · rcases before.entry with ⟨_, stream, found, closing, _⟩ | ⟨isTalk, _⟩
        · have kept := spared stream found
          rw [StreamTable.isClosingGeneration, closing, beq_self_eq_true] at kept
          cases kept
        · cases isTalk
      · rw [World.closeRemove, gone] at held
        cases held
  | talk =>
      rcases talkRemoveIf_cases world id (fun talk => talk.closingGeneration == some generation) with
        ⟨_, spared⟩ | ⟨_, gone⟩
      · rcases before.entry with ⟨isStream, _⟩ | ⟨_, talk, found, closing, _⟩
        · cases isStream
        · have kept := spared talk found
          rw [closing, beq_self_eq_true] at kept
          cases kept
      · rw [World.closeRemove, gone] at held
        cases held

theorem quiet_resetRemove (world : World) (id : String) (kind : Kind) :
    Quiet world (world.resetRemove id kind) := by
  cases kind with
  | talk => exact quiet_talkRemoveIf world id _
  | stream =>
      rw [World.resetRemove]
      cases world.cache.streamMap.lookup id with
      | none => exact Quiet.refl world
      | some stream =>
          exact (Quiet.leave_stream world
            { world.cache with streamMap := world.cache.streamMap.erase id } _ rfl rfl).1

theorem quiet_insertTalk (world : World) (talkId deviceId channelId : String) (ssrc : UInt32)
    (streamNodeName callId : String) (seq : UInt32) (restored : Bool) :
    Quiet world (insertTalk world talkId deviceId channelId ssrc streamNodeName callId seq
      restored).2 :=
  Quiet.of_cache (quiet_talkMapInsert world.cache _ rfl)

theorem quiet_insertRestored (world : World) (recovery : Recovery) (ssrc : UInt32)
    (am : AccessMode) : Quiet world (insertRestored world recovery ssrc am).2 :=
  Quiet.of_cache (quiet_streamMapInsert ..)

end Worlds

/-! ## The operations of the register -/

section Sessions

variable {network next : Network} {deviceId : String} {session : DeviceSession}

/-- A device that is seated is the only one that can come up. -/
theorem session_none_of_seats {advance : UInt64 → UInt64} {other : String}
    (seats : Network.Seats advance network deviceId session next) (differs : other ≠ deviceId)
    (absent : network.session other = none) : next.session other = none := by
  by_cases owner : network.netDeviceMap session.association = some other
  · rw [seats.displaced other differs owner, absent]
    rfl
  · rw [seats.others other differs owner, absent]

theorem session_none_insert (network : Network) (session : DeviceSession) {other : String}
    (differs : other ≠ deviceId) (absent : network.session other = none) :
    (network.insert deviceId session).session other = none :=
  session_none_of_seats (Network.insert_seats network deviceId session) differs absent

theorem session_insert (network : Network) (deviceId : String) (session : DeviceSession) :
    ((network.insert deviceId session).session deviceId).isSome = true := by
  rw [(Network.insert_seats network deviceId session).self]
  rfl

/-- A session that is displaced into a device that has one. -/
theorem session_none_displace {cleared : Network} {held : DeviceSession}
    (same : cleared.session = network.session) (found : network.session deviceId = some held)
    {other : String} (absent : network.session other = none) :
    (cleared.displace deviceId session).session other = none := by
  refine session_none_of_seats (Network.displace_seats cleared deviceId session) ?_ (same ▸ absent)
  intro isDevice
  rw [isDevice, found] at absent
  cases absent

theorem session_none_rebindRegistration (network : Network) (deviceId : String)
    (session : DeviceSession) {other : String} (absent : network.session other = none) :
    (network.rebindRegistration deviceId session).2.session other = none := by
  rw [Network.rebindRegistration]
  cases found : network.session deviceId with
  | none => exact absent
  | some current =>
      cases online : current.connected with
      | true =>
          simp only [online, if_true]
          exact absent
      | false =>
          simp only [online, Bool.false_eq_true, if_false]
          exact session_none_displace (Network.removeDeviceMapping_session ..) found absent

theorem session_none_rebind (network : Network) (deviceId : String) (association : Association)
    (now : Instant) {other : String} (absent : network.session other = none) :
    (network.rebind deviceId association now).2.session other = none := by
  rw [Network.rebind]
  cases found : network.session deviceId with
  | none => exact absent
  | some current =>
      dsimp only
      refine session_none_displace ?_ found absent
      split
      · exact Network.removeDeviceMapping_session ..
      · rfl

theorem session_none_removeDeviceByInner (network : Network) (deviceId : String) {other : String}
    (absent : network.session other = none) :
    (network.removeDeviceByInner deviceId).2.session other = none := by
  cases found : (network.removeDeviceByInner deviceId).2.session other with
  | none => rfl
  | some session =>
      have before := Register.session_of_removeDeviceByInner found
      rw [absent] at before
      cases before

theorem session_none_detachAssociation (network : Network) (association : Association)
    (now : Instant) {other : String} (absent : network.session other = none) :
    (network.detachAssociation association now).2.session other = none := by
  rw [Network.detachAssociation]
  cases network.netDeviceMap association with
  | none => exact absent
  | some owner =>
      cases found : network.session owner with
      | none =>
          simp only [found]
          exact absent
      | some session =>
          simp only [found]
          split
          · exact absent
          · split
            · rw [Network.removeDeviceMapping_session, Network.setSession_session, if_neg, absent]
              intro same
              rw [same, found] at absent
              cases absent
            · exact absent

theorem session_none_removeDisconnected (network : Network) (deviceId : String)
    (generation : UInt64) {other : String} (absent : network.session other = none) :
    (network.removeDisconnected deviceId generation).2.session other = none := by
  rcases network.removeDisconnected_cases deviceId generation with same | ⟨session, _, _, _, removed⟩
  · rw [same]
    exact absent
  · rw [removed]
    simp [absent]

end Sessions

end Gmv.Session.CloseTimers
