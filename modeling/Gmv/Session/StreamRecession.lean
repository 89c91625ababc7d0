import Gmv.Session.MediaRequest

/-!
# Streams that close and go

Closes, BYEs of the peers and resets of devices change the streams that are up, drop them
and unlink them; none of them enters a stream.  Such changes are one relation between
caches, and what a cache keeps through them is shown once for the relation.
-/

namespace Gmv.Session.MediaRequest

/-- What a stream is looked up by, besides its id. -/
def key (stream : StreamTable) : String × String × AccessMode :=
  (stream.deviceId, stream.channelId, stream.am)

/-- Changes of the cache that enter nothing: a stream changes but for its key, a stream is
dropped and unlinked, and a device loses all it has. -/
inductive Recedes (first : Cache) : Cache → Prop where
  | refl : Recedes first first
  | change {cache next : Cache} {id : String} {old stream : StreamTable} (before : Recedes first cache)
      (held : cache.streamMap.lookup id = some old)
      (streams : next.streamMap = cache.streamMap.insert id stream)
      (devices : next.deviceMap = cache.deviceMap) (same : key stream = key old)
      (plays : stream.lifecycle = .playing → old.lifecycle = .playing) : Recedes first next
  | drop {cache next : Cache} {id : String} {stream : StreamTable} (before : Recedes first cache)
      (held : cache.streamMap.lookup id = some stream)
      (streams : next.streamMap = cache.streamMap.erase id)
      (devices : next.deviceMap = (cache.deviceMapRemoveStream stream.deviceId id).deviceMap) :
      Recedes first next
  | wipe {cache next : Cache} {deviceId : String} (before : Recedes first cache)
      (kept : ∀ id stream, next.streamMap.lookup id = some stream →
        cache.streamMap.lookup id = some stream)
      (others : ∀ id stream, cache.streamMap.lookup id = some stream → stream.deviceId ≠ deviceId →
        next.streamMap.lookup id = some stream)
      (devices : next.deviceMap = Function.update cache.deviceMap deviceId []) : Recedes first next

/-- The stream is not playing. -/
def AtRest (streamId : String) (cache : Cache) : Prop :=
  ∀ stream, cache.streamMap.lookup streamId = some stream → stream.lifecycle ≠ .playing

/-- Every listed stream is up, with the key that it is listed with. -/
def Linked (cache : Cache) : Prop :=
  ∀ deviceId, ∀ entry ∈ cache.deviceMap deviceId, ∃ stream,
    cache.streamMap.lookup entry.streamId = some stream ∧
      key stream = (deviceId, entry.channelId, entry.am)

variable {first cache next : Cache}

theorem Recedes.trans (before : Recedes first cache) (after : Recedes cache next) :
    Recedes first next := by
  induction after with
  | refl => exact before
  | change _ held streams devices same plays ih => exact .change ih held streams devices same plays
  | drop _ held streams devices ih => exact .drop ih held streams devices
  | wipe _ kept others devices ih => exact .wipe ih kept others devices

/-- Every stream that is left was there, with its key. -/
theorem Recedes.key_eq (recedes : Recedes first next) {id : String} {stream : StreamTable}
    (found : next.streamMap.lookup id = some stream) :
    ∃ old, first.streamMap.lookup id = some old ∧ key stream = key old := by
  induction recedes generalizing stream with
  | refl => exact ⟨stream, found, rfl⟩
  | @change cache _ changed old replaced _ held streams _ same _ ih =>
      rw [streams] at found
      rcases PeerBye.lookup_of_insert found with ⟨rfl, rfl⟩ | before
      · obtain ⟨kept, wasHeld, sameKey⟩ := ih held
        exact ⟨kept, wasHeld, same.trans sameKey⟩
      · exact ih before
  | drop _ _ streams _ ih =>
      rw [streams] at found
      exact ih (PeerBye.lookup_of_erase found)
  | wipe _ kept _ _ ih => exact ih (kept id stream found)

/-- A stream that is not playing stays so, and none of its id comes up. -/
theorem Recedes.atRest (recedes : Recedes first next) {id : String} (rests : AtRest id first) :
    AtRest id next := by
  induction recedes with
  | refl => exact rests
  | @change cache next changed old replaced _ held streams _ _ plays ih =>
      intro stream found playing
      rw [streams] at found
      rcases PeerBye.lookup_of_insert found with ⟨rfl, rfl⟩ | before
      · exact ih old held (plays playing)
      · exact ih stream before playing
  | drop _ _ streams _ ih =>
      intro stream found
      rw [streams] at found
      exact ih stream (PeerBye.lookup_of_erase found)
  | wipe _ kept _ _ ih => exact fun stream found => ih stream (kept id stream found)

theorem Recedes.linked (recedes : Recedes first next) (linked : Linked first) : Linked next := by
  induction recedes with
  | refl => exact linked
  | @change cache next changed old replaced _ held streams devices same _ ih =>
      intro deviceId entry member
      rw [devices] at member
      obtain ⟨stream, found, isKey⟩ := ih deviceId entry member
      rw [streams]
      by_cases isId : entry.streamId = changed
      · rw [isId] at found ⊢
        rw [held, Option.some.injEq] at found
        exact ⟨replaced, AList.lookup_insert _, by rw [same, found, isKey]⟩
      · rw [AList.lookup_insert_ne isId]
        exact ⟨stream, found, isKey⟩
  | @drop cache next dropped gone _ held streams devices ih =>
      intro deviceId entry member
      rw [devices, Cache.deviceMapRemoveStream] at member
      have wasListed : entry ∈ cache.deviceMap deviceId ∧
          (deviceId = gone.deviceId → entry.streamId ≠ dropped) := by
        by_cases isDevice : deviceId = gone.deviceId
        · subst isDevice
          simp only [Function.update_self, List.mem_filter, bne_iff_ne] at member
          exact ⟨member.1, fun _ => member.2⟩
        · simp only [Function.update_of_ne isDevice] at member
          exact ⟨member, fun same => absurd same isDevice⟩
      obtain ⟨stream, found, isKey⟩ := ih deviceId entry wasListed.1
      have differs : entry.streamId ≠ dropped := by
        intro isId
        rw [isId, held, Option.some.injEq] at found
        rw [← found] at isKey
        exact wasListed.2 (congrArg Prod.fst isKey).symm isId
      rw [streams, AList.lookup_erase_ne differs]
      exact ⟨stream, found, isKey⟩
  | @wipe cache next wiped _ _ others devices ih =>
      intro deviceId entry member
      rw [devices] at member
      by_cases isDevice : deviceId = wiped
      · rw [isDevice, Function.update_self] at member
        cases member
      · rw [Function.update_of_ne isDevice] at member
        obtain ⟨stream, found, isKey⟩ := ih deviceId entry member
        have onDevice : stream.deviceId = deviceId := congrArg Prod.fst isKey
        exact ⟨stream, others entry.streamId stream found (by rw [onDevice]; exact isDevice), isKey⟩

/-- A removal drops the stream and unlinks it. -/
theorem recedes_removeIf (cache : Cache) (streamId : String) (condition : StreamTable → Bool) :
    (cache.streamMapRemoveIf streamId condition = (none, cache)) ∨
      ∃ stream gone, cache.streamMapRemoveIf streamId condition = (some stream, gone) ∧
        ∀ generation, Recedes cache (gone.finishRemovedStream streamId stream generation).2 := by
  rcases cache.streamMapRemoveIf_cases streamId condition with same | ⟨stream, held, _, removed⟩
  · exact Or.inl same
  · exact Or.inr ⟨stream, _, removed, fun generation => .drop .refl held rfl rfl⟩

theorem recedes_streamCloseRemove (cache : Cache) (streamId : String) (generation : UInt64) :
    Recedes cache (cache.streamCloseRemove streamId generation).2 := by
  rw [Cache.streamCloseRemove]
  rcases recedes_removeIf cache streamId (fun stream => stream.isClosingGeneration generation) with
    same | ⟨stream, gone, removed, recedes⟩
  · rw [same]
    exact .refl
  · rw [removed]
    exact recedes generation

theorem recedes_streamTerminatedByCallId (cache : Cache) (callId : String) :
    Recedes cache (cache.streamTerminatedByCallId callId).2 := by
  rw [Cache.streamTerminatedByCallId]
  cases cache.streamIdByCallId callId with
  | none => exact .refl
  | some streamId =>
      dsimp only
      rcases recedes_removeIf cache streamId (fun stream => stream.callId == callId) with
        same | ⟨stream, gone, removed, recedes⟩
      · rw [same]
        exact .refl
      · rw [removed]
        exact recedes (stream.closingGeneration.getD 0)

/-- A close begins: the stream plays no more. -/
theorem streamCloseBegin_spec (cache : Cache) (streamId : String) :
    Recedes cache (cache.streamCloseBegin streamId).2 ∧
      AtRest streamId (cache.streamCloseBegin streamId).2 := by
  rw [Cache.streamCloseBegin]
  cases held : cache.streamMap.lookup streamId with
  | none => exact ⟨.refl, fun stream found => by rw [held] at found; cases found⟩
  | some stream =>
      have stops : (stream.beginClose cache.streamCloseGeneration).2.lifecycle ≠ .playing := by
        rw [StreamTable.beginClose]
        cases lifecycle : stream.lifecycle with
        | playing => simp
        | closing current inflightSeq lastError => simp [lifecycle]
      have same : key (stream.beginClose cache.streamCloseGeneration).2 = key stream := by
        rw [StreamTable.beginClose]
        cases stream.lifecycle <;> rfl
      refine ⟨.change .refl held rfl rfl same fun playing => absurd playing stops, ?_⟩
      intro other found
      have begun : (cache.streamMap.insert streamId
          (stream.beginClose cache.streamCloseGeneration).2).lookup streamId = some other := found
      rw [AList.lookup_insert, Option.some.injEq] at begun
      rw [← begun]
      exact stops

theorem recedes_streamCloseTakeBye (cache : Cache) (streamId : String) :
    Recedes cache (cache.streamCloseTakeBye streamId).2 := by
  rcases cache.streamCloseTakeBye_cases streamId with
    same | ⟨stream, generation, lastError, held, _, same⟩ <;> rw [same]
  · exact .refl
  · exact .change .refl held rfl rfl rfl fun playing => by cases playing

theorem recedes_streamCloseMarkFailed (cache : Cache) (streamId : String) (generation : UInt64)
    (seq : UInt32) (reason : String) :
    Recedes cache (cache.streamCloseMarkFailed streamId generation seq reason).2 := by
  rcases cache.streamCloseMarkFailed_cases streamId generation seq reason with
    same | ⟨stream, lastError, held, _, same⟩ <;> rw [same]
  · exact .refl
  · exact .change .refl held rfl rfl rfl fun playing => by cases playing

theorem recedes_sendBye (byeError : Option String) (streamId : String) (cache : Cache) :
    Recedes cache (sendBye byeError streamId cache) := by
  have takes := recedes_streamCloseTakeBye cache streamId
  rw [sendBye]
  cases taken : cache.streamCloseTakeBye streamId with
  | mk command next =>
      rw [taken] at takes
      cases command with
      | none => exact takes
      | some command =>
          cases byeError with
          | none => exact takes.trans (recedes_streamCloseRemove next streamId command.generation)
          | some reason => exact takes.trans (recedes_streamCloseMarkFailed next streamId _ _ reason)

/-- A stream that was closed plays no more. -/
theorem close_spec (outcome : CloseOutcome) (streamId : String) (cache : Cache) :
    Recedes cache (close outcome streamId cache) ∧
      AtRest streamId (close outcome streamId cache) := by
  obtain ⟨begins, rests⟩ := streamCloseBegin_spec cache streamId
  rw [close]
  cases begun : cache.streamCloseBegin streamId with
  | mk start next =>
      rw [begun] at begins rests
      have further : ∀ {last : Cache}, Recedes next last → Recedes cache last ∧ AtRest streamId last :=
        fun recedes => ⟨begins.trans recedes, recedes.atRest rests⟩
      cases start with
      | none => exact further .refl
      | some start =>
          have forced := recedes_streamCloseRemove next streamId start.generation
          dsimp only
          split
          · cases outcome.device with
            | missing =>
                dsimp only
                split
                · exact further .refl
                · exact further forced
            | expired => exact further forced
            | scheduled => exact further (recedes_sendBye outcome.byeError streamId next)
          · exact further .refl

/-- Dropping entries of a map keeps the others. -/
theorem lookup_foldl_erase {ν : Type} (ids : List String) (entries : AList fun _ : String => ν)
    (id : String) :
    (ids.foldl (fun map id => map.erase id) entries).lookup id =
      if id ∈ ids then none else entries.lookup id := by
  induction ids generalizing entries with
  | nil => rfl
  | cons head rest ih =>
      rw [List.foldl_cons, ih]
      by_cases inRest : id ∈ rest
      · rw [if_pos inRest, if_pos (List.mem_cons_of_mem _ inRest)]
      · rw [if_neg inRest]
        by_cases isHead : id = head
        · rw [isHead, AList.lookup_erase, if_pos (List.mem_cons_self ..)]
        · rw [AList.lookup_erase_ne isHead, if_neg]
          intro member
          rcases List.mem_cons.mp member with same | later
          · exact isHead same
          · exact inRest later

theorem recedes_resetDeviceState (linked : Linked cache) (deviceId : String) :
    Recedes cache (cache.resetDeviceState deviceId) := by
  have wiped : ∀ id, (cache.resetDeviceState deviceId).streamMap.lookup id =
      if id ∈ (cache.streamMapRemoveAll ((cache.deviceMap deviceId).map
        DeviceTable.streamId)).streamIdsOfDevice deviceId then none
      else if id ∈ (cache.deviceMap deviceId).map DeviceTable.streamId then none
      else cache.streamMap.lookup id := by
    intro id
    rw [← lookup_foldl_erase, ← lookup_foldl_erase]
    rfl
  refine .wipe .refl (fun id stream found => ?_) (fun id stream held other => ?_) rfl
  · rw [wiped] at found
    split at found
    · cases found
    · split at found
      · cases found
      · exact found
  · rw [wiped, if_neg, if_neg]
    · exact held
    · intro listed
      obtain ⟨entry, member, rfl⟩ := List.mem_map.mp listed
      obtain ⟨linkedTo, found, isKey⟩ := linked deviceId entry member
      rw [held, Option.some.injEq] at found
      rw [found] at other
      exact other (congrArg Prod.fst isKey)
    · intro scanned
      obtain ⟨entry, inMap, isId⟩ := List.mem_filterMap.mp scanned
      rw [Option.ite_none_right_eq_some, Option.some.injEq] at isId
      obtain ⟨onDevice, rfl⟩ := isId
      have found : (cache.streamMapRemoveAll ((cache.deviceMap deviceId).map
          DeviceTable.streamId)).streamMap.lookup entry.1 = some entry.2 :=
        AList.mem_lookup_iff.mpr inMap
      have kept := lookup_foldl_erase ((cache.deviceMap deviceId).map DeviceTable.streamId)
        cache.streamMap entry.1
      rw [Cache.streamMapRemoveAll] at found
      rw [found] at kept
      split at kept
      · cases kept
      · rw [held, Option.some.injEq] at kept
        rw [← kept] at other
        exact other onDevice

end Gmv.Session.MediaRequest
