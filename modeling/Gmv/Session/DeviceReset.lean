import Gmv.Library.KeyedLocks
import Gmv.Session.CatalogSubscription

/-!
# Resetting a device

What the session cache holds of a device is in five maps and in the scheduler.  A reset takes
the streams that the device lists, the streams and the talks that name the device, its set-up
locks by the prefix of their keys, and its catalog subscription, each with the timer it has.
-/

namespace Gmv.Session

open Gmv.Library

/-- `AccessMode::as_str`. -/
def AccessMode.asStr : AccessMode → String
  | .live => "live"
  | .back => "back"
  | .down => "down"
  | .talk => "talk"

inductive TimeScheduleKey where
  | device3Heart (deviceId : String)
  | deviceRegistration (deviceId : String)
  | deviceReconnect (deviceId : String) (generation : UInt64)
  | streamClosing (streamId : String) (generation : UInt64)
  | talkClosing (talkId : String) (generation : UInt64)
  | catalogSubscription (deviceId : String) (generation : UInt64)
  | outSession (session : UInt64)
  | serverHeart (domainId : String)
  deriving DecidableEq, Repr

abbrev Timers := TimeScheduleKey → Bool

/-- The key of `stream_setup_lock`. -/
def setupLockKey (deviceId channelId : String) (am : AccessMode) : String :=
  deviceId ++ ":" ++ channelId ++ ":" ++ am.asStr

/-- The key of a set-up lock is one of a device. -/
def isSetupLockOf (deviceId key : String) : Bool := (deviceId ++ ":").toList.isPrefixOf key.toList

theorem isSetupLockOf_setupLockKey (deviceId channelId : String) (am : AccessMode) :
    isSetupLockOf deviceId (setupLockKey deviceId channelId am) = true := by
  rw [isSetupLockOf, List.isPrefixOf_iff_prefix, setupLockKey]
  simp only [String.toList_append, List.append_assoc]
  exact ⟨_, List.append_assoc ..⟩

/-- What comes before the first separator is all that a prefix with the separator can be. -/
theorem eq_of_prefix_separator {α : Type} {separator : α} {one other rest : List α}
    (isPrefix : one ++ [separator] <+: other ++ separator :: rest) (plain : separator ∉ one)
    (otherPlain : separator ∉ other) : one = other := by
  induction one generalizing other with
  | nil =>
      cases other with
      | nil => rfl
      | cons first others =>
          obtain ⟨same, -⟩ := List.cons_prefix_cons.mp isPrefix
          exact absurd (same ▸ List.mem_cons_self ..) otherPlain
  | cons head tail ih =>
      cases other with
      | nil =>
          obtain ⟨same, -⟩ := List.cons_prefix_cons.mp isPrefix
          exact absurd (same ▸ List.mem_cons_self ..) plain
      | cons first others =>
          obtain ⟨same, behind⟩ := List.cons_prefix_cons.mp isPrefix
          rw [same, ih behind (fun member => plain (List.mem_cons_of_mem _ member))
            fun member => otherPlain (List.mem_cons_of_mem _ member)]

/-- Without a colon in their ids, the locks of one device are not those of another. -/
theorem isSetupLockOf_other {deviceId other : String} (differs : other ≠ deviceId)
    (plain : ':' ∉ deviceId.toList) (otherPlain : ':' ∉ other.toList) (channelId : String)
    (am : AccessMode) : isSetupLockOf deviceId (setupLockKey other channelId am) = false := by
  rw [Bool.eq_false_iff]
  intro isPrefix
  rw [isSetupLockOf, List.isPrefixOf_iff_prefix, setupLockKey] at isPrefix
  simp only [String.toList_append, List.append_assoc] at isPrefix
  exact differs (String.toList_inj.mp (eq_of_prefix_separator isPrefix plain otherPlain).symm)

namespace DeviceReset

/-- The maps of the session cache and the timers of the scheduler.  A talk is kept under its own id. -/
structure Shared where
  cache : Cache
  subscriptions : Subscriptions
  setupLocks : KeyedLocks.Table String
  armed : Timers
  keyed : ∀ id talk, cache.talkMap.lookup id = some talk → talk.talkId = id

/-! ## Entries and their timers -/

section

variable {ν : Type} (closing : ν → Option UInt64) (timer : String → UInt64 → TimeScheduleKey)

/-- An entry leaves its map, and its timer is cancelled if it was closing. -/
def removeEntry (state : (AList fun _ : String => ν) × Timers) (id : String) :
    (AList fun _ : String => ν) × Timers :=
  match state.1.lookup id with
  | none => state
  | some entry =>
      (state.1.erase id,
        match closing entry with
        | none => state.2
        | some generation => Function.update state.2 (timer id generation) false)

def removeEntries (state : (AList fun _ : String => ν) × Timers) (ids : List String) :
    (AList fun _ : String => ν) × Timers := ids.foldl (removeEntry closing timer) state

/-- The timer of an entry that is there and closing. -/
def timerOf (map : AList fun _ : String => ν) (id : String) : Option TimeScheduleKey :=
  (map.lookup id).bind fun entry => (closing entry).map (timer id)

theorem timerOf_eq_some {map : AList fun _ : String => ν} {id : String} {key : TimeScheduleKey} :
    timerOf closing timer map id = some key ↔
      ∃ entry, map.lookup id = some entry ∧ (closing entry).map (timer id) = some key :=
  Option.bind_eq_some_iff

variable (state : (AList fun _ : String => ν) × Timers)

theorem lookup_removeEntry (id name : String) :
    (removeEntry closing timer state id).1.lookup name =
      if name = id then none else state.1.lookup name := by
  rw [removeEntry]
  by_cases same : name = id
  · subst same
    cases found : state.1.lookup name with
    | none => simpa using found
    | some entry => simp
  · cases state.1.lookup id with
    | none => simp [same]
    | some entry => simp [same, AList.lookup_erase_ne same]

/-- A removal cancels the timer of its entry and no other. -/
theorem armed_removeEntry (id : String) (key : TimeScheduleKey) :
    (removeEntry closing timer state id).2 key = true ↔
      state.2 key = true ∧ timerOf closing timer state.1 id ≠ some key := by
  rw [removeEntry, timerOf]
  cases found : state.1.lookup id with
  | none => simp
  | some entry =>
      cases isClosing : closing entry with
      | none => simp [isClosing]
      | some generation =>
          by_cases isKey : key = timer id generation
          · simp [isClosing, isKey]
          · simp [isClosing, Function.update_of_ne isKey, Ne.symm isKey]

theorem timerOf_removeEntry (id name : String) :
    timerOf closing timer (removeEntry closing timer state id).1 name =
      if name = id then none else timerOf closing timer state.1 name := by
  rw [timerOf, lookup_removeEntry]
  split
  · rfl
  · rfl

theorem lookup_removeEntries (ids : List String) (name : String) :
    (removeEntries closing timer state ids).1.lookup name =
      if name ∈ ids then none else state.1.lookup name := by
  induction ids generalizing state with
  | nil => simp [removeEntries]
  | cons id rest ih =>
      have step := ih (removeEntry closing timer state id)
      rw [lookup_removeEntry] at step
      rw [removeEntries, List.foldl_cons]
      refine step.trans ?_
      by_cases later : name ∈ rest <;> by_cases same : name = id <;> simp [later, same]

/-- The removals cancel the timers of their entries and no other. -/
theorem armed_removeEntries (ids : List String) (key : TimeScheduleKey) :
    (removeEntries closing timer state ids).2 key = true ↔
      state.2 key = true ∧ ∀ id ∈ ids, timerOf closing timer state.1 id ≠ some key := by
  induction ids generalizing state with
  | nil => simp [removeEntries]
  | cons id rest ih =>
      rw [removeEntries, List.foldl_cons, ← removeEntries, ih, armed_removeEntry, List.forall_mem_cons,
        and_assoc]
      refine and_congr_right fun _ => and_congr_right fun isOther => forall_congr' fun name =>
        forall_congr' fun _ => ?_
      rw [timerOf_removeEntry]
      by_cases same : name = id
      · simp [same, isOther]
      · rw [if_neg same]

end

/-! ## The reset -/

namespace Shared

variable (shared : Shared)

/-- The streams that name a device, in the order of the walk. -/
def remainingStreamIds (deviceId : String) (streams : StreamMap) : List String :=
  streams.entries.filterMap fun entry => if entry.2.deviceId = deviceId then some entry.1 else none

def talkIds (deviceId : String) (talks : TalkMap) : List String :=
  talks.entries.filterMap fun entry => if entry.2.deviceId = deviceId then some entry.2.talkId else none

def removeStreams (state : StreamMap × Timers) (ids : List String) : StreamMap × Timers :=
  removeEntries StreamTable.closingGeneration .streamClosing state ids

def removeTalks (state : TalkMap × Timers) (ids : List String) : TalkMap × Timers :=
  removeEntries TalkSessionState.closingGeneration .talkClosing state ids

/-- The streams without those that the device lists, and then without those that name it. -/
def resetStreams (deviceId : String) : StreamMap × Timers :=
  let listed := (shared.cache.deviceMap deviceId).map DeviceTable.streamId
  let state := removeStreams (shared.cache.streamMap, shared.armed) listed
  removeStreams state (remainingStreamIds deviceId state.1)

def resetTalks (deviceId : String) : TalkMap × Timers :=
  removeTalks (shared.cache.talkMap, (shared.resetStreams deviceId).2)
    (talkIds deviceId shared.cache.talkMap)

theorem resetTalks_keyed (deviceId : String) :
    ∀ id talk, (shared.resetTalks deviceId).1.lookup id = some talk → talk.talkId = id := by
  intro id talk found
  rw [resetTalks, removeTalks, lookup_removeEntries] at found
  split at found
  · cases found
  · exact shared.keyed id talk found

/-- `reset_device_state`. -/
def resetDeviceState (deviceId : String) : Shared :=
  let removal := shared.subscriptions.catalogSubscriptionRemove deviceId none
  { cache :=
      { shared.cache with
        streamMap := (shared.resetStreams deviceId).1
        talkMap := (shared.resetTalks deviceId).1
        deviceMap := Function.update shared.cache.deviceMap deviceId [] }
    subscriptions := removal.2
    setupLocks := shared.setupLocks.retain fun key _ => !isSetupLockOf deviceId key
    armed :=
      match removal.1 with
      | none => (shared.resetTalks deviceId).2
      | some subscription =>
          Function.update (shared.resetTalks deviceId).2
            (.catalogSubscription deviceId subscription.generation) false
    keyed := shared.resetTalks_keyed deviceId }

end Shared

/-! ## What a reset takes and what it leaves -/

/-- The timers of what a device has. -/
def TimerOfDevice (shared : Shared) (deviceId : String) (key : TimeScheduleKey) : Prop :=
  (∃ id stream, shared.cache.streamMap.lookup id = some stream ∧ stream.deviceId = deviceId ∧
    stream.closingGeneration.map (.streamClosing id) = some key) ∨
  (∃ id talk, shared.cache.talkMap.lookup id = some talk ∧ talk.deviceId = deviceId ∧
    talk.closingGeneration.map (.talkClosing id) = some key) ∨
  ∃ subscription, shared.subscriptions.lookup deviceId = some subscription ∧
    key = .catalogSubscription deviceId subscription.generation

/-- Nothing of a device is left, nor a timer of what it had. -/
structure Complete (before after : Shared) (deviceId : String) : Prop where
  streams : ∀ id stream, after.cache.streamMap.lookup id = some stream → stream.deviceId ≠ deviceId
  talks : ∀ id talk, after.cache.talkMap.lookup id = some talk → talk.deviceId ≠ deviceId
  listed : after.cache.deviceMap deviceId = []
  locks : ∀ channelId am, after.setupLocks.find (setupLockKey deviceId channelId am) = none
  subscription : after.subscriptions.lookup deviceId = none
  timers : ∀ key, TimerOfDevice before deviceId key → after.armed key = false

/-- What is not of the device is as it was. -/
structure Confined (before after : Shared) (deviceId : String) : Prop where
  streams : ∀ id stream, stream.deviceId ≠ deviceId →
    (after.cache.streamMap.lookup id = some stream ↔ before.cache.streamMap.lookup id = some stream)
  talks : ∀ id talk, talk.deviceId ≠ deviceId →
    (after.cache.talkMap.lookup id = some talk ↔ before.cache.talkMap.lookup id = some talk)
  listed : ∀ other, other ≠ deviceId → after.cache.deviceMap other = before.cache.deviceMap other
  locks : ∀ other, other ≠ deviceId → ':' ∉ other.toList → ∀ channelId am,
    after.setupLocks.find (setupLockKey other channelId am) =
      before.setupLocks.find (setupLockKey other channelId am)
  subscriptions : ∀ other, other ≠ deviceId →
    after.subscriptions.lookup other = before.subscriptions.lookup other
  timers : ∀ key, ¬TimerOfDevice before deviceId key → after.armed key = before.armed key

section

variable {shared : Shared} {deviceId : String}

theorem mem_remainingStreamIds {streams : StreamMap} {id : String} :
    id ∈ Shared.remainingStreamIds deviceId streams ↔
      ∃ stream, streams.lookup id = some stream ∧ stream.deviceId = deviceId := by
  rw [Shared.remainingStreamIds, List.mem_filterMap]
  constructor
  · rintro ⟨⟨name, stream⟩, member, isIts⟩
    split at isIts
    · next isOf => cases isIts; exact ⟨stream, AList.mem_lookup_iff.mpr member, isOf⟩
    · cases isIts
  · rintro ⟨stream, found, isOf⟩
    exact ⟨⟨id, stream⟩, AList.mem_lookup_iff.mp found, if_pos isOf⟩

theorem mem_talkIds {id : String} :
    id ∈ Shared.talkIds deviceId shared.cache.talkMap ↔
      ∃ talk, shared.cache.talkMap.lookup id = some talk ∧ talk.deviceId = deviceId := by
  rw [Shared.talkIds, List.mem_filterMap]
  constructor
  · rintro ⟨⟨name, talk⟩, member, isIts⟩
    have found : shared.cache.talkMap.lookup name = some talk := AList.mem_lookup_iff.mpr member
    split at isIts
    · next isOf =>
        cases isIts
        exact ⟨talk, by rw [shared.keyed name talk found]; exact found, isOf⟩
    · cases isIts
  · rintro ⟨talk, found, isOf⟩
    refine ⟨⟨id, talk⟩, AList.mem_lookup_iff.mp found, ?_⟩
    rw [if_pos isOf, shared.keyed id talk found]

/-- The device lists only streams of its own. -/
def ListsOwn (shared : Shared) (deviceId : String) : Prop :=
  ∀ entry ∈ shared.cache.deviceMap deviceId, ∀ stream,
    shared.cache.streamMap.lookup entry.streamId = some stream → stream.deviceId = deviceId

variable (own : ListsOwn shared deviceId)

include own

theorem deviceId_of_listed {id : String} {stream : StreamTable}
    (listed : id ∈ (shared.cache.deviceMap deviceId).map DeviceTable.streamId)
    (found : shared.cache.streamMap.lookup id = some stream) : stream.deviceId = deviceId := by
  obtain ⟨entry, member, rfl⟩ := List.mem_map.mp listed
  exact own entry member stream found

/-- The streams that go are those of the device. -/
theorem lookup_resetStreams (id : String) :
    (shared.resetStreams deviceId).1.lookup id =
      (shared.cache.streamMap.lookup id).filter fun stream => stream.deviceId ≠ deviceId := by
  simp only [Shared.resetStreams, Shared.removeStreams, lookup_removeEntries, mem_remainingStreamIds]
  cases found : shared.cache.streamMap.lookup id with
  | none => simp
  | some stream =>
      by_cases listed : id ∈ (shared.cache.deviceMap deviceId).map DeviceTable.streamId
      · simp [listed, Option.filter, deviceId_of_listed own listed found]
      · by_cases isOf : stream.deviceId = deviceId <;> simp [listed, Option.filter, isOf]

/-- Their timers are cancelled, and no others. -/
theorem armed_resetStreams (key : TimeScheduleKey) :
    (shared.resetStreams deviceId).2 key = true ↔ shared.armed key = true ∧
      ∀ id stream, shared.cache.streamMap.lookup id = some stream → stream.deviceId = deviceId →
        stream.closingGeneration.map (.streamClosing id) ≠ some key := by
  simp only [Shared.resetStreams, Shared.removeStreams, armed_removeEntries, and_assoc]
  refine and_congr_right fun _ => ?_
  constructor
  · rintro ⟨notListed, notRemaining⟩ id stream found isOf isKey
    by_cases listed : id ∈ (shared.cache.deviceMap deviceId).map DeviceTable.streamId
    · exact notListed id listed ((timerOf_eq_some ..).mpr ⟨stream, found, isKey⟩)
    · have stays : (removeEntries StreamTable.closingGeneration .streamClosing
          (shared.cache.streamMap, shared.armed)
          ((shared.cache.deviceMap deviceId).map DeviceTable.streamId)).1.lookup id = some stream := by
        rw [lookup_removeEntries, if_neg listed]
        exact found
      exact notRemaining id (mem_remainingStreamIds.mpr ⟨stream, stays, isOf⟩)
        ((timerOf_eq_some ..).mpr ⟨stream, stays, isKey⟩)
  · intro others
    constructor
    · intro id listed isTimer
      obtain ⟨stream, found, isKey⟩ := (timerOf_eq_some ..).mp isTimer
      exact others id stream found (deviceId_of_listed own listed found) isKey
    · intro id remains isTimer
      obtain ⟨stream, isOf⟩ := mem_remainingStreamIds.mp remains
      obtain ⟨same, found, isKey⟩ := (timerOf_eq_some ..).mp isTimer
      rw [isOf.1] at found
      cases found
      have before := isOf.1
      rw [lookup_removeEntries] at before
      split at before
      · cases before
      · exact others id stream before isOf.2 isKey

omit own

theorem lookup_resetTalks (id : String) :
    (shared.resetTalks deviceId).1.lookup id =
      (shared.cache.talkMap.lookup id).filter fun talk => talk.deviceId ≠ deviceId := by
  simp only [Shared.resetTalks, Shared.removeTalks, lookup_removeEntries, mem_talkIds]
  cases found : shared.cache.talkMap.lookup id with
  | none => simp
  | some talk => by_cases isOf : talk.deviceId = deviceId <;> simp [Option.filter, isOf]

theorem armed_resetTalks (key : TimeScheduleKey) :
    (shared.resetTalks deviceId).2 key = true ↔ (shared.resetStreams deviceId).2 key = true ∧
      ∀ id talk, shared.cache.talkMap.lookup id = some talk → talk.deviceId = deviceId →
        talk.closingGeneration.map (.talkClosing id) ≠ some key := by
  simp only [Shared.resetTalks, Shared.removeTalks, armed_removeEntries]
  refine and_congr_right fun _ => ⟨fun others id talk found isOf isKey => ?_,
    fun others id member isTimer => ?_⟩
  · exact others id (mem_talkIds.mpr ⟨talk, found, isOf⟩) ((timerOf_eq_some ..).mpr ⟨talk, found, isKey⟩)
  · obtain ⟨talk, found, isOf⟩ := mem_talkIds.mp member
    obtain ⟨same, isSame, isKey⟩ := (timerOf_eq_some ..).mp isTimer
    rw [found] at isSame
    cases isSame
    exact others id talk found isOf isKey

/-- The locks whose keys begin with the device go. -/
theorem find_resetDeviceState (key : String) :
    (shared.resetDeviceState deviceId).setupLocks.find key =
      if isSetupLockOf deviceId key then none else shared.setupLocks.find key := by
  simp only [Shared.resetDeviceState, KeyedLocks.Table.retain]
  cases isSetupLockOf deviceId key with
  | true => simp
  | false => cases shared.setupLocks.find key <;> rfl

/-- The timers behind a reset. -/
theorem armed_resetDeviceState (own : ListsOwn shared deviceId) (key : TimeScheduleKey) :
    (shared.resetDeviceState deviceId).armed key = true ↔
      shared.armed key = true ∧ ¬TimerOfDevice shared deviceId key := by
  have entries : (shared.resetTalks deviceId).2 key = true ↔ shared.armed key = true ∧
      (¬∃ id stream, shared.cache.streamMap.lookup id = some stream ∧ stream.deviceId = deviceId ∧
        stream.closingGeneration.map (.streamClosing id) = some key) ∧
      ¬∃ id talk, shared.cache.talkMap.lookup id = some talk ∧ talk.deviceId = deviceId ∧
        talk.closingGeneration.map (.talkClosing id) = some key := by
    rw [armed_resetTalks, armed_resetStreams own]
    simp only [not_exists, not_and, and_assoc, ne_eq]
  simp only [TimerOfDevice, not_or]
  rcases shared.subscriptions.remove_cases deviceId none with ⟨same, none'⟩ | ⟨removed, gone, found⟩
  · have absent : ¬∃ subscription, shared.subscriptions.lookup deviceId = some subscription ∧
        key = .catalogSubscription deviceId subscription.generation := by
      rintro ⟨subscription, found, -⟩
      obtain ⟨generation, isIts, -⟩ := none' subscription found
      cases isIts
    simp only [Shared.resetDeviceState, same, entries, absent, not_false_eq_true, and_true]
  · simp only [Shared.resetDeviceState, gone]
    by_cases isKey : key = .catalogSubscription deviceId removed.generation
    · simp [isKey, found]
    · rw [Function.update_of_ne isKey, entries]
      simp [found, isKey]

/-- A reset takes all that a device has, and nothing of the others. -/
theorem reset_complete_and_confined (own : ListsOwn shared deviceId) (plain : ':' ∉ deviceId.toList) :
    Complete shared (shared.resetDeviceState deviceId) deviceId ∧
      Confined shared (shared.resetDeviceState deviceId) deviceId := by
  have subscriptions (other : String) : (shared.resetDeviceState deviceId).subscriptions.lookup other =
      if other = deviceId then none else shared.subscriptions.lookup other := by
    rcases shared.subscriptions.remove_cases deviceId none with ⟨same, none'⟩ | ⟨removed, gone, -⟩
    · simp only [Shared.resetDeviceState, same]
      split
      · next isHere =>
          cases found : shared.subscriptions.lookup deviceId with
          | none => rw [isHere, found]
          | some subscription =>
              obtain ⟨generation, isIts, -⟩ := none' subscription found
              cases isIts
      · rfl
    · simp only [Shared.resetDeviceState, gone, Subscriptions.lookup_erase]
  constructor
  · refine ⟨fun id stream found => ?_, fun id talk found => ?_, Function.update_self .., ?_, ?_, ?_⟩
    · rw [Shared.resetDeviceState, lookup_resetStreams own] at found
      simpa using (Option.filter_eq_some_iff.mp found).2
    · rw [Shared.resetDeviceState, lookup_resetTalks] at found
      simpa using (Option.filter_eq_some_iff.mp found).2
    · intro channelId am
      rw [find_resetDeviceState, if_pos (isSetupLockOf_setupLockKey ..)]
    · rw [subscriptions, if_pos rfl]
    · intro key isTimer
      rw [Bool.eq_false_iff]
      intro armed
      exact ((armed_resetDeviceState own key).mp armed).2 isTimer
  · refine ⟨fun id stream other => ?_, fun id talk other => ?_, fun other differs => ?_, ?_, ?_, ?_⟩
    · rw [Shared.resetDeviceState, lookup_resetStreams own, Option.filter_eq_some_iff]
      simp [other]
    · rw [Shared.resetDeviceState, lookup_resetTalks, Option.filter_eq_some_iff]
      simp [other]
    · exact Function.update_of_ne differs ..
    · intro other differs otherPlain channelId am
      rw [find_resetDeviceState, isSetupLockOf_other differs plain otherPlain, if_neg Bool.false_ne_true]
    · intro other differs
      rw [subscriptions, if_neg differs]
    · intro key isOther
      rw [Bool.eq_iff_iff, armed_resetDeviceState own]
      simp [isOther]

/-- A device with a listed and an unlisted stream, a closing talk, a lock and a subscription, beside
a device whose id goes on where the first one ends. -/
def twoDevices : Shared where
  cache :=
    { streamMap :=
        ((∅ : StreamMap).insert "listed" ⟨"340", "1", "", "", "a", 1, .live, 1, false, .closing 5 none none⟩
          |>.insert "unlisted" ⟨"340", "2", "", "", "b", 1, .back, 2, false, .playing⟩).insert "other"
          ⟨"3402", "1", "", "", "c", 1, .live, 3, false, .closing 6 none none⟩
      talkMap := (∅ : TalkMap).insert "talk" ⟨"talk", "340", "1", 4, "", "d", 1, false, some 7, none, none⟩
      deviceMap := Function.update (fun _ => []) "340" [⟨"1", .live, "listed", "1"⟩]
      streamCloseGeneration := 8
      talkCloseGeneration := 8 }
  subscriptions := Subscriptions.init.insert "340"
    ⟨3, "e", 1, "Catalog", 3600, "", [], "", "", "", "", false⟩
  setupLocks := (KeyedLocks.Table.empty.make (setupLockKey "340" "1" .talk)).make
    (setupLockKey "3402" "1" .live)
  armed := fun _ => true
  keyed := by
    intro id talk found
    by_cases same : id = "talk"
    · subst same
      rw [AList.lookup_insert] at found
      cases found
      rfl
    · rw [AList.lookup_insert_ne same] at found
      cases found

theorem reset_complete_and_confined_twoDevices :
    Complete twoDevices (twoDevices.resetDeviceState "340") "340" ∧
      Confined twoDevices (twoDevices.resetDeviceState "340") "340" := by
  refine reset_complete_and_confined (fun entry listed stream found => ?_) (by decide)
  cases List.mem_singleton.mp listed
  have isListed : twoDevices.cache.streamMap.lookup "listed" =
      some ⟨"340", "1", "", "", "a", 1, .live, 1, false, .closing 5 none none⟩ := by decide
  cases isListed.symm.trans found
  rfl

end

end DeviceReset

end Gmv.Session
