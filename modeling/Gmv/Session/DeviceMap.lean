import Gmv.Library.TaskPool
import Gmv.Session.PeerBye

/-!
# The streams of a device

`device_map` lists the streams of each device beside `stream_map`.  Starts,
recoveries, closes, BYEs of the peer and resets of a device change the two maps in
steps of their own, and any of them may go on between two steps of another.  The
module runs them as tasks over the cache and shows that no listed stream is missing
from `stream_map`, when every listing comes while the stream is up and outside of a
reset of its device.
-/

namespace Gmv.Session.DeviceMap

open Gmv.Library Gmv.Library.TaskPool

/-- What a start or a recovery enters. -/
structure Plan where
  streamId : String
  deviceId : String
  channelId : String
  ssrc : String
  u32ssrc : UInt32
  nodeName : String
  callId : String
  seq : UInt32
  am : AccessMode
  deriving DecidableEq, Repr

/-- What a call has still to do to the maps, by its next step. -/
inductive Task where
  | startInsert (plan : Plan) (heard : Option String)
  | startUpdate (plan : Plan) (proxyAddr : String)
  | startList (plan : Plan)
  | recoverInsert (plan : Plan) (online terminating : Bool)
  | recoverList (plan : Plan) (terminating : Bool)
  | closeBegin (streamId : String)
  | closeRemove (streamId : String) (generation : UInt64)
  | terminatedFind (callId : String)
  | terminatedRemove (streamId callId : String)
  | unlink (deviceId streamId : String)
  | reset (deviceId : String)
  | resetEntries (deviceId : String) (streamIds : List String)
  | resetScan (deviceId : String)
  | resetRest (deviceId : String) (streamIds : List String)
  | resetTalks (deviceId : String)
  deriving DecidableEq, Repr

/-- A stream that was removed is unlinked from its device next. -/
def unlinkRemoved (streamId : String) : Option StreamTable × Cache → Option Task × Cache
  | (none, cache) => (none, cache)
  | (some stream, cache) => (some (.unlink stream.deviceId streamId), cache)

def work (cache : Cache) : Task → Option Task × Cache
  | .startInsert plan heard =>
      match cache.streamMapInsertInfo plan.streamId plan.deviceId plan.channelId plan.u32ssrc ""
        plan.nodeName plan.callId plan.seq plan.am with
      | (false, next) => (none, next)
      | (true, next) =>
          match heard with
          | some proxyAddr => (some (.startUpdate plan proxyAddr), next)
          | none => (some (.closeBegin plan.streamId), next)
  | .startUpdate plan proxyAddr =>
      (some (.startList plan),
        (cache.streamMapUpdateSource plan.streamId proxyAddr plan.nodeName).2)
  | .startList plan =>
      (none, cache.deviceMapInsert plan.deviceId plan.channelId plan.ssrc plan.streamId plan.am)
  | .recoverInsert plan online terminating =>
      match cache.streamMapInsertRestored plan.streamId plan.deviceId plan.channelId plan.u32ssrc
        plan.nodeName plan.callId plan.seq plan.am with
      | (false, next) => (none, next)
      | (true, next) =>
          if online then (some (.recoverList plan terminating), next)
          else (some (.closeBegin plan.streamId), next)
  | .recoverList plan terminating =>
      (if terminating then some (.closeBegin plan.streamId) else none,
        cache.deviceMapInsert plan.deviceId plan.channelId plan.ssrc plan.streamId plan.am)
  | .closeBegin streamId => (none, (cache.streamCloseBegin streamId).2)
  | .closeRemove streamId generation =>
      unlinkRemoved streamId (cache.streamMapRemoveIf streamId fun stream =>
        stream.isClosingGeneration generation)
  | .terminatedFind callId =>
      ((cache.streamIdByCallId callId).map fun streamId => .terminatedRemove streamId callId, cache)
  | .terminatedRemove streamId callId =>
      unlinkRemoved streamId (cache.streamMapRemoveIf streamId fun stream =>
        stream.callId == callId)
  | .unlink deviceId streamId => (none, cache.deviceMapRemoveStream deviceId streamId)
  | .reset deviceId =>
      (some (.resetEntries deviceId ((cache.deviceMap deviceId).map DeviceTable.streamId)),
        { cache with deviceMap := Function.update cache.deviceMap deviceId [] })
  | .resetEntries deviceId [] => (some (.resetScan deviceId), cache)
  | .resetEntries deviceId (streamId :: rest) =>
      (some (.resetEntries deviceId rest),
        { cache with streamMap := cache.streamMap.erase streamId })
  | .resetScan deviceId => (some (.resetRest deviceId (cache.streamIdsOfDevice deviceId)), cache)
  | .resetRest deviceId [] => (some (.resetTalks deviceId), cache)
  | .resetRest deviceId (streamId :: rest) =>
      (some (.resetRest deviceId rest), { cache with streamMap := cache.streamMap.erase streamId })
  | .resetTalks deviceId => (none, cache.talkMapRemoveAll (cache.talkIdsOfDevice deviceId))

/-- Every listed stream is up, on the device, channel and mode that it is listed with. -/
def NoDangling (cache : Cache) : Prop :=
  ∀ deviceId, ∀ entry ∈ cache.deviceMap deviceId, ∃ stream,
    cache.streamMap.lookup entry.streamId = some stream ∧ stream.deviceId = deviceId ∧
      stream.channelId = entry.channelId ∧ stream.am = entry.am

/-! ## What the calls are given -/

/-- Whom a stream id belongs to. -/
structure Owner where
  deviceId : String
  channelId : String
  am : AccessMode
  deriving DecidableEq, Repr

def Plan.owner (plan : Plan) : Owner := ⟨plan.deviceId, plan.channelId, plan.am⟩

/-- The calls; every other task is the rest of one. -/
def Task.isCall : Task → Bool
  | .startInsert .. | .recoverInsert .. | .closeBegin _ | .closeRemove .. | .terminatedFind _
  | .reset _ => true
  | _ => false

/-- The ids of a task belong to the streams that it means. -/
def Task.Owned (owner : String → Owner) : Task → Prop
  | .startInsert plan _ => owner plan.streamId = plan.owner
  | .startUpdate plan _ => owner plan.streamId = plan.owner
  | .startList plan => owner plan.streamId = plan.owner
  | .recoverInsert plan _ _ => owner plan.streamId = plan.owner
  | .recoverList plan _ => owner plan.streamId = plan.owner
  | .resetEntries deviceId streamIds => ∀ id ∈ streamIds, (owner id).deviceId = deviceId
  | .resetRest deviceId streamIds => ∀ id ∈ streamIds, (owner id).deviceId = deviceId
  | _ => True

/-- A call with stream ids of their own: an id is never used for two devices, channels
or modes. -/
def Calls (owner : String → Owner) (task : Task) : Prop :=
  task.isCall = true ∧ task.Owned owner

/-- The task is in the middle of a reset: it has emptied the list of the device and goes
on to remove streams. -/
def Task.resets (deviceId : String) : Task → Bool
  | .resetEntries id _ | .resetScan id | .resetRest id _ => id == deviceId
  | _ => false

/-- The stream that a task is about to list. -/
def Task.lists : Task → Option Plan
  | .startList plan => some plan
  | .recoverList plan _ => some plan
  | _ => none

/-- A stream is listed while it is up and no reset of its device is going on, or while
its removal has still to unlink it. -/
def ListsSafely (pool : Pool Cache Task) (task : Task) : Prop :=
  ∀ plan ∈ task.lists,
    .unlink plan.deviceId plan.streamId ∈ pool.tasks ∨
      ((pool.shared.streamMap.lookup plan.streamId).isSome = true ∧
        ∀ other ∈ pool.tasks, other.resets plan.deviceId = false)

instance (pool : Pool Cache Task) (task : Task) : Decidable (ListsSafely pool task) :=
  inferInstanceAs (Decidable (∀ plan ∈ task.lists, _ ∨ _))

/-- A move that lists no stream, or lists it safely. -/
def SafeMove (pool : Pool Cache Task) : Move Task → Prop
  | .begin _ => True
  | .advance index => ∀ task ∈ pool.tasks[index]?, ListsSafely pool task

instance (pool : Pool Cache Task) (move : Move Task) : Decidable (SafeMove pool move) :=
  match move with
  | .begin _ => isTrue trivial
  | .advance index => inferInstanceAs (Decidable (∀ task ∈ pool.tasks[index]?, _))

/-! ## The invariant -/

/-- Streams, entries and tasks name the owners of their ids; a listed stream is up or
about to be unlinked; and the streams listed during a reset of their device are about
to be unlinked. -/
structure Sound (owner : String → Owner) (pool : Pool Cache Task) : Prop where
  streams : ∀ id stream, pool.shared.streamMap.lookup id = some stream →
    owner id = ⟨stream.deviceId, stream.channelId, stream.am⟩
  entries : ∀ deviceId, ∀ entry ∈ pool.shared.deviceMap deviceId,
    owner entry.streamId = ⟨deviceId, entry.channelId, entry.am⟩
  tasks : ∀ task ∈ pool.tasks, task.Owned owner
  listed : ∀ deviceId, ∀ entry ∈ pool.shared.deviceMap deviceId,
    .unlink deviceId entry.streamId ∈ pool.tasks ∨
      (pool.shared.streamMap.lookup entry.streamId).isSome = true
  resetting : ∀ deviceId, (∃ task ∈ pool.tasks, task.resets deviceId = true) →
    ∀ entry ∈ pool.shared.deviceMap deviceId, .unlink deviceId entry.streamId ∈ pool.tasks

/-- With nothing in progress, nothing dangles. -/
theorem Sound.noDangling {owner : String → Owner} {cache : Cache} (sound : Sound owner ⟨cache, []⟩) :
    NoDangling cache := by
  intro deviceId entry member
  rcases sound.listed deviceId entry member with pending | up
  · cases pending
  · obtain ⟨stream, found⟩ := Option.isSome_iff_exists.mp up
    have same := (sound.streams entry.streamId stream found).symm.trans
      (sound.entries deviceId entry member)
    rw [Owner.mk.injEq] at same
    exact ⟨stream, found, same⟩

theorem sound_init (owner : String → Owner) : Sound owner ⟨Cache.init, []⟩ where
  streams _ _ found := by cases found
  entries _ _ member := by cases member
  tasks _ member := by cases member
  listed _ _ member := by cases member
  resetting _ _ _ member := by cases member

section Steps

variable {owner : String → Owner} {cache next : Cache} {earlier later : List Task} {task : Task}
  {rest : Option Task}

theorem Sound.begin (sound : Sound owner ⟨cache, earlier⟩) (calls : Calls owner task) :
    Sound owner ⟨cache, earlier ++ [task]⟩ := by
  refine ⟨sound.streams, sound.entries, fun other member => ?_, fun deviceId entry member => ?_,
    fun deviceId => ?_⟩
  · rcases List.mem_append.mp member with old | isNew
    · exact sound.tasks other old
    · rw [List.mem_singleton.mp isNew]
      exact calls.2
  · exact (sound.listed deviceId entry member).imp_left (List.mem_append_left _)
  · rintro ⟨other, member, resets⟩ entry inList
    rcases List.mem_append.mp member with old | isNew
    · exact List.mem_append_left _ (sound.resetting deviceId ⟨other, old, resets⟩ entry inList)
    · have isCall := calls.1
      rw [List.mem_singleton.mp isNew] at resets
      cases task <;> first | cases resets | cases isCall

/-- What a task leaves to do has owners for its ids, and is not in a reset that the task
was not in. -/
def Follows (owner : String → Owner) (task : Task) (rest : Option Task) : Prop :=
  ∀ other ∈ rest, other.Owned owner ∧
    ∀ deviceId, other.resets deviceId = true → task.resets deviceId = true

theorem follows_none : Follows owner task none := fun _ isRest => by cases isRest

theorem follows_some {other : Task} (owned : other.Owned owner)
    (resets : ∀ deviceId, other.resets deviceId = true → task.resets deviceId = true) :
    Follows owner task (some other) := by
  intro rest isRest
  cases isRest
  exact ⟨owned, resets⟩

theorem follows_outside {other : Task} (owned : other.Owned owner)
    (outside : ∀ deviceId, other.resets deviceId = false) : Follows owner task (some other) :=
  follows_some owned fun deviceId resets => by
    rw [outside] at resets
    cases resets

/-- A step that leaves `device_map` alone: every stream that it removes is about to be
unlinked wherever it is listed. -/
theorem Sound.frame (sound : Sound owner ⟨cache, earlier ++ task :: later⟩)
    (notUnlink : ∀ deviceId streamId, task ≠ .unlink deviceId streamId)
    (devices : next.deviceMap = cache.deviceMap)
    (streams : ∀ id stream, next.streamMap.lookup id = some stream →
      owner id = ⟨stream.deviceId, stream.channelId, stream.am⟩)
    (removed : ∀ deviceId, ∀ entry ∈ cache.deviceMap deviceId,
      (cache.streamMap.lookup entry.streamId).isSome = true →
      .unlink deviceId entry.streamId ∈ earlier ++ rest.toList ++ later ∨
        (next.streamMap.lookup entry.streamId).isSome = true)
    (follows : Follows owner task rest) :
    Sound owner ⟨next, earlier ++ rest.toList ++ later⟩ := by
  have pending : ∀ deviceId streamId, .unlink deviceId streamId ∈ earlier ++ task :: later →
      .unlink deviceId streamId ∈ earlier ++ rest.toList ++ later :=
    fun deviceId streamId member => mem_advanced_of_ne member (notUnlink deviceId streamId).symm
  refine ⟨streams, ?_, fun other member => ?_, ?_, fun deviceId => ?_⟩
  · rw [devices]
    exact sound.entries
  · rcases mem_advanced task member with isRest | old
    · exact (follows other isRest).1
    · exact sound.tasks other old
  · rw [devices]
    intro deviceId entry member
    rcases sound.listed deviceId entry member with unlinks | up
    · exact Or.inl (pending deviceId entry.streamId unlinks)
    · exact removed deviceId entry member up
  · rw [devices]
    rintro ⟨other, member, resetting⟩ entry inList
    have going : ∃ old ∈ earlier ++ task :: later, old.resets deviceId = true := by
      rcases mem_advanced task member with isRest | old
      · exact ⟨task, List.mem_append_right _ (List.mem_cons_self ..),
          (follows other isRest).2 deviceId resetting⟩
      · exact ⟨other, old, resetting⟩
    exact pending deviceId entry.streamId (sound.resetting deviceId going entry inList)

/-- A step that keeps every stream up. -/
theorem Sound.keep (sound : Sound owner ⟨cache, earlier ++ task :: later⟩)
    (notUnlink : ∀ deviceId streamId, task ≠ .unlink deviceId streamId)
    (devices : next.deviceMap = cache.deviceMap)
    (streams : ∀ id stream, next.streamMap.lookup id = some stream →
      owner id = ⟨stream.deviceId, stream.channelId, stream.am⟩)
    (kept : ∀ id, (cache.streamMap.lookup id).isSome = true →
      (next.streamMap.lookup id).isSome = true)
    (follows : Follows owner task rest) :
    Sound owner ⟨next, earlier ++ rest.toList ++ later⟩ :=
  sound.frame notUnlink devices streams (fun _ entry _ up => Or.inr (kept entry.streamId up)) follows

/-- An entry of `stream_map` that is entered or replaced. -/
theorem Sound.insert (sound : Sound owner ⟨cache, earlier ++ task :: later⟩) {streamId : String}
    {stream : StreamTable} (notUnlink : ∀ deviceId streamId, task ≠ .unlink deviceId streamId)
    (devices : next.deviceMap = cache.deviceMap)
    (streams : next.streamMap = cache.streamMap.insert streamId stream)
    (owns : owner streamId = ⟨stream.deviceId, stream.channelId, stream.am⟩)
    (follows : Follows owner task rest) :
    Sound owner ⟨next, earlier ++ rest.toList ++ later⟩ := by
  refine sound.keep notUnlink devices (fun id found isFound => ?_) (fun id up => ?_) follows
  · rw [streams] at isFound
    by_cases same : id = streamId
    · rw [same, AList.lookup_insert] at isFound
      cases isFound
      rw [same]
      exact owns
    · rw [AList.lookup_insert_ne same] at isFound
      exact sound.streams id found isFound
  · rw [streams]
    by_cases same : id = streamId
    · rw [same, AList.lookup_insert]
      rfl
    · rw [AList.lookup_insert_ne same]
      exact up

/-- An entry of `stream_map` that is removed, with an unlink wherever it is listed. -/
theorem Sound.erase (sound : Sound owner ⟨cache, earlier ++ task :: later⟩) {streamId : String}
    (notUnlink : ∀ deviceId streamId, task ≠ .unlink deviceId streamId)
    (devices : next.deviceMap = cache.deviceMap)
    (streams : next.streamMap = cache.streamMap.erase streamId)
    (unlinks : ∀ deviceId, ∀ entry ∈ cache.deviceMap deviceId, entry.streamId = streamId →
      (cache.streamMap.lookup streamId).isSome = true →
      .unlink deviceId streamId ∈ earlier ++ rest.toList ++ later)
    (follows : Follows owner task rest) :
    Sound owner ⟨next, earlier ++ rest.toList ++ later⟩ := by
  refine sound.frame notUnlink devices (fun id found isFound => ?_)
    (fun deviceId entry member up => ?_) follows
  · rw [streams] at isFound
    exact sound.streams id found (PeerBye.lookup_of_erase isFound)
  · by_cases same : entry.streamId = streamId
    · rw [same] at up ⊢
      exact Or.inl (unlinks deviceId entry member same up)
    · rw [streams, AList.lookup_erase_ne same]
      exact Or.inr up

/-- A conditional removal, by a close or by a BYE. -/
theorem Sound.removeIf (sound : Sound owner ⟨cache, earlier ++ task :: later⟩)
    (notUnlink : ∀ deviceId streamId, task ≠ .unlink deviceId streamId) (streamId : String)
    (condition : StreamTable → Bool) :
    Sound owner
      ⟨(unlinkRemoved streamId (cache.streamMapRemoveIf streamId condition)).2,
        earlier ++ (unlinkRemoved streamId (cache.streamMapRemoveIf streamId condition)).1.toList ++
          later⟩ := by
  rcases cache.streamMapRemoveIf_cases streamId condition with
    refused | ⟨stream, found, _, removed⟩
  · rw [refused]
    exact sound.keep notUnlink rfl sound.streams (fun _ up => up) follows_none
  · rw [removed]
    refine sound.erase notUnlink rfl rfl (fun deviceId entry member same _ => ?_)
      (follows_outside trivial fun _ => rfl)
    have owns := sound.entries deviceId entry member
    rw [same, sound.streams streamId stream found, Owner.mk.injEq] at owns
    rw [← owns.1]
    exact mem_advanced_of_rest rfl

/-- A removal by a reset of the device that owns the stream. -/
theorem Sound.resetOne (sound : Sound owner ⟨cache, earlier ++ task :: later⟩)
    {deviceId streamId : String} (notUnlink : ∀ deviceId streamId, task ≠ .unlink deviceId streamId)
    (owns : (owner streamId).deviceId = deviceId) (going : task.resets deviceId = true)
    (follows : Follows owner task rest) :
    Sound owner ⟨{ cache with streamMap := cache.streamMap.erase streamId },
      earlier ++ rest.toList ++ later⟩ := by
  refine sound.erase notUnlink rfl rfl (fun other entry member same _ => ?_) follows
  have listedOn := sound.entries other entry member
  rw [same] at listedOn
  rw [listedOn] at owns
  have pending := sound.resetting deviceId
    ⟨task, List.mem_append_right _ (List.mem_cons_self ..), going⟩ entry (owns ▸ member)
  rw [same, ← owns] at pending
  exact mem_advanced_of_ne pending (notUnlink other streamId).symm

/-- A listing that comes while the stream is up, or is about to be unlinked. -/
theorem Sound.list (sound : Sound owner ⟨cache, earlier ++ task :: later⟩) {plan : Plan}
    (notUnlink : ∀ deviceId streamId, task ≠ .unlink deviceId streamId)
    (owns : owner plan.streamId = plan.owner) (lists : task.lists = some plan)
    (safely : ListsSafely ⟨cache, earlier ++ task :: later⟩ task)
    (follows : Follows owner task rest) :
    Sound owner
      ⟨cache.deviceMapInsert plan.deviceId plan.channelId plan.ssrc plan.streamId plan.am,
        earlier ++ rest.toList ++ later⟩ := by
  have pending : ∀ deviceId streamId, .unlink deviceId streamId ∈ earlier ++ task :: later →
      .unlink deviceId streamId ∈ earlier ++ rest.toList ++ later :=
    fun deviceId streamId member => mem_advanced_of_ne member (notUnlink deviceId streamId).symm
  have listed : ∀ deviceId entry,
      entry ∈ (cache.deviceMapInsert plan.deviceId plan.channelId plan.ssrc plan.streamId
        plan.am).deviceMap deviceId →
      entry ∈ cache.deviceMap deviceId ∨
        (deviceId = plan.deviceId ∧ entry = ⟨plan.channelId, plan.am, plan.streamId, plan.ssrc⟩) := by
    intro deviceId entry member
    simp only [Cache.deviceMapInsert] at member
    by_cases same : deviceId = plan.deviceId
    · subst same
      rw [Function.update_self, List.mem_append, List.mem_singleton] at member
      exact member.imp_right fun isNew => ⟨rfl, isNew⟩
    · rw [Function.update_of_ne same] at member
      exact Or.inl member
  refine ⟨sound.streams, fun deviceId entry member => ?_, fun other member => ?_,
    fun deviceId entry member => ?_, fun deviceId => ?_⟩
  · rcases listed deviceId entry member with old | ⟨rfl, rfl⟩
    · exact sound.entries deviceId entry old
    · exact owns
  · rcases mem_advanced task member with isRest | old
    · exact (follows other isRest).1
    · exact sound.tasks other old
  · rcases listed deviceId entry member with old | ⟨rfl, rfl⟩
    · exact (sound.listed deviceId entry old).imp_left (pending deviceId entry.streamId)
    · rcases safely plan lists with unlinks | ⟨up, _⟩
      · exact Or.inl (pending _ _ unlinks)
      · exact Or.inr up
  · rintro ⟨other, member, resetting⟩ entry inList
    have going : ∃ old ∈ earlier ++ task :: later, old.resets deviceId = true := by
      rcases mem_advanced task member with isRest | old
      · exact ⟨task, List.mem_append_right _ (List.mem_cons_self ..),
          (follows other isRest).2 deviceId resetting⟩
      · exact ⟨other, old, resetting⟩
    rcases listed deviceId entry inList with wasListed | ⟨rfl, rfl⟩
    · exact pending _ _ (sound.resetting deviceId going entry wasListed)
    · rcases safely plan lists with unlinks | ⟨_, quiet⟩
      · exact pending _ _ unlinks
      · obtain ⟨old, isTask, resets⟩ := going
        rw [quiet old isTask] at resets
        cases resets

theorem Sound.unlink {deviceId streamId : String}
    (sound : Sound owner ⟨cache, earlier ++ .unlink deviceId streamId :: later⟩) :
    Sound owner ⟨cache.deviceMapRemoveStream deviceId streamId,
      earlier ++ (none : Option Task).toList ++ later⟩ := by
  have listed : ∀ other entry,
      entry ∈ (cache.deviceMapRemoveStream deviceId streamId).deviceMap other →
      entry ∈ cache.deviceMap other ∧
        Task.unlink other entry.streamId ≠ .unlink deviceId streamId := by
    intro other entry member
    simp only [Cache.deviceMapRemoveStream] at member
    by_cases same : other = deviceId
    · subst same
      rw [Function.update_self, List.mem_filter] at member
      refine ⟨member.1, fun isUnlink => ?_⟩
      rw [Task.unlink.injEq] at isUnlink
      exact absurd isUnlink.2 (bne_iff_ne.mp member.2)
    · rw [Function.update_of_ne same] at member
      exact ⟨member, fun isUnlink => same (by rw [Task.unlink.injEq] at isUnlink; exact isUnlink.1)⟩
  refine ⟨sound.streams, fun other entry member => sound.entries other entry (listed _ _ member).1,
    fun other member => ?_, fun other entry member => ?_, fun other => ?_⟩
  · rcases mem_advanced (.unlink deviceId streamId) member with isRest | old
    · cases isRest
    · exact sound.tasks other old
  · obtain ⟨old, differs⟩ := listed other entry member
    exact (sound.listed other entry old).imp_left fun pending => mem_advanced_of_ne pending differs
  · rintro ⟨resetter, member, resetting⟩ entry inList
    obtain ⟨old, differs⟩ := listed other entry inList
    rcases mem_advanced (.unlink deviceId streamId) member with isRest | before
    · cases isRest
    · exact mem_advanced_of_ne (sound.resetting other ⟨resetter, before, resetting⟩ entry old) differs

/-- The first step of a reset empties the list of the device. -/
theorem Sound.reset {deviceId : String}
    (sound : Sound owner ⟨cache, earlier ++ .reset deviceId :: later⟩) :
    Sound owner
      ⟨{ cache with deviceMap := Function.update cache.deviceMap deviceId [] },
        earlier ++ (some (Task.resetEntries deviceId
          ((cache.deviceMap deviceId).map DeviceTable.streamId))).toList ++ later⟩ := by
  have listed : ∀ other entry, entry ∈ Function.update cache.deviceMap deviceId [] other →
      other ≠ deviceId ∧ entry ∈ cache.deviceMap other := by
    intro other entry member
    by_cases same : other = deviceId
    · rw [same, Function.update_self] at member
      cases member
    · rw [Function.update_of_ne same] at member
      exact ⟨same, member⟩
  have pending : ∀ other streamId, .unlink other streamId ∈ earlier ++ .reset deviceId :: later →
      .unlink other streamId ∈ earlier ++ (some (Task.resetEntries deviceId
        ((cache.deviceMap deviceId).map DeviceTable.streamId))).toList ++ later :=
    fun other streamId member => mem_advanced_of_ne member (by simp)
  refine ⟨sound.streams, fun other entry member => sound.entries other entry (listed _ _ member).2,
    fun other member => ?_, fun other entry member => ?_, fun other => ?_⟩
  · rcases mem_advanced (.reset deviceId) member with isRest | old
    · cases isRest
      intro id inIds
      obtain ⟨entry, inList, rfl⟩ := List.mem_map.mp inIds
      rw [sound.entries deviceId entry inList]
    · exact sound.tasks other old
  · exact (sound.listed other entry (listed _ _ member).2).imp_left (pending other entry.streamId)
  · rintro ⟨resetter, member, resetting⟩ entry inList
    obtain ⟨differs, old⟩ := listed other entry inList
    rcases mem_advanced (.reset deviceId) member with isRest | before
    · cases isRest
      exact absurd (beq_iff_eq.mp resetting).symm differs
    · exact pending _ _ (sound.resetting other ⟨resetter, before, resetting⟩ entry old)

/-- Every step of a task keeps the invariant, when it lists safely. -/
theorem Sound.advance (sound : Sound owner ⟨cache, earlier ++ task :: later⟩)
    (safely : ListsSafely ⟨cache, earlier ++ task :: later⟩ task) :
    Sound owner ⟨(work cache task).2, earlier ++ (work cache task).1.toList ++ later⟩ := by
  have owned := sound.tasks task (List.mem_append_right _ (List.mem_cons_self ..))
  have quiet : ∀ rest : Option Task, (∀ deviceId streamId, task ≠ .unlink deviceId streamId) →
      Follows owner task rest → Sound owner ⟨cache, earlier ++ rest.toList ++ later⟩ :=
    fun rest notUnlink follows =>
      sound.keep notUnlink rfl sound.streams (fun _ up => up) follows
  cases task with
  | startInsert plan heard =>
      rw [work, Cache.streamMapInsertInfo, Cache.streamMapInsert]
      cases taken : cache.streamMap.lookup plan.streamId with
      | some stream => exact quiet none (by simp) follows_none
      | none =>
          cases heard with
          | some proxyAddr =>
              exact sound.insert (by simp) rfl rfl owned (follows_outside owned fun _ => rfl)
          | none =>
              exact sound.insert (by simp) rfl rfl owned (follows_outside trivial fun _ => rfl)
  | startUpdate plan proxyAddr =>
      rw [work, Cache.streamMapUpdateSource]
      have follows : Follows owner (.startUpdate plan proxyAddr) (some (.startList plan)) :=
        follows_outside owned fun _ => rfl
      cases held : cache.streamMap.lookup plan.streamId with
      | none => exact quiet _ (by simp) follows
      | some stream =>
          exact sound.insert (by simp) rfl rfl (sound.streams plan.streamId stream held) follows
  | startList plan => exact sound.list (by simp) owned rfl safely follows_none
  | recoverInsert plan online terminating =>
      rw [work, Cache.streamMapInsertRestored, Cache.streamMapInsert]
      cases taken : cache.streamMap.lookup plan.streamId with
      | some stream => exact quiet none (by simp) follows_none
      | none =>
          cases online with
          | true =>
              exact sound.insert (by simp) rfl rfl owned (follows_outside owned fun _ => rfl)
          | false =>
              exact sound.insert (by simp) rfl rfl owned (follows_outside trivial fun _ => rfl)
  | recoverList plan terminating =>
      cases terminating with
      | true =>
          exact sound.list (by simp) owned rfl safely (follows_outside trivial fun _ => rfl)
      | false => exact sound.list (by simp) owned rfl safely follows_none
  | closeBegin streamId =>
      rw [work]
      rcases cache.streamCloseBegin_cases streamId with
        same | ⟨stream, held, _, same⟩ | ⟨stream, _, held, _, same⟩ <;> rw [same]
      · exact quiet none (by simp) follows_none
      · exact sound.insert (by simp) rfl rfl (sound.streams streamId stream held) follows_none
      · exact sound.insert (by simp) rfl rfl (sound.streams streamId stream held) follows_none
  | closeRemove streamId generation => exact sound.removeIf (by simp) streamId _
  | terminatedFind callId =>
      rw [work]
      cases cache.streamIdByCallId callId with
      | none => exact quiet none (by simp) follows_none
      | some streamId => exact quiet _ (by simp) (follows_outside trivial fun _ => rfl)
  | terminatedRemove streamId callId => exact sound.removeIf (by simp) streamId _
  | unlink deviceId streamId => exact sound.unlink
  | reset deviceId => exact sound.reset
  | resetEntries deviceId streamIds =>
      cases streamIds with
      | nil => exact quiet _ (by simp) (follows_some trivial fun _ resets => resets)
      | cons streamId ids =>
          exact sound.resetOne (by simp) (owned streamId (List.mem_cons_self ..))
            (beq_self_eq_true deviceId) (follows_some
              (fun id inIds => owned id (List.mem_cons_of_mem _ inIds)) fun _ resets => resets)
  | resetScan deviceId =>
      refine quiet _ (by simp) (follows_some (fun id inIds => ?_) fun _ resets => resets)
      obtain ⟨entry, inMap, isId⟩ := List.mem_filterMap.mp inIds
      rw [Option.ite_none_right_eq_some, Option.some.injEq] at isId
      obtain ⟨onDevice, rfl⟩ := isId
      rw [sound.streams entry.1 entry.2 (AList.mem_lookup_iff.mpr inMap)]
      exact onDevice
  | resetRest deviceId streamIds =>
      cases streamIds with
      | nil => exact quiet _ (by simp) (follows_outside trivial fun _ => rfl)
      | cons streamId ids =>
          exact sound.resetOne (by simp) (owned streamId (List.mem_cons_self ..))
            (beq_self_eq_true deviceId) (follows_some
              (fun id inIds => owned id (List.mem_cons_of_mem _ inIds)) fun _ resets => resets)
  | resetTalks deviceId =>
      exact sound.keep (by simp) rfl sound.streams (fun _ up => up) follows_none

end Steps

/-- In every interleaving of the calls, with stream ids of their own: when each listing
comes while the stream is up and no reset of its device is going on, or while its
removal has still to unlink it, nothing dangles whenever no call is in progress. -/
theorem noDangling_of_listed_safely (owner : String → Owner) (moves : List (Move Task))
    (calls : ∀ task, .begin task ∈ moves → Calls owner task)
    (safely : ∀ entry ∈ Runs.run (step work) ⟨Cache.init, []⟩ moves,
      SafeMove entry.before entry.action) :
    ∀ entry ∈ Runs.run (step work) ⟨Cache.init, []⟩ moves, entry.after.tasks = [] →
      NoDangling entry.after.shared := by
  intro entry member idle
  have guarded : ∀ entry ∈ Runs.run (step work) ⟨Cache.init, []⟩ moves,
      Guarded (Calls owner) ListsSafely entry.before entry.action := by
    intro other inRun
    have safe := safely other inRun
    cases isAction : other.action with
    | begin task => exact calls task (isAction ▸ Runs.action_mem inRun)
    | advance index =>
        rw [isAction] at safe
        exact safe
  obtain ⟨_, after⟩ := invariant_run (Sound owner)
    (fun shared tasks task sound calls => sound.begin calls)
    (fun shared earlier task later sound safely => sound.advance safely) (sound_init owner) guarded
    entry member
  have same : entry.after = ⟨entry.after.shared, []⟩ := by rw [← idle]
  rw [same] at after
  exact after.noDangling

/-- A live stream of one device. -/
def livePlan : Plan :=
  ⟨"a", "34020000001320000001", "34020000001310000001", "0200000001", 200000001, "node", "call-a", 1,
    .live⟩

/-- A start that nothing disturbs. -/
def plainStart : List (Move Task) :=
  [.begin (.startInsert livePlan (some "10.0.0.9:30000")), .advance 0, .advance 0, .advance 0]

theorem noDangling_of_listed_safely_plainStart :
    NoDangling (Runs.final (step work) ⟨Cache.init, []⟩ plainStart).shared := by
  have last : Runs.transition (step work)
      (Runs.final (step work) ⟨Cache.init, []⟩ (plainStart.take 3)) (.advance 0) ∈
        Runs.run (step work) ⟨Cache.init, []⟩ plainStart := by
    simp [plainStart]
  refine noDangling_of_listed_safely (fun _ => livePlan.owner) plainStart ?_ (by decide +kernel) _
    last (by decide +kernel)
  intro task begun
  simp only [plainStart, List.mem_cons, Move.begin.injEq, reduceCtorEq, List.not_mem_nil, or_false]
    at begun
  rw [begun]
  exact ⟨rfl, rfl⟩

/-- A BYE of the peer while the start waits for its media. -/
def byeDuringWait : List (Move Task) :=
  [.begin (.startInsert livePlan (some "10.0.0.9:30000")), .advance 0,
    .begin (.terminatedFind "call-a"), .advance 1, .advance 1, .advance 1, .advance 0, .advance 0]

/-- The stream is gone and unlinked before the start lists it: with both calls over, the
device lists a stream that is not up. -/
theorem byeDuringWait_dangles :
    (∀ task, .begin task ∈ byeDuringWait → Calls (fun _ => livePlan.owner) task) ∧
      (Runs.final (step work) ⟨Cache.init, []⟩ byeDuringWait).tasks = [] ∧
      ¬ NoDangling (Runs.final (step work) ⟨Cache.init, []⟩ byeDuringWait).shared := by
  refine ⟨fun task begun => ?_, by decide +kernel, fun sound => ?_⟩
  · simp only [byeDuringWait, List.mem_cons, Move.begin.injEq, reduceCtorEq, List.not_mem_nil,
      false_or, or_false] at begun
    rcases begun with rfl | rfl
    · exact ⟨rfl, rfl⟩
    · exact ⟨rfl, trivial⟩
  · have listed : (⟨"34020000001310000001", .live, "a", "0200000001"⟩ : DeviceTable) ∈
        (Runs.final (step work) ⟨Cache.init, []⟩ byeDuringWait).shared.deviceMap
          "34020000001320000001" := by decide +kernel
    have down : (Runs.final (step work) ⟨Cache.init, []⟩ byeDuringWait).shared.streamMap.lookup
        "a" = none := by decide +kernel
    obtain ⟨stream, found, _⟩ := sound _ _ listed
    rw [down] at found
    cases found

end Gmv.Session.DeviceMap
