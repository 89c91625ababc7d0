import Gmv.Library.TaskPool
import Gmv.Session.CloseProtocol
import Gmv.Session.StreamRecession

/-!
# The index of calls

`call_stream_index` maps the call of a dialog to its stream or talk.  An INVITE that is accepted, a
broadcast that is accepted and a recovery enter a call; a BYE of the peer and a set-up that is rolled
back take it out.  A close of our own, a reset and some failures of a set-up do not: then the call
stays although its stream or talk has gone.
-/

namespace Gmv.Session.CallIndex

open Gmv.Library Gmv.Library.TaskPool
open Cache (CloseCall closeStep)

/-! ## The shared state -/

/-- What a set-up hears of its INVITE. -/
inductive Reply where
  | accepted (callId : String)
  | failed (callId : String) (dialogEstablished : Bool)
  deriving DecidableEq, Repr

/-- The cache, the index, and the waiters of INVITEs with the channels to their set-ups; both have
the number of the operation. -/
structure Shared where
  cache : Cache
  callStreamIndex : AList fun _ : String => String
  /-- `native_invite_waiters`, with the stream of each. -/
  waiters : AList fun _ : Nat => String
  next : Nat
  /-- The receiver of a channel is there. -/
  isOpen : Nat → Bool
  sent : List (Nat × Reply)

namespace Shared

variable (shared : Shared)

def init : Shared := ⟨.init, ∅, ∅, 0, fun _ => false, []⟩

def inbox (operation : Nat) : Option Reply :=
  (shared.sent.find? fun message => message.1 == operation).map Prod.snd

def close (operation : Nat) : Shared :=
  { shared with isOpen := Function.update shared.isOpen operation false }

def removeNativeInviteWaiter (operation : Nat) : Shared :=
  { shared with waiters := shared.waiters.erase operation }

/-- `remove_stream_indexes`. -/
def removeIndex (callId : String) : Shared :=
  { shared with callStreamIndex := shared.callStreamIndex.erase callId }

def restoreStreamIndex (callId streamId : String) : Shared :=
  { shared with callStreamIndex := shared.callStreamIndex.insert callId streamId }

end Shared

/-! ## Tasks -/

/-- A call of `start_invite_stream`, with the outcomes that it waits for. -/
structure StreamSetup where
  streamId : String
  deviceId : String
  channelId : String
  ssrc : String
  u32ssrc : UInt32
  nodeName : String
  am : AccessMode
  sends : Bool
  /-- How often the set-up looks for the answer before its wait is over. -/
  polls : Nat
  /-- The dialog is the one of the row, and the row is marked. -/
  established : Bool
  answerValid : Bool
  initExt : Bool
  heard : Option String
  deriving DecidableEq, Repr

/-- A dialog that a recovery brings back. -/
structure Restored where
  streamId : String
  deviceId : String
  channelId : String
  ssrc : String
  u32ssrc : UInt32
  mediaNodeId : String
  callId : String
  seq : UInt32
  am : AccessMode
  mediaOnline : Bool
  terminating : Bool
  deriving DecidableEq, Repr

/-- What is still to do: of a set-up of a stream or of a talk from the INVITE on, of a response or a
fault of an INVITE, of a BYE of the peer and of a recovery; and the steps of closes and resets. -/
inductive Task where
  | insertWaiter (setup : StreamSetup)
  | sendInvite (setup : StreamSetup) (operation : Nat)
  | dropUnsent (operation : Nat)
  | recv (setup : StreamSetup) (operation polls : Nat)
  | closeReceiver (operation : Nat)
  | removeWaiter (operation : Nat)
  | failed (callId : String) (dialogEstablished : Bool)
  | establish (setup : StreamSetup) (callId : String)
  | rollback (callId : String)
  | parseMediaExt (setup : StreamSetup) (callId : String)
  | answerError (callId : String)
  | streamInitExt (setup : StreamSetup) (callId : String)
  | insertInfo (setup : StreamSetup) (callId : String)
  | inviteStop (callId : String)
  | listen (setup : StreamSetup)
  | insertDevice (setup : StreamSetup)
  | acceptBroadcast (talk : TalkSessionState) (established : Bool)
  | insertTalk (talk : TalkSessionState)
  | response (operation : Nat) (reply : Reply)
  | insertIndex (operation : Nat) (callId streamId : String)
  | send (operation : Nat) (reply : Reply)
  | bye (callId : String) (streamId : Option String) (waiterCompleted : Bool)
  | byeIndex (callId : String) (streamId : Option String) (waiterCompleted : Bool)
  | terminateStream (callId : String)
  | restoreStream (session : Restored)
  | restoreTalk (talk : TalkSessionState) (terminating : Bool)
  | restoreIndex (callId streamId : String) (close : Option CloseCall)
  | close (call : CloseCall)
  | resetDeviceState (deviceId : String)
  deriving DecidableEq

section

variable (shared : Shared)

def withCache (cache : Cache) : Shared := { shared with cache := cache }

/-- One step of a task. -/
def work : Task → Option Task × Shared
  | .insertWaiter setup =>
      (some (.sendInvite setup shared.next),
        { shared with
          waiters := shared.waiters.insert shared.next setup.streamId
          next := shared.next + 1
          isOpen := Function.update shared.isOpen shared.next true })
  | .sendInvite setup operation =>
      if setup.sends then (some (.recv setup operation setup.polls), shared)
      else (some (.dropUnsent operation), shared)
  | .dropUnsent operation => (some (.closeReceiver operation), shared.removeNativeInviteWaiter operation)
  | .recv setup operation polls =>
      match shared.inbox operation with
      | some (.accepted callId) => (some (.establish setup callId), shared.close operation)
      | some (.failed callId dialogEstablished) =>
          (some (.failed callId dialogEstablished), shared.close operation)
      | none =>
          match polls with
          | 0 => (some (.closeReceiver operation), shared)
          | polls + 1 => (some (.recv setup operation polls), shared)
  -- behind an INVITE that was not sent, the waiter has gone already
  | .closeReceiver operation => (some (.removeWaiter operation), shared.close operation)
  | .removeWaiter operation => (none, shared.removeNativeInviteWaiter operation)
  | .failed callId dialogEstablished =>
      if dialogEstablished then (some (.rollback callId), shared.removeIndex callId)
      else (none, shared.removeIndex callId)
  | .establish setup callId =>
      if setup.established then (some (.parseMediaExt setup callId), shared)
      else (some (.rollback callId), shared)
  | .rollback callId => (none, shared.removeIndex callId)
  | .parseMediaExt setup callId =>
      if setup.answerValid then (some (.streamInitExt setup callId), shared)
      else (some (.answerError callId), shared)
  | .answerError callId => (none, shared.removeIndex callId)
  | .streamInitExt setup callId =>
      if setup.initExt then (some (.insertInfo setup callId), shared)
      else (some (.inviteStop callId), shared)
  | .insertInfo setup callId =>
      match shared.cache.streamMapInsertInfo setup.streamId setup.deviceId setup.channelId setup.u32ssrc ""
        setup.nodeName callId 1 setup.am with
      | (true, cache) => (some (.listen setup), withCache shared cache)
      | (false, _) => (some (.inviteStop callId), shared)
  -- `invite_stop_by_device` leaves the index alone
  | .inviteStop _ => (none, shared)
  | .listen setup =>
      match setup.heard with
      | some proxyAddr =>
          (some (.insertDevice setup), withCache shared
            (shared.cache.streamMapUpdateSource setup.streamId proxyAddr setup.nodeName).2)
      | none => (some (.close (.streamCloseBegin setup.streamId)), shared)
  | .insertDevice setup =>
      (none, withCache shared (shared.cache.deviceMapInsert setup.deviceId setup.channelId setup.ssrc
        setup.streamId setup.am))
  | .acceptBroadcast talk established =>
      if established then
        (some (.insertTalk talk), shared.restoreStreamIndex talk.callId talk.talkId)
      else (some (.rollback talk.callId), shared)
  | .insertTalk talk =>
      match shared.cache.talkMapInsert talk with
      | (true, cache) => (none, withCache shared cache)
      | (false, _) => (some (.inviteStop talk.callId), shared)
  | .response operation reply =>
      match shared.waiters.lookup operation, reply with
      | none, _ => (none, shared)
      | some streamId, .accepted callId =>
          (some (.insertIndex operation callId streamId), shared.removeNativeInviteWaiter operation)
      | some _, .failed callId dialogEstablished =>
          (some (.send operation (.failed callId dialogEstablished)),
            shared.removeNativeInviteWaiter operation)
  | .insertIndex operation callId streamId =>
      (some (.send operation (.accepted callId)), shared.restoreStreamIndex callId streamId)
  | .send operation reply =>
      if shared.isOpen operation then (none, { shared with sent := shared.sent ++ [(operation, reply)] })
      else (none, shared)
  | .bye callId streamId waiterCompleted =>
      (some (.byeIndex callId (streamId.or (shared.callStreamIndex.lookup callId)) waiterCompleted), shared)
  | .byeIndex callId (some _) true => (none, shared.removeIndex callId)
  | .byeIndex callId (some _) false => (some (.terminateStream callId), shared.removeIndex callId)
  | .byeIndex _ none true => (none, shared)
  | .byeIndex callId none false => (some (.terminateStream callId), shared)
  | .terminateStream callId =>
      match shared.cache.streamTerminatedByCallId callId with
      | (some _, cache) => (none, withCache shared cache)
      | (none, cache) => (some (.close (.talkMapRemoveByCallId callId)), withCache shared cache)
  | .restoreStream session =>
      match shared.cache.streamMapInsertRestored session.streamId session.deviceId session.channelId
        session.u32ssrc session.mediaNodeId session.callId session.seq session.am with
      | (true, cache) =>
          (some (.restoreIndex session.callId session.streamId
            (if session.mediaOnline && !session.terminating then none
              else some (.streamCloseBegin session.streamId))),
            withCache shared (if session.mediaOnline then
              cache.deviceMapInsert session.deviceId session.channelId session.ssrc session.streamId
                session.am
              else cache))
      | (false, _) => (none, shared)
  | .restoreTalk talk terminating =>
      match shared.cache.talkMapInsert talk with
      | (true, cache) =>
          (some (.restoreIndex talk.callId talk.talkId
            (if terminating then some (.talkCloseBegin talk.talkId) else none)), withCache shared cache)
      | (false, _) => (none, shared)
  | .restoreIndex callId streamId close =>
      (close.map .close, shared.restoreStreamIndex callId streamId)
  | .close call => (none, withCache shared (closeStep shared.cache call).2)
  | .resetDeviceState deviceId => (none, withCache shared (shared.cache.resetDeviceState deviceId))

end

/-- The tasks that a server begins. -/
def Task.begins : Task → Bool
  | .insertWaiter _ | .acceptBroadcast _ _ | .response _ _ | .bye _ _ _ | .restoreStream _
  | .restoreTalk _ _ | .close _ | .resetDeviceState _ | .removeWaiter _ => true
  | _ => false

/-- The tasks that belong to a set-up. -/
def Task.setsUp : Task → Bool
  | .insertWaiter _ | .sendInvite _ _ | .dropUnsent _ | .recv _ _ _ | .closeReceiver _ | .failed _ _
  | .establish _ _ | .rollback _ | .parseMediaExt _ _ | .answerError _ | .streamInitExt _ _
  | .insertInfo _ _ | .inviteStop _ | .listen _ | .insertDevice _ | .acceptBroadcast _ _
  | .insertTalk _ => true
  | _ => false

/-! ## Calls that are left over -/

/-- A stream or a talk has the call, besides those that leave. -/
def Up (cache : Cache) (streams talks : List String) (callId : String) : Prop :=
  (∃ entry ∈ cache.streamMap.entries, entry.1 ∉ streams ∧ entry.2.callId = callId) ∨
    ∃ entry ∈ cache.talkMap.entries, entry.1 ∉ talks ∧ entry.2.callId = callId

instance (cache : Cache) (streams talks : List String) (callId : String) :
    Decidable (Up cache streams talks callId) :=
  inferInstanceAs (Decidable (_ ∨ _))

/-- While nothing is set up, every call of the index is that of a stream or a talk. -/
def NoLeak (pool : Pool Shared Task) : Prop :=
  (∀ task ∈ pool.tasks, task.setsUp = false) →
    ∀ callId ∈ pool.shared.callStreamIndex, Up pool.shared.cache [] [] callId

/-! ## Careful runs -/

/-- The stream that a step of a close or of a BYE drops. -/
def droppedStream (cache : Cache) : CloseCall → Option String
  | .streamCloseComplete streamId generation | .streamCloseForce streamId generation =>
      if (cache.streamMap.lookup streamId).any fun stream => stream.isClosingGeneration generation then
        some streamId
      else none
  | .streamTerminatedByCallId callId => cache.streamIdByCallId callId
  | _ => none

def droppedTalk (cache : Cache) : CloseCall → Option String
  | .talkCloseComplete talkId generation | .talkCloseForce talkId generation =>
      if (cache.talkMap.lookup talkId).any fun talk => talk.closingGeneration == some generation then
        some talkId
      else none
  | .talkMapRemoveByCallId callId => cache.talkIdByCallId callId
  | _ => none

/-- The streams and talks that leave with the next step of a task. -/
def leaving (cache : Cache) : Task → List String × List String
  | .close call => ((droppedStream cache call).toList, (droppedTalk cache call).toList)
  | .terminateStream callId => ((cache.streamIdByCallId callId).toList, [])
  | .resetDeviceState deviceId =>
      ((cache.deviceMap deviceId).map DeviceTable.streamId ++ cache.streamIdsOfDevice deviceId,
        cache.talkIdsOfDevice deviceId)
  | _ => ([], [])

/-- An acceptance has reached the index and is on its way to a channel, or in it. -/
def Accepted (pool : Pool Shared Task) (operation : Nat) (callId : String) : Prop :=
  .send operation (.accepted callId) ∈ pool.tasks ∨ (operation, .accepted callId) ∈ pool.shared.sent

/-- What the steps that do not look after the index find.  The calls of the streams and talks that leave
are not in the index any more, or have another stream or talk; so is the call of a set-up that is
given up behind its acceptance; an acceptance finds its set-up waiting, and no set-up stops waiting
behind it; and what is recovered is still there. -/
def Careful (pool : Pool Shared Task) (task : Task) : Prop :=
  (∀ callId ∈ pool.shared.callStreamIndex.keys, Up pool.shared.cache [] [] callId →
    Up pool.shared.cache (leaving pool.shared.cache task).1 (leaving pool.shared.cache task).2 callId) ∧
  match task with
  | .inviteStop callId =>
      callId ∈ pool.shared.callStreamIndex.keys → Up pool.shared.cache [] [] callId
  | .insertIndex operation callId _ =>
      pool.shared.isOpen operation = true ∨ Up pool.shared.cache [] [] callId
  | .closeReceiver operation =>
      ∀ callId ∈ pool.shared.callStreamIndex.keys, Accepted pool operation callId →
        Up pool.shared.cache [] [] callId
  | .restoreIndex callId _ _ => Up pool.shared.cache [] [] callId
  | _ => True

instance (pool : Pool Shared Task) (operation : Nat) (callId : String) :
    Decidable (Accepted pool operation callId) := inferInstanceAs (Decidable (_ ∨ _))

instance (pool : Pool Shared Task) : DecidablePred (Careful pool) := fun task =>
  match task with
  | .inviteStop _ | .insertIndex _ _ _ | .closeReceiver _ | .restoreIndex _ _ _ | .insertWaiter _
  | .sendInvite _ _ | .dropUnsent _ | .recv _ _ _ | .removeWaiter _ | .failed _ _ | .establish _ _
  | .rollback _ | .parseMediaExt _ _ | .answerError _ | .streamInitExt _ _ | .insertInfo _ _ | .listen _
  | .insertDevice _ | .acceptBroadcast _ _ | .insertTalk _ | .response _ _ | .send _ _ | .bye _ _ _
  | .byeIndex _ _ _ | .terminateStream _ | .restoreStream _ | .restoreTalk _ _ | .close _
  | .resetDeviceState _ => inferInstanceAs (Decidable (_ ∧ _))

/-! ## What leaves the cache -/

/-- Besides those that leave, the entries of a map stay with their call. -/
def Stay {ν : Type} (call : ν → String) (leaving : List String) (map next : AList fun _ : String => ν) :
    Prop :=
  ∀ id entry, id ∉ leaving → map.lookup id = some entry →
    ∃ later, next.lookup id = some later ∧ call later = call entry

section

variable {ν : Type} {call : ν → String} {leaving : List String} {map next : AList fun _ : String => ν}

theorem Stay.refl : Stay call leaving map map := fun _ entry _ found => ⟨entry, found, rfl⟩

theorem Stay.insert {id : String} {entry : ν}
    (same : ∀ old, map.lookup id = some old → call entry = call old) :
    Stay call leaving map (map.insert id entry) := by
  intro name old _ found
  by_cases isId : name = id
  · subst isId
    exact ⟨entry, AList.lookup_insert _, same old found⟩
  · exact ⟨old, (AList.lookup_insert_ne isId).trans found, rfl⟩

/-- An entry that is new changes none of the others. -/
theorem Stay.insert_new {id : String} {entry : ν} (absent : map.lookup id = none) :
    Stay call leaving map (map.insert id entry) := by
  refine .insert fun old isOld => ?_
  rw [absent] at isOld
  cases isOld

/-- An entry that is changed keeps its call. -/
theorem Stay.changed {id : String} {entry changed : ν} (found : map.lookup id = some entry)
    (same : call changed = call entry) : Stay call leaving map (map.insert id changed) := by
  refine .insert fun old isOld => ?_
  cases found.symm.trans isOld
  exact same

theorem Stay.erase {id : String} (leaves : id ∈ leaving) : Stay call leaving map (map.erase id) := by
  intro name old stays found
  have differs : name ≠ id := fun same => stays (same ▸ leaves)
  exact ⟨old, (AList.lookup_erase_ne differs).trans found, rfl⟩

theorem Stay.removeAll {ids : List String} (leave : ∀ id ∈ ids, id ∈ leaving)
    (stay : Stay call leaving map next) :
    Stay call leaving map (ids.foldl (fun map id => map.erase id) next) := by
  intro id entry stays found
  obtain ⟨later, isLater, same⟩ := stay id entry stays found
  refine ⟨later, ?_, same⟩
  rw [MediaRequest.lookup_foldl_erase, if_neg fun member => stays (leave id member)]
  exact isLater

theorem Stay.up {callId : String}
    (stay : Stay call leaving map next)
    (up : ∃ entry ∈ map.entries, entry.1 ∉ leaving ∧ call entry.2 = callId) :
    ∃ entry ∈ next.entries, entry.1 ∉ ([] : List String) ∧ call entry.2 = callId := by
  obtain ⟨⟨id, entry⟩, member, stays, isCall⟩ := up
  obtain ⟨later, found, same⟩ := stay id entry stays (AList.mem_lookup_iff.mpr member)
  exact ⟨⟨id, later⟩, AList.mem_lookup_iff.mp found, List.not_mem_nil, same.trans isCall⟩

end

section

variable {cache : Cache}

theorem stay_streams_removeIf (streamId : String) (condition : StreamTable → Bool) {leaving : List String}
    (leaves : ∀ stream, cache.streamMap.lookup streamId = some stream → condition stream = true →
      streamId ∈ leaving) :
    Stay StreamTable.callId leaving cache.streamMap
      (cache.streamMapRemoveIf streamId condition).2.streamMap := by
  rcases cache.streamMapRemoveIf_cases streamId condition with same | ⟨stream, found, holds, removed⟩
  · rw [same]
    exact .refl
  · rw [removed]
    exact .erase (leaves stream found holds)

theorem stay_streams_closeRemove (streamId : String) (generation : UInt64) :
    Stay StreamTable.callId (droppedStream cache (.streamCloseComplete streamId generation)).toList
      cache.streamMap (cache.streamCloseRemove streamId generation).2.streamMap := by
  have stay := @stay_streams_removeIf cache streamId
    (fun stream => stream.isClosingGeneration generation)
    (droppedStream cache (.streamCloseComplete streamId generation)).toList
    (fun stream found holds => by simp [droppedStream, found, holds])
  rw [Cache.streamCloseRemove]
  rcases cache.streamMapRemoveIf_cases streamId (fun stream => stream.isClosingGeneration generation) with
    same | ⟨stream, found, -, removed⟩
  · rw [same] at stay ⊢
    exact stay
  · rw [removed] at stay ⊢
    exact stay

theorem stay_streams_terminated (callId : String) :
    Stay StreamTable.callId (cache.streamIdByCallId callId).toList cache.streamMap
      (cache.streamTerminatedByCallId callId).2.streamMap := by
  rw [Cache.streamTerminatedByCallId]
  cases isId : cache.streamIdByCallId callId with
  | none => exact .refl
  | some streamId =>
      have stay := @stay_streams_removeIf cache streamId
        (fun stream => stream.callId == callId) [streamId]
        (fun _ _ _ => List.mem_singleton_self _)
      rcases cache.streamMapRemoveIf_cases streamId (fun stream => stream.callId == callId) with
        same | ⟨stream, found, -, removed⟩
      · simp only [same] at stay ⊢
        exact stay
      · simp only [removed] at stay ⊢
        exact stay

theorem stay_streams_insert (streamId deviceId channelId : String) (ssrc : UInt32)
    (proxyAddr streamNodeName callId : String) (seq : UInt32) (am : AccessMode) (restored : Bool)
    {leaving : List String} :
    Stay StreamTable.callId leaving cache.streamMap
      (cache.streamMapInsert streamId deviceId channelId ssrc proxyAddr streamNodeName callId seq am
        restored).2.streamMap := by
  rw [Cache.streamMapInsert]
  cases found : cache.streamMap.lookup streamId with
  | some stream => exact .refl
  | none => exact .insert_new found

theorem stay_talks_insert (talk : TalkSessionState) {leaving : List String} :
    Stay TalkSessionState.callId leaving cache.talkMap (cache.talkMapInsert talk).2.talkMap := by
  rw [Cache.talkMapInsert]
  cases found : cache.talkMap.lookup talk.talkId with
  | some old => exact .refl
  | none => exact .insert_new found

theorem stay_streams_closeStep (call : CloseCall) :
    Stay StreamTable.callId (droppedStream cache call).toList cache.streamMap
      (closeStep cache call).2.streamMap := by
  cases call with
  | streamMapInsert streamId deviceId channelId ssrc proxyAddr streamNodeName callId seq am restored =>
      exact stay_streams_insert streamId deviceId channelId ssrc proxyAddr streamNodeName callId seq am
        restored
  | streamCloseBegin streamId =>
      rcases cache.streamCloseBegin_cases streamId with
        same | ⟨stream, found, -, same⟩ | ⟨stream, generation, found, -, same⟩
      · simp only [closeStep, same]
        exact .refl
      · simp only [closeStep, same]
        exact .changed found rfl
      · simp only [closeStep, same]
        exact .changed found rfl
  | streamCloseTakeBye streamId =>
      rcases cache.streamCloseTakeBye_cases streamId with same | ⟨stream, generation, error, found, -, same⟩
      · simp only [closeStep, same]
        exact .refl
      · simp only [closeStep, same]
        exact .changed found rfl
  | streamCloseMarkFailed streamId generation seq reason =>
      rcases cache.streamCloseMarkFailed_cases streamId generation seq reason with
        same | ⟨stream, error, found, -, same⟩
      · simp only [closeStep, same]
        exact .refl
      · simp only [closeStep, same]
        exact .changed found rfl
  | streamCloseComplete streamId generation | streamCloseForce streamId generation =>
      exact stay_streams_closeRemove streamId generation
  | streamTerminatedByCallId callId => exact stay_streams_terminated callId
  | talkMapInsert | talkCloseBegin | talkCloseTakeBye | talkCloseMarkFailed | talkCloseComplete
  | talkCloseForce | talkMapRemoveByCallId =>
      rw [(Cache.streams_of_talkCall rfl cache).1]
      exact .refl

theorem stay_talks_closeComplete (talkId : String) (generation : UInt64) :
    Stay TalkSessionState.callId (droppedTalk cache (.talkCloseComplete talkId generation)).toList
      cache.talkMap (cache.talkCloseComplete talkId generation).2.talkMap := by
  rcases cache.talkCloseComplete_cases talkId generation with same | ⟨talk, info, found, closing, same⟩
  · rw [same]
    exact .refl
  · rw [same]
    refine .erase ?_
    simp [droppedTalk, found, closing]

theorem stay_talks_removeByCallId (callId : String) :
    Stay TalkSessionState.callId (cache.talkIdByCallId callId).toList cache.talkMap
      (cache.talkMapRemoveByCallId callId).2.talkMap := by
  rw [Cache.talkMapRemoveByCallId]
  cases isId : cache.talkIdByCallId callId with
  | none => exact .refl
  | some talkId =>
      dsimp only
      split
      · exact .refl
      · split
        · exact .erase (List.mem_singleton_self _)
        · exact .refl

theorem stay_talks_closeStep (call : CloseCall) :
    Stay TalkSessionState.callId (droppedTalk cache call).toList cache.talkMap
      (closeStep cache call).2.talkMap := by
  cases call with
  | talkMapInsert talkId deviceId channelId ssrc streamNodeName callId seq restored =>
      exact stay_talks_insert _
  | talkCloseBegin talkId =>
      rcases cache.talkCloseBegin_cases talkId with
        same | ⟨talk, found, -, same⟩ | ⟨talk, generation, found, -, same⟩
      · simp only [closeStep, same]
        exact .refl
      · simp only [closeStep, same]
        exact .changed found rfl
      · simp only [closeStep, same]
        exact .refl
  | talkCloseTakeBye talkId =>
      rcases cache.talkCloseTakeBye_cases talkId with same | ⟨talk, generation, found, -, -, same⟩
      · simp only [closeStep, same]
        exact .refl
      · simp only [closeStep, same]
        exact .changed found rfl
  | talkCloseMarkFailed talkId generation seq reason =>
      rcases cache.talkCloseMarkFailed_cases talkId generation seq reason with
        same | ⟨talk, found, -, -, same⟩
      · simp only [closeStep, same]
        exact .refl
      · simp only [closeStep, same]
        exact .changed found rfl
  | talkCloseComplete talkId generation | talkCloseForce talkId generation =>
      exact stay_talks_closeComplete talkId generation
  | talkMapRemoveByCallId callId => exact stay_talks_removeByCallId callId
  | streamMapInsert | streamCloseBegin | streamCloseTakeBye | streamCloseMarkFailed | streamCloseComplete
  | streamCloseForce | streamTerminatedByCallId =>
      rw [(Cache.talks_of_streamCall rfl cache).1]
      exact .refl

theorem stay_streams_reset (deviceId : String) :
    Stay StreamTable.callId
      ((cache.deviceMap deviceId).map DeviceTable.streamId ++ cache.streamIdsOfDevice deviceId)
      cache.streamMap (cache.resetDeviceState deviceId).streamMap := by
  refine Stay.removeAll (fun id member => ?_)
    (Stay.removeAll (fun id member => List.mem_append_left _ member) .refl)
  -- a stream that the second walk finds was there at the beginning
  refine List.mem_append_right _ ?_
  obtain ⟨⟨name, stream⟩, inMap, isId⟩ := List.mem_filterMap.mp member
  refine List.mem_filterMap.mpr ⟨⟨name, stream⟩, ?_, isId⟩
  have found := AList.mem_lookup_iff.mpr inMap
  rw [Option.mem_def] at found
  simp only [Cache.streamMapRemoveAll, MediaRequest.lookup_foldl_erase] at found
  split at found
  · cases found
  · exact AList.mem_lookup_iff.mp found

theorem stay_talks_reset (deviceId : String) :
    Stay TalkSessionState.callId (cache.talkIdsOfDevice deviceId) cache.talkMap
      (cache.resetDeviceState deviceId).talkMap := Stay.removeAll (fun _ member => member) .refl

end

/-- Besides those that leave, the streams and talks of a cache stay with their call. -/
def Stays (streams talks : List String) (cache next : Cache) : Prop :=
  Stay StreamTable.callId streams cache.streamMap next.streamMap ∧
    Stay TalkSessionState.callId talks cache.talkMap next.talkMap

theorem Stays.refl {streams talks : List String} {cache : Cache} : Stays streams talks cache cache :=
  ⟨.refl, .refl⟩

theorem stays_closeStep (cache : Cache) (call : CloseCall) :
    Stays (droppedStream cache call).toList (droppedTalk cache call).toList cache
      (closeStep cache call).2 := ⟨stay_streams_closeStep call, stay_talks_closeStep call⟩

theorem stays_streamMapInsert {cache next : Cache} {streamId deviceId channelId : String} {ssrc : UInt32}
    {proxyAddr streamNodeName callId : String} {seq : UInt32} {am : AccessMode} {restored inserted : Bool}
    (insert : cache.streamMapInsert streamId deviceId channelId ssrc proxyAddr streamNodeName callId seq am
      restored = (inserted, next)) : Stays [] [] cache next := by
  have stays := stays_closeStep cache (.streamMapInsert streamId deviceId channelId ssrc proxyAddr
    streamNodeName callId seq am restored)
  simp only [closeStep, insert] at stays
  exact stays

theorem stays_talkMapInsert {cache next : Cache} {talk : TalkSessionState} {inserted : Bool}
    (insert : cache.talkMapInsert talk = (inserted, next)) : Stays [] [] cache next := by
  have stay := @stay_talks_insert cache talk []
  rw [insert] at stay
  refine ⟨?_, stay⟩
  rw [Cache.talkMapInsert] at insert
  split at insert <;> cases insert <;> exact .refl

theorem stays_terminated {cache next : Cache} {callId : String} {info : Option CloseInfo}
    (terminated : cache.streamTerminatedByCallId callId = (info, next)) :
    Stays (cache.streamIdByCallId callId).toList [] cache next := by
  have stays := stays_closeStep cache (.streamTerminatedByCallId callId)
  simp only [closeStep, terminated] at stays
  exact stays

theorem stays_updateSource (cache : Cache) (streamId proxyAddr streamNodeName : String) :
    Stays [] [] cache (cache.streamMapUpdateSource streamId proxyAddr streamNodeName).2 := by
  rw [Cache.streamMapUpdateSource]
  cases found : cache.streamMap.lookup streamId with
  | none => exact .refl
  | some stream => exact ⟨.changed found rfl, .refl⟩

theorem stays_work (shared : Shared) (task : Task) :
    Stays (leaving shared.cache task).1 (leaving shared.cache task).2 shared.cache
      (work shared task).2.cache := by
  fun_cases work shared task
  case case21 insert => exact stays_streamMapInsert insert
  case case24 => exact stays_updateSource ..
  case case29 insert => exact stays_talkMapInsert insert
  case case42 terminated => exact stays_terminated terminated
  case case43 terminated => exact stays_terminated terminated
  case case44 insert =>
    have stays := stays_streamMapInsert insert
    dsimp only [withCache]
    split <;> exact stays
  case case46 insert => exact stays_talkMapInsert insert
  case case49 => exact stays_closeStep ..
  case case50 deviceId => exact ⟨stay_streams_reset deviceId, stay_talks_reset deviceId⟩
  all_goals exact .refl

/-- What is up besides what leaves with a step is up behind it. -/
theorem up_work {shared : Shared} {task : Task} {callId : String}
    (up : Up shared.cache (leaving shared.cache task).1 (leaving shared.cache task).2 callId) :
    Up (work shared task).2.cache [] [] callId :=
  up.imp (stays_work shared task).1.up (stays_work shared task).2.up

/-! ## The channels -/

/-- The operation whose channel a set-up waits at. -/
def Task.awaits : Task → Option Nat
  | .sendInvite _ operation | .dropUnsent operation | .recv _ operation _ | .closeReceiver operation =>
      some operation
  | _ => none

/-- The operation whose waiter a response has taken. -/
def Task.carries : Task → Option Nat
  | .insertIndex operation _ _ | .send operation _ => some operation
  | _ => none

/-- The operations whose waiters are in the map, and those that were answered. -/
def Shared.pending (shared : Shared) : List Nat := shared.waiters.keys ++ shared.sent.map Prod.fst

section

variable {shared : Shared} {task : Task}

/-- The tasks whose next step is about a waiter or a channel. -/
def Task.answers : Task → Bool
  | .insertWaiter _ | .dropUnsent _ | .removeWaiter _ | .response _ _ | .insertIndex _ _ _
  | .send _ _ => true
  | _ => false

theorem answers_frame (other : task.answers = false) :
    ((work shared task).2.next = shared.next ∧ (work shared task).2.waiters = shared.waiters ∧
      (work shared task).2.sent = shared.sent) ∧
      (work shared task).1.bind Task.carries = none ∧ task.carries = none := by
  fun_cases work shared task
  all_goals first
    | cases other; done
    | skip
  all_goals refine ⟨⟨rfl, rfl, rfl⟩, ?_, rfl⟩
  all_goals first
    | rfl
    | simp_all [Task.carries]

/-- No step makes a second answer for an operation. -/
theorem pending_work (operation : Nat) :
    (work shared task).2.next = shared.next ∧
        tallyHere Shared.pending Task.carries operation (work shared task).2 (work shared task).1 ≤
          tallyHere Shared.pending Task.carries operation shared (some task) ∨
      (work shared task).2.next = shared.next + 1 ∧
        tallyHere Shared.pending Task.carries operation (work shared task).2 (work shared task).1 ≤
          [shared.next].count operation +
            tallyHere Shared.pending Task.carries operation shared (some task) := by
  have erased (other : Nat) : (shared.waiters.keys.erase other).count operation ≤
      shared.waiters.keys.count operation := (List.erase_sublist ..).count_le _
  by_cases other : task.answers = false
  · obtain ⟨⟨next, waiters, sent⟩, noRest, none'⟩ :=
      @answers_frame shared task other
    refine Or.inl ⟨next, ?_⟩
    simp only [tallyHere, Shared.pending, waiters, sent, noRest, Option.bind_some, none', Nat.le_refl]
  cases task with
  | insertWaiter setup =>
      refine Or.inr ⟨rfl, ?_⟩
      have few := erased shared.next
      simp only [work, tallyHere, Shared.pending, Option.bind_some, Task.carries, AList.keys_insert,
        List.count_append, List.count_cons, List.count_nil, Option.toList_none]
      omega
  | dropUnsent name | removeWaiter name =>
      refine Or.inl ⟨rfl, ?_⟩
      have few := erased name
      simp only [work, Shared.removeNativeInviteWaiter, tallyHere, Shared.pending, Option.bind_some,
        Option.bind_none, Task.carries, AList.keys_erase, List.count_append, Option.toList_none,
        List.count_nil]
      omega
  | response name reply =>
      cases found : shared.waiters.lookup name with
      | none =>
          refine Or.inl ?_
          simp [work, found, tallyHere]
      | some streamId =>
          have member : name ∈ shared.waiters.keys := by
            rw [← AList.mem_keys, ← AList.lookup_isSome, found]
            rfl
          have once : (shared.waiters.keys.erase name).count operation = _ := List.count_erase
          have some' : operation = name → 0 < shared.waiters.keys.count operation :=
            fun same => List.count_pos_iff.mpr (same ▸ member)
          refine Or.inl ?_
          cases reply with
          | accepted callId | failed callId dialogEstablished =>
              refine ⟨by simp only [work, found, Shared.removeNativeInviteWaiter], ?_⟩
              simp only [work, found, Shared.removeNativeInviteWaiter, tallyHere, Shared.pending,
                Option.bind_some, Task.carries, AList.keys_erase, List.count_append, Option.toList_none,
                Option.toList_some, List.count_nil, List.count_singleton, once]
              by_cases same : name = operation
              · have positive := some' same.symm
                simp only [same, BEq.rfl, if_true]
                omega
              · simp only [beq_false_of_ne same, Bool.false_eq_true, if_false]
                omega
  | insertIndex name callId streamId => exact Or.inl ⟨rfl, Nat.le_refl _⟩
  | send name reply =>
      refine Or.inl ?_
      cases isOpen : shared.isOpen name with
      | true =>
          refine ⟨by simp only [work, isOpen, if_true], ?_⟩
          simp only [work, isOpen, if_true, tallyHere, Shared.pending, Option.bind_none, Option.bind_some,
            Task.carries, List.map_append, List.map_cons, List.map_nil, List.count_append,
            Option.toList_none, Option.toList_some, List.count_nil]
          omega
      | false => simp [work, isOpen, tallyHere]
  | _ => exact absurd rfl other

theorem isOpen_close {operation other : Nat} (isOpen : shared.isOpen operation = true) :
    (shared.close other).isOpen operation = true ∨ operation = other := by
  by_cases same : operation = other
  · exact Or.inr same
  · exact Or.inl ((Function.update_of_ne same ..).trans isOpen)

theorem isOpen_of_close {operation other : Nat} (isOpen : (shared.close other).isOpen operation = true) :
    shared.isOpen operation = true ∧ other ≠ operation := by
  by_cases same : operation = other
  · rw [same, Shared.close] at isOpen
    simp at isOpen
  · exact ⟨(Function.update_of_ne same ..).symm.trans isOpen, Ne.symm same⟩

/-- A channel stays open until its set-up has read an answer or has given up. -/
theorem isOpen_work {operation : Nat} (isOpen : shared.isOpen operation = true) :
    (work shared task).2.isOpen operation = true ∨
      (∃ setup polls reply, task = .recv setup operation polls ∧ shared.inbox operation = some reply) ∨
      task = .closeReceiver operation := by
  fun_cases work shared task
  case case1 =>
    refine Or.inl ?_
    simp only [Function.update_apply]
    split
    · rfl
    · exact isOpen
  case case5 setup other polls callId found =>
    refine (isOpen_close isOpen).imp_right fun same => Or.inl ?_
    exact ⟨setup, polls, _, same ▸ rfl, same ▸ found⟩
  case case6 setup other polls callId dialogEstablished found =>
    refine (isOpen_close isOpen).imp_right fun same => Or.inl ?_
    exact ⟨setup, polls, _, same ▸ rfl, same ▸ found⟩
  case case9 other =>
    refine (isOpen_close isOpen).imp_right fun same => Or.inr ?_
    rw [same]
  all_goals exact Or.inl isOpen

/-- A channel that is open behind a step was open, and its set-up still waits, or the step made it. -/
theorem isOpen_of_work {operation : Nat} :
    (work shared task).2.isOpen operation = true →
      shared.isOpen operation = true ∧ (task.awaits = some operation →
        (work shared task).1.bind Task.awaits = some operation) ∨
      (work shared task).1.bind Task.awaits = some operation := by
  have closed {other : Nat} {rest : Option Task} (isOpen : (shared.close other).isOpen operation = true) :
      shared.isOpen operation = true ∧
        (some other = some operation → rest.bind Task.awaits = some operation) :=
    ⟨(isOpen_of_close isOpen).1, fun same => absurd (Option.some.inj same) (isOpen_of_close isOpen).2⟩
  fun_cases work shared task
  case case1 =>
    intro isOpen
    by_cases same : operation = shared.next
    · exact Or.inr (same ▸ rfl)
    · exact Or.inl ⟨(Function.update_of_ne same ..).symm.trans isOpen, fun awaits => by cases awaits⟩
  case case5 => exact fun isOpen => Or.inl (closed isOpen)
  case case6 => exact fun isOpen => Or.inl (closed isOpen)
  case case9 => exact fun isOpen => Or.inl (closed isOpen)
  all_goals first
    | exact fun isOpen => Or.inl ⟨isOpen, fun awaits => awaits⟩
    | exact fun isOpen => Or.inl ⟨isOpen, fun awaits => by cases awaits⟩

/-! ## Who holds a call -/

/-- The call that a set-up has yet to give to a stream or a talk, or to take back. -/
def Task.callId : Task → Option String
  | .establish _ callId | .rollback callId | .parseMediaExt _ callId | .answerError callId
  | .streamInitExt _ callId | .insertInfo _ callId | .inviteStop callId => some callId
  | .insertTalk talk => some talk.callId
  | _ => none

/-- The call that a step enters. -/
def Task.enters : Task → Option String
  | .acceptBroadcast talk true => some talk.callId
  | .insertIndex _ callId _ | .restoreIndex callId _ _ => some callId
  | _ => none

theorem index_work {callId : String} :
    callId ∈ (work shared task).2.callStreamIndex →
      some callId = task.enters ∨ callId ∈ shared.callStreamIndex ∧
        .rollback callId ≠ task ∧ .answerError callId ≠ task := by
  fun_cases work shared task
  all_goals simp_all [withCache, Shared.removeNativeInviteWaiter, Shared.removeIndex, Shared.close,
    Shared.restoreStreamIndex, Task.enters]

theorem up_of_streamMapInsert {cache next : Cache} {streamId deviceId channelId : String} {ssrc : UInt32}
    {proxyAddr streamNodeName callId : String} {seq : UInt32} {am : AccessMode} {restored : Bool}
    (insert : cache.streamMapInsert streamId deviceId channelId ssrc proxyAddr streamNodeName callId seq am
      restored = (true, next)) : Up next [] [] callId := by
  rw [Cache.streamMapInsert] at insert
  split at insert
  · cases insert
  · cases insert
    exact Or.inl ⟨⟨streamId, _⟩, AList.mem_lookup_iff.mp (AList.lookup_insert _), List.not_mem_nil, rfl⟩

theorem up_of_talkMapInsert {cache next : Cache} {talk : TalkSessionState}
    (insert : cache.talkMapInsert talk = (true, next)) : Up next [] [] talk.callId := by
  rw [Cache.talkMapInsert] at insert
  split at insert
  · cases insert
  · cases insert
    exact Or.inr ⟨⟨talk.talkId, talk⟩, AList.mem_lookup_iff.mp (AList.lookup_insert _), List.not_mem_nil, rfl⟩

/-- A set-up hands its call on, or it takes it back, or it gives up. -/
theorem callId_work {callId : String} (holds : task.callId = some callId) :
    (work shared task).1.bind Task.callId = some callId ∨ Up (work shared task).2.cache [] [] callId ∨
      task = .rollback callId ∨ task = .answerError callId ∨ task = .inviteStop callId := by
  fun_cases work shared task
  case case21 insert =>
    cases holds
    exact Or.inr (Or.inl (up_of_streamMapInsert insert))
  case case29 insert =>
    cases holds
    exact Or.inr (Or.inl (up_of_talkMapInsert insert))
  all_goals simp_all [Task.callId]

theorem sent_work : ∃ more, (work shared task).2.sent = shared.sent ++ more := by
  fun_cases work shared task
  all_goals first
    | exact ⟨[], (List.append_nil _).symm⟩
    | exact ⟨_, rfl⟩

end

/-! ## Every run -/

/-- A call of the index is held by a stream or a talk, by a set-up, or by an acceptance whose set-up
waits for it. -/
def Held (pool : Pool Shared Task) (callId : String) : Prop :=
  Up pool.shared.cache [] [] callId ∨ (∃ task ∈ pool.tasks, task.callId = some callId) ∨
    ∃ operation, pool.shared.isOpen operation = true ∧ Accepted pool operation callId

/-- No operation has two answers, a set-up waits at every open channel, and every call is held. -/
structure Inv (pool : Pool Shared Task) : Prop where
  pending : ∀ operation, tally Shared.pending Task.carries operation pool ≤
    (decide (operation < pool.shared.next)).toNat
  waits : ∀ operation, pool.shared.isOpen operation = true → ∃ task ∈ pool.tasks,
    task.awaits = some operation
  held : ∀ callId ∈ pool.shared.callStreamIndex, Held pool callId

theorem Inv.noLeak {pool : Pool Shared Task} (inv : Inv pool) : NoLeak pool := by
  intro quiet callId indexed
  rcases inv.held callId indexed with up | ⟨task, member, holds⟩ | ⟨operation, isOpen, -⟩
  · exact up
  · have idle := quiet task member
    cases task <;> first | cases holds; done | cases idle
  · obtain ⟨task, member, awaits⟩ := inv.waits operation isOpen
    have idle := quiet task member
    cases task <;> first | cases awaits; done | cases idle

/-- Entries with a key that is there once are the same. -/
theorem eq_of_count_le_one {κ ν : Type} [DecidableEq κ] {entries : List (κ × ν)} {key : κ} {one other : ν}
    (once : (entries.map Prod.fst).count key ≤ 1) (isOne : (key, one) ∈ entries)
    (isOther : (key, other) ∈ entries) : one = other := by
  induction entries with
  | nil => cases isOne
  | cons entry rest ih =>
      rw [List.map_cons, List.count_cons] at once
      have later {value : ν} (member : (key, value) ∈ rest) : 0 < (rest.map Prod.fst).count key :=
        List.count_pos_iff.mpr (List.mem_map.mpr ⟨_, member, rfl⟩)
      rcases List.mem_cons.mp isOne with rfl | inRest
      · rcases List.mem_cons.mp isOther with same | otherLater
        · exact (Prod.mk.inj same).2.symm
        · have more := later otherLater
          simp only [BEq.rfl, if_true] at once
          omega
      · rcases List.mem_cons.mp isOther with rfl | otherLater
        · have more := later inRest
          simp only [BEq.rfl, if_true] at once
          omega
        · exact ih (Nat.le_trans (Nat.le_add_right ..) once) inRest otherLater

section

variable {shared : Shared} {earlier later : List Task} {task : Task}

/-- What a set-up reads is the acceptance that is on its way to it. -/
theorem reply_of_accepted {operation : Nat} {callId : String} {reply : Reply}
    {pool : Pool Shared Task} (inv : Inv pool) (accepted : Accepted pool operation callId)
    (read : pool.shared.inbox operation = some reply) : reply = .accepted callId := by
  have once := Nat.le_trans (inv.pending operation) (Bool.toNat_le _)
  rw [tally, Shared.pending, List.count_append] at once
  obtain ⟨⟨name, value⟩, isFirst, isReply⟩ := Option.map_eq_some_iff.mp read
  have isSent := List.mem_of_find?_eq_some isFirst
  obtain rfl : name = operation := by simpa using List.find?_some isFirst
  have isReply : value = reply := isReply
  subst isReply
  rcases accepted with onItsWay | isThere
  · have carried : 0 < (pool.tasks.filterMap Task.carries).count name :=
      List.count_pos_iff.mpr (List.mem_filterMap.mpr ⟨_, onItsWay, rfl⟩)
    have answered : 0 < (pool.shared.sent.map Prod.fst).count name :=
      List.count_pos_iff.mpr (List.mem_map.mpr ⟨_, isSent, rfl⟩)
    omega
  · exact eq_of_count_le_one (by omega) isSent isThere

theorem accepted_work {operation : Nat} {callId : String} (isOpen : shared.isOpen operation = true)
    (accepted : Accepted ⟨shared, earlier ++ task :: later⟩ operation callId) :
    Accepted ⟨(work shared task).2, earlier ++ (work shared task).1.toList ++ later⟩ operation callId := by
  rcases accepted with onItsWay | isThere
  · by_cases same : .send operation (.accepted callId) = task
    · subst same
      refine Or.inr ?_
      simp [work, isOpen]
    · exact Or.inl (mem_advanced_of_ne onItsWay same)
  · obtain ⟨more, sent⟩ := @sent_work shared task
    refine Or.inr ?_
    rw [sent]
    exact List.mem_append_left _ isThere

/-- The call of the index that a step leaves there is held behind it. -/
theorem held_work {callId : String} (inv : Inv ⟨shared, earlier ++ task :: later⟩)
    (careful : Careful ⟨shared, earlier ++ task :: later⟩ task)
    (indexed : callId ∈ shared.callStreamIndex) (notRolledBack : .rollback callId ≠ task)
    (notAnswered : .answerError callId ≠ task) :
    Held ⟨(work shared task).2, earlier ++ (work shared task).1.toList ++ later⟩ callId := by
  have isKey : callId ∈ shared.callStreamIndex.keys := AList.mem_keys.mp indexed
  have stays (up : Up shared.cache [] [] callId) : Up (work shared task).2.cache [] [] callId :=
    up_work (careful.1 callId isKey up)
  rcases inv.held callId indexed with up | ⟨holder, member, holds⟩ | ⟨operation, isOpen, accepted⟩
  · exact Or.inl (stays up)
  · by_cases same : holder = task
    · subst same
      rcases @callId_work shared _ _ holds with handed | up | rfl | rfl | rfl
      · obtain ⟨rest, isRest, restHolds⟩ := Option.bind_eq_some_iff.mp handed
        exact Or.inr (Or.inl ⟨rest, mem_advanced_of_rest isRest, restHolds⟩)
      · exact Or.inl up
      · exact absurd rfl notRolledBack
      · exact absurd rfl notAnswered
      · exact Or.inl (stays (careful.2 isKey))
    · exact Or.inr (Or.inl ⟨holder, mem_advanced_of_ne member same, holds⟩)
  · rcases @isOpen_work _ task _ isOpen with still | ⟨setup, polls, reply, rfl, read⟩ | rfl
    · exact Or.inr (Or.inr ⟨operation, still, accepted_work isOpen accepted⟩)
    · have isIts := reply_of_accepted inv accepted read
      subst isIts
      refine Or.inr (Or.inl ⟨.establish setup callId, mem_advanced_of_rest ?_, rfl⟩)
      simp only [work, read]
    · exact Or.inl (stays (careful.2 callId isKey accepted))

theorem inv_advance (inv : Inv ⟨shared, earlier ++ task :: later⟩)
    (careful : Careful ⟨shared, earlier ++ task :: later⟩ task) :
    Inv ⟨(work shared task).2, earlier ++ (work shared task).1.toList ++ later⟩ := by
  refine ⟨fun operation => ?_, fun operation isOpen => ?_, fun callId indexed => ?_⟩
  · have before : tally Shared.pending Task.carries operation ⟨shared, earlier ++ task :: later⟩ ≤
        (decide (operation < shared.next)).toNat := inv.pending operation
    rw [tally_split] at before
    rw [tally_advanced]
    rcases @pending_work shared task operation with ⟨same, few⟩ | ⟨more, few⟩
    · simp only [same]
      omega
    · simp only [more]
      have fresh := count_fresh before
      omega
  · rcases isOpen_of_work isOpen with ⟨wasOpen, still⟩ | awaits
    · obtain ⟨waiting, member, awaits⟩ := inv.waits operation wasOpen
      by_cases same : waiting = task
      · subst same
        obtain ⟨rest, isRest, restAwaits⟩ := Option.bind_eq_some_iff.mp (still awaits)
        exact ⟨rest, mem_advanced_of_rest isRest, restAwaits⟩
      · exact ⟨waiting, mem_advanced_of_ne member same, awaits⟩
    · obtain ⟨rest, isRest, restAwaits⟩ := Option.bind_eq_some_iff.mp awaits
      exact ⟨rest, mem_advanced_of_rest isRest, restAwaits⟩
  · rcases index_work indexed with enters | ⟨old, notRolledBack, notAnswered⟩
    · cases task with
      | acceptBroadcast talk established =>
          cases established with
          | true =>
              cases enters
              exact Or.inr (Or.inl ⟨.insertTalk talk, mem_advanced_of_rest rfl, rfl⟩)
          | false => cases enters
      | insertIndex operation name streamId =>
          cases enters
          rcases careful.2 with isOpen | up
          · exact Or.inr (Or.inr ⟨operation, isOpen, Or.inl (mem_advanced_of_rest rfl)⟩)
          · exact Or.inl up
      | restoreIndex name streamId close =>
          cases enters
          exact Or.inl careful.2
      | _ => cases enters
    · exact held_work inv careful old notRolledBack notAnswered

theorem inv_begin {tasks : List Task} (inv : Inv ⟨shared, tasks⟩) (begins : task.begins = true) :
    Inv ⟨shared, tasks ++ [task]⟩ := by
  have carries : task.carries = none := by
    cases task <;> first | rfl | cases begins
  refine ⟨fun operation => ?_, fun operation isOpen => ?_, fun callId indexed => ?_⟩
  · rw [tally_begin _ _ _ carries]
    exact inv.pending operation
  · obtain ⟨waiting, member, awaits⟩ := inv.waits operation isOpen
    exact ⟨waiting, List.mem_append_left _ member, awaits⟩
  · rcases inv.held callId indexed with up | ⟨holder, member, holds⟩ | ⟨operation, isOpen, accepted⟩
    · exact Or.inl up
    · exact Or.inr (Or.inl ⟨holder, List.mem_append_left _ member, holds⟩)
    · exact Or.inr (Or.inr ⟨operation, isOpen, accepted.imp_left (List.mem_append_left _)⟩)

end

def start : Pool Shared Task := ⟨.init, []⟩

/-- No call is left over in any run in which what does not look after the index finds nothing of its
own there. -/
theorem noLeak_of_careful {moves : List (Move Task)}
    (guarded : ∀ entry ∈ Runs.run (step work) start moves,
      Guarded (fun task => task.begins = true) Careful entry.before entry.action) :
    ∀ entry ∈ Runs.run (step work) start moves, NoLeak entry.before ∧ NoLeak entry.after := by
  have first : Inv start := by
    refine ⟨fun _ => Nat.zero_le _, fun operation isOpen => ?_, fun callId indexed => ?_⟩
    · cases isOpen
    · cases AList.mem_keys.mp indexed
  have held := invariant_run Inv (fun _ _ _ inv begins => inv_begin inv begins)
    (fun _ _ _ _ inv careful => inv_advance inv careful) first guarded
  intro entry member
  obtain ⟨before, after⟩ := held entry member
  exact ⟨before.noLeak, after.noLeak⟩

def liveSetup : StreamSetup :=
  ⟨"a", "340", "1", "0100000001", 100000001, "s1", .live, true, 2, true, true, true, some "192.0.2.1:5060"⟩

/-- A stream that is set up. -/
def setUpLive : List (Move Task) :=
  [.begin (.insertWaiter liveSetup), .advance 0, .begin (.response 0 (.accepted "call")), .advance 0,
    .advance 1, .advance 1, .advance 1, .advance 0, .advance 0, .advance 0, .advance 0, .advance 0,
    .advance 0, .advance 0]

/-- The stream is set up, and the peer hangs up; another set-up is rolled back. -/
def peerHangsUp : List (Move Task) :=
  setUpLive ++ [.begin (.bye "call" none false), .advance 0, .advance 0, .advance 0,
    .begin (.insertWaiter { liveSetup with established := false }), .advance 0,
    .begin (.response 1 (.accepted "other")), .advance 0, .advance 1, .advance 1, .advance 1, .advance 0,
    .advance 0, .advance 0]

theorem noLeak_peerHangsUp :
    (Runs.final (step work) start peerHangsUp).shared.callStreamIndex.keys = [] ∧
    ∀ entry ∈ Runs.run (step work) start peerHangsUp,
      NoLeak entry.before ∧ NoLeak entry.after :=
  ⟨by decide +kernel, noLeak_of_careful (by decide +kernel)⟩

/-- The stream is set up and closed here. -/
def closedHere : List (Move Task) :=
  setUpLive ++ [.begin (.close (.streamCloseBegin "a")), .advance 0,
    .begin (.close (.streamCloseTakeBye "a")), .advance 0,
    .begin (.close (.streamCloseComplete "a" 1)), .advance 0]

theorem noLeak_closedHere :
    (∀ entry ∈ Runs.run (step work) start closedHere,
      Guarded (fun task => task.begins = true) (fun _ _ => True) entry.before entry.action) ∧
    ¬NoLeak (Runs.final (step work) start closedHere) := by
  have idle : (Runs.final (step work) start closedHere).tasks = [] := by decide +kernel
  have indexed : "call" ∈ (Runs.final (step work) start closedHere).shared.callStreamIndex.keys := by
    decide +kernel
  have gone : ¬Up (Runs.final (step work) start closedHere).shared.cache [] [] "call" := by decide +kernel
  refine ⟨by decide +kernel, fun noLeak => gone (noLeak ?_ "call" (AList.mem_keys.mpr indexed))⟩
  rw [idle]
  exact fun task member => by cases member

end Gmv.Session.CallIndex
