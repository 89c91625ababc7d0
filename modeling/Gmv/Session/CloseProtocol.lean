import Gmv.Library.ClosingLedger
import Gmv.Library.Runs
import Gmv.Session.Cache

/-!
# The close protocol

Streams and talks close in the same way: the first close of an entry numbers it
with a generation, retries hand out BYE requests one at a time, and a result or a
deadline names the generation it belongs to.  Both kinds of entry are lanes of a
closing ledger.  The ledger balances as long as a sequence number does not
saturate and the counter of generations does not come around.
-/

namespace Gmv.Session

open Gmv.Library Gmv.Library.ClosingLedger

namespace Cache

/-- The operations that open, close and drop streams and talks. -/
inductive CloseCall where
  | streamMapInsert (streamId deviceId channelId : String) (ssrc : UInt32)
      (proxyAddr streamNodeName callId : String) (seq : UInt32) (am : AccessMode)
      (restored : Bool)
  | streamCloseBegin (streamId : String)
  | streamCloseTakeBye (streamId : String)
  | streamCloseMarkFailed (streamId : String) (generation : UInt64) (seq : UInt32)
      (reason : String)
  | streamCloseComplete (streamId : String) (generation : UInt64)
  | streamCloseForce (streamId : String) (generation : UInt64)
  | streamTerminatedByCallId (callId : String)
  | talkMapInsert (talkId deviceId channelId : String) (ssrc : UInt32)
      (streamNodeName callId : String) (seq : UInt32) (restored : Bool)
  | talkCloseBegin (talkId : String)
  | talkCloseTakeBye (talkId : String)
  | talkCloseMarkFailed (talkId : String) (generation : UInt64) (seq : UInt32)
      (reason : String)
  | talkCloseComplete (talkId : String) (generation : UInt64)
  | talkCloseForce (talkId : String) (generation : UInt64)
  | talkMapRemoveByCallId (callId : String)
  deriving DecidableEq, Repr

inductive CloseReply where
  | changed (success : Bool)
  | start (start : Option CloseStart)
  | bye (command : Option ByeCommand)
  | info (info : Option CloseInfo)
  | talk (talk : Option TalkSessionState)
  deriving DecidableEq, Repr

/-- A talk as both of its callers insert it. -/
def playingTalk (talkId deviceId channelId : String) (ssrc : UInt32)
    (streamNodeName callId : String) (seq : UInt32) (restored : Bool) : TalkSessionState :=
  ⟨talkId, deviceId, channelId, ssrc, streamNodeName, callId, seq, restored, none, none, none⟩

def closeStep (cache : Cache) : CloseCall → CloseReply × Cache
  | .streamMapInsert streamId deviceId channelId ssrc proxyAddr streamNodeName callId seq am
      restored =>
      let (success, next) := cache.streamMapInsert streamId deviceId channelId ssrc proxyAddr
        streamNodeName callId seq am restored
      (.changed success, next)
  | .streamCloseBegin streamId =>
      let (start, next) := cache.streamCloseBegin streamId
      (.start start, next)
  | .streamCloseTakeBye streamId =>
      let (command, next) := cache.streamCloseTakeBye streamId
      (.bye command, next)
  | .streamCloseMarkFailed streamId generation seq reason =>
      let (success, next) := cache.streamCloseMarkFailed streamId generation seq reason
      (.changed success, next)
  | .streamCloseComplete streamId generation =>
      let (info, next) := cache.streamCloseComplete streamId generation
      (.info info, next)
  | .streamCloseForce streamId generation =>
      let (info, next) := cache.streamCloseForce streamId generation
      (.info info, next)
  | .streamTerminatedByCallId callId =>
      let (info, next) := cache.streamTerminatedByCallId callId
      (.info info, next)
  | .talkMapInsert talkId deviceId channelId ssrc streamNodeName callId seq restored =>
      let (success, next) := cache.talkMapInsert
        (playingTalk talkId deviceId channelId ssrc streamNodeName callId seq restored)
      (.changed success, next)
  | .talkCloseBegin talkId =>
      let (start, next) := cache.talkCloseBegin talkId
      (.start start, next)
  | .talkCloseTakeBye talkId =>
      let (command, next) := cache.talkCloseTakeBye talkId
      (.bye command, next)
  | .talkCloseMarkFailed talkId generation seq reason =>
      let (success, next) := cache.talkCloseMarkFailed talkId generation seq reason
      (.changed success, next)
  | .talkCloseComplete talkId generation =>
      let (info, next) := cache.talkCloseComplete talkId generation
      (.info info, next)
  | .talkCloseForce talkId generation =>
      let (info, next) := cache.talkCloseForce talkId generation
      (.info info, next)
  | .talkMapRemoveByCallId callId =>
      let (talk, next) := cache.talkMapRemoveByCallId callId
      (.talk talk, next)

abbrev CloseTransition := Runs.Transition Cache CloseCall CloseReply

/-! ## What the ledger sees -/

/-- The event of a stream, from a call and its reply. -/
def observeStream (entry : CloseTransition) : Event String UInt64 :=
  match entry.action, entry.result with
  | .streamMapInsert streamId .., .changed true => .opened streamId
  | .streamCloseBegin streamId, .start (some start) => .begun streamId start.generation
  | .streamCloseTakeBye streamId, .bye (some command) =>
      .handed streamId command.generation command.seq.toNat
  | .streamCloseMarkFailed streamId generation seq _, .changed true =>
      .failed streamId generation seq.toNat
  | .streamCloseComplete streamId _, .info (some _) => .dropped streamId
  | .streamCloseForce streamId _, .info (some _) => .dropped streamId
  | .streamTerminatedByCallId _, .info (some info) => .dropped info.streamId
  | _, _ => .quiet

/-- The event of a talk. -/
def observeTalk (entry : CloseTransition) : Event String UInt64 :=
  match entry.action, entry.result with
  | .talkMapInsert talkId .., .changed true => .opened talkId
  | .talkCloseBegin talkId, .start (some start) => .begun talkId start.generation
  | .talkCloseTakeBye talkId, .bye (some command) =>
      .handed talkId command.generation command.seq.toNat
  | .talkCloseMarkFailed talkId generation seq _, .changed true =>
      .failed talkId generation seq.toNat
  | .talkCloseComplete talkId _, .info (some _) => .dropped talkId
  | .talkCloseForce talkId _, .info (some _) => .dropped talkId
  | .talkMapRemoveByCallId _, .talk (some talk) => .dropped talk.talkId
  | _, _ => .quiet

/-- A result or a deadline of a stream that names a generation. -/
def CloseCall.NamesStream (streamId : String) (generation : UInt64) : CloseCall → Prop
  | .streamCloseMarkFailed id named _ _ => id = streamId ∧ named = generation
  | .streamCloseComplete id named => id = streamId ∧ named = generation
  | .streamCloseForce id named => id = streamId ∧ named = generation
  | _ => False

def CloseCall.NamesTalk (talkId : String) (generation : UInt64) : CloseCall → Prop
  | .talkCloseMarkFailed id named _ _ => id = talkId ∧ named = generation
  | .talkCloseComplete id named => id = talkId ∧ named = generation
  | .talkCloseForce id named => id = talkId ∧ named = generation
  | _ => False

/-- The properties of a run: at every point the books of streams and talks pass, and
a call with the generation of an earlier life of its entry changes nothing. -/
structure CloseProtocol (run : List CloseTransition) : Prop where
  streams : ∀ first second, run = first ++ second → Accounted (first.map observeStream)
  talks : ∀ first second, run = first ++ second → Accounted (first.map observeTalk)
  staleStream : ∀ first entry second, run = first ++ entry :: second →
    ∀ streamId generation, entry.action.NamesStream streamId generation →
      generation ∈ (logOf streamId (first.map observeStream)).retired →
      entry.after = entry.before
  staleTalk : ∀ first entry second, run = first ++ entry :: second →
    ∀ talkId generation, entry.action.NamesTalk talkId generation →
      generation ∈ (logOf talkId (first.map observeTalk)).retired → entry.after = entry.before

/-- A BYE is taken from an entry whose sequence number has a successor. -/
def SeqBelow (cache : Cache) : CloseCall → Prop
  | .streamCloseTakeBye streamId =>
      ∀ stream, cache.streamMap.lookup streamId = some stream → stream.seq < 4294967295
  | .talkCloseTakeBye talkId =>
      ∀ talk, cache.talkMap.lookup talkId = some talk → talk.seq < 4294967295
  | _ => True

instance (cache : Cache) (call : CloseCall) : Decidable (SeqBelow cache call) :=
  match call with
  | .streamCloseTakeBye streamId =>
      inferInstanceAs (Decidable (∀ stream ∈ cache.streamMap.lookup streamId,
        stream.seq < 4294967295))
  | .talkCloseTakeBye talkId =>
      inferInstanceAs (Decidable (∀ talk ∈ cache.talkMap.lookup talkId, talk.seq < 4294967295))
  | .streamMapInsert .. | .streamCloseBegin _ | .streamCloseMarkFailed .. | .streamCloseComplete ..
  | .streamCloseForce .. | .streamTerminatedByCallId _ | .talkMapInsert .. | .talkCloseBegin _
  | .talkCloseMarkFailed .. | .talkCloseComplete .. | .talkCloseForce ..
  | .talkMapRemoveByCallId _ => isTrue trivial

def CloseCall.beginsStream : CloseCall → Bool
  | .streamCloseBegin _ => true
  | _ => false

def CloseCall.beginsTalk : CloseCall → Bool
  | .talkCloseBegin _ => true
  | _ => false

/-! ## Entries are lanes -/

end Cache

def StreamTable.lane (stream : StreamTable) : Lane UInt64 :=
  match stream.lifecycle with
  | .playing => ⟨none, none, stream.seq.toNat⟩
  | .closing generation inflightSeq _ =>
      ⟨some generation, inflightSeq.map UInt32.toNat, stream.seq.toNat⟩

theorem StreamTable.lane_generation (stream : StreamTable) :
    stream.lane.generation = stream.closingGeneration := by
  rw [StreamTable.lane, StreamTable.closingGeneration]
  cases stream.lifecycle <;> rfl

def TalkSessionState.lane (talk : TalkSessionState) : Lane UInt64 :=
  ⟨talk.closingGeneration, talk.byeInflightSeq.map UInt32.toNat, talk.seq.toNat⟩

namespace Cache

/-- The lanes of a map. -/
def lanes {β : Type} (lane : β → Lane UInt64) (map : AList fun _ : String => β) :
    Lanes String UInt64 :=
  fun id => (map.lookup id).map lane

section

variable {β : Type} {lane : β → Lane UInt64} {map : AList fun _ : String => β}

/-- A map that changes at one id changes the lanes there. -/
theorem lanes_change {next : AList fun _ : String => β} {id : String} {value : Option β}
    (here : next.lookup id = value)
    (others : ∀ other, other ≠ id → next.lookup other = map.lookup other) :
    lanes lane next = Function.update (lanes lane map) id (value.map lane) := by
  funext other
  rw [Function.update_apply]
  by_cases same : other = id
  · rw [if_pos same, lanes, same, here]
  · rw [if_neg same, lanes, others other same, lanes]

theorem lanes_insert (id : String) (entry : β) :
    lanes lane (map.insert id entry) = Function.update (lanes lane map) id (some (lane entry)) :=
  lanes_change (AList.lookup_insert map) fun _ other => AList.lookup_insert_ne other

theorem lanes_erase (id : String) :
    lanes lane (map.erase id) = Function.update (lanes lane map) id none :=
  lanes_change (AList.lookup_erase id map) fun _ other => AList.lookup_erase_ne other

variable (lane) in
theorem lanes_of_lookup {id : String} {entry : β} (found : map.lookup id = some entry) :
    lanes lane map id = some (lane entry) := by
  rw [lanes, found]
  rfl

/-- Writing an entry back changes no lane. -/
theorem lanes_insert_same {id : String} {entry : β} (found : map.lookup id = some entry) :
    lanes lane (map.insert id entry) = lanes lane map := by
  rw [lanes_insert, ← lanes_of_lookup lane found, Function.update_eq_self]

end

theorem toNat_saturatingSucc32 {seq : UInt32} (below : seq < 4294967295) :
    seq.toNat < (saturatingSucc32 seq).toNat := by
  have bound : seq.toNat < 4294967295 := below
  have notLast : seq ≠ 4294967295 := by
    intro same
    rw [same] at bound
    exact absurd bound (by decide)
  rw [saturatingSucc32, if_neg notLast, UInt32.toNat_add]
  have one : (1 : UInt32).toNat = 1 := rfl
  rw [one, Nat.mod_eq_of_lt (by omega)]
  exact Nat.lt_succ_self _

/-- How a call moves a counter of generations: a begun entry carries a generation
that was issued before, or the counter, which then goes on. -/
structure Counts (past : List (Event String UInt64)) (before after : UInt64) (begins : Bool)
    (event : Event String UInt64) : Prop where
  named : ∀ id generation, event = .begun id generation →
    generation ∈ issuedIn past ∨ (generation = before ∧ after = before + 1)
  moved : after = before ∨ (after = before + 1 ∧ begins = true)

theorem Counts.rfl_of {past : List (Event String UInt64)} {counter : UInt64} {begins : Bool}
    {event : Event String UInt64} (other : ∀ id generation, event ≠ .begun id generation) :
    Counts past counter counter begins event :=
  ⟨fun id generation same => absurd same (other id generation), Or.inl rfl⟩

/-- A call as the ledger sees it. -/
structure LedgerStep (past : List (Event String UInt64)) (before after : Lanes String UInt64)
    (counter next : UInt64) (begins : Bool) (event : Event String UInt64) : Prop where
  moves : Moves past before event after
  counts : Counts past counter next begins event

theorem LedgerStep.quiet {past : List (Event String UInt64)} {lanes : Lanes String UInt64}
    {counter : UInt64} {begins : Bool} : LedgerStep past lanes lanes counter counter begins .quiet :=
  ⟨Moves.quiet, Counts.rfl_of fun id generation same => by cases same⟩

/-- The generations issued so far are the first numbers of the counter. -/
def Numbered (begins : Nat) (counter : UInt64) (issued : List UInt64) : Prop :=
  ∃ count ≤ begins, counter = UInt64.ofNat (count + 1) ∧
    ∀ generation ∈ issued, ∃ number, 1 ≤ number ∧ number ≤ count ∧
      generation = UInt64.ofNat number

theorem Numbered.step {begins : Nat} {before after : UInt64} {past : List (Event String UInt64)}
    {isBegin : Bool} {event : Event String UInt64}
    (numbered : Numbered begins before (issuedIn past))
    (counts : Counts past before after isBegin event) :
    Numbered (begins + isBegin.toNat) after (issuedIn (past ++ [event])) := by
  obtain ⟨count, few, counter, known⟩ := numbered
  rcases counts.moved with same | ⟨next, begun⟩
  · refine ⟨count, Nat.le_trans few (Nat.le_add_right _ _), same.trans counter, ?_⟩
    intro generation member
    rcases mem_issuedIn_concat.mp member with earlier | ⟨id, begun⟩
    · exact known generation earlier
    · rcases counts.named id generation begun with earlier | ⟨_, moved⟩
      · exact known generation earlier
      · rw [same] at moved
        exact absurd moved.symm (by simp)
  · refine ⟨count + 1, ?_, ?_, ?_⟩
    · rw [begun]
      exact Nat.succ_le_succ few
    · rw [next, counter, ← UInt64.ofNat_one, ← UInt64.ofNat_add]
    · intro generation member
      have old : generation ∈ issuedIn past → ∃ number, 1 ≤ number ∧ number ≤ count + 1 ∧
          generation = UInt64.ofNat number := by
        intro earlier
        obtain ⟨number, positive, atMost, same⟩ := known generation earlier
        exact ⟨number, positive, Nat.le_succ_of_le atMost, same⟩
      rcases mem_issuedIn_concat.mp member with earlier | ⟨id, begun⟩
      · exact old earlier
      · rcases counts.named id generation begun with earlier | ⟨isCounter, _⟩
        · exact old earlier
        · exact ⟨count + 1, Nat.le_add_left 1 count, Nat.le_refl _, isCounter.trans counter⟩

/-- A counter that has not come around has issued nothing twice. -/
theorem Numbered.fresh {begins : Nat} {counter : UInt64} {issued : List UInt64}
    (numbered : Numbered begins counter issued) (few : begins < 18446744073709551616) :
    counter ∉ issued := by
  obtain ⟨count, atMost, isCounter, known⟩ := numbered
  intro member
  obtain ⟨number, positive, below, same⟩ := known counter member
  rw [isCounter] at same
  have values := congrArg UInt64.toNat same
  rw [UInt64.toNat_ofNat', UInt64.toNat_ofNat'] at values
  omega

section Streams

variable {cache : Cache} {past : List (Event String UInt64)}

/-- A removal drops a lane or does nothing. -/
theorem streamMapRemoveIf_cases (cache : Cache) (streamId : String)
    (condition : StreamTable → Bool) :
    cache.streamMapRemoveIf streamId condition = (none, cache) ∨
      ∃ stream, cache.streamMap.lookup streamId = some stream ∧ condition stream = true ∧
        cache.streamMapRemoveIf streamId condition =
          (some stream, { cache with streamMap := cache.streamMap.erase streamId }) := by
  rw [streamMapRemoveIf]
  cases found : cache.streamMap.lookup streamId with
  | none => exact Or.inl rfl
  | some stream =>
      cases holds : condition stream with
      | true => exact Or.inr ⟨stream, rfl, holds, by simp [holds]⟩
      | false => exact Or.inl (by simp [holds])

/-- A close that removes a stream, or finds another generation. -/
theorem streamCloseRemove_cases (cache : Cache) (streamId : String) (generation : UInt64) :
    cache.streamCloseRemove streamId generation = (none, cache) ∨
      ∃ stream info, cache.streamMap.lookup streamId = some stream ∧
        stream.closingGeneration = some generation ∧
        (cache.streamCloseRemove streamId generation).1 = some info ∧
        (cache.streamCloseRemove streamId generation).2.streamMap =
          cache.streamMap.erase streamId ∧
        (cache.streamCloseRemove streamId generation).2.talkMap = cache.talkMap ∧
        (cache.streamCloseRemove streamId generation).2.streamCloseGeneration =
          cache.streamCloseGeneration ∧
        (cache.streamCloseRemove streamId generation).2.talkCloseGeneration =
          cache.talkCloseGeneration := by
  rw [streamCloseRemove]
  rcases cache.streamMapRemoveIf_cases streamId
    (fun stream => stream.isClosingGeneration generation) with none | ⟨stream, found, holds, removed⟩
  · rw [none]
    exact Or.inl rfl
  · rw [removed]
    exact Or.inr ⟨stream, _, found, beq_iff_eq.mp holds, rfl, rfl, rfl, rfl, rfl⟩

theorem streamCloseBegin_cases (cache : Cache) (streamId : String) :
    cache.streamCloseBegin streamId = (none, cache) ∨
      (∃ stream, cache.streamMap.lookup streamId = some stream ∧ stream.lifecycle = .playing ∧
        cache.streamCloseBegin streamId =
          (some ⟨cache.streamCloseGeneration, stream.deviceId, true⟩,
            { cache with
              streamMap := cache.streamMap.insert streamId
                { stream with lifecycle := .closing cache.streamCloseGeneration none none }
              streamCloseGeneration := cache.streamCloseGeneration + 1 })) ∨
      ∃ stream generation, cache.streamMap.lookup streamId = some stream ∧
        stream.closingGeneration = some generation ∧
        cache.streamCloseBegin streamId =
          (some ⟨generation, stream.deviceId, false⟩,
            { cache with
              streamMap := cache.streamMap.insert streamId stream
              streamCloseGeneration := cache.streamCloseGeneration + 1 }) := by
  rw [streamCloseBegin]
  cases found : cache.streamMap.lookup streamId with
  | none => exact Or.inl rfl
  | some stream =>
      cases lifecycle : stream.lifecycle with
      | playing =>
          refine Or.inr (Or.inl ⟨stream, rfl, lifecycle, ?_⟩)
          simp [StreamTable.beginClose, lifecycle, StreamTable.closingGeneration]
      | closing generation inflightSeq lastError =>
          refine Or.inr (Or.inr ⟨stream, generation, rfl, ?_, ?_⟩)
          · rw [StreamTable.closingGeneration, lifecycle]
          · simp [StreamTable.beginClose, lifecycle, StreamTable.closingGeneration]

theorem streamCloseTakeBye_cases (cache : Cache) (streamId : String) :
    cache.streamCloseTakeBye streamId = (none, cache) ∨
      ∃ stream generation lastError, cache.streamMap.lookup streamId = some stream ∧
        stream.lifecycle = .closing generation none lastError ∧
        cache.streamCloseTakeBye streamId =
          (some ⟨streamId, generation, stream.deviceId, stream.callId,
              saturatingSucc32 stream.seq⟩,
            { cache with
              streamMap := cache.streamMap.insert streamId
                { stream with
                  seq := saturatingSucc32 stream.seq
                  lifecycle :=
                    .closing generation (some (saturatingSucc32 stream.seq)) lastError } }) := by
  rw [streamCloseTakeBye]
  cases found : cache.streamMap.lookup streamId with
  | none => exact Or.inl rfl
  | some stream =>
      cases lifecycle : stream.lifecycle with
      | playing => exact Or.inl (by simp [StreamTable.takeBye, lifecycle])
      | closing generation inflightSeq lastError =>
          cases inflightSeq with
          | some seq => exact Or.inl (by simp [StreamTable.takeBye, lifecycle])
          | none =>
              refine Or.inr ⟨stream, generation, lastError, rfl, lifecycle, ?_⟩
              simp [StreamTable.takeBye, lifecycle]

theorem streamCloseMarkFailed_cases (cache : Cache) (streamId : String) (generation : UInt64)
    (seq : UInt32) (reason : String) :
    cache.streamCloseMarkFailed streamId generation seq reason = (false, cache) ∨
      ∃ stream lastError, cache.streamMap.lookup streamId = some stream ∧
        stream.lifecycle = .closing generation (some seq) lastError ∧
        cache.streamCloseMarkFailed streamId generation seq reason =
          (true, { cache with
            streamMap := cache.streamMap.insert streamId
              { stream with lifecycle := .closing generation none (some reason) } }) := by
  rw [streamCloseMarkFailed]
  cases found : cache.streamMap.lookup streamId with
  | none => exact Or.inl rfl
  | some stream =>
      cases lifecycle : stream.lifecycle with
      | playing => exact Or.inl (by simp [StreamTable.markByeFailed, lifecycle])
      | closing current inflightSeq lastError =>
          by_cases named : current = generation ∧ inflightSeq = some seq
          · obtain ⟨rfl, rfl⟩ := named
            refine Or.inr ⟨stream, lastError, rfl, lifecycle, ?_⟩
            simp [StreamTable.markByeFailed, lifecycle]
          · exact Or.inl (by simp [StreamTable.markByeFailed, lifecycle, named])

theorem streamTerminatedByCallId_cases (cache : Cache) (callId : String) :
    cache.streamTerminatedByCallId callId = (none, cache) ∨
      ∃ stream info, cache.streamMap.lookup info.streamId = some stream ∧
        (cache.streamTerminatedByCallId callId).1 = some info ∧
        (cache.streamTerminatedByCallId callId).2.streamMap =
          cache.streamMap.erase info.streamId ∧
        (cache.streamTerminatedByCallId callId).2.talkMap = cache.talkMap ∧
        (cache.streamTerminatedByCallId callId).2.streamCloseGeneration =
          cache.streamCloseGeneration ∧
        (cache.streamTerminatedByCallId callId).2.talkCloseGeneration =
          cache.talkCloseGeneration := by
  rw [streamTerminatedByCallId]
  cases cache.streamIdByCallId callId with
  | none => exact Or.inl rfl
  | some streamId =>
      rcases cache.streamMapRemoveIf_cases streamId (fun stream => stream.callId == callId) with
        none | ⟨stream, found, _, removed⟩
      · simp only [none]
        exact Or.inl trivial
      · simp only [removed]
        exact Or.inr ⟨stream, _, found, rfl, rfl, rfl, rfl, rfl⟩

/-- What a call does to the streams, as the ledger sees it. -/
def StreamStep (past : List (Event String UInt64)) (cache : Cache) (call : CloseCall) : Prop :=
  LedgerStep past (lanes StreamTable.lane cache.streamMap)
    (lanes StreamTable.lane (closeStep cache call).2.streamMap) cache.streamCloseGeneration
    (closeStep cache call).2.streamCloseGeneration call.beginsStream
    (observeStream (Runs.transition closeStep cache call))

/-- A call that leaves the streams alone. -/
theorem StreamStep.quiet {call : CloseCall}
    (event : observeStream (Runs.transition closeStep cache call) = .quiet)
    (streams : (closeStep cache call).2.streamMap = cache.streamMap)
    (counter : (closeStep cache call).2.streamCloseGeneration = cache.streamCloseGeneration) :
    StreamStep past cache call := by
  rw [StreamStep, event, streams, counter]
  exact LedgerStep.quiet

theorem streamMapInsert_step (streamId deviceId channelId : String) (ssrc : UInt32)
    (proxyAddr streamNodeName callId : String) (seq : UInt32) (am : AccessMode)
    (restored : Bool) :
    StreamStep past cache (.streamMapInsert streamId deviceId channelId ssrc proxyAddr
      streamNodeName callId seq am restored) := by
  cases found : cache.streamMap.lookup streamId with
  | some stream =>
      have refused : closeStep cache (.streamMapInsert streamId deviceId channelId ssrc proxyAddr
          streamNodeName callId seq am restored) = (.changed false, cache) := by
        simp only [closeStep, streamMapInsert, found]
      refine StreamStep.quiet ?_ (by rw [refused]) (by rw [refused])
      rw [Runs.transition, refused]
      rfl
  | none =>
      have inserted : closeStep cache (.streamMapInsert streamId deviceId channelId ssrc proxyAddr
          streamNodeName callId seq am restored) = (.changed true, { cache with
            streamMap := cache.streamMap.insert streamId
              ⟨deviceId, channelId, proxyAddr, streamNodeName, callId, seq, am, ssrc, restored,
                .playing⟩ }) := by
        simp only [closeStep, streamMapInsert, found]
      have free : lanes StreamTable.lane cache.streamMap streamId = none := by
        rw [lanes, found]
        rfl
      constructor
      · rw [Runs.transition, inserted]
        dsimp only
        rw [lanes_insert]
        exact Moves.opened free
      · rw [Runs.transition, inserted]
        exact Counts.rfl_of fun id generation same => by cases same

theorem streamCloseBegin_step (streamId : String)
    (fresh : cache.streamCloseGeneration ∉ issuedIn past)
    (known : ∀ id stream generation, cache.streamMap.lookup id = some stream →
      stream.closingGeneration = some generation → generation ∈ issuedIn past) :
    StreamStep past cache (.streamCloseBegin streamId) := by
  have called : closeStep cache (.streamCloseBegin streamId) =
      (.start (cache.streamCloseBegin streamId).1, (cache.streamCloseBegin streamId).2) := rfl
  rcases cache.streamCloseBegin_cases streamId with
    absent | ⟨stream, found, playing, begun⟩ | ⟨stream, generation, found, closing, begun⟩
  · refine StreamStep.quiet ?_ (by rw [called, absent]) (by rw [called, absent])
    rw [Runs.transition, called, absent]
    rfl
  · have lane : stream.lane = ⟨none, none, stream.seq.toNat⟩ := by
      rw [StreamTable.lane, playing]
    constructor
    · rw [Runs.transition, called, begun]
      dsimp only
      rw [lanes_insert]
      have held := lanes_of_lookup StreamTable.lane found
      rw [lane] at held
      exact Moves.first held rfl fresh
    · rw [Runs.transition, called, begun]
      refine ⟨fun id generation same => ?_, Or.inr ⟨rfl, rfl⟩⟩
      cases same
      exact Or.inr ⟨rfl, rfl⟩
  · have lane := stream.lane_generation.trans closing
    constructor
    · rw [Runs.transition, called, begun]
      dsimp only
      rw [lanes_insert_same found]
      exact Moves.again (lanes_of_lookup _ found) lane
    · rw [Runs.transition, called, begun]
      refine ⟨fun id named same => ?_, Or.inr ⟨rfl, rfl⟩⟩
      cases same
      exact Or.inl (known streamId stream generation found closing)

theorem streamCloseTakeBye_step (streamId : String)
    (below : SeqBelow cache (.streamCloseTakeBye streamId)) :
    StreamStep past cache (.streamCloseTakeBye streamId) := by
  have called : closeStep cache (.streamCloseTakeBye streamId) =
      (.bye (cache.streamCloseTakeBye streamId).1, (cache.streamCloseTakeBye streamId).2) := rfl
  rcases cache.streamCloseTakeBye_cases streamId with
    refused | ⟨stream, generation, lastError, found, lifecycle, taken⟩
  · refine StreamStep.quiet ?_ (by rw [called, refused]) (by rw [called, refused])
    rw [Runs.transition, called, refused]
    rfl
  · have lane : stream.lane = ⟨some generation, none, stream.seq.toNat⟩ := by
      rw [StreamTable.lane, lifecycle]
      rfl
    have held := lanes_of_lookup StreamTable.lane found
    rw [lane] at held
    constructor
    · rw [Runs.transition, called, taken]
      dsimp only
      rw [lanes_insert]
      exact Moves.handed held rfl rfl (toNat_saturatingSucc32 (below stream found))
    · rw [Runs.transition, called, taken]
      exact Counts.rfl_of fun id generation same => by cases same

theorem streamCloseMarkFailed_step (streamId : String) (generation : UInt64) (seq : UInt32)
    (reason : String) :
    StreamStep past cache (.streamCloseMarkFailed streamId generation seq reason) := by
  have called : closeStep cache (.streamCloseMarkFailed streamId generation seq reason) =
      (.changed (cache.streamCloseMarkFailed streamId generation seq reason).1,
        (cache.streamCloseMarkFailed streamId generation seq reason).2) := rfl
  rcases cache.streamCloseMarkFailed_cases streamId generation seq reason with
    refused | ⟨stream, lastError, found, lifecycle, failed⟩
  · refine StreamStep.quiet ?_ (by rw [called, refused]) (by rw [called, refused])
    rw [Runs.transition, called, refused]
    rfl
  · have lane : stream.lane = ⟨some generation, some seq.toNat, stream.seq.toNat⟩ := by
      rw [StreamTable.lane, lifecycle]
      rfl
    have held := lanes_of_lookup StreamTable.lane found
    rw [lane] at held
    constructor
    · rw [Runs.transition, called, failed]
      dsimp only
      rw [lanes_insert]
      exact Moves.failed held rfl rfl
    · rw [Runs.transition, called, failed]
      exact Counts.rfl_of fun id generation same => by cases same

theorem StreamStep.dropped {call : CloseCall} {streamId : String} {stream : StreamTable}
    (found : cache.streamMap.lookup streamId = some stream)
    (event : observeStream (Runs.transition closeStep cache call) = .dropped streamId)
    (streams : (closeStep cache call).2.streamMap = cache.streamMap.erase streamId)
    (counter : (closeStep cache call).2.streamCloseGeneration = cache.streamCloseGeneration) :
    StreamStep past cache call := by
  rw [StreamStep, event, streams, counter, lanes_erase]
  exact ⟨Moves.dropped (lanes_of_lookup StreamTable.lane found),
    Counts.rfl_of fun id generation same => by cases same⟩

/-- Completing and forcing a close are one removal. -/
theorem streamCloseRemove_step {call : CloseCall} (streamId : String) (generation : UInt64)
    (called : closeStep cache call = (.info (cache.streamCloseRemove streamId generation).1,
      (cache.streamCloseRemove streamId generation).2))
    (seen : ∀ info next, observeStream ⟨cache, call, .info (some info), next⟩ = .dropped streamId)
    (unseen : observeStream ⟨cache, call, .info none, cache⟩ = .quiet) :
    StreamStep past cache call := by
  rcases cache.streamCloseRemove_cases streamId generation with
    refused | ⟨stream, info, found, _, told, streams, _, counter, _⟩
  · refine StreamStep.quiet ?_ (by rw [called, refused]) (by rw [called, refused])
    rw [Runs.transition, called, refused]
    exact unseen
  · refine StreamStep.dropped found ?_ (by rw [called, streams]) (by rw [called, counter])
    rw [Runs.transition, called, told]
    exact seen info _

theorem streamTerminatedByCallId_step (callId : String) :
    StreamStep past cache (.streamTerminatedByCallId callId) := by
  have called : closeStep cache (.streamTerminatedByCallId callId) =
      (.info (cache.streamTerminatedByCallId callId).1,
        (cache.streamTerminatedByCallId callId).2) := rfl
  rcases cache.streamTerminatedByCallId_cases callId with
    refused | ⟨stream, info, found, told, streams, _, counter, _⟩
  · refine StreamStep.quiet ?_ (by rw [called, refused]) (by rw [called, refused])
    rw [Runs.transition, called, refused]
    rfl
  · refine StreamStep.dropped found ?_ (by rw [called, streams]) (by rw [called, counter])
    rw [Runs.transition, called, told]
    rfl

end Streams

section Talks

variable {cache : Cache} {past : List (Event String UInt64)}

theorem talkCloseBegin_cases (cache : Cache) (talkId : String) :
    cache.talkCloseBegin talkId = (none, cache) ∨
      (∃ talk, cache.talkMap.lookup talkId = some talk ∧ talk.closingGeneration = none ∧
        cache.talkCloseBegin talkId =
          (some ⟨cache.talkCloseGeneration, talk.deviceId, true⟩,
            { cache with
              talkMap := cache.talkMap.insert talkId
                { talk with
                  closingGeneration := some cache.talkCloseGeneration
                  byeInflightSeq := none
                  closeLastError := none }
              talkCloseGeneration := cache.talkCloseGeneration + 1 })) ∨
      ∃ talk generation, cache.talkMap.lookup talkId = some talk ∧
        talk.closingGeneration = some generation ∧
        cache.talkCloseBegin talkId = (some ⟨generation, talk.deviceId, false⟩, cache) := by
  rw [talkCloseBegin]
  cases found : cache.talkMap.lookup talkId with
  | none => exact Or.inl rfl
  | some talk =>
      cases closing : talk.closingGeneration with
      | none => exact Or.inr (Or.inl ⟨talk, rfl, closing, by simp only [closing]⟩)
      | some generation =>
          exact Or.inr (Or.inr ⟨talk, generation, rfl, closing, by simp only [closing]⟩)

theorem talkCloseTakeBye_cases (cache : Cache) (talkId : String) :
    cache.talkCloseTakeBye talkId = (none, cache) ∨
      ∃ talk generation, cache.talkMap.lookup talkId = some talk ∧
        talk.closingGeneration = some generation ∧ talk.byeInflightSeq = none ∧
        cache.talkCloseTakeBye talkId =
          (some ⟨talkId, generation, talk.deviceId, talk.callId, saturatingSucc32 talk.seq⟩,
            { cache with
              talkMap := cache.talkMap.insert talkId
                { talk with
                  seq := saturatingSucc32 talk.seq
                  byeInflightSeq := some (saturatingSucc32 talk.seq) } }) := by
  rw [talkCloseTakeBye]
  cases found : cache.talkMap.lookup talkId with
  | none => exact Or.inl rfl
  | some talk =>
      cases closing : talk.closingGeneration with
      | none => exact Or.inl (by simp only [closing])
      | some generation =>
          cases inflight : talk.byeInflightSeq with
          | some seq => exact Or.inl (by simp only [closing, inflight])
          | none =>
              exact Or.inr ⟨talk, generation, rfl, closing, inflight,
                by simp only [closing, inflight]⟩

theorem talkCloseMarkFailed_cases (cache : Cache) (talkId : String) (generation : UInt64)
    (seq : UInt32) (reason : String) :
    cache.talkCloseMarkFailed talkId generation seq reason = (false, cache) ∨
      ∃ talk, cache.talkMap.lookup talkId = some talk ∧
        talk.closingGeneration = some generation ∧ talk.byeInflightSeq = some seq ∧
        cache.talkCloseMarkFailed talkId generation seq reason =
          (true, { cache with
            talkMap := cache.talkMap.insert talkId
              { talk with byeInflightSeq := none, closeLastError := some reason } }) := by
  rw [talkCloseMarkFailed]
  cases found : cache.talkMap.lookup talkId with
  | none => exact Or.inl rfl
  | some talk =>
      by_cases named : talk.closingGeneration = some generation ∧ talk.byeInflightSeq = some seq
      · exact Or.inr ⟨talk, rfl, named.1, named.2, by simp only [named.1, named.2, and_self, if_true]⟩
      · exact Or.inl (by simp only [named, if_false])

theorem talkCloseComplete_cases (cache : Cache) (talkId : String) (generation : UInt64) :
    cache.talkCloseComplete talkId generation = (none, cache) ∨
      ∃ talk info, cache.talkMap.lookup talkId = some talk ∧
        talk.closingGeneration = some generation ∧
        cache.talkCloseComplete talkId generation =
          (some info, { cache with talkMap := cache.talkMap.erase talkId }) := by
  rw [talkCloseComplete]
  cases found : cache.talkMap.lookup talkId with
  | none => exact Or.inl rfl
  | some talk =>
      by_cases named : talk.closingGeneration = some generation
      · exact Or.inr ⟨talk, _, rfl, named, by simp only [named, if_true]; rfl⟩
      · exact Or.inl (by simp only [named, if_false])

theorem talkMapRemoveByCallId_cases (cache : Cache) (callId : String) :
    cache.talkMapRemoveByCallId callId = (none, cache) ∨
      ∃ talkId talk, cache.talkMap.lookup talkId = some talk ∧ talk.callId = callId ∧
        cache.talkMapRemoveByCallId callId =
          (some talk, { cache with talkMap := cache.talkMap.erase talkId }) := by
  rw [talkMapRemoveByCallId]
  cases cache.talkIdByCallId callId with
  | none => exact Or.inl rfl
  | some talkId =>
      dsimp only
      cases found : cache.talkMap.lookup talkId with
      | none => exact Or.inl rfl
      | some talk =>
          by_cases same : talk.callId = callId
          · exact Or.inr ⟨talkId, talk, found, same, by simp only [same, if_true]⟩
          · exact Or.inl (by simp only [same, if_false])

/-- What a call does to the talks, as the ledger sees it. -/
def TalkStep (past : List (Event String UInt64)) (cache : Cache) (call : CloseCall) : Prop :=
  LedgerStep past (lanes TalkSessionState.lane cache.talkMap)
    (lanes TalkSessionState.lane (closeStep cache call).2.talkMap) cache.talkCloseGeneration
    (closeStep cache call).2.talkCloseGeneration call.beginsTalk
    (observeTalk (Runs.transition closeStep cache call))

theorem TalkStep.quiet {call : CloseCall}
    (event : observeTalk (Runs.transition closeStep cache call) = .quiet)
    (talks : (closeStep cache call).2.talkMap = cache.talkMap)
    (counter : (closeStep cache call).2.talkCloseGeneration = cache.talkCloseGeneration) :
    TalkStep past cache call := by
  rw [TalkStep, event, talks, counter]
  exact LedgerStep.quiet

theorem TalkStep.dropped {call : CloseCall} {talkId : String} {talk : TalkSessionState}
    (found : cache.talkMap.lookup talkId = some talk)
    (event : observeTalk (Runs.transition closeStep cache call) = .dropped talkId)
    (talks : (closeStep cache call).2.talkMap = cache.talkMap.erase talkId)
    (counter : (closeStep cache call).2.talkCloseGeneration = cache.talkCloseGeneration) :
    TalkStep past cache call := by
  rw [TalkStep, event, talks, counter, lanes_erase]
  exact ⟨Moves.dropped (lanes_of_lookup TalkSessionState.lane found),
    Counts.rfl_of fun id generation same => by cases same⟩

theorem talkMapInsert_step (talkId deviceId channelId : String) (ssrc : UInt32)
    (streamNodeName callId : String) (seq : UInt32) (restored : Bool) :
    TalkStep past cache
      (.talkMapInsert talkId deviceId channelId ssrc streamNodeName callId seq restored) := by
  have called : closeStep cache (.talkMapInsert talkId deviceId channelId ssrc streamNodeName
      callId seq restored) =
      (.changed (cache.talkMapInsert (playingTalk talkId deviceId channelId ssrc streamNodeName
        callId seq restored)).1, (cache.talkMapInsert (playingTalk talkId deviceId channelId ssrc
        streamNodeName callId seq restored)).2) := rfl
  cases found : cache.talkMap.lookup talkId with
  | some talk =>
      have refused : cache.talkMapInsert (playingTalk talkId deviceId channelId ssrc
          streamNodeName callId seq restored) = (false, cache) := by
        simp only [talkMapInsert, playingTalk, found]
      refine TalkStep.quiet ?_ (by rw [called, refused]) (by rw [called, refused])
      rw [Runs.transition, called, refused]
      rfl
  | none =>
      have inserted : cache.talkMapInsert (playingTalk talkId deviceId channelId ssrc
          streamNodeName callId seq restored) = (true, { cache with
            talkMap := cache.talkMap.insert talkId (playingTalk talkId deviceId channelId ssrc
              streamNodeName callId seq restored) }) := by
        simp only [talkMapInsert, playingTalk, found]
      have free : lanes TalkSessionState.lane cache.talkMap talkId = none := by
        rw [lanes, found]
        rfl
      constructor
      · rw [Runs.transition, called, inserted]
        dsimp only
        rw [lanes_insert]
        exact Moves.opened free
      · rw [Runs.transition, called, inserted]
        exact Counts.rfl_of fun id generation same => by cases same

theorem talkCloseBegin_step (talkId : String) (fresh : cache.talkCloseGeneration ∉ issuedIn past)
    (known : ∀ id talk generation, cache.talkMap.lookup id = some talk →
      talk.closingGeneration = some generation → generation ∈ issuedIn past) :
    TalkStep past cache (.talkCloseBegin talkId) := by
  have called : closeStep cache (.talkCloseBegin talkId) =
      (.start (cache.talkCloseBegin talkId).1, (cache.talkCloseBegin talkId).2) := rfl
  rcases cache.talkCloseBegin_cases talkId with
    absent | ⟨talk, found, playing, begun⟩ | ⟨talk, generation, found, closing, begun⟩
  · refine TalkStep.quiet ?_ (by rw [called, absent]) (by rw [called, absent])
    rw [Runs.transition, called, absent]
    rfl
  · constructor
    · rw [Runs.transition, called, begun]
      dsimp only
      rw [lanes_insert]
      exact Moves.first (lanes_of_lookup TalkSessionState.lane found) playing fresh
    · rw [Runs.transition, called, begun]
      refine ⟨fun id generation same => ?_, Or.inr ⟨rfl, rfl⟩⟩
      cases same
      exact Or.inr ⟨rfl, rfl⟩
  · constructor
    · rw [Runs.transition, called, begun]
      exact Moves.again (lanes_of_lookup TalkSessionState.lane found) closing
    · rw [Runs.transition, called, begun]
      refine ⟨fun id named same => ?_, Or.inl rfl⟩
      cases same
      exact Or.inl (known talkId talk generation found closing)

theorem talkCloseTakeBye_step (talkId : String)
    (below : SeqBelow cache (.talkCloseTakeBye talkId)) :
    TalkStep past cache (.talkCloseTakeBye talkId) := by
  have called : closeStep cache (.talkCloseTakeBye talkId) =
      (.bye (cache.talkCloseTakeBye talkId).1, (cache.talkCloseTakeBye talkId).2) := rfl
  rcases cache.talkCloseTakeBye_cases talkId with
    refused | ⟨talk, generation, found, closing, ready, taken⟩
  · refine TalkStep.quiet ?_ (by rw [called, refused]) (by rw [called, refused])
    rw [Runs.transition, called, refused]
    rfl
  · have held := lanes_of_lookup TalkSessionState.lane found
    have idle : talk.lane.inflight = none := by
      rw [TalkSessionState.lane, ready]
      rfl
    constructor
    · rw [Runs.transition, called, taken]
      dsimp only
      rw [lanes_insert, TalkSessionState.lane, closing]
      exact Moves.handed held closing idle (toNat_saturatingSucc32 (below talk found))
    · rw [Runs.transition, called, taken]
      exact Counts.rfl_of fun id generation same => by cases same

theorem talkCloseMarkFailed_step (talkId : String) (generation : UInt64) (seq : UInt32)
    (reason : String) :
    TalkStep past cache (.talkCloseMarkFailed talkId generation seq reason) := by
  have called : closeStep cache (.talkCloseMarkFailed talkId generation seq reason) =
      (.changed (cache.talkCloseMarkFailed talkId generation seq reason).1,
        (cache.talkCloseMarkFailed talkId generation seq reason).2) := rfl
  rcases cache.talkCloseMarkFailed_cases talkId generation seq reason with
    refused | ⟨talk, found, closing, pending, failed⟩
  · refine TalkStep.quiet ?_ (by rw [called, refused]) (by rw [called, refused])
    rw [Runs.transition, called, refused]
    rfl
  · have held := lanes_of_lookup TalkSessionState.lane found
    have inflight : talk.lane.inflight = some seq.toNat := by
      rw [TalkSessionState.lane, pending]
      rfl
    constructor
    · rw [Runs.transition, called, failed]
      dsimp only
      rw [lanes_insert, TalkSessionState.lane, closing]
      exact Moves.failed held closing inflight
    · rw [Runs.transition, called, failed]
      exact Counts.rfl_of fun id generation same => by cases same

/-- Completing and forcing a close are one removal. -/
theorem talkCloseComplete_step {call : CloseCall} (talkId : String) (generation : UInt64)
    (called : closeStep cache call = (.info (cache.talkCloseComplete talkId generation).1,
      (cache.talkCloseComplete talkId generation).2))
    (seen : ∀ info next, observeTalk ⟨cache, call, .info (some info), next⟩ = .dropped talkId)
    (unseen : observeTalk ⟨cache, call, .info none, cache⟩ = .quiet) :
    TalkStep past cache call := by
  rcases cache.talkCloseComplete_cases talkId generation with
    refused | ⟨talk, info, found, _, removed⟩
  · refine TalkStep.quiet ?_ (by rw [called, refused]) (by rw [called, refused])
    rw [Runs.transition, called, refused]
    exact unseen
  · refine TalkStep.dropped found ?_ (by rw [called, removed]) (by rw [called, removed])
    rw [Runs.transition, called, removed]
    exact seen info _

theorem talkMapRemoveByCallId_step (callId : String)
    (keyed : ∀ id talk, cache.talkMap.lookup id = some talk → talk.talkId = id) :
    TalkStep past cache (.talkMapRemoveByCallId callId) := by
  have called : closeStep cache (.talkMapRemoveByCallId callId) =
      (.talk (cache.talkMapRemoveByCallId callId).1,
        (cache.talkMapRemoveByCallId callId).2) := rfl
  rcases cache.talkMapRemoveByCallId_cases callId with
    refused | ⟨talkId, talk, found, _, removed⟩
  · refine TalkStep.quiet ?_ (by rw [called, refused]) (by rw [called, refused])
    rw [Runs.transition, called, refused]
    rfl
  · refine TalkStep.dropped found ?_ (by rw [called, removed]) (by rw [called, removed])
    rw [Runs.transition, called, removed, ← keyed talkId talk found]
    rfl

end Talks

/-! ## Each kind of call leaves the other kind of entry alone -/

/-- Calls about talks. -/
def CloseCall.isTalk : CloseCall → Bool
  | .talkMapInsert .. | .talkCloseBegin _ | .talkCloseTakeBye _ | .talkCloseMarkFailed ..
  | .talkCloseComplete .. | .talkCloseForce .. | .talkMapRemoveByCallId _ => true
  | _ => false

theorem streams_of_talkCall {call : CloseCall} (isTalk : call.isTalk = true) (cache : Cache) :
    (closeStep cache call).2.streamMap = cache.streamMap ∧
      (closeStep cache call).2.streamCloseGeneration = cache.streamCloseGeneration := by
  cases call with
  | talkMapInsert talkId deviceId channelId ssrc streamNodeName callId seq restored =>
      simp only [closeStep, talkMapInsert]
      split <;> exact ⟨rfl, rfl⟩
  | talkCloseBegin talkId =>
      simp only [closeStep]
      rcases cache.talkCloseBegin_cases talkId with
        same | ⟨_, _, _, same⟩ | ⟨_, _, _, _, same⟩ <;> rw [same] <;> exact ⟨rfl, rfl⟩
  | talkCloseTakeBye talkId =>
      simp only [closeStep]
      rcases cache.talkCloseTakeBye_cases talkId with same | ⟨_, _, _, _, _, same⟩ <;>
        rw [same] <;> exact ⟨rfl, rfl⟩
  | talkCloseMarkFailed talkId generation seq reason =>
      simp only [closeStep]
      rcases cache.talkCloseMarkFailed_cases talkId generation seq reason with
        same | ⟨_, _, _, _, same⟩ <;> rw [same] <;> exact ⟨rfl, rfl⟩
  | talkCloseComplete talkId generation | talkCloseForce talkId generation =>
      simp only [closeStep, talkCloseForce]
      rcases cache.talkCloseComplete_cases talkId generation with same | ⟨_, _, _, _, same⟩ <;>
        rw [same] <;> exact ⟨rfl, rfl⟩
  | talkMapRemoveByCallId callId =>
      simp only [closeStep]
      rcases cache.talkMapRemoveByCallId_cases callId with same | ⟨_, _, _, _, same⟩ <;>
        rw [same] <;> exact ⟨rfl, rfl⟩
  | _ => cases isTalk

theorem talks_of_streamCall {call : CloseCall} (isStream : call.isTalk = false) (cache : Cache) :
    (closeStep cache call).2.talkMap = cache.talkMap ∧
      (closeStep cache call).2.talkCloseGeneration = cache.talkCloseGeneration := by
  cases call with
  | streamMapInsert streamId deviceId channelId ssrc proxyAddr streamNodeName callId seq am
      restored =>
      simp only [closeStep, streamMapInsert]
      split <;> exact ⟨rfl, rfl⟩
  | streamCloseBegin streamId =>
      simp only [closeStep]
      rcases cache.streamCloseBegin_cases streamId with
        same | ⟨_, _, _, same⟩ | ⟨_, _, _, _, same⟩ <;> rw [same] <;> exact ⟨rfl, rfl⟩
  | streamCloseTakeBye streamId =>
      simp only [closeStep]
      rcases cache.streamCloseTakeBye_cases streamId with same | ⟨_, _, _, _, _, same⟩ <;>
        rw [same] <;> exact ⟨rfl, rfl⟩
  | streamCloseMarkFailed streamId generation seq reason =>
      simp only [closeStep]
      rcases cache.streamCloseMarkFailed_cases streamId generation seq reason with
        same | ⟨_, _, _, _, same⟩ <;> rw [same] <;> exact ⟨rfl, rfl⟩
  | streamCloseComplete streamId generation | streamCloseForce streamId generation =>
      simp only [closeStep, streamCloseComplete, streamCloseForce]
      rcases cache.streamCloseRemove_cases streamId generation with
        same | ⟨_, _, _, _, _, _, talks, _, counter⟩
      · rw [same]
        exact ⟨rfl, rfl⟩
      · exact ⟨talks, counter⟩
  | streamTerminatedByCallId callId =>
      simp only [closeStep]
      rcases cache.streamTerminatedByCallId_cases callId with
        same | ⟨_, _, _, _, _, talks, _, counter⟩
      · rw [same]
        exact ⟨rfl, rfl⟩
      · exact ⟨talks, counter⟩
  | _ => cases isStream

/-! ## The books of a run -/

def streamBegins (run : List CloseTransition) : Nat :=
  run.countP fun entry => entry.action.beginsStream

def talkBegins (run : List CloseTransition) : Nat :=
  run.countP fun entry => entry.action.beginsTalk

/-- The books balance with the cache, and the counters number the closes. -/
structure Books (past : List CloseTransition) (cache : Cache) : Prop where
  streams : Balanced (past.map observeStream) (lanes StreamTable.lane cache.streamMap)
  talks : Balanced (past.map observeTalk) (lanes TalkSessionState.lane cache.talkMap)
  streamNumbers : Numbered (streamBegins past) cache.streamCloseGeneration
    (issuedIn (past.map observeStream))
  talkNumbers : Numbered (talkBegins past) cache.talkCloseGeneration
    (issuedIn (past.map observeTalk))
  keyed : ∀ id talk, cache.talkMap.lookup id = some talk → talk.talkId = id

theorem books_init : Books [] init where
  streams := balanced_nil
  talks := balanced_nil
  streamNumbers := ⟨0, Nat.le_refl 0, rfl, fun _ member => by cases member⟩
  talkNumbers := ⟨0, Nat.le_refl 0, rfl, fun _ member => by cases member⟩
  keyed _ _ found := by cases found

section Steps

variable {past : List CloseTransition} {cache : Cache}

theorem Books.stream_step (books : Books past cache) (call : CloseCall)
    (below : SeqBelow cache call)
    (few : call.beginsStream = true → streamBegins past < 18446744073709551616) :
    StreamStep (past.map observeStream) cache call := by
  have known : ∀ id stream generation, cache.streamMap.lookup id = some stream →
      stream.closingGeneration = some generation →
      generation ∈ issuedIn (past.map observeStream) := by
    intro id stream generation found closing
    exact books.streams.issued id stream.lane generation (lanes_of_lookup StreamTable.lane found)
      (stream.lane_generation.trans closing)
  by_cases isTalk : call.isTalk = true
  · obtain ⟨streams, counter⟩ := streams_of_talkCall isTalk cache
    refine StreamStep.quiet ?_ streams counter
    cases call <;> first | rfl | cases isTalk
  · cases call with
    | streamMapInsert streamId deviceId channelId ssrc proxyAddr streamNodeName callId seq am
        restored =>
        exact streamMapInsert_step streamId deviceId channelId ssrc proxyAddr streamNodeName callId
          seq am restored
    | streamCloseBegin streamId =>
        exact streamCloseBegin_step streamId (books.streamNumbers.fresh (few rfl)) known
    | streamCloseTakeBye streamId => exact streamCloseTakeBye_step streamId below
    | streamCloseMarkFailed streamId generation seq reason =>
        exact streamCloseMarkFailed_step streamId generation seq reason
    | streamCloseComplete streamId generation =>
        exact streamCloseRemove_step streamId generation rfl (fun _ _ => rfl) rfl
    | streamCloseForce streamId generation =>
        exact streamCloseRemove_step streamId generation rfl (fun _ _ => rfl) rfl
    | streamTerminatedByCallId callId => exact streamTerminatedByCallId_step callId
    | _ => exact absurd rfl isTalk

theorem Books.talk_step (books : Books past cache) (call : CloseCall)
    (below : SeqBelow cache call)
    (few : call.beginsTalk = true → talkBegins past < 18446744073709551616) :
    TalkStep (past.map observeTalk) cache call := by
  have known : ∀ id talk generation, cache.talkMap.lookup id = some talk →
      talk.closingGeneration = some generation →
      generation ∈ issuedIn (past.map observeTalk) := by
    intro id talk generation found closing
    exact books.talks.issued id talk.lane generation
      (lanes_of_lookup TalkSessionState.lane found) closing
  by_cases isStream : call.isTalk = false
  · obtain ⟨talks, counter⟩ := talks_of_streamCall isStream cache
    refine TalkStep.quiet ?_ talks counter
    cases call <;> first | rfl | cases isStream
  · cases call with
    | talkMapInsert talkId deviceId channelId ssrc streamNodeName callId seq restored =>
        exact talkMapInsert_step talkId deviceId channelId ssrc streamNodeName callId seq restored
    | talkCloseBegin talkId =>
        exact talkCloseBegin_step talkId (books.talkNumbers.fresh (few rfl)) known
    | talkCloseTakeBye talkId => exact talkCloseTakeBye_step talkId below
    | talkCloseMarkFailed talkId generation seq reason =>
        exact talkCloseMarkFailed_step talkId generation seq reason
    | talkCloseComplete talkId generation =>
        exact talkCloseComplete_step talkId generation rfl (fun _ _ => rfl) rfl
    | talkCloseForce talkId generation =>
        exact talkCloseComplete_step talkId generation rfl (fun _ _ => rfl) rfl
    | talkMapRemoveByCallId callId => exact talkMapRemoveByCallId_step callId books.keyed
    | _ => exact absurd rfl isStream

theorem keyed_step (keyed : ∀ id talk, cache.talkMap.lookup id = some talk → talk.talkId = id)
    (call : CloseCall) :
    ∀ id talk, (closeStep cache call).2.talkMap.lookup id = some talk → talk.talkId = id := by
  have inserted : ∀ (key : String) (entry : TalkSessionState), entry.talkId = key →
      ∀ id talk, (cache.talkMap.insert key entry).lookup id = some talk → talk.talkId = id := by
    intro key entry named id talk found
    by_cases same : id = key
    · rw [same, AList.lookup_insert] at found
      cases found
      rw [same]
      exact named
    · rw [AList.lookup_insert_ne same] at found
      exact keyed id talk found
  have erased : ∀ key id talk, (cache.talkMap.erase key).lookup id = some talk →
      talk.talkId = id := by
    intro key id talk found
    by_cases same : id = key
    · rw [same, AList.lookup_erase] at found
      cases found
    · rw [AList.lookup_erase_ne same] at found
      exact keyed id talk found
  by_cases isStream : call.isTalk = false
  · rw [(talks_of_streamCall isStream cache).1]
    exact keyed
  · cases call with
    | talkMapInsert talkId deviceId channelId ssrc streamNodeName callId seq restored =>
        simp only [closeStep, talkMapInsert]
        split
        · exact keyed
        · exact inserted _ _ rfl
    | talkCloseBegin talkId =>
        simp only [closeStep]
        rcases cache.talkCloseBegin_cases talkId with
          same | ⟨talk, found, _, same⟩ | ⟨_, _, _, _, same⟩ <;> rw [same]
        · exact keyed
        · exact inserted _ _ (keyed talkId talk found)
        · exact keyed
    | talkCloseTakeBye talkId =>
        simp only [closeStep]
        rcases cache.talkCloseTakeBye_cases talkId with
          same | ⟨talk, _, found, _, _, same⟩ <;> rw [same]
        · exact keyed
        · exact inserted _ _ (keyed talkId talk found)
    | talkCloseMarkFailed talkId generation seq reason =>
        simp only [closeStep]
        rcases cache.talkCloseMarkFailed_cases talkId generation seq reason with
          same | ⟨talk, found, _, _, same⟩ <;> rw [same]
        · exact keyed
        · exact inserted _ _ (keyed talkId talk found)
    | talkCloseComplete talkId generation | talkCloseForce talkId generation =>
        simp only [closeStep, talkCloseForce]
        rcases cache.talkCloseComplete_cases talkId generation with same | ⟨_, _, _, _, same⟩ <;>
          rw [same]
        · exact keyed
        · exact erased talkId
    | talkMapRemoveByCallId callId =>
        simp only [closeStep]
        rcases cache.talkMapRemoveByCallId_cases callId with same | ⟨talkId, _, _, _, same⟩ <;>
          rw [same]
        · exact keyed
        · exact erased talkId
    | _ => exact absurd rfl isStream

theorem streamBegins_concat (entry : CloseTransition) :
    streamBegins (past ++ [entry]) = streamBegins past + entry.action.beginsStream.toNat := by
  rw [streamBegins, List.countP_append, List.countP_singleton, streamBegins]
  cases entry.action.beginsStream <;> rfl

theorem talkBegins_concat (entry : CloseTransition) :
    talkBegins (past ++ [entry]) = talkBegins past + entry.action.beginsTalk.toNat := by
  rw [talkBegins, List.countP_append, List.countP_singleton, talkBegins]
  cases entry.action.beginsTalk <;> rfl

theorem Books.step (books : Books past cache) (call : CloseCall) (below : SeqBelow cache call)
    (streams : call.beginsStream = true → streamBegins past < 18446744073709551616)
    (talks : call.beginsTalk = true → talkBegins past < 18446744073709551616) :
    Books (past ++ [Runs.transition closeStep cache call]) (closeStep cache call).2 := by
  have streamStep := books.stream_step call below streams
  have talkStep := books.talk_step call below talks
  refine ⟨?_, ?_, ?_, ?_, keyed_step books.keyed call⟩
  · rw [List.map_append]
    exact books.streams.moves streamStep.moves
  · rw [List.map_append]
    exact books.talks.moves talkStep.moves
  · rw [List.map_append, streamBegins_concat]
    exact books.streamNumbers.step streamStep.counts
  · rw [List.map_append, talkBegins_concat]
    exact books.talkNumbers.step talkStep.counts

/-- A call that names a generation of an earlier life finds no stream that closes
under it. -/
theorem Books.stale_stream (books : Books past cache) {call : CloseCall} {streamId : String}
    {generation : UInt64} (names : call.NamesStream streamId generation)
    (retired : generation ∈ (logOf streamId (past.map observeStream)).retired) :
    (closeStep cache call).2 = cache := by
  have gone : ∀ stream, cache.streamMap.lookup streamId = some stream →
      stream.closingGeneration ≠ some generation := by
    intro stream found
    rw [← stream.lane_generation]
    exact books.streams.retiredGone streamId generation retired streamId stream.lane
      (lanes_of_lookup StreamTable.lane found)
  cases call with
  | streamCloseMarkFailed id named seq reason =>
      obtain ⟨rfl, rfl⟩ := names
      simp only [closeStep]
      rcases cache.streamCloseMarkFailed_cases id named seq reason with
        same | ⟨stream, lastError, found, lifecycle, _⟩
      · rw [same]
      · refine absurd ?_ (gone stream found)
        rw [StreamTable.closingGeneration, lifecycle]
  | streamCloseComplete id named | streamCloseForce id named =>
      obtain ⟨rfl, rfl⟩ := names
      simp only [closeStep, streamCloseComplete, streamCloseForce]
      rcases cache.streamCloseRemove_cases id named with same | ⟨stream, _, found, closing, _⟩
      · rw [same]
      · exact absurd closing (gone stream found)
  | _ => exact names.elim

theorem Books.stale_talk (books : Books past cache) {call : CloseCall} {talkId : String}
    {generation : UInt64} (names : call.NamesTalk talkId generation)
    (retired : generation ∈ (logOf talkId (past.map observeTalk)).retired) :
    (closeStep cache call).2 = cache := by
  have gone : ∀ talk, cache.talkMap.lookup talkId = some talk →
      talk.closingGeneration ≠ some generation := by
    intro talk found
    exact books.talks.retiredGone talkId generation retired talkId talk.lane
      (lanes_of_lookup TalkSessionState.lane found)
  cases call with
  | talkCloseMarkFailed id named seq reason =>
      obtain ⟨rfl, rfl⟩ := names
      simp only [closeStep]
      rcases cache.talkCloseMarkFailed_cases id named seq reason with
        same | ⟨talk, found, closing, _, _⟩
      · rw [same]
      · exact absurd closing (gone talk found)
  | talkCloseComplete id named | talkCloseForce id named =>
      obtain ⟨rfl, rfl⟩ := names
      simp only [closeStep, talkCloseForce]
      rcases cache.talkCloseComplete_cases id named with same | ⟨talk, _, found, closing, _⟩
      · rw [same]
      · exact absurd closing (gone talk found)
  | _ => exact names.elim

end Steps

/-! ## Every run -/

theorem streamBegins_run (cache : Cache) (calls : List CloseCall) :
    streamBegins (Runs.run closeStep cache calls) = calls.countP CloseCall.beginsStream :=
  Runs.countP_action_run closeStep CloseCall.beginsStream cache calls

theorem talkBegins_run (cache : Cache) (calls : List CloseCall) :
    talkBegins (Runs.run closeStep cache calls) = calls.countP CloseCall.beginsTalk :=
  Runs.countP_action_run closeStep CloseCall.beginsTalk cache calls

/-- The books, as long as neither counter has come around. -/
def BooksWithin (past : List CloseTransition) (cache : Cache) : Prop :=
  streamBegins past ≤ 18446744073709551616 → talkBegins past ≤ 18446744073709551616 →
    Books past cache

theorem BooksWithin.step (past : List CloseTransition) (cache : Cache) (call : CloseCall)
    (books : BooksWithin past cache) (below : SeqBelow cache call) :
    BooksWithin (past ++ [Runs.transition closeStep cache call]) (closeStep cache call).2 := by
  intro streams talks
  rw [streamBegins_concat] at streams
  rw [talkBegins_concat] at talks
  refine (books (by omega) (by omega)).step call below ?_ ?_
  · intro begins
    rw [Runs.transition, begins] at streams
    exact streams
  · intro begins
    rw [Runs.transition, begins] at talks
    exact talks

/-- Every run of the close operations follows the protocol, as long as a BYE is taken
from an entry whose sequence number has a successor and the closes of each kind are no
more than the generations. -/
theorem closeProtocol_run (calls : List CloseCall)
    (below : ∀ entry ∈ Runs.run closeStep init calls, SeqBelow entry.before entry.action)
    (streams : calls.countP CloseCall.beginsStream ≤ 18446744073709551616)
    (talks : calls.countP CloseCall.beginsTalk ≤ 18446744073709551616) :
    CloseProtocol (Runs.run closeStep init calls) := by
  have few : ∀ first second, Runs.run closeStep init calls = first ++ second →
      streamBegins first ≤ 18446744073709551616 ∧ talkBegins first ≤ 18446744073709551616 := by
    intro first second split
    rw [← streamBegins_run init, split, streamBegins, List.countP_append] at streams
    rw [← talkBegins_run init, split, talkBegins, List.countP_append] at talks
    exact ⟨Nat.le_trans (Nat.le_add_right _ _) streams,
      Nat.le_trans (Nat.le_add_right _ _) talks⟩
  have start : BooksWithin [] init := fun _ _ => books_init
  have before : ∀ first entry second, Runs.run closeStep init calls = first ++ entry :: second →
      Books first entry.before := by
    intro first entry second split
    obtain ⟨fewStreams, fewTalks⟩ := few first (entry :: second) split
    exact Runs.history_run BooksWithin SeqBelow BooksWithin.step start below split
      fewStreams fewTalks
  have books : ∀ first second, Runs.run closeStep init calls = first ++ second →
      ∃ cache, Books first cache := by
    intro first second split
    cases second with
    | nil =>
        obtain ⟨fewStreams, fewTalks⟩ := few first [] split
        rw [List.append_nil] at split
        have whole := Runs.history_final BooksWithin SeqBelow BooksWithin.step start below
        rw [List.nil_append, split] at whole
        exact ⟨_, whole fewStreams fewTalks⟩
    | cons entry rest => exact ⟨entry.before, before first entry rest split⟩
  refine ⟨?_, ?_, ?_, ?_⟩
  · intro first second split
    obtain ⟨cache, kept⟩ := books first second split
    exact kept.streams.accounted
  · intro first second split
    obtain ⟨cache, kept⟩ := books first second split
    exact kept.talks.accounted
  · intro first entry second split streamId generation names retired
    have member : entry ∈ Runs.run closeStep init calls := by
      rw [split]
      exact List.mem_append_right first (List.mem_cons_self ..)
    have same := (before first entry second split).stale_stream names retired
    rw [Runs.mem_run member]
    exact same
  · intro first entry second split talkId generation names retired
    have member : entry ∈ Runs.run closeStep init calls := by
      rw [split]
      exact List.mem_append_right first (List.mem_cons_self ..)
    have same := (before first entry second split).stale_talk names retired
    rw [Runs.mem_run member]
    exact same

/-- A stream of one device. -/
def openStream (streamId : String) : CloseCall :=
  .streamMapInsert streamId "34020000001320000001" "34020000001320000001" 7 "" "node" "call" 20
    .live false

/-- Two lives of one stream, a failed BYE in the first of them, and a late deadline. -/
def twoLives : List CloseCall :=
  [openStream "a", .streamCloseBegin "a", .streamCloseTakeBye "a",
    .streamCloseMarkFailed "a" 1 21 "timeout", .streamCloseTakeBye "a", .streamCloseComplete "a" 1,
    openStream "a", .streamCloseBegin "a", .streamCloseForce "a" 1, .streamCloseTakeBye "a"]

theorem closeProtocol_run_twoLives : CloseProtocol (Runs.run closeStep init twoLives) :=
  closeProtocol_run twoLives (by decide +kernel) (by decide) (by decide)

/-- Closing a closing stream over and over moves the counter and nothing else. -/
theorem final_replicate_begin {streamId : String} {stream : StreamTable}
    (closing : stream.isClosing = true) (times : Nat) :
    ∀ cache : Cache, cache.streamMap.lookup streamId = some stream →
      (∀ id, (Runs.final closeStep cache
        (List.replicate times (.streamCloseBegin streamId))).streamMap.lookup id =
          cache.streamMap.lookup id) ∧
      (Runs.final closeStep cache
        (List.replicate times (.streamCloseBegin streamId))).streamCloseGeneration =
          cache.streamCloseGeneration + UInt64.ofNat times := by
  induction times with
  | zero =>
      intro cache _
      exact ⟨fun _ => rfl, (UInt64.add_zero _).symm⟩
  | succ times ih =>
      intro cache found
      rw [List.replicate_succ, Runs.final_cons]
      rcases cache.streamCloseBegin_cases streamId with
        absent | ⟨other, isOther, playing, _⟩ | ⟨other, named, isOther, _, begun⟩
      · rw [streamCloseBegin, found] at absent
        have counter := congrArg (fun pair => pair.2.streamCloseGeneration) absent
        exact absurd counter (by simp)
      · rw [found] at isOther
        cases isOther
        rw [StreamTable.isClosing, StreamTable.closingGeneration, playing] at closing
        cases closing
      · rw [found] at isOther
        cases isOther
        have next : (closeStep cache (.streamCloseBegin streamId)).2 =
            { cache with
              streamMap := cache.streamMap.insert streamId stream
              streamCloseGeneration := cache.streamCloseGeneration + 1 } := by
          simp only [closeStep, begun]
        have kept : ∀ id, (cache.streamMap.insert streamId stream).lookup id =
            cache.streamMap.lookup id := by
          intro id
          by_cases same : id = streamId
          · rw [same, AList.lookup_insert, found]
          · rw [AList.lookup_insert_ne same]
        have still : (closeStep cache (.streamCloseBegin streamId)).2.streamMap.lookup streamId =
            some stream := by
          rw [next]
          exact (kept streamId).trans found
        obtain ⟨lookups, counter⟩ := ih _ still
        refine ⟨fun id => (lookups id).trans ?_, counter.trans ?_⟩
        · rw [next]
          exact kept id
        · rw [next, UInt64.ofNat_add, UInt64.ofNat_one, UInt64.add_assoc,
            UInt64.add_comm 1]

/-- A life of stream `a`, which ends by its deadline while stream `b` goes on. -/
def firstLife : List CloseCall :=
  [openStream "b", openStream "a", .streamCloseBegin "a", .streamCloseTakeBye "a",
    .streamCloseForce "a" 1, .streamCloseBegin "b"]

/-- The next life of stream `a`. -/
def nextLife : List CloseCall :=
  [openStream "a", .streamCloseBegin "a", .streamCloseTakeBye "a"]

/-- In a cache whose counter stands at one, the next life hands out the BYE that the
first life handed out. -/
theorem nextLife_handed {cache : Cache} (free : cache.streamMap.lookup "a" = none)
    (counter : cache.streamCloseGeneration = 1) :
    handedIn ((Runs.run closeStep cache nextLife).map observeStream) = [(1, 21)] ∧
      ∀ entry ∈ Runs.run closeStep cache nextLife, SeqBelow entry.before entry.action := by
  constructor
  · simp [nextLife, openStream, Runs.transition, closeStep, streamMapInsert, free,
      streamCloseBegin, StreamTable.beginClose, StreamTable.closingGeneration, counter,
      streamCloseTakeBye, StreamTable.takeBye, saturatingSucc32, observeStream, handedIn]
  · simp [nextLife, openStream, Runs.transition, closeStep, streamMapInsert, free,
      streamCloseBegin, StreamTable.beginClose, StreamTable.closingGeneration, counter, SeqBelow]

/-- The first life, closes of stream `b` until the counter has come around, and the
next life. -/
def comeAround : List CloseCall :=
  firstLife ++ (List.replicate 18446744073709551614 (.streamCloseBegin "b") ++ nextLife)

/-- A counter that has come around numbers two lives alike: one BYE is handed out twice. -/
theorem comeAround_hands_out_twice :
    (∀ entry ∈ Runs.run closeStep init comeAround, SeqBelow entry.before entry.action) ∧
      ¬ CloseProtocol (Runs.run closeStep init comeAround) := by
  have firstHanded : handedIn ((Runs.run closeStep init firstLife).map observeStream) =
      [(1, 21)] := by decide +kernel
  have isClosing : (Runs.final closeStep init firstLife).streamMap.lookup "b" =
      some ⟨"34020000001320000001", "34020000001320000001", "", "node", "call", 20, .live, 7, false,
        .closing 2 none none⟩ := by decide +kernel
  obtain ⟨lookups, counter⟩ := final_replicate_begin rfl 18446744073709551614
    (Runs.final closeStep init firstLife) isClosing
  have free := (lookups "a").trans
    (show (Runs.final closeStep init firstLife).streamMap.lookup "a" = none by decide +kernel)
  have one := counter.trans
    (show (Runs.final closeStep init firstLife).streamCloseGeneration +
      UInt64.ofNat 18446744073709551614 = 1 by decide +kernel)
  obtain ⟨nextHanded, nextBelow⟩ := nextLife_handed free one
  rw [comeAround, Runs.run_append, Runs.run_append]
  constructor
  · intro entry member
    rcases List.mem_append.mp member with first | later
    · have below : ∀ entry ∈ Runs.run closeStep init firstLife,
          SeqBelow entry.before entry.action := by decide +kernel
      exact below entry first
    · rcases List.mem_append.mp later with repeated | last
      · have isBegin := List.eq_of_mem_replicate (Runs.action_mem repeated)
        rw [isBegin]
        trivial
      · exact nextBelow entry last
  · intro follows
    have unique := (follows.streams _ [] (List.append_nil _).symm).unique
    rw [List.map_append, List.map_append, handedIn, List.filterMap_append, List.filterMap_append,
      ← handedIn, ← handedIn, firstHanded] at unique
    have apart := (List.nodup_append.mp unique).2.2 (1, 21) (List.mem_singleton_self _) (1, 21)
      (List.mem_append_right _ (by
        rw [← handedIn, nextHanded]
        exact List.mem_singleton_self _))
    exact apart rfl

end Cache

end Gmv.Session
