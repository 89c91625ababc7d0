import Gmv.Library.TaskPool
import Gmv.Session.CloseProtocol
import Gmv.Session.DeviceChannel
import Gmv.Session.DialogLoadable

/-!
# Recovery of dialogs

After a restart the active rows of the dialog table are recovered: `recover_dialog`
enters the stream or talk of a row into memory, or writes the row off.  The startup
recovers page by page, and a callback about an unknown stream recovers its row as
well.  The module runs any number of recoveries as tasks over one cache, one table
and one clock, beside other writers of the rows, and tells when a row that has ended
can be left with a restored stream or talk that goes on.
-/

namespace Gmv.Session.DialogRecovery

open Gmv.Library Gmv.Library.TaskPool SipDialogSessionRepository

variable {db : DialogDb}

/-- The id of this node and the media nodes of the configuration. -/
structure Conf where
  domainId : String
  nodeMap : List String
  deriving DecidableEq, Repr

structure UnknownStreamEvent where
  mediaNodeId : String
  ssrc : UInt32
  firstSeenAt : NaiveDateTime
  deriving DecidableEq, Repr

/-- What a recovery is told: whether the media node has the stream or talk online, if it
answers, and whether a UDP device has a session or can be given one. -/
structure Answers where
  online : Option Bool
  udpSession : Bool
  deriving DecidableEq, Repr

inductive Trigger where
  | startup
  | streamUnknown
  deriving DecidableEq, Repr

/-- A run of `recover_dialog` on a session that was read before. -/
structure Run where
  trigger : Trigger
  answers : Answers
  session : SipDialogSession
  deriving DecidableEq, Repr

/-- The two maps of the cache. -/
inductive Kind where
  | stream
  | talk
  deriving DecidableEq, Repr

/-! ## What a recovery decides -/

def accessMode : DialogSessionType → Option AccessMode
  | .live => some .live
  | .playback => some .back
  | .download => some .down
  | .talk => none

/-- What `recover_dialog` sets out to do.  An orphan is reported as recovered or as a
failure. -/
inductive Decision where
  | fail
  | orphan (recovered : Bool)
  | talk (ssrc : UInt32)
  | online (ssrc : UInt32) (am : AccessMode)
  | offline (ssrc : UInt32) (am : AccessMode)
  deriving DecidableEq, Repr

def decideTalk (conf : Conf) (answers : Answers) (session : SipDialogSession) (ssrc : UInt32) :
    Decision :=
  if !conf.nodeMap.contains session.mediaNodeId then .orphan true
  else if session.transport = .udp && !answers.udpSession then .orphan false
  else
    match answers.online with
    | none => .fail
    | some false => .orphan true
    | some true => .talk ssrc

def decideStream (conf : Conf) (answers : Answers) (session : SipDialogSession) (ssrc : UInt32)
    (am : AccessMode) : Decision :=
  if !conf.nodeMap.contains session.mediaNodeId then .orphan true
  else
    match answers.online with
    | none => .fail
    | some mediaOnline =>
        if session.transport = .udp && !answers.udpSession then .orphan false
        else if mediaOnline then .online ssrc am
        else .offline ssrc am

def recoverDialog (conf : Conf) (answers : Answers) (session : SipDialogSession)
    (now : NaiveDateTime) : Decision :=
  if session.expireAt ≤ now ∨ session.state = .inviting ∨ session.transport = .tls then
    .orphan true
  else
    match session.ssrc.bind (DeviceChannel.parseUnsigned 4294967295) with
    | none => .fail
    | some ssrc =>
        match accessMode session.sessionType with
        | none => decideTalk conf answers session (UInt32.ofNat ssrc)
        | some am => decideStream conf answers session (UInt32.ofNat ssrc) am

/-! ## What a recovery enters -/

/-- `u32::try_from(session.local_cseq).unwrap_or(u32::MAX)`. -/
def restoredSeq (session : SipDialogSession) : UInt32 :=
  if 0 ≤ session.localCseq ∧ session.localCseq ≤ 4294967295 then
    UInt32.ofNat session.localCseq.toInt.toNat
  else 4294967295

def restoredTalk (session : SipDialogSession) (ssrc : UInt32) : TalkSessionState where
  talkId := session.streamId
  deviceId := session.deviceId
  channelId := session.channelId
  ssrc := ssrc
  streamNodeName := session.mediaNodeId
  callId := session.callId
  seq := restoredSeq session
  restored := true
  closingGeneration := none
  byeInflightSeq := none
  closeLastError := none

def insertRestored (cache : Cache) (session : SipDialogSession) (ssrc : UInt32) (am : AccessMode) :
    Bool × Cache :=
  cache.streamMapInsertRestored session.streamId session.deviceId session.channelId ssrc
    session.mediaNodeId session.callId (restoredSeq session) am

/-- `format!("{:010}", ssrc)`. -/
def ssrcText (ssrc : UInt32) : String :=
  String.ofList ((Nat.toDigits 10 ssrc.toNat).leftpad 10 '0')

def streamIdsByNodeSsrc (cache : Cache) (nodeName : String) (ssrc : UInt32) : List String :=
  cache.streamMap.entries.filterMap fun entry =>
    if entry.2.streamNodeName = nodeName ∧ entry.2.ssrc = ssrc then some entry.1 else none

/-! ## Tasks -/

structure World (db : DialogDb) where
  cache : Cache
  table : DialogTable db
  now : NaiveDateTime

/-- What a call has still to do, by its next step.  Beside the recoveries there are closes
and removals by others, other writers of rows, and the clock. -/
inductive Task where
  | page (afterStreamId : Option String) (index : Nat) (answers : Answers)
  | hook (event : UnknownStreamEvent) (answers : Answers)
  | find (event : UnknownStreamEvent) (answers : Answers) (now : NaiveDateTime)
  | recover (run : Run)
  | stampOrphan (run : Run) (recovered : Bool)
  | markOrphan (run : Run) (recovered : Bool) (updatedAt : NaiveDateTime)
  | insertTalk (run : Run) (ssrc : UInt32)
  | insertStream (run : Run) (ssrc : UInt32) (am : AccessMode)
  | listStream (run : Run) (am : AccessMode)
  | beginTerminating (run : Run) (ssrc : UInt32) (am : AccessMode) (now : NaiveDateTime)
  | insertClosing (run : Run) (ssrc : UInt32) (am : AccessMode)
  | closing (run : Run) (kind : Kind)
  | trailing (run : Run)
  | close (kind : Kind) (id : String)
  | remove (kind : Kind) (id : String) (generation : UInt64)
  | write (call : Call)
  | wait (elapsed : Nat)

/-- The callback closes the stream that it has recovered. -/
def returned (run : Run) : Option Task :=
  match run.trigger with
  | .startup => none
  | .streamUnknown => some (.trailing run)

/-- The update of a row that `mark_orphan` asks for. -/
def orphanCall (session : SipDialogSession) (updatedAt : NaiveDateTime) : Call :=
  .casTransition session.streamId session.signalNodeId session.version session.state .orphan
    updatedAt

/-- The update of a row whose media is offline. -/
def terminatingCall (session : SipDialogSession) (now : NaiveDateTime) : Call :=
  .casTransition session.streamId session.signalNodeId session.version .established .terminating
    now

def closeBegin (cache : Cache) (id : String) : Kind → Cache
  | .stream => (cache.streamCloseBegin id).2
  | .talk => (cache.talkCloseBegin id).2

def closeComplete (cache : Cache) (id : String) (generation : UInt64) : Kind → Cache
  | .stream => (cache.streamCloseComplete id generation).2
  | .talk => (cache.talkCloseComplete id generation).2

/-- The session at an index of a page of the startup. -/
def pagedSession (conf : Conf) (table : DialogTable db) (afterStreamId : Option String)
    (index : Nat) : Option SipDialogSession :=
  match pageOwnedByStates conf.domainId [.inviting, .established, .terminating] afterStreamId
    200 table with
  | .error _ => none
  | .ok sessions => sessions[index]?

/-- The session that the callback about an unknown stream looks up. -/
def unknownSession (conf : Conf) (table : DialogTable db) (event : UnknownStreamEvent)
    (now : NaiveDateTime) : Option SipDialogSession :=
  match findActiveByMediaSsrcBefore conf.domainId event.mediaNodeId (ssrcText event.ssrc)
    event.firstSeenAt now table with
  | .ok [session] => some session
  | _ => none

/-- The task that follows the decision of a recovery. -/
def decided (run : Run) (now : NaiveDateTime) : Decision → Option Task
  | .fail => none
  | .orphan recovered => some (.stampOrphan run recovered)
  | .talk ssrc => some (.insertTalk run ssrc)
  | .online ssrc am => some (.insertStream run ssrc am)
  | .offline ssrc am =>
      if run.session.state = .established then some (.beginTerminating run ssrc am now)
      else some (.insertClosing run ssrc am)

def work (conf : Conf) (world : World db) : Task → Option Task × World db
  | .page afterStreamId index answers =>
      ((pagedSession conf world.table afterStreamId index).map fun session =>
        .recover ⟨.startup, answers, session⟩, world)
  | .hook event answers =>
      if !conf.nodeMap.contains event.mediaNodeId || decide (2000000000 ≤ event.ssrc) ||
        event.ssrc % 10000 == 0 then (none, world)
      else
        match streamIdsByNodeSsrc world.cache event.mediaNodeId event.ssrc with
        | [] => (some (.find event answers world.now), world)
        | [id] => (some (.close .stream id), world)
        | _ => (none, world)
  | .find event answers now =>
      ((unknownSession conf world.table event now).map fun session =>
        .recover ⟨.streamUnknown, answers, session⟩, world)
  | .recover run =>
      (decided run world.now (recoverDialog conf run.answers run.session world.now), world)
  | .stampOrphan run recovered => (some (.markOrphan run recovered world.now), world)
  | .markOrphan run recovered updatedAt =>
      match step db world.table (orphanCall run.session updatedAt) with
      | (.error _, table) => (none, { world with table := table })
      | (.ok _, table) =>
          (if recovered then returned run else none, { world with table := table })
  | .insertTalk run ssrc =>
      match world.cache.talkMapInsert (restoredTalk run.session ssrc) with
      | (false, cache) => (some (.stampOrphan run true), { world with cache := cache })
      | (true, cache) =>
          (if run.session.state = .terminating then some (.closing run .talk) else returned run,
            { world with cache := cache })
  | .insertStream run ssrc am =>
      match insertRestored world.cache run.session ssrc am with
      | (false, cache) => (some (.stampOrphan run true), { world with cache := cache })
      | (true, cache) => (some (.listStream run am), { world with cache := cache })
  | .listStream run am =>
      (if run.session.state = .terminating then some (.closing run .stream) else returned run,
        { world with
          cache := world.cache.deviceMapInsert run.session.deviceId run.session.channelId
            (run.session.ssrc.getD "") run.session.streamId am })
  | .beginTerminating run ssrc am now =>
      match step db world.table (terminatingCall run.session now) with
      | (.error _, table) => (none, { world with table := table })
      | (.ok _, table) => (some (.insertClosing run ssrc am), { world with table := table })
  | .insertClosing run ssrc am =>
      match insertRestored world.cache run.session ssrc am with
      | (false, cache) => (returned run, { world with cache := cache })
      | (true, cache) => (some (.closing run .stream), { world with cache := cache })
  | .closing run kind =>
      (returned run, { world with cache := closeBegin world.cache run.session.streamId kind })
  | .trailing run =>
      (none, { world with cache := closeBegin world.cache run.session.streamId .stream })
  | .close kind id => (none, { world with cache := closeBegin world.cache id kind })
  | .remove kind id generation =>
      (none, { world with cache := closeComplete world.cache id generation kind })
  | .write call => (none, { world with table := (step db world.table call).2 })
  | .wait elapsed => (none, { world with now := world.now + elapsed })

/-- The calls; every other task is the rest of one. -/
def Task.isCall : Task → Bool
  | .page .. | .hook .. | .close .. | .remove .. | .write _ | .wait _ => true
  | _ => false

/-- The run of `recover_dialog`, or of the callback around it, that a task belongs to. -/
def Task.run : Task → Option Run
  | .recover run | .stampOrphan run _ | .markOrphan run _ _ | .insertTalk run _
  | .insertStream run _ _ | .listStream run _ | .beginTerminating run _ _ _
  | .insertClosing run _ _ | .closing run _ | .trailing run => some run
  | _ => none

/-! ## Streams and talks that go on -/

/-- A restored stream or talk is in memory and is not closing. -/
def plays (cache : Cache) (id : String) : Kind → Bool
  | .stream => (cache.streamMap.lookup id).any fun stream => stream.restored && !stream.isClosing
  | .talk =>
      (cache.talkMap.lookup id).any fun talk => talk.restored && talk.closingGeneration.isNone

def vacant (cache : Cache) (id : String) : Kind → Bool
  | .stream => (cache.streamMap.lookup id).isNone
  | .talk => (cache.talkMap.lookup id).isNone

/-- The row of a stream is in `Terminated` or `Orphan`.  A row is found by any spelling of
an id, and belongs to the stream that it names. -/
def ended (table : DialogTable db) (id : String) : Bool :=
  (table.find (db.weight id)).any fun row =>
    row.streamId == id && (row.state == "TERMINATED" || row.state == "ORPHAN")

section Cache

variable {cache : Cache} {id other : String} {kind : Kind}

/-- A begun close leaves its stream closing, and every other stream as it is. -/
theorem lookup_streamCloseBegin (cache : Cache) (id : String) :
    (∀ stream, (cache.streamCloseBegin id).2.streamMap.lookup id = some stream →
        stream.isClosing = true) ∧
      (∀ other, other ≠ id →
        (cache.streamCloseBegin id).2.streamMap.lookup other = cache.streamMap.lookup other) ∧
      (cache.streamCloseBegin id).2.talkMap = cache.talkMap := by
  rw [Cache.streamCloseBegin]
  cases found : cache.streamMap.lookup id with
  | none =>
      refine ⟨fun stream isFound => ?_, fun _ _ => rfl, rfl⟩
      rw [found] at isFound
      cases isFound
  | some stream =>
      refine ⟨fun closed isFound => ?_, fun other differs => AList.lookup_insert_ne differs, rfl⟩
      rw [AList.lookup_insert, Option.some.injEq] at isFound
      rw [← isFound]
      cases lifecycle : stream.lifecycle <;>
        simp [StreamTable.beginClose, lifecycle, StreamTable.isClosing,
          StreamTable.closingGeneration]

theorem lookup_talkCloseBegin (cache : Cache) (id : String) :
    (∀ talk, (cache.talkCloseBegin id).2.talkMap.lookup id = some talk →
        talk.closingGeneration.isNone = false) ∧
      (∀ other, other ≠ id →
        (cache.talkCloseBegin id).2.talkMap.lookup other = cache.talkMap.lookup other) ∧
      (cache.talkCloseBegin id).2.streamMap = cache.streamMap := by
  rw [Cache.talkCloseBegin]
  cases found : cache.talkMap.lookup id with
  | none =>
      refine ⟨fun talk isFound => ?_, fun _ _ => rfl, rfl⟩
      rw [found] at isFound
      cases isFound
  | some talk =>
      cases closing : talk.closingGeneration with
      | some generation =>
          simp only [closing]
          refine ⟨fun closed isFound => ?_, fun _ _ => trivial, trivial⟩
          rw [found, Option.some.injEq] at isFound
          rw [← isFound, closing]
          rfl
      | none =>
          simp only [closing]
          refine ⟨fun closed isFound => ?_, fun other differs => AList.lookup_insert_ne differs,
            trivial⟩
          rw [AList.lookup_insert, Option.some.injEq] at isFound
          rw [← isFound]
          rfl

/-- A close stops what it names, and starts nothing. -/
theorem plays_closeBegin {named : Kind} (up : plays (closeBegin cache id named) other kind = true) :
    plays cache other kind = true ∧ ¬(other = id ∧ kind = named) := by
  cases named with
  | stream =>
      obtain ⟨closes, frame, talks⟩ := lookup_streamCloseBegin cache id
      cases kind with
      | talk =>
          rw [closeBegin, plays, talks] at up
          exact ⟨up, fun both => by cases both.2⟩
      | stream =>
          by_cases same : other = id
          · subst same
            obtain ⟨stream, found, isUp⟩ := (Option.any_eq_true ..).mp up
            rw [closes stream found] at isUp
            simp at isUp
          · rw [closeBegin, plays, frame other same] at up
            exact ⟨up, fun both => same both.1⟩
  | talk =>
      obtain ⟨closes, frame, streams⟩ := lookup_talkCloseBegin cache id
      cases kind with
      | stream =>
          rw [closeBegin, plays, streams] at up
          exact ⟨up, fun both => by cases both.2⟩
      | talk =>
          by_cases same : other = id
          · subst same
            obtain ⟨talk, found, isUp⟩ := (Option.any_eq_true ..).mp up
            rw [closes talk found] at isUp
            simp at isUp
          · rw [closeBegin, plays, frame other same] at up
            exact ⟨up, fun both => same both.1⟩

theorem any_lookup_erase {β : Type} {map : AList fun _ : String => β} {key : String}
    {holds : β → Bool} (found : ((map.erase key).lookup other).any holds = true) :
    (map.lookup other).any holds = true := by
  by_cases same : other = key
  · rw [same, AList.lookup_erase] at found
    cases found
  · rw [AList.lookup_erase_ne same] at found
    exact found

/-- A removal starts nothing. -/
theorem plays_closeComplete {named : Kind} {generation : UInt64}
    (up : plays (closeComplete cache id generation named) other kind = true) :
    plays cache other kind = true := by
  cases named with
  | stream =>
      rw [closeComplete, Cache.streamCloseComplete] at up
      rcases cache.streamCloseRemove_cases id generation with
        same | ⟨_, _, _, _, _, streams, talks, _⟩
      · rw [same] at up
        exact up
      · cases kind with
        | stream =>
            rw [plays, streams] at up
            exact any_lookup_erase up
        | talk =>
            rw [plays, talks] at up
            exact up
  | talk =>
      rw [closeComplete] at up
      rcases cache.talkCloseComplete_cases id generation with same | ⟨_, _, _, _, same⟩
      · rw [same] at up
        exact up
      · rw [same] at up
        cases kind with
        | stream => exact up
        | talk => exact any_lookup_erase up

/-- A restored talk is entered where none is. -/
theorem talkMapInsert_cases (cache : Cache) (talk : TalkSessionState) :
    cache.talkMapInsert talk = (false, cache) ∨
      ∃ next, cache.talkMapInsert talk = (true, next) ∧ vacant cache talk.talkId .talk = true ∧
        ∀ other kind, plays next other kind = true →
          plays cache other kind = true ∨ (other = talk.talkId ∧ kind = .talk) := by
  rw [Cache.talkMapInsert, vacant]
  cases found : cache.talkMap.lookup talk.talkId with
  | some _ => exact Or.inl rfl
  | none =>
      refine Or.inr ⟨_, rfl, rfl, fun other kind up => ?_⟩
      cases kind with
      | stream => exact Or.inl up
      | talk =>
          by_cases same : other = talk.talkId
          · exact Or.inr ⟨same, rfl⟩
          · rw [plays, AList.lookup_insert_ne same] at up
            exact Or.inl up

/-- A restored stream is entered where none is. -/
theorem insertRestored_cases (cache : Cache) (session : SipDialogSession) (ssrc : UInt32)
    (am : AccessMode) :
    insertRestored cache session ssrc am = (false, cache) ∨
      ∃ next, insertRestored cache session ssrc am = (true, next) ∧
        vacant cache session.streamId .stream = true ∧
        ∀ other kind, plays next other kind = true →
          plays cache other kind = true ∨ (other = session.streamId ∧ kind = .stream) := by
  rw [insertRestored, Cache.streamMapInsertRestored, Cache.streamMapInsert, vacant]
  cases found : cache.streamMap.lookup session.streamId with
  | some _ => exact Or.inl rfl
  | none =>
      refine Or.inr ⟨_, rfl, rfl, fun other kind up => ?_⟩
      cases kind with
      | talk => exact Or.inl up
      | stream =>
          by_cases same : other = session.streamId
          · exact Or.inr ⟨same, rfl⟩
          · rw [plays, AList.lookup_insert_ne same] at up
            exact Or.inl up

end Cache

/-! ## When a recovery is careful -/

/-- The task is about to close a stream or talk that its run has entered or recovered. -/
def Task.closes (id : String) (kind : Kind) : Task → Bool
  | .listStream run _ =>
      run.session.streamId == id && kind == .stream &&
        (run.session.state == .terminating || run.trigger == .streamUnknown)
  | .closing run named => run.session.streamId == id && kind == named
  | .trailing run => run.session.streamId == id && kind == .stream
  | _ => false

/-- A run is about to close the stream or talk. -/
def due (tasks : List Task) (id : String) (kind : Kind) : Bool :=
  tasks.any fun task => task.closes id kind

/-- The stream or talk that a task enters with no close to follow. -/
def Task.leavesUp : Task → Option (Kind × Run)
  | .insertTalk run _ => if run.session.state = .terminating then none else some (.talk, run)
  | .insertStream run _ _ =>
      if run.session.state = .terminating ∨ run.trigger = .streamUnknown then none
      else some (.stream, run)
  | _ => none

/-- The update that a task asks for. -/
def Task.call : Task → Option Call
  | .markOrphan run _ updatedAt => some (orphanCall run.session updatedAt)
  | .beginTerminating run _ _ now => some (terminatingCall run.session now)
  | .write call => some call
  | _ => none

/-- The stream whose row the update ends, under the version that the row has. -/
def endsRow (table : DialogTable db) : Call → Option String
  | .casTransition streamId _ expectedVersion _ nextState _ =>
      (table.find (db.weight streamId)).bind fun row =>
        if nextState.isTerminal && row.version == expectedVersion then some row.streamId else none
  | _ => none

/-- The callback that writes its row off closes the stream next. -/
def Task.closesNext (id : String) (kind : Kind) : Task → Bool
  | .markOrphan run recovered _ =>
      recovered && run.trigger == .streamUnknown && run.session.streamId == id && kind == .stream
  | _ => false

/-- A stream or talk is entered to stay while its row has not ended, or a close of it is
due. -/
def EntersCarefully (pool : Pool (World db) Task) (task : Task) : Prop :=
  ∀ entry ∈ task.leavesUp,
    vacant pool.shared.cache entry.2.session.streamId entry.1 = true →
    ended pool.shared.table entry.2.session.streamId = true →
    due pool.tasks entry.2.session.streamId entry.1 = true

/-- A row is ended while no restored stream or talk of it goes on, or a close of it is due. -/
def EndsCarefully (pool : Pool (World db) Task) (task : Task) : Prop :=
  ∀ call ∈ task.call, ∀ id ∈ endsRow pool.shared.table call,
    ∀ kind, plays pool.shared.cache id kind = true →
      due pool.tasks id kind = true ∨ task.closesNext id kind = true

/-- No stream or talk that goes on has a row that has ended, unless a close of it is due. -/
def Sound (pool : Pool (World db) Task) : Prop :=
  ∀ id kind, plays pool.shared.cache id kind = true → ended pool.shared.table id = true →
    due pool.tasks id kind = true

section Steps

variable {conf : Conf} {world next : World db} {earlier later : List Task}
  {task : Task} {rest : Option Task} {table : DialogTable db} {call : Call} {id : String} {kind : Kind}

theorem isTerminal_of_ended {state : DialogState}
    (isEnded : (state.toText == "TERMINATED" || state.toText == "ORPHAN") = true) :
    state.isTerminal = true := by
  cases state <;> first | rfl | cases isEnded

/-- A row that has ended after an update had ended before, or the update ended it. -/
theorem ended_step (isEnded : ended (step db table call).2 id = true) :
    ended table id = true ∨
      (endsRow table call = some id ∧ (step db table call).1 = .ok true) := by
  cases streamStep table call (db.weight id) with
  | kept idle same =>
      rw [ended, same] at isEnded
      exact Or.inl isEnded
  | inserted called insertable free stored =>
      rw [ended, stored, Option.any_some, SipDialogSession.toRow, SipDialogSession.stored,
        insertable.inviting, Bool.and_eq_true] at isEnded
      cases isEnded.2
  | @changed row next wrote found addressed changes stored =>
      rw [ended, stored, Option.any_some, changes.streamId_eq, Bool.and_eq_true, beq_iff_eq]
        at isEnded
      obtain ⟨named, isTerminal⟩ := isEnded
      rw [writes, Bool.and_eq_true, decide_eq_true_eq] at wrote
      obtain ⟨key, succeeds⟩ := wrote
      cases changes with
      | markEstablished | beginTerminating => cases isTerminal
      | reserveLocalCseq | touch =>
          left
          rw [ended, found, Option.any_some, named, beq_self_eq_true, Bool.true_and]
          exact isTerminal
      | transition allowed expected updated =>
          refine Or.inr ⟨?_, succeeded_eq_true.mp succeeds⟩
          dsimp only [Runs.transition, Call.streamId] at key
          rw [endsRow, key, found, Option.bind_some, beq_self_eq_true, Bool.and_true,
            if_pos (isTerminal_of_ended isTerminal), named]

theorem due_of_other (isDue : due (earlier ++ task :: later) id kind = true)
    (idle : task.closes id kind = false) : due (earlier ++ rest.toList ++ later) id kind = true := by
  simp only [due, List.any_append, List.any_cons, idle, Bool.false_or, Bool.or_eq_true] at isDue ⊢
  rcases isDue with first | last
  · exact Or.inl (Or.inl first)
  · exact Or.inr last

theorem due_of_rest (other : Task) (isRest : rest = some other)
    (closes : other.closes id kind = true) :
    due (earlier ++ rest.toList ++ later) id kind = true := by
  simp [due, isRest, closes]

/-- A step of a task keeps the invariant when everything that goes on with an ended row
was so before, or a close of it is due after the step. -/
theorem Sound.follow (sound : Sound ⟨world, earlier ++ task :: later⟩)
    (kept : ∀ id kind, plays next.cache id kind = true → ended next.table id = true →
      (plays world.cache id kind = true ∧ ended world.table id = true ∧
          task.closes id kind = false) ∨
        due (earlier ++ rest.toList ++ later) id kind = true) :
    Sound ⟨next, earlier ++ rest.toList ++ later⟩ := by
  intro id kind up isEnded
  rcases kept id kind up isEnded with ⟨was, wasEnded, idle⟩ | isDue
  · exact due_of_other (sound id kind was wasEnded) idle
  · exact isDue

/-- A step that changes neither the cache nor the table. -/
theorem Sound.quiet (sound : Sound ⟨world, earlier ++ task :: later⟩)
    (idle : ∀ id kind, task.closes id kind = false) (cache : next.cache = world.cache)
    (table : next.table = world.table) : Sound ⟨next, earlier ++ rest.toList ++ later⟩ := by
  refine sound.follow fun id kind up isEnded => Or.inl ⟨?_, ?_, idle id kind⟩
  · rw [← cache]
    exact up
  · rw [← table]
    exact isEnded

/-- A step that updates a row. -/
theorem Sound.update (sound : Sound ⟨world, earlier ++ task :: later⟩)
    (careful : EndsCarefully ⟨world, earlier ++ task :: later⟩ task)
    (asks : task.call = some call) (idle : ∀ id kind, task.closes id kind = false)
    (cache : next.cache = world.cache) (table : next.table = (step db world.table call).2)
    (trails : ∀ id kind, task.closesNext id kind = true → (step db world.table call).1 = .ok true →
      due (earlier ++ rest.toList ++ later) id kind = true) :
    Sound ⟨next, earlier ++ rest.toList ++ later⟩ := by
  refine sound.follow fun id kind up isEnded => ?_
  rw [cache] at up
  rw [table] at isEnded
  rcases ended_step isEnded with was | ⟨ends, succeeds⟩
  · exact Or.inl ⟨up, was, idle id kind⟩
  · right
    rcases careful call asks id ends kind up with isDue | closes
    · exact due_of_other isDue (idle id kind)
    · exact trails id kind closes succeeds

/-- A step that enters a stream or talk, with a close to follow or carefully. -/
theorem Sound.enter (sound : Sound ⟨world, earlier ++ task :: later⟩) {named : Kind} {run : Run}
    (idle : ∀ id kind, task.closes id kind = false)
    (entered : ∀ id kind, plays next.cache id kind = true →
      plays world.cache id kind = true ∨ (id = run.session.streamId ∧ kind = named))
    (table : next.table = world.table)
    (follows : ended world.table run.session.streamId = true →
      due (earlier ++ rest.toList ++ later) run.session.streamId named = true) :
    Sound ⟨next, earlier ++ rest.toList ++ later⟩ := by
  refine sound.follow fun id kind up isEnded => ?_
  rw [table] at isEnded
  rcases entered id kind up with was | ⟨rfl, rfl⟩
  · exact Or.inl ⟨was, isEnded, idle id kind⟩
  · exact Or.inr (follows isEnded)

/-- A step that closes a stream or talk. -/
theorem Sound.close (sound : Sound ⟨world, earlier ++ task :: later⟩) (named : Kind) (key : String)
    (only : ∀ id kind, task.closes id kind = true → id = key ∧ kind = named)
    (cache : next.cache = closeBegin world.cache key named) (table : next.table = world.table) :
    Sound ⟨next, earlier ++ rest.toList ++ later⟩ := by
  refine sound.follow fun id kind up isEnded => Or.inl ?_
  rw [cache] at up
  rw [table] at isEnded
  obtain ⟨was, differs⟩ := plays_closeBegin up
  refine ⟨was, isEnded, ?_⟩
  cases closes : task.closes id kind with
  | false => rfl
  | true => exact absurd (only id kind closes) differs

theorem Sound.begin {tasks : List Task} (sound : Sound ⟨world, tasks⟩) :
    Sound ⟨world, tasks ++ [task]⟩ := by
  intro id kind up isEnded
  have isDue := sound id kind up isEnded
  simp only [due, List.any_append, Bool.or_eq_true] at isDue ⊢
  exact Or.inl isDue

/-- The row is written off; the callback goes on to close the stream. -/
theorem Sound.markOrphan {run : Run} {recovered : Bool} {updatedAt : NaiveDateTime}
    (sound : Sound ⟨world, earlier ++ .markOrphan run recovered updatedAt :: later⟩)
    (careful : EndsCarefully ⟨world, earlier ++ .markOrphan run recovered updatedAt :: later⟩
      (.markOrphan run recovered updatedAt)) :
    Sound ⟨(work conf world (.markOrphan run recovered updatedAt)).2,
      earlier ++ (work conf world (.markOrphan run recovered updatedAt)).1.toList ++ later⟩ := by
  have isUpdate : ∀ rest : Option Task, (∀ id kind,
      Task.closesNext id kind (.markOrphan run recovered updatedAt) = true →
      (step db world.table (orphanCall run.session updatedAt)).1 = .ok true →
      due (earlier ++ rest.toList ++ later) id kind = true) →
      Sound ⟨{ world with
        table := (step db world.table (orphanCall run.session updatedAt)).2 },
        earlier ++ rest.toList ++ later⟩ := fun rest trails =>
    sound.update careful rfl (fun _ _ => rfl) rfl rfl trails
  rw [work]
  cases outcome : step db world.table (orphanCall run.session updatedAt) with
  | mk result table =>
      rw [outcome] at isUpdate
      cases result with
      | error error => exact isUpdate none fun id kind closes succeeds => by cases succeeds
      | ok written =>
          refine isUpdate _ fun id kind closes _ => ?_
          simp only [Task.closesNext, Bool.and_eq_true, beq_iff_eq] at closes
          obtain ⟨⟨⟨isRecovered, isTrigger⟩, rfl⟩, rfl⟩ := closes
          refine due_of_rest (.trailing run) ?_ (by simp [Task.closes])
          simp [isRecovered, returned, isTrigger]

/-- A talk is entered: it is closed next when its row is terminating. -/
theorem Sound.insertTalk {run : Run} {ssrc : UInt32}
    (sound : Sound ⟨world, earlier ++ .insertTalk run ssrc :: later⟩)
    (careful : EntersCarefully ⟨world, earlier ++ .insertTalk run ssrc :: later⟩
      (.insertTalk run ssrc)) :
    Sound ⟨(work conf world (.insertTalk run ssrc)).2,
      earlier ++ (work conf world (.insertTalk run ssrc)).1.toList ++ later⟩ := by
  rw [work]
  rcases talkMapInsert_cases world.cache (restoredTalk run.session ssrc) with
    same | ⟨cache, isNext, isVacant, entered⟩
  · rw [same]
    exact sound.quiet (fun _ _ => rfl) rfl rfl
  · rw [isNext]
    refine sound.enter (fun _ _ => rfl) entered rfl fun isEnded => ?_
    by_cases terminating : run.session.state = .terminating
    · refine due_of_rest (.closing run .talk) (if_pos terminating) ?_
      simp [Task.closes]
    · refine due_of_other (careful (.talk, run) ?_ isVacant isEnded) rfl
      exact if_neg terminating

/-- A stream is entered: it is closed next when its row is terminating, or by the callback. -/
theorem Sound.insertStream {run : Run} {ssrc : UInt32} {am : AccessMode}
    (sound : Sound ⟨world, earlier ++ .insertStream run ssrc am :: later⟩)
    (careful : EntersCarefully ⟨world, earlier ++ .insertStream run ssrc am :: later⟩
      (.insertStream run ssrc am)) :
    Sound ⟨(work conf world (.insertStream run ssrc am)).2,
      earlier ++ (work conf world (.insertStream run ssrc am)).1.toList ++ later⟩ := by
  rw [work]
  rcases insertRestored_cases world.cache run.session ssrc am with
    same | ⟨cache, isNext, isVacant, entered⟩
  · rw [same]
    exact sound.quiet (fun _ _ => rfl) rfl rfl
  · rw [isNext]
    refine sound.enter (fun _ _ => rfl) entered rfl fun isEnded => ?_
    by_cases closed : run.session.state = .terminating ∨ run.trigger = .streamUnknown
    · refine due_of_rest (.listStream run am) rfl ?_
      simpa [Task.closes] using closed
    · refine due_of_other (careful (.stream, run) ?_ isVacant isEnded) rfl
      exact if_neg closed

/-- The listing of a stream hands its close on to the next step. -/
theorem Sound.listStream {run : Run} {am : AccessMode}
    (sound : Sound ⟨world, earlier ++ .listStream run am :: later⟩) :
    Sound ⟨(work conf world (.listStream run am)).2,
      earlier ++ (work conf world (.listStream run am)).1.toList ++ later⟩ := by
  rw [work]
  refine sound.follow fun id kind up isEnded => ?_
  cases closes : Task.closes id kind (.listStream run am) with
  | false => exact Or.inl ⟨up, isEnded, rfl⟩
  | true =>
      right
      simp only [Task.closes, Bool.and_eq_true, Bool.or_eq_true, beq_iff_eq] at closes
      obtain ⟨⟨rfl, rfl⟩, how⟩ := closes
      by_cases terminating : run.session.state = .terminating
      · refine due_of_rest (.closing run .stream) (if_pos terminating) ?_
        simp [Task.closes]
      · have isTrigger := how.resolve_left terminating
        refine due_of_rest (.trailing run) ?_ (by simp [Task.closes])
        simp [terminating, returned, isTrigger]

/-- Every careful step of a task keeps the invariant. -/
theorem Sound.advance (sound : Sound ⟨world, earlier ++ task :: later⟩)
    (enters : EntersCarefully ⟨world, earlier ++ task :: later⟩ task)
    (ends : EndsCarefully ⟨world, earlier ++ task :: later⟩ task) :
    Sound ⟨(work conf world task).2,
      earlier ++ (work conf world task).1.toList ++ later⟩ := by
  cases task with
  | page afterStreamId index answers => exact sound.quiet (fun _ _ => rfl) rfl rfl
  | hook event answers =>
      rw [work]
      split
      · exact sound.quiet (fun _ _ => rfl) rfl rfl
      · split <;> exact sound.quiet (fun _ _ => rfl) rfl rfl
  | find event answers now => exact sound.quiet (fun _ _ => rfl) rfl rfl
  | recover run => exact sound.quiet (fun _ _ => rfl) rfl rfl
  | stampOrphan run recovered => exact sound.quiet (fun _ _ => rfl) rfl rfl
  | markOrphan run recovered updatedAt => exact sound.markOrphan ends
  | insertTalk run ssrc => exact sound.insertTalk enters
  | insertStream run ssrc am => exact sound.insertStream enters
  | listStream run am => exact sound.listStream
  | beginTerminating run ssrc am now =>
      have isUpdate : ∀ rest : Option Task,
          Sound ⟨{ world with
            table := (step db world.table (terminatingCall run.session now)).2 },
            earlier ++ rest.toList ++ later⟩ := fun rest =>
        sound.update ends rfl (fun _ _ => rfl) rfl rfl fun id kind closes => by cases closes
      rw [work]
      cases outcome : step db world.table (terminatingCall run.session now) with
      | mk result table =>
          rw [outcome] at isUpdate
          cases result <;> exact isUpdate _
  | insertClosing run ssrc am =>
      rw [work]
      rcases insertRestored_cases world.cache run.session ssrc am with
        same | ⟨cache, isNext, isVacant, entered⟩
      · rw [same]
        exact sound.quiet (fun _ _ => rfl) rfl rfl
      · rw [isNext]
        refine sound.enter (fun _ _ => rfl) entered rfl fun _ =>
          due_of_rest (.closing run .stream) rfl ?_
        simp [Task.closes]
  | closing run named =>
      refine sound.close named run.session.streamId (fun id kind closes => ?_) rfl rfl
      simp only [Task.closes, Bool.and_eq_true, beq_iff_eq] at closes
      exact ⟨closes.1.symm, closes.2⟩
  | trailing run =>
      refine sound.close .stream run.session.streamId (fun id kind closes => ?_) rfl rfl
      simp only [Task.closes, Bool.and_eq_true, beq_iff_eq] at closes
      exact ⟨closes.1.symm, closes.2⟩
  | close named key => exact sound.close named key (fun id kind closes => by cases closes) rfl rfl
  | remove named key generation =>
      refine sound.follow fun id kind up isEnded => Or.inl ⟨?_, isEnded, rfl⟩
      exact plays_closeComplete up
  | write call =>
      exact sound.update ends rfl (fun _ _ => rfl) rfl rfl fun id kind closes => by cases closes
  | wait elapsed => exact sound.quiet (fun _ _ => rfl) rfl rfl

end Steps

/-- A move that enters and ends carefully. -/
def CarefulMove (pool : Pool (World db) Task) : Move Task → Prop
  | .begin _ => True
  | .advance index =>
      ∀ task ∈ pool.tasks[index]?, EntersCarefully pool task ∧ EndsCarefully pool task

instance (holds : Kind → Prop) [DecidablePred holds] : Decidable (∀ kind, holds kind) :=
  decidable_of_iff (holds .stream ∧ holds .talk) (by
    constructor
    · rintro ⟨stream, talk⟩ kind
      cases kind with
      | stream => exact stream
      | talk => exact talk
    · intro all
      exact ⟨all .stream, all .talk⟩)

instance (pool : Pool (World db) Task) (task : Task) : Decidable (EntersCarefully pool task) :=
  inferInstanceAs (Decidable (∀ entry ∈ task.leavesUp, _ → _ → _))

instance (pool : Pool (World db) Task) (task : Task) : Decidable (EndsCarefully pool task) :=
  inferInstanceAs (Decidable (∀ call ∈ task.call, ∀ id ∈ endsRow pool.shared.table call,
    ∀ _ : Kind, _ → _ ∨ _))

instance (pool : Pool (World db) Task) (move : Move Task) : Decidable (CarefulMove pool move) :=
  match move with
  | .begin _ => isTrue trivial
  | .advance index => inferInstanceAs (Decidable (∀ task ∈ pool.tasks[index]?, _ ∧ _))

/-- A recovery of the stream is in progress. -/
def recovering (tasks : List Task) (id : String) : Bool :=
  tasks.any fun task => task.run.any fun run => run.session.streamId == id

theorem recovering_of_due {tasks : List Task} {id : String} {kind : Kind}
    (isDue : due tasks id kind = true) : recovering tasks id = true := by
  obtain ⟨task, member, closes⟩ := List.any_eq_true.mp isDue
  refine List.any_eq_true.mpr ⟨task, member, ?_⟩
  cases task with
  | listStream | closing =>
      simp only [Task.closes, Bool.and_eq_true] at closes
      first | exact closes.1.1 | exact closes.1
  | trailing run =>
      simp only [Task.closes, Bool.and_eq_true] at closes
      exact closes.1
  | _ => cases closes

/-- In every interleaving of recoveries with each other and with other writers of the
rows: when every stream or talk that is entered to stay is entered while its row has
not ended, and every row is ended while no restored stream or talk of it goes on, then
no row that has ended has one, once the recoveries of the stream are over.  In both
cases a close that is due makes up for it. -/
theorem restored_of_careful (conf : Conf) (world : World db) (moves : List (Move Task))
    (start : ∀ id kind, plays world.cache id kind = true → ended world.table id = false)
    (careful : ∀ entry ∈ Runs.run (TaskPool.step (work conf)) ⟨world, []⟩ moves,
      CarefulMove entry.before entry.action) :
    ∀ entry ∈ Runs.run (TaskPool.step (work conf)) ⟨world, []⟩ moves, ∀ id,
      recovering entry.after.tasks id = false → ended entry.after.shared.table id = true →
      ∀ kind, plays entry.after.shared.cache id kind = false := by
  intro entry member id idle isEnded kind
  have initially : Sound ⟨world, []⟩ := by
    intro id kind up isEnded
    rw [start id kind up] at isEnded
    cases isEnded
  have guarded : ∀ entry ∈ Runs.run (TaskPool.step (work conf)) ⟨world, []⟩ moves,
      Guarded (fun _ => True) (fun pool task => EntersCarefully pool task ∧ EndsCarefully pool task)
        entry.before entry.action := by
    intro other inRun
    have isCareful := careful other inRun
    cases isAction : other.action with
    | begin task => trivial
    | advance index =>
        rw [isAction] at isCareful
        exact isCareful
  obtain ⟨_, sound⟩ := invariant_run Sound (fun shared tasks task sound _ => sound.begin)
    (fun shared earlier task later sound isCareful => sound.advance isCareful.1 isCareful.2)
    initially guarded entry member
  cases up : plays entry.after.shared.cache id kind with
  | false => rfl
  | true =>
      rw [recovering_of_due (sound id kind up isEnded)] at idle
      cases idle

def recoveryConf : Conf := ⟨"session-1", ["media-1"]⟩

def restarted : World plainDb := ⟨Cache.init, RowTable.empty _, millis 3000⟩

/-- The row of a playback is written before the restart. -/
def establishPlayback : List (Move Task) :=
  [.begin (.write (.insertInviting playbackDialog)), .advance 0,
    .begin (.write (.casMarkEstablished "stream-1" "session-1" 0
      ⟨"remote-tag", 10, none, none, [], "127.0.0.1:5060", "127.0.0.1:15060", millis 2000,
        millis 2000, millis 28802000, millis 2000⟩)), .advance 0]

/-- The media of the playback is offline: the startup closes the stream, and its BYE ends
the row. -/
def offlineRecovery : List (Move Task) :=
  establishPlayback ++
    [.begin (.page none 0 ⟨some false, true⟩), .advance 0, .advance 0, .advance 0, .advance 0,
      .advance 0, .begin (.write (.casTransition "stream-1" "session-1" 2 .terminating .terminated
        (millis 3000))), .advance 0]

theorem restored_of_careful_offlineRecovery :
    ended (Runs.final (TaskPool.step (work recoveryConf)) ⟨restarted, []⟩
        offlineRecovery).shared.table "stream-1" = true ∧
      ∀ kind, plays (Runs.final (TaskPool.step (work recoveryConf)) ⟨restarted, []⟩
        offlineRecovery).shared.cache "stream-1" kind = false := by
  obtain ⟨isEnded, idle, careful⟩ :
      ended (Runs.final (TaskPool.step (work recoveryConf)) ⟨restarted, []⟩
        offlineRecovery).shared.table "stream-1" = true ∧
      recovering (Runs.final (TaskPool.step (work recoveryConf)) ⟨restarted, []⟩
        offlineRecovery).tasks "stream-1" = false ∧
      ∀ entry ∈ Runs.run (TaskPool.step (work recoveryConf)) ⟨restarted, []⟩
        offlineRecovery, CarefulMove entry.before entry.action := by
    decide +kernel
  have last : Runs.transition (TaskPool.step (work recoveryConf))
      (Runs.final (TaskPool.step (work recoveryConf)) ⟨restarted, []⟩
        (offlineRecovery.take 11)) (.advance 0) ∈
        Runs.run (TaskPool.step (work recoveryConf)) ⟨restarted, []⟩
          offlineRecovery := by
    simp [offlineRecovery, establishPlayback]
  refine ⟨isEnded, restored_of_careful recoveryConf restarted offlineRecovery ?_ careful
    _ last "stream-1" idle isEnded⟩
  intro id kind up
  cases kind <;> cases up

/-- The startup has read the row when a callback about the stream recovers it as well.
The callback finds no session of the device and writes the row off; the device
registers; the startup goes on. -/
def registrationBetween : List (Move Task) :=
  establishPlayback ++
    [.begin (.page none 0 ⟨some true, true⟩), .advance 0,
      .begin (.hook ⟨"media-1", 1100000001, millis 2500⟩ ⟨some true, false⟩), .advance 1, .advance 1,
      .advance 1, .advance 1, .advance 1, .advance 0, .advance 0, .advance 0]

/-- Both recoveries are over, the row is orphaned, and the restored stream goes on. -/
theorem registrationBetween_contradicts :
    (∀ task, .begin task ∈ registrationBetween → task.isCall = true) ∧
      (Runs.final (TaskPool.step (work recoveryConf)) ⟨restarted, []⟩
        registrationBetween).tasks = [] ∧
      ended (Runs.final (TaskPool.step (work recoveryConf)) ⟨restarted, []⟩
        registrationBetween).shared.table "stream-1" = true ∧
      plays (Runs.final (TaskPool.step (work recoveryConf)) ⟨restarted, []⟩
        registrationBetween).shared.cache "stream-1" .stream = true := by
  refine ⟨fun task begun => ?_, ?_⟩
  · simp only [registrationBetween, establishPlayback, List.cons_append, List.nil_append,
      List.mem_cons, Move.begin.injEq, reduceCtorEq, List.not_mem_nil, false_or, or_false] at begun
    rcases begun with rfl | rfl | rfl | rfl <;> rfl
  · rw [← List.length_eq_zero_iff]
    decide +kernel

end Gmv.Session.DialogRecovery
