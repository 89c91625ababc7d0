import Gmv.Session.DialogClients
import Gmv.Session.DialogRecovery

/-!
# The outcome of an INVITE and its row

`invite_play_and_wait` and `accept_broadcast_invite` insert a row in `Inviting` and then
negotiate the dialog.  On success they move the row to `Established`; on a failure they
hang up where a dialog was made and write the row off.  The module starts behind the
insert and runs one of the two functions, with every answer of the other side, beside
any number of recoveries, over one table and one clock.
-/

namespace Gmv.Session.InviteOutcome

open Gmv.Library Gmv.Library.TaskPool SipDialogSessionRepository DialogRecovery

variable {db : DialogDb}

/-! ## The two functions -/

/-- What the SIP stack tells of a dialog. -/
structure DialogSnapshot where
  callId : String
  localTag : String
  remoteTag : String
  localCseq : UInt32
  remoteTarget : String
  routeSet : List String
  localAddr : String
  remoteAddr : String
  protocol : DialogTransport
  deriving DecidableEq, Repr

inductive InviteError where
  | runtime
  | send
  | respond
  | dialog (error : DialogError)
  | system (message : String)
  | invalidState (message : String)
  | timeout (message : String)
  deriving DecidableEq, Repr

/-- `invite_play_and_wait`, or `accept_broadcast_invite` with the dialog and the sequence
number of the INVITE that it accepts. -/
inductive Invite where
  | play
  | broadcast (snapshot : DialogSnapshot) (cseq : UInt32)
  deriving DecidableEq, Repr

/-- Where the function stands behind its insert. -/
inductive Phase where
  | sending
  | receiving
  | lookingUp
  | responding
  | stampingEstablished (snapshot : DialogSnapshot)
  | establishing (snapshot : DialogSnapshot) (establishedAt : NaiveDateTime)
  | rollingBack (error : InviteError)
  | stampingTerminal (nextState : DialogState) (error : InviteError)
  | marking (nextState : DialogState) (updatedAt : NaiveDateTime) (error : InviteError)
  | returned (result : Except InviteError Unit)
  deriving DecidableEq

/-- What the INVITE of a play comes to. -/
inductive Response where
  | accepted (snapshot : DialogSnapshot)
  | rejected (dialogEstablished : Bool)
  | timeout
  deriving DecidableEq, Repr

/-- An answer that the function waits for. -/
inductive Answer where
  | sent (succeeded : Bool)
  | received (response : Response)
  | lookedUp (succeeded : Bool)
  | responded (succeeded : Bool)
  | bye (acknowledged : Bool)
  deriving DecidableEq, Repr

/-- `i64::from`. -/
def toInt64 (value : UInt32) : Int64 := Int64.ofNat value.toNat

/-- The dialog is the one that the row was inserted for. -/
def matchesIdentity (session : SipDialogSession) (snapshot : DialogSnapshot) : Bool :=
  snapshot.callId == session.callId && snapshot.localTag == session.localTag &&
    toInt64 snapshot.localCseq == session.localCseq && snapshot.protocol == session.transport

namespace Invite

def first : Invite → Phase
  | play => .sending
  | broadcast .. => .lookingUp

def remoteCseq : Invite → Option Int64
  | play => none
  | broadcast _ cseq => some (toInt64 cseq)

def lost : Invite → InviteError
  | play => .system "INVITE dialog ESTABLISHED CAS lost"
  | broadcast .. => .system "broadcast dialog ESTABLISHED CAS lost"

def fields (invite : Invite) (snapshot : DialogSnapshot) (establishedAt : NaiveDateTime) :
    EstablishedDialogFields where
  remoteTag := snapshot.remoteTag
  localCseq := toInt64 snapshot.localCseq
  remoteCseq := invite.remoteCseq
  contactUri := some snapshot.remoteTarget
  routeSet := snapshot.routeSet
  localSipAddr := snapshot.localAddr
  remoteSipAddr := snapshot.remoteAddr
  establishedAt := establishedAt
  lastSeenAt := establishedAt
  expireAt := establishedAt + dialogExpire
  updatedAt := establishedAt

end Invite

/-- The end of the wait for the response to the INVITE of a play. -/
def received (session : SipDialogSession) : Response → Phase
  | .accepted snapshot =>
      if matchesIdentity session snapshot then .stampingEstablished snapshot
      else .rollingBack (.system "INVITE dialog snapshot does not match persisted identity")
  | .rejected dialogEstablished =>
      if dialogEstablished then .rollingBack (.invalidState "device rejected INVITE")
      else .stampingTerminal .terminated (.invalidState "device rejected INVITE")
  | .timeout => .stampingTerminal .orphan (.timeout "device INVITE response timeout")

def answerStep (invite : Invite) (session : SipDialogSession) : Answer → Phase → Phase
  | .sent succeeded, .sending =>
      if succeeded then .receiving else .stampingTerminal .terminated .send
  | .received response, .receiving => received session response
  | .lookedUp succeeded, .lookingUp =>
      if succeeded then .responding else .returned (.error .runtime)
  | .responded succeeded, .responding =>
      match invite, succeeded with
      | .broadcast snapshot _, true => .stampingEstablished snapshot
      | _, _ => .stampingTerminal .orphan .respond
  | .bye acknowledged, .rollingBack error =>
      .stampingTerminal (if acknowledged then .terminated else .orphan) error
  | _, phase => phase

/-- The end of `cas_mark_established`. -/
def established (invite : Invite) :
    Except DialogError Bool × DialogTable db → Phase × DialogTable db
  | (.ok true, table) => (.returned (.ok ()), table)
  | (.ok false, table) => (.rollingBack invite.lost, table)
  | (.error error, table) => (.rollingBack (.dialog error), table)

/-- One step of the function that waits for no answer. -/
def goStep (invite : Invite) (session : SipDialogSession) (world : World db) :
    Phase → Phase × DialogTable db
  | .stampingEstablished snapshot => (.establishing snapshot world.now, world.table)
  | .establishing snapshot establishedAt =>
      established invite (step db world.table (.casMarkEstablished session.streamId
        session.signalNodeId 0 (invite.fields snapshot establishedAt)))
  | .stampingTerminal nextState error => (.marking nextState world.now error, world.table)
  | .marking nextState updatedAt error =>
      (.returned (.error error), (step db world.table (.casTransition session.streamId
        session.signalNodeId 0 .inviting nextState updatedAt)).2)
  | phase => (phase, world.table)

/-! ## Runs -/

structure State (db : DialogDb) where
  pool : Pool (World db) Task
  phase : Phase

/-- An answer comes, the function goes on, or a recovery begins or goes on. -/
inductive Action where
  | answer (answer : Answer)
  | go
  | recovery (move : Move Task)

section

variable (conf : Conf) (invite : Invite) (session : SipDialogSession)

def act (state : State db) : Action → Unit × State db
  | .answer answer => ((), { state with phase := answerStep invite session answer state.phase })
  | .go =>
      let (phase, table) := goStep invite session state.pool.shared state.phase
      ((), ⟨{ state.pool with shared := { state.pool.shared with table := table } }, phase⟩)
  | .recovery move => ((), { state with pool := (TaskPool.step (work conf) state.pool move).2 })

end

/-- The state of the row of a stream. -/
def rowState (table : DialogTable db) (id : String) : Option String :=
  (table.find (db.weight id)).map SipDialogSessionRow.state

def Phase.isReturned : Phase → Bool
  | .returned _ => true
  | _ => false

/-- When the function returns, its result agrees with the row: on success this step took
the row from `Inviting` to `Established`, and on an error the row has ended. -/
def Agrees (id : String) (before after : State db) : Prop :=
  ∀ result, before.phase.isReturned = false → after.phase = .returned result →
    match result with
    | .ok _ =>
        rowState before.pool.shared.table id = some "INVITING" ∧
          rowState after.pool.shared.table id = some "ESTABLISHED"
    | .error _ => ended after.pool.shared.table id = true

/-- The SIP runtime is missing when `accept_broadcast_invite` looks it up, and nothing else
has ended the row. -/
def LooksUpInVain (id : String) (state : State db) : Action → Prop
  | .answer (.lookedUp false) =>
      state.phase = .lookingUp ∧ rowState state.pool.shared.table id = some "INVITING"
  | _ => False

/-- The function writes off a row that is still in `Inviting` at a time before the one that
the row has stored. -/
def MarksTooEarly (id : String) (state : State db) : Action → Prop
  | .go => ∃ nextState updatedAt error row, state.phase = .marking nextState updatedAt error ∧
      state.pool.shared.table.find (db.weight id) = some row ∧ row.state = "INVITING" ∧
      updatedAt < row.updatedAt
  | _ => False

/-- A recovery, a close, a removal or the clock; not another writer of rows. -/
def Concurrent (task : Task) : Prop := task.isCall = true ∧ ∀ call, task ≠ .write call

/-! ## What a run keeps -/

/-- The update is one that a recovery makes. -/
def RecoveryCall (call : Call) : Prop :=
  (∃ session updatedAt, call = orphanCall session updatedAt) ∨
    ∃ session now, call = terminatingCall session now

/-- The row is as it was inserted, or it is orphaned. -/
def Kept (session : SipDialogSession) (routeSet : Option String) (table : DialogTable db) : Prop :=
  table.find (db.weight session.streamId) =
      some ((session.stored db.datetime).toRow routeSet) ∨
    ∃ row, table.find (db.weight session.streamId) = some row ∧
      row.streamId = session.streamId ∧ row.state = "ORPHAN"

/-- The state that the function has fixed for the row is terminal. -/
def Phase.Fixed : Phase → Prop
  | .stampingTerminal nextState _ => nextState.isTerminal = true
  | .marking nextState _ _ => nextState.isTerminal = true
  | _ => True

/-- No task writes rows of its own accord, and the row is kept as long as the function
waits. -/
structure Beside (session : SipDialogSession) (routeSet : Option String) (waiting : Prop)
    (pool : Pool (World db) Task) : Prop where
  tasks : ∀ task ∈ pool.tasks, ∀ call, task ≠ .write call
  row : waiting → Kept session routeSet pool.shared.table

structure Tracks (session : SipDialogSession) (routeSet : Option String) (state : State db) :
    Prop where
  beside : Beside session routeSet (state.phase.isReturned = false) state.pool
  fixed : state.phase.Fixed

section Steps

variable {conf : Conf} {invite : Invite} {session : SipDialogSession} {routeSet : Option String}
  {table : DialogTable db} {call : Call} {world : World db} {task : Task}

/-- What a step of a recovery does to the table. -/
theorem work_recovery (conf : Conf) (world : World db)
    (notWrite : ∀ call, task ≠ .write call) :
    (∀ call, Task.write call ∉ (work conf world task).1) ∧
      ((work conf world task).2.table = world.table ∨ ∃ call, RecoveryCall call ∧
        (work conf world task).2.table = (step db world.table call).2) := by
  have ends : ∀ run call, Task.write call ∉ returned run := by
    intro run call isRest
    rw [returned] at isRest
    cases trigger : run.trigger <;> rw [trigger] at isRest <;> cases isRest
  cases task with
  | write call => exact absurd rfl (notWrite call)
  | page afterStreamId index answers => exact ⟨by simp [work], Or.inl rfl⟩
  | find event answers now => exact ⟨by simp [work], Or.inl rfl⟩
  | stampOrphan run recovered => exact ⟨by simp [work], Or.inl rfl⟩
  | close kind id => exact ⟨by simp [work], Or.inl rfl⟩
  | remove kind id generation => exact ⟨by simp [work], Or.inl rfl⟩
  | trailing run => exact ⟨by simp [work], Or.inl rfl⟩
  | closing run kind => exact ⟨ends run, Or.inl rfl⟩
  | wait elapsed => exact ⟨by simp [work], Or.inl rfl⟩
  | hook event answers =>
      rw [work]
      split
      · exact ⟨by simp, Or.inl rfl⟩
      · split <;> exact ⟨by simp, Or.inl rfl⟩
  | recover run =>
      refine ⟨fun call => ?_, Or.inl rfl⟩
      rw [work]
      cases recoverDialog conf run.answers run.session world.now with
      | offline ssrc am =>
          rw [decided]
          split <;> simp
      | _ => simp [decided]
  | insertTalk run ssrc =>
      rw [work]
      split
      · exact ⟨by simp, Or.inl rfl⟩
      · refine ⟨?_, Or.inl rfl⟩
        split
        · simp
        · exact ends run
  | insertStream run ssrc am =>
      rw [work]
      split <;> exact ⟨by simp, Or.inl rfl⟩
  | listStream run am =>
      refine ⟨?_, Or.inl rfl⟩
      rw [work]
      split
      · simp
      · exact ends run
  | insertClosing run ssrc am =>
      rw [work]
      split
      · exact ⟨ends run, Or.inl rfl⟩
      · exact ⟨by simp, Or.inl rfl⟩
  | markOrphan run recovered updatedAt =>
      have isCall : RecoveryCall (orphanCall run.session updatedAt) := Or.inl ⟨_, _, rfl⟩
      rw [work]
      cases outcome : step db world.table (orphanCall run.session updatedAt) with
      | mk result table =>
          have written : ∃ call, RecoveryCall call ∧ table = (step db world.table call).2 :=
            ⟨_, isCall, by rw [outcome]⟩
          cases result with
          | error error => exact ⟨by simp, Or.inr written⟩
          | ok changed =>
              refine ⟨?_, Or.inr written⟩
              cases recovered with
              | false => simp
              | true => exact ends run
  | beginTerminating run ssrc am now =>
      have isCall : RecoveryCall (terminatingCall run.session now) := Or.inr ⟨_, _, rfl⟩
      rw [work]
      cases outcome : step db world.table (terminatingCall run.session now) with
      | mk result table =>
          have written : ∃ call, RecoveryCall call ∧ table = (step db world.table call).2 :=
            ⟨_, isCall, by rw [outcome]⟩
          cases result <;> exact ⟨by simp, Or.inr written⟩

theorem state_of_insertable (insertable : Insertable db.json session routeSet) :
    ((session.stored db.datetime).toRow routeSet).state = "INVITING" :=
  congrArg DialogState.toText insertable.inviting

theorem version_of_insertable (insertable : Insertable db.json session routeSet) :
    ((session.stored db.datetime).toRow routeSet).version = 0 :=
  insertable.version

theorem inserted_row {inserted : DialogTable db}
    (succeeds : insertInviting session table = (.ok (), inserted)) :
    ∃ routeSet, Insertable db.json session routeSet ∧
      inserted.find (db.weight session.streamId) =
        some ((session.stored db.datetime).toRow routeSet) := by
  have outcome : step db table (.insertInviting session) = (.ok true, inserted) := by
    rw [SipDialogSessionRepository.step, succeeds]
    rfl
  rcases insertInviting_cases table session with refuses | ⟨routeSet, insertable, _, stores⟩
  · exact absurd (congrArg Prod.fst outcome) refuses.fails
  · have found := stores.found
    rw [outcome] at found
    exact ⟨routeSet, insertable, found⟩

/-- A recovery keeps the row or orphans it. -/
theorem Kept.recover (kept : Kept session routeSet table)
    (insertable : Insertable db.json session routeSet) (isRecovery : RecoveryCall call) :
    Kept session routeSet (step db table call).2 := by
  cases streamStep table call (db.weight session.streamId) with
  | kept idle same =>
      rw [Kept, same]
      exact kept
  | inserted called _ free _ =>
      rcases isRecovery with ⟨_, _, rfl⟩ | ⟨_, _, rfl⟩ <;> cases called
  | @changed row next wrote found addressed changes stored =>
      have named : row.streamId = session.streamId := by
        rcases kept with isRow | ⟨other, isRow, named, _⟩
        · rw [isRow, Option.some.injEq] at found
          rw [← found]
          rfl
        · rw [isRow, Option.some.injEq] at found
          rw [← found]
          exact named
      rcases isRecovery with ⟨_, _, rfl⟩ | ⟨_, _, rfl⟩
      · rw [orphanCall] at changes
        obtain ⟨_, _, _, isNext⟩ := changes.of_casTransition
        refine Or.inr ⟨next, stored, changes.streamId_eq.trans named, ?_⟩
        rw [isNext]
        rfl
      · rw [terminatingCall] at changes
        have isEstablished := changes.of_casTransition.1
        rcases kept with isRow | ⟨other, isRow, _, isOrphan⟩
        · rw [isRow, Option.some.injEq] at found
          rw [← found, state_of_insertable insertable] at isEstablished
          exact absurd isEstablished (by decide)
        · rw [isRow, Option.some.injEq] at found
          rw [← found, isOrphan] at isEstablished
          exact absurd isEstablished (by decide)

/-- The row of an insert is the row that an update under its names addresses. -/
theorem addressed_of_insertable (insertable : Insertable db.json session routeSet) {call : Call}
    (streamId : call.streamId = session.streamId)
    (node : call.signalNodeId = session.signalNodeId) :
    Addressed db ((session.stored db.datetime).toRow routeSet) call := by
  refine ⟨streamId ▸ insertable.valid.streamId, node ▸ insertable.valid.signalNodeId,
    congrArg db.weight node.symm, insertable.valid.version, ?_⟩
  rw [version_of_insertable insertable]
  decide

theorem Kept.found (kept : Kept session routeSet table) :
    ∃ row, table.find (db.weight session.streamId) = some row := by
  rcases kept with found | ⟨row, found, _⟩
  · exact ⟨_, found⟩
  · exact ⟨row, found⟩

theorem Kept.ended_iff (kept : Kept session routeSet table)
    (insertable : Insertable db.json session routeSet) :
    ended table session.streamId = true ↔ rowState table session.streamId ≠ some "INVITING" := by
  rcases kept with found | ⟨row, found, named, isOrphan⟩
  · rw [ended, rowState, found, Option.any_some, Option.map_some, state_of_insertable insertable,
      Bool.and_eq_true]
    exact iff_of_false (fun both => by cases both.2) (fun other => other rfl)
  · rw [ended, rowState, found, Option.any_some, Option.map_some, isOrphan, named,
      beq_self_eq_true]
    decide

/-- The update to `Established` takes the row out of `Inviting`, or it does nothing and the
function rolls back. -/
theorem establishing_cases (invite : Invite) (kept : Kept session routeSet world.table)
    (snapshot : DialogSnapshot) (establishedAt : NaiveDateTime) :
    (∃ error, goStep invite session world (.establishing snapshot establishedAt) =
        (.rollingBack error, world.table)) ∨
      ∃ table, goStep invite session world (.establishing snapshot establishedAt) =
          (.returned (.ok ()), table) ∧
        rowState world.table session.streamId = some "INVITING" ∧
        rowState table session.streamId = some "ESTABLISHED" := by
  obtain ⟨row, found⟩ := kept.found
  have outcome := step_row_cases (.casMarkEstablished session.streamId session.signalNodeId 0
    (invite.fields snapshot establishedAt)) found
  rw [goStep]
  cases written : step db world.table (.casMarkEstablished session.streamId session.signalNodeId 0
    (invite.fields snapshot establishedAt)) with
  | mk result table =>
      rw [written] at outcome
      rcases outcome with ⟨refused, rfl⟩ | ⟨next, rfl, addressed, changes, isNext⟩
      · left
        rcases refused_cases refused with rfl | ⟨error, rfl⟩ <;> exact ⟨_, rfl⟩
      · right
        obtain ⟨inviting, isEstablished⟩ := changes.of_casMarkEstablished
        refine ⟨table, rfl, ?_, ?_⟩
        · rw [rowState, found, Option.map_some, inviting]
        · rw [Call.streamId] at isNext
          rw [rowState, isNext, Option.map_some, isEstablished]

section Mark

variable {nextState : DialogState} {updatedAt : NaiveDateTime} {row : SipDialogSessionRow}

/-- The update to a terminal state leaves a row that is out of `Inviting`, or that has a
later time. -/
theorem mark_refused (found : table.find (db.weight session.streamId) = some row)
    (misses : row.state ≠ "INVITING" ∨ updatedAt < row.updatedAt) :
    (step db table (.casTransition session.streamId session.signalNodeId 0 .inviting nextState
      updatedAt)).2 = table := by
  rcases step_row_cases (.casTransition session.streamId session.signalNodeId 0 .inviting nextState
      updatedAt) found with ⟨_, same⟩ | ⟨next, _, _, changes, _⟩
  · exact same
  · obtain ⟨inviting, updated, _⟩ := changes.of_casTransition
    rcases misses with left | early
    · exact absurd inviting left
    · exact absurd updated (Int.not_le.mpr early)

/-- Otherwise it ends the row. -/
theorem mark_ends (insertable : Insertable db.json session routeSet)
    (found : table.find (db.weight session.streamId) =
      some ((session.stored db.datetime).toRow routeSet))
    (terminal : nextState.isTerminal = true) (late : db.datetime session.updatedAt ≤ updatedAt) :
    ended (step db table (.casTransition session.streamId session.signalNodeId 0 .inviting
      nextState updatedAt)).2 session.streamId = true := by
  have allowed : DialogState.canTransitionTo .inviting nextState = true := by
    cases nextState <;> first | rfl | cases terminal
  obtain ⟨next, changes, isNext⟩ : ∃ next, Changes db ((session.stored db.datetime).toRow routeSet)
      (.casTransition session.streamId session.signalNodeId
        ((session.stored db.datetime).toRow routeSet).version .inviting nextState updatedAt) next ∧
      next.state = nextState.toText :=
    ⟨_, .transition allowed (state_of_insertable insertable) late, rfl⟩
  have addressed : Addressed db ((session.stored db.datetime).toRow routeSet) (.casTransition
      session.streamId session.signalNodeId ((session.stored db.datetime).toRow routeSet).version
      .inviting nextState updatedAt) :=
    addressed_of_insertable insertable rfl rfl
  have written := (step_of_changes found addressed changes).found
  have named : next.streamId = session.streamId := changes.streamId_eq
  rw [version_of_insertable insertable, DialogDb.key, named] at written
  rw [ended, written, Option.any_some, isNext, named, beq_self_eq_true, Bool.true_and]
  cases nextState <;> first | rfl | cases terminal

end Mark

/-- After the update to a terminal state the row has ended, whoever ended it, unless the
update carries an earlier time than a row in `Inviting`. -/
theorem Kept.mark_iff (kept : Kept session routeSet table)
    (insertable : Insertable db.json session routeSet) {nextState : DialogState}
    {updatedAt : NaiveDateTime} (terminal : nextState.isTerminal = true) :
    ended (step db table (.casTransition session.streamId session.signalNodeId 0 .inviting
        nextState updatedAt)).2 session.streamId = true ↔
      ¬ ∃ row, table.find (db.weight session.streamId) = some row ∧ row.state = "INVITING" ∧
        updatedAt < row.updatedAt := by
  constructor
  · rintro isEnded ⟨row, found, inviting, early⟩
    rw [mark_refused found (Or.inr early), kept.ended_iff insertable, rowState, found,
      Option.map_some, inviting] at isEnded
    exact isEnded rfl
  · intro late
    rcases kept with found | ⟨row, found, named, isOrphan⟩
    · apply mark_ends insertable found terminal
      rw [← Int.not_lt]
      intro early
      exact late ⟨_, found, state_of_insertable insertable, early⟩
    · rw [mark_refused found (Or.inl (by rw [isOrphan]; decide)), ended, found, Option.any_some,
        named, isOrphan, beq_self_eq_true]
      rfl

/-! ## Steps of the function -/

variable {state : State db}

/-- What an answer does: nothing, a move to a phase that is still waiting, or the return
when the runtime is missing. -/
theorem answerStep_cases (invite : Invite) (session : SipDialogSession) (answer : Answer)
    (phase : Phase) :
    answerStep invite session answer phase = phase ∨
      ((answerStep invite session answer phase).isReturned = false ∧
        (answerStep invite session answer phase).Fixed) ∨
      (answer = .lookedUp false ∧ phase = .lookingUp ∧
        answerStep invite session answer phase = .returned (.error .runtime)) := by
  cases answer with
  | sent succeeded =>
      cases phase with
      | sending => cases succeeded <;> exact Or.inr (Or.inl ⟨rfl, by trivial⟩)
      | _ => exact Or.inl rfl
  | received response =>
      cases phase with
      | receiving =>
          right
          left
          cases response with
          | accepted snapshot =>
              rw [answerStep, received]
              split <;> exact ⟨rfl, by trivial⟩
          | rejected dialogEstablished => cases dialogEstablished <;> exact ⟨rfl, by trivial⟩
          | timeout => exact ⟨rfl, rfl⟩
      | _ => exact Or.inl rfl
  | lookedUp succeeded =>
      cases phase with
      | lookingUp =>
          cases succeeded with
          | true => exact Or.inr (Or.inl ⟨rfl, by trivial⟩)
          | false => exact Or.inr (Or.inr ⟨rfl, rfl, rfl⟩)
      | _ => exact Or.inl rfl
  | responded succeeded =>
      cases phase with
      | responding =>
          cases invite <;> cases succeeded <;> exact Or.inr (Or.inl ⟨rfl, by trivial⟩)
      | _ => exact Or.inl rfl
  | bye acknowledged =>
      cases phase with
      | rollingBack error => cases acknowledged <;> exact Or.inr (Or.inl ⟨rfl, by trivial⟩)
      | _ => exact Or.inl rfl

theorem answerStep_fixed (answer : Answer) {phase : Phase} (fixed : phase.Fixed) :
    (answerStep invite session answer phase).Fixed := by
  rcases answerStep_cases invite session answer phase with same | ⟨_, isFixed⟩ | ⟨_, _, returns⟩
  · rw [same]
    exact fixed
  · exact isFixed
  · rw [returns]
    trivial

/-- The only answer that makes the function return at once. -/
theorem answerStep_returned {answer : Answer} {phase : Phase} {result : Except InviteError Unit}
    (before : phase.isReturned = false)
    (returns : answerStep invite session answer phase = .returned result) :
    answer = .lookedUp false ∧ phase = .lookingUp ∧ result = .error .runtime := by
  rcases answerStep_cases invite session answer phase with
    same | ⟨waiting, _⟩ | ⟨isAnswer, isPhase, fails⟩
  · rw [← same, returns] at before
    cases before
  · rw [returns] at waiting
    cases waiting
  · rw [fails, Phase.returned.injEq] at returns
    exact ⟨isAnswer, isPhase, returns.symm⟩

theorem answerStep_of_returned (answer : Answer) {phase : Phase}
    (returns : phase.isReturned = true) : answerStep invite session answer phase = phase := by
  cases phase with
  | returned result => cases answer <;> rfl
  | _ => cases returns

theorem Beside.waiting {waiting waits : Prop} {pool : Pool (World db) Task}
    (beside : Beside session routeSet waiting pool) (still : waits → waiting) :
    Beside session routeSet waits pool :=
  ⟨beside.tasks, fun isWaiting => beside.row (still isWaiting)⟩

/-- The recoveries keep what the function relies on. -/
theorem Beside.step (insertable : Insertable db.json session routeSet) {waiting : Prop}
    {pool : Pool (World db) Task} (beside : Beside session routeSet waiting pool) (move : Move Task)
    (concurrent : ∀ task, move = .begin task → Concurrent task) :
    Beside session routeSet waiting (TaskPool.step (work conf) pool move).2 := by
  have guarded : Guarded Concurrent (fun _ _ => True) pool move := by
    cases move with
    | begin task => exact concurrent task rfl
    | advance index => exact fun _ _ => trivial
  refine keep_step (Beside session routeSet waiting) (fun world tasks task held isConcurrent => ?_)
    (fun world earlier task later held _ => ?_) pool move beside guarded
  · refine ⟨fun other member => ?_, held.row⟩
    rcases List.mem_append.mp member with old | isNew
    · exact held.tasks other old
    · rw [List.mem_singleton.mp isNew]
      exact isConcurrent.2
  · have notWrite := held.tasks task (List.mem_append_right _ (List.mem_cons_self ..))
    obtain ⟨rest, table⟩ := work_recovery conf world notWrite
    refine ⟨fun other member => ?_, fun isWaiting => ?_⟩
    · rcases mem_advanced task member with isRest | old
      · rintro call rfl
        exact rest call isRest
      · exact held.tasks other old
    · have kept := held.row isWaiting
      rcases table with same | ⟨call, isRecovery, written⟩
      · rw [same]
        exact kept
      · rw [written]
        exact kept.recover insertable isRecovery

/-- A step of the function that waits for no answer. -/
theorem Tracks.go (tracks : Tracks session routeSet state) :
    Tracks session routeSet (act conf invite session state .go).2 := by
  obtain ⟨⟨tasks, row⟩, fixed⟩ := tracks
  rw [act]
  cases phase : state.phase with
  | stampingEstablished snapshot =>
      rw [phase] at row
      exact ⟨⟨tasks, row⟩, trivial⟩
  | marking nextState updatedAt error =>
      exact ⟨⟨tasks, fun waiting => by cases waiting⟩, trivial⟩
  | establishing snapshot establishedAt =>
      rw [phase] at row
      rcases establishing_cases invite (row rfl) snapshot establishedAt with
        ⟨error, same⟩ | ⟨table, same, _⟩
      · rw [same]
        exact ⟨⟨tasks, row⟩, trivial⟩
      · rw [same]
        exact ⟨⟨tasks, fun waiting => by cases waiting⟩, trivial⟩
  | _ =>
      rw [phase] at row fixed
      exact ⟨⟨tasks, row⟩, fixed⟩

theorem Tracks.answer (tracks : Tracks session routeSet state) (answer : Answer) :
    Tracks session routeSet (act conf invite session state (.answer answer)).2 := by
  refine ⟨tracks.beside.waiting fun waiting => ?_, answerStep_fixed answer tracks.fixed⟩
  cases before : state.phase.isReturned with
  | false => rfl
  | true =>
      rw [act, answerStep_of_returned answer before, before] at waiting
      exact waiting

/-- Every step keeps what is known of the row. -/
theorem Tracks.step (insertable : Insertable db.json session routeSet)
    (tracks : Tracks session routeSet state) (action : Action)
    (concurrent : ∀ task, action = .recovery (.begin task) → Concurrent task) :
    Tracks session routeSet (act conf invite session state action).2 := by
  cases action with
  | answer answer => exact tracks.answer answer
  | go => exact tracks.go
  | recovery move =>
      refine ⟨tracks.beside.step insertable move fun task begun => ?_, tracks.fixed⟩
      exact concurrent task (congrArg Action.recovery begun)

/-- A step that goes on and returns agrees with the row, unless the row is written off too
early. -/
theorem Tracks.go_agrees_iff (insertable : Insertable db.json session routeSet)
    (tracks : Tracks session routeSet state) :
    Agrees session.streamId state (act conf invite session state .go).2 ↔
      ¬ MarksTooEarly session.streamId state .go := by
  have fixed := tracks.fixed
  cases phase : state.phase with
  | marking nextState updatedAt error =>
      rw [phase] at fixed
      have before : state.phase.isReturned = false := by rw [phase]; rfl
      have marked : ended (SipDialogSessionRepository.step db state.pool.shared.table
          (.casTransition session.streamId session.signalNodeId 0 .inviting nextState
            updatedAt)).2 session.streamId = true ↔ _ :=
        (tracks.beside.row before).mark_iff insertable fixed
      have early : MarksTooEarly session.streamId state .go ↔
          ∃ row, state.pool.shared.table.find (db.weight session.streamId) = some row ∧
            row.state = "INVITING" ∧ updatedAt < row.updatedAt := by
        constructor
        · rintro ⟨_, _, _, row, isPhase, found, inviting, isEarly⟩
          rw [phase, Phase.marking.injEq] at isPhase
          obtain ⟨_, rfl, _⟩ := isPhase
          exact ⟨row, found, inviting, isEarly⟩
        · rintro ⟨row, found, inviting, isEarly⟩
          exact ⟨nextState, updatedAt, error, row, phase, found, inviting, isEarly⟩
      rw [early, ← marked, act, phase]
      constructor
      · intro agrees
        exact agrees (.error error) before rfl
      · intro isEnded result _ returns
        cases returns
        exact isEnded
  | establishing snapshot establishedAt =>
      apply iff_of_true
      · intro result before returns
        rw [act, phase] at returns ⊢
        rcases establishing_cases invite (tracks.beside.row before) snapshot establishedAt with
          ⟨error, same⟩ | ⟨table, same, moved⟩
        · rw [same] at returns
          cases returns
        · rw [same] at returns ⊢
          cases returns
          exact moved
      · rintro ⟨_, _, _, _, isPhase, _⟩
        rw [phase] at isPhase
        cases isPhase
  | returned isResult =>
      apply iff_of_true
      · intro result before
        rw [phase] at before
        cases before
      · rintro ⟨_, _, _, _, isPhase, _⟩
        rw [phase] at isPhase
        cases isPhase
  | _ =>
      apply iff_of_true
      · intro result before returns
        rw [act, phase] at returns
        cases returns
      · rintro ⟨_, _, _, _, isPhase, _⟩
        rw [phase] at isPhase
        cases isPhase

/-- An answer that makes the function return agrees with the row, unless the runtime is looked
up in vain. -/
theorem Tracks.answer_agrees_iff (insertable : Insertable db.json session routeSet)
    (tracks : Tracks session routeSet state) (answer : Answer) :
    Agrees session.streamId state (act conf invite session state (.answer answer)).2 ↔
      ¬ LooksUpInVain session.streamId state (.answer answer) := by
  constructor
  · intro agrees vain
    cases answer with
    | lookedUp succeeded =>
        cases succeeded with
        | true => exact vain
        | false =>
            obtain ⟨phase, inviting⟩ := vain
            have before : state.phase.isReturned = false := by rw [phase]; rfl
            have isEnded := agrees (.error .runtime) before (by rw [act, phase]; rfl)
            exact (tracks.beside.row before).ended_iff insertable |>.mp isEnded inviting
    | _ => exact vain
  · intro found result before returns
    obtain ⟨rfl, phase, rfl⟩ := answerStep_returned before returns
    exact ((tracks.beside.row before).ended_iff insertable).mpr fun inviting =>
      found ⟨phase, inviting⟩

/-- A step that returns agrees with the row, unless the runtime is looked up in vain or the
row is written off too early. -/
theorem Tracks.agrees_iff (insertable : Insertable db.json session routeSet)
    (tracks : Tracks session routeSet state) (action : Action) :
    Agrees session.streamId state (act conf invite session state action).2 ↔
      ¬ LooksUpInVain session.streamId state action ∧
        ¬ MarksTooEarly session.streamId state action := by
  cases action with
  | recovery move =>
      refine iff_of_true (fun result before returns => ?_) ⟨id, id⟩
      rw [act] at returns
      rw [returns] at before
      cases before
  | go => exact (tracks.go_agrees_iff insertable).trans (and_iff_right id).symm
  | answer answer => exact (tracks.answer_agrees_iff insertable answer).trans (and_iff_left id).symm

end Steps

/-- The state behind a successful insert. -/
def initial (invite : Invite) (world : World db) : State db := ⟨⟨world, []⟩, invite.first⟩

/-- For `invite_play_and_wait` and `accept_broadcast_invite` behind a successful insert, with
every answer of the other side and beside any recoveries: the result always agrees with the
row exactly when, while the row is in `Inviting`, `accept_broadcast_invite` does not look up a
missing SIP runtime, and neither function writes the row off at a time before the one that the
insert has stored. -/
theorem outcome_agrees_iff (db : DialogDb) (conf : Conf) (invite : Invite)
    (session : SipDialogSession) (cache : Cache) (table inserted : DialogTable db)
    (now : NaiveDateTime) (actions : List Action)
    (succeeds : insertInviting session table = (.ok (), inserted))
    (concurrent : ∀ task, .recovery (.begin task) ∈ actions → Concurrent task) :
    (∀ entry ∈ Runs.run (act conf invite session) (initial invite ⟨cache, inserted, now⟩)
        actions, Agrees session.streamId entry.before entry.after) ↔
      ∀ entry ∈ Runs.run (act conf invite session) (initial invite ⟨cache, inserted, now⟩)
        actions, ¬ LooksUpInVain session.streamId entry.before entry.action ∧
          ¬ MarksTooEarly session.streamId entry.before entry.action := by
  obtain ⟨routeSet, insertable, found⟩ := inserted_row succeeds
  have start : Tracks session routeSet (initial invite ⟨cache, inserted, now⟩) := by
    refine ⟨⟨fun task member => ?_, fun _ => Or.inl found⟩, ?_⟩
    · cases member
    · cases invite <;> trivial
  have tracked : ∀ entry ∈ Runs.run (act conf invite session)
      (initial invite ⟨cache, inserted, now⟩) actions,
      Tracks session routeSet entry.before ∧ Tracks session routeSet entry.after := by
    refine Runs.invariant_run (Tracks session routeSet)
      (fun _ action => ∀ task, action = .recovery (.begin task) → Concurrent task)
      (fun state action tracks isConcurrent => tracks.step insertable action isConcurrent) start ?_
    intro entry member task isAction
    exact concurrent task (isAction ▸ Runs.action_mem member)
  refine forall₂_congr fun entry member => ?_
  rw [Runs.mem_run member]
  exact (tracked entry member).1.agrees_iff insertable entry.action

/-- A playback dialog as the device answers it. -/
def playbackSnapshot : DialogSnapshot where
  callId := "call-stream-1"
  localTag := "tag-stream-1"
  remoteTag := "remote-tag"
  localCseq := 10
  remoteTarget := "sip:device@127.0.0.1:15060"
  routeSet := []
  localAddr := "127.0.0.1:5060"
  remoteAddr := "127.0.0.1:15060"
  protocol := .udp

def insertedPlayback : DialogTable plainDb :=
  (insertInviting playbackDialog (RowTable.empty _)).2

/-- The device accepts the INVITE of a play. -/
def acceptedPlay : List Action :=
  [.answer (.sent true), .answer (.received (.accepted playbackSnapshot)), .go, .go]

theorem outcome_agrees_iff_acceptedPlay :
    rowState (Runs.final (act recoveryConf .play playbackDialog)
      (initial .play ⟨Cache.init, insertedPlayback, millis 1000⟩) acceptedPlay).pool.shared.table
      "stream-1" = some "ESTABLISHED" := by
  have last : Runs.transition (act recoveryConf .play playbackDialog)
      (Runs.final (act recoveryConf .play playbackDialog)
        (initial .play ⟨Cache.init, insertedPlayback, millis 1000⟩) (acceptedPlay.take 3)) .go ∈
      Runs.run (act recoveryConf .play playbackDialog)
        (initial .play ⟨Cache.init, insertedPlayback, millis 1000⟩) acceptedPlay := by
    simp [acceptedPlay]
  have agrees := (outcome_agrees_iff plainDb recoveryConf .play playbackDialog Cache.init
    (RowTable.empty _) insertedPlayback (millis 1000) acceptedPlay ?_ ?_).mpr ?_ _ last
  · have split : acceptedPlay = acceptedPlay.take 3 ++ [.go] := rfl
    rw [split, Runs.final_append]
    refine (agrees (.ok ()) ?_ ?_).2 <;> decide +kernel
  · exact Prod.ext (by decide +kernel) rfl
  · simp [acceptedPlay]
  · intro entry member
    have noMark : ∀ entry ∈ Runs.run (act recoveryConf .play playbackDialog)
        (initial .play ⟨Cache.init, insertedPlayback, millis 1000⟩) acceptedPlay,
        (match entry.before.phase with | .marking .. => false | _ => true) = true := by
      decide +kernel
    have isAction := Runs.action_mem member
    constructor
    · intro vain
      cases action : entry.action with
      | answer answer =>
          rw [action] at isAction vain
          simp only [acceptedPlay, List.mem_cons, Action.answer.injEq, reduceCtorEq,
            List.not_mem_nil, or_false] at isAction
          rcases isAction with rfl | rfl <;> exact vain
      | _ =>
          rw [action] at vain
          exact vain
    · intro early
      cases action : entry.action with
      | go =>
          rw [action] at early
          obtain ⟨_, _, _, _, isPhase, _⟩ := early
          have other := noMark entry member
          rw [isPhase] at other
          cases other
      | _ =>
          rw [action] at early
          exact early

/-- The talk of a broadcast that a device invites to. -/
def broadcastDialog : SipDialogSession :=
  { playbackDialog with
    sessionType := .talk
    remoteCseq := some 20
    contactUri := some "sip:device@127.0.0.1:15060" }

def insertedBroadcast : DialogTable plainDb :=
  (insertInviting broadcastDialog (RowTable.empty _)).2

/-- The SIP runtime is missing behind the insert of a broadcast. -/
def missingRuntime : State plainDb :=
  Runs.final (act recoveryConf (.broadcast playbackSnapshot 20) broadcastDialog)
    (initial (.broadcast playbackSnapshot 20) ⟨Cache.init, insertedBroadcast, millis 1000⟩)
    [.answer (.lookedUp false)]

/-- The insert succeeds, the function returns an error, and the row stays in `Inviting`. -/
theorem missingRuntime_leaves_inviting :
    insertInviting broadcastDialog (RowTable.empty _) = (.ok (), insertedBroadcast) ∧
      missingRuntime.phase = .returned (.error .runtime) ∧
      rowState missingRuntime.pool.shared.table "stream-1" = some "INVITING" := by
  refine ⟨Prod.ext ?_ rfl, ?_, ?_⟩ <;> decide +kernel

end Gmv.Session.InviteOutcome
