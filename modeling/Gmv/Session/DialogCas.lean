import Gmv.Library.RowTable
import Gmv.Library.Runs
import Gmv.Session.DialogSession

/-!
# The dialog repository

The dialog table and the operations on it.  An operation checks its arguments and
then runs one statement, which is atomic: an insert, or an update of the row of a
stream whose `WHERE` clause compares the owner, the version and the fields the
operation depends on.  Ids of streams and nodes are compared by the collation of
their columns, and a `datetime` column rounds the times it is given; what a time is
compared with is not rounded.
-/

namespace Gmv.Session

open Gmv.Library

/-- The code outside of the repository that the rows are stored with: the serializer
of route sets, the collation of the text columns, under which texts with one weight
are equal, and what a `datetime` column keeps of a time. -/
structure DialogDb where
  json : SerdeJson
  Weight : Type
  [order : LinearOrder Weight]
  weight : String → Weight
  datetime : Rounding NaiveDateTime

attribute [instance] DialogDb.order

/-- The primary key. -/
def DialogDb.key (db : DialogDb) (row : SipDialogSessionRow) : db.Weight := db.weight row.streamId

abbrev DialogTable (db : DialogDb) := RowTable db.key

/-- A `datetime(3)` column rounds to milliseconds, from the middle up.  The driver hands
times over in microseconds, which neither changes what is stored nor how a stored time
compares. -/
def datetime3 : Rounding NaiveDateTime := .nearest 1000000 (by decide)

namespace SipDialogSessionRepository

variable {db : DialogDb}

/-- Run a statement when the checks before it pass. -/
def whenValid {α β : Type} (checks : Except DialogError α) (table : DialogTable db)
    (statement : α → Except DialogError β × DialogTable db) :
    Except DialogError β × DialogTable db :=
  match checks with
  | .error refusal => (.error refusal, table)
  | .ok value => statement value

/-- An insert of a stream that has a row violates the primary key. -/
def insertInviting (session : SipDialogSession) (table : DialogTable db) :
    Except DialogError Unit × DialogTable db :=
  let checks : Except DialogError (Option String) := do
    session.validate
    rejectIf (session.state != .inviting || session.version != 0 || session.remoteTag.isSome)
      (.invalidData "insert_inviting requires INVITING version 0 without remote_tag")
    routeSetToJson db.json session.routeSet
  whenValid checks table fun routeSet =>
    match table.insert ((session.stored db.datetime).toRow routeSet) with
    | none => (.error .database, table)
    | some next => (.ok (), next)

section CompareAndSwap

variable (streamId signalNodeId : String) (expectedVersion : Int64)

/-- The `WHERE` clause that all updates share, with the condition of one of them.  The
names of states differ in their weights, and are compared as texts. -/
def whereClause (db : DialogDb) (condition : SipDialogSessionRow → Bool)
    (row : SipDialogSessionRow) : Bool :=
  decide (db.weight row.signalNodeId = db.weight signalNodeId) && row.version == expectedVersion &&
    condition row

/-- The row an update writes. -/
def setVersion (set : SipDialogSessionRow → SipDialogSessionRow) (row : SipDialogSessionRow) :
    SipDialogSessionRow :=
  { set row with version := row.version + 1 }

theorem key_setVersion {set : SipDialogSessionRow → SipDialogSessionRow}
    (keeps : ∀ row, (set row).streamId = row.streamId) (row : SipDialogSessionRow) :
    db.key (setVersion set row) = db.key row :=
  congrArg db.weight (keeps row)

/-- An update that also sets `VERSION=VERSION+1`. The largest version has no
successor in its column, and the statement fails. -/
def compareAndSwap (condition : SipDialogSessionRow → Bool)
    (set : SipDialogSessionRow → SipDialogSessionRow)
    (keeps : ∀ row, (set row).streamId = row.streamId) (table : DialogTable db) :
    Except DialogError Bool × DialogTable db :=
  let matched := whereClause signalNodeId expectedVersion db condition
  if (table.find (db.weight streamId)).any fun row =>
      matched row && row.version == Int64.maxValue then
    (.error .database, table)
  else
    let (affected, next) :=
      table.update (db.weight streamId) matched (setVersion set) (key_setVersion keeps)
    (.ok (affected == 1), next)

/-- Every update validates the two names it is addressed by. -/
def validateAddress : Except DialogError Unit := do
  validateLen streamId 64 "stream_id"
  validateLen signalNodeId 64 "signal_node_id"

/-- A reservation takes the next sequence number. The addition wraps. -/
def validateReservation (currentCseq nextCseq : Int64) (message : String) :
    Except DialogError Unit :=
  rejectIf (decide (expectedVersion < 0) || decide (currentCseq ≤ 0) ||
      nextCseq != currentCseq + 1 || decide (2147483647 < nextCseq))
    (.invalidData message)

def isActive (row : SipDialogSessionRow) : Bool :=
  row.state == "ESTABLISHED" || row.state == "TERMINATING"

def setEstablished (db : DialogDb) (fields : EstablishedDialogFields) (routeSet : Option String)
    (row : SipDialogSessionRow) : SipDialogSessionRow :=
  { row with
    remoteTag := some fields.remoteTag
    localCseq := fields.localCseq
    remoteCseq := fields.remoteCseq
    contactUri := fields.contactUri
    routeSet := routeSet
    localSipAddr := fields.localSipAddr
    remoteSipAddr := fields.remoteSipAddr
    state := "ESTABLISHED"
    establishedAt := some (db.datetime fields.establishedAt)
    lastSeenAt := db.datetime fields.lastSeenAt
    expireAt := db.datetime fields.expireAt
    updatedAt := db.datetime fields.updatedAt }

def casMarkEstablished (fields : EstablishedDialogFields) (table : DialogTable db) :
    Except DialogError Bool × DialogTable db :=
  let checks : Except DialogError (Option String) := do
    validateAddress streamId signalNodeId
    fields.validate
    rejectIf (decide (expectedVersion < 0))
      (.invalidData "expected_version must not be negative")
    routeSetToJson db.json fields.routeSet
  whenValid checks table fun routeSet =>
    compareAndSwap streamId signalNodeId expectedVersion
      (fun row => row.state == "INVITING" && decide (row.createdAt ≤ fields.establishedAt) &&
        decide (row.updatedAt ≤ fields.updatedAt))
      (setEstablished db fields routeSet) (fun _ => rfl) table

def casBeginTerminating (currentCseq nextCseq : Int64) (updatedAt : NaiveDateTime)
    (table : DialogTable db) : Except DialogError Bool × DialogTable db :=
  let checks : Except DialogError Unit := do
    validateAddress streamId signalNodeId
    validateReservation expectedVersion currentCseq nextCseq
      "invalid terminating CSeq reservation"
  whenValid checks table fun _ =>
    compareAndSwap streamId signalNodeId expectedVersion
      (fun row => row.state == "ESTABLISHED" && row.localCseq == currentCseq &&
        decide (row.updatedAt ≤ updatedAt))
      (fun row => { row with
        localCseq := nextCseq
        state := "TERMINATING"
        updatedAt := db.datetime updatedAt })
      (fun _ => rfl) table

def casTransition (expectedState nextState : DialogState) (updatedAt : NaiveDateTime)
    (table : DialogTable db) : Except DialogError Bool × DialogTable db :=
  let checks : Except DialogError Unit := do
    validateAddress streamId signalNodeId
    rejectIf (decide (expectedVersion < 0) || expectedState.isTerminal ||
        !expectedState.canTransitionTo nextState)
      (.invalidData "invalid dialog state transition")
  whenValid checks table fun _ =>
    compareAndSwap streamId signalNodeId expectedVersion
      (fun row => row.state == expectedState.toText && decide (row.updatedAt ≤ updatedAt))
      (fun row => { row with state := nextState.toText, updatedAt := db.datetime updatedAt })
      (fun _ => rfl) table

def casReserveLocalCseq (currentCseq nextCseq : Int64) (updatedAt : NaiveDateTime)
    (table : DialogTable db) : Except DialogError Bool × DialogTable db :=
  let checks : Except DialogError Unit := do
    validateAddress streamId signalNodeId
    validateReservation expectedVersion currentCseq nextCseq "invalid local CSeq reservation"
  whenValid checks table fun _ =>
    compareAndSwap streamId signalNodeId expectedVersion
      (fun row => isActive row && row.localCseq == currentCseq &&
        decide (row.updatedAt ≤ updatedAt))
      (fun row => { row with localCseq := nextCseq, updatedAt := db.datetime updatedAt })
      (fun _ => rfl) table

def casTouch (lastSeenAt expireAt : NaiveDateTime) (table : DialogTable db) :
    Except DialogError Bool × DialogTable db :=
  let checks : Except DialogError Unit := do
    validateAddress streamId signalNodeId
    rejectIf (decide (expectedVersion < 0) || decide (expireAt ≤ lastSeenAt))
      (.invalidData "invalid dialog activity timestamps")
  whenValid checks table fun _ =>
    compareAndSwap streamId signalNodeId expectedVersion
      (fun row => isActive row && decide (row.lastSeenAt ≤ lastSeenAt) &&
        decide (row.updatedAt ≤ lastSeenAt))
      (fun row => { row with
        lastSeenAt := db.datetime lastSeenAt
        expireAt := db.datetime expireAt
        updatedAt := db.datetime lastSeenAt })
      (fun _ => rfl) table

end CompareAndSwap

/-- One call of one client. -/
inductive Call where
  | insertInviting (session : SipDialogSession)
  | casMarkEstablished (streamId signalNodeId : String) (expectedVersion : Int64)
      (fields : EstablishedDialogFields)
  | casBeginTerminating (streamId signalNodeId : String)
      (expectedVersion currentCseq nextCseq : Int64) (updatedAt : NaiveDateTime)
  | casTransition (streamId signalNodeId : String) (expectedVersion : Int64)
      (expectedState nextState : DialogState) (updatedAt : NaiveDateTime)
  | casReserveLocalCseq (streamId signalNodeId : String)
      (expectedVersion currentCseq nextCseq : Int64) (updatedAt : NaiveDateTime)
  | casTouch (streamId signalNodeId : String) (expectedVersion : Int64)
      (lastSeenAt expireAt : NaiveDateTime)

def Call.streamId : Call → String
  | insertInviting session => session.streamId
  | casMarkEstablished streamId .. => streamId
  | casBeginTerminating streamId .. => streamId
  | casTransition streamId .. => streamId
  | casReserveLocalCseq streamId .. => streamId
  | casTouch streamId .. => streamId

def Call.signalNodeId : Call → String
  | insertInviting session => session.signalNodeId
  | casMarkEstablished _ signalNodeId .. => signalNodeId
  | casBeginTerminating _ signalNodeId .. => signalNodeId
  | casTransition _ signalNodeId .. => signalNodeId
  | casReserveLocalCseq _ signalNodeId .. => signalNodeId
  | casTouch _ signalNodeId .. => signalNodeId

/-- The effect of a call. An insert that succeeds counts as `true`. -/
def step (db : DialogDb) (table : DialogTable db) :
    Call → Except DialogError Bool × DialogTable db
  | .insertInviting session =>
      let (result, next) := insertInviting session table
      (result.map fun _ => true, next)
  | .casMarkEstablished streamId signalNodeId expectedVersion fields =>
      casMarkEstablished streamId signalNodeId expectedVersion fields table
  | .casBeginTerminating streamId signalNodeId expectedVersion currentCseq nextCseq updatedAt =>
      casBeginTerminating streamId signalNodeId expectedVersion currentCseq nextCseq updatedAt
        table
  | .casTransition streamId signalNodeId expectedVersion expectedState nextState updatedAt =>
      casTransition streamId signalNodeId expectedVersion expectedState nextState updatedAt table
  | .casReserveLocalCseq streamId signalNodeId expectedVersion currentCseq nextCseq updatedAt =>
      casReserveLocalCseq streamId signalNodeId expectedVersion currentCseq nextCseq updatedAt
        table
  | .casTouch streamId signalNodeId expectedVersion lastSeenAt expireAt =>
      casTouch streamId signalNodeId expectedVersion lastSeenAt expireAt table

/-- The outcome of a call that wrote one row. -/
structure Stores (table : DialogTable db) (outcome : Except DialogError Bool × DialogTable db)
    (row : SipDialogSessionRow) : Prop where
  succeeds : outcome.1 = .ok true
  found : outcome.2.find (db.key row) = some row
  frame : ∀ other, other ≠ db.key row → outcome.2.find other = table.find other

/-- The outcome of a call that wrote nothing. -/
structure Refuses (table : DialogTable db) (outcome : Except DialogError Bool × DialogTable db) :
    Prop where
  fails : outcome.1 ≠ .ok true
  same : outcome.2 = table

theorem refuses_error (table : DialogTable db) (refusal : DialogError) :
    Refuses table (.error refusal, table) := by
  constructor
  · intro same
    cases same
  · rfl

/-- The session and the stored route set of an insert that passes its checks. -/
structure Insertable (json : SerdeJson) (session : SipDialogSession)
    (routeSet : Option String) : Prop where
  valid : session.Valid
  inviting : session.state = .inviting
  version : session.version = 0
  remoteTag : session.remoteTag = none
  stored : routeSetToJson json session.routeSet = .ok routeSet

/-- An update with names that pass their checks, and a row of the node that it names,
whose version it can raise. -/
structure Addressed (db : DialogDb) (row : SipDialogSessionRow) (call : Call) : Prop where
  streamId : validateLen call.streamId 64 "stream_id" = .ok ()
  signalNodeId : validateLen call.signalNodeId 64 "signal_node_id" = .ok ()
  owner : db.weight row.signalNodeId = db.weight call.signalNodeId
  version : 0 ≤ row.version
  successor : row.version ≠ Int64.maxValue

/-- The reservation of the sequence number after that of a row. -/
structure Reserves (row : SipDialogSessionRow) (currentCseq nextCseq : Int64) : Prop where
  current : row.localCseq = currentCseq
  positive : 0 < currentCseq
  next : nextCseq = currentCseq + 1
  bound : nextCseq ≤ 2147483647

/-- The updates a row accepts, and the row each of them writes. -/
inductive Changes (db : DialogDb) (row : SipDialogSessionRow) :
    Call → SipDialogSessionRow → Prop
  | markEstablished {streamId signalNodeId : String} {fields : EstablishedDialogFields}
      {routeSet : Option String} (valid : fields.Valid)
      (stored : routeSetToJson db.json fields.routeSet = .ok routeSet)
      (inviting : row.state = "INVITING") (created : row.createdAt ≤ fields.establishedAt)
      (updated : row.updatedAt ≤ fields.updatedAt) :
      Changes db row (.casMarkEstablished streamId signalNodeId row.version fields)
        { setEstablished db fields routeSet row with version := row.version + 1 }
  | beginTerminating {streamId signalNodeId : String} {currentCseq nextCseq : Int64}
      {updatedAt : NaiveDateTime} (reserves : Reserves row currentCseq nextCseq)
      (established : row.state = "ESTABLISHED") (updated : row.updatedAt ≤ updatedAt) :
      Changes db row
        (.casBeginTerminating streamId signalNodeId row.version currentCseq nextCseq updatedAt)
        { row with
          localCseq := nextCseq
          state := "TERMINATING"
          updatedAt := db.datetime updatedAt
          version := row.version + 1 }
  | transition {streamId signalNodeId : String} {expectedState nextState : DialogState}
      {updatedAt : NaiveDateTime} (allowed : expectedState.canTransitionTo nextState = true)
      (expected : row.state = expectedState.toText) (updated : row.updatedAt ≤ updatedAt) :
      Changes db row
        (.casTransition streamId signalNodeId row.version expectedState nextState updatedAt)
        { row with
          state := nextState.toText
          updatedAt := db.datetime updatedAt
          version := row.version + 1 }
  | reserveLocalCseq {streamId signalNodeId : String} {currentCseq nextCseq : Int64}
      {updatedAt : NaiveDateTime} (reserves : Reserves row currentCseq nextCseq)
      (active : isActive row = true) (updated : row.updatedAt ≤ updatedAt) :
      Changes db row
        (.casReserveLocalCseq streamId signalNodeId row.version currentCseq nextCseq updatedAt)
        { row with
          localCseq := nextCseq
          updatedAt := db.datetime updatedAt
          version := row.version + 1 }
  | touch {streamId signalNodeId : String} {lastSeenAt expireAt : NaiveDateTime}
      (lives : lastSeenAt < expireAt) (active : isActive row = true)
      (seen : row.lastSeenAt ≤ lastSeenAt) (updated : row.updatedAt ≤ lastSeenAt) :
      Changes db row (.casTouch streamId signalNodeId row.version lastSeenAt expireAt)
        { row with
          lastSeenAt := db.datetime lastSeenAt
          expireAt := db.datetime expireAt
          updatedAt := db.datetime lastSeenAt
          version := row.version + 1 }

section Inversion

theorem whenValid_cases {α β : Type} (checks : Except DialogError α) (table : DialogTable db)
    (statement : α → Except DialogError β × DialogTable db) :
    (∃ refusal, whenValid checks table statement = (.error refusal, table)) ∨
      ∃ value, checks = .ok value ∧ whenValid checks table statement = statement value := by
  cases checks with
  | error refusal => exact .inl ⟨refusal, rfl⟩
  | ok value => exact .inr ⟨value, rfl, rfl⟩

theorem whenValid_ok {α β : Type} {checks : Except DialogError α} {table : DialogTable db}
    {statement : α → Except DialogError β × DialogTable db} (value : α)
    (passed : checks = .ok value) : whenValid checks table statement = statement value := by
  subst passed
  rfl

theorem insertInviting_cases (table : DialogTable db) (session : SipDialogSession) :
    Refuses table (step db table (.insertInviting session)) ∨
      ∃ routeSet, Insertable db.json session routeSet ∧
        table.find (db.weight session.streamId) = none ∧
        Stores table (step db table (.insertInviting session))
          ((session.stored db.datetime).toRow routeSet) := by
  simp only [step, insertInviting]
  rcases whenValid_cases _ table _ with ⟨refusal, refused⟩ | ⟨routeSet, passed, ran⟩
  · rw [refused]
    exact .inl (refuses_error table _)
  · rw [ran]
    simp only [check_bind_eq_ok, check_unit, rejectIf_eq_ok, SipDialogSession.validate_eq_ok,
      Bool.or_eq_false_iff, bne_eq_false_iff_eq, Option.isSome_eq_false_iff,
      Option.isNone_iff_eq_none] at passed
    obtain ⟨valid, ⟨⟨inviting, version⟩, remoteTag⟩, stored⟩ := passed
    rcases table.insert_cases ((session.stored db.datetime).toRow routeSet) with
      ⟨taken, -⟩ | ⟨next, inserted, free, found, frame⟩
    · rw [taken]
      exact .inl (refuses_error table _)
    · rw [inserted]
      exact .inr ⟨routeSet, ⟨valid, inviting, version, remoteTag, stored⟩, free, rfl, found, frame⟩

variable (streamId signalNodeId : String) (expectedVersion : Int64)
  (condition : SipDialogSessionRow → Bool) (set : SipDialogSessionRow → SipDialogSessionRow)
  (keeps : ∀ row, (set row).streamId = row.streamId) (table : DialogTable db)

/-- The row that an update rewrites. -/
structure Matches (row : SipDialogSessionRow) : Prop where
  found : table.find (db.weight streamId) = some row
  signalNodeId : db.weight row.signalNodeId = db.weight signalNodeId
  version : row.version = expectedVersion
  condition : condition row = true
  successor : row.version ≠ Int64.maxValue

theorem compareAndSwap_matched {row : SipDialogSessionRow}
    (matched : Matches streamId signalNodeId expectedVersion condition table row) :
    Stores table (compareAndSwap streamId signalNodeId expectedVersion condition set keeps table)
      (setVersion set row) := by
  have holds : whereClause signalNodeId expectedVersion db condition row = true := by
    simp [whereClause, matched.signalNodeId, matched.version, matched.condition]
  have keyed : db.key (setVersion set row) = db.weight streamId :=
    (key_setVersion keeps row).trans (RowTable.find_eq_some.mp matched.found).2
  obtain ⟨affected, written⟩ := table.update_matched (db.weight streamId) _ (setVersion set)
    (key_setVersion keeps) matched.found holds
  have notLast : ((table.find (db.weight streamId)).any fun row =>
      whereClause signalNodeId expectedVersion db condition row &&
        row.version == Int64.maxValue) = false := by
    simp [matched.found, matched.successor]
  simp only [compareAndSwap, notLast, Bool.false_eq_true, if_false]
  constructor
  · rw [affected]
    rfl
  · rw [keyed]
    exact written
  · intro other different
    rw [keyed] at different
    exact table.update_of_other _ _ (setVersion set) (key_setVersion keeps) different

theorem compareAndSwap_unmatched
    (unmatched : ∀ row, ¬Matches streamId signalNodeId expectedVersion condition table row) :
    Refuses table
      (compareAndSwap streamId signalNodeId expectedVersion condition set keeps table) := by
  unfold compareAndSwap
  dsimp only
  split
  · exact refuses_error table _
  · next notLast =>
      rw [Bool.not_eq_true, Option.any_eq_false] at notLast
      have fails : ∀ row, table.find (db.weight streamId) = some row →
          whereClause signalNodeId expectedVersion db condition row = false := by
        intro row found
        by_contra matched
        rw [Bool.not_eq_false] at matched
        have successor := notLast row found
        rw [matched, Bool.true_and, beq_eq_false_iff_ne] at successor
        simp only [whereClause, Bool.and_eq_true, beq_iff_eq, decide_eq_true_eq] at matched
        obtain ⟨⟨signalNodeId, version⟩, condition⟩ := matched
        exact unmatched row ⟨found, signalNodeId, version, condition, successor⟩
      rw [table.update_unmatched (db.weight streamId) _ (setVersion set) _ fails]
      exact ⟨by simp, rfl⟩

theorem compareAndSwap_cases :
    Refuses table
        (compareAndSwap streamId signalNodeId expectedVersion condition set keeps table) ∨
      ∃ row, Matches streamId signalNodeId expectedVersion condition table row ∧
        Stores table
          (compareAndSwap streamId signalNodeId expectedVersion condition set keeps table)
          (setVersion set row) := by
  by_cases matched : ∃ row, Matches streamId signalNodeId expectedVersion condition table row
  · obtain ⟨row, matched⟩ := matched
    exact .inr ⟨row, matched, compareAndSwap_matched _ _ _ _ _ keeps _ matched⟩
  · apply Or.inl
    apply compareAndSwap_unmatched
    exact not_exists.mp matched

end Inversion

/-- A reservation that passes its checks on a matching row. -/
theorem validateReservation_eq_ok {expectedVersion currentCseq nextCseq : Int64}
    {message : String} {value : Unit} :
    validateReservation expectedVersion currentCseq nextCseq message = .ok value ↔
      0 ≤ expectedVersion ∧ 0 < currentCseq ∧ nextCseq = currentCseq + 1 ∧
        nextCseq ≤ 2147483647 := by
  simp only [validateReservation, rejectIf_eq_ok, Bool.or_eq_false_iff, decide_eq_false_iff_not,
    bne_eq_false_iff_eq, Int64.not_lt, Int64.not_le, and_assoc]

theorem validateAddress_eq_ok {streamId signalNodeId : String} :
    validateAddress streamId signalNodeId = .ok () ↔
      validateLen streamId 64 "stream_id" = .ok () ∧
        validateLen signalNodeId 64 "signal_node_id" = .ok () := by
  simp only [validateAddress, check_bind_eq_ok, check_unit]

/-- What a call that succeeds does. -/
inductive Succeeds (table : DialogTable db) (call : Call) : Prop
  | inserted {session : SipDialogSession} {routeSet : Option String}
      (called : call = .insertInviting session)
      (insertable : Insertable db.json session routeSet)
      (free : table.find (db.weight session.streamId) = none)
      (stores : Stores table (step db table call) ((session.stored db.datetime).toRow routeSet))
  | changed {row next : SipDialogSessionRow}
      (found : table.find (db.weight call.streamId) = some row)
      (addressed : Addressed db row call) (changes : Changes db row call next)
      (stores : Stores table (step db table call) next)

section Steps

variable {table : DialogTable db} {call : Call} {α : Type}
  {checks : Except DialogError α} {expectedVersion : Int64}
  {condition : α → SipDialogSessionRow → Bool}
  {set : α → SipDialogSessionRow → SipDialogSessionRow}
  {keeps : ∀ value row, (set value row).streamId = row.streamId}

/-- A checked update writes nothing or succeeds, when it changes the rows it
matches as a call may. -/
theorem swap_cases
    (ran : step db table call = whenValid checks table fun value =>
      compareAndSwap call.streamId call.signalNodeId expectedVersion (condition value) (set value)
        (keeps value) table)
    (address : ∀ value, checks = .ok value →
      validateAddress call.streamId call.signalNodeId = .ok () ∧ 0 ≤ expectedVersion)
    (changes : ∀ value row, checks = .ok value → row.version = expectedVersion →
      condition value row = true → Changes db row call (setVersion (set value) row)) :
    Refuses table (step db table call) ∨ Succeeds table call := by
  rcases whenValid_cases checks table fun value =>
      compareAndSwap call.streamId call.signalNodeId expectedVersion (condition value) (set value)
        (keeps value) table with ⟨refusal, refused⟩ | ⟨value, passed, swapped⟩
  · rw [ran, refused]
    exact .inl (refuses_error table _)
  · have outcome := ran.trans swapped
    rcases compareAndSwap_cases call.streamId call.signalNodeId expectedVersion (condition value)
        (set value) (keeps value) table with refuses | ⟨row, matched, stores⟩
    · rw [outcome]
      exact .inl refuses
    · obtain ⟨idValid, nodeValid⟩ := validateAddress_eq_ok.mp (address value passed).1
      have addressed : Addressed db row call := by
        refine ⟨idValid, nodeValid, matched.signalNodeId, ?_, matched.successor⟩
        rw [matched.version]
        exact (address value passed).2
      rw [← outcome] at stores
      exact .inr (.changed matched.found addressed
        (changes value row passed matched.version matched.condition) stores)

end Steps

/-- A call writes nothing or succeeds. -/
theorem step_cases (table : DialogTable db) (call : Call) :
    Refuses table (step db table call) ∨ Succeeds table call := by
  cases call with
  | insertInviting session =>
      rcases insertInviting_cases table session with
        refuses | ⟨routeSet, insertable, free, stores⟩
      · exact .inl refuses
      · exact .inr (.inserted rfl insertable free stores)
  | casMarkEstablished streamId signalNodeId expectedVersion fields =>
      apply swap_cases rfl
      · intro routeSet passed
        simp only [check_bind_eq_ok, check_unit, rejectIf_eq_ok, decide_eq_false_iff_not,
          Int64.not_lt] at passed
        exact ⟨passed.1, passed.2.2.1⟩
      · rintro routeSet row passed rfl condition
        simp only [check_bind_eq_ok, check_unit, EstablishedDialogFields.validate_eq_ok] at passed
        simp only [Bool.and_eq_true, beq_iff_eq, decide_eq_true_eq] at condition
        exact .markEstablished passed.2.1 passed.2.2.2 condition.1.1 condition.1.2 condition.2
  | casBeginTerminating streamId signalNodeId expectedVersion currentCseq nextCseq updatedAt =>
      apply swap_cases rfl
      · intro value passed
        simp only [check_bind_eq_ok, check_unit, validateReservation_eq_ok] at passed
        exact ⟨passed.1, passed.2.1⟩
      · rintro value row passed rfl condition
        simp only [check_bind_eq_ok, check_unit, validateReservation_eq_ok] at passed
        simp only [Bool.and_eq_true, beq_iff_eq, decide_eq_true_eq] at condition
        obtain ⟨-, -, positive, next, bound⟩ := passed
        exact .beginTerminating ⟨condition.1.2, positive, next, bound⟩ condition.1.1 condition.2
  | casTransition streamId signalNodeId expectedVersion expectedState nextState updatedAt =>
      apply swap_cases rfl
      · intro value passed
        simp only [check_bind_eq_ok, check_unit, rejectIf_eq_ok, Bool.or_eq_false_iff,
          decide_eq_false_iff_not, Int64.not_lt] at passed
        exact ⟨passed.1, passed.2.1.1⟩
      · rintro value row passed rfl condition
        simp only [check_bind_eq_ok, check_unit, rejectIf_eq_ok, Bool.or_eq_false_iff,
          Bool.not_eq_false'] at passed
        simp only [Bool.and_eq_true, beq_iff_eq, decide_eq_true_eq] at condition
        exact .transition passed.2.2 condition.1 condition.2
  | casReserveLocalCseq streamId signalNodeId expectedVersion currentCseq nextCseq updatedAt =>
      apply swap_cases rfl
      · intro value passed
        simp only [check_bind_eq_ok, check_unit, validateReservation_eq_ok] at passed
        exact ⟨passed.1, passed.2.1⟩
      · rintro value row passed rfl condition
        simp only [check_bind_eq_ok, check_unit, validateReservation_eq_ok] at passed
        simp only [Bool.and_eq_true, beq_iff_eq, decide_eq_true_eq] at condition
        obtain ⟨-, -, positive, next, bound⟩ := passed
        exact .reserveLocalCseq ⟨condition.1.2, positive, next, bound⟩ condition.1.1 condition.2
  | casTouch streamId signalNodeId expectedVersion lastSeenAt expireAt =>
      apply swap_cases rfl
      · intro value passed
        simp only [check_bind_eq_ok, check_unit, rejectIf_eq_ok, Bool.or_eq_false_iff,
          decide_eq_false_iff_not, Int64.not_lt] at passed
        exact ⟨passed.1, passed.2.1⟩
      · rintro value row passed rfl condition
        simp only [check_bind_eq_ok, check_unit, rejectIf_eq_ok, Bool.or_eq_false_iff,
          decide_eq_false_iff_not, Int.not_le] at passed
        simp only [Bool.and_eq_true, decide_eq_true_eq] at condition
        exact .touch passed.2.2 condition.1.1 condition.1.2 condition.2

/-- A session that passes the checks of an insert is stored when its stream has no row. -/
theorem step_of_insertable {table : DialogTable db} {session : SipDialogSession}
    {routeSet : Option String} (insertable : Insertable db.json session routeSet)
    (free : table.find (db.weight session.streamId) = none) :
    Stores table (step db table (.insertInviting session))
      ((session.stored db.datetime).toRow routeSet) := by
  simp only [step, insertInviting]
  rw [whenValid_ok routeSet ?passed]
  case passed =>
    simp only [check_bind_eq_ok, check_unit, rejectIf_eq_ok, SipDialogSession.validate_eq_ok,
      Bool.or_eq_false_iff, bne_eq_false_iff_eq, Option.isSome_eq_false_iff,
      Option.isNone_iff_eq_none]
    exact ⟨insertable.valid, ⟨⟨insertable.inviting, insertable.version⟩, insertable.remoteTag⟩,
      insertable.stored⟩
  rcases table.insert_cases ((session.stored db.datetime).toRow routeSet) with
    ⟨-, taken⟩ | ⟨next, inserted, -, found, frame⟩
  · exact absurd free taken
  · rw [inserted]
    exact ⟨rfl, found, frame⟩

/-- The changes a row accepts are calls that succeed on it. -/
theorem step_of_changes {table : DialogTable db} {call : Call} {row next : SipDialogSessionRow}
    (found : table.find (db.weight call.streamId) = some row) (addressed : Addressed db row call)
    (changes : Changes db row call next) : Stores table (step db table call) next := by
  have address : validateAddress call.streamId call.signalNodeId = .ok () :=
    validateAddress_eq_ok.mpr ⟨addressed.streamId, addressed.signalNodeId⟩
  have version := addressed.version
  cases changes with
  | markEstablished valid stored inviting created updated =>
      simp only [step, casMarkEstablished]
      rw [whenValid_ok _ ?passed]
      case passed =>
        simp only [check_bind_eq_ok, check_unit, rejectIf_eq_ok, decide_eq_false_iff_not,
          Int64.not_lt, EstablishedDialogFields.validate_eq_ok]
        exact ⟨address, valid, version, stored⟩
      apply compareAndSwap_matched
      exact ⟨found, addressed.owner, rfl, by simp [inviting, created, updated],
        addressed.successor⟩
  | beginTerminating reserves established updated =>
      simp only [step, casBeginTerminating]
      rw [whenValid_ok () ?passed]
      case passed =>
        simp only [check_bind_eq_ok, check_unit, validateReservation_eq_ok]
        exact ⟨address, version, reserves.positive, reserves.next, reserves.bound⟩
      apply compareAndSwap_matched
      exact ⟨found, addressed.owner, rfl, by simp [established, reserves.current, updated],
        addressed.successor⟩
  | transition allowed expected updated =>
      simp only [step, casTransition]
      rw [whenValid_ok () ?passed]
      case passed =>
        simp only [check_bind_eq_ok, check_unit, rejectIf_eq_ok, Bool.or_eq_false_iff,
          decide_eq_false_iff_not, Int64.not_lt, Bool.not_eq_false']
        exact ⟨address, ⟨version, DialogState.not_terminal_of_canTransitionTo allowed⟩, allowed⟩
      apply compareAndSwap_matched
      exact ⟨found, addressed.owner, rfl, by simp [expected, updated], addressed.successor⟩
  | reserveLocalCseq reserves active updated =>
      simp only [step, casReserveLocalCseq]
      rw [whenValid_ok () ?passed]
      case passed =>
        simp only [check_bind_eq_ok, check_unit, validateReservation_eq_ok]
        exact ⟨address, version, reserves.positive, reserves.next, reserves.bound⟩
      apply compareAndSwap_matched
      exact ⟨found, addressed.owner, rfl, by simp [active, reserves.current, updated],
        addressed.successor⟩
  | touch lives active seen updated =>
      simp only [step, casTouch]
      rw [whenValid_ok () ?passed]
      case passed =>
        simp only [check_bind_eq_ok, check_unit, rejectIf_eq_ok, Bool.or_eq_false_iff,
          decide_eq_false_iff_not, Int64.not_lt, Int.not_le]
        exact ⟨address, version, lives⟩
      apply compareAndSwap_matched
      exact ⟨found, addressed.owner, rfl, by simp [active, seen, updated], addressed.successor⟩

end SipDialogSessionRepository

end Gmv.Session
