import Gmv.Library.TableMirror
import Gmv.Session.DialogCas
import Gmv.Session.DialogLoadable

/-!
# The test storage of the dialog repository

Built for tests, the operations of the repository run on a map of sessions
instead of the table.  Each compare-and-swap makes its checks first, in either
build; then the map's branch looks the session up, compares it field by field,
assigns and adds one to its version, where the table's branch runs an update.
The map tells apart the spellings of an id that are one id to the table.
Arithmetic wraps; in a build that checks it, adding one to the largest version
panics instead.
-/

namespace Gmv.Session

open Gmv.Library

abbrev TestStorage := String → Option SipDialogSession

namespace SipDialogSessionRepository

variable {db : DialogDb}

/-- A compare-and-swap on the map: its checks, the sessions it loses to, and its
assignments but that of the version. -/
structure TestBranch where
  checks : Except DialogError Unit
  loses : SipDialogSession → Bool
  assign : SipDialogSession → SipDialogSession

def TestBranch.run (branch : TestBranch) (streamId : String) (storage : TestStorage) :
    Except DialogError Bool × TestStorage :=
  match branch.checks with
  | .error refusal => (.error refusal, storage)
  | .ok _ =>
      match storage streamId with
      | none => (.ok false, storage)
      | some session =>
          if branch.loses session then (.ok false, storage)
          else
            let assigned := branch.assign session
            (.ok true, Function.update storage streamId
              (some { assigned with version := assigned.version + 1 }))

namespace TestBranch

variable (streamId signalNodeId : String) (expectedVersion : Int64)

def casMarkEstablished (fields : EstablishedDialogFields) : TestBranch where
  checks := do
    validateAddress streamId signalNodeId
    fields.validate
    rejectIf (decide (expectedVersion < 0))
      (.invalidData "expected_version must not be negative")
  loses session :=
    session.version != expectedVersion || session.state != .inviting ||
      session.signalNodeId != signalNodeId ||
      decide (fields.establishedAt < session.createdAt) ||
      decide (fields.updatedAt < session.updatedAt)
  assign session :=
    { session with
      remoteTag := some fields.remoteTag
      localCseq := fields.localCseq
      remoteCseq := fields.remoteCseq
      contactUri := fields.contactUri
      routeSet := fields.routeSet
      localSipAddr := fields.localSipAddr
      remoteSipAddr := fields.remoteSipAddr
      state := .established
      establishedAt := some fields.establishedAt
      lastSeenAt := fields.lastSeenAt
      expireAt := fields.expireAt
      updatedAt := fields.updatedAt }

def casBeginTerminating (currentCseq nextCseq : Int64) (updatedAt : NaiveDateTime) :
    TestBranch where
  checks := do
    validateAddress streamId signalNodeId
    validateReservation expectedVersion currentCseq nextCseq
      "invalid terminating CSeq reservation"
  loses session :=
    session.version != expectedVersion || session.state != .established ||
      session.signalNodeId != signalNodeId || session.localCseq != currentCseq ||
      decide (updatedAt < session.updatedAt)
  assign session :=
    { session with localCseq := nextCseq, state := .terminating, updatedAt := updatedAt }

def casTransition (expectedState nextState : DialogState) (updatedAt : NaiveDateTime) :
    TestBranch where
  checks := do
    validateAddress streamId signalNodeId
    rejectIf (decide (expectedVersion < 0) || expectedState.isTerminal ||
        !expectedState.canTransitionTo nextState)
      (.invalidData "invalid dialog state transition")
  loses session :=
    session.version != expectedVersion || session.state != expectedState ||
      session.signalNodeId != signalNodeId || decide (updatedAt < session.updatedAt)
  assign session := { session with state := nextState, updatedAt := updatedAt }

def casReserveLocalCseq (currentCseq nextCseq : Int64) (updatedAt : NaiveDateTime) :
    TestBranch where
  checks := do
    validateAddress streamId signalNodeId
    validateReservation expectedVersion currentCseq nextCseq "invalid local CSeq reservation"
  loses session :=
    session.version != expectedVersion || session.signalNodeId != signalNodeId ||
      session.localCseq != currentCseq || decide (updatedAt < session.updatedAt) ||
      !(session.state == .established || session.state == .terminating)
  assign session := { session with localCseq := nextCseq, updatedAt := updatedAt }

/-- Here nothing is compared with `updated_at`, which keeps its value when it is later. -/
def casTouch (lastSeenAt expireAt : NaiveDateTime) : TestBranch where
  checks := do
    validateAddress streamId signalNodeId
    rejectIf (decide (expectedVersion < 0) || decide (expireAt ≤ lastSeenAt))
      (.invalidData "invalid dialog activity timestamps")
  loses session :=
    session.version != expectedVersion || session.signalNodeId != signalNodeId ||
      decide (lastSeenAt < session.lastSeenAt) ||
      !(session.state == .established || session.state == .terminating)
  assign session :=
    { session with
      lastSeenAt := lastSeenAt
      expireAt := expireAt
      updatedAt := max lastSeenAt session.updatedAt }

/-- The session that a branch rewrites. -/
structure Takes (branch : TestBranch) (streamId : String) (storage : TestStorage)
    (session : SipDialogSession) : Prop where
  passed : branch.checks = .ok ()
  found : storage streamId = some session
  wins : branch.loses session = false

end TestBranch

/-- The five compare-and-swap operations, with what each takes beside the stream,
the owner and the version. -/
inductive CasOperation where
  | markEstablished (fields : EstablishedDialogFields)
  | beginTerminating (currentCseq nextCseq : Int64) (updatedAt : NaiveDateTime)
  | transition (expectedState nextState : DialogState) (updatedAt : NaiveDateTime)
  | reserveLocalCseq (currentCseq nextCseq : Int64) (updatedAt : NaiveDateTime)
  | touch (lastSeenAt expireAt : NaiveDateTime)

namespace CasOperation

variable (streamId signalNodeId : String) (expectedVersion : Int64)

/-- The operation in a build for tests. -/
def testBranch : CasOperation → TestBranch
  | markEstablished fields => .casMarkEstablished streamId signalNodeId expectedVersion fields
  | beginTerminating currentCseq nextCseq updatedAt =>
      .casBeginTerminating streamId signalNodeId expectedVersion currentCseq nextCseq updatedAt
  | transition expectedState nextState updatedAt =>
      .casTransition streamId signalNodeId expectedVersion expectedState nextState updatedAt
  | reserveLocalCseq currentCseq nextCseq updatedAt =>
      .casReserveLocalCseq streamId signalNodeId expectedVersion currentCseq nextCseq updatedAt
  | touch lastSeenAt expireAt =>
      .casTouch streamId signalNodeId expectedVersion lastSeenAt expireAt

/-- The operation in production. -/
def runUpdate (table : DialogTable db) :
    CasOperation → Except DialogError Bool × DialogTable db
  | markEstablished fields =>
      casMarkEstablished streamId signalNodeId expectedVersion fields table
  | beginTerminating currentCseq nextCseq updatedAt =>
      casBeginTerminating streamId signalNodeId expectedVersion currentCseq nextCseq updatedAt
        table
  | transition expectedState nextState updatedAt =>
      casTransition streamId signalNodeId expectedVersion expectedState nextState updatedAt table
  | reserveLocalCseq currentCseq nextCseq updatedAt =>
      casReserveLocalCseq streamId signalNodeId expectedVersion currentCseq nextCseq updatedAt
        table
  | touch lastSeenAt expireAt =>
      casTouch streamId signalNodeId expectedVersion lastSeenAt expireAt table

/-- What the update asks of a session beside its names. -/
def asks (session : SipDialogSession) : CasOperation → Bool
  | markEstablished fields =>
      session.version == expectedVersion && session.state == .inviting &&
        decide (session.createdAt ≤ fields.establishedAt) &&
        decide (session.updatedAt ≤ fields.updatedAt)
  | beginTerminating currentCseq _ updatedAt =>
      session.version == expectedVersion && session.state == .established &&
        session.localCseq == currentCseq && decide (session.updatedAt ≤ updatedAt)
  | transition expectedState _ updatedAt =>
      session.version == expectedVersion && session.state == expectedState &&
        decide (session.updatedAt ≤ updatedAt)
  | reserveLocalCseq currentCseq _ updatedAt =>
      session.version == expectedVersion &&
        (session.state == .established || session.state == .terminating) &&
        session.localCseq == currentCseq && decide (session.updatedAt ≤ updatedAt)
  | touch lastSeenAt _ =>
      session.version == expectedVersion &&
        (session.state == .established || session.state == .terminating) &&
        decide (session.lastSeenAt ≤ lastSeenAt) && decide (session.updatedAt ≤ lastSeenAt)

end CasOperation

/-- A row with the columns of a session, and a route set that reads back. -/
structure Holds (json : SerdeJson) (session : SipDialogSession) (row : SipDialogSessionRow) :
    Prop where
  routes : routeSetFromJson json row.routeSet = .ok session.routeSet
  columns : row = session.toRow row.routeSet

/-- The map holds the sessions of the rows. -/
abbrev Mirrors (storage : TestStorage) (table : DialogTable db) : Prop :=
  TableMirror db.weight SipDialogSessionRow.streamId (Holds db.json) storage table

/-- Both branches return the same, and leave the same sessions. -/
structure Faithful (test : Except DialogError Bool × TestStorage)
    (production : Except DialogError Bool × DialogTable db) : Prop where
  result : test.1 = production.1
  rows : Mirrors test.2 production.2

/-- A session that the update is about, by the weights of its names, and rewrites bears the
names as they are spelled. -/
def Spelled (db : DialogDb) (streamId signalNodeId : String) (storage : TestStorage)
    (asks : SipDialogSession → Bool) : Prop :=
  ∀ name session, storage name = some session → db.weight name = db.weight streamId →
    db.weight session.signalNodeId = db.weight signalNodeId → asks session = true →
      name = streamId ∧ session.signalNodeId = signalNodeId

/-- When the branches of an operation do the same: a route set that gets as far as
the serializer is stored, the version of a rewritten session has a successor, no
session is touched at a time before its last update, and the names of the session
that an update rewrites are spelled as they are stored. -/
structure Alike (db : DialogDb) (streamId signalNodeId : String) (expectedVersion : Int64)
    (storage : TestStorage) (operation : CasOperation) : Prop where
  storable : ∀ fields, operation = .markEstablished fields →
    (operation.testBranch streamId signalNodeId expectedVersion).checks = .ok () →
      ∃ routeSet, routeSetToJson db.json fields.routeSet = .ok routeSet
  successor : ∀ session,
    (operation.testBranch streamId signalNodeId expectedVersion).Takes streamId storage session →
      session.version ≠ Int64.maxValue
  punctual : ∀ lastSeenAt expireAt session, operation = .touch lastSeenAt expireAt →
    (operation.testBranch streamId signalNodeId expectedVersion).Takes streamId storage session →
      session.updatedAt ≤ lastSeenAt
  spelled : (operation.testBranch streamId signalNodeId expectedVersion).checks = .ok () →
    Spelled db streamId signalNodeId storage fun session =>
      operation.asks expectedVersion session

section Values

theorem TestBranch.run_refused {branch : TestBranch} {refusal : DialogError}
    (refused : branch.checks = .error refusal) (streamId : String) (storage : TestStorage) :
    branch.run streamId storage = (.error refusal, storage) := by
  simp only [run, refused]

/-- A branch that takes no session leaves the map. -/
theorem TestBranch.run_untaken {branch : TestBranch} {streamId : String} {storage : TestStorage}
    (passed : branch.checks = .ok ())
    (untaken : ∀ session, ¬branch.Takes streamId storage session) :
    branch.run streamId storage = (.ok false, storage) := by
  cases found : storage streamId with
  | none => simp only [run, passed, found]
  | some session =>
      have loses : branch.loses session = true := by
        by_contra wins
        rw [Bool.not_eq_true] at wins
        exact untaken session ⟨passed, found, wins⟩
      simp only [run, passed, found, loses, if_true]

/-- Past its checks a branch does not fail. -/
theorem TestBranch.run_returns {branch : TestBranch} (passed : branch.checks = .ok ())
    (streamId : String) (storage : TestStorage) :
    ∃ won, (branch.run streamId storage).1 = .ok won := by
  simp only [run, passed]
  split
  · exact ⟨false, rfl⟩
  · split
    · exact ⟨false, rfl⟩
    · exact ⟨true, rfl⟩

theorem TestBranch.Takes.run {branch : TestBranch} {streamId : String} {storage : TestStorage}
    {session : SipDialogSession} (takes : branch.Takes streamId storage session) :
    branch.run streamId storage = (.ok true, Function.update storage streamId
      (some { branch.assign session with version := (branch.assign session).version + 1 })) := by
  simp only [TestBranch.run, takes.passed, takes.found, takes.wins, Bool.false_eq_true, if_false]

variable {streamId signalNodeId : String} {expectedVersion : Int64}
  {condition : SipDialogSessionRow → Bool} {set : SipDialogSessionRow → SipDialogSessionRow}
  {keeps : ∀ row, (set row).streamId = row.streamId} {table : DialogTable db}

theorem compareAndSwap_unaffected
    (fails : ∀ row, table.find (db.weight streamId) = some row →
      whereClause signalNodeId expectedVersion db condition row = false) :
    compareAndSwap streamId signalNodeId expectedVersion condition set keeps table =
      (.ok false, table) := by
  have notLast : ((table.find (db.weight streamId)).any fun row =>
      whereClause signalNodeId expectedVersion db condition row &&
        row.version == Int64.maxValue) = false := by
    rw [Option.any_eq_false]
    intro row found
    simp [fails row found]
  simp only [compareAndSwap, notLast, Bool.false_eq_true, if_false,
    table.update_unmatched (db.weight streamId) _ (setVersion set) (key_setVersion keeps) fails]
  rfl

theorem compareAndSwap_last {row : SipDialogSessionRow}
    (found : table.find (db.weight streamId) = some row)
    (holds : whereClause signalNodeId expectedVersion db condition row = true)
    (last : row.version = Int64.maxValue) :
    compareAndSwap streamId signalNodeId expectedVersion condition set keeps table =
      (.error .database, table) := by
  simp [compareAndSwap, found, holds, last]

theorem compareAndSwap_affected {row : SipDialogSessionRow}
    (found : table.find (db.weight streamId) = some row)
    (holds : whereClause signalNodeId expectedVersion db condition row = true)
    (successor : row.version ≠ Int64.maxValue) :
    compareAndSwap streamId signalNodeId expectedVersion condition set keeps table =
      (.ok true, (table.update (db.weight streamId)
        (whereClause signalNodeId expectedVersion db condition) (setVersion set)
        (key_setVersion keeps)).2) := by
  have notLast : ((table.find (db.weight streamId)).any fun row =>
      whereClause signalNodeId expectedVersion db condition row &&
        row.version == Int64.maxValue) = false := by
    simp [found, successor]
  obtain ⟨affected, -⟩ := table.update_matched (db.weight streamId) _ (setVersion set)
    (key_setVersion keeps) found holds
  simp only [compareAndSwap, notLast, Bool.false_eq_true, if_false, affected]
  rfl

/-- An update of a row that matches does not answer that it has changed nothing. -/
theorem compareAndSwap_ne_false {row : SipDialogSessionRow}
    (found : table.find (db.weight streamId) = some row)
    (holds : whereClause signalNodeId expectedVersion db condition row = true) :
    (compareAndSwap streamId signalNodeId expectedVersion condition set keeps table).1 ≠
      .ok false := by
  by_cases last : row.version = Int64.maxValue
  · rw [compareAndSwap_last found holds last]
    simp
  · rw [compareAndSwap_affected found holds last]
    simp

end Values

section Branches

variable {storage : TestStorage} {table : DialogTable db} {streamId signalNodeId : String}
  {expectedVersion : Int64} {branch : TestBranch} {condition : SipDialogSessionRow → Bool}
  {set : SipDialogSessionRow → SipDialogSessionRow} {asks : SipDialogSession → Bool}

/-- The guard of a branch and a `WHERE` clause ask the same of a session and of its row,
and the assignments of the branch do what a `SET` clause does. -/
structure Simulates (db : DialogDb) (storage : TestStorage) (streamId signalNodeId : String)
    (expectedVersion : Int64) (branch : TestBranch) (condition : SipDialogSessionRow → Bool)
    (set : SipDialogSessionRow → SipDialogSessionRow) (asks : SipDialogSession → Bool) :
    Prop where
  wins : ∀ {session}, storage streamId = some session →
    (branch.loses session = false ↔ session.signalNodeId = signalNodeId ∧ asks session = true)
  selects : ∀ {session row}, Holds db.json session row →
    (row.version == expectedVersion && condition row) = asks session
  holds : ∀ {session row}, branch.Takes streamId storage session → Holds db.json session row →
    Holds db.json (branch.assign session) (set row)
  version : ∀ session, (branch.assign session).version = session.version

/-- Adding one to the version of a session and of its row. -/
theorem Holds.succ_version {json : SerdeJson} {session : SipDialogSession}
    {row : SipDialogSessionRow} (held : Holds json session row) {version : Int64}
    (same : row.version = version) :
    Holds json { session with version := session.version + 1 }
      { row with version := version + 1 } := by
  constructor
  · exact held.routes
  · rw [← same]
    conv_lhs => rw [held.columns]
    rfl

theorem Holds.sameNode {json : SerdeJson} {session : SipDialogSession}
    {row : SipDialogSessionRow} (held : Holds json session row) :
    row.signalNodeId = session.signalNodeId := by
  rw [held.columns]
  rfl

theorem Holds.sameVersion {json : SerdeJson} {session : SipDialogSession}
    {row : SipDialogSessionRow} (held : Holds json session row) :
    row.version = session.version := by
  rw [held.columns]
  rfl

/-- The `WHERE` clause on the row of a session. -/
theorem Simulates.whereClause_iff
    (simulates : Simulates db storage streamId signalNodeId expectedVersion branch condition set
      asks)
    {session : SipDialogSession} {row : SipDialogSessionRow} (held : Holds db.json session row) :
    whereClause signalNodeId expectedVersion db condition row = true ↔
      db.weight session.signalNodeId = db.weight signalNodeId ∧ asks session = true := by
  rw [whereClause, Bool.and_assoc, Bool.and_eq_true, decide_eq_true_eq, held.sameNode,
    simulates.selects held]

/-- The session of a name that shares its weight with a row is that of the row. -/
theorem name_of_weight (mirrors : Mirrors storage table) {row : SipDialogSessionRow}
    (found : table.find (db.weight streamId) = some row) {name : String}
    {session : SipDialogSession} (isHeld : storage name = some session)
    (shares : db.weight name = db.weight streamId) :
    row.streamId = name ∧ Holds db.json session row := by
  rcases mirrors.cases name with ⟨absent, -⟩ | ⟨entry, other, entered, borne, held⟩
  · rw [isHeld] at absent
    cases absent
  · rw [isHeld, Option.some.injEq] at entered
    obtain ⟨isFound, named⟩ := RowTable.named_eq_some.mp borne
    rw [shares, found, Option.some.injEq] at isFound
    subst isFound entered
    exact ⟨named, held⟩

/-- No row is found: neither branch does anything. -/
theorem swap_absent (mirrors : Mirrors storage table) (passed : branch.checks = .ok ())
    (absent : table.find (db.weight streamId) = none)
    (keeps : ∀ row, (set row).streamId = row.streamId) :
    Faithful (branch.run streamId storage)
        (compareAndSwap streamId signalNodeId expectedVersion condition set keeps table) ∧
      (∀ session, branch.Takes streamId storage session → session.version ≠ Int64.maxValue) ∧
      Spelled db streamId signalNodeId storage asks := by
  have unheld : ∀ name session, storage name = some session →
      db.weight name ≠ db.weight streamId := by
    intro name session isHeld shares
    rcases mirrors.cases name with ⟨none, -⟩ | ⟨entry, row, -, borne, -⟩
    · rw [isHeld] at none
      cases none
    · have isFound := (RowTable.named_eq_some.mp borne).1
      rw [shares, absent] at isFound
      cases isFound
  refine ⟨?_, fun session takes => absurd rfl (unheld streamId session takes.found),
    fun name session isHeld shares => absurd shares (unheld name session isHeld)⟩
  rw [TestBranch.run_untaken passed fun session takes => unheld streamId session takes.found rfl,
    compareAndSwap_unaffected (by simp [absent])]
  exact ⟨rfl, mirrors⟩

/-- A row that the update does not select: neither branch does anything. -/
theorem swap_unselected (mirrors : Mirrors storage table) (passed : branch.checks = .ok ())
    (simulates : Simulates db storage streamId signalNodeId expectedVersion branch condition set
      asks)
    (keeps : ∀ row, (set row).streamId = row.streamId) {row : SipDialogSessionRow}
    (found : table.find (db.weight streamId) = some row)
    (unselected : whereClause signalNodeId expectedVersion db condition row = false) :
    Faithful (branch.run streamId storage)
        (compareAndSwap streamId signalNodeId expectedVersion condition set keeps table) ∧
      (∀ session, branch.Takes streamId storage session → session.version ≠ Int64.maxValue) ∧
      Spelled db streamId signalNodeId storage asks := by
  have misses : ∀ name session, storage name = some session →
      db.weight name = db.weight streamId →
      db.weight session.signalNodeId = db.weight signalNodeId → asks session ≠ true := by
    intro name session isHeld shares owner asked
    have held := (name_of_weight mirrors found isHeld shares).2
    rw [(simulates.whereClause_iff held).mpr ⟨owner, asked⟩] at unselected
    cases unselected
  have untaken : ∀ session, ¬branch.Takes streamId storage session := by
    intro session takes
    obtain ⟨owner, asked⟩ := (simulates.wins takes.found).mp takes.wins
    exact misses streamId session takes.found rfl (congrArg db.weight owner) asked
  refine ⟨?_, fun session takes => absurd takes (untaken session),
    fun name session isHeld shares owner asked =>
      absurd asked (misses name session isHeld shares owner)⟩
  rw [TestBranch.run_untaken passed untaken, compareAndSwap_unaffected]
  · exact ⟨rfl, mirrors⟩
  · intro other isFound
    rw [found, Option.some.injEq] at isFound
    rw [← isFound]
    exact unselected

/-- A row that both branches rewrite, unless its version is the last one. -/
theorem swap_selected (mirrors : Mirrors storage table)
    (simulates : Simulates db storage streamId signalNodeId expectedVersion branch condition set
      asks)
    (keeps : ∀ row, (set row).streamId = row.streamId) {row : SipDialogSessionRow}
    (found : table.find (db.weight streamId) = some row)
    (selected : whereClause signalNodeId expectedVersion db condition row = true)
    {session : SipDialogSession} (takes : branch.Takes streamId storage session) :
    Faithful (branch.run streamId storage)
        (compareAndSwap streamId signalNodeId expectedVersion condition set keeps table) ↔
      session.version ≠ Int64.maxValue := by
  obtain ⟨named, held⟩ := name_of_weight mirrors found takes.found rfl
  rw [takes.run]
  constructor
  · intro faithful last
    rw [compareAndSwap_last found selected (held.sameVersion.trans last)] at faithful
    have result := faithful.result
    cases result
  · intro successor
    rw [← held.sameVersion] at successor
    have assigned := simulates.holds takes held
    have version : (set row).version = row.version := by
      rw [assigned.sameVersion, held.sameVersion]
      exact simulates.version session
    rw [compareAndSwap_affected found selected successor]
    exact ⟨rfl, mirrors.update (setVersion set) (key_setVersion keeps) keeps found named selected
      (assigned.succ_version version)⟩

/-- The branches do the same exactly when a rewritten session has a version left and bears the
names of the update. -/
theorem swap_faithful_iff (mirrors : Mirrors storage table) (passed : branch.checks = .ok ())
    (simulates : Simulates db storage streamId signalNodeId expectedVersion branch condition set
      asks)
    (keeps : ∀ row, (set row).streamId = row.streamId) :
    Faithful (branch.run streamId storage)
        (compareAndSwap streamId signalNodeId expectedVersion condition set keeps table) ↔
      (∀ session, branch.Takes streamId storage session → session.version ≠ Int64.maxValue) ∧
        Spelled db streamId signalNodeId storage asks := by
  cases found : table.find (db.weight streamId) with
  | none =>
      obtain ⟨faithful, both⟩ := swap_absent mirrors passed found keeps
      exact iff_of_true faithful both
  | some row =>
      cases selected : whereClause signalNodeId expectedVersion db condition row with
      | false =>
          obtain ⟨faithful, both⟩ := swap_unselected mirrors passed simulates keeps found selected
          exact iff_of_true faithful both
      | true =>
          obtain ⟨session, isHeld, held⟩ := mirrors.of_find (fun _ => rfl) found
          obtain ⟨owner, asked⟩ := (simulates.whereClause_iff held).mp selected
          have shares : db.weight row.streamId = db.weight streamId :=
            (RowTable.find_eq_some.mp found).2
          by_cases same : row.streamId = streamId ∧ session.signalNodeId = signalNodeId
          · have isFound : storage streamId = some session := same.1 ▸ isHeld
            have takes : branch.Takes streamId storage session :=
              ⟨passed, isFound, (simulates.wins isFound).mpr ⟨same.2, asked⟩⟩
            rw [swap_selected mirrors simulates keeps found selected takes]
            constructor
            · intro successor
              refine ⟨fun other otherTakes => ?_, fun name other isOther weight _ _ => ?_⟩
              · have isOther := otherTakes.found
                rw [isFound, Option.some.injEq] at isOther
                rw [← isOther]
                exact successor
              · obtain ⟨named, -⟩ := name_of_weight mirrors found isOther weight
                rw [← named, isHeld, Option.some.injEq] at isOther
                rw [← isOther, ← named]
                exact same
            · intro both
              exact both.1 session takes
          · apply iff_of_false
            · intro faithful
              have untaken : ∀ other, ¬branch.Takes streamId storage other := by
                intro other takes
                have named := (name_of_weight mirrors found takes.found rfl).1
                have isOther := takes.found
                rw [← named, isHeld, Option.some.injEq] at isOther
                rw [← isOther] at takes
                exact same ⟨named, ((simulates.wins takes.found).mp takes.wins).1⟩
              have result := faithful.result
              rw [TestBranch.run_untaken passed untaken] at result
              exact compareAndSwap_ne_false found selected result.symm
            · intro both
              exact same (both.2 row.streamId session isHeld shares owner asked)

/-- Both branches behind the same checks. -/
theorem checked_faithful_iff (mirrors : Mirrors storage table)
    (simulates : branch.checks = .ok () →
      Simulates db storage streamId signalNodeId expectedVersion branch condition set asks)
    (keeps : ∀ row, (set row).streamId = row.streamId) :
    Faithful (branch.run streamId storage)
        (whenValid branch.checks table fun _ =>
          compareAndSwap streamId signalNodeId expectedVersion condition set keeps table) ↔
      (∀ session, branch.Takes streamId storage session → session.version ≠ Int64.maxValue) ∧
        (branch.checks = .ok () → Spelled db streamId signalNodeId storage asks) := by
  cases passed : branch.checks with
  | error refusal =>
      rw [TestBranch.run_refused passed, whenValid]
      apply iff_of_true
      · exact ⟨rfl, mirrors⟩
      · refine ⟨fun session takes => ?_, nofun⟩
        rw [takes.passed] at passed
        cases passed
  | ok value =>
      rw [whenValid]
      have both := swap_faithful_iff mirrors passed (simulates passed) keeps
      exact both.trans (and_congr_right fun _ => ⟨fun spelled _ => spelled, fun all => all rfl⟩)

end Branches

section Operations

variable {storage : TestStorage} {streamId signalNodeId : String} {expectedVersion : Int64}

theorem isActive_toRow (session : SipDialogSession) (routeSet : Option String) :
    isActive (session.toRow routeSet) =
      (session.state == .established || session.state == .terminating) := by
  unfold isActive SipDialogSession.toRow
  cases session.state <;> rfl

theorem toText_beq (state other : DialogState) :
    (state.toText == other.toText) = (state == other) := by
  rw [Bool.eq_iff_iff, beq_iff_eq, beq_iff_eq]
  exact ⟨DialogState.toText_injective, congrArg _⟩

variable (kept : ∀ time, db.datetime time = time)

include kept

theorem casMarkEstablished_simulates {fields : EstablishedDialogFields}
    {routeSet : Option String} (stored : routeSetToJson db.json fields.routeSet = .ok routeSet) :
    Simulates db storage streamId signalNodeId expectedVersion
      (.casMarkEstablished streamId signalNodeId expectedVersion fields)
      (fun row => row.state == "INVITING" && decide (row.createdAt ≤ fields.establishedAt) &&
        decide (row.updatedAt ≤ fields.updatedAt))
      (setEstablished db fields routeSet)
      (fun session => CasOperation.asks expectedVersion session (.markEstablished fields)) where
  wins {session} _ := by
    simp only [TestBranch.casMarkEstablished, CasOperation.asks]
    grind
  selects {session row} held := by
    have state := toText_beq session.state .inviting
    rw [held.columns]
    simp only [SipDialogSession.toRow, CasOperation.asks]
    grind [DialogState.toText]
  holds {session row} _ held := by
    constructor
    · exact routeSetFromJson_toJson stored
    · conv_lhs => rw [held.columns]
      simp only [setEstablished, kept]
      rfl
  version session := rfl

theorem casBeginTerminating_simulates (currentCseq nextCseq : Int64)
    (updatedAt : NaiveDateTime) :
    Simulates db storage streamId signalNodeId expectedVersion
      (.casBeginTerminating streamId signalNodeId expectedVersion currentCseq nextCseq updatedAt)
      (fun row => row.state == "ESTABLISHED" && row.localCseq == currentCseq &&
        decide (row.updatedAt ≤ updatedAt))
      (fun row => { row with
        localCseq := nextCseq
        state := "TERMINATING"
        updatedAt := db.datetime updatedAt })
      (fun session => CasOperation.asks expectedVersion session
        (.beginTerminating currentCseq nextCseq updatedAt)) where
  wins {session} _ := by
    simp only [TestBranch.casBeginTerminating, CasOperation.asks]
    grind
  selects {session row} held := by
    have state := toText_beq session.state .established
    rw [held.columns]
    simp only [SipDialogSession.toRow, CasOperation.asks]
    grind [DialogState.toText]
  holds {session row} _ held := by
    constructor
    · exact held.routes
    · conv_lhs => rw [held.columns]
      simp only [kept]
      rfl
  version session := rfl

theorem casTransition_simulates (expectedState nextState : DialogState)
    (updatedAt : NaiveDateTime) :
    Simulates db storage streamId signalNodeId expectedVersion
      (.casTransition streamId signalNodeId expectedVersion expectedState nextState updatedAt)
      (fun row => row.state == expectedState.toText && decide (row.updatedAt ≤ updatedAt))
      (fun row => { row with state := nextState.toText, updatedAt := db.datetime updatedAt })
      (fun session => CasOperation.asks expectedVersion session
        (.transition expectedState nextState updatedAt)) where
  wins {session} _ := by
    simp only [TestBranch.casTransition, CasOperation.asks]
    grind
  selects {session row} held := by
    have state := toText_beq session.state expectedState
    rw [held.columns]
    simp only [SipDialogSession.toRow, CasOperation.asks]
    grind
  holds {session row} _ held := by
    constructor
    · exact held.routes
    · conv_lhs => rw [held.columns]
      simp only [kept]
      rfl
  version session := rfl

theorem casReserveLocalCseq_simulates (currentCseq nextCseq : Int64)
    (updatedAt : NaiveDateTime) :
    Simulates db storage streamId signalNodeId expectedVersion
      (.casReserveLocalCseq streamId signalNodeId expectedVersion currentCseq nextCseq updatedAt)
      (fun row => isActive row && row.localCseq == currentCseq &&
        decide (row.updatedAt ≤ updatedAt))
      (fun row => { row with localCseq := nextCseq, updatedAt := db.datetime updatedAt })
      (fun session => CasOperation.asks expectedVersion session
        (.reserveLocalCseq currentCseq nextCseq updatedAt)) where
  wins {session} _ := by
    simp only [TestBranch.casReserveLocalCseq, CasOperation.asks]
    grind
  selects {session row} held := by
    rw [held.columns]
    simp only [isActive_toRow, CasOperation.asks]
    simp only [SipDialogSession.toRow]
    grind
  holds {session row} _ held := by
    constructor
    · exact held.routes
    · conv_lhs => rw [held.columns]
      simp only [kept]
      rfl
  version session := rfl

/-- A touch that comes no earlier than the last update does what the update does. -/
theorem casTouch_simulates {lastSeenAt expireAt : NaiveDateTime}
    (passed : (TestBranch.casTouch streamId signalNodeId expectedVersion lastSeenAt
      expireAt).checks = .ok ())
    (punctual : ∀ session,
      (TestBranch.casTouch streamId signalNodeId expectedVersion lastSeenAt expireAt).Takes
        streamId storage session → session.updatedAt ≤ lastSeenAt) :
    Simulates db storage streamId signalNodeId expectedVersion
      (.casTouch streamId signalNodeId expectedVersion lastSeenAt expireAt)
      (fun row => isActive row && decide (row.lastSeenAt ≤ lastSeenAt) &&
        decide (row.updatedAt ≤ lastSeenAt))
      (fun row => { row with
        lastSeenAt := db.datetime lastSeenAt
        expireAt := db.datetime expireAt
        updatedAt := db.datetime lastSeenAt })
      (fun session => CasOperation.asks expectedVersion session (.touch lastSeenAt expireAt)) where
  wins {session} found := by
    have updated := fun wins => punctual session ⟨passed, found, wins⟩
    simp only [TestBranch.casTouch] at updated
    simp only [TestBranch.casTouch, CasOperation.asks]
    grind
  selects {session row} held := by
    rw [held.columns]
    simp only [isActive_toRow, CasOperation.asks]
    simp only [SipDialogSession.toRow]
    grind
  holds {session row} takes held := by
    constructor
    · exact held.routes
    · conv_lhs => rw [held.columns]
      simp only [TestBranch.casTouch, max_eq_left (punctual session takes), kept]
      rfl
  version session := rfl

variable {table : DialogTable db}

/-- A route set that the serializer or its column refuses stops the update only. -/
theorem casMarkEstablished_faithful_iff (mirrors : Mirrors storage table)
    {fields : EstablishedDialogFields} {branch : TestBranch}
    (here : .casMarkEstablished streamId signalNodeId expectedVersion fields = branch) :
    Faithful (branch.run streamId storage)
        (casMarkEstablished streamId signalNodeId expectedVersion fields table) ↔
      (branch.checks = .ok () →
          ∃ routeSet, routeSetToJson db.json fields.routeSet = .ok routeSet) ∧
        (∀ session, branch.Takes streamId storage session → session.version ≠ Int64.maxValue) ∧
        (branch.checks = .ok () → Spelled db streamId signalNodeId storage fun session =>
          CasOperation.asks expectedVersion session (.markEstablished fields)) := by
  have checked : casMarkEstablished streamId signalNodeId expectedVersion fields table =
      whenValid (branch.checks >>= fun _ => routeSetToJson db.json fields.routeSet) table
        fun routeSet =>
          compareAndSwap streamId signalNodeId expectedVersion
            (fun row => row.state == "INVITING" &&
              decide (row.createdAt ≤ fields.establishedAt) &&
              decide (row.updatedAt ≤ fields.updatedAt))
            (setEstablished db fields routeSet) (fun _ => rfl) table := by
    simp only [casMarkEstablished, ← here, TestBranch.casMarkEstablished, bind_assoc]
  rw [checked]
  cases passed : branch.checks with
  | error refusal =>
      rw [TestBranch.run_refused passed]
      apply iff_of_true
      · exact ⟨rfl, mirrors⟩
      · have fails : ¬(.error refusal : Except DialogError Unit) = .ok () := by simp
        refine ⟨fun passes => absurd passes fails, fun session takes => ?_,
          fun passes => absurd passes fails⟩
        exact absurd (passed.symm.trans takes.passed) fails
  | ok value =>
      cases stored : routeSetToJson db.json fields.routeSet with
      | error refusal =>
          apply iff_of_false
          · intro faithful
            obtain ⟨won, returned⟩ := TestBranch.run_returns passed streamId storage
            have same := faithful.result
            rw [returned] at same
            cases same
          · rintro ⟨storable, -⟩
            obtain ⟨routeSet, found⟩ := storable rfl
            cases found
      | ok routeSet =>
          have simulates : Simulates db storage streamId signalNodeId expectedVersion branch _ _ _ :=
            here ▸ casMarkEstablished_simulates kept stored
          have both := swap_faithful_iff mirrors passed simulates fun _ => rfl
          apply both.trans
          constructor
          · rintro ⟨successor, spelled⟩
            exact ⟨fun _ => ⟨routeSet, rfl⟩, successor, fun _ => spelled⟩
          · rintro ⟨-, successor, spelled⟩
            exact ⟨successor, spelled rfl⟩

/-- A touch from before the last update succeeds on the map and not on the table. -/
theorem casTouch_faithful_iff (mirrors : Mirrors storage table)
    {lastSeenAt expireAt : NaiveDateTime} {branch : TestBranch}
    (here : .casTouch streamId signalNodeId expectedVersion lastSeenAt expireAt = branch) :
    Faithful (branch.run streamId storage)
        (casTouch streamId signalNodeId expectedVersion lastSeenAt expireAt table) ↔
      (∀ session, branch.Takes streamId storage session → session.version ≠ Int64.maxValue) ∧
        (∀ session, branch.Takes streamId storage session → session.updatedAt ≤ lastSeenAt) ∧
        (branch.checks = .ok () → Spelled db streamId signalNodeId storage fun session =>
          CasOperation.asks expectedVersion session (.touch lastSeenAt expireAt)) := by
  by_cases punctual : ∀ session, branch.Takes streamId storage session →
      session.updatedAt ≤ lastSeenAt
  · subst here
    have both := checked_faithful_iff mirrors
      (fun passed => casTouch_simulates kept passed punctual) fun _ => rfl
    exact both.trans (and_congr_right fun _ => (and_iff_right punctual).symm)
  · apply iff_of_false
    · intro faithful
      push Not at punctual
      obtain ⟨session, takes, late⟩ := punctual
      have fails : ∀ row, table.find (db.weight streamId) = some row →
          whereClause signalNodeId expectedVersion db
            (fun row => isActive row && decide (row.lastSeenAt ≤ lastSeenAt) &&
              decide (row.updatedAt ≤ lastSeenAt)) row = false := by
        intro row stored
        have updated : row.updatedAt = session.updatedAt := by
          rw [(name_of_weight mirrors stored takes.found rfl).2.columns]
          rfl
        have later : ¬row.updatedAt ≤ lastSeenAt := by
          rw [updated]
          exact Int.not_le.mpr late
        simp [whereClause, later]
      have lost : casTouch streamId signalNodeId expectedVersion lastSeenAt expireAt table =
          (.ok false, table) := by
        subst here
        exact (whenValid_ok () takes.passed).trans (compareAndSwap_unaffected fails)
      have same := faithful.result
      rw [takes.run, lost] at same
      cases same
    · rintro ⟨-, holds, -⟩
      exact absurd holds punctual

omit kept in
theorem alike_iff {operation : CasOperation}
    (notMark : ∀ fields, operation ≠ .markEstablished fields)
    (notTouch : ∀ lastSeenAt expireAt, operation ≠ .touch lastSeenAt expireAt) :
    Alike db streamId signalNodeId expectedVersion storage operation ↔
      (∀ session,
        (operation.testBranch streamId signalNodeId expectedVersion).Takes streamId storage
          session → session.version ≠ Int64.maxValue) ∧
      ((operation.testBranch streamId signalNodeId expectedVersion).checks = .ok () →
        Spelled db streamId signalNodeId storage fun session =>
          operation.asks expectedVersion session) := by
  constructor
  · intro alike
    exact ⟨alike.successor, alike.spelled⟩
  · rintro ⟨successor, spelled⟩
    constructor
    · intro fields marks
      exact absurd marks (notMark fields)
    · exact successor
    · intro lastSeenAt expireAt _ touches
      exact absurd touches (notTouch lastSeenAt expireAt)
    · exact spelled

/-- The map stands in for the table exactly when the operations are alike on it. -/
theorem faithful_iff_alike (mirrors : Mirrors storage table) (operation : CasOperation) :
    Faithful
        ((operation.testBranch streamId signalNodeId expectedVersion).run streamId storage)
        (operation.runUpdate streamId signalNodeId expectedVersion table) ↔
      Alike db streamId signalNodeId expectedVersion storage operation := by
  cases operation with
  | markEstablished fields =>
      apply (casMarkEstablished_faithful_iff kept mirrors rfl).trans
      constructor
      · rintro ⟨storable, successor, spelled⟩
        refine ⟨?_, successor, fun _ _ _ touches => (nomatch touches), spelled⟩
        rintro _ ⟨⟩ passed
        exact storable passed
      · intro alike
        exact ⟨alike.storable fields rfl, alike.successor, alike.spelled⟩
  | beginTerminating currentCseq nextCseq updatedAt =>
      rw [alike_iff (by rintro _ ⟨⟩) (by rintro _ _ ⟨⟩)]
      exact checked_faithful_iff mirrors
        (fun _ => casBeginTerminating_simulates kept currentCseq nextCseq updatedAt) fun _ => rfl
  | transition expectedState nextState updatedAt =>
      rw [alike_iff (by rintro _ ⟨⟩) (by rintro _ _ ⟨⟩)]
      exact checked_faithful_iff mirrors
        (fun _ => casTransition_simulates kept expectedState nextState updatedAt) fun _ => rfl
  | reserveLocalCseq currentCseq nextCseq updatedAt =>
      rw [alike_iff (by rintro _ ⟨⟩) (by rintro _ _ ⟨⟩)]
      exact checked_faithful_iff mirrors
        (fun _ => casReserveLocalCseq_simulates kept currentCseq nextCseq updatedAt) fun _ => rfl
  | touch lastSeenAt expireAt =>
      apply (casTouch_faithful_iff kept mirrors rfl).trans
      constructor
      · rintro ⟨successor, punctual, spelled⟩
        refine ⟨fun _ marks => (nomatch marks), successor, ?_, spelled⟩
        rintro _ _ session ⟨⟩ takes
        exact punctual session takes
      · intro alike
        exact ⟨alike.successor, fun session takes => alike.punctual _ _ session rfl takes,
          alike.spelled⟩

end Operations

/-- A database that keeps times as they are. -/
def exactDb : DialogDb := { plainDb with datetime := .exact _ }

/-- A dialog that was updated at 2000, and last heard of at 1100. -/
def terminatingDialog : SipDialogSession :=
  { playbackDialog with
    remoteTag := some "remote-tag"
    localCseq := 11
    state := .terminating
    establishedAt := some (millis 1100)
    lastSeenAt := millis 1100
    expireAt := millis 28801100
    version := 2
    updatedAt := millis 2000 }

def terminatingStorage : TestStorage :=
  Function.update (fun _ => none) "stream-1" (some terminatingDialog)

def terminatingTable : DialogTable exactDb :=
  ⟨[terminatingDialog.toRow none], List.nodup_singleton _⟩

theorem terminatingTable_mirrored : Mirrors terminatingStorage terminatingTable := by
  intro streamId
  by_cases same : streamId = "stream-1"
  · subst same
    have bears : terminatingTable.named exactDb.weight SipDialogSessionRow.streamId "stream-1" =
        some (terminatingDialog.toRow none) := by
      decide +kernel
    rw [bears]
    exact .some ⟨rfl, rfl⟩
  · have absent : terminatingStorage streamId = none := Function.update_of_ne same _ _
    have unnamed : terminatingTable.named exactDb.weight SipDialogSessionRow.streamId streamId =
        none := by
      rw [Option.eq_none_iff_forall_ne_some]
      intro row borne
      obtain ⟨found, named⟩ := RowTable.named_eq_some.mp borne
      have only := (RowTable.find_eq_some.mp found).1
      rw [terminatingTable, List.mem_singleton] at only
      rw [only] at named
      exact same named.symm
    rw [absent, unnamed]
    exact .none

/-- A transition of the dialog at 2500. -/
theorem faithful_iff_alike_transition :
    Faithful
      (((CasOperation.transition .terminating .terminated (millis 2500)).testBranch "stream-1"
        "session-1" 2).run "stream-1" terminatingStorage)
      ((CasOperation.transition .terminating .terminated (millis 2500)).runUpdate "stream-1"
        "session-1" 2 terminatingTable) := by
  apply (faithful_iff_alike (fun _ => rfl) terminatingTable_mirrored _).mpr
  rw [alike_iff (by rintro _ ⟨⟩) (by rintro _ _ ⟨⟩)]
  have only : ∀ name session, terminatingStorage name = some session →
      name = "stream-1" ∧ session = terminatingDialog := by
    intro name session found
    by_cases same : name = "stream-1"
    · rw [same, terminatingStorage, Function.update_self, Option.some.injEq] at found
      exact ⟨same, found.symm⟩
    · rw [terminatingStorage, Function.update_of_ne same] at found
      cases found
  constructor
  · intro session takes
    rw [(only _ session takes.found).2]
    decide
  · intro _ name session found _ _ _
    obtain ⟨named, rfl⟩ := only name session found
    exact ⟨named, rfl⟩

/-- Heard of again at 1500, the dialog is touched on the map only. -/
theorem late_touch_unfaithful :
    Mirrors terminatingStorage terminatingTable ∧
      ¬Faithful
        (((CasOperation.touch (millis 1500) (millis 28801500)).testBranch "stream-1" "session-1"
          2).run "stream-1" terminatingStorage)
        ((CasOperation.touch (millis 1500) (millis 28801500)).runUpdate "stream-1" "session-1" 2
          terminatingTable) := by
  refine ⟨terminatingTable_mirrored, fun faithful => ?_⟩
  have same := faithful.result
  revert same
  decide +kernel

/-- Under another spelling of its id, the dialog is touched on the table only. -/
example :
    (((CasOperation.touch (millis 2500) (millis 28802500)).testBranch "STREAM-1" "session-1"
      2).run "STREAM-1" terminatingStorage).1 = .ok false ∧
    ((CasOperation.touch (millis 2500) (millis 28802500)).runUpdate "STREAM-1" "session-1" 2
      terminatingTable).1 = .ok true := by
  decide +kernel

end SipDialogSessionRepository

end Gmv.Session
