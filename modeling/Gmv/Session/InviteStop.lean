import Gmv.Session.DialogClients

/-!
# Stopping a dialog against its activity

`invite_stop_by_device` reserves a sequence number on the row of its stream, sends a
BYE, waits for the answer and then terminates the row under the version that the
reservation left.  Activity of the stream touches the same row at any moment.  The
module runs one stop and any number of touches over one table and one clock, and
tells which steps make a stop lose its row: a touch that is written while the stop
holds its reservation, and an end that comes before the time that the reservation
has stored, which the column may have rounded up.
-/

namespace Gmv.Session.InviteStop

open Gmv.Library SipDialogSessionRepository

variable {db : DialogDb}

/-! ## The stop -/

inductive StopError where
  | dialog (error : DialogError)
  | notFound (message : String)
  | invalidState (message : String)
  | system (message : String)
  | bye
  deriving DecidableEq, Repr

/-- What a stop is called with, and what it finds outside of the table: the call of the
request or of the stream, the id of this node, and whether the stream or talk was
restored. -/
structure Request where
  streamId : String
  callId : Option String
  currentNodeId : String
  restored : Bool
  deriving DecidableEq, Repr

/-- `DurableDialogReservation`. -/
structure Reservation where
  signalNodeId : String
  version : Int64
  deriving DecidableEq, Repr

/-- Where a stop stands.  `returned` also tells whether the device has acknowledged. -/
inductive StopPhase where
  | resolving
  | reading
  | stamping (session : SipDialogSession)
  | reserving (session : SipDialogSession) (updatedAt : NaiveDateTime)
  | loading (reservation : Option Reservation)
  | waiting (reservation : Option Reservation)
  | stampingEnd (reservation : Reservation)
  | ending (reservation : Reservation) (updatedAt : NaiveDateTime)
  | returned (acknowledged : Bool) (result : Except StopError Unit)
  deriving DecidableEq

/-- The end of `reserve_durable_dialog_request`. -/
def reserved (session : SipDialogSession) :
    Except DialogError Bool × DialogTable db → StopPhase × DialogTable db
  | (.error error, table) => (.returned false (.error (.dialog error)), table)
  | (.ok false, table) =>
      (.returned false (.error (.invalidState "durable SIP dialog CSeq reservation lost")), table)
  | (.ok true, table) => (.loading (some ⟨session.signalNodeId, session.version + 1⟩), table)

/-- The end of `invite_stop_by_device`. -/
def ended : Except DialogError Bool × DialogTable db → StopPhase × DialogTable db
  | (.error error, table) => (.returned true (.error (.dialog error)), table)
  | (.ok false, table) =>
      (.returned true (.error (.invalidState "durable SIP dialog TERMINATED CAS lost")), table)
  | (.ok true, table) => (.returned true (.ok ()), table)

/-- One step of a stop, other than the answer to the BYE. -/
def stopStep (request : Request) (table : DialogTable db) (now : NaiveDateTime) :
    StopPhase → StopPhase × DialogTable db
  | .resolving =>
      match request.callId with
      | none => (.returned false (.error (.notFound "SIP dialog not found")), table)
      | some _ => (.reading, table)
  | .reading =>
      match findByStreamId request.streamId table with
      | .error error => (.returned false (.error (.dialog error)), table)
      | .ok none => (.loading none, table)
      | .ok (some session) => (.stamping session, table)
  | .stamping session =>
      if session.signalNodeId ≠ request.currentNodeId then
        (.returned false
          (.error (.invalidState "durable SIP dialog belongs to another signal node")), table)
      else if session.localCseq = Int64.maxValue then
        (.returned false (.error (.system "durable SIP dialog CSeq overflow")), table)
      else (.reserving session now, table)
  | .reserving session updatedAt =>
      match session.state with
      | .terminating =>
          reserved session (step db table (.casReserveLocalCseq request.streamId
            session.signalNodeId session.version session.localCseq (session.localCseq + 1)
            updatedAt))
      | .established =>
          reserved session (step db table (.casBeginTerminating request.streamId
            session.signalNodeId session.version session.localCseq (session.localCseq + 1)
            updatedAt))
      | _ =>
          (.returned false
            (.error (.invalidState "durable SIP dialog does not allow this request")), table)
  | .loading reservation =>
      if request.restored then
        match findByStreamId request.streamId table with
        | .error error => (.returned false (.error (.dialog error)), table)
        | .ok none =>
            (.returned false (.error (.notFound "durable SIP dialog not found")), table)
        | .ok (some _) => (.waiting reservation, table)
      else (.waiting reservation, table)
  | .stampingEnd reservation => (.ending reservation now, table)
  | .ending reservation updatedAt =>
      ended (step db table (.casTransition request.streamId reservation.signalNodeId
        reservation.version .terminating .terminated updatedAt))
  | phase => (phase, table)

/-- The answer to the BYE, or the end of the wait for it. -/
def byeStep (acknowledged : Bool) : StopPhase → StopPhase
  | .waiting reservation =>
      if acknowledged then
        match reservation with
        | none => .returned true (.ok ())
        | some reservation => .stampingEnd reservation
      else .returned false (.error .bye)
  | phase => phase

/-! ## Touches -/

/-- Where a `touch_durable_dialog` stands. -/
inductive TouchPhase where
  | reading
  | stamping (session : SipDialogSession)
  | writing (session : SipDialogSession) (now : NaiveDateTime)
  | done
  deriving DecidableEq

def touchStep (streamId : String) (table : DialogTable db) (now : NaiveDateTime) :
    TouchPhase → TouchPhase × DialogTable db
  | .reading =>
      match findByStreamId streamId table with
      | .ok (some session) => (.stamping session, table)
      | _ => (.done, table)
  | .stamping session => (.writing session now, table)
  | .writing session time =>
      (.done, (step db table (.casTouch streamId session.signalNodeId session.version time
        (time + dialogExpire))).2)
  | .done => (.done, table)

/-! ## Runs -/

structure State (db : DialogDb) where
  table : DialogTable db
  now : NaiveDateTime
  stop : StopPhase
  touches : List TouchPhase

/-- Time passes, the stop goes on, the device answers, a touch begins or goes on. -/
inductive Action where
  | tick (elapsed : Nat)
  | stop
  | bye (acknowledged : Bool)
  | beginTouch
  | touch (index : Nat)
  deriving DecidableEq, Repr

def act (request : Request) (state : State db) : Action → Unit × State db
  | .tick elapsed => ((), { state with now := state.now + elapsed })
  | .stop =>
      let (stop, table) := stopStep request state.table state.now state.stop
      ((), { state with stop := stop, table := table })
  | .bye acknowledged => ((), { state with stop := byeStep acknowledged state.stop })
  | .beginTouch => ((), { state with touches := state.touches ++ [.reading] })
  | .touch index =>
      match state.touches[index]? with
      | none => ((), state)
      | some phase =>
          let (phase, table) := touchStep request.streamId state.table state.now phase
          ((), { state with touches := state.touches.set index phase, table := table })

def initial (table : DialogTable db) (now : NaiveDateTime) : State db := ⟨table, now, .resolving, []⟩

/-- The stop holds a reservation that it has not used yet. -/
def StopPhase.holds : StopPhase → Bool
  | .loading (some _) | .waiting (some _) | .stampingEnd _ | .ending .. => true
  | _ => false

/-- A touch that has read the row as it stands, and carries no earlier time than the
row, is written while the stop holds its reservation. -/
def TouchesHeld (streamId : String) (state : State db) : Action → Prop
  | .touch index =>
      state.stop.holds = true ∧ ∃ session time row,
        state.touches[index]? = some (.writing session time) ∧
          state.table.find (db.weight streamId) = some row ∧ session.version = row.version ∧
          row.updatedAt ≤ time ∧ row.lastSeenAt ≤ time
  | _ => False

/-- The stop ends the row at a time before the one that the row has stored. -/
def EndsEarly (streamId : String) (state : State db) : Action → Prop
  | .stop => ∃ reservation time row, state.stop = .ending reservation time ∧
      state.table.find (db.weight streamId) = some row ∧ time < row.updatedAt
  | _ => False

def LosesRow (streamId : String) (state : State db) (action : Action) : Prop :=
  TouchesHeld streamId state action ∨ EndsEarly streamId state action

/-- The row of the stream is terminated. -/
def Terminated (streamId : String) (table : DialogTable db) : Prop :=
  ∃ row, table.find (db.weight streamId) = some row ∧ row.state = "TERMINATED"

/-! ## What a run keeps -/

abbrev Past (db : DialogDb) := List (Runs.Transition (State db) Action Unit)

def WasLost (streamId : String) (past : Past db) : Prop :=
  ∃ entry ∈ past, LosesRow streamId entry.before entry.action

/-- The row under a reservation, which no touch has taken or some touch has. -/
structure Holds (streamId : String) (lost : Prop) (row : SipDialogSessionRow)
    (reservation : Reservation) : Prop where
  state : row.state = "TERMINATING"
  node : reservation.signalNodeId = row.signalNodeId
  streamId : validateLen streamId 64 "stream_id" = .ok ()
  signalNodeId : validateLen row.signalNodeId 64 "signal_node_id" = .ok ()
  version : 0 ≤ row.version
  versions : (¬ lost ∧ reservation.version = row.version) ∨
    (lost ∧ reservation.version.toInt < row.version.toInt)

/-- What a stop knows of the row in each phase. -/
def StopTracks (streamId : String) (lost : Prop) (row : SipDialogSessionRow) : StopPhase → Prop
  | .resolving => ¬ lost
  | .reading => ¬ lost
  | .stamping session => ¬ lost ∧ Seen session row
  | .reserving session _ => ¬ lost ∧ Seen session row
  | .loading none => False
  | .loading (some reservation) => Holds streamId lost row reservation
  | .waiting none => False
  | .waiting (some reservation) => Holds streamId lost row reservation
  | .stampingEnd reservation => Holds streamId lost row reservation
  | .ending reservation _ => Holds streamId lost row reservation
  | .returned true result =>
      (¬ lost ∧ result = .ok () ∧ row.state = "TERMINATED") ∨
        (lost ∧ result ≠ .ok () ∧ row.state = "TERMINATING")
  | .returned false _ => True

def TouchTracks (row : SipDialogSessionRow) : TouchPhase → Prop
  | .stamping session => Seen session row
  | .writing session _ => Seen session row
  | _ => True

structure Tracks (streamId : String) (past : Past db) (state : State db)
    (row : SipDialogSessionRow) : Prop where
  found : state.table.find (db.weight streamId) = some row
  touches : ∀ phase ∈ state.touches, TouchTracks row phase
  stop : StopTracks streamId (WasLost streamId past) row state.stop

section Steps

variable {request : Request} {past : Past db} {state : State db} {streamId : String}
  {row next : SipDialogSessionRow} {lost : Prop}

theorem wasLost_concat {action : Action} :
    WasLost streamId (past ++ [Runs.transition (act request) state action]) ↔
      WasLost streamId past ∨ LosesRow streamId state action :=
  Runs.exists_mem_concat

/-- A step that does not lose the row leaves the history as it is. -/
theorem wasLost_same {action : Action} (other : ¬ LosesRow streamId state action) :
    WasLost streamId (past ++ [Runs.transition (act request) state action]) ↔
      WasLost streamId past := by
  rw [wasLost_concat]
  exact or_iff_left other

theorem not_losesRow_of_stop (goes : ∀ reservation time, state.stop ≠ .ending reservation time) :
    ¬ LosesRow streamId state .stop := by
  rintro (touches | ⟨reservation, time, row, isEnding, _⟩)
  · exact touches
  · exact goes reservation time isEnding

theorem not_losesRow_of_touch {index : Nat}
    (idle : ¬ TouchesHeld streamId state (.touch index)) :
    ¬ LosesRow streamId state (.touch index) := by
  rintro (touches | early)
  · exact idle touches
  · exact early

/-- An update of the row leaves the touches that were under way behind. -/
theorem TouchTracks.change {call : Call} (addressed : Addressed db row call)
    (changes : Changes db row call next) {phase : TouchPhase}
    (tracks : TouchTracks row phase) : TouchTracks next phase := by
  cases phase with
  | stamping session => exact Seen.change tracks addressed changes
  | writing session time => exact Seen.change tracks addressed changes
  | _ => trivial

/-- The row of a reservation that was just made. -/
theorem holds_of_reserved {call : Call} {session : SipDialogSession} (kept : ¬ lost)
    (seen : Seen session row) (addressed : Addressed db row call)
    (changes : Changes db row call next) (expected : call.expectedVersion = some session.version)
    (node : call.signalNodeId = session.signalNodeId) (terminating : next.state = "TERMINATING") :
    Holds call.streamId lost next ⟨session.signalNodeId, session.version + 1⟩ := by
  obtain ⟨named, raised⟩ := changes.version_eq
  have same : session.version = row.version := by
    rw [expected, Option.some.injEq] at named
    exact named
  refine ⟨terminating, seen.node.trans changes.signalNodeId_eq.symm, addressed.streamId, ?_, ?_, ?_⟩
  · rw [changes.signalNodeId_eq, ← seen.node, ← node]
    exact addressed.signalNodeId
  · rw [raised]
    exact addressed.version_succ
  · refine Or.inl ⟨kept, ?_⟩
    rw [raised, same]

/-- A step of the stop that leaves the table alone. -/
theorem Tracks.stop_only (tracks : Tracks request.streamId past state row) (phase : StopPhase)
    (stepped : stopStep request state.table state.now state.stop = (phase, state.table))
    (stop : StopTracks request.streamId
      (WasLost request.streamId (past ++ [Runs.transition (act request) state .stop])) row phase) :
    ∃ next, Tracks request.streamId (past ++ [Runs.transition (act request) state .stop])
      (act request state .stop).2 next := by
  refine ⟨row, ?_⟩
  simp only [act, stepped]
  exact ⟨tracks.found, tracks.touches, stop⟩

/-- A step of the stop, before its end, that leaves the table alone. -/
theorem Tracks.stop_goes (tracks : Tracks request.streamId past state row) (phase : StopPhase)
    (stepped : stopStep request state.table state.now state.stop = (phase, state.table))
    (goes : ∀ reservation time, state.stop ≠ .ending reservation time)
    (stop : StopTracks request.streamId (WasLost request.streamId past) row phase) :
    ∃ next, Tracks request.streamId (past ++ [Runs.transition (act request) state .stop])
      (act request state .stop).2 next := by
  apply tracks.stop_only phase stepped
  rw [propext (wasLost_same (not_losesRow_of_stop goes))]
  exact stop

/-- A step of the stop that updates the row. -/
theorem Tracks.stop_change (tracks : Tracks request.streamId past state row) {phase : StopPhase}
    {table : DialogTable db} {call : Call} (addressed : Addressed db row call)
    (changes : Changes db row call next)
    (stepped : stopStep request state.table state.now state.stop = (phase, table))
    (found : table.find (db.weight request.streamId) = some next)
    (stop : StopTracks request.streamId
      (WasLost request.streamId (past ++ [Runs.transition (act request) state .stop])) next phase) :
    ∃ next, Tracks request.streamId (past ++ [Runs.transition (act request) state .stop])
      (act request state .stop).2 next := by
  refine ⟨next, ?_⟩
  simp only [act, stepped]
  exact ⟨found, fun phase member => (tracks.touches phase member).change addressed changes, stop⟩

/-- The reservation of a stop takes the row, or ends the stop. -/
theorem Tracks.reserve (tracks : Tracks request.streamId past state row) {call : Call}
    {session : SipDialogSession} (named : call.streamId = request.streamId)
    (node : call.signalNodeId = session.signalNodeId)
    (expected : call.expectedVersion = some session.version)
    (stepped : stopStep request state.table state.now state.stop =
      reserved session (step db state.table call))
    (goes : ∀ reservation time, state.stop ≠ .ending reservation time)
    (kept : ¬ WasLost request.streamId past) (isSeen : Seen session row)
    (written : ∀ next, Changes db row call next → next.state = "TERMINATING") :
    ∃ next, Tracks request.streamId (past ++ [Runs.transition (act request) state .stop])
      (act request state .stop).2 next := by
  rcases step_row_cases call (named ▸ tracks.found) with
    ⟨failed, same⟩ | ⟨next, succeeded, addressed, changes, found⟩
  · cases result : step db state.table call with
    | mk outcome table =>
        rw [result] at failed same
        cases same
        rcases refused_cases failed with rfl | ⟨error, rfl⟩ <;> rw [result, reserved] at stepped <;>
          exact tracks.stop_goes _ stepped goes trivial
  · cases result : step db state.table call with
    | mk outcome table =>
        rw [result] at succeeded found
        cases succeeded
        rw [result, reserved] at stepped
        apply tracks.stop_change addressed changes stepped (named ▸ found)
        rw [propext (wasLost_same (not_losesRow_of_stop goes)), ← named]
        rw [← named] at kept
        exact holds_of_reserved kept isSeen addressed changes expected node (written next changes)

/-- A stop that still has its row terminates it, unless it ends early. -/
theorem Tracks.finish_kept (tracks : Tracks request.streamId past state row)
    {reservation : Reservation} {time : NaiveDateTime}
    (isEnding : state.stop = .ending reservation time)
    (holds : Holds request.streamId (WasLost request.streamId past) row reservation)
    (kept : ¬ WasLost request.streamId past) (same : reservation.version = row.version)
    (successor : row.version ≠ Int64.maxValue) (late : row.updatedAt ≤ time) :
    ∃ next, Tracks request.streamId (past ++ [Runs.transition (act request) state .stop])
      (act request state .stop).2 next := by
  have stepped : stopStep request state.table state.now state.stop =
      ended (step db state.table (.casTransition request.streamId reservation.signalNodeId
        reservation.version .terminating .terminated time)) := by
    rw [isEnding, stopStep]
  rw [same] at stepped
  have addressed : Addressed db row (.casTransition request.streamId reservation.signalNodeId
      row.version .terminating .terminated time) := by
    refine ⟨holds.streamId, ?_, congrArg db.weight holds.node.symm, holds.version, successor⟩
    rw [Call.signalNodeId, holds.node]
    exact holds.signalNodeId
  have changes : Changes db row (.casTransition request.streamId reservation.signalNodeId
      row.version .terminating .terminated time) _ :=
    .transition rfl holds.state late
  have stores := step_of_changes tracks.found addressed changes
  have still : ¬ WasLost request.streamId
      (past ++ [Runs.transition (act request) state .stop]) := by
    rw [wasLost_concat]
    rintro (was | touches | ⟨_, _, held, isHeld, found, early⟩)
    · exact kept was
    · exact touches
    · rw [isEnding, StopPhase.ending.injEq] at isHeld
      obtain ⟨rfl, rfl⟩ := isHeld
      rw [tracks.found, Option.some.injEq] at found
      rw [← found] at early
      exact absurd late (Int.not_le.mpr early)
  cases result : step db state.table (.casTransition request.streamId reservation.signalNodeId
      row.version .terminating .terminated time) with
  | mk outcome table =>
      rw [result] at stores
      have succeeded : outcome = .ok true := stores.succeeds
      rw [result, succeeded, ended] at stepped
      have found := stores.found
      rw [changes.key_eq, (RowTable.find_eq_some.mp tracks.found).2] at found
      exact tracks.stop_change addressed changes stepped found (Or.inl ⟨still, rfl, rfl⟩)

/-- A stop that has lost its row, or ends early, fails and leaves the row. -/
theorem Tracks.finish_lost (tracks : Tracks request.streamId past state row)
    {reservation : Reservation} {time : NaiveDateTime}
    (isEnding : state.stop = .ending reservation time) (terminating : row.state = "TERMINATING")
    (lost : WasLost request.streamId (past ++ [Runs.transition (act request) state .stop]))
    (misses : reservation.version ≠ row.version ∨ time < row.updatedAt) :
    ∃ next, Tracks request.streamId (past ++ [Runs.transition (act request) state .stop])
      (act request state .stop).2 next := by
  have stepped : stopStep request state.table state.now state.stop =
      ended (step db state.table (.casTransition request.streamId reservation.signalNodeId
        reservation.version .terminating .terminated time)) := by
    rw [isEnding, stopStep]
  rcases step_row_cases (.casTransition request.streamId reservation.signalNodeId
      reservation.version .terminating .terminated time) tracks.found with
    ⟨failed, kept⟩ | ⟨next, _, _, changes, _⟩
  · cases result : step db state.table (.casTransition request.streamId
        reservation.signalNodeId reservation.version .terminating .terminated time) with
    | mk outcome table =>
        rw [result] at failed kept
        cases kept
        rcases refused_cases failed with rfl | ⟨error, rfl⟩ <;> rw [result, ended] at stepped <;>
          exact tracks.stop_only _ stepped (Or.inr ⟨lost, by simp, terminating⟩)
  · rcases misses with differs | early
    · have named := changes.version_eq.1
      rw [Call.expectedVersion, Option.some.injEq] at named
      exact absurd named differs
    · exact absurd changes.of_casTransition.2.1 (Int.not_le.mpr early)

/-- The end of a stop terminates the row exactly when the row is not lost. -/
theorem Tracks.finish (tracks : Tracks request.streamId past state row) {reservation : Reservation}
    {time : NaiveDateTime} (isEnding : state.stop = .ending reservation time)
    (successor : row.version ≠ Int64.maxValue) :
    ∃ next, Tracks request.streamId (past ++ [Runs.transition (act request) state .stop])
      (act request state .stop).2 next := by
  have holds := tracks.stop
  rw [isEnding] at holds
  rcases holds.versions with ⟨kept, same⟩ | ⟨was, behind⟩
  · by_cases late : row.updatedAt ≤ time
    · exact tracks.finish_kept isEnding holds kept same successor late
    · rw [Int.not_le] at late
      apply tracks.finish_lost isEnding holds.state _ (Or.inr late)
      exact wasLost_concat.mpr (Or.inr (Or.inr ⟨reservation, time, row, isEnding, tracks.found, late⟩))
  · apply tracks.finish_lost isEnding holds.state (wasLost_concat.mpr (Or.inl was))
    left
    intro same
    rw [same] at behind
    omega

/-- Every step of the stop keeps the tracks. -/
theorem Tracks.stop_step (tracks : Tracks request.streamId past state row)
    (successor : row.version ≠ Int64.maxValue) :
    ∃ next, Tracks request.streamId (past ++ [Runs.transition (act request) state .stop])
      (act request state .stop).2 next := by
  have known := tracks.stop
  cases phase : state.stop with
  | resolving =>
      rw [phase] at known
      cases call : request.callId with
      | none =>
          exact tracks.stop_goes (.returned false _) (by rw [phase, stopStep, call]) (by simp [phase])
            trivial
      | some callId =>
          exact tracks.stop_goes .reading (by rw [phase, stopStep, call]) (by simp [phase]) known
  | reading =>
      rw [phase] at known
      cases read : findByStreamId request.streamId state.table with
      | error error =>
          exact tracks.stop_goes (.returned false _) (by rw [phase, stopStep, read]) (by simp [phase])
            trivial
      | ok found =>
          cases found with
          | none => exact absurd read (findByStreamId_ne_none tracks.found)
          | some session =>
              exact tracks.stop_goes (.stamping session) (by rw [phase, stopStep, read])
                (by simp [phase]) ⟨known, Seen.of_read tracks.found read⟩
  | stamping session =>
      rw [phase] at known
      by_cases owner : session.signalNodeId ≠ request.currentNodeId
      · exact tracks.stop_goes (.returned false _) (by rw [phase, stopStep, if_pos owner])
          (by simp [phase]) trivial
      · by_cases last : session.localCseq = Int64.maxValue
        · exact tracks.stop_goes (.returned false _)
            (by rw [phase, stopStep, if_neg owner, if_pos last]) (by simp [phase]) trivial
        · exact tracks.stop_goes (.reserving session state.now)
            (by rw [phase, stopStep, if_neg owner, if_neg last]) (by simp [phase]) known
  | reserving session time =>
      rw [phase] at known
      obtain ⟨kept, isSeen⟩ := known
      cases isState : session.state with
      | terminating =>
          refine tracks.reserve rfl rfl rfl (by rw [phase, stopStep, isState]) (by simp [phase]) kept
            isSeen ?_
          intro next changes
          have same := changes.version_eq.1
          rw [Call.expectedVersion, Option.some.injEq] at same
          have isTerminating := isSeen.state same
          rw [isState] at isTerminating
          rw [changes.of_casReserveLocalCseq]
          exact isTerminating
      | established =>
          refine tracks.reserve rfl rfl rfl (by rw [phase, stopStep, isState]) (by simp [phase]) kept
            isSeen ?_
          intro next changes
          rw [changes.of_casBeginTerminating]
      | inviting =>
          exact tracks.stop_goes (.returned false _) (by rw [phase, stopStep, isState])
            (by simp [phase]) trivial
      | terminated =>
          exact tracks.stop_goes (.returned false _) (by rw [phase, stopStep, isState])
            (by simp [phase]) trivial
      | orphan =>
          exact tracks.stop_goes (.returned false _) (by rw [phase, stopStep, isState])
            (by simp [phase]) trivial
  | loading reservation =>
      rw [phase] at known
      cases reservation with
      | none => exact known.elim
      | some reservation =>
          by_cases restored : request.restored = true
          · cases read : findByStreamId request.streamId state.table with
            | error error =>
                exact tracks.stop_goes (.returned false _)
                  (by rw [phase, stopStep, if_pos restored, read]) (by simp [phase]) trivial
            | ok found =>
                cases found with
                | none => exact absurd read (findByStreamId_ne_none tracks.found)
                | some session =>
                    exact tracks.stop_goes (.waiting (some reservation))
                      (by rw [phase, stopStep, if_pos restored, read]) (by simp [phase]) known
          · exact tracks.stop_goes (.waiting (some reservation))
              (by rw [phase, stopStep, if_neg restored]) (by simp [phase]) known
  | stampingEnd reservation =>
      rw [phase] at known
      exact tracks.stop_goes (.ending reservation state.now) (by rw [phase, stopStep])
        (by simp [phase]) known
  | ending reservation time => exact tracks.finish phase successor
  | waiting reservation =>
      rw [phase] at known
      exact tracks.stop_goes (.waiting reservation) (by rw [phase]; rfl) (by simp [phase]) known
  | returned acknowledged result =>
      rw [phase] at known
      exact tracks.stop_goes (.returned acknowledged result) (by rw [phase]; rfl) (by simp [phase])
        known

theorem Tracks.tick (tracks : Tracks request.streamId past state row) (elapsed : Nat) :
    Tracks request.streamId (past ++ [Runs.transition (act request) state (.tick elapsed)])
      (act request state (.tick elapsed)).2 row := by
  refine ⟨tracks.found, tracks.touches, ?_⟩
  rw [propext (wasLost_same ?other)]
  case other => exact not_or.mpr ⟨id, id⟩
  exact tracks.stop

theorem Tracks.bye (tracks : Tracks request.streamId past state row) (acknowledged : Bool) :
    Tracks request.streamId (past ++ [Runs.transition (act request) state (.bye acknowledged)])
      (act request state (.bye acknowledged)).2 row := by
  refine ⟨tracks.found, tracks.touches, ?_⟩
  rw [propext (wasLost_same ?other)]
  case other => exact not_or.mpr ⟨id, id⟩
  have known := tracks.stop
  simp only [act]
  cases phase : state.stop with
  | waiting reservation =>
      rw [phase] at known
      cases reservation with
      | none => exact known.elim
      | some reservation =>
          cases acknowledged with
          | true => exact known
          | false => trivial
  | _ =>
      rw [phase] at known
      exact known

theorem Tracks.beginTouch (tracks : Tracks request.streamId past state row) :
    Tracks request.streamId (past ++ [Runs.transition (act request) state .beginTouch])
      (act request state .beginTouch).2 row := by
  refine ⟨tracks.found, fun phase member => ?_, ?_⟩
  · rcases List.mem_append.mp member with old | isNew
    · exact tracks.touches phase old
    · rw [List.mem_singleton.mp isNew]
      trivial
  · rw [propext (wasLost_same ?other)]
    case other => exact not_or.mpr ⟨id, id⟩
    exact tracks.stop

/-- A touch that is not written leaves the row alone. -/
theorem Tracks.touch_only (tracks : Tracks request.streamId past state row) {index : Nat}
    {phase : TouchPhase} (after : TouchPhase) (found : state.touches[index]? = some phase)
    (stepped : touchStep request.streamId state.table state.now phase = (after, state.table))
    (isTracked : TouchTracks row after)
    (other : ¬ TouchesHeld request.streamId state (.touch index)) :
    Tracks request.streamId (past ++ [Runs.transition (act request) state (.touch index)])
      (act request state (.touch index)).2 row := by
  simp only [act, found, stepped]
  refine ⟨tracks.found, fun phase member => ?_, ?_⟩
  · rcases List.mem_or_eq_of_mem_set member with old | isNew
    · exact tracks.touches phase old
    · rw [isNew]
      exact isTracked
  · rw [propext (wasLost_same (not_losesRow_of_touch other))]
    exact tracks.stop

/-- What a written touch does to the stop. -/
theorem StopTracks.touch {call : Call} {stop : StopPhase}
    (tracks : StopTracks streamId lost row stop) (addressed : Addressed db row call)
    (changes : Changes db row call next) (state : next.state = row.state)
    (active : isActive row = true) {after : Prop} (holding : stop.holds = true → after)
    (idle : stop.holds = false → (after ↔ lost)) : StopTracks streamId after next stop := by
  have held : ∀ reservation : Reservation, after → Holds streamId lost row reservation →
      Holds streamId after next reservation := by
    intro reservation isLost holds
    have risen := changes.version_step addressed
    refine ⟨state.trans holds.state, holds.node.trans changes.signalNodeId_eq.symm,
      holds.streamId, ?_, ?_, Or.inr ⟨isLost, ?_⟩⟩
    · rw [changes.signalNodeId_eq]
      exact holds.signalNodeId
    · rw [changes.version_eq.2]
      exact addressed.version_succ
    · rcases holds.versions with ⟨_, same⟩ | ⟨_, behind⟩
      · rw [same]
        omega
      · omega
  cases stop with
  | resolving | reading => exact fun isAfter => tracks ((idle rfl).mp isAfter)
  | stamping session =>
      exact ⟨fun isAfter => tracks.1 ((idle rfl).mp isAfter),
        Seen.change tracks.2 addressed changes⟩
  | reserving session time =>
      exact ⟨fun isAfter => tracks.1 ((idle rfl).mp isAfter),
        Seen.change tracks.2 addressed changes⟩
  | loading reservation =>
      cases reservation with
      | none => exact tracks
      | some reservation => exact held reservation (holding rfl) tracks
  | waiting reservation =>
      cases reservation with
      | none => exact tracks
      | some reservation => exact held reservation (holding rfl) tracks
  | stampingEnd reservation => exact held reservation (holding rfl) tracks
  | ending reservation time => exact held reservation (holding rfl) tracks
  | returned acknowledged result =>
      cases acknowledged with
      | false => trivial
      | true =>
          rcases tracks with ⟨_, _, terminated⟩ | ⟨isLost, failed, terminating⟩
          · rw [isActive, terminated] at active
            exact absurd active (by decide)
          · exact Or.inr ⟨(idle rfl).mpr isLost, failed, state.trans terminating⟩

theorem StopTracks.holds {stop : StopPhase} (tracks : StopTracks streamId lost row stop)
    (holding : stop.holds = true) : ∃ reservation, Holds streamId lost row reservation := by
  cases stop with
  | loading reservation =>
      cases reservation with
      | none => cases holding
      | some reservation => exact ⟨reservation, tracks⟩
  | waiting reservation =>
      cases reservation with
      | none => cases holding
      | some reservation => exact ⟨reservation, tracks⟩
  | stampingEnd reservation => exact ⟨reservation, tracks⟩
  | ending reservation time => exact ⟨reservation, tracks⟩
  | _ => cases holding

/-- A touch that read the row as a stop holds it is written. -/
theorem Tracks.touch_held (tracks : Tracks request.streamId past state row)
    (successor : row.version ≠ Int64.maxValue) (holding : state.stop.holds = true)
    {session : SipDialogSession} {time : NaiveDateTime} (seen : Seen session row)
    (same : session.version = row.version) (updated : row.updatedAt ≤ time)
    (lastSeen : row.lastSeenAt ≤ time) :
    (step db state.table (.casTouch request.streamId session.signalNodeId session.version time
      (time + dialogExpire))).1 = .ok true := by
  obtain ⟨reservation, holds⟩ := tracks.stop.holds holding
  have addressed : Addressed db row (.casTouch request.streamId session.signalNodeId row.version
      time (time + dialogExpire)) := by
    refine ⟨holds.streamId, ?_, congrArg db.weight seen.node.symm, holds.version, successor⟩
    rw [Call.signalNodeId, seen.node]
    exact holds.signalNodeId
  have active : isActive row = true := by rw [isActive, holds.state]; rfl
  have lives : time < time + dialogExpire := Int.lt_add_of_pos_right time (by decide)
  have changes : Changes db row (.casTouch request.streamId session.signalNodeId row.version time
      (time + dialogExpire)) _ := .touch lives active lastSeen updated
  have stores := step_of_changes tracks.found addressed changes
  rw [← same] at stores
  exact stores.succeeds

theorem Tracks.touch_step (tracks : Tracks request.streamId past state row)
    (successor : row.version ≠ Int64.maxValue) (index : Nat) :
    ∃ next, Tracks request.streamId
      (past ++ [Runs.transition (act request) state (.touch index)])
      (act request state (.touch index)).2 next := by
  cases found : state.touches[index]? with
  | none =>
      refine ⟨row, ?_⟩
      simp only [act, found]
      refine ⟨tracks.found, tracks.touches, ?_⟩
      rw [propext (wasLost_same (not_losesRow_of_touch ?_))]
      · exact tracks.stop
      · rintro ⟨_, session, time, _, isWriting, _⟩
        rw [found] at isWriting
        cases isWriting
  | some phase =>
      have known := tracks.touches phase (List.mem_of_getElem? found)
      have notHeld : (∀ session time, phase ≠ .writing session time) →
          ¬ TouchesHeld request.streamId state (.touch index) := by
        rintro reads ⟨_, session, time, _, isWriting, _⟩
        rw [found, Option.some.injEq] at isWriting
        exact reads session time isWriting
      cases phase with
      | reading =>
          cases read : findByStreamId request.streamId state.table with
          | error error =>
              exact ⟨row, tracks.touch_only .done found (by rw [touchStep, read]) trivial
                (notHeld (by simp))⟩
          | ok held =>
              cases held with
              | none => exact absurd read (findByStreamId_ne_none tracks.found)
              | some session =>
                  exact ⟨row, tracks.touch_only (.stamping session) found (by rw [touchStep, read])
                    (Seen.of_read tracks.found read) (notHeld (by simp))⟩
      | stamping session =>
          exact ⟨row, tracks.touch_only (.writing session state.now) found rfl known
            (notHeld (by simp))⟩
      | done =>
          exact ⟨row, tracks.touch_only .done found rfl trivial (notHeld (by simp))⟩
      | writing session time =>
          rcases step_row_cases (.casTouch request.streamId session.signalNodeId
              session.version time (time + dialogExpire)) tracks.found with
            ⟨failed, same⟩ | ⟨next, succeeded, addressed, changes, written⟩
          · refine ⟨row, tracks.touch_only .done found ?_ trivial ?_⟩
            · rw [touchStep, same]
            · rintro ⟨holding, other, otherTime, held, isWriting, isHeld, current, updated, seen⟩
              rw [found, Option.some.injEq] at isWriting
              cases isWriting
              rw [tracks.found] at isHeld
              cases isHeld
              exact failed (tracks.touch_held successor holding known current updated seen)
          · obtain ⟨active, seen, updated, isNext⟩ := changes.of_casTouch
            have current : session.version = row.version := by
              have named := changes.version_eq.1
              rw [Call.expectedVersion, Option.some.injEq] at named
              exact named
            refine ⟨next, ?_⟩
            simp only [act, found, touchStep]
            refine ⟨written, fun phase member => ?_, ?_⟩
            · rcases List.mem_or_eq_of_mem_set member with old | isNew
              · exact (tracks.touches phase old).change addressed changes
              · rw [isNew]
                trivial
            · refine tracks.stop.touch addressed changes (by rw [isNext]) active ?_ ?_
              · intro holding
                exact wasLost_concat.mpr (Or.inr (Or.inl
                  ⟨holding, session, time, row, found, tracks.found, current, updated, seen⟩))
              · intro idle
                refine wasLost_same (not_losesRow_of_touch ?_)
                rintro ⟨holding, _⟩
                rw [idle] at holding
                cases holding

end Steps

/-- The database can raise the version of the row. -/
def Raisable (streamId : String) (state : State db) : Prop :=
  ∀ row, state.table.find (db.weight streamId) = some row → row.version ≠ Int64.maxValue

instance (streamId : String) (state : State db) : Decidable (Raisable streamId state) :=
  inferInstanceAs (Decidable (∀ row ∈ state.table.find (db.weight streamId),
    row.version ≠ Int64.maxValue))

/-- In every interleaving of a stop with touches of the same row, on one clock and with
no failing update, once the device has acknowledged the BYE and the stop has returned:
the row is terminated and the stop succeeded exactly when no touch that had read the
row as the stop holds it was written before the end of the stop, and the end did not
come before the time that the row had stored. -/
theorem acknowledged_terminates_iff (db : DialogDb) (request : Request) (table : DialogTable db)
    (now : NaiveDateTime) (row : SipDialogSessionRow) (actions : List Action)
    (result : Except StopError Unit) (found : table.find (db.weight request.streamId) = some row)
    (raisable : ∀ entry ∈ Runs.run (act request) (initial table now) actions,
      Raisable request.streamId entry.before)
    (returned : (Runs.final (act request) (initial table now) actions).stop =
      .returned true result) :
    (result = .ok () ∧ Terminated request.streamId
      (Runs.final (act request) (initial table now) actions).table) ↔
    ∀ entry ∈ Runs.run (act request) (initial table now) actions,
      ¬ LosesRow request.streamId entry.before entry.action := by
  have start : ∃ row, Tracks request.streamId [] (initial table now) row := by
    refine ⟨row, found, fun phase member => ?_, ?_⟩
    · cases member
    · rintro ⟨entry, member, _⟩
      cases member
  obtain ⟨last, tracks⟩ : ∃ row, Tracks request.streamId
      ([] ++ Runs.run (act request) (initial table now) actions)
      (Runs.final (act request) (initial table now) actions) row := by
    refine Runs.history_final (fun past state => ∃ row, Tracks request.streamId past state row)
      (fun state _ => Raisable request.streamId state) (fun past state action tracked raises => ?_)
      start raisable
    obtain ⟨row, tracks⟩ := tracked
    have successor := raises row tracks.found
    cases action with
    | tick elapsed => exact ⟨row, tracks.tick elapsed⟩
    | stop => exact tracks.stop_step successor
    | bye acknowledged => exact ⟨row, tracks.bye acknowledged⟩
    | beginTouch => exact ⟨row, tracks.beginTouch⟩
    | touch index => exact tracks.touch_step successor index
  have known := tracks.stop
  rw [returned, List.nil_append] at known
  have kept : (¬ WasLost request.streamId
      (Runs.run (act request) (initial table now) actions)) ↔
      ∀ entry ∈ Runs.run (act request) (initial table now) actions,
        ¬ LosesRow request.streamId entry.before entry.action := by
    rw [WasLost]
    push Not
    rfl
  rw [← kept]
  rcases known with ⟨isKept, succeeded, terminated⟩ | ⟨isLost, failed, _⟩
  · exact ⟨fun _ => isKept, fun _ => ⟨succeeded, last, tracks.found, terminated⟩⟩
  · exact ⟨fun both => absurd both.1 failed, fun isKept => absurd isLost isKept⟩

/-- A playback dialog that is established. -/
def establishedTable : DialogTable plainDb :=
  Runs.final (step plainDb) (RowTable.empty _)
    [.insertInviting playbackDialog,
      .casMarkEstablished "stream-1" "session-1" 0
        ⟨"remote-tag", 10, none, none, [], "127.0.0.1:5060", "127.0.0.1:15060", millis 2000,
          millis 2000, millis 28802000, millis 2000⟩]

def stopPlayback : Request := ⟨"stream-1", some "call-stream-1", "session-1", false⟩

/-- A stop that nothing disturbs. -/
def plainStop : List Action :=
  [.stop, .stop, .tick 5000000, .stop, .stop, .stop, .tick 30000000, .bye true, .stop, .stop]

theorem acknowledged_terminates_iff_plainStop : Terminated "stream-1"
    (Runs.final (act stopPlayback) (initial establishedTable (millis 3000)) plainStop).table := by
  obtain ⟨row, found⟩ : ∃ row, establishedTable.find (plainDb.weight "stream-1") = some row := by
    rw [← Option.isSome_iff_exists]
    decide +kernel
  obtain ⟨raisable, returned, late⟩ :
      (∀ entry ∈ Runs.run (act stopPlayback) (initial establishedTable (millis 3000)) plainStop,
        Raisable "stream-1" entry.before) ∧
      (Runs.final (act stopPlayback) (initial establishedTable (millis 3000)) plainStop).stop =
        .returned true (.ok ()) ∧
      ∀ entry ∈ Runs.run (act stopPlayback) (initial establishedTable (millis 3000)) plainStop,
        (match entry.before.stop with
          | .ending _ time => (entry.before.table.find (plainDb.weight "stream-1")).all fun row =>
              decide (row.updatedAt ≤ time)
          | _ => true) = true := by
    decide +kernel
  refine ((acknowledged_terminates_iff plainDb stopPlayback establishedTable (millis 3000) row
    plainStop (.ok ()) found raisable returned).mpr ?_).2
  rintro entry member (touches | early)
  · have isAction := Runs.action_mem member
    cases action : entry.action with
    | touch index =>
        rw [action] at isAction
        exact absurd isAction (by simp [plainStop])
    | _ =>
        rw [action] at touches
        exact touches
  · cases action : entry.action with
    | stop =>
        rw [action] at early
        obtain ⟨reservation, time, held, isEnding, isHeld, before⟩ := early
        have after := late entry member
        rw [isEnding] at after
        dsimp only at after
        rw [show entry.before.table.find (plainDb.weight "stream-1") = some held from isHeld,
          Option.all_some, decide_eq_true_eq] at after
        exact absurd after (Int.not_le.mpr before)
    | _ =>
        rw [action] at early
        exact early

/-- A touch between the reservation and the end of the stop. -/
def touchedStop : List Action :=
  [.stop, .stop, .stop, .stop, .stop, .beginTouch, .touch 0, .touch 0, .touch 0, .tick 30000000,
    .bye true, .stop, .stop]

/-- The device has acknowledged the BYE, but the stop fails and the row stays. -/
theorem touchedStop_loses_row :
    (Runs.final (act stopPlayback) (initial establishedTable (millis 3000)) touchedStop).stop =
        .returned true (.error (.invalidState "durable SIP dialog TERMINATED CAS lost")) ∧
      ¬ Terminated "stream-1" (Runs.final (act stopPlayback)
        (initial establishedTable (millis 3000)) touchedStop).table := by
  obtain ⟨lost, state⟩ :
      (Runs.final (act stopPlayback) (initial establishedTable (millis 3000)) touchedStop).stop =
        .returned true (.error (.invalidState "durable SIP dialog TERMINATED CAS lost")) ∧
      ((Runs.final (act stopPlayback) (initial establishedTable (millis 3000))
        touchedStop).table.find (plainDb.weight "stream-1")).map SipDialogSessionRow.state =
          some "TERMINATING" := by
    decide +kernel
  refine ⟨lost, ?_⟩
  rintro ⟨row, found, terminated⟩
  rw [found, Option.map_some, terminated] at state
  exact absurd state (by decide)

end Gmv.Session.InviteStop
