import Gmv.Library.KeysetPaging
import Gmv.Session.DialogRecovery

/-!
# Paging through the dialogs of a node

The startup reads the active rows of its node page by page and recovers each of them
before it reads the next page.  The loop always ends.  It visits every row that matched
at its start, once and in the order of the streams, exactly when each of these rows
converts: one that does not fails its page, and with it the rest of the recovery.  The
order is that of the collation, in which the streams of a table are distinct.
-/

namespace Gmv.Session

open Gmv.Library Gmv.Library.KeysetPaging

namespace SipDialogSessionRepository

section Pages

variable {db : DialogDb}

/-- The row belongs to the node and is in one of the states. -/
def isOwned (db : DialogDb) (signalNodeId : String) (states : List DialogState)
    (row : SipDialogSessionRow) : Bool :=
  decide (db.weight row.signalNodeId = db.weight signalNodeId) &&
    (states.map DialogState.toText).contains row.state

/-- All rows of a node, in the order of their streams. -/
def ownedRows (signalNodeId : String) (states : List DialogState) (table : DialogTable db) :
    List SipDialogSessionRow :=
  (table.rows.filter (isOwned db signalNodeId states)).insertionSort fun first second =>
    db.key first ≤ db.key second

/-- Read pages, and process their sessions, until one comes back short. -/
def visitPages {ω : Type} (signalNodeId : String) (states : List DialogState) (limit : UInt32)
    (tableOf : ω → DialogTable db) (process : SipDialogSession → ω → ω) :
    Nat → ω → Option (List SipDialogSession × Except DialogError Unit × ω) :=
  fun fuel world =>
    walk (fun cursor world => pageOwnedByStates signalNodeId states cursor limit (tableOf world))
      process (fun session => session.streamId) limit.toNat fuel none world

/-- Pages of a table that nobody writes. -/
def iteratePages (signalNodeId : String) (states : List DialogState) (limit : UInt32) :
    Nat → DialogTable db →
      Option (List SipDialogSession × Except DialogError Unit × DialogTable db) :=
  visitPages signalNodeId states limit (fun table => table) fun _ table => table

def recoveryPageSize : UInt32 := 200

def recoverOwnedDialogs {ω : Type} (domainId : String) (tableOf : ω → DialogTable db)
    (recoverDialog : SipDialogSession → ω → ω) :
    Nat → ω → Option (List SipDialogSession × Except DialogError Unit × ω) :=
  visitPages domainId [.inviting, .established, .terminating] recoveryPageSize tableOf
    recoverDialog

/-- The sessions are those of the matching rows, each once, in the order of the streams. -/
structure Visits (signalNodeId : String) (states : List DialogState) (table : DialogTable db)
    (visited : List SipDialogSession) : Prop where
  ascending : visited.Pairwise fun first second =>
    db.weight first.streamId < db.weight second.streamId
  complete : ∀ row ∈ table.rows, isOwned db signalNodeId states row = true →
    ∃ session ∈ visited, SipDialogSession.tryFrom db.json row = .ok session
  sound : ∀ session ∈ visited, ∃ row ∈ table.rows, isOwned db signalNodeId states row = true ∧
    SipDialogSession.tryFrom db.json row = .ok session

/-- Every matching row converts. -/
def OwnedLoad (signalNodeId : String) (states : List DialogState) (table : DialogTable db) : Prop :=
  ∀ row ∈ table.rows, isOwned db signalNodeId states row = true → Loadable db.json row

/-- Processing a session leaves the rows of later streams as they are. -/
def LeavesLater {ω : Type} (tableOf : ω → DialogTable db) (process : SipDialogSession → ω → ω) :
    Prop :=
  ∀ session world stream, db.weight session.streamId < stream →
    (tableOf (process session world)).find stream = (tableOf world).find stream

/-- The loop ends.  It has visited every row that matched at its start exactly when each of
these converts and the node is accepted, which it need not be when no row matches; and an
error ends it unless they do and the node is accepted. -/
def PagesOnce {ω : Type} (signalNodeId : String) (states : List DialogState)
    (loop : Nat → Option (List SipDialogSession × Except DialogError Unit × ω))
    (table : DialogTable db) : Prop :=
  ∃ visited ended last,
    (∀ fuel, (ownedRows signalNodeId states table).length < fuel →
      loop fuel = some (visited, ended, last)) ∧
    (Visits signalNodeId states table visited ↔
      OwnedLoad signalNodeId states table ∧ (ownedRows signalNodeId states table ≠ [] →
        validateLen signalNodeId 64 "signal_node_id" = .ok ())) ∧
    (ended = .ok () ↔ validateLen signalNodeId 64 "signal_node_id" = .ok () ∧
      OwnedLoad signalNodeId states table)

variable {signalNodeId : String} {states : List DialogState} {table : DialogTable db}
  {row : SipDialogSessionRow} {session : SipDialogSession}

theorem mem_ownedRows :
    row ∈ ownedRows signalNodeId states table ↔
      row ∈ table.rows ∧ isOwned db signalNodeId states row = true := by
  rw [ownedRows, List.mem_insertionSort, List.mem_filter]

/-- Rows of distinct streams that are sorted ascend. -/
theorem ascends_insertionSort (holds : SipDialogSessionRow → Bool) (table : DialogTable db) :
    ((table.rows.filter holds).insertionSort fun first second =>
      db.key first ≤ db.key second).Pairwise fun first second => db.key first < db.key second := by
  have distinct : ((table.rows.filter holds).map db.key).Nodup :=
    table.unique.sublist (List.filter_sublist.map _)
  have sortedDistinct := (((table.rows.filter holds).perm_insertionSort fun first second =>
    db.key first ≤ db.key second).map db.key).nodup_iff.mpr distinct
  have sorted := (table.rows.filter holds).pairwise_insertionSort fun first second =>
    db.key first ≤ db.key second
  rw [List.Nodup, List.pairwise_map] at sortedDistinct
  exact sorted.imp₂ (fun _ _ le ne => lt_of_le_of_ne le ne) sortedDistinct

theorem ownedRows_ascends :
    (ownedRows signalNodeId states table).Pairwise
      fun first second => db.key first < db.key second :=
  ascends_insertionSort _ table

/-- A page is taken from the rows behind its cursor. -/
theorem selectOwned_eq (afterStreamId : Option String) (limit : UInt32) :
    selectOwned signalNodeId states afterStreamId limit table =
      (behind db.key (afterStreamId.map db.weight)
        (ownedRows signalNodeId states table)).take limit.toNat := by
  rw [selectOwned]
  congr 1
  apply eq_of_ascending (ascends_insertionSort _ table) (ownedRows_ascends.filter _)
  intro row
  rw [List.mem_insertionSort, List.mem_filter, ← behind, mem_behind, mem_ownedRows, Bool.and_eq_true,
    Option.all_eq_true, and_assoc]
  simp [isOwned]

theorem tryFrom_streamId (converts : SipDialogSession.tryFrom db.json row = .ok session) :
    row.streamId = session.streamId := by
  obtain ⟨-, stored, -⟩ := SipDialogSession.tryFrom_eq_ok.mp converts
  rw [stored]
  rfl

/-- The id of a session that was read is a cursor. -/
theorem validateCursor (converts : SipDialogSession.tryFrom db.json row = .ok session) :
    validateOptionalLen (some session.streamId) 64 "after_stream_id" = .ok () := by
  obtain ⟨-, -, valid⟩ := SipDialogSession.tryFrom_eq_ok.mp converts
  have streamId := valid.streamId
  simp only [validateOptionalLen, validateLen, rejectIf_eq_ok] at streamId ⊢
  exact streamId

section Keysets

variable {ω : Type} {tableOf : ω → DialogTable db} {process : SipDialogSession → ω → ω}
  {limit : UInt32}

theorem validatePage_eq_ok (node : validateLen signalNodeId 64 "signal_node_id" = .ok ())
    (nonempty : states ≠ []) (positive : 0 < limit) (bounded : limit ≤ maxPageSize)
    {cursor : Option String} (isCursor : validateOptionalLen cursor 64 "after_stream_id" = .ok ()) :
    validatePage signalNodeId states cursor limit = .ok () := by
  have nonzero : limit ≠ 0 := by
    rintro rfl
    exact absurd positive (by decide)
  simp [validatePage, node, isCursor, nonempty, nonzero, UInt32.not_lt.mpr bounded]

/-- Rows of later streams that are left as they are lie behind the cursor as before. -/
theorem LeavesLater.kept (leaves : LeavesLater tableOf process)
    (converts : SipDialogSession.tryFrom db.json row = .ok session) (world : ω) :
    behind db.key (some (db.key row))
        (ownedRows signalNodeId states (tableOf (process session world))) =
      behind db.key (some (db.key row)) (ownedRows signalNodeId states (tableOf world)) := by
  apply eq_of_ascending (ownedRows_ascends.filter _) (ownedRows_ascends.filter _)
  intro other
  rw [← behind, ← behind, mem_behind, mem_behind, mem_ownedRows, mem_ownedRows]
  apply and_congr_left
  intro isBehind
  have later : db.weight session.streamId < db.key other := by
    rw [← tryFrom_streamId converts]
    exact isBehind _ rfl
  have same := leaves session world (db.key other) later
  have stored : ∀ table : DialogTable db,
      other ∈ table.rows ↔ table.find (db.key other) = some other := fun table => by
    rw [RowTable.find_eq_some, and_iff_left rfl]
  rw [stored, stored, same]

theorem keyset (node : validateLen signalNodeId 64 "signal_node_id" = .ok ())
    (nonempty : states ≠ []) (positive : 0 < limit) (bounded : limit ≤ maxPageSize)
    (leaves : LeavesLater tableOf process) :
    Keyset
      (fun cursor world => pageOwnedByStates signalNodeId states cursor limit (tableOf world))
      process (fun session => session.streamId) limit.toNat db.key
      (fun world => ownedRows signalNodeId states (tableOf world))
      (SipDialogSession.tryFrom db.json) where
  positive := UInt32.lt_iff_toNat_lt.mp positive
  ascends _ := ownedRows_ascends
  next row session world converts := by
    rw [pageOwnedByStates, validatePage_eq_ok node nonempty positive bounded
      (validateCursor converts), selectOwned_eq, Option.map_some, ← tryFrom_streamId converts]
    rfl
  kept row session world converts := leaves.kept converts world

/-- Sessions that were read from rows in their order are in that order. -/
theorem ascending_of_visits {read : List SipDialogSessionRow} {visited : List SipDialogSession}
    (visits : List.Forall₂ (fun row session => SipDialogSession.tryFrom db.json row = .ok session)
      read visited)
    (ascends : read.Pairwise fun first second => db.key first < db.key second) :
    visited.Pairwise fun first second => db.weight first.streamId < db.weight second.streamId := by
  have sameKeys : read.map db.key = visited.map fun session => db.weight session.streamId := by
    rw [← List.forall₂_eq_eq_eq, List.forall₂_map_left_iff, List.forall₂_map_right_iff]
    exact visits.imp fun row session converts => congrArg db.weight (tryFrom_streamId converts)
  rw [← List.pairwise_map (f := fun session : SipDialogSession => db.weight session.streamId)
    (R := (· < ·)), ← sameKeys, List.pairwise_map]
  exact ascends

/-- A walk over the rows of a node visits them all exactly when each of them converts. -/
theorem visits_of_walked {visited : List SipDialogSession} {ended : Except DialogError Unit}
    {read rest : List SipDialogSessionRow}
    (walked : Walked (SipDialogSession.tryFrom db.json)
      (ownedRows signalNodeId states table) visited ended read rest) :
    (Visits signalNodeId states table visited ↔
        OwnedLoad signalNodeId states table) ∧
      (ended = .ok () ↔ OwnedLoad signalNodeId states table) := by
  obtain ⟨split, visits, stops⟩ := walked
  have read_of_load (load : OwnedLoad signalNodeId states table) :
      ended = .ok () ∧ rest = [] := by
    rcases stops with isDone | ⟨-, row, member, refuses⟩
    · exact isDone
    · have isRow : row ∈ ownedRows signalNodeId states table := by
        rw [split]
        exact List.mem_append_right _ member
      obtain ⟨isStored, owned⟩ := mem_ownedRows.mp isRow
      obtain ⟨session, converts⟩ := load row isStored owned
      exact absurd converts (refuses session)
  have load_of_read (isAll : rest = []) : OwnedLoad signalNodeId states table := by
    intro row member owned
    have isRow : row ∈ ownedRows signalNodeId states table :=
      mem_ownedRows.mpr ⟨member, owned⟩
    rw [split, isAll, List.append_nil] at isRow
    obtain ⟨session, -, converts⟩ := exists_of_mem_left visits isRow
    exact ⟨session, converts⟩
  refine ⟨⟨fun all row member owned => ?_, fun load => ?_⟩, fun isDone => ?_,
    fun load => (read_of_load load).1⟩
  · obtain ⟨session, -, converts⟩ := all.complete row member owned
    exact ⟨session, converts⟩
  · rw [(read_of_load load).2, List.append_nil] at split
    rw [← split] at visits
    constructor
    · exact ascending_of_visits visits ownedRows_ascends
    · intro row member owned
      exact exists_of_mem_left visits (mem_ownedRows.mpr ⟨member, owned⟩)
    · intro session member
      obtain ⟨row, isRow, converts⟩ := exists_of_mem_left visits.flip member
      obtain ⟨isStored, owned⟩ := mem_ownedRows.mp isRow
      exact ⟨row, isStored, owned, converts⟩
  · rcases stops with ⟨-, isAll⟩ | ⟨failed, -⟩
    · exact load_of_read isAll
    · exact absurd isDone failed

theorem ownedRows_eq_nil :
    ownedRows signalNodeId states table = [] ↔
      ∀ row ∈ table.rows, isOwned db signalNodeId states row ≠ true := by
  simp only [List.eq_nil_iff_forall_not_mem, mem_ownedRows, not_and]

/-- Nothing that is visited is everything when no row matches. -/
theorem visits_nil_iff :
    Visits signalNodeId states table [] ↔ ownedRows signalNodeId states table = [] := by
  rw [ownedRows_eq_nil]
  constructor
  · intro visits row member owned
    obtain ⟨session, isVisited, -⟩ := visits.complete row member owned
    cases isVisited
  · intro none
    exact ⟨.nil, fun row member owned => absurd owned (none row member),
      fun session isVisited => absurd isVisited List.not_mem_nil⟩

theorem visitPages_once (nonempty : states ≠ []) (positive : 0 < limit)
    (bounded : limit ≤ maxPageSize) (leaves : LeavesLater tableOf process) (world : ω) :
    PagesOnce signalNodeId states
      (fun fuel => visitPages signalNodeId states limit tableOf process fuel world)
      (tableOf world) := by
  by_cases node : validateLen signalNodeId 64 "signal_node_id" = .ok ()
  · have starts : pageOwnedByStates signalNodeId states none limit (tableOf world) =
        ((behind db.key none
          (ownedRows signalNodeId states (tableOf world))).take limit.toNat).mapM
            (SipDialogSession.tryFrom db.json) := by
      rw [pageOwnedByStates, validatePage_eq_ok node nonempty positive bounded rfl,
        selectOwned_eq]
      rfl
    obtain ⟨visited, ended, last, ends, read, rest, walked⟩ :=
      (keyset node nonempty positive bounded leaves).walk_spec starts (Nat.lt_succ_self _)
    rw [behind_none] at ends walked
    obtain ⟨all, isDone⟩ := visits_of_walked walked
    exact ⟨visited, ended, last, fun fuel enough => walk_of_le enough ends,
      all.trans (and_iff_left fun _ => node).symm, isDone.trans (and_iff_right node).symm⟩
  · cases checked : validateLen signalNodeId 64 "signal_node_id" with
    | ok value => exact absurd checked node
    | error failure =>
        refine ⟨[], .error failure, world, fun fuel enough => ?_, ?_,
          fun accepted => absurd (checked.trans accepted) node, fun both => absurd both.1 node⟩
        · obtain ⟨fuel, rfl⟩ := Nat.exists_eq_succ_of_ne_zero (Nat.ne_zero_of_lt enough)
          have refuses : pageOwnedByStates signalNodeId states none limit (tableOf world) =
              .error failure := by
            rw [pageOwnedByStates, validatePage, checked]
            rfl
          dsimp only
          rw [visitPages, walk, refuses]
        · rw [visits_nil_iff]
          constructor
          · intro none
            refine ⟨fun row member owned => ?_, fun some => absurd none some⟩
            exact absurd owned (ownedRows_eq_nil.mp none row member)
          · intro accepted
            by_contra some
            exact node (accepted.2 some)

end Keysets

end Pages

end SipDialogSessionRepository

namespace DialogRecovery

open SipDialogSessionRepository

variable {db : DialogDb}

/-- How many steps the rest of a recovery of the startup takes at most. -/
def Task.steps : Task → Nat
  | .recover _ => 4
  | .insertTalk .. | .insertStream .. | .beginTerminating .. => 3
  | .stampOrphan .. | .listStream .. | .insertClosing .. => 2
  | _ => 1

/-- Carry a task out. -/
def finish (conf : Conf) : Nat → Task → World db → Option Task × World db
  | 0, task, world => (some task, world)
  | fuel + 1, task, world =>
      match work conf world task with
      | (none, next) => (none, next)
      | (some rest, next) => finish conf fuel rest next

/-- The recovery of one session of a page. -/
def recoverToEnd (conf : Conf) (answers : SipDialogSession → Answers)
    (session : SipDialogSession) (world : World db) : World db :=
  (finish conf 4 (.recover ⟨.startup, answers session, session⟩) world).2

section Recovery

variable {conf : Conf} {task rest : Task} {run : Run}

/-- Only the call of a task writes the table. -/
theorem table_work (world : World db) :
    (work conf world task).2.table =
      task.call.elim world.table fun call => (step db world.table call).2 := by
  cases task with
  | markOrphan | insertTalk | insertStream | beginTerminating | insertClosing =>
      simp only [work, Task.call, Option.elim_some, Option.elim_none]
      split
      · next same => first | rfl | rw [same]
      · next same => first | rfl | rw [same]
  | hook =>
      simp only [work]
      split_ifs
      · rfl
      · split <;> rfl
  | _ => rfl

/-- The call of a recovery is about its own stream. -/
theorem streamId_call (isRun : task.run = some run) {call : Call} (asks : task.call = some call) :
    call.streamId = run.session.streamId := by
  cases task with
  | markOrphan | beginTerminating =>
      cases isRun
      cases asks
      rfl
  | write => cases isRun
  | _ => cases asks

/-- A step of a recovery writes only its own row. -/
theorem find_work_of_other (isRun : task.run = some run) (world : World db) {stream : db.Weight}
    (differs : stream ≠ db.weight run.session.streamId) :
    (work conf world task).2.table.find stream = world.table.find stream := by
  rw [table_work]
  cases asks : task.call with
  | none => rfl
  | some call =>
      rw [← streamId_call isRun asks] at differs
      exact find_step_of_ne differs.symm

theorem returned_of_startup (startup : run.trigger = .startup) : returned run = none := by
  rw [returned, startup]

theorem steps_decided {now : NaiveDateTime} {decision : Decision}
    (isRest : decided run now decision = some rest) : rest.run = some run ∧ rest.steps < 4 := by
  cases decision with
  | fail => cases isRest
  | orphan | talk | online =>
      cases isRest
      exact ⟨rfl, by simp [Task.steps]⟩
  | offline ssrc am =>
      rw [decided] at isRest
      split_ifs at isRest <;> cases isRest <;> exact ⟨rfl, by simp [Task.steps]⟩

/-- A step of a recovery of the startup comes closer to its end. -/
theorem steps_work (world : World db) (isRun : task.run = some run)
    (startup : run.trigger = .startup) (isRest : (work conf world task).1 = some rest) :
    rest.run = some run ∧ rest.steps < task.steps := by
  have isOver := returned_of_startup startup
  cases task with
  | page | hook | find | close | remove | write | wait => cases isRun
  | recover =>
      cases isRun
      exact steps_decided isRest
  | stampOrphan =>
      cases isRun
      cases isRest
      exact ⟨rfl, by simp [Task.steps]⟩
  | markOrphan =>
      cases isRun
      simp only [work] at isRest
      split at isRest
      · cases isRest
      · simp [isOver] at isRest
  | insertTalk =>
      cases isRun
      simp only [work, isOver] at isRest
      split at isRest
      · cases isRest
        exact ⟨rfl, by simp [Task.steps]⟩
      · dsimp only at isRest
        split_ifs at isRest
        cases isRest
        exact ⟨rfl, by simp [Task.steps]⟩
  | insertStream =>
      cases isRun
      simp only [work] at isRest
      split at isRest <;> cases isRest <;> exact ⟨rfl, by simp [Task.steps]⟩
  | listStream =>
      cases isRun
      simp only [work, isOver] at isRest
      split_ifs at isRest
      cases isRest
      exact ⟨rfl, by simp [Task.steps]⟩
  | beginTerminating =>
      cases isRun
      simp only [work] at isRest
      split at isRest
      · cases isRest
      · cases isRest
        exact ⟨rfl, by simp [Task.steps]⟩
  | insertClosing =>
      cases isRun
      simp only [work, isOver] at isRest
      split at isRest
      · cases isRest
      · cases isRest
        exact ⟨rfl, by simp [Task.steps]⟩
  | closing =>
      cases isRun
      simp only [work, isOver] at isRest
      cases isRest
  | trailing =>
      cases isRun
      cases isRest

theorem find_finish_of_other (isRun : task.run = some run) (startup : run.trigger = .startup)
    (fuel : Nat) (world : World db) {stream : db.Weight}
    (differs : stream ≠ db.weight run.session.streamId) :
    (finish conf fuel task world).2.table.find stream = world.table.find stream := by
  induction fuel generalizing task world with
  | zero => rfl
  | succ fuel ih =>
      have frame : (work conf world task).2.table.find stream = world.table.find stream :=
        find_work_of_other isRun world differs
      rw [finish]
      cases worked : work conf world task with
      | mk next after =>
          rw [worked] at frame
          cases next with
          | none => exact frame
          | some rest =>
              have isRest : (work conf world task).1 = some rest := by rw [worked]
              have sameRun := (steps_work world isRun startup isRest).1
              exact (ih sameRun after).trans frame

/-- A recovery of the startup is over after its steps. -/
theorem finish_over (isRun : task.run = some run) (startup : run.trigger = .startup) {fuel : Nat}
    (enough : task.steps ≤ fuel) (world : World db) : (finish conf fuel task world).1 = none := by
  induction fuel generalizing task world with
  | zero => cases task <;> simp [Task.steps] at enough
  | succ fuel ih =>
      rw [finish]
      cases worked : work conf world task with
      | mk next after =>
          cases next with
          | none => rfl
          | some rest =>
              have isRest : (work conf world task).1 = some rest := by rw [worked]
              obtain ⟨sameRun, closer⟩ := steps_work world isRun startup isRest
              exact ih sameRun (by omega) after

theorem recoverToEnd_leavesLater (answers : SipDialogSession → Answers) :
    LeavesLater (World.table : World db → DialogTable db) (recoverToEnd conf answers) := by
  intro session world stream later
  exact find_finish_of_other rfl rfl _ _ (ne_of_gt later)

end Recovery

/-- Paging visits every row that matches, each once and in the order of the streams, exactly
when all of them convert, and the loop ends in any case.  The startup pages over the rows
as they were when it began, whatever the processing of a row does to it and to the rows
before it; a recovery does no more, and each of them is over when the next one begins. -/
theorem paging_visits_once (db : DialogDb) (signalNodeId : String) {states : List DialogState}
    (nonempty : states ≠ []) {limit : UInt32} (positive : 0 < limit)
    (bounded : limit ≤ maxPageSize) :
    (∀ table : DialogTable db, PagesOnce signalNodeId states
      (fun fuel => iteratePages signalNodeId states limit fuel table) table) ∧
    (∀ {ω : Type} (tableOf : ω → DialogTable db) (recoverDialog : SipDialogSession → ω → ω),
      LeavesLater tableOf recoverDialog → ∀ world,
        PagesOnce signalNodeId [.inviting, .established, .terminating]
          (fun fuel => recoverOwnedDialogs signalNodeId tableOf recoverDialog fuel world)
          (tableOf world)) ∧
    ∀ conf answers (world : World db),
      PagesOnce conf.domainId [.inviting, .established, .terminating]
        (fun fuel => recoverOwnedDialogs conf.domainId World.table (recoverToEnd conf answers) fuel
          world) world.table ∧
        ∀ session (world : World db),
          (finish conf 4 (.recover ⟨.startup, answers session, session⟩) world).1 = none := by
  have recovers {ω : Type} (domainId : String) (tableOf : ω → DialogTable db)
      (recoverDialog : SipDialogSession → ω → ω) (leaves : LeavesLater tableOf recoverDialog)
      (world : ω) : PagesOnce domainId [.inviting, .established, .terminating]
        (fun fuel => recoverOwnedDialogs domainId tableOf recoverDialog fuel world)
        (tableOf world) :=
    visitPages_once (List.cons_ne_nil _ _) (by decide) (by decide) leaves world
  refine ⟨fun table => ?_, fun tableOf recoverDialog => recovers signalNodeId tableOf recoverDialog,
    fun conf answers world => ⟨?_, fun session world => ?_⟩⟩
  · exact visitPages_once nonempty positive bounded (fun _ _ _ _ => rfl) table
  · exact recovers conf.domainId World.table _ (recoverToEnd_leavesLater answers) world
  · exact finish_over rfl rfl (Nat.le_refl 4) world

/-- Two dialogs of the node, the later one written first, and one of another node. -/
def threeDialogs : World plainDb where
  cache := Cache.init
  table :=
    ⟨[{ playbackDialog with streamId := "stream-3" },
      { playbackDialog with streamId := "stream-1" },
      { playbackDialog with streamId := "stream-2", signalNodeId := "session-2" }].map
        (SipDialogSession.toRow · none), by decide +kernel⟩
  now := millis 3000

/-- Pages of one row, and a recovery that writes both rows off. -/
theorem paging_visits_once_threeDialogs :
    (∃ visited ended last,
      iteratePages "session-1" [.inviting] 1 3 threeDialogs.table = some (visited, ended, last) ∧
        Visits "session-1" [.inviting] threeDialogs.table visited) ∧
      ∃ visited ended last,
        recoverOwnedDialogs "session-1" World.table
            (recoverToEnd recoveryConf fun _ => ⟨none, true⟩) 3 threeDialogs =
          some (visited, ended, last) ∧
        Visits "session-1" [.inviting, .established, .terminating] threeDialogs.table visited := by
  have load (states : List DialogState) :
      OwnedLoad "session-1" states threeDialogs.table ∧
        (ownedRows "session-1" states threeDialogs.table ≠ [] →
          validateLen "session-1" 64 "signal_node_id" = .ok ()) := by
    have converts : ∀ row ∈ threeDialogs.table.rows,
        (SipDialogSession.tryFrom withoutRoutes row).toOption.isSome = true := by
      decide +kernel
    refine ⟨fun row member owned => ?_, fun _ => by decide +kernel⟩
    rw [show plainDb.json = withoutRoutes from rfl]
    cases read : SipDialogSession.tryFrom withoutRoutes row with
    | ok session => exact ⟨session, read⟩
    | error failure =>
        have isSome := converts row member
        rw [read] at isSome
        cases isSome
  obtain ⟨pages, recovers, -⟩ := paging_visits_once plainDb "session-1"
    (List.cons_ne_nil DialogState.inviting []) (show (0 : UInt32) < 1 by decide) (by decide)
  obtain ⟨visited, ended, last, ends, all, -⟩ := pages threeDialogs.table
  obtain ⟨recovered, stopped, after, goes, every, -⟩ := recovers World.table
    (recoverToEnd recoveryConf fun _ => ⟨none, true⟩) (recoverToEnd_leavesLater _) threeDialogs
  exact ⟨⟨visited, ended, last, ends 3 (by decide +kernel), all.mpr (load _)⟩,
    recovered, stopped, after, goes 3 (by decide +kernel), every.mpr (load _)⟩

/-- The table after a dialog was established without its tag. -/
def withoutTag : DialogTable plainDb :=
  Runs.final (step plainDb) (RowTable.empty _) establishedByTransition

/-- A row that does not convert fails its page: it is never visited, and the recovery of
its node ends with an error. -/
theorem unloadable_row_ends_paging :
    (∃ row ∈ withoutTag.rows, isOwned plainDb "session-1" [.established] row = true) ∧
      (¬∃ fuel visited ended last,
        iteratePages "session-1" [.established] 200 fuel withoutTag =
            some (visited, ended, last) ∧
          Visits "session-1" [.established] withoutTag visited) ∧
      (recoverOwnedDialogs "session-1" World.table
          (recoverToEnd recoveryConf fun _ => ⟨some true, true⟩) 2
          ⟨Cache.init, withoutTag, millis 3000⟩).map (fun outcome => (outcome.1, outcome.2.1)) =
        some ([], .error (.invalidData
          "established dialog states require remote_tag and established_at")) := by
  have facts : (∃ row ∈ withoutTag.rows, isOwned plainDb "session-1" [.established] row = true ∧
        (SipDialogSession.tryFrom withoutRoutes row).toOption = none) ∧
      (recoverOwnedDialogs "session-1" World.table
          (recoverToEnd recoveryConf fun _ => ⟨some true, true⟩) 2
          ⟨Cache.init, withoutTag, millis 3000⟩).map (fun outcome => (outcome.1, outcome.2.1)) =
        some ([], .error (.invalidData
          "established dialog states require remote_tag and established_at")) := by
    decide +kernel
  obtain ⟨⟨row, member, owned, refused⟩, ends⟩ := facts
  refine ⟨⟨row, member, owned⟩, ?_, ends⟩
  rintro ⟨fuel, visited, ended, last, -, visits⟩
  obtain ⟨session, -, converts⟩ := visits.complete row member owned
  rw [show plainDb.json = withoutRoutes from rfl] at converts
  rw [converts] at refused
  cases refused

end DialogRecovery

end Gmv.Session
