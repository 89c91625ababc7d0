import Gmv.Session.DialogClients
import Gmv.Session.DialogRecovery

/-!
# Forced removals and their rows

A stream or talk can leave memory without a BYE that was acknowledged or received: a
close is given up, its deadline expires, or its device is reset.  The row of the dialog
is a second copy of it, and a row that stays active brings the dialog back at the next
restart.  The module runs every such removal, with the task that it spawns, beside other
removals and other writers, and tells which of them end the row.
-/

namespace Gmv.Session.ForcedRemoval

open Gmv.Library Gmv.Library.TaskPool SipDialogSessionRepository
open DialogRecovery (World Kind vacant ended orphanCall)

variable {db : DialogDb}

/-- The ways out of memory: `stream_close::force_cleanup` and `talk_close::force_cleanup`, the
deadlines of a closing stream and of a closing talk, and `reset_device_state`. -/
inductive Removal where
  | streamForceCleanup (streamId : String) (generation : UInt64)
  | talkForceCleanup (talkId : String) (generation : UInt64)
  | streamClosing (streamId : String) (generation : UInt64)
  | talkClosing (talkId : String) (generation : UInt64)
  | resetDeviceState (deviceId : String)
  deriving DecidableEq, Repr

/-- The stream whose row the removal spawns a task for, and the cache behind the removal. -/
def remove (cache : Cache) : Removal → Option String × Cache
  | .streamForceCleanup streamId generation =>
      let (info, cache) := cache.streamCloseForce streamId generation
      (info.map CloseInfo.streamId, cache)
  | .talkForceCleanup talkId generation => (none, (cache.talkCloseForce talkId generation).2)
  | .streamClosing streamId generation => (none, (cache.streamCloseForce streamId generation).2)
  | .talkClosing talkId generation => (none, (cache.talkCloseForce talkId generation).2)
  | .resetDeviceState deviceId => (none, cache.resetDeviceState deviceId)

/-- What is still to do: a removal, the three steps of the task that a removal spawns, an
update by another writer, and the clock. -/
inductive Task where
  | remove (removal : Removal)
  | read (streamId : String)
  | stamp (session : SipDialogSession)
  | mark (session : SipDialogSession) (updatedAt : NaiveDateTime)
  | write (call : Call)
  | wait (elapsed : Nat)

def work (world : World db) : Task → Option Task × World db
  | .remove removal =>
      ((remove world.cache removal).1.map .read,
        { world with cache := (remove world.cache removal).2 })
  | .read streamId =>
      match findByStreamId streamId world.table with
      | .ok (some session) =>
          (if session.state.isTerminal then none else some (.stamp session), world)
      | _ => (none, world)
  | .stamp session => (some (.mark session world.now), world)
  | .mark session updatedAt =>
      (none, { world with table := (step db world.table (orphanCall session updatedAt)).2 })
  | .write call => (none, { world with table := (step db world.table call).2 })
  | .wait elapsed => (none, { world with now := world.now + elapsed })

/-- The state right behind a removal. -/
def removed (world : World db) (removal : Removal) : Pool (World db) Task :=
  ⟨{ world with cache := (remove world.cache removal).2 },
    ((remove world.cache removal).1.map Task.read).toList⟩

/-- The removal takes the stream or talk out of memory. -/
def Leaves (cache : Cache) (removal : Removal) (kind : Kind) (id : String) : Prop :=
  vacant cache id kind = false ∧ vacant (remove cache removal).2 id kind = true

/-- The task is one for the row of the stream, however it spells the id. -/
def Task.touches (stream : db.Weight) : Task → Bool
  | .remove (.streamForceCleanup streamId _) => decide (db.weight streamId = stream)
  | .remove _ => false
  | .read streamId => decide (db.weight streamId = stream)
  | .stamp session => decide (db.weight session.streamId = stream)
  | .mark session _ => decide (db.weight session.streamId = stream)
  | .write call => decide (db.weight call.streamId = stream)
  | .wait _ => false

section Steps

variable {world : World db} {table : DialogTable db} {stream : db.Weight} {id : String} {task : Task}
  {row : SipDialogSessionRow} {session : SipDialogSession} {cache : Cache}

theorem ended_step_of_ended {call : Call} (isEnded : ended table id = true) :
    ended (step db table call).2 id = true := by
  cases streamStep table call (db.weight id) with
  | kept idle same =>
      rw [ended, same]
      exact isEnded
  | inserted called insertable free stored =>
      rw [ended, free] at isEnded
      cases isEnded
  | changed wrote found addressed changes stored =>
      simp only [ended, found, Option.any_some, Bool.and_eq_true, Bool.or_eq_true, beq_iff_eq]
        at isEnded
      rcases isEnded.2 with terminated | orphaned
      · have active := (changes.state_step (show _ = DialogState.toText .terminated from terminated)).1
        cases active
      · have active := (changes.state_step (show _ = DialogState.toText .orphan from orphaned)).1
        cases active

/-! ## What a removal spawns -/

theorem streamId_of_streamCloseForce {streamId : String} {generation : UInt64} {info : CloseInfo}
    (closed : (cache.streamCloseForce streamId generation).1 = some info) :
    info.streamId = streamId := by
  rw [Cache.streamCloseForce, Cache.streamCloseRemove] at closed
  rcases cache.streamMapRemoveIf_cases streamId
    (fun stream => stream.isClosingGeneration generation) with same | ⟨stream, _, _, same⟩
  · rw [same] at closed
    cases closed
  · rw [same] at closed
    cases closed
    rfl

/-- A stream that `force_cleanup` takes out of memory gets a task for its row. -/
theorem spawned_of_leaves {streamId : String} {generation : UInt64} {kind : Kind}
    (leaves : Leaves cache (.streamForceCleanup streamId generation) kind id) :
    (remove cache (.streamForceCleanup streamId generation)).1 = some id := by
  obtain ⟨present, gone⟩ := leaves
  rw [remove, Cache.streamCloseForce] at gone
  rcases cache.streamCloseRemove_cases streamId generation with
    same | ⟨stream, info, found, _, closed, streams, talks, _⟩
  · rw [same, present] at gone
    cases gone
  · cases kind with
    | talk =>
        rw [vacant, talks] at gone
        rw [vacant, gone] at present
        cases present
    | stream =>
        rw [vacant, streams] at gone
        by_cases isId : id = streamId
        · have spawned : (remove cache (.streamForceCleanup streamId generation)).1 =
              (cache.streamCloseForce streamId generation).1.map CloseInfo.streamId := rfl
          rw [spawned, Cache.streamCloseForce, closed, isId, Option.map_some,
            streamId_of_streamCloseForce closed]
        · rw [AList.lookup_erase_ne isId] at gone
          rw [vacant, gone] at present
          cases present

/-- Every other removal spawns nothing. -/
theorem spawned_of_other {removal : Removal}
    (other : ∀ streamId generation, removal ≠ .streamForceCleanup streamId generation) :
    (remove cache removal).1 = none := by
  cases removal with
  | streamForceCleanup streamId generation => exact absurd rfl (other streamId generation)
  | _ => rfl

/-! ## What a step does to one row -/

theorem key_of_read {streamId : String}
    (read : findByStreamId streamId table = .ok (some session)) :
    db.weight session.streamId = db.weight streamId := by
  obtain ⟨held, found, stored, _⟩ := findByStreamId_eq_some read
  have key := (RowTable.find_eq_some.mp found).2
  rw [stored] at key
  exact key

/-- A task for another row leaves this one alone, and so does what it leads to. -/
theorem work_untouched (world : World db) (away : task.touches stream = false) :
    (work world task).2.table.find stream = world.table.find stream ∧
      ∀ rest ∈ (work world task).1, rest.touches stream = false := by
  cases task with
  | remove removal =>
      refine ⟨rfl, fun rest isRest => ?_⟩
      cases removal with
      | streamForceCleanup streamId generation =>
          obtain ⟨key, isKey, rfl⟩ := Option.map_eq_some_iff.mp isRest
          obtain ⟨info, closed, rfl⟩ := Option.map_eq_some_iff.mp isKey
          rw [Task.touches, streamId_of_streamCloseForce closed]
          exact away
      | _ => cases isRest
  | read streamId =>
      rw [work]
      split
      · next session read =>
          refine ⟨rfl, fun rest isRest => ?_⟩
          rw [Option.mem_def, Option.ite_none_left_eq_some, Option.some.injEq] at isRest
          rw [← isRest.2, Task.touches, key_of_read read]
          exact away
      · refine ⟨rfl, fun rest isRest => ?_⟩
        cases isRest
  | stamp session =>
      refine ⟨rfl, fun rest isRest => ?_⟩
      cases isRest
      exact away
  | mark session updatedAt =>
      refine ⟨find_step_of_ne (of_decide_eq_false away), fun rest isRest => ?_⟩
      cases isRest
  | write call =>
      refine ⟨find_step_of_ne (of_decide_eq_false away), fun rest isRest => ?_⟩
      cases isRest
  | wait elapsed =>
      refine ⟨rfl, fun rest isRest => ?_⟩
      cases isRest

theorem work_clock (world : World db) (task : Task) : world.now ≤ (work world task).2.now := by
  cases task with
  | read streamId =>
      rw [work]
      split <;> exact Int.le_refl _
  | wait elapsed => exact Int.le_add_of_nonneg_right (Int.natCast_nonneg elapsed)
  | _ => exact Int.le_refl _

theorem work_ended (isEnded : ended world.table id = true) :
    ended (work world task).2.table id = true := by
  cases task with
  | read streamId =>
      rw [work]
      split <;> exact isEnded
  | mark session updatedAt => exact ended_step_of_ended isEnded
  | write call => exact ended_step_of_ended isEnded
  | _ => exact isEnded

/-! ## The task for one row -/

/-- The task is one of a cleanup of the row, which it has read as it is. -/
def Task.Cleans (json : SerdeJson) (row : SipDialogSessionRow) : Task → Prop
  | .read streamId => streamId = row.streamId
  | .stamp session => SipDialogSession.tryFrom json row = .ok session
  | .mark session updatedAt =>
      SipDialogSession.tryFrom json row = .ok session ∧ row.updatedAt ≤ updatedAt
  | _ => False

/-- An active row that loads and that an update can take on. -/
structure Active (json : SerdeJson) (row : SipDialogSessionRow) : Prop where
  loadable : Loadable json row
  successor : row.version ≠ Int64.maxValue
  state : row.state = "INVITING" ∨ row.state = "ESTABLISHED" ∨ row.state = "TERMINATING"

theorem Active.loads {json : SerdeJson} (active : Active json row) :
    ∃ session, SipDialogSession.tryFrom json row = .ok session ∧ session.Valid ∧
      row = session.toRow row.routeSet ∧ session.state.isTerminal = false := by
  obtain ⟨session, loaded⟩ := active.loadable
  obtain ⟨_, stored, valid⟩ := SipDialogSession.tryFrom_eq_ok.mp loaded
  refine ⟨session, loaded, valid, stored, ?_⟩
  have state := active.state
  have text : row.state = session.state.toText := congrArg SipDialogSessionRow.state stored
  cases isState : session.state with
  | terminated | orphan =>
      rw [text, isState] at state
      exact absurd state (by decide)
  | _ => rfl

theorem Active.not_ended {json : SerdeJson} (active : Active json row)
    (found : table.find (db.weight id) = some row) : ended table id = false := by
  rw [ended, found, Option.any_some]
  rcases active.state with state | state | state <;> rw [state, Bool.and_eq_false_iff] <;>
    exact Or.inr rfl

/-- Each step of a cleanup leads to the next one, and the last one ends the row. -/
theorem work_cleans (active : Active db.json row)
    (found : world.table.find (db.key row) = some row) (clock : row.updatedAt ≤ world.now)
    (cleans : task.Cleans db.json row) :
    ((work world task).2.table = world.table ∧
        ∃ rest ∈ (work world task).1, rest.Cleans db.json row) ∨
      ended (work world task).2.table row.streamId = true := by
  obtain ⟨loaded, isLoaded, valid, stored, going⟩ := active.loads
  have streamId : loaded.streamId = row.streamId := by rw [stored]; rfl
  have node : loaded.signalNodeId = row.signalNodeId := by rw [stored]; rfl
  have version : loaded.version = row.version := by rw [stored]; rfl
  cases task with
  | read other =>
      have read : findByStreamId other world.table = .ok (some loaded) := by
        rw [show other = row.streamId from cleans]
        exact findByStreamId_of_found (streamId ▸ valid.streamId) found isLoaded
      rw [work, read]
      refine Or.inl ⟨rfl, .stamp loaded, ?_, isLoaded⟩
      simp only [going, Bool.false_eq_true, if_false]
      rfl
  | stamp session => exact Or.inl ⟨rfl, _, rfl, cleans, clock⟩
  | mark session updatedAt =>
      right
      obtain ⟨isSession, updated⟩ := cleans
      have same := isSession.symm.trans isLoaded
      cases same
      have allowed : loaded.state.canTransitionTo .orphan = true := by
        cases isState : loaded.state with
        | terminated | orphan =>
            rw [isState] at going
            cases going
        | _ => rfl
      have addressed : Addressed db row (orphanCall loaded updatedAt) :=
        ⟨valid.streamId, valid.signalNodeId, congrArg db.weight node.symm, version ▸ valid.version,
          active.successor⟩
      obtain ⟨next, changes, isNext⟩ : ∃ next, Changes db row
          (.casTransition loaded.streamId loaded.signalNodeId row.version loaded.state .orphan
            updatedAt) next ∧ next.state = "ORPHAN" :=
        ⟨_, .transition allowed (congrArg SipDialogSessionRow.state stored) updated, rfl⟩
      rw [← version] at changes
      have isThere : world.table.find (db.weight loaded.streamId) = some row := by
        rw [streamId]
        exact found
      have written := (step_of_changes isThere addressed changes).found
      rw [changes.key_eq] at written
      rw [work, ended]
      rw [show (step db world.table (orphanCall loaded updatedAt)).2.find (db.weight row.streamId) =
        some next from written, Option.any_some, isNext, changes.streamId_eq, beq_self_eq_true]
      rfl
  | _ => exact absurd cleans not_false

theorem touches_of_cleans (cleans : task.Cleans db.json row) :
    task.touches (db.key row) = true := by
  have key : ∀ session, SipDialogSession.tryFrom db.json row = .ok session →
      decide (db.weight session.streamId = db.key row) = true := by
    intro session loaded
    obtain ⟨_, stored, _⟩ := SipDialogSession.tryFrom_eq_ok.mp loaded
    rw [decide_eq_true_eq, stored]
    rfl
  cases task with
  | read streamId => exact decide_eq_true (congrArg db.weight cleans)
  | stamp session => exact key session cleans
  | mark session updatedAt => exact key session cleans.1
  | _ => exact absurd cleans not_false

/-! ## Runs -/

variable {pool : Pool (World db) Task} {earlier later : List Task}

/-- The row is as it was, and every task for it is a cleanup of it. -/
structure Pending (row : SipDialogSessionRow) (pool : Pool (World db) Task) : Prop where
  found : pool.shared.table.find (db.key row) = some row
  clock : row.updatedAt ≤ pool.shared.now
  tasks : ∀ task ∈ pool.tasks, task.touches (db.key row) = true → task.Cleans db.json row

/-- The row has ended, or its cleanup is under way. -/
def Cleaned (row : SipDialogSessionRow) (pool : Pool (World db) Task) : Prop :=
  ended pool.shared.table row.streamId = true ∨
    (Pending row pool ∧ ∃ task ∈ pool.tasks, task.touches (db.key row) = true)

/-- The row is as it was, and nobody is about to change it. -/
structure Forgotten (row : SipDialogSessionRow) (pool : Pool (World db) Task) : Prop where
  found : pool.shared.table.find (db.key row) = some row
  tasks : ∀ task ∈ pool.tasks, task.touches (db.key row) = false

theorem Cleaned.begin {tasks : List Task} (cleaned : Cleaned row ⟨world, tasks⟩)
    (away : task.touches (db.key row) = false) : Cleaned row ⟨world, tasks ++ [task]⟩ := by
  rcases cleaned with isEnded | ⟨pending, other, member, touches⟩
  · exact Or.inl isEnded
  · refine Or.inr ⟨⟨pending.found, pending.clock, fun next isNext touched => ?_⟩, other,
      List.mem_append_left _ member, touches⟩
    rcases List.mem_append.mp isNext with old | isNew
    · exact pending.tasks next old touched
    · rw [List.mem_singleton.mp isNew, away] at touched
      cases touched

theorem Cleaned.advance (active : Active db.json row)
    (cleaned : Cleaned row ⟨world, earlier ++ task :: later⟩) :
    Cleaned row
      ⟨(work world task).2, earlier ++ (work world task).1.toList ++ later⟩ := by
  rcases cleaned with isEnded | ⟨pending, other, member, touches⟩
  · exact Or.inl (work_ended isEnded)
  · have clock := Int.le_trans pending.clock (work_clock world task)
    cases touched : task.touches (db.key row) with
    | true =>
        have cleans := pending.tasks task (List.mem_append_right _ (List.mem_cons_self ..)) touched
        rcases work_cleans active pending.found pending.clock cleans with
          ⟨same, rest, isRest, restCleans⟩ | isEnded
        · refine Or.inr ⟨⟨?_, clock, fun next inNext isTouched => ?_⟩, rest,
            mem_advanced_of_rest isRest, touches_of_cleans restCleans⟩
          · rw [same]
            exact pending.found
          · rcases mem_advanced task inNext with isNext | old
            · rw [Option.mem_unique isNext isRest]
              exact restCleans
            · exact pending.tasks next old isTouched
        · exact Or.inl isEnded
    | false =>
        obtain ⟨same, away⟩ := work_untouched world touched
        refine Or.inr ⟨⟨same.trans pending.found, clock, fun next inNext isTouched => ?_⟩, other,
          mem_advanced_of_ne member ?_, touches⟩
        · rcases mem_advanced task inNext with isNext | old
          · rw [away next isNext] at isTouched
            cases isTouched
          · exact pending.tasks next old isTouched
        · rintro rfl
          rw [touched] at touches
          cases touches

theorem Forgotten.begin {tasks : List Task} (forgotten : Forgotten row ⟨world, tasks⟩)
    (away : task.touches (db.key row) = false) : Forgotten row ⟨world, tasks ++ [task]⟩ := by
  refine ⟨forgotten.found, fun next isNext => ?_⟩
  rcases List.mem_append.mp isNext with old | isNew
  · exact forgotten.tasks next old
  · rw [List.mem_singleton.mp isNew]
    exact away

theorem Forgotten.advance (forgotten : Forgotten row ⟨world, earlier ++ task :: later⟩) :
    Forgotten row
      ⟨(work world task).2, earlier ++ (work world task).1.toList ++ later⟩ := by
  obtain ⟨same, away⟩ := work_untouched world
    (forgotten.tasks task (List.mem_append_right _ (List.mem_cons_self ..)))
  refine ⟨same.trans forgotten.found, fun next inNext => ?_⟩
  rcases mem_advanced task inNext with isNext | old
  · exact away next isNext
  · exact forgotten.tasks next old

end Steps

/-- A stream or talk with an active row leaves memory by a forced removal.  Once the task that
the removal has spawned is over, with no other writer of the row, its database calls not
failing and a clock that does not go back, the row has ended exactly when the removal is
`stream_close::force_cleanup`. -/
theorem removed_ends_iff (world : World db) (removal : Removal) (kind : Kind) (id : String)
    (row : SipDialogSessionRow) (moves : List (Move Task))
    (leaves : Leaves world.cache removal kind id)
    (found : world.table.find (db.weight id) = some row) (named : row.streamId = id)
    (active : Active db.json row) (clock : row.updatedAt ≤ world.now)
    (others : ∀ task, .begin task ∈ moves → task.touches (db.weight id) = false)
    (finished : ∀ task ∈ (Runs.final (TaskPool.step work) (removed world removal) moves).tasks,
      task.touches (db.weight id) = false) :
    ended (Runs.final (TaskPool.step work) (removed world removal) moves).shared.table id = true ↔
      ∃ streamId generation, removal = .streamForceCleanup streamId generation := by
  subst named
  have guarded : ∀ entry ∈ Runs.run (TaskPool.step work) (removed world removal) moves,
      Guarded (fun task => task.touches (db.key row) = false) (fun _ _ => True) entry.before
        entry.action := by
    intro entry member
    cases isAction : entry.action with
    | begin task => exact others task (isAction ▸ Runs.action_mem member)
    | advance index => exact fun _ _ => trivial
  constructor
  · intro isEnded
    by_contra other
    have start : Forgotten row (removed world removal) := by
      refine ⟨found, fun task member => ?_⟩
      rw [removed, spawned_of_other fun streamId generation isForce =>
        other ⟨streamId, generation, isForce⟩] at member
      cases member
    have last : Forgotten row
        (Runs.final (TaskPool.step work) (removed world removal) moves) :=
      TaskPool.invariant_final (Forgotten row) (fun _ _ _ held away => held.begin away)
        (fun _ _ _ _ held _ => held.advance) start guarded
    rw [active.not_ended last.found] at isEnded
    cases isEnded
  · rintro ⟨streamId, generation, rfl⟩
    have spawned := spawned_of_leaves leaves
    have start : Cleaned row (removed world (.streamForceCleanup streamId generation)) := by
      have only : (removed world (.streamForceCleanup streamId generation)).tasks =
          [.read row.streamId] := by
        rw [removed, spawned]
        rfl
      refine Or.inr ⟨⟨found, clock, fun task member _ => ?_⟩, .read row.streamId, ?_, ?_⟩
      · rw [only, List.mem_singleton] at member
        rw [member]
        rfl
      · rw [only]
        exact List.mem_singleton_self _
      · exact decide_eq_true rfl
    have last : Cleaned row (Runs.final (TaskPool.step work)
        (removed world (.streamForceCleanup streamId generation)) moves) :=
      TaskPool.invariant_final (Cleaned row) (fun _ _ _ held away => held.begin away)
        (fun _ _ _ _ held _ => held.advance active) start guarded
    rcases last with isEnded | ⟨_, task, member, touches⟩
    · exact isEnded
    · exact absurd touches (Bool.eq_false_iff.mp (finished task member))

/-- A playback that is closing, and its row. -/
def closingPlayback : World plainDb :=
  let established := (Runs.final
    (TaskPool.step (DialogRecovery.work DialogRecovery.recoveryConf))
    ⟨DialogRecovery.restarted, []⟩ DialogRecovery.establishPlayback).shared
  let (_, cache) := established.cache.streamMapInsertInfo "stream-1" "34020000001320000001"
    "34020000001320000101" 1100000001 "127.0.0.1:30000" "media-1" "call-stream-1" 10 .back
  let (_, cache) := cache.streamCloseBegin "stream-1"
  { established with cache := cache }

/-- The three steps of the spawned task. -/
def cleanup : List (Move Task) := [.advance 0, .begin (.wait 5000000), .advance 1, .advance 0, .advance 0]

theorem removed_ends_iff_forceCleanup :
    ended (Runs.final (TaskPool.step work)
      (removed closingPlayback (.streamForceCleanup "stream-1" 1)) cleanup).shared.table "stream-1" =
      true := by
  obtain ⟨row, found, facts⟩ : ∃ row,
      closingPlayback.table.find (plainDb.weight "stream-1") = some row ∧
      (row.streamId == "stream-1" && row.version != Int64.maxValue && row.state == "ESTABLISHED" &&
        decide (row.updatedAt ≤ closingPlayback.now) &&
        (SipDialogSession.tryFrom withoutRoutes row).isOk) = true := by
    rw [← Option.any_eq_true]
    decide +kernel
  simp only [Bool.and_eq_true, bne_iff_ne, beq_iff_eq, decide_eq_true_eq] at facts
  obtain ⟨⟨⟨⟨named, successor⟩, state⟩, clock⟩, loads⟩ := facts
  have loadable : Loadable withoutRoutes row := by
    rw [Loadable]
    cases loaded : SipDialogSession.tryFrom withoutRoutes row with
    | ok session => exact ⟨session, rfl⟩
    | error error =>
        rw [loaded] at loads
        cases loads
  refine (removed_ends_iff closingPlayback (.streamForceCleanup "stream-1" 1) .stream
    "stream-1" row cleanup ⟨?_, ?_⟩ found named ⟨loadable, successor, Or.inr (Or.inl state)⟩ clock ?_
    ?_).mpr ⟨"stream-1", 1, rfl⟩
  · decide +kernel
  · decide +kernel
  · simp [cleanup, Task.touches]
  · decide +kernel

/-- The deadline of the close expires: the stream leaves memory, nothing is spawned, and its
row stays established. -/
theorem expiry_leaves_row :
    Leaves closingPlayback.cache (.streamClosing "stream-1" 1) .stream "stream-1" ∧
      (removed closingPlayback (.streamClosing "stream-1" 1)).tasks.length = 0 ∧
      ((removed closingPlayback (.streamClosing "stream-1" 1)).shared.table.find
        (plainDb.weight "stream-1")).map SipDialogSessionRow.state = some "ESTABLISHED" := by
  refine ⟨⟨?_, ?_⟩, ?_, ?_⟩ <;> decide +kernel

end Gmv.Session.ForcedRemoval
