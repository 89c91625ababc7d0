import Gmv.Stream.ViewerAccounting

/-!
# Watched streams stay

A count that is never below the viewers attached to its output, and a stream and muxers
that are not closed under them.  The counts are taken down by sessions of viewers, by
placeholder sessions that nobody counted, and by outputs that leave; a viewer that joins
between a subtraction from zero and its store is lost; and an answer to `StreamIdle`
closes what the count read earlier said to be idle.
-/

namespace Gmv.Stream.Viewers

open Gmv.Library Gmv.Library.TaskPool
open Media (OutputEnum outputRes)

/-- The calls; every other task is the rest of one. -/
def Task.isCall : Task → Bool
  | .request .. | .expire _ | .handleOutput .. | .closeStreamByOutput .. => true
  | _ => false

/-- No output is counted below the viewers that are attached to it. -/
def NeverBelow (state : State) : Prop :=
  ∀ metadata ∈ state.metadata, ∀ output, state.attached output ≤ (metadata.outputCount output).toNat

/-- The stream is taken away, or a muxer closed, only when no viewer is attached to it. -/
def ClosesUnwatched (before after : State) : Prop :=
  ∀ metadata ∈ before.metadata,
    (after.metadata = none → ∀ output, before.attached output = 0) ∧
    ∀ next ∈ after.metadata, ∀ output, metadata.muxers (.fromOutputEnum output) = true →
      next.muxers (.fromOutputEnum output) = false → before.attached output = 0

/-! ## Whom a count owes -/

/-- The session is that of a viewer, and not a placeholder. -/
def Cause.isViewer : Cause → Bool
  | .expiry session => session.viewer
  | .removal _ => false

/-- The output of a viewer whose session has expired and whose count is still to come down. -/
def Task.leaves : Task → Option OutputEnum
  | .cleanToken session => if session.viewer then some session.outputEnum else none
  | .subtract cause => if cause.isViewer then some cause.output else none
  | _ => none

/-- The viewers that are attached to an output, and those on their way out. -/
def owed (pool : Pool State Task) (output : OutputEnum) : Nat :=
  pool.shared.attached output + tally (fun _ => []) Task.leaves output pool

/-- A subtraction that is not a viewer's leaves what the count owes. -/
def Backed (pool : Pool State Task) (output : OutputEnum) : Prop :=
  owed pool output = 0 ∨
    ∀ metadata ∈ pool.shared.metadata, owed pool output < (metadata.outputCount output).toNat

/-- The counter has room for one more. -/
def HasRoom (state : State) (output : OutputEnum) : Prop :=
  ∀ metadata ∈ state.metadata, (metadata.outputCount output).toNat + 1 < 4294967296

/-- An answer closes nothing that is watched: the stream has no viewer, or the muxer no
viewer of the other outputs that use it. -/
def AnswersUnwatched (state : State) (info : Media.OutputStreamInfo) : Media.OutputEventRes → Prop
  | .keepMuxer => True
  | .closeMuxer => ∀ output ∈ outputs, output ≠ info.playType →
      MuxerEnum.fromOutputEnum output = .fromOutputEnum info.playType → state.attached output = 0
  | .closeAll => ∀ output ∈ outputs, state.attached output = 0

/-- The steps that keep the watched stream: a viewer joins while no store to its output is
pending and the counter does not wrap, what takes a count down without being a viewer
leaves the viewers theirs, and answers close nothing that is watched. -/
def KeepsWatched (pool : Pool State Task) : Task → Prop
  | .insertOutToken handler _ _ =>
      ¬Clamping pool handler.output ∧ HasRoom pool.shared handler.output
  | .subtract cause => cause.isViewer = false → Backed pool cause.output
  | .handleOutput .insert output => owed pool output = 0 ∨ HasRoom pool.shared output
  | .handleOutput .remove output => Backed pool output
  | .closeStreamByOutput index answer =>
      ∀ info ∈ pool.shared.events[index]?,
        AnswersUnwatched pool.shared info (outputRes info answer)
  | _ => True

instance (pool : Pool State Task) (output : OutputEnum) : Decidable (Clamping pool output) :=
  inferInstanceAs (Decidable (∃ _ ∈ _, _))

instance (state : State) (output : OutputEnum) : Decidable (HasRoom state output) :=
  inferInstanceAs (Decidable (∀ _ ∈ _, _))

instance (pool : Pool State Task) (output : OutputEnum) : Decidable (Backed pool output) :=
  inferInstanceAs (Decidable (_ ∨ ∀ _ ∈ _, _))

instance (state : State) (info : Media.OutputStreamInfo) (res : Media.OutputEventRes) :
    Decidable (AnswersUnwatched state info res) := by
  cases res <;> unfold AnswersUnwatched <;> infer_instance

instance (pool : Pool State Task) (task : Task) : Decidable (KeepsWatched pool task) := by
  unfold KeepsWatched
  split <;> infer_instance

/-! ## Who is attached -/

/-- The output at which a call stands for an attached viewer. -/
def Task.stays : Task → Option OutputEnum
  | .insertToken handler _ _ | .play handler _ _ => some handler.output
  | .body output _ | .listenOutputTimeout output _ => some output
  | _ => none

def OutSession.viewerOutput (session : OutSession) : Option OutputEnum :=
  if session.viewer then some session.outputEnum else none

def State.viewerSessions (state : State) : List OutputEnum := state.sessions.filterMap OutSession.viewerOutput

def staysHere (state : State) (task : Option Task) (output : OutputEnum) : Nat :=
  tallyHere State.viewerSessions Task.stays output state task

def leavesHere (state : State) (task : Option Task) (output : OutputEnum) : Nat :=
  tallyHere (fun _ => []) Task.leaves output state task

/-- What holds of one output: every call and session of a viewer is attached, an output
that is about to be set to zero owes nothing, and a count covers what it owes. -/
structure Held (pool : Pool State Task) (output : OutputEnum) : Prop where
  attached : tally State.viewerSessions Task.stays output pool ≤ pool.shared.attached output
  clamped : Clamping pool output → owed pool output = 0
  covered : ∀ metadata ∈ pool.shared.metadata, owed pool output ≤ (metadata.outputCount output).toNat

section Pools

variable {state next : State} {earlier later : List Task} {task : Task} {rest : Option Task}
  {output : OutputEnum} {metadata : StreamMetadata}

theorem owed_split : owed ⟨state, earlier ++ task :: later⟩ output =
    state.attached output + (leavesHere state (some task) output +
      ((earlier ++ later).filterMap Task.leaves).count output) := by
  rw [owed, tally_split]
  rfl

theorem owed_advanced : owed ⟨next, earlier ++ rest.toList ++ later⟩ output =
    next.attached output + (leavesHere next rest output +
      ((earlier ++ later).filterMap Task.leaves).count output) := by
  rw [owed, tally_advanced]
  rfl

variable (state task) in
theorem clamping_of_advanced (clamping : Clamping ⟨next, earlier ++ rest.toList ++ later⟩ output) :
    rest.bind Task.clamps = some output ∨ Clamping ⟨state, earlier ++ task :: later⟩ output := by
  obtain ⟨other, member, clamps⟩ := clamping
  rcases mem_advanced task member with isRest | before
  · exact Or.inl (Option.bind_eq_some_iff.mpr ⟨other, isRest, clamps⟩)
  · exact Or.inr ⟨other, before, clamps⟩

/-- The calls and sessions of viewers stay attached when an operation moves them along. -/
theorem Held.attached_advanced (held : Held ⟨state, earlier ++ task :: later⟩ output)
    (moved : staysHere next rest output + state.attached output ≤
      staysHere state (some task) output + next.attached output) :
    tally State.viewerSessions Task.stays output ⟨next, earlier ++ rest.toList ++ later⟩ ≤
      next.attached output := by
  have attached := held.attached
  rw [tally_split] at attached
  rw [tally_advanced]
  simp only [staysHere] at moved
  simp only at attached
  omega

/-- An operation that leaves an output as it is. -/
theorem Held.steady (held : Held ⟨state, earlier ++ task :: later⟩ output)
    (attached : next.attached output = state.attached output)
    (stays : staysHere next rest output ≤ staysHere state (some task) output)
    (leaves : leavesHere next rest output ≤ leavesHere state (some task) output)
    (clamps : rest.bind Task.clamps ≠ some output)
    (counts : ∀ after ∈ next.metadata, ∃ before ∈ state.metadata,
      after.outputCount output = before.outputCount output) :
    Held ⟨next, earlier ++ rest.toList ++ later⟩ output := by
  have owes : owed ⟨next, earlier ++ rest.toList ++ later⟩ output ≤
      owed ⟨state, earlier ++ task :: later⟩ output := by
    rw [owed_split, owed_advanced, attached]
    omega
  refine ⟨held.attached_advanced (by omega), fun clamping => ?_, fun after isAfter => ?_⟩
  · rcases clamping_of_advanced state task clamping with new | before
    · exact absurd new clamps
    · exact Nat.le_zero.mp (held.clamped before ▸ owes)
  · obtain ⟨before, isBefore, same⟩ := counts after isAfter
    rw [same]
    exact Nat.le_trans owes (held.covered before isBefore)

/-- An output that owes nothing may be counted at will. -/
theorem Held.of_nothing_owed (held : Held ⟨state, earlier ++ task :: later⟩ output)
    (attached : next.attached output = state.attached output)
    (stays : staysHere next rest output ≤ staysHere state (some task) output)
    (leaves : leavesHere next rest output ≤ leavesHere state (some task) output)
    (nothing : owed ⟨state, earlier ++ task :: later⟩ output = 0) :
    Held ⟨next, earlier ++ rest.toList ++ later⟩ output := by
  have still : owed ⟨next, earlier ++ rest.toList ++ later⟩ output = 0 := by
    rw [owed_split] at nothing
    rw [owed_advanced]
    omega
  exact ⟨held.attached_advanced (by omega), fun _ => still,
    fun _ _ => still.symm ▸ Nat.zero_le _⟩

/-- A count comes down at an output: with a viewer on its way out, or backed. -/
theorem Held.subtracted {cause : Cause} (held : Held ⟨state, earlier ++ task :: later⟩ cause.output)
    (present : state.metadata = some metadata) (silent : task.stays = none)
    (leaver : leavesHere state (some task) cause.output = 1 ∨
      leavesHere state (some task) cause.output = 0 ∧ Backed ⟨state, earlier ++ task :: later⟩ cause.output) :
    Held ⟨(subtract state cause).2, earlier ++ (subtract state cause).1.toList ++ later⟩ cause.output := by
  have taken : (subtract state cause).2 =
      state.setCount metadata (metadata.outputCount.fetchSub cause.output) := by
    rw [subtract, present]
  have stays : staysHere (subtract state cause).2 (subtract state cause).1 cause.output ≤
      staysHere state (some task) cause.output := by
    rw [staysHere, tallyHere, subtract_idle cause rfl fun _ => rfl, taken, staysHere, tallyHere,
      Option.bind_some, silent]
    exact Nat.le_refl _
  have left : leavesHere (subtract state cause).2 (subtract state cause).1 cause.output = 0 := by
    rw [leavesHere, tallyHere, subtract_idle cause rfl fun _ => rfl]
    rfl
  have attached : (subtract state cause).2.attached = state.attached := by rw [taken]; rfl
  have covered := held.covered metadata present
  by_cases zero : metadata.outputCount cause.output = 0
  · rw [zero, UInt32.toNat_zero, Nat.le_zero] at covered
    exact held.of_nothing_owed (by rw [attached]) stays (by omega) covered
  · have unclamped : (subtract state cause).1.bind Task.clamps ≠ some cause.output := by
      rw [subtract, present]
      simp only [zero, if_false]
      split
      · cases cause <;> simp [Cause.atZero, Task.clamps]
      · simp
    have owes : owed ⟨(subtract state cause).2, earlier ++ (subtract state cause).1.toList ++ later⟩
        cause.output + leavesHere state (some task) cause.output =
        owed ⟨state, earlier ++ task :: later⟩ cause.output := by
      rw [owed_split, owed_advanced, left, attached]
      omega
    refine ⟨held.attached_advanced (by rw [attached]; omega), fun clamping => ?_, fun after isAfter => ?_⟩
    · rcases clamping_of_advanced state task clamping with new | before
      · exact absurd new unclamped
      · have nothing := held.clamped before
        omega
    · rw [taken] at isAfter
      cases isAfter
      have positive := toNat_pos zero
      have less : (metadata.outputCount.fetchSub cause.output cause.output).toNat =
          (metadata.outputCount cause.output).toNat - 1 := by
        rw [OutputCount.fetchSub_self]
        exact toNat_pred zero
      simp only
      rw [less]
      rcases leaver with viewer | ⟨other, nothing | more⟩
      · omega
      · omega
      · have bound := more metadata present
        omega

theorem add_toNat {count : OutputCount} (room : (count output).toNat + 1 < 4294967296) :
    (count.add output output).toNat = (count output).toNat + 1 := by
  rw [OutputCount.add_self, UInt32.toNat_add]
  exact Nat.mod_eq_of_lt room

/-- A viewer is admitted. -/
theorem Held.joined {handler : Handler} {token : String} {rx : Bool}
    (held : Held ⟨state, earlier ++ .insertOutToken handler token rx :: later⟩ output)
    (present : state.metadata = some metadata)
    (keeps : KeepsWatched ⟨state, earlier ++ .insertOutToken handler token rx :: later⟩
      (.insertOutToken handler token rx)) :
    Held ⟨(state.setCount metadata (metadata.outputCount.add handler.output)).attach handler.output,
      earlier ++ (some (Task.insertToken handler token rx)).toList ++ later⟩ output := by
  obtain ⟨unclamped, room⟩ := keeps
  have leaves : leavesHere ((state.setCount metadata (metadata.outputCount.add handler.output)).attach
      handler.output) (some (.insertToken handler token rx)) output =
      leavesHere state (some (.insertOutToken handler token rx)) output := rfl
  have stays : staysHere ((state.setCount metadata (metadata.outputCount.add handler.output)).attach
      handler.output) (some (.insertToken handler token rx)) output =
      staysHere state (some (.insertOutToken handler token rx)) output +
        [handler.output].count output := rfl
  by_cases same : output = handler.output
  · subst same
    rw [List.count_singleton_self] at stays
    have attached : ((state.setCount metadata (metadata.outputCount.add handler.output)).attach
        handler.output).attached handler.output = state.attached handler.output + 1 := State.attach_self
    refine ⟨held.attached_advanced (by omega), fun clamping => ?_, fun after isAfter => ?_⟩
    · rcases clamping_of_advanced state (.insertOutToken handler token rx) clamping with new | before
      · cases new
      · exact absurd before unclamped
    · cases isAfter
      have covered := held.covered metadata present
      have bound := room metadata present
      rw [owed_split] at covered
      rw [owed_advanced, leaves, attached]
      simp only
      rw [add_toNat bound]
      omega
  · have elsewhere : [handler.output].count output = 0 := by
      rw [List.count_eq_zero, List.mem_singleton]
      exact same
    refine held.steady (State.attach_of_ne same) (by omega) (Nat.le_of_eq leaves) (by simp [Task.clamps])
      fun after isAfter => ?_
    cases isAfter
    exact ⟨metadata, present, OutputCount.add_of_ne same⟩

/-- The session of a viewer expires: the viewer is on its way out. -/
theorem Held.expired {id : Nat} {session : OutSession}
    (held : Held ⟨state, earlier ++ .expire id :: later⟩ output)
    (found : state.sessionAt id = some session) (viewer : session.viewer = true) :
    Held ⟨(state.removeSession id).detach session.outputEnum,
      earlier ++ (some (Task.cleanToken session)).toList ++ later⟩ output := by
  have sessions := ((State.sessions_perm found).filterMap OutSession.viewerOutput).count_eq output
  rw [List.filterMap_cons_some (by rw [OutSession.viewerOutput, if_pos viewer]), List.count_cons] at sessions
  have stays : staysHere ((state.removeSession id).detach session.outputEnum)
      (some (.cleanToken session)) output = (state.removeSession id).viewerSessions.count output := rfl
  have stayed : staysHere state (some (.expire id)) output = state.viewerSessions.count output := rfl
  have leaves : leavesHere ((state.removeSession id).detach session.outputEnum)
      (some (.cleanToken session)) output = [session.outputEnum].count output := by
    simp [leavesHere, tallyHere, Task.leaves, viewer]
  have left : leavesHere state (some (.expire id)) output = 0 := rfl
  have attached := held.attached
  rw [tally_split, ← staysHere, stayed] at attached
  simp only at attached
  by_cases same : output = session.outputEnum
  · subst same
    have detached : ((state.removeSession id).detach session.outputEnum).attached session.outputEnum =
        state.attached session.outputEnum - 1 := State.detach_self
    rw [List.count_singleton_self] at leaves
    rw [if_pos (beq_self_eq_true _)] at sessions
    have owes : owed ⟨(state.removeSession id).detach session.outputEnum,
        earlier ++ (some (Task.cleanToken session)).toList ++ later⟩ session.outputEnum =
        owed ⟨state, earlier ++ .expire id :: later⟩ session.outputEnum := by
      rw [owed_split, owed_advanced, leaves, left, detached]
      simp only [State.viewerSessions] at attached
      omega
    refine ⟨held.attached_advanced ?_, fun clamping => ?_, fun after isAfter => ?_⟩
    · rw [stays, stayed, detached]
      simp only [State.viewerSessions] at attached ⊢
      omega
    · rw [owes]
      rcases clamping_of_advanced state (.expire id) clamping with new | before
      · cases new
      · exact held.clamped before
    · rw [owes]
      exact held.covered after isAfter
  · have elsewhere : [session.outputEnum].count output = 0 := by
      rw [List.count_eq_zero, List.mem_singleton]
      exact same
    refine held.steady (State.detach_of_ne same) ?_ (by omega) (by simp [Task.clamps])
      fun after isAfter => ⟨after, isAfter, rfl⟩
    rw [stays, stayed]
    simp only [State.viewerSessions]
    omega

/-- Another output comes to use the muxer. -/
theorem Held.inserted {other : OutputEnum}
    (held : Held ⟨state, earlier ++ .handleOutput .insert other :: later⟩ output)
    (present : state.metadata = some metadata)
    (keeps : KeepsWatched ⟨state, earlier ++ .handleOutput .insert other :: later⟩
      (.handleOutput .insert other)) :
    Held ⟨state.setCount metadata (metadata.outputCount.add other),
      earlier ++ (none : Option Task).toList ++ later⟩ output := by
  by_cases same : output = other
  · subst same
    rcases keeps with nothing | room
    · exact held.of_nothing_owed rfl (Nat.le_refl _) (Nat.le_refl _) nothing
    · have owes : owed ⟨state.setCount metadata (metadata.outputCount.add output),
          earlier ++ (none : Option Task).toList ++ later⟩ output =
          owed ⟨state, earlier ++ .handleOutput .insert output :: later⟩ output := by
        rw [owed_split, owed_advanced]
        rfl
      refine ⟨held.attached_advanced (Nat.le_refl _), fun clamping => ?_, fun after isAfter => ?_⟩
      · rw [owes]
        rcases clamping_of_advanced state (.handleOutput .insert output) clamping
          with new | before
        · cases new
        · exact held.clamped before
      · cases isAfter
        have covered := held.covered metadata present
        rw [owes]
        simp only
        rw [add_toNat (room metadata present)]
        omega
  · refine held.steady rfl (Nat.le_refl _) (Nat.le_refl _) (by simp) fun after isAfter => ?_
    cases isAfter
    exact ⟨metadata, present, OutputCount.add_of_ne same⟩

/-- A count is set to zero. -/
theorem Held.stored {cause : Cause} (held : Held ⟨state, earlier ++ .storeZero cause :: later⟩ output)
    (present : state.metadata = some metadata) :
    Held ⟨state.setCount metadata (metadata.outputCount.storeZero cause.output),
      earlier ++ cause.atZero.toList ++ later⟩ output := by
  have stays : cause.atZero.bind Task.stays = none := by cases cause <;> rfl
  have leaves : cause.atZero.bind Task.leaves = none := by cases cause <;> rfl
  have clamps : cause.atZero.bind Task.clamps = none := by cases cause <;> rfl
  by_cases same : output = cause.output
  · subst same
    have nothing := held.clamped ⟨.storeZero cause, by simp, rfl⟩
    refine held.of_nothing_owed rfl ?_ ?_ nothing
    · rw [staysHere, tallyHere, stays]
      exact Nat.le_refl _
    · rw [leavesHere, tallyHere, leaves]
      exact Nat.le_refl _
  · refine held.steady rfl ?_ ?_ (by rw [clamps]; simp) fun after isAfter => ?_
    · rw [staysHere, tallyHere, stays]
      exact Nat.le_refl _
    · rw [leavesHere, tallyHere, leaves]
      exact Nat.le_refl _
    · cases isAfter
      exact ⟨metadata, present, OutputCount.storeZero_of_ne same⟩

/-- The other outputs of a subtraction. -/
theorem Held.unsubtracted {cause : Cause} (held : Held ⟨state, earlier ++ task :: later⟩ output)
    (silent : task.stays = none) (different : output ≠ cause.output) :
    Held ⟨(subtract state cause).2, earlier ++ (subtract state cause).1.toList ++ later⟩ output := by
  have stays : (subtract state cause).1.bind Task.stays = none := subtract_idle cause rfl fun _ => rfl
  have left : (subtract state cause).1.bind Task.leaves = none := subtract_idle cause rfl fun _ => rfl
  have after : (subtract state cause).2 = state ∨ ∃ metadata, state.metadata = some metadata ∧
      (subtract state cause).2 = state.setCount metadata (metadata.outputCount.fetchSub cause.output) := by
    rw [subtract]
    split
    · exact Or.inl rfl
    · next metadata present => exact Or.inr ⟨metadata, present, rfl⟩
  have clamps : (subtract state cause).1.bind Task.clamps ≠ some output := by
    rw [subtract]
    split
    · simp
    · dsimp only
      split
      · simpa [Task.clamps] using Ne.symm different
      · split
        · cases cause <;> simp [Cause.atZero, Task.clamps]
        · simp
  refine held.steady ?_ ?_ ?_ clamps ?_
  · rcases after with same | ⟨metadata, _, taken⟩
    · rw [same]
    · rw [taken]
      rfl
  · rw [staysHere, tallyHere, stays, staysHere, tallyHere, Option.bind_some, silent]
    rcases after with same | ⟨metadata, _, taken⟩
    · exact Nat.le_of_eq (by rw [same])
    · rw [taken]
      exact Nat.le_refl _
  · rw [leavesHere, tallyHere, left]
    exact Nat.zero_le _
  · rcases after with same | ⟨metadata, present, taken⟩
    · rw [same]
      exact fun after isAfter => ⟨after, isAfter, rfl⟩
    · rw [taken]
      rintro _ ⟨⟩
      exact ⟨metadata, present, OutputCount.fetchSub_of_ne different⟩

/-- A call goes on with the viewer that it has, or gives it up, and counts nothing. -/
theorem Held.moved (held : Held ⟨state, earlier ++ task :: later⟩ output)
    (attached : next.attached = state.attached) (metadata : next.metadata = state.metadata)
    (sessions : next.sessions = state.sessions)
    (stays : rest.bind Task.stays = none ∨ rest.bind Task.stays = task.stays)
    (leaves : rest.bind Task.leaves = task.leaves) (clamps : rest.bind Task.clamps = none) :
    Held ⟨next, earlier ++ rest.toList ++ later⟩ output := by
  refine held.steady (by rw [attached]) ?_ ?_ (by rw [clamps]; simp) ?_
  · simp only [staysHere, tallyHere, State.viewerSessions, sessions, Option.bind_some]
    rcases stays with none' | same
    · simp [none']
    · exact Nat.le_of_eq (by rw [same])
  · simp only [leavesHere, tallyHere, leaves, Option.bind_some]
    exact Nat.le_refl _
  · rw [metadata]
    exact fun after isAfter => ⟨after, isAfter, rfl⟩

/-- A placeholder session stands for no viewer. -/
theorem placeholder_viewerSessions (token : String) (other : OutputEnum) :
    (state.addSession ⟨false, token, other⟩).viewerSessions = state.viewerSessions := by
  rw [State.viewerSessions, State.addSession_sessions, List.filterMap_append]
  simp [OutSession.viewerOutput, State.viewerSessions]

/-- An answer to `StreamIdle` leaves the counts, or takes them away with the stream. -/
theorem Held.answered {index : Nat} {answer : Option (Media.Resp Media.OutputEventRes)}
    (held : Held ⟨state, earlier ++ .closeStreamByOutput index answer :: later⟩ output) :
    Held ⟨closeStreamByOutput state index answer, earlier ++ (none : Option Task).toList ++ later⟩ output := by
  rw [closeStreamByOutput]
  split
  · exact held.moved rfl rfl rfl (Or.inl rfl) rfl rfl
  · next info _ =>
      dsimp only
      cases outputRes info answer with
      | keepMuxer =>
          refine held.steady rfl ?_ (Nat.le_refl _) (by simp) fun after isAfter => ⟨after, isAfter, rfl⟩
          rw [staysHere, tallyHere, placeholder_viewerSessions]
          exact Nat.le_refl _
      | closeMuxer =>
          dsimp only
          split
          · exact held.moved rfl rfl rfl (Or.inl rfl) rfl rfl
          · next metadata present =>
              split
              · refine held.steady rfl (Nat.le_refl _) (Nat.le_refl _) (by simp) ?_
                rintro _ ⟨⟩
                exact ⟨metadata, present, rfl⟩
              · exact held.moved rfl rfl rfl (Or.inl rfl) rfl rfl
      | closeAll =>
          exact held.steady rfl (Nat.le_refl _) (Nat.le_refl _) (by simp) fun _ none' => by cases none'

/-- A session is made of the viewer of a body, or the viewer goes without one. -/
theorem Held.listened {other : OutputEnum} {token : String}
    (held : Held ⟨state, earlier ++ .listenOutputTimeout other token :: later⟩ output) :
    Held ⟨if state.metadata.isSome then state.addSession ⟨true, token, other⟩ else state,
      earlier ++ (none : Option Task).toList ++ later⟩ output := by
  split
  · refine held.steady rfl (Nat.le_of_eq ?_) (Nat.le_refl _) (by simp)
      fun after isAfter => ⟨after, isAfter, rfl⟩
    simp [staysHere, tallyHere, State.viewerSessions, OutSession.viewerOutput, Task.stays,
      List.filterMap_append]
  · exact held.moved rfl rfl rfl (Or.inl rfl) rfl rfl

/-- A placeholder session expires. -/
theorem Held.placeholderExpired {id : Nat} {session : OutSession}
    (held : Held ⟨state, earlier ++ .expire id :: later⟩ output)
    (found : state.sessionAt id = some session) (placeholder : ¬session.viewer = true) :
    Held ⟨state.removeSession id, earlier ++ (some (Task.cleanToken session)).toList ++ later⟩ output := by
  have sessions := ((State.sessions_perm found).filterMap OutSession.viewerOutput).count_eq output
  rw [List.filterMap_cons_none (by rw [OutSession.viewerOutput, if_neg placeholder])] at sessions
  refine held.steady rfl (Nat.le_of_eq ?_) ?_ (by simp [Task.clamps])
    fun after isAfter => ⟨after, isAfter, rfl⟩
  · simp only [staysHere, tallyHere, State.viewerSessions, sessions]
    rfl
  · simp [leavesHere, tallyHere, Task.leaves, placeholder]

/-- Every operation that keeps the watched stream keeps what holds of every output. -/
theorem held_work (held : ∀ output, Held ⟨state, earlier ++ task :: later⟩ output)
    (keeps : KeepsWatched ⟨state, earlier ++ task :: later⟩ task) (output : OutputEnum) :
    Held ⟨(work state task).2, earlier ++ (work state task).1.toList ++ later⟩ output := by
  have here := held output
  cases task with
  | request handler token onPlay rx =>
      simp only [work]
      split <;> exact here.moved rfl rfl rfl (Or.inl rfl) rfl rfl
  | check handler token onPlay rx =>
      simp only [work]
      split
      · exact here.moved rfl rfl rfl (Or.inl rfl) rfl rfl
      · split <;> exact here.moved rfl rfl rfl (Or.inl rfl) rfl rfl
  | insertOutToken handler token rx =>
      simp only [work]
      split
      · exact here.moved rfl rfl rfl (Or.inl rfl) rfl rfl
      · next metadata present => exact here.joined present keeps
  | insertToken handler token rx =>
      exact here.moved (by simp [work]) (by simp [work]) (by simp [work]) (Or.inr rfl) rfl rfl
  | play handler token rx =>
      simp only [work]
      split
      · split
        · exact here.moved rfl rfl rfl (Or.inr rfl) rfl rfl
        · exact here.moved rfl rfl rfl (Or.inl rfl) rfl rfl
      · exact here.moved rfl rfl rfl (Or.inr rfl) rfl rfl
      · exact here.moved rfl rfl rfl (Or.inl rfl) rfl rfl
  | body output token => exact here.moved rfl rfl rfl (Or.inr rfl) rfl rfl
  | listenOutputTimeout other token => exact here.listened
  | expire id =>
      cases found : state.sessionAt id with
      | none =>
          simp only [work, found]
          exact here.moved rfl rfl rfl (Or.inl rfl) rfl rfl
      | some session =>
          simp only [work, found]
          split
          · next viewer => exact here.expired found viewer
          · next placeholder => exact here.placeholderExpired found placeholder
  | cleanToken session =>
      exact here.moved (by simp [work]) (by simp [work]) (by simp [work]) (Or.inl rfl) rfl rfl
  | subtract cause =>
      by_cases same : output = cause.output
      · subst same
        cases present : state.metadata with
        | none =>
            simp only [work, subtract, present]
            refine here.steady rfl (Nat.le_refl _) (Nat.zero_le _) (by simp) ?_
            rw [present]
            exact fun _ none' => by cases none'
        | some metadata =>
            refine here.subtracted present rfl ?_
            cases viewer : cause.isViewer with
            | true => exact Or.inl (by simp [leavesHere, tallyHere, Task.leaves, viewer])
            | false => exact Or.inr ⟨by simp [leavesHere, tallyHere, Task.leaves, viewer], keeps viewer⟩
      · exact here.unsubtracted rfl same
  | storeZero cause =>
      simp only [work]
      split
      · exact here.moved rfl rfl rfl (Or.inl rfl) rfl rfl
      · next metadata present => exact here.stored present
  | streamIdle output =>
      simp only [work]
      split <;> exact here.moved rfl rfl rfl (Or.inl rfl) rfl rfl
  | handleOutput act other =>
      cases act with
      | insert =>
          simp only [work]
          split
          · exact here.moved rfl rfl rfl (Or.inl rfl) rfl rfl
          · next metadata present => exact here.inserted present keeps
      | remove =>
          by_cases same : output = other
          · subst same
            cases present : state.metadata with
            | none =>
                simp only [work, subtract, present]
                exact here.moved rfl rfl rfl (Or.inl rfl) rfl rfl
            | some metadata =>
                have held : Held ⟨state, earlier ++ .handleOutput .remove output :: later⟩
                    (Cause.removal output).output := here
                exact held.subtracted present rfl (Or.inr ⟨rfl, keeps⟩)
          · have different : output ≠ (Cause.removal other).output := same
            exact here.unsubtracted rfl different
  | closeStreamByOutput index answer => exact here.answered

/-! ## What is closed -/

theorem ClosesUnwatched.of_open {after : State} (opened : ∀ metadata ∈ state.metadata,
    ∃ next, after.metadata = some next ∧ next.muxers = metadata.muxers) : ClosesUnwatched state after := by
  intro metadata isMetadata
  obtain ⟨next, present, same⟩ := opened metadata isMetadata
  refine ⟨fun gone => ?_, fun other isOther output wasOpen closed => ?_⟩
  · rw [present] at gone
    cases gone
  · cases present.symm.trans isOther
    rw [same, wasOpen] at closed
    cases closed

theorem ClosesUnwatched.of_same {after : State} (same : after.metadata = state.metadata) :
    ClosesUnwatched state after :=
  .of_open fun metadata isMetadata => ⟨metadata, same.trans isMetadata, rfl⟩

theorem ClosesUnwatched.of_counted (present : state.metadata = some metadata) {count : OutputCount}
    {after : State} (counted : after.metadata = some { metadata with outputCount := count }) :
    ClosesUnwatched state after := by
  apply ClosesUnwatched.of_open
  intro other isOther
  cases present.symm.trans isOther
  exact ⟨_, counted, rfl⟩

theorem subtract_closesUnwatched (cause : Cause) : ClosesUnwatched state (subtract state cause).2 := by
  rw [subtract]
  split
  · exact .of_same rfl
  · next metadata present => exact .of_counted present rfl

/-- An answer that closes nothing watched; the count has been read for the play type of
a muxer. -/
theorem closeStreamByOutput_closesUnwatched {index : Nat}
    {answer : Option (Media.Resp Media.OutputEventRes)}
    (below : NeverBelow state)
    (keeps : ∀ info ∈ state.events[index]?, AnswersUnwatched state info (outputRes info answer)) :
    ClosesUnwatched state (closeStreamByOutput state index answer) := by
  rw [closeStreamByOutput]
  split
  · exact .of_same rfl
  · next info found =>
      have unwatched := keeps info found
      dsimp only
      split
      · exact .of_same rfl
      · next verdict =>
          rw [verdict] at unwatched
          split
          · next absent =>
              intro metadata isMetadata
              cases absent.symm.trans isMetadata
          · next metadata present =>
              split
              · next unused =>
                  intro other isOther
                  cases present.symm.trans isOther
                  refine ⟨fun gone => (by cases gone), fun next isNext output wasOpen closed => ?_⟩
                  cases isNext
                  have sameMuxer : MuxerEnum.fromOutputEnum output = .fromOutputEnum info.playType := by
                    by_contra different
                    simp only [Function.update_of_ne different, wasOpen] at closed
                    cases closed
                  by_cases same : output = info.playType
                  · have bound := below metadata present output
                    rw [OutputCount.getMuxerSize] at unused
                    rwa [same, unused, UInt32.toNat_zero, Nat.le_zero, ← same] at bound
                  · exact unwatched output (mem_outputs output) same sameMuxer
              · exact .of_same rfl
      · next verdict =>
          rw [verdict] at unwatched
          intro metadata isMetadata
          exact ⟨fun _ output => unwatched output (mem_outputs output), fun _ none' => by cases none'⟩

theorem work_closesUnwatched {pool : Pool State Task} (below : NeverBelow pool.shared)
    (keeps : KeepsWatched pool task) : ClosesUnwatched pool.shared (work pool.shared task).2 := by
  obtain ⟨state, tasks⟩ := pool
  cases task with
  | insertOutToken handler token rx =>
      simp only [work]
      split
      · exact .of_same rfl
      · next metadata present => exact .of_counted present rfl
  | insertToken handler token rx => exact .of_same (by simp [work])
  | play handler token rx =>
      simp only [work]
      split <;> exact .of_same rfl
  | listenOutputTimeout output token =>
      simp only [work]
      split <;> exact .of_same rfl
  | expire id =>
      simp only [work]
      split
      · exact .of_same rfl
      · dsimp only
        split <;> exact .of_same rfl
  | cleanToken session => exact .of_same (by simp [work])
  | subtract cause => exact subtract_closesUnwatched cause
  | storeZero cause =>
      simp only [work]
      split
      · exact .of_same rfl
      · next metadata present => exact .of_counted present rfl
  | streamIdle output =>
      simp only [work]
      split
      · exact .of_same rfl
      · exact .of_same rfl
  | handleOutput act output =>
      cases act with
      | insert =>
          simp only [work]
          split
          · exact .of_same rfl
          · next metadata present => exact .of_counted present rfl
      | remove => exact subtract_closesUnwatched (.removal output)
  | closeStreamByOutput index answer => exact closeStreamByOutput_closesUnwatched below keeps
  | request handler token onPlay rx => exact .of_same rfl
  | check handler token onPlay rx =>
      simp only [work]
      split
      · exact .of_same rfl
      · split <;> exact .of_same rfl
  | body output token => exact .of_same rfl

theorem held_begin {tasks : List Task} (calls : task.isCall = true) (held : Held ⟨state, tasks⟩ output) :
    Held ⟨state, tasks ++ [task]⟩ output := by
  have silent : task.stays = none := by cases task <;> first | rfl | cases calls
  have stays : task.leaves = none := by cases task <;> first | rfl | cases calls
  have unclamped : task.clamps = none := by cases task <;> first | rfl | cases calls
  have owes : owed ⟨state, tasks ++ [task]⟩ output = owed ⟨state, tasks⟩ output := by
    rw [owed, tally_begin _ _ _ stays, owed]
  refine ⟨?_, fun ⟨other, member, clamps⟩ => ?_, fun metadata isMetadata => ?_⟩
  · rw [tally_begin _ _ _ silent]
    exact held.attached
  · rw [owes]
    rcases List.mem_append.mp member with before | isNew
    · exact held.clamped ⟨other, before, clamps⟩
    · rw [List.mem_singleton.mp isNew, unclamped] at clamps
      cases clamps
  · rw [owes]
    exact held.covered metadata isMetadata

theorem neverBelow_of_held {pool : Pool State Task} (held : ∀ output, Held pool output) :
    NeverBelow pool.shared := by
  intro metadata isMetadata output
  exact Nat.le_trans (Nat.le_add_right _ _) ((held output).covered metadata isMetadata)

end Pools

/-! ## Runs -/

theorem held_init (info : Media.BaseStreamInfo) (muxers : MuxerEnum → Bool) (output : OutputEnum) :
    Held ⟨State.init info muxers, []⟩ output where
  attached := Nat.le_refl 0
  clamped := fun ⟨_, member, _⟩ => by cases member
  covered _ _ := Nat.zero_le _

/-- In every interleaving whose steps keep the watched stream: no count is ever below the
viewers that are attached, and neither the stream nor a muxer is closed under one. -/
theorem watched_stream_stays (info : Media.BaseStreamInfo) (muxers : MuxerEnum → Bool)
    (moves : List (Move Task))
    (keeps : ∀ entry ∈ Runs.run (step work) ⟨State.init info muxers, []⟩ moves,
      Guarded (fun task => task.isCall = true) KeepsWatched entry.before entry.action) :
    ∀ entry ∈ Runs.run (step work) ⟨State.init info muxers, []⟩ moves,
      NeverBelow entry.after.shared ∧ ClosesUnwatched entry.before.shared entry.after.shared := by
  intro entry member
  have held := invariant_run (fun pool => ∀ output, Held pool output)
    (fun _ _ _ held calls output => held_begin calls (held output))
    (fun _ _ _ _ held keeps output => held_work held keeps output) (held_init info muxers) keeps
    entry member
  refine ⟨neverBelow_of_held held.2, ?_⟩
  have isStep : entry.after = (step work entry.before entry.action).2 :=
    congrArg Runs.Transition.after (Runs.mem_run member)
  rw [isStep]
  rcases shared_step work entry.before entry.action with same | ⟨index, task, isAdvance, found, worked⟩
  · exact .of_same (by rw [same])
  · have guarded := keeps entry member
    rw [isAdvance] at guarded
    rw [worked]
    exact work_closesUnwatched (neverBelow_of_held held.1) (guarded task found)

def firstStream : State := .init ⟨1, "first"⟩ fun _ => true

/-- A viewer watches http-flv and leaves, and the answer to the idle stream closes it. -/
def visitThenCloseAll : List (Move Task) :=
  flvVisit ++ [.begin (.closeStreamByOutput 0 (some ⟨200, some .closeAll⟩)), .advance 0]

theorem watched_stream_stays_visitThenCloseAll :
    (Runs.final (step work) ⟨firstStream, []⟩ visitThenCloseAll).shared.metadata.isNone ∧
      ∀ entry ∈ Runs.run (step work) ⟨firstStream, []⟩ visitThenCloseAll,
        NeverBelow entry.after.shared ∧ ClosesUnwatched entry.before.shared entry.after.shared :=
  ⟨by decide +kernel,
    watched_stream_stays ⟨1, "first"⟩ (fun _ => true) visitThenCloseAll (by decide +kernel)⟩

/-- The answer keeps the muxer instead, a second viewer comes, and the placeholder
session expires. -/
def visitAfterKeepMuxer : List (Move Task) :=
  flvVisit ++ [.begin (.closeStreamByOutput 0 (some ⟨200, some .keepMuxer⟩)), .advance 0,
    .begin (.request flv "second" (some true) true), .advance 0, .advance 0, .advance 0, .advance 0,
    .advance 0, .begin (.expire 2), .advance 1, .advance 1, .advance 1]

/-- The placeholder takes the second viewer off the count. -/
theorem visitAfterKeepMuxer_undercounts :
    (∀ task, .begin task ∈ visitAfterKeepMuxer → task.isCall = true) ∧
      ¬∀ entry ∈ Runs.run (step work) ⟨firstStream, []⟩ visitAfterKeepMuxer,
        NeverBelow entry.after.shared ∧ ClosesUnwatched entry.before.shared entry.after.shared := by
  refine ⟨by simp [visitAfterKeepMuxer, flvVisit, Task.isCall], fun all => ?_⟩
  obtain ⟨entry, member, isLast⟩ := Runs.exists_after_final (step work) ⟨firstStream, []⟩
    (by simp [visitAfterKeepMuxer] : visitAfterKeepMuxer ≠ [])
  have below := (all entry member).1
  rw [isLast] at below
  have counted := below _ rfl .httpFlv
  revert counted
  decide +kernel

end Gmv.Stream.Viewers
