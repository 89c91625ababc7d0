import Gmv.Stream.Viewers

/-!
# The accounts of viewers are settled

The requests of the play path, the ends of their bodies and the expiries of their sessions,
on a stream that stays registered.  Every count is covered by those who hold it: a body,
a session, or a call between the two.  A handler that gives its viewer up without a
session leaves a count behind that nobody takes off.
-/

namespace Gmv.Stream.Viewers

open Gmv.Library Gmv.Library.TaskPool
open Media (OutputEnum)

/-- Requests and expiries begin; the end of a body is its own next step. -/
def Task.isPlayCall : Task → Bool
  | .request handler _ _ _ => handler ∈ httpHandlers
  | .expire _ => true
  | _ => false

/-- A call counts a viewer, holds one, or takes one off. -/
def Task.accounts : Task → Bool
  | .insertToken .. | .play .. | .body .. | .listenOutputTimeout .. | .cleanToken _ | .subtract _
  | .storeZero _ => true
  | _ => false

/-- No body is open and no session is pending, and no call is between the two. -/
def Quiet (pool : Pool State Task) : Prop :=
  pool.shared.outSessionMap = [] ∧ ∀ task ∈ pool.tasks, task.accounts = false

/-- No viewer is left in the counts. -/
def State.Settled (state : State) : Prop :=
  (∀ metadata ∈ state.metadata, ∀ output, metadata.outputCount output = 0) ∧
    ∀ token, state.userTokenMap token = none

/-- A handler keeps the viewer that it has admitted: it opens a body or leaves a session. -/
def KeepsViewer (_ : Pool State Task) : Task → Prop
  | .play handler _ rx =>
      match handler.course with
      | .body => rx = true
      | .listen => True
      | .answer => False
  | _ => True

instance (pool : Pool State Task) (task : Task) : Decidable (KeepsViewer pool task) := by
  unfold KeepsViewer
  split
  · split <;> infer_instance
  · infer_instance

/-! ## Who holds a count -/

def Cause.viewer : Cause → Option OutSession
  | .expiry session => some session
  | .removal _ => none

/-- The output at which a call holds a count. -/
def Task.counted : Task → Option OutputEnum
  | .insertToken handler _ _ | .play handler _ _ => some handler.output
  | .body output _ | .listenOutputTimeout output _ => some output
  | .cleanToken session => some session.outputEnum
  | .subtract cause => cause.viewer.map OutSession.outputEnum
  | _ => none

/-- The token and the output that a call plays. -/
def Task.plays : Task → Option (String × OutputEnum)
  | .play handler token _ => some (token, handler.output)
  | .body output token | .listenOutputTimeout output token => some (token, output)
  | .cleanToken session => some (session.token, session.outputEnum)
  | _ => none

def Task.clamps : Task → Option OutputEnum
  | .storeZero cause => some cause.output
  | _ => none

def State.sessionOutputs (state : State) : List OutputEnum := state.sessions.map OutSession.outputEnum

def State.sessionPlays (state : State) : List (String × OutputEnum) :=
  state.sessions.map fun session => (session.token, session.outputEnum)

theorem toNat_pos {count : UInt32} (positive : count ≠ 0) : 0 < count.toNat :=
  Nat.pos_of_ne_zero (by simpa [← UInt32.toNat_inj] using positive)

/-- A counter that is not zero does not wrap as it is counted down. -/
theorem toNat_pred {count : UInt32} (positive : count ≠ 0) :
    (count - 1).toNat = count.toNat - 1 := by
  have atLeast : (1 : UInt32) ≤ count := by
    rw [UInt32.le_iff_toNat_le]
    exact toNat_pos positive
  rw [UInt32.toNat_sub_of_le _ _ atLeast]
  rfl

/-- A step may leave a counter as it is, add a viewer, or take one off. -/
inductive Moved (count next : UInt32) (viewers rest : Nat) : Prop where
  | kept (same : next = count) (grown : viewers ≤ rest)
  | joined (added : next = count + 1) (grown : viewers + 1 ≤ rest)
  | left (positive : count ≠ 0) (taken : next = count - 1) (shrunk : viewers ≤ rest + 1)

theorem Moved.le {count next : UInt32} {viewers rest others : Nat}
    (moved : Moved count next viewers rest) (covered : count.toNat ≤ viewers + others) :
    next.toNat ≤ rest + others := by
  cases moved with
  | kept same grown => subst same; omega
  | joined added grown =>
      have bound : next.toNat ≤ count.toNat + 1 := by
        rw [added, UInt32.toNat_add]
        exact (Nat.mod_le _ _)
      omega
  | left positive taken shrunk =>
      have here := toNat_pos positive
      have less := toNat_pred positive
      rw [taken]
      omega

/-- The times of a token are covered by those who play it; zero is the wrapped counter. -/
def Covered (times : Option UInt32) (playing : Nat) : Prop :=
  ∀ count ∈ times, count.toNat ≤ playing ∧ (count = 0 → 4294967296 ≤ playing)

theorem Covered.mono {times : Option UInt32} {playing more : Nat} (covered : Covered times playing)
    (grown : playing ≤ more) : Covered times more := by
  intro count isCount
  obtain ⟨bound, wrapped⟩ := covered count isCount
  exact ⟨Nat.le_trans bound grown, fun zero => Nat.le_trans (wrapped zero) grown⟩

/-- One more play, by one more player. -/
theorem Covered.insert {times : Option UInt32} {playing : Nat} (covered : Covered times playing) :
    Covered (some (times.elim 1 (· + 1))) (playing + 1) := by
  rintro _ ⟨⟩
  cases times with
  | none => exact ⟨Nat.le_add_left 1 playing, fun zero => absurd zero (by decide)⟩
  | some count =>
      obtain ⟨bound, wrapped⟩ := covered count rfl
      simp only [Option.elim_some]
      by_cases last : count.toNat = 4294967295
      · have zero : (count + 1).toNat = 0 := by rw [UInt32.toNat_add, last]; rfl
        exact ⟨by omega, fun _ => by omega⟩
      · have small := count.toNat_lt
        have next : (count + 1).toNat = count.toNat + 1 := by
          rw [UInt32.toNat_add]
          exact Nat.mod_eq_of_lt (by simp only [UInt32.toNat_one]; omega)
        refine ⟨by omega, fun zero => ?_⟩
        rw [zero, UInt32.toNat_zero] at next
        omega

/-- One play less, with its player. -/
theorem Covered.clean {times : Option UInt32} {playing : Nat} (covered : Covered times (playing + 1)) :
    Covered (times.bind fun count => if count = 1 then none else some (count - 1)) playing := by
  intro next isNext
  obtain ⟨count, rfl, rest⟩ := Option.bind_eq_some_iff.mp isNext
  obtain ⟨bound, wrapped⟩ := covered count rfl
  split at rest
  · cases rest
  · next several =>
      cases rest
      by_cases zero : count = 0
      · subst zero
        have many := wrapped rfl
        have last : (0 - 1 : UInt32).toNat = 4294967295 := rfl
        exact ⟨by omega, fun isZero => by rw [isZero] at last; cases last⟩
      · have positive := toNat_pos zero
        have less := toNat_pred zero
        have one : count.toNat ≠ 1 := by simpa [← UInt32.toNat_inj] using several
        refine ⟨by omega, fun isZero => ?_⟩
        rw [isZero, UInt32.toNat_zero] at less
        omega

/-! ## One operation -/

/-- The calls of a run of requests, bodies and expiries. -/
def Task.isViewer : Task → Bool
  | .handleOutput .. | .closeStreamByOutput .. => false
  | .subtract cause | .storeZero cause => cause.viewer.isSome
  | _ => true

def viewersHere (state : State) (task : Option Task) (output : OutputEnum) : Nat :=
  tallyHere State.sessionOutputs Task.counted output state task

def playsHere (state : State) (task : Option Task) (play : String × OutputEnum) : Nat :=
  tallyHere State.sessionPlays Task.plays play state task

section Operations

variable {state : State} {metadata : StreamMetadata} {task : Task}

/-- What an operation does to the counts: every output moves along with its viewers, waits
for its store, or has been stored. -/
structure Accounts (metadata next : StreamMetadata) (state : State) (task : Task) (after : State)
    (rest : Option Task) : Prop where
  present : after.metadata = some next
  moved : ∀ output, rest.bind Task.clamps = some output ∨ next.outputCount output = 0 ∨
    task.clamps ≠ some output ∧ Moved (metadata.outputCount output) (next.outputCount output) (viewersHere state (some task) output)
      (viewersHere after rest output)

theorem Accounts.of_moved {next : StreamMetadata} {after : State} {rest : Option Task}
    (present : after.metadata = some next) (idle : task.clamps = none)
    (moved : ∀ output, rest.bind Task.clamps = some output ∨
      Moved (metadata.outputCount output) (next.outputCount output)
        (viewersHere state (some task) output) (viewersHere after rest output)) :
    Accounts metadata next state task after rest where
  present := present
  moved output := (moved output).imp_right fun moved => Or.inr ⟨by rw [idle]; simp, moved⟩

/-- The viewers stay where they are, or go from a call to its rest. -/
theorem Accounts.of_held {after : State} {rest : Option Task} (present : after.metadata = some metadata)
    (idle : task.clamps = none) (sessions : after.sessions = state.sessions)
    (held : rest.bind Task.counted = task.counted) :
    Accounts metadata metadata state task after rest := by
  refine .of_moved present idle fun output => Or.inr (.kept rfl (Nat.le_of_eq ?_))
  simp only [viewersHere, tallyHere, State.sessionOutputs, sessions, held, Option.bind_some]

/-- The viewer of a body gets a session. -/
theorem listenOutputTimeout_accounts (output : OutputEnum) (token : String)
    (present : state.metadata = some metadata) :
    Accounts metadata metadata state (.listenOutputTimeout output token)
      (state.addSession ⟨true, token, output⟩) none := by
  refine .of_moved present rfl fun other => Or.inr (.kept rfl (Nat.le_of_eq ?_))
  simp [viewersHere, tallyHere, State.sessionOutputs, Task.counted]

/-- The session of a viewer is taken out, and the expiry holds the viewer. -/
theorem expire_accounts {id : Nat} {session : OutSession} (found : state.sessionAt id = some session)
    {after : State} (present : after.metadata = some metadata)
    (sessions : after.sessions = (state.removeSession id).sessions) :
    Accounts metadata metadata state (.expire id) after (some (.cleanToken session)) := by
  refine .of_moved present rfl fun other => Or.inr (.kept rfl (Nat.le_of_eq ?_))
  have outputs := ((State.sessions_perm found).map OutSession.outputEnum).count_eq other
  simp only [viewersHere, tallyHere, State.sessionOutputs, sessions, outputs, Task.counted,
    Option.bind_some, Option.toList_none, Option.toList_some, List.map_cons, List.count_cons, List.count_nil]
  omega

theorem insertOutToken_accounts (handler : Handler) (token : String) (rx : Bool) :
    Accounts metadata { metadata with outputCount := metadata.outputCount.add handler.output } state
      (.insertOutToken handler token rx)
      ((state.setCount metadata (metadata.outputCount.add handler.output)).attach handler.output)
      (some (.insertToken handler token rx)) := by
  refine .of_moved rfl rfl fun other => Or.inr ?_
  have before : viewersHere state (some (.insertOutToken handler token rx)) other =
      state.sessionOutputs.count other := rfl
  have after : viewersHere
      ((state.setCount metadata (metadata.outputCount.add handler.output)).attach handler.output)
      (some (.insertToken handler token rx)) other =
      state.sessionOutputs.count other + [handler.output].count other := rfl
  rw [before, after]
  by_cases same : other = handler.output
  · subst same
    exact .joined OutputCount.add_self (Nat.le_of_eq (by rw [List.count_singleton_self]))
  · exact .kept (OutputCount.add_of_ne same) (Nat.le_add_right _ _)

/-- Nobody is held any more by what follows a subtraction. -/
theorem subtract_idle {β : Type} {holds : Task → Option β} (cause : Cause)
    (store : holds (.storeZero cause) = none) (idle : ∀ output, holds (.streamIdle output) = none) :
    (subtract state cause).1.bind holds = none := by
  rw [subtract]
  split
  · rfl
  · dsimp only
    split
    · exact store
    · split
      · cases cause with
        | expiry session => exact idle session.outputEnum
        | removal output => rfl
      · rfl

theorem subtract_accounts (session : OutSession) (present : state.metadata = some metadata) :
    Accounts metadata { metadata with outputCount := metadata.outputCount.fetchSub session.outputEnum }
      state (.subtract (.expiry session)) (subtract state (.expiry session)).2
      (subtract state (.expiry session)).1 := by
  have taken : (subtract state (.expiry session)).2 =
      state.setCount metadata (metadata.outputCount.fetchSub session.outputEnum) := by
    rw [subtract, present]
    rfl
  refine .of_moved (by rw [taken]; rfl) rfl fun other => ?_
  have before : viewersHere state (some (.subtract (.expiry session))) other =
      state.sessionOutputs.count other + [session.outputEnum].count other := rfl
  have after : viewersHere (subtract state (.expiry session)).2 (subtract state (.expiry session)).1 other =
      state.sessionOutputs.count other := by
    rw [viewersHere, tallyHere, subtract_idle _ rfl fun _ => rfl, taken]
    rfl
  rw [before, after]
  by_cases same : other = session.outputEnum
  · subst same
    by_cases zero : metadata.outputCount session.outputEnum = 0
    · left
      rw [subtract, present]
      simp only [Cause.output, zero, if_true]
      rfl
    · exact Or.inr (.left zero OutputCount.fetchSub_self (Nat.le_of_eq (by rw [List.count_singleton_self])))
  · have elsewhere : [session.outputEnum].count other = 0 := by
      rw [List.count_eq_zero, List.mem_singleton]
      exact same
    exact Or.inr (.kept (OutputCount.fetchSub_of_ne same) (Nat.le_of_eq (by rw [elsewhere, Nat.add_zero])))

theorem storeZero_accounts (session : OutSession) :
    Accounts metadata { metadata with outputCount := metadata.outputCount.storeZero session.outputEnum }
      state (.storeZero (.expiry session))
      (state.setCount metadata (metadata.outputCount.storeZero session.outputEnum))
      (some (.streamIdle session.outputEnum)) := by
  refine ⟨rfl, fun other => Or.inr ?_⟩
  by_cases same : other = session.outputEnum
  · subst same
    exact Or.inl OutputCount.storeZero_self
  · have elsewhere : (Task.storeZero (.expiry session)).clamps ≠ some other := by
      rw [Task.clamps, Cause.output, Ne, Option.some.injEq]
      exact Ne.symm same
    exact Or.inr ⟨elsewhere, .kept (OutputCount.storeZero_of_ne same) (Nat.le_refl _)⟩

/-- Every operation of a handler that keeps its viewers moves the counts along. -/
theorem work_accounts (present : state.metadata = some metadata) (viewer : task.isViewer = true)
    {tasks : List Task} (keeps : KeepsViewer ⟨state, tasks⟩ task) :
    ∃ next, Accounts metadata next state task (work state task).2 (work state task).1 := by
  cases task with
  | request handler token onPlay rx =>
      simp only [work, present]
      exact ⟨metadata, .of_held present rfl rfl rfl⟩
  | check handler token onPlay rx =>
      refine ⟨metadata, ?_⟩
      simp only [work]
      split
      · exact .of_held present rfl rfl rfl
      · split <;> exact .of_held present rfl rfl rfl
  | insertOutToken handler token rx =>
      simp only [work, present]
      exact ⟨_, insertOutToken_accounts handler token rx⟩
  | insertToken handler token rx =>
      exact ⟨metadata, .of_held (by simp [work, present]) rfl (by simp [work]) rfl⟩
  | play handler token rx =>
      refine ⟨metadata, ?_⟩
      cases course : handler.course with
      | body =>
          simp only [KeepsViewer, course] at keeps
          simp only [work, course, keeps, if_true]
          exact .of_held present rfl rfl rfl
      | listen =>
          simp only [work, course]
          exact .of_held present rfl rfl rfl
      | answer => simp [KeepsViewer, course] at keeps
  | body output token => exact ⟨metadata, .of_held present rfl rfl rfl⟩
  | listenOutputTimeout output token =>
      simp only [work, present, Option.isSome_some, if_true]
      exact ⟨metadata, listenOutputTimeout_accounts output token present⟩
  | expire id =>
      refine ⟨metadata, ?_⟩
      cases found : state.sessionAt id with
      | none =>
          simp only [work, found]
          exact .of_held present rfl rfl rfl
      | some session =>
          simp only [work, found]
          split
          · exact expire_accounts found present rfl
          · exact expire_accounts found present rfl
  | cleanToken session =>
      exact ⟨metadata, .of_held (by simp [work, present]) rfl (by simp [work]) rfl⟩
  | subtract cause =>
      cases cause with
      | expiry session => exact ⟨_, subtract_accounts session present⟩
      | removal output => cases viewer
  | storeZero cause =>
      cases cause with
      | expiry session =>
          simp only [work, present]
          exact ⟨_, storeZero_accounts session⟩
      | removal output => cases viewer
  | streamIdle output =>
      simp only [work, present]
      exact ⟨metadata, .of_held rfl rfl rfl rfl⟩
  | handleOutput act output => cases viewer
  | closeStreamByOutput index answer => cases viewer

/-- What an operation does to the tokens: each play moves along with its players. -/
structure TokenAccounts (state : State) (task : Task) (after : State) (rest : Option Task) : Prop where
  play : state.TokensPlay → after.TokensPlay
  covered : ∀ play : String × OutputEnum, ∀ others,
    Covered (state.timesOf play.1 play.2) (playsHere state (some task) play + others) →
      Covered (after.timesOf play.1 play.2) (playsHere after rest play + others)

theorem TokenAccounts.of_held {after : State} {rest : Option Task}
    (tokens : after.userTokenMap = state.userTokenMap) (sessions : after.sessions = state.sessions)
    (held : rest.bind Task.plays = task.plays) : TokenAccounts state task after rest where
  play := by
    simp only [State.TokensPlay, State.timesOf, tokens]
    exact id
  covered play others := by
    simp only [State.timesOf, tokens, playsHere, tallyHere, State.sessionPlays, sessions, held,
      Option.bind_some]
    exact id

theorem insertToken_tokenAccounts (handler : Handler) (token : String) (rx : Bool) :
    TokenAccounts state (.insertToken handler token rx) (state.insertToken token handler.output)
      (some (.play handler token rx)) where
  play := State.TokensPlay.insertToken
  covered play others := by
    obtain ⟨other, output⟩ := play
    have before : playsHere state (some (.insertToken handler token rx)) (other, output) =
        state.sessionPlays.count (other, output) := rfl
    have after : playsHere (state.insertToken token handler.output) (some (.play handler token rx))
        (other, output) =
        state.sessionPlays.count (other, output) + [(token, handler.output)].count (other, output) := by
      rw [playsHere, tallyHere, State.sessionPlays, State.insertToken_sessions]
      rfl
    rw [before, after, State.insertToken_timesOf]
    intro covered
    split
    · next same =>
        obtain ⟨rfl, rfl⟩ := same
        rw [List.count_singleton_self, Nat.add_right_comm]
        exact covered.insert
    · exact covered.mono (by omega)

theorem cleanToken_tokenAccounts (session : OutSession) :
    TokenAccounts state (.cleanToken session) (state.cleanToken session.token session.outputEnum)
      (some (.subtract (.expiry session))) where
  play := State.TokensPlay.cleanToken
  covered play others := by
    obtain ⟨other, output⟩ := play
    have before : playsHere state (some (.cleanToken session)) (other, output) =
        state.sessionPlays.count (other, output) +
          [(session.token, session.outputEnum)].count (other, output) := rfl
    have after : playsHere (state.cleanToken session.token session.outputEnum)
        (some (.subtract (.expiry session))) (other, output) = state.sessionPlays.count (other, output) := by
      rw [playsHere, tallyHere, State.sessionPlays, State.cleanToken_sessions]
      rfl
    rw [before, after, State.cleanToken_timesOf]
    intro covered
    split
    · next same =>
        obtain ⟨rfl, rfl⟩ := same
        rw [List.count_singleton_self, Nat.add_right_comm] at covered
        exact covered.clean
    · next different =>
        have elsewhere : [(session.token, session.outputEnum)].count (other, output) = 0 := by
          rw [List.count_eq_zero, List.mem_singleton, Prod.mk.injEq]
          exact different
        rwa [elsewhere, Nat.add_zero] at covered

theorem listenOutputTimeout_tokenAccounts (output : OutputEnum) (token : String) :
    TokenAccounts state (.listenOutputTimeout output token)
      (state.addSession ⟨true, token, output⟩) none where
  play := id
  covered play others := by
    have same : playsHere (state.addSession ⟨true, token, output⟩) none play =
        playsHere state (some (.listenOutputTimeout output token)) play := by
      simp [playsHere, tallyHere, State.sessionPlays, Task.plays]
    rw [same]
    exact id

theorem expire_tokenAccounts {id : Nat} {session : OutSession}
    (found : state.sessionAt id = some session) {after : State}
    (tokens : after.userTokenMap = state.userTokenMap)
    (sessions : after.sessions = (state.removeSession id).sessions) :
    TokenAccounts state (.expire id) after (some (.cleanToken session)) where
  play := by
    simp only [State.TokensPlay, State.timesOf, tokens]
    exact fun play => play
  covered play others := by
    have plays := ((State.sessions_perm found).map fun session => (session.token, session.outputEnum)).count_eq play
    have same : playsHere after (some (.cleanToken session)) play =
        playsHere state (some (.expire id)) play := by
      simp only [playsHere, tallyHere, State.sessionPlays, sessions, plays, Task.plays, Option.bind_some,
        Option.toList_none, Option.toList_some, List.map_cons, List.count_cons, List.count_nil]
      omega
    rw [same]
    simp only [State.timesOf, tokens]
    exact fun covered => covered

theorem work_tokenAccounts (present : state.metadata = some metadata) (viewer : task.isViewer = true)
    {tasks : List Task} (keeps : KeepsViewer ⟨state, tasks⟩ task) :
    TokenAccounts state task (work state task).2 (work state task).1 := by
  cases task with
  | request handler token onPlay rx =>
      simp only [work, present]
      exact .of_held rfl rfl rfl
  | check handler token onPlay rx =>
      simp only [work]
      split
      · exact .of_held rfl rfl rfl
      · split <;> exact .of_held rfl rfl rfl
  | insertOutToken handler token rx =>
      simp only [work, present]
      exact .of_held rfl rfl rfl
  | insertToken handler token rx => exact insertToken_tokenAccounts handler token rx
  | play handler token rx =>
      cases course : handler.course with
      | body =>
          simp only [KeepsViewer, course] at keeps
          simp only [work, course, keeps, if_true]
          exact .of_held rfl rfl rfl
      | listen =>
          simp only [work, course]
          exact .of_held rfl rfl rfl
      | answer => simp [KeepsViewer, course] at keeps
  | body output token => exact .of_held rfl rfl rfl
  | listenOutputTimeout output token =>
      simp only [work, present, Option.isSome_some, if_true]
      exact listenOutputTimeout_tokenAccounts output token
  | expire id =>
      cases found : state.sessionAt id with
      | none =>
          simp only [work, found]
          exact .of_held rfl rfl rfl
      | some session =>
          simp only [work, found]
          split
          · exact expire_tokenAccounts found rfl rfl
          · exact expire_tokenAccounts found rfl rfl
  | cleanToken session => exact cleanToken_tokenAccounts session
  | subtract cause =>
      refine .of_held ?_ ?_ (subtract_idle cause rfl fun _ => rfl)
      · simp only [work, subtract, present]
        rfl
      · simp only [work, subtract, present]
        rfl
  | storeZero cause =>
      simp only [work, present]
      exact .of_held rfl rfl (by cases cause <;> rfl)
  | streamIdle output =>
      simp only [work, present]
      exact .of_held rfl rfl rfl
  | handleOutput act output => cases viewer
  | closeStreamByOutput index answer => cases viewer

/-- The rest of a viewer's call is one. -/
theorem work_isViewer (viewer : task.isViewer = true) {next : Task} (isNext : next ∈ (work state task).1) :
    next.isViewer = true := by
  cases task with
  | subtract cause =>
      simp only [work, subtract] at isNext
      split at isNext
      · cases isNext
      · dsimp only at isNext
        split at isNext
        · cases isNext
          exact viewer
        · split at isNext
          · cases cause with
            | expiry session => cases isNext; rfl
            | removal output => cases viewer
          · cases isNext
  | storeZero cause =>
      cases cause with
      | expiry session =>
          simp only [work] at isNext
          split at isNext
          · cases isNext
          · cases isNext
            rfl
      | removal output => cases viewer
  | handleOutput act output => cases viewer
  | closeStreamByOutput index answer => cases viewer
  | _ =>
      simp only [work] at isNext
      repeat' split at isNext
      all_goals cases isNext <;> rfl

end Operations

/-! ## The accounts along a run -/

/-- A call of the pool is about to store zero. -/
def Clamping (pool : Pool State Task) (output : OutputEnum) : Prop :=
  ∃ task ∈ pool.tasks, task.clamps = some output

/-- Every counter is covered by the viewers that hold it, or will be set to zero, and the
times of every token by those who play it. -/
structure Accounted (pool : Pool State Task) : Prop where
  viewers : ∀ task ∈ pool.tasks, task.isViewer = true
  registered : ∃ metadata, pool.shared.metadata = some metadata ∧
    ∀ output, Clamping pool output ∨
      (metadata.outputCount output).toNat ≤ tally State.sessionOutputs Task.counted output pool
  play : pool.shared.TokensPlay
  covered : ∀ play : String × OutputEnum,
    Covered (pool.shared.timesOf play.1 play.2) (tally State.sessionPlays Task.plays play pool)

section Pools

variable {state : State} {earlier later : List Task} {task : Task}

theorem Accounted.begin {tasks : List Task} (accounted : Accounted ⟨state, tasks⟩)
    (calls : task.isPlayCall = true) : Accounted ⟨state, tasks ++ [task]⟩ := by
  have uncounted : task.counted = none := by cases task <;> first | rfl | cases calls
  have unplayed : task.plays = none := by cases task <;> first | rfl | cases calls
  have viewer : task.isViewer = true := by cases task <;> first | rfl | cases calls
  obtain ⟨metadata, present, counts⟩ := accounted.registered
  refine ⟨?_, ⟨metadata, present, fun output => ?_⟩, accounted.play, fun play => ?_⟩
  · intro other member
    rcases List.mem_append.mp member with before | isNew
    · exact accounted.viewers other before
    · rw [List.mem_singleton.mp isNew]
      exact viewer
  · rw [tally_begin _ _ _ uncounted]
    exact (counts output).imp_left fun ⟨other, member, clamps⟩ =>
      ⟨other, List.mem_append_left _ member, clamps⟩
  · rw [tally_begin _ _ _ unplayed]
    exact accounted.covered play

theorem Accounted.advance (accounted : Accounted ⟨state, earlier ++ task :: later⟩)
    (keeps : KeepsViewer ⟨state, earlier ++ task :: later⟩ task) :
    Accounted ⟨(work state task).2, earlier ++ (work state task).1.toList ++ later⟩ := by
  obtain ⟨metadata, present, counts⟩ := accounted.registered
  have viewer : task.isViewer = true := accounted.viewers task (by simp)
  obtain ⟨next, moves⟩ := work_accounts present viewer keeps
  have tokens := work_tokenAccounts present viewer keeps
  refine ⟨?_, ⟨next, moves.present, fun output => ?_⟩, tokens.play accounted.play, fun play => ?_⟩
  · intro other member
    rcases mem_advanced task member with isRest | before
    · exact work_isViewer viewer isRest
    · exact accounted.viewers other before
  · rcases moves.moved output with clamps | stored | ⟨still, moved⟩
    · obtain ⟨other, isRest, clamps⟩ := Option.bind_eq_some_iff.mp clamps
      exact Or.inl ⟨other, mem_advanced_of_rest isRest, clamps⟩
    · rw [stored]
      exact Or.inr (Nat.zero_le _)
    · rcases counts output with ⟨other, member, clamps⟩ | covered
      · have different : other ≠ task := by
          rintro rfl
          exact still clamps
        exact Or.inl ⟨other, mem_advanced_of_ne member different, clamps⟩
      · rw [tally_split] at covered
        rw [tally_advanced]
        exact Or.inr (moved.le covered)
  · have covered := accounted.covered play
    rw [tally_split] at covered
    rw [tally_advanced]
    exact tokens.covered play _ covered

/-- Nobody holds a count of a quiet pool. -/
theorem tally_quiet {β : Type} [BEq β] {holds : Task → Option β} (store : OutSession → β)
    (accounts : ∀ task, task.accounts = false → holds task = none) {pool : Pool State Task}
    (quiet : Quiet pool) (value : β) :
    tally (fun state : State => state.sessions.map store) holds value pool = 0 := by
  have idle : pool.tasks.filterMap holds = [] :=
    List.filterMap_eq_nil_iff.mpr fun task member => accounts task (quiet.2 task member)
  simp only [tally, State.sessions, quiet.1, idle, List.map_nil, List.count_nil]

theorem Accounted.settled {pool : Pool State Task} (accounted : Accounted pool) (quiet : Quiet pool) :
    pool.shared.Settled := by
  obtain ⟨metadata, present, counts⟩ := accounted.registered
  constructor
  · intro other isOther output
    cases present.symm.trans isOther
    rcases counts output with ⟨task, member, clamps⟩ | covered
    · have silent := quiet.2 task member
      cases task with
      | storeZero cause => cases silent
      | _ => cases clamps
    · have none' : tally State.sessionOutputs Task.counted output pool = 0 :=
        tally_quiet OutSession.outputEnum (fun task silent => by cases task <;> first | rfl | cases silent)
          quiet output
      rw [none', Nat.le_zero] at covered
      exact UInt32.toNat_inj.mp covered
  · intro token
    have unplayed (output : OutputEnum) : pool.shared.timesOf token output = none := by
      have none' : tally State.sessionPlays Task.plays (token, output) pool = 0 :=
        tally_quiet (fun session => (session.token, session.outputEnum))
          (fun task silent => by cases task <;> first | rfl | cases silent) quiet (token, output)
      have covered := accounted.covered (token, output)
      rw [none'] at covered
      by_contra counted
      obtain ⟨times, isTimes⟩ := Option.ne_none_iff_exists'.mp counted
      obtain ⟨bound, wrapped⟩ := covered times isTimes
      have zero : times = 0 := UInt32.toNat_inj.mp (Nat.le_zero.mp bound)
      exact absurd (wrapped zero) (by decide)
    by_contra present
    obtain ⟨output, counted⟩ := accounted.play token (Option.isSome_iff_ne_none.mpr present)
    rw [unplayed output] at counted
    cases counted

end Pools

theorem accounted_init (info : Media.BaseStreamInfo) (muxers : MuxerEnum → Bool) :
    Accounted ⟨State.init info muxers, []⟩ where
  viewers _ member := by cases member
  registered := ⟨_, rfl, fun _ => Or.inr (Nat.zero_le _)⟩
  play _ present := by cases present
  covered _ _ times := by cases times

/-- In every interleaving of the requests, disconnects and expiries of a stream whose
handlers keep the viewers that they admit: no viewer is left in the counts when no body
is open and no session is pending. -/
theorem settled_when_quiet (info : Media.BaseStreamInfo) (muxers : MuxerEnum → Bool)
    (moves : List (Move Task))
    (keeps : ∀ entry ∈ Runs.run (step work) ⟨State.init info muxers, []⟩ moves,
      Guarded (fun task => task.isPlayCall = true) KeepsViewer entry.before entry.action) :
    ∀ entry ∈ Runs.run (step work) ⟨State.init info muxers, []⟩ moves,
      Quiet entry.after → entry.after.shared.Settled := by
  intro entry member quiet
  have accounted := invariant_run Accounted (fun _ _ _ accounted calls => accounted.begin calls)
    (fun _ _ _ _ accounted keeps => accounted.advance keeps) (accounted_init info muxers) keeps
    entry member
  exact accounted.2.settled quiet

/-- A viewer watches http-flv and leaves, and its session expires. -/
def flvVisit : List (Move Task) :=
  [.begin (.request flv "viewer" (some true) true), .advance 0, .advance 0, .advance 0, .advance 0,
    .advance 0, .advance 0, .advance 0, .begin (.expire 1), .advance 0, .advance 0, .advance 0,
    .advance 0]

theorem settled_when_quiet_flvVisit :
    Quiet (Runs.final (step work) ⟨State.init ⟨1, "first"⟩ (fun _ => true), []⟩ flvVisit) ∧
      ∀ entry ∈ Runs.run (step work) ⟨State.init ⟨1, "first"⟩ (fun _ => true), []⟩ flvVisit,
        Quiet entry.after → entry.after.shared.Settled :=
  ⟨⟨rfl, by decide +kernel⟩, settled_when_quiet ⟨1, "first"⟩ (fun _ => true) flvVisit (by decide +kernel)⟩

/-- A viewer asks for the manifest. -/
def mpdVisit : List (Move Task) :=
  [.begin (.request mpd "viewer" (some true) true), .advance 0, .advance 0, .advance 0, .advance 0,
    .advance 0]

/-- The viewer stays in the counts, since the manifest leaves no session. -/
theorem mpdVisit_unsettled :
    (∀ task, .begin task ∈ mpdVisit → task.isPlayCall = true) ∧
      ¬∀ entry ∈ Runs.run (step work) ⟨State.init ⟨1, "first"⟩ (fun _ => true), []⟩ mpdVisit,
        Quiet entry.after → entry.after.shared.Settled := by
  refine ⟨by simp [mpdVisit, Task.isPlayCall, httpHandlers], fun all => ?_⟩
  obtain ⟨entry, member, isLast⟩ := Runs.exists_after_final (step work)
    ⟨State.init ⟨1, "first"⟩ (fun _ => true), []⟩ (by simp [mpdVisit] : mpdVisit ≠ [])
  have settled := all entry member
  rw [isLast] at settled
  have quiet : Quiet (Runs.final (step work) ⟨State.init ⟨1, "first"⟩ (fun _ => true), []⟩ mpdVisit) :=
    ⟨by decide +kernel, by decide +kernel⟩
  have none' := (settled quiet).1 _ rfl .dashMp4
  revert none'
  decide +kernel

end Gmv.Stream.Viewers
