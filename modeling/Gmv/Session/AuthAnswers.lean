import Gmv.Session.AuthReturns

/-!
# Batches answer from the table

A batch reads its answers from the cache after it has loaded what was missing.  As long
as nothing that it has found or written expires or is evicted before it is read, the
answers are those of the table.
-/

namespace Gmv.Session.AuthCache

open Gmv.Library Gmv.Library.TaskPool

/-- The lookups of a batch, answered from the table. -/
def AnswersTable (oauth : String → Option GmvOauth) (requested : List AuthCacheKey)
    (answers : List (Option GmvOauth)) : Prop :=
  answers.length = requested.length ∧
    ∀ (index : Nat) (key : AuthCacheKey), requested[index]? = some key → ∀ row,
      answers[index]? = some (some row) ↔
      oauth key.deviceId = some row ∧ row.domain = key.realm

/-! ## What a batch relies on -/

/-- The keys whose answers a batch has still to read. -/
def Task.due : Task → List AuthCacheKey
  | .filterRequested call _ | .acquire call _ | .lockOwned call _ _ _ | .filterMissing call _ _
  | .readOauths call _ | .takeNow call _ _ | .insertRows call _ _ _ | .measure call
  | .listOldest call _ | .evict call _ | .unlock call _ | .dropLock call _
  | .removeLocks call _ => call.requested
  | .cleanupExpired after | .retainEntries _ after | .retainLocks after => after.elim [] Call.requested
  | .answer _ todo _ => todo
  | .removeExpired _ next => next.due
  | _ => []

/-- The keys that a batch has still to look at or to load. -/
def Task.unseen : Task → List AuthCacheKey
  | .filterRequested call todo => todo ++ call.missing
  | .acquire call _ | .lockOwned call _ _ _ => call.missing
  | .filterMissing _ todo missing => todo ++ missing
  | .readOauths _ todo => todo
  | .takeNow _ rows todo | .insertRows _ _ rows todo => rows.map Row.key ++ todo
  | .removeExpired _ next => next.unseen
  | _ => []

/-- The keys that a batch has found or written and will read again. -/
def Task.relied (task : Task) : List AuthCacheKey := task.due.filter fun key => key ∉ task.unseen

/-- The cache holds the key, and not beyond its time. -/
def Valid (state : State) (key : AuthCacheKey) : Prop :=
  ∃ entry, state.entries.lookup key = some entry ∧ state.now < entry.expiresAt

/-- The time that a step takes. -/
def Task.elapsed : Task → Nat
  | .tick elapsed => elapsed
  | _ => 0

/-- The key that a step evicts. -/
def Task.evicted : Task → Option AuthCacheKey
  | .evict _ oldest => oldest.head?
  | _ => none

/-- A step does not take the entry of a key: it is not evicted, and the clock stays before
its end. -/
def Keeps (state : State) (key : AuthCacheKey) (task : Task) : Prop :=
  task.evicted ≠ some key ∧
    ∀ entry ∈ state.entries.lookup key, state.now + task.elapsed < entry.expiresAt

instance (state : State) (key : AuthCacheKey) (task : Task) : Decidable (Keeps state key task) :=
  inferInstanceAs (Decidable (_ ∧ ∀ entry ∈ state.entries.lookup key, _))

/-- A row is written before its time is over. -/
def WrittenInTime (state : State) (task : Task) : Prop :=
  ∀ written ∈ task.written, written.2.oauth.isSome → state.now < written.1 + positiveCacheTtl

instance (state : State) (task : Task) : Decidable (WrittenInTime state task) :=
  inferInstanceAs (Decidable (∀ written ∈ task.written, _))

/-- A step keeps the rows that batches rely on. -/
def KeepsAnswers (pool : Pool State Task) (task : Task) : Prop :=
  WrittenInTime pool.shared task ∧
    ∀ other ∈ pool.tasks, ∀ key ∈ other.relied, (pool.shared.oauthOf key).isSome →
      Keeps pool.shared key task

instance (pool : Pool State Task) (task : Task) : Decidable (KeepsAnswers pool task) :=
  inferInstanceAs (Decidable (_ ∧ _))

/-! ## The invariant -/

/-- What a task carries agrees with the table and the clock. -/
def Task.Agrees (state : State) : Task → Prop
  | .takeNow _ rows _ | .insertRows _ _ rows _ => ∀ row ∈ rows, row.oauth = state.oauthOf row.key
  | .retainEntries now _ => now ≤ state.now
  | .answer requested todo answers =>
      ∃ done, requested = done ++ todo ∧ answers = done.map state.oauthOf
  | .returned requested answers => answers = requested.map state.oauthOf
  | .removeExpired _ next => next.Agrees state
  | .invalidateDevice _ | .update .. => False
  | _ => True

/-- The cache agrees with the table, and holds what the batches rely on. -/
structure Sure (oauth : String → Option GmvOauth) (pool : Pool State Task) : Prop where
  table : pool.shared.oauth = oauth
  entries : ∀ key entry, pool.shared.entries.lookup key = some entry →
    entry.oauth = pool.shared.oauthOf key
  succeeds : ∀ task ∈ pool.tasks, task.Succeeds
  agrees : ∀ task ∈ pool.tasks, task.Agrees pool.shared
  valid : ∀ task ∈ pool.tasks, ∀ key ∈ task.relied, (pool.shared.oauthOf key).isSome →
    Valid pool.shared key

section

variable {state : State} {task : Task}

/-- Only ticks move the clock. -/
theorem now_work (state : State) (still : ∀ elapsed, task ≠ .tick elapsed) :
    (work state task).2.now = state.now := by
  fun_cases work state task
  all_goals first
    | rfl
    | exact absurd rfl (still _)
    | simp

/-- The clock never goes back. -/
theorem now_le_work (state : State) (task : Task) : state.now ≤ (work state task).2.now := by
  fun_cases work state task
  all_goals first
    | exact Nat.le_refl _
    | exact Nat.le_add_right ..
    | simp

/-- Only changes of the table change the table. -/
theorem oauth_work (agrees : task.Agrees state) : (work state task).2.oauth = state.oauth := by
  fun_cases work state task
  all_goals first
    | rfl
    | cases agrees
    | simp

theorem oauthOf_work (agrees : task.Agrees state) :
    (work state task).2.oauthOf = state.oauthOf := by
  funext key
  rw [State.oauthOf, State.oauthOf, oauth_work agrees]

/-- What a step writes is what the table has. -/
theorem Task.Agrees.written (agrees : task.Agrees state) {now : Nat} {row : Row}
    (written : task.written = some (now, row)) : row.oauth = state.oauthOf row.key := by
  cases task with
  | insertRows call began rows todo =>
      cases rows with
      | nil => cases written
      | cons first rows => cases written; exact agrees row (List.mem_cons_self ..)
  | _ => cases written

theorem Task.Agrees.mono {later : State} (agrees : task.Agrees state)
    (same : later.oauthOf = state.oauthOf) (passed : state.now ≤ later.now) :
    task.Agrees later := by
  induction task with
  | removeExpired key next ih => exact ih agrees
  | retainEntries now after => exact Nat.le_trans agrees passed
  | takeNow call rows todo =>
      intro row member
      rw [same]
      exact agrees row member
  | insertRows call now rows todo =>
      intro row member
      rw [same]
      exact agrees row member
  | answer requested todo answers =>
      obtain ⟨done, split, read⟩ := agrees
      exact ⟨done, split, by rw [same]; exact read⟩
  | returned requested answers =>
      rw [Agrees, same]
      exact agrees
  | _ => exact agrees

theorem mem_relied {key : AuthCacheKey} : key ∈ task.relied ↔ key ∈ task.due ∧ key ∉ task.unseen := by
  rw [Task.relied, List.mem_filter, decide_eq_true_eq]

theorem look_eq_valid_iff {key : AuthCacheKey} {oauth : Option GmvOauth} :
    state.look key = .valid oauth ↔ ∃ entry, state.entries.lookup key = some entry ∧
      state.now < entry.expiresAt ∧ entry.oauth = oauth := by
  rw [State.look]
  cases state.entries.lookup key with
  | none => simp
  | some entry => by_cases fresh : state.now < entry.expiresAt <;> simp [fresh]

/-- A look that finds nothing valid finds nothing of the table, when the keys of the table
are valid. -/
theorem oauthOf_eq_none {key : AuthCacheKey} (missed : ∀ oauth, state.look key ≠ .valid oauth)
    (valid : (state.oauthOf key).isSome → Valid state key) : state.oauthOf key = none := by
  cases row : state.oauthOf key with
  | none => rfl
  | some oauth =>
      obtain ⟨entry, found, fresh⟩ := valid (by rw [row]; rfl)
      exact absurd (look_eq_valid_iff.mpr ⟨entry, found, fresh, rfl⟩) (missed entry.oauth)

/-- What a task carries on agrees with the table and the clock, too. -/
theorem agrees_work (agrees : task.Agrees state)
    (entries : ∀ key entry, state.entries.lookup key = some entry → entry.oauth = state.oauthOf key)
    (valid : ∀ key ∈ task.relied, (state.oauthOf key).isSome → Valid state key) :
    ∀ next ∈ (work state task).1, next.Agrees state := by
  have carries {requested todo : List AuthCacheKey} {key : AuthCacheKey}
      {answers : List (Option GmvOauth)} {oauth : Option GmvOauth}
      (agrees : (Task.answer requested (key :: todo) answers).Agrees state)
      (same : oauth = state.oauthOf key) :
      (Task.answer requested todo (answers ++ [oauth])).Agrees state := by
    obtain ⟨done, split, read⟩ := agrees
    exact ⟨done ++ [key], by rw [split, List.append_assoc]; rfl, by
      rw [List.map_append, read, same]; rfl⟩
  fun_cases work state task
  -- no lookups, no answers
  case case1 lookups reads empty => simp [Task.Agrees, List.isEmpty_iff.mp empty]
  -- a read finds the rows of the table
  case case16 call key todo chunk rest first rows =>
    simp only [Option.mem_some_iff, forall_eq', Task.Agrees, rows, List.mem_map,
      forall_exists_index, and_imp]
    rintro row name _ rfl
    rfl
  case case20 call now row rows todo =>
    simpa [Task.Agrees] using (List.forall_mem_cons.mp agrees).2
  case case33 call =>
    simp only [Option.mem_some_iff, forall_eq', Task.Agrees]
    exact ⟨[], rfl, rfl⟩
  -- the last answer
  case case35 requested answers =>
    obtain ⟨done, split, read⟩ := agrees
    simp only [Option.mem_some_iff, forall_eq', Task.Agrees]
    rw [split, List.append_nil, read]
  -- an answer that is in the cache
  case case36 requested key todo answers oauth look =>
    obtain ⟨entry, found, _, rfl⟩ := look_eq_valid_iff.mp look
    simpa using carries agrees (entries key entry found)
  -- answers that are not, though a row of the table would be
  case case37 requested key todo answers look =>
    have known := valid key (mem_relied.mpr ⟨List.mem_cons_self .., List.not_mem_nil⟩)
    simpa using carries agrees (oauthOf_eq_none (by simp [look]) known).symm
  case case38 requested key todo answers look =>
    have known := valid key (mem_relied.mpr ⟨List.mem_cons_self .., List.not_mem_nil⟩)
    simpa [Task.Agrees] using carries agrees (oauthOf_eq_none (by simp [look]) known).symm
  -- what it hands on is what it had
  all_goals
    clear entries valid carries
    simp_all [Task.Agrees]

/-- The sorted keys are the keys of the list. -/
theorem mem_sortedKeys {key : AuthCacheKey} {keys : List AuthCacheKey} :
    key ∈ sortedKeys keys ↔ key ∈ keys := by
  rw [sortedKeys, List.mem_insertionSort, List.mem_dedup]

/-- A key that a look finds is valid; another one stays unseen. -/
theorem valid_of_look {key name : AuthCacheKey} {oauth : Option GmvOauth} {todo : List AuthCacheKey}
    (look : state.look name = .valid oauth) (seen : key ∉ todo) :
    key ∉ name :: todo ∨ Valid state key := by
  by_cases same : key = name
  · obtain ⟨entry, found, fresh, _⟩ := look_eq_valid_iff.mp look
    exact Or.inr ⟨entry, by rw [same]; exact found, fresh⟩
  · exact Or.inl (List.not_mem_cons_of_ne_of_not_mem same seen)

/-- What a task goes on to rely on it has relied on, or it has just found or written it. -/
theorem relied_work {key : AuthCacheKey} (succeeds : task.Succeeds) (agrees : task.Agrees state)
    (inTime : WrittenInTime state task) (row : (state.oauthOf key).isSome) :
    ∀ next ∈ (work state task).1, key ∈ next.relied →
      key ∈ task.relied ∨ Valid (work state task).2 key := by
  simp only [mem_relied]
  fun_cases work state task
  case case3 call missing =>
    simp only [Option.mem_some_iff, forall_eq', Task.due, Task.unseen, missing, mem_sortedKeys,
      List.nil_append]
    exact Or.inl
  -- a key that a look has found, or that has to be loaded
  case case4 call name todo oauth look =>
    simp only [Option.mem_some_iff, forall_eq', Task.due, Task.unseen, List.cons_append]
    rintro ⟨due, seen⟩
    exact (valid_of_look look seen).imp_left fun unseen => ⟨due, unseen⟩
  case case5 call name todo look =>
    simp only [Option.mem_some_iff, forall_eq', Task.due, Task.unseen, Call.addMissing,
      List.mem_append, List.mem_cons]
    exact fun relied => Or.inl ⟨relied.1, fun unseen => relied.2 (by tauto)⟩
  case case6 call name todo look =>
    simp only [Option.mem_some_iff, forall_eq', Task.due, Task.unseen, Call.addMissing,
      List.mem_append, List.mem_cons]
    exact fun relied => Or.inl ⟨relied.1, fun unseen => relied.2 (by tauto)⟩
  case case12 call name todo missing oauth look =>
    simp only [Option.mem_some_iff, forall_eq', Task.due, Task.unseen, List.cons_append]
    rintro ⟨due, seen⟩
    exact (valid_of_look look seen).imp_left fun unseen => ⟨due, unseen⟩
  -- the keys of the rows and those of the other chunks are the keys to read
  case case16 call name todo chunk rest reads rows =>
    simp only [Option.mem_some_iff, forall_eq', Task.due, Task.unseen, rows, chunk, rest,
      List.map_map, Function.comp_def, List.map_id', List.take_append_drop]
    exact Or.inl
  case case17 call name todo fails => exact absurd (headD_of_succeed succeeds) fails
  case case20 call now first rows todo =>
    simp only [Option.mem_some_iff, forall_eq', Task.due, Task.unseen, List.map_cons,
      List.cons_append]
    rintro ⟨due, seen⟩
    by_cases same : key = first.key
    · subst same
      have isRow : first.oauth.isSome := by
        rw [agrees first (List.mem_cons_self ..)]; exact row
      have written : state.now < (first.entry now).expiresAt := by
        simpa [Row.entry, isRow] using inTime (now, first) rfl isRow
      exact Or.inr ⟨first.entry now, by simp [State.lookup_insertEntry], written⟩
    · exact Or.inl ⟨due, List.not_mem_cons_of_ne_of_not_mem same seen⟩
  case case23 after => cases after <;> simp_all [Task.due, Task.unseen]
  -- the other steps find and write nothing
  all_goals
    clear agrees inTime row
    simp_all [Task.due, Task.unseen, Task.Succeeds]

/-- A step keeps the row of a key valid. -/
theorem valid_work {key : AuthCacheKey} (agrees : task.Agrees state)
    (inTime : WrittenInTime state task) (keeps : Keeps state key task)
    (row : (state.oauthOf key).isSome) (valid : Valid state key) : Valid (work state task).2 key := by
  obtain ⟨entry, found, fresh⟩ := valid
  cases task with
  | tick elapsed => exact ⟨entry, found, keeps.2 entry found⟩
  | insertRows call now rows todo =>
      cases rows with
      | nil => exact ⟨entry, found, fresh⟩
      | cons first rows =>
          by_cases same : key = first.key
          · subst same
            have isRow : first.oauth.isSome := by
              rw [agrees first (List.mem_cons_self ..)]; exact row
            have written : state.now < (first.entry now).expiresAt := by
              simpa [Row.entry, isRow] using inTime (now, first) rfl isRow
            exact ⟨first.entry now, by simp [work, State.lookup_insertEntry], written⟩
          · exact ⟨entry, by simpa [work, State.lookup_insertEntry, same] using found, fresh⟩
  | retainEntries now after =>
      refine ⟨entry, ?_, fresh⟩
      rw [work, State.lookup_retain, found]
      exact Option.filter_eq_some_iff.mpr ⟨rfl, by simpa using Nat.lt_of_le_of_lt agrees fresh⟩
  | evict call oldest =>
      cases oldest with
      | nil => exact ⟨entry, found, fresh⟩
      | cons name oldest =>
          have differs : key ≠ name := fun same => keeps.1 (congrArg some same.symm)
          exact ⟨entry, by simpa [work, State.lookup_erase, differs] using found, fresh⟩
  | removeExpired name next =>
      refine ⟨entry, ?_, by simpa [work] using fresh⟩
      by_cases same : key = name
      · subst same
        rw [work, State.lookup_removeExpired_self, found]
        exact Option.filter_eq_some_iff.mpr ⟨rfl, by simpa using fresh⟩
      · rw [work, State.lookup_removeExpired_of_ne _ same]
        exact found
  | invalidateDevice deviceId => exact agrees.elim
  | _ =>
      refine ⟨entry, ?_, ?_⟩
      · rw [entries_work state rfl]
        exact found
      · rw [now_work state (fun elapsed same => by cases same)]
        exact fresh

end

/-! ## Every run -/

/-- The calls of a run over an unchanged table whose reads succeed. -/
def Task.LooksUp : Task → Prop
  | .getOrLoadMany _ reads => ∀ read ∈ reads, read = true
  | .cleanupExpired none | .tick _ => True
  | _ => False

namespace Task.LooksUp

variable {task : Task}

theorem isCall (looksUp : task.LooksUp) : task.isCall = true := by
  cases task with
  | cleanupExpired after => cases after with
    | none => rfl
    | some call => exact looksUp.elim
  | getOrLoadMany lookups reads => rfl
  | tick elapsed => rfl
  | _ => exact looksUp.elim

theorem quiet (looksUp : task.LooksUp) : task.invalidates = false := by
  cases task with
  | removeExpired key next => exact looksUp.elim
  | invalidateDevice deviceId => exact looksUp.elim
  | invalidateLocks deviceId => exact looksUp.elim
  | _ => rfl

end Task.LooksUp

namespace Sure

variable {oauth : String → Option GmvOauth}

theorem init (maxEntries : Nat) (oauth : String → Option GmvOauth) (now : Nat) :
    Sure oauth ⟨State.init maxEntries oauth now, []⟩ where
  table := rfl
  entries _ _ found := by cases found
  succeeds _ member := by cases member
  agrees _ member := by cases member
  valid _ member := by cases member

/-- A call begins. -/
theorem begin {shared : State} {tasks : List Task} {task : Task} (sure : Sure oauth ⟨shared, tasks⟩)
    (looksUp : task.LooksUp) : Sure oauth ⟨shared, tasks ++ [task]⟩ := by
  have starts : task.Succeeds ∧ task.Agrees shared ∧ task.relied = [] := by
    cases task with
    | getOrLoadMany lookups reads => exact ⟨looksUp, trivial, rfl⟩
    | cleanupExpired after =>
        cases after with
        | none => exact ⟨trivial, trivial, rfl⟩
        | some call => exact looksUp.elim
    | tick elapsed => exact ⟨trivial, trivial, rfl⟩
    | _ => exact looksUp.elim
  obtain ⟨succeeds, agrees, none⟩ := starts
  refine ⟨sure.table, sure.entries, ?_, ?_, ?_⟩
  · exact List.forall_mem_append.mpr ⟨sure.succeeds, List.forall_mem_singleton.mpr succeeds⟩
  · exact List.forall_mem_append.mpr ⟨sure.agrees, List.forall_mem_singleton.mpr agrees⟩
  · refine List.forall_mem_append.mpr ⟨sure.valid, List.forall_mem_singleton.mpr ?_⟩
    rw [none]
    exact fun key member => by cases member

/-- A task goes on, and what the tasks rely on is kept. -/
theorem advance {shared : State} {earlier later : List Task} {task : Task}
    (sure : Sure oauth ⟨shared, earlier ++ task :: later⟩)
    (keeps : KeepsAnswers ⟨shared, earlier ++ task :: later⟩ task) :
    Sure oauth ⟨(work shared task).2, earlier ++ (work shared task).1.toList ++ later⟩ := by
  have isHere : task ∈ earlier ++ task :: later := List.mem_append_right _ (List.mem_cons_self ..)
  have agrees := sure.agrees task isHere
  have succeeds := sure.succeeds task isHere
  have sameRows : (work shared task).2.oauthOf = shared.oauthOf := oauthOf_work agrees
  have passed := now_le_work shared task
  refine ⟨(oauth_work agrees).trans sure.table, ?_, ?_, ?_, ?_⟩
  · intro key entry found
    rw [sameRows]
    rcases lookup_work found with old | ⟨now, row, written, rfl, rfl⟩
    · exact sure.entries key entry old
    · exact agrees.written written
  · intro other member
    rcases mem_advanced task member with isRest | old
    · exact succeeds_work succeeds other isRest
    · exact sure.succeeds other old
  · intro other member
    rcases mem_advanced task member with isRest | old
    · exact (agrees_work agrees sure.entries (sure.valid task isHere) other isRest).mono sameRows passed
    · exact (sure.agrees other old).mono sameRows passed
  · intro other member key relied
    rw [sameRows]
    intro row
    rcases mem_advanced task member with isRest | old
    · rcases relied_work succeeds agrees keeps.1 row other isRest relied with before | valid
      · exact valid_work agrees keeps.1 (keeps.2 task isHere key before row) row
          (sure.valid task isHere key before row)
      · exact valid
    · exact valid_work agrees keeps.1 (keeps.2 other old key relied row) row
        (sure.valid other old key relied row)

/-- What has come back has answers from the table. -/
theorem answersTable {pool : Pool State Task} (sure : Sure oauth pool)
    {requested : List AuthCacheKey} {answers : List (Option GmvOauth)}
    (returned : .returned requested answers ∈ pool.tasks) : AnswersTable oauth requested answers := by
  have read : answers = requested.map pool.shared.oauthOf := sure.agrees _ returned
  refine ⟨by rw [read, List.length_map], fun index key found row => ?_⟩
  rw [read, List.getElem?_map, found, Option.map_some, Option.some.injEq, State.oauthOf,
    Option.filter_eq_some_iff, sure.table, beq_iff_eq]

end Sure

/-- Over an unchanged table and with reads that succeed, every batch can come back, and as
long as the rows that batches rely on are kept it comes back with the answers of the table. -/
theorem answersTable_of_kept (maxEntries : Nat) (oauth : String → Option GmvOauth) (now : Nat)
    (moves : List (Move Task)) (calls : ∀ task, .begin task ∈ moves → task.LooksUp)
    (kept : ∀ entry ∈ Runs.run (step work) ⟨State.init maxEntries oauth now, []⟩ moves,
      Guarded (fun _ => True) KeepsAnswers entry.before entry.action) :
    ∀ entry ∈ Runs.run (step work) ⟨State.init maxEntries oauth now, []⟩ moves,
      CanReturn entry.after ∧ ∀ requested answers, .returned requested answers ∈ entry.after.tasks →
        AnswersTable oauth requested answers := by
  have guarded : ∀ entry ∈ Runs.run (step work) ⟨State.init maxEntries oauth now, []⟩ moves,
      Guarded Task.LooksUp KeepsAnswers entry.before entry.action := by
    intro entry member
    have keeps := kept entry member
    cases isAction : entry.action with
    | begin task => exact calls task (isAction ▸ Runs.action_mem member)
    | advance index => rw [isAction] at keeps; exact keeps
  have keep : ∀ shared earlier task later,
      Orderly ⟨shared, earlier ++ task :: later⟩ ∧ Sure oauth ⟨shared, earlier ++ task :: later⟩ →
      KeepsAnswers ⟨shared, earlier ++ task :: later⟩ task →
      Orderly ⟨(work shared task).2, earlier ++ (work shared task).1.toList ++ later⟩ ∧
        Sure oauth ⟨(work shared task).2, earlier ++ (work shared task).1.toList ++ later⟩ :=
    fun _ _ _ _ both keeps => ⟨both.1.advance, both.2.advance keeps⟩
  have start : ∀ shared tasks task, Orderly ⟨shared, tasks⟩ ∧ Sure oauth ⟨shared, tasks⟩ →
      task.LooksUp → Orderly ⟨shared, tasks ++ [task]⟩ ∧ Sure oauth ⟨shared, tasks ++ [task]⟩ :=
    fun _ _ _ both looksUp => ⟨both.1.begin looksUp.isCall looksUp.quiet, both.2.begin looksUp⟩
  intro entry member
  have both := invariant_run (fun pool => Orderly pool ∧ Sure oauth pool) start keep
    ⟨Orderly.init maxEntries oauth now, Sure.init maxEntries oauth now⟩ guarded entry member
  exact ⟨canReturn both.2.1 both.2.2.succeeds, fun _ _ returned => both.2.2.answersTable returned⟩

/-- A table with a row for the first device only. -/
def firstRow : GmvOauth := ⟨"3402000000", some "secret", 1, 1, 60⟩

def oneRow (deviceId : String) : Option GmvOauth :=
  if deviceId = firstDevice.deviceId then some firstRow else none

/-- A batch that names the first device twice. -/
def namedTwice : List (Move Task) :=
  .begin (.getOrLoadMany [firstDevice, secondDevice, firstDevice] []) :: List.replicate 35 (.advance 0)

theorem answersTable_namedTwice :
    .returned [firstDevice, secondDevice, firstDevice] [some firstRow, none, some firstRow] ∈
        (Runs.final (step work) ⟨State.init 40000 oneRow 0, []⟩ namedTwice).tasks ∧
      ∀ entry ∈ Runs.run (step work) ⟨State.init 40000 oneRow 0, []⟩ namedTwice,
        CanReturn entry.after ∧ ∀ requested answers, .returned requested answers ∈ entry.after.tasks →
          AnswersTable oneRow requested answers :=
  ⟨by decide +kernel, answersTable_of_kept 40000 oneRow 0 namedTwice
    (by simp [namedTwice, Task.LooksUp]) (by decide +kernel)⟩

/-- The row of the first device is there at the first look of the second batch, and its time
is over when the batch reads its answers. -/
def expiresMeanwhile : List (Move Task) :=
  .begin (.getOrLoadMany [firstDevice] []) :: List.replicate 25 (.advance 0) ++
    [.begin (.tick 299999), .advance 0, .begin (.getOrLoadMany [firstDevice, secondDevice] []),
      .advance 0, .advance 0, .begin (.tick 1), .advance 1] ++ List.replicate 24 (.advance 0)

theorem answersTable_expiresMeanwhile :
    (∀ task, .begin task ∈ expiresMeanwhile → task.LooksUp) ∧
      .returned [firstDevice, secondDevice] [none, none] ∈
        (Runs.final (step work) ⟨State.init 40000 oneRow 0, []⟩ expiresMeanwhile).tasks ∧
      ¬AnswersTable oneRow [firstDevice, secondDevice] [none, none] := by
  refine ⟨by simp [expiresMeanwhile, Task.LooksUp], by decide +kernel, fun answers => ?_⟩
  have isThere := (answers.2 0 firstDevice rfl firstRow).mpr ⟨by decide, rfl⟩
  simp at isThere

end Gmv.Session.AuthCache
