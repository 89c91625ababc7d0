import Gmv.Session.AuthAnswers

/-!
# Invalidating a device

An invalidation clears what the cache holds of a device at that moment.  A batch that has
read the device's row before and writes it afterwards brings the old row back, until its
time is over or the next invalidation.
-/

namespace Gmv.Session.AuthCache

open Gmv.Library Gmv.Library.TaskPool

/-- An entry was read after the last invalidation of its device. -/
def State.ReadSince (state : State) (key : AuthCacheKey) (row : GmvOauth) : Prop :=
  ∃ entry, state.entries.lookup key = some entry ∧ entry.oauth = some row ∧
    entry.epoch = state.invalidations key.deviceId

/-- No lookup returns a row that was read before an invalidation of its device. -/
structure Final (state : State) : Prop where
  cached : ∀ key row, state.look key = .valid (some row) → state.ReadSince key row
  get : ∀ deviceId realm row, state.get deviceId realm = some row →
    state.ReadSince ⟨deviceId, realm⟩ row
  getByDevice : ∀ deviceId row, state.getByDevice deviceId = some row →
    ∃ realm, state.ReadSince ⟨deviceId, realm⟩ row

/-- The entries that have a row and time left were read after the last invalidation. -/
def Current (state : State) : Prop :=
  ∀ key entry, state.entries.lookup key = some entry → entry.oauth.isSome →
    state.now < entry.expiresAt → entry.epoch = state.invalidations key.deviceId

/-- A row that a step writes was read after the last invalidation of its device, or its
time is over. -/
def WritesCurrent (state : State) (task : Task) : Prop :=
  ∀ written ∈ task.written, written.2.oauth.isSome →
    state.now < (written.2.entry written.1).expiresAt →
    written.2.epoch = state.invalidations written.2.key.deviceId

instance (state : State) (task : Task) : Decidable (WritesCurrent state task) :=
  inferInstanceAs (Decidable (∀ written ∈ task.written, _))

section

variable {state : State} {task : Task}

/-- A lookup by the device is answered by an entry of the device that has time left. -/
theorem getByDevice_eq_some {deviceId : String} {row : GmvOauth}
    (found : state.getByDevice deviceId = some row) :
    ∃ realm entry, state.entries.lookup ⟨deviceId, realm⟩ = some entry ∧
      state.now < entry.expiresAt ∧ entry.oauth = some row := by
  obtain ⟨⟨⟨other, realm⟩, entry⟩, member, answer⟩ := List.exists_of_findSome?_eq_some found
  split at answer
  · next isHere =>
      obtain ⟨rfl, fresh⟩ := isHere
      exact ⟨realm, entry, AList.mem_lookup_iff.mpr member, fresh, answer⟩
  · cases answer

theorem Current.readSince (current : Current state) {key : AuthCacheKey} {entry : AuthCacheEntry}
    {row : GmvOauth} (found : state.entries.lookup key = some entry)
    (fresh : state.now < entry.expiresAt) (has : entry.oauth = some row) :
    state.ReadSince key row :=
  ⟨entry, found, has, current key entry found (by rw [has]; rfl) fresh⟩

/-- What every lookup returns is decided by the entries. -/
theorem final_iff_current : Final state ↔ Current state := by
  constructor
  · intro final key entry found some' fresh
    obtain ⟨row, has⟩ := Option.isSome_iff_exists.mp some'
    have look : state.look key = .valid (some row) :=
      look_eq_valid_iff.mpr ⟨entry, found, fresh, has⟩
    obtain ⟨other, isOther, -, since⟩ := final.cached key row look
    rw [found] at isOther
    rw [Option.some.inj isOther]
    exact since
  · intro current
    refine ⟨fun key row look => ?_, fun deviceId realm row got => ?_, fun deviceId row got => ?_⟩
    · obtain ⟨entry, found, fresh, has⟩ := look_eq_valid_iff.mp look
      exact current.readSince found fresh has
    · rw [State.get] at got
      split at got
      · next oauth look =>
          obtain ⟨entry, found, fresh, has⟩ := look_eq_valid_iff.mp look
          exact current.readSince found fresh (has.trans got)
      · cases got
    · obtain ⟨realm, entry, found, fresh, has⟩ := getByDevice_eq_some got
      exact ⟨realm, current.readSince found fresh has⟩

@[simp]
theorem State.removeExpired_invalidations (key : AuthCacheKey) :
    (state.removeExpired key).invalidations = state.invalidations := by
  rw [State.removeExpired]
  split
  · rfl
  · split <;> rfl

theorem invalidations_work_of_ne (other : ∀ deviceId, task ≠ .invalidateDevice deviceId) :
    (work state task).2.invalidations = state.invalidations := by
  fun_cases work state task
  all_goals first
    | rfl
    | exact absurd rfl (other _)
    | simp

/-- An entry that is there after a step is of a device that the step does not invalidate. -/
theorem invalidations_work {key : AuthCacheKey} {entry : AuthCacheEntry}
    (found : (work state task).2.entries.lookup key = some entry) :
    (work state task).2.invalidations key.deviceId = state.invalidations key.deviceId := by
  cases task with
  | invalidateDevice deviceId =>
      rw [work, State.lookup_retain] at found
      have other : key.deviceId ≠ deviceId := by simpa using (Option.filter_eq_some_iff.mp found).2
      exact Function.update_of_ne other ..
  | _ => rw [invalidations_work_of_ne fun deviceId same => by cases same]

/-- A step keeps what was read since exactly when it writes nothing that was read before. -/
theorem current_work (current : Current state) :
    Current (work state task).2 ↔ WritesCurrent state task := by
  constructor
  · intro after
    rintro ⟨now, row⟩ written some' fresh
    cases task with
    | insertRows call began rows todo =>
        cases rows with
        | nil => cases written
        | cons first rows =>
            cases written
            exact after row.key (row.entry now) (by simp [work, State.lookup_insertEntry]) some' fresh
    | _ => cases written
  · intro writes key entry found some' fresh
    have before : state.now < entry.expiresAt := Nat.lt_of_le_of_lt (now_le_work state task) fresh
    rw [invalidations_work found]
    rcases lookup_work found with old | ⟨now, row, written, rfl, rfl⟩
    · exact current key entry old some' before
    · exact writes (now, row) written some' before

end

/-- In a run of any calls, no lookup ever returns a row that was read before an invalidation of
its device exactly when no batch writes a row that it has read before one. -/
theorem final_iff_writesCurrent (maxEntries : Nat) (oauth : String → Option GmvOauth) (now : Nat)
    (moves : List (Move Task)) :
    (∀ entry ∈ Runs.run (step work) ⟨State.init maxEntries oauth now, []⟩ moves,
        Final entry.after.shared) ↔
      ∀ entry ∈ Runs.run (step work) ⟨State.init maxEntries oauth now, []⟩ moves,
        Guarded (fun _ => True) (fun pool : Pool State Task => WritesCurrent pool.shared)
          entry.before entry.action := by
  simp only [final_iff_current]
  refine Runs.invariant_run_iff (fun pool : Pool State Task => Current pool.shared) _ ?_ ?_
  · intro pool move current
    cases move with
    | begin task => exact ⟨fun _ => trivial, fun _ => current⟩
    | advance index =>
        cases found : pool.tasks[index]? with
        | none =>
            simp only [step, found]
            exact ⟨fun _ task isTask => (by rw [found] at isTask; cases isTask), fun _ => current⟩
        | some task =>
            simp only [step, found, current_work current]
            constructor
            · intro writes other isOther
              rw [found] at isOther
              exact Option.some.inj isOther ▸ writes
            · exact fun writes => writes task found
  · exact fun key entry found => by cases found

/-- The first device is taken out of the table and invalidated while a batch, which has read
its row, has not yet written it. -/
def invalidatedMeanwhile : List (Move Task) :=
  .begin (.getOrLoadMany [firstDevice] []) :: List.replicate 9 (.advance 0) ++
    [.begin (.update firstDevice.deviceId none), .advance 1,
      .begin (.invalidateDevice firstDevice.deviceId), .advance 1, .advance 1] ++
    List.replicate 2 (.advance 0)

/-- The invalidation has returned, and the cache answers with the row that was read before. -/
theorem final_invalidatedMeanwhile :
    let last := (Runs.final (step work) ⟨State.init 40000 oneRow 0, []⟩ invalidatedMeanwhile).shared
    last.oauth firstDevice.deviceId = none ∧
      last.get firstDevice.deviceId firstDevice.realm = some firstRow ∧
      last.entries.lookup firstDevice = some ⟨some firstRow, 300000, 0⟩ ∧
      last.invalidations firstDevice.deviceId = 1 ∧ ¬Final last := by
  intro last
  have answer : last.get firstDevice.deviceId firstDevice.realm = some firstRow := by decide +kernel
  have entry : last.entries.lookup firstDevice = some ⟨some firstRow, 300000, 0⟩ := by
    decide +kernel
  have once : last.invalidations firstDevice.deviceId = 1 := by decide +kernel
  refine ⟨by decide +kernel, answer, entry, once, fun final => ?_⟩
  obtain ⟨other, found, -, since⟩ := final.get _ _ firstRow answer
  obtain rfl := Option.some.inj (entry.symm.trans found)
  rw [once] at since
  cases since

end Gmv.Session.AuthCache
