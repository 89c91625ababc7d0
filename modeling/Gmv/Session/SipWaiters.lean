import Gmv.Session.SipOperations

/-!
# The waiters that are left

A waiter stays in its map while its call is under way.  A call whose request cannot be built behind the
waiter, and one that is dropped while it waits, leave theirs behind; nothing else does.  The shutdown
answers every waiter that is there and empties the maps.
-/

namespace Gmv.Session.SipOperations

open Gmv.Library Gmv.Library.TaskPool
open CatalogRefresh (SipResponseResult)

variable {sip : SipReaders} {shared : Shared}

/-! ## Waiters of calls that have gone -/

/-- A call that ends so does not take its waiter back. -/
def Outcome.leaves : Outcome → Bool
  | .unbuilt | .cancelled => true
  | _ => false

/-- The channels of the waiters. -/
def Shared.waiting (shared : Shared) : List Nat :=
  ReplyTable.channels (fun _ waiter => waiter.tx) shared.waiters

structure Kept (pool : Pool Shared Task) : Prop where
  waiting : ∀ tx ∈ pool.shared.waiting, (∃ task ∈ pool.tasks, task.caller = some tx) ∨
    ∃ outcome, (tx, outcome) ∈ pool.shared.returned ∧ outcome.leaves = true
  finished : ∀ tx outcome, .finish tx outcome ∈ pool.tasks → outcome.leaves = false →
    tx ∉ pool.shared.waiting

theorem mem_waiting {tx : Nat} :
    tx ∈ shared.waiting ↔ ∃ key waiter, shared.waiters.lookup key = some waiter ∧ waiter.tx = tx :=
  ReplyTable.mem_channels

theorem waiting_work {task : Task} {tx : Nat} (member : tx ∈ (work sip shared task).2.waiting) :
    tx ∈ shared.waiting ∨ ∃ call id, task = .insertWaiter call tx id := by
  obtain ⟨key, waiter, found, rfl⟩ := mem_waiting.mp member
  rcases waiters_work found with old | ⟨-, -, call, id, same⟩
  · exact Or.inl (mem_waiting.mpr ⟨key, waiter, old, rfl⟩)
  · exact Or.inr ⟨call, id, same⟩

/-- The call that takes its waiter back has no other one. -/
theorem not_waiting_of_remove {tasks : List Task} (owned : Owned ⟨shared, tasks⟩) {tx : Nat} {key : Key}
    (owns : Owns shared tx key) : tx ∉ (shared.removeWaiter key).waiting := by
  intro member
  obtain ⟨other, waiter, found, rfl⟩ := mem_waiting.mp member
  have same : other = key := Owns.unique (owned.waiters other waiter (lookup_of_erase found)) owns
  subst same
  simp only [Shared.removeWaiter, AList.lookup_erase, reduceCtorEq] at found

/-- A call that has heard its answer has no waiter. -/
theorem not_waiting_of_delivered {tasks : List Task} (once : Once ⟨shared, tasks⟩) {delivery : Delivery}
    (member : delivery ∈ shared.delivered) : delivery.tx ∉ shared.waiting := by
  intro isWaiting
  have bound := Nat.le_trans (once delivery.tx) (Bool.toNat_le _)
  have inTable : 0 < shared.waiting.count delivery.tx := List.count_pos_iff.mpr isWaiting
  have inLog : 0 < (shared.delivered.map Delivery.tx).count delivery.tx :=
    List.count_pos_iff.mpr (List.mem_map_of_mem member)
  simp only [tally, Shared.channels, List.count_append] at bound
  change _ + _ + _ ≤ 1 at bound
  simp only [Shared.waiting] at inTable
  omega

/-- A call that is about to return, and does not leave its waiter, has none. -/
theorem finished_rest {tasks : List Task} {task : Task} (sound : Sound ⟨shared, tasks⟩)
    (isTask : task ∈ tasks) {tx : Nat} {outcome : Outcome}
    (isRest : (work sip shared task).1 = some (.finish tx outcome)) (stays : outcome.leaves = false) :
    tx ∉ (work sip shared task).2.waiting := by
  cases task with
  | nextOperationId call => cases isRest
  | insertWaiter call place id => cases isRest
  | build call place id =>
      simp only [work] at isRest
      split at isRest <;> cases isRest
      cases stays
  | trySend call place id =>
      simp only [work] at isRest
      split at isRest
      · split at isRest <;> cases isRest
      · cases isRest
  | dropUnsent place key =>
      cases isRest
      exact not_waiting_of_remove sound.owned (sound.owned.tasks _ isTask tx key rfl)
  | recv place key polls cancelled =>
      simp only [work] at isRest ⊢
      split at isRest
      · rename_i delivery found
        cases isRest
        obtain ⟨member, same⟩ := inbox_sent found delivery rfl
        exact same ▸ not_waiting_of_delivered sound.once member
      · split at isRest
        · split at isRest
          · cases cancelled <;> cases isRest
            cases stays
          · cases isRest
        · cases isRest
  | giveUp place key other => cases isRest
  | removeWaiter place key other =>
      cases isRest
      exact not_waiting_of_remove sound.owned (sound.owned.tasks _ isTask tx key rfl)
  | invitePlay associated => cases associated <;> cases isRest
  | own sends =>
      simp only [work] at isRest
      split at isRest
      · cases sends <;> cases isRest
      · cases isRest
  | attempt stops attempts =>
      cases attempts with
      | nil => cases isRest
      | cons attempt rest =>
          simp only [work] at isRest
          split at isRest
          · cases isRest
          · split at isRest <;> cases isRest
  | deliver attempt waiter stops rest =>
      simp only [work] at isRest
      split at isRest
      · cases stops <;> cases isRest
      · cases isRest
  | expire now keys kinds =>
      cases keys with
      | nil => cases kinds <;> cases isRest
      | cons key keys => cases isRest
  | failAllNative status keys kinds => cases kinds <;> cases isRest
  | _ => cases isRest

theorem kept_begun {tasks : List Task} {task : Task} (kept : Kept ⟨shared, tasks⟩)
    (begins : task.begins = true) : Kept ⟨shared, tasks ++ [task]⟩ where
  waiting tx member := (kept.waiting tx member).imp_left
    fun ⟨other, isTask, caller⟩ => ⟨other, List.mem_append_left _ isTask, caller⟩
  finished tx outcome member stays := by
    rcases List.mem_append.mp member with old | new
    · exact kept.finished tx outcome old stays
    · rw [← List.mem_singleton.mp new] at begins
      cases begins

section

variable {earlier later : List Task} {task : Task}

theorem returned_grows (task : Task) {entry : Nat × Outcome} (member : entry ∈ shared.returned) :
    entry ∈ (work sip shared task).2.returned := by
  rcases @returned_work sip shared task with same | ⟨tx, outcome, -, grown⟩
  · rw [same]
    exact member
  · rw [grown]
    exact List.mem_append_left _ member

/-- A call with a waiter goes on, or it returns and leaves the waiter. -/
theorem waiting_goes_on (kept : Kept ⟨shared, earlier ++ task :: later⟩) {tx : Nat}
    (caller : task.caller = some tx) (isWaiting : tx ∈ shared.waiting) :
    (∃ other ∈ earlier ++ (work sip shared task).1.toList ++ later, other.caller = some tx) ∨
      ∃ outcome, (tx, outcome) ∈ (work sip shared task).2.returned ∧ outcome.leaves = true := by
  by_cases finishing : ∃ place outcome, task = .finish place outcome
  · obtain ⟨place, outcome, rfl⟩ := finishing
    cases caller
    refine Or.inr ⟨outcome, List.mem_append_right _ (List.mem_singleton_self _), ?_⟩
    by_contra stays
    exact kept.finished tx outcome List.mem_append_cons_self (Bool.eq_false_iff.mpr stays) isWaiting
  · have goesOn := @caller_rest sip shared task (fun call same => by rw [same] at caller; cases caller)
      fun place outcome same => finishing ⟨place, outcome, same⟩
    rw [caller, Option.bind_eq_some_iff] at goesOn
    obtain ⟨rest, isRest, same⟩ := goesOn
    exact Or.inl ⟨rest, mem_advanced_of_rest isRest, same⟩

theorem kept_advanced (sound : Sound ⟨shared, earlier ++ task :: later⟩)
    (kept : Kept ⟨shared, earlier ++ task :: later⟩) :
    Kept ⟨(work sip shared task).2, earlier ++ (work sip shared task).1.toList ++ later⟩ where
  waiting tx member := by
    rcases waiting_work member with old | ⟨call, id, rfl⟩
    · rcases kept.waiting tx old with ⟨worker, isTask, caller⟩ | ⟨outcome, left, leaves⟩
      · by_cases same : worker = task
        · subst same
          exact waiting_goes_on kept caller old
        · exact Or.inl ⟨worker, mem_advanced_of_ne isTask same, caller⟩
      · exact Or.inr ⟨outcome, returned_grows task left, leaves⟩
    · exact Or.inl ⟨.build call tx id, mem_advanced_of_rest rfl, rfl⟩
  finished tx outcome member stays := by
    rcases mem_rest_or_others member with isRest | isOther
    · exact finished_rest sound List.mem_append_cons_self isRest stays
    · intro isWaiting
      rcases waiting_work isWaiting with old | ⟨call, id, rfl⟩
      · exact kept.finished tx outcome (mem_of_others task isOther) stays old
      · have once := Nat.le_trans (sound.returnsOnce tx) (Bool.toNat_le _)
        exact ne_of_tally _ _ tx once rfl isOther rfl

end

/-- The waiters of a server. -/
structure Tidy (pool : Pool Shared Task) : Prop where
  /-- A waiter is in the map and under the number of its operation. -/
  own : ∀ key waiter, pool.shared.waiters.lookup key = some waiter →
    pool.shared.operations[waiter.tx]? = some ⟨key.2, some key.1⟩
  /-- A number is in one map at most. -/
  single : ∀ key ∈ pool.shared.waiters, ∀ other ∈ pool.shared.waiters, key.2 = other.2 → key = other
  /-- Its call is under way, or it was dropped or could not build its request. -/
  waiting : ∀ key waiter, pool.shared.waiters.lookup key = some waiter →
    (∃ task ∈ pool.tasks, task.caller = some waiter.tx) ∨
      ∃ outcome, (waiter.tx, outcome) ∈ pool.shared.returned ∧ outcome.leaves = true
  atRest : (∀ task ∈ pool.tasks, task.caller = none) →
    (∀ entry ∈ pool.shared.returned, entry.2.leaves = false) → pool.shared.waiters = ∅

theorem eq_empty_of_lookup {map : AList fun key : Key => Waiter key.1}
    (absent : ∀ key waiter, map.lookup key ≠ some waiter) : map = ∅ := by
  refine AList.ext (List.eq_nil_iff_forall_not_mem.mpr ?_)
  rintro ⟨key, waiter⟩ member
  exact absent key waiter (AList.mem_lookup_iff.mpr member)

theorem Kept.tidy {pool : Pool Shared Task} (kept : Kept pool) (sound : Sound pool)
    (few : pool.shared.operations.length ≤ 18446744073709551616) : Tidy pool := by
  have waiting : ∀ key waiter, pool.shared.waiters.lookup key = some waiter →
      (∃ task ∈ pool.tasks, task.caller = some waiter.tx) ∨
        ∃ outcome, (waiter.tx, outcome) ∈ pool.shared.returned ∧ outcome.leaves = true :=
    fun key waiter found => kept.waiting waiter.tx (mem_waiting.mpr ⟨key, waiter, found, rfl⟩)
  refine ⟨sound.owned.waiters, ?_, waiting, ?_⟩
  · intro key isKey other isOther same
    obtain ⟨waiter, found⟩ := Option.isSome_iff_exists.mp (AList.lookup_isSome.mpr isKey)
    obtain ⟨second, foundOther⟩ := Option.isSome_iff_exists.mp (AList.lookup_isSome.mpr isOther)
    have owns := sound.owned.waiters key waiter found
    have ownsOther := sound.owned.waiters other second foundOther
    have place := sound.owned.numbered.place_unique few owns ownsOther same
    exact Owns.unique owns (place ▸ ownsOther)
  · intro idle stay
    refine eq_empty_of_lookup fun key waiter found => ?_
    rcases waiting key waiter found with ⟨task, isTask, caller⟩ | ⟨outcome, left, leaves⟩
    · rw [idle task isTask] at caller
      cases caller
    · rw [stay _ left] at leaves
      cases leaves

theorem kept_reached {moves : List (Move Task)}
    (begins : ∀ task, .begin task ∈ moves → task.begins = true) :
    Sound (reached sip moves) ∧ Kept (reached sip moves) :=
  TaskPool.invariant_final (fun pool => Sound pool ∧ Kept pool)
    (fun _ _ _ inv begun => ⟨sound_begun inv.1 begun, kept_begun inv.2 begun⟩)
    (fun _ _ _ _ inv _ => ⟨sound_advanced inv.1, kept_advanced inv.1 inv.2⟩)
    ⟨sound_init, ⟨fun _ member => (nomatch member), fun _ _ member => (nomatch member)⟩⟩ (guarded_run begins)

/-- In any order of the steps every waiter is that of a call under way, under its own number and in one
map, but for those that calls leave which are dropped or cannot build their request. -/
theorem waiters_of_calls_under_way (sip : SipReaders) (moves : List (Move Task))
    (begins : ∀ task, .begin task ∈ moves → task.begins = true)
    (few : (reached sip moves).shared.operations.length ≤ 18446744073709551616) :
    Tidy (reached sip moves) :=
  (kept_reached begins).2.tidy (kept_reached begins).1 few

/-- Behind a message that is answered come a dialog that cannot be restored, and a message, a
subscription and an INVITE that wait. -/
def waitingCalls : List (Move Task) :=
  answeredTwice ++
    [.begin (.nextOperationId ⟨.restoredDialog 8000 false, true, 0, false⟩), .advance 0, .advance 0,
      .advance 0, .advance 0,
      .begin (.nextOperationId ⟨.message, true, 1, false⟩), .advance 0, .advance 0, .advance 0,
      .advance 0,
      .begin (.nextOperationId ⟨.subscribe ⟨"34020000001320000001", "Catalog", 3600, "sip:device"⟩, true,
        1, false⟩),
      .advance 1, .advance 1, .advance 1, .advance 1,
      .begin (.nextOperationId ⟨.invite ⟨"34020000001320000001", "34020000001320000002", "stream-1",
        some 100⟩, true, 1, false⟩),
      .advance 2, .advance 2, .advance 2, .advance 2]

theorem waiters_of_calls_under_way_restore :
    Tidy (reached noTags waitingCalls) ∧
      (reached noTags waitingCalls).shared.waiters.keys =
        [(.invite, 5), (.subscription, 4), (.response, 3), (.response, 2)] ∧
      (reached noTags waitingCalls).tasks.map Task.caller = [some 2, some 3, some 4] := by
  refine ⟨waiters_of_calls_under_way noTags waitingCalls ?_ (by decide +kernel), by decide +kernel,
    by decide +kernel⟩
  intro task member
  simp only [waitingCalls, answeredTwice, List.cons_append, List.nil_append, List.mem_cons,
    List.not_mem_nil, or_false, Move.begin.injEq, reduceCtorEq, false_or] at member
  rcases member with rfl | rfl | rfl | rfl | rfl | rfl | rfl | rfl <;> rfl

/-! ## The shutdown -/

/-- A call of `complete_native_response`, `complete_native_subscription` or `fail_native_invite` with
nothing in between; it says whether the answer was taken. -/
def Shared.complete (shared : Shared) (attempt : Attempt) : Bool × Shared :=
  if attempt.provisional then (false, shared)
  else
    match shared.waiters.lookup attempt.key with
    | none => (false, shared)
    | some waiter =>
        if shared.isOpen waiter.tx then
          (true, { shared.takeWaiter attempt.key with
            delivered := shared.delivered ++ [⟨waiter.tx, attempt, waiter.metadata⟩] })
        else (false, shared.takeWaiter attempt.key)

/-- The waiters under some keys are failed; the number of those that hear of it. -/
def Shared.failKeys (status : UInt16) : List Key → Shared → Nat × Shared
  | [], shared => (0, shared)
  | key :: keys, shared =>
      let (taken, next) := shared.complete (failureOf status key)
      let (failed, last) := failKeys status keys next
      (taken.toNat + failed, last)

def Shared.allKeys (shared : Shared) : List Key :=
  shared.keysOf .response (fun _ => true) ++ shared.keysOf .subscription (fun _ => true) ++
    shared.keysOf .invite fun _ => true

/-- `fail_all_native`. -/
def Shared.failAllNative (shared : Shared) (status : UInt16) : Nat × Shared :=
  shared.failKeys status shared.allKeys

theorem completes_attempt (status : UInt16) (keys : List Key) (shared : Shared) :
    Completes (work sip) shared (.attempt false (keys.map (failureOf status)))
      (shared.failKeys status keys).2 := by
  induction keys generalizing shared with
  | nil => exact .last rfl
  | cons key keys ih =>
      simp only [List.map_cons, Shared.failKeys, Shared.complete]
      split
      · rename_i provisional
        exact .more (by simp only [work, if_pos provisional]) (ih shared)
      · rename_i final
        split
        · rename_i absent
          exact .more (by simp only [work, if_neg final, absent]) (ih shared)
        · rename_i waiter found
          refine .more (by simp only [work, if_neg final, found]; rfl) ?_
          split
          · rename_i isOpen
            exact .more (by simp only [work]; exact if_pos isOpen) (ih _)
          · rename_i isClosed
            exact .more (by simp only [work]; exact if_neg isClosed) (ih _)

theorem failureOf_key (status : UInt16) (key : Key) : (failureOf status key).key = key := by
  obtain ⟨kind, id⟩ := key
  cases kind <;> rfl

theorem failureOf_final {status : UInt16} (final : 300 ≤ status) (key : Key) :
    (failureOf status key).provisional = false := by
  have large : ¬ status < 200 := UInt16.not_lt.mpr (UInt16.le_trans (by decide) final)
  obtain ⟨kind, id⟩ := key
  cases kind <;> first | exact decide_eq_false large | rfl

/-- The status that a reply tells, unless it tells of a dialog. -/
def replyStatus : (kind : WaiterKind) → Reply kind → Option UInt16
  | .response, reply | .subscription, reply =>
      let result : SipResponseResult := reply
      some result.status
  | .invite, reply =>
      let result : Except SipInviteFailure GbInviteAcceptedEvent := reply
      match result with
      | .ok _ => none
      | .error failure => some failure.status

/-- An answer of the shutdown to a waiter that was there and whose call listens. -/
structure FailureAnswer (status : UInt16) (shared : Shared) (delivery : Delivery) : Prop where
  status : replyStatus _ delivery.reply = some status
  waited : ∃ waiter, shared.waiters.lookup delivery.attempt.key = some waiter ∧
    waiter.tx = delivery.tx ∧ waiter.metadata = delivery.metadata
  listening : shared.isOpen delivery.tx = true

/-- There is a waiter under the key, and its call still listens. -/
def Shared.listens (shared : Shared) (key : Key) : Bool :=
  (shared.waiters.lookup key).any fun waiter => shared.isOpen waiter.tx

/-- What failing the waiters under some keys does: those whose calls listen are answered, each once. -/
structure FailedKeys (status : UInt16) (keys : List Key) (shared next : Shared) (failed : Nat) : Prop where
  lookup : ∀ key, next.waiters.lookup key = if key ∈ keys then none else shared.waiters.lookup key
  isOpen : next.isOpen = shared.isOpen
  calls : next.operations = shared.operations ∧ next.returned = shared.returned
  failed : failed = (keys.filter shared.listens).length
  answers : ∃ new, next.delivered = shared.delivered ++ new ∧
    new.map (fun delivery => delivery.attempt.key) = keys.filter shared.listens ∧
    ∀ delivery ∈ new, FailureAnswer status shared delivery

theorem replyStatus_failureOf {status : UInt16} (final : 300 ≤ status) (key : Key)
    (metadata : Metadata (failureOf status key).kind) :
    replyStatus _ ((failureOf status key).reply metadata) = some status := by
  have fails : succeeds status = false := by
    rw [succeeds, Bool.and_eq_false_iff]
    exact Or.inr (decide_eq_false (UInt16.not_lt.mpr final))
  obtain ⟨kind, id⟩ := key
  cases kind with
  | response => rfl
  | subscription =>
      simp only [failureOf, Attempt.reply, fails, Bool.false_and, Bool.false_eq_true, if_false]
      rfl
  | invite => rfl

theorem lookup_erase_if (map : AList fun key : Key => Waiter key.1) (key other : Key) :
    (map.erase key).lookup other = if other ∈ [key] then none else map.lookup other := by
  by_cases same : other = key
  · subst same
    rw [AList.lookup_erase, if_pos (List.mem_singleton_self _)]
  · rw [AList.lookup_erase_ne same, if_neg (mt List.mem_singleton.mp same)]

/-- One waiter is failed. -/
theorem complete_failedKeys {status : UInt16} {attempt : Attempt} {key : Key} (same : attempt.key = key)
    (final : attempt.provisional = false)
    (fails : ∀ metadata, replyStatus _ (attempt.reply metadata) = some status) (shared : Shared) :
    FailedKeys status [key] shared (shared.complete attempt).2 (shared.complete attempt).1.toNat := by
  subst same
  rw [Shared.complete, if_neg (Bool.eq_false_iff.mp final)]
  split
  · rename_i absent
    have quiet : shared.listens attempt.key = false := by rw [Shared.listens, absent]; rfl
    have none : [attempt.key].filter shared.listens = [] := by
      rw [List.filter_cons_of_neg (Bool.eq_false_iff.mp quiet), List.filter_nil]
    refine ⟨fun other => ?_, rfl, ⟨rfl, rfl⟩, by rw [none]; rfl, [], (List.append_nil _).symm,
      none.symm, fun _ member => (nomatch member)⟩
    split
    · rename_i here
      rw [List.mem_singleton.mp here, absent]
    · rfl
  · rename_i waiter found
    have listens : shared.listens attempt.key = shared.isOpen waiter.tx := by
      rw [Shared.listens, found]; rfl
    split
    · rename_i isOpen
      have one : [attempt.key].filter shared.listens = [attempt.key] := by
        rw [List.filter_cons_of_pos (listens.trans isOpen), List.filter_nil]
      refine ⟨fun other => lookup_erase_if _ _ other, rfl, ⟨rfl, rfl⟩, by rw [one]; rfl,
        [⟨waiter.tx, attempt, waiter.metadata⟩], rfl, one.symm, fun delivery member => ?_⟩
      rw [List.mem_singleton.mp member]
      exact ⟨fails _, ⟨waiter, found, rfl, rfl⟩, isOpen⟩
    · rename_i isClosed
      have none : [attempt.key].filter shared.listens = [] := by
        rw [List.filter_cons_of_neg (listens ▸ isClosed), List.filter_nil]
      exact ⟨fun other => lookup_erase_if _ _ other, rfl, ⟨rfl, rfl⟩, by rw [none]; rfl, [],
        (List.append_nil _).symm, none.symm, fun _ member => (nomatch member)⟩

theorem FailureAnswer.of_next {status : UInt16} {shared next : Shared} {delivery : Delivery}
    (answer : FailureAnswer status next delivery) (isOpen : next.isOpen = shared.isOpen)
    (lookup : ∀ key waiter, next.waiters.lookup key = some waiter → shared.waiters.lookup key = some waiter) :
    FailureAnswer status shared delivery := by
  obtain ⟨replied, ⟨waiter, found, tx, metadata⟩, listening⟩ := answer
  exact ⟨replied, ⟨waiter, lookup _ _ found, tx, metadata⟩, isOpen ▸ listening⟩

/-- Other keys can be failed behind some. -/
theorem FailedKeys.append {status : UInt16} {keys others : List Key} {shared next last : Shared}
    {failed more : Nat} (first : FailedKeys status keys shared next failed)
    (rest : FailedKeys status others next last more) (apart : keys.Disjoint others) :
    FailedKeys status (keys ++ others) shared last (failed + more) := by
  have keeps : ∀ other waiter, next.waiters.lookup other = some waiter →
      shared.waiters.lookup other = some waiter := by
    intro other waiter found
    rw [first.lookup] at found
    split at found
    · cases found
    · exact found
  have listens : others.filter next.listens = others.filter shared.listens := by
    refine List.filter_congr fun key member => ?_
    rw [Shared.listens, Shared.listens, first.isOpen, first.lookup, if_neg fun here => apart here member]
  obtain ⟨firstNew, firstDelivered, firstKeys, firstAnswers⟩ := first.answers
  obtain ⟨restNew, restDelivered, restKeys, restAnswers⟩ := rest.answers
  refine ⟨fun other => ?_, rest.isOpen.trans first.isOpen,
    ⟨rest.calls.1.trans first.calls.1, rest.calls.2.trans first.calls.2⟩, ?_, firstNew ++ restNew, ?_, ?_, ?_⟩
  · rw [rest.lookup, first.lookup]
    by_cases here : other ∈ keys
    · simp only [here, List.mem_append, true_or, if_true, ite_self]
    · simp only [here, List.mem_append, false_or, if_false]
  · rw [List.filter_append, List.length_append, first.failed, rest.failed, listens]
  · rw [restDelivered, firstDelivered, List.append_assoc]
  · rw [List.map_append, List.filter_append, firstKeys, restKeys, listens]
  · intro delivery member
    rcases List.mem_append.mp member with isFirst | isRest
    · exact firstAnswers delivery isFirst
    · exact (restAnswers delivery isRest).of_next first.isOpen keeps

theorem failedKeys (status : UInt16) (final : 300 ≤ status) {keys : List Key} (nodup : keys.Nodup)
    (shared : Shared) :
    FailedKeys status keys shared (shared.failKeys status keys).2 (shared.failKeys status keys).1 := by
  induction keys generalizing shared with
  | nil => exact ⟨fun key => (if_neg (List.not_mem_nil)).symm, rfl, ⟨rfl, rfl⟩, rfl,
      [], (List.append_nil _).symm, rfl, fun _ member => (nomatch member)⟩
  | cons key keys ih =>
      obtain ⟨fresh, others⟩ := List.nodup_cons.mp nodup
      have first := complete_failedKeys (failureOf_key status key) (failureOf_final final key)
        (replyStatus_failureOf final key) shared
      exact first.append (ih others _) (List.singleton_disjoint.mpr fresh)

/-- The task of the shutdown, when nothing comes in between, does what `fail_all_native` does. -/
theorem completes_failAllNative (status : UInt16) (shared : Shared) :
    Completes (work sip) shared (.failAllNative status [] [.response, .subscription, .invite])
      (shared.failAllNative status).2 :=
  .more rfl (.more rfl (.more rfl (.more rfl (completes_attempt status _ shared))))

theorem mem_keysOf {shared : Shared} {kind : WaiterKind} {key : Key} :
    key ∈ shared.keysOf kind (fun _ => true) ↔ key ∈ shared.waiters.keys ∧ key.1 = kind := by
  simp only [Shared.keysOf, Bool.and_true, List.mem_map, List.mem_filter, beq_iff_eq]
  constructor
  · rintro ⟨entry, ⟨listed, isKind⟩, rfl⟩
    exact ⟨List.mem_map_of_mem listed, isKind⟩
  · rintro ⟨listed, isKind⟩
    obtain ⟨entry, member, rfl⟩ := List.mem_map.mp listed
    exact ⟨entry, ⟨member, isKind⟩, rfl⟩

theorem nodup_keysOf (shared : Shared) (kind : WaiterKind) (keep : Nat → Bool) :
    (shared.keysOf kind keep).Nodup :=
  (List.filter_sublist.map Sigma.fst).nodup shared.waiters.keys_nodup

/-- The shutdown looks for each waiter once. -/
theorem allKeys_perm (shared : Shared) : shared.allKeys.Perm shared.waiters.keys := by
  have apart {one other : WaiterKind} (different : one ≠ other) :
      (shared.keysOf one fun _ => true).Disjoint (shared.keysOf other fun _ => true) :=
    fun _ here there => different ((mem_keysOf.mp here).2.symm.trans (mem_keysOf.mp there).2)
  have nodup : shared.allKeys.Nodup := by
    refine ((nodup_keysOf ..).append (nodup_keysOf ..) (apart (by decide))).append (nodup_keysOf ..) ?_
    exact List.disjoint_append_left.mpr ⟨apart (by decide), apart (by decide)⟩
  refine (List.perm_ext_iff_of_nodup nodup shared.waiters.keys_nodup).mpr fun key => ?_
  simp only [Shared.allKeys, List.mem_append, mem_keysOf, ← and_or_left]
  refine and_iff_left ?_
  cases key.1 <;> simp

/-- What the shutdown makes of the waiters. -/
structure ShutDown (status : UInt16) (shared next : Shared) (failed : Nat) : Prop where
  waiters : next.waiters = ∅
  calls : next.operations = shared.operations ∧ next.returned = shared.returned
  /-- The number that it returns is that of the waiters whose calls listen. -/
  failed : failed = (shared.waiters.keys.filter shared.listens).length
  /-- Each of these is sent the status once in the form that it waits for, and nothing else is sent. -/
  answers : ∃ new, next.delivered = shared.delivered ++ new ∧
    (new.map fun delivery => delivery.attempt.key).Perm (shared.waiters.keys.filter shared.listens) ∧
    ∀ delivery ∈ new, FailureAnswer status shared delivery

/-- The shutdown with nothing in between, whatever the server was doing, is `fail_all_native`: it answers
every call that has a waiter and listens, each once, says how many they are, and leaves no waiter. -/
theorem fail_all_native_answers_waiting (sip : SipReaders) (shared : Shared) (tasks : List Task)
    (status : UInt16) (final : 300 ≤ status) :
    (∃ steps, Runs.final (step (work sip)) ⟨shared, tasks⟩
        (.begin (.failAllNative status [] [.response, .subscription, .invite]) ::
          List.replicate steps (.advance tasks.length)) = ⟨(shared.failAllNative status).2, tasks⟩) ∧
      ShutDown status shared (shared.failAllNative status).2 (shared.failAllNative status).1 := by
  constructor
  · exact (completes_failAllNative status shared).final tasks
  · have listed := allKeys_perm shared
    have failed := failedKeys status final (listed.nodup_iff.mpr shared.waiters.keys_nodup) shared
    have answered := listed.filter shared.listens
    obtain ⟨new, delivered, keys, answers⟩ := failed.answers
    refine ⟨eq_empty_of_lookup fun key waiter found => ?_, failed.calls,
      failed.failed.trans answered.length_eq, new, delivered, keys ▸ answered, answers⟩
    rw [Shared.failAllNative, failed.lookup] at found
    split at found
    · cases found
    · rename_i absent
      exact absent (listed.mem_iff.mpr (AList.lookup_isSome.mp (by rw [found]; rfl)))

theorem fail_all_native_answers_waiting_restore :
    ShutDown 503 (reached noTags waitingCalls).shared
        ((reached noTags waitingCalls).shared.failAllNative 503).2
        ((reached noTags waitingCalls).shared.failAllNative 503).1 ∧
      ((reached noTags waitingCalls).shared.failAllNative 503).1 = 3 :=
  ⟨(fail_all_native_answers_waiting noTags _ [] 503 (by decide)).2, by decide +kernel⟩

end Gmv.Session.SipOperations
