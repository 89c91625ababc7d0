import Gmv.Session.SsrcSequence

/-!
# What the SSRC allocations give

Any number of allocations of both kinds, between them any changes of what is active and any failures of
the database.  The takes of a sequence are numbered, and no two calls have one number, so the SSRCs that
are given are as far apart as their numbers.
-/

namespace Gmv.Session.SsrcSequence

open Gmv.Library TaskPool
open MediaRequest (parseU32)

namespace Round

/-- The memory or the dialog table had the SSRC when it was looked at. -/
def Active (round : Round) (domainId : String) : Prop :=
  (∃ numericSsrc, parseU32 round.ssrc = some numericSsrc ∧
    ssrcIsActive round.memory.cache numericSsrc = true) ∨
  ∃ activity, round.dialogs = some activity ∧ isActive activity domainId round.ssrc = true

/-- Both were looked at and neither had the SSRC. -/
structure Free (round : Round) (domainId : String) : Prop where
  memory : ∃ numericSsrc, parseU32 round.ssrc = some numericSsrc ∧
    ssrcIsActive round.memory.cache numericSsrc = false
  dialogs : ∃ activity, round.dialogs = some activity ∧ isActive activity domainId round.ssrc = false

end Round

namespace Return

/-- The number of the take behind an SSRC that was returned. -/
def number (return' : Return) : Option Nat :=
  match return'.result with
  | .error _ => none
  | .ok _ => return'.rounds.getLast?.map Round.number

/-- Between the takes behind two SSRCs there are 9998 others. -/
def TakesApart (one other : Return) : Prop :=
  ∃ first second, one.number = some first ∧ other.number = some second ∧
    (first + 9998 < second ∨ second + 9998 < first)

/-- All takes of the sequence from the beginning of the call to its end are its own. -/
def Alone (return' : Return) : Prop := return'.ended = return'.began + 9999

end Return

/-- The values are in their range, the SSRCs that were returned are well formed, were free and do not
come again soon, and a call without others that found none has seen all values active. -/
structure Sound (domainId : String) (shared : Shared) : Prop where
  current : ∀ kind seqName, ssrcPrefix domainId kind = .ok seqName →
    ∃ row, shared.sequences.find seqName = some row ∧ 1 ≤ row.currentValue ∧ row.currentValue ≤ 9999
  wellFormed : ∀ return' ∈ shared.returns, ∀ ssrc, return'.result = .ok ssrc → WellFormed ssrc
  free : ∀ return' ∈ shared.returns, ∀ ssrc, return'.result = .ok ssrc →
    ∃ round, return'.rounds.getLast? = some round ∧ round.ssrc = ssrc ∧ round.Free domainId
  kinds : ∀ one ∈ shared.returns, ∀ other ∈ shared.returns, one.kind ≠ other.kind →
    ∀ ssrc, one.result = .ok ssrc → other.result ≠ .ok ssrc
  apart : shared.returns.Pairwise fun one other => ∀ ssrc, one.result = .ok ssrc →
    other.result = .ok ssrc → one.TakesApart other
  exhausted : ∀ return' ∈ shared.returns, return'.result = .error exhausted → return'.Alone →
    ∀ seqName, ssrcPrefix domainId return'.kind = .ok seqName →
      ∀ value : UInt16, 1 ≤ value → value ≤ 9999 →
        ∃ round ∈ return'.rounds, round.ssrc = ssrcOf seqName value ∧ round.Active domainId

/-! ## The invariant -/

section

variable (domainId : String) (first : SsrcKind → Nat)

/-- The SSRC is the one that the take of a number gives. -/
def IsTake (kind : SsrcKind) (seqName : String) (number : Nat) (ssrc : String) : Prop :=
  ∃ value : UInt16, value.toNat = CyclicCounter.after 9999 (first kind) number ∧ ssrc = ssrcOf seqName value

/-- The rounds of a call up to a number of takes, each with a take of its own and an active SSRC. -/
structure Looked (kind : SsrcKind) (seqName : String) (began upTo : Nat) (rounds : List Round) : Prop where
  named : ssrcPrefix domainId kind = .ok seqName
  since : began ≤ upTo
  ordered : (rounds.map Round.number).Pairwise (· < ·)
  inside : ∀ round ∈ rounds, began ≤ round.number ∧ round.number < upTo
  isTake : ∀ round ∈ rounds, IsTake first kind seqName round.number round.ssrc
  active : ∀ round ∈ rounds, round.Active domainId

def Call.Looked (call : Call) (upTo : Nat) : Prop :=
  SsrcSequence.Looked domainId first call.kind call.seqName call.began upTo call.rounds

/-- A call that has taken a value and not yet looked at it. -/
structure Holds (call : Call) (upTo number : Nat) (value : UInt16) : Prop where
  looked : call.Looked domainId first number
  before : number < upTo
  isTake : value.toNat = CyclicCounter.after 9999 (first call.kind) number

def Task.Sound (taken : SsrcKind → Nat) : Task → Prop
  | .allocate _ | .turn _ _ => True
  | .take call => call.Looked domainId first (taken call.kind)
  | .checkMemory call number value => Holds domainId first call (taken call.kind) number value
  | .checkDialogs call number value memory =>
      Holds domainId first call (taken call.kind) number value ∧
        ∃ numericSsrc, parseU32 (ssrcOf call.seqName value) = some numericSsrc ∧
          ssrcIsActive memory.cache numericSsrc = false

/-- An SSRC that was returned comes from the last round, and exhaustion from 9999 rounds. -/
def Return.Sound (return' : Return) : Prop :=
  match return'.result with
  | .ok ssrc => ∃ seqName round, ssrcPrefix domainId return'.kind = .ok seqName ∧
      return'.rounds.getLast? = some round ∧ round.ssrc = ssrc ∧ round.Free domainId ∧
      IsTake first return'.kind seqName round.number round.ssrc
  | .error error => error = exhausted → ∃ seqName, 9999 ≤ return'.rounds.length ∧
      Looked domainId first return'.kind seqName return'.began return'.ended return'.rounds

/-- The number that a task of a kind holds. -/
def Task.number (kind : SsrcKind) : Task → Option Nat
  | .checkMemory call number _ | .checkDialogs call number _ _ => if call.kind = kind then some number else none
  | .allocate _ | .take _ | .turn _ _ => none

/-- The numbers behind the SSRCs of a kind that were returned. -/
def Shared.numbers (kind : SsrcKind) (shared : Shared) : List Nat :=
  shared.returns.filterMap fun return' => if return'.kind = kind then return'.number else none

structure Inv (pool : Pool Shared Task) : Prop where
  sequences : ∀ kind seqName, ssrcPrefix domainId kind = .ok seqName →
    Follows (first kind) (pool.shared.taken kind) pool.shared.sequences seqName
  tasks : ∀ task ∈ pool.tasks, task.Sound domainId first pool.shared.taken
  returns : ∀ return' ∈ pool.shared.returns, return'.Sound domainId first
  numbers : ∀ kind number, tally (Shared.numbers kind) (Task.number kind) number pool ≤
    (decide (number < pool.shared.taken kind)).toNat

end

/-! ## What a step does -/

section

variable {domainId : String} {shared : Shared} {task : Task}

/-- A step leaves the table, or it is a take. -/
theorem sequences_work :
    ((work domainId shared task).2.sequences = shared.sequences ∧
        (work domainId shared task).2.taken = shared.taken) ∨
      ∃ call value, task = .take call ∧
        takeNextValue shared.sequences call.seqName = (.ok value, (work domainId shared task).2.sequences) ∧
        (work domainId shared task).2.taken =
          Function.update shared.taken call.kind (shared.taken call.kind + 1) := by
  fun_cases work domainId shared task
  all_goals simp_all [Shared.give, Shared.finish, Shared.take]

/-- The number that a task holds stays with it, goes to a return or gets lost, or it is a new one. -/
theorem number_work (kind : SsrcKind) :
    ((work domainId shared task).2.taken kind = shared.taken kind ∧
        (((work domainId shared task).2.numbers kind = shared.numbers kind ∧
            (((work domainId shared task).1.bind (Task.number kind)) = task.number kind ∨
              ((work domainId shared task).1.bind (Task.number kind)) = none)) ∨
          ∃ number, task.number kind = some number ∧ (work domainId shared task).1 = none ∧
            (work domainId shared task).2.numbers kind = shared.numbers kind ++ [number])) ∨
      ((work domainId shared task).2.taken kind = shared.taken kind + 1 ∧
        (work domainId shared task).2.numbers kind = shared.numbers kind ∧ task.number kind = none ∧
        (((work domainId shared task).1.bind (Task.number kind)) = some (shared.taken kind) ∨
          ((work domainId shared task).1.bind (Task.number kind)) = none)) := by
  fun_cases work domainId shared task
  case case6 call _ _ _ _ _ =>
    by_cases same : call.kind = kind <;>
      simp_all [Shared.take, Shared.numbers, Task.number, eq_comm]
  case case8 call _ _ _ _ _ =>
    by_cases same : call.kind = kind <;>
      simp_all [Shared.give, Shared.finish, Shared.take, Shared.numbers, Task.number, Return.number, eq_comm]
  case case13 call _ _ _ _ _ _ =>
    by_cases same : call.kind = kind <;>
      simp +zetaDelta [Shared.give, Shared.finish, Shared.numbers, Task.number, Return.number, Call.push, same]
  all_goals simp_all [Shared.give, Shared.finish, Shared.numbers, Task.number, Return.number, Call.push]

end

section

variable {domainId : String} {first : SsrcKind → Nat} {shared : Shared} {task : Task}

theorem Looked.mono {kind : SsrcKind} {seqName : String} {began upTo later : Nat} {rounds : List Round}
    (looked : Looked domainId first kind seqName began upTo rounds) (grows : upTo ≤ later) :
    Looked domainId first kind seqName began later rounds :=
  { looked with
    since := Nat.le_trans looked.since grows
    inside := fun round member =>
      ⟨(looked.inside round member).1, Nat.lt_of_lt_of_le (looked.inside round member).2 grows⟩ }

/-- A round with a later take and an active SSRC. -/
theorem Looked.push {kind : SsrcKind} {seqName : String} {began upTo : Nat} {rounds : List Round}
    {round : Round} (looked : Looked domainId first kind seqName began round.number rounds)
    (before : round.number < upTo) (isTake : IsTake first kind seqName round.number round.ssrc)
    (active : round.Active domainId) : Looked domainId first kind seqName began upTo (rounds ++ [round]) where
  named := looked.named
  since := Nat.le_trans looked.since (Nat.le_of_lt before)
  ordered := by
    rw [List.map_append, List.pairwise_append]
    refine ⟨looked.ordered, List.pairwise_singleton .., fun one member other isLast => ?_⟩
    obtain ⟨earlier, isOne, rfl⟩ := List.mem_map.mp member
    rw [List.mem_singleton.mp isLast]
    exact (looked.inside earlier isOne).2
  inside := List.forall_mem_append.mpr ⟨(looked.mono (Nat.le_of_lt before)).inside,
    List.forall_mem_singleton.mpr ⟨looked.since, before⟩⟩
  isTake := List.forall_mem_append.mpr ⟨looked.isTake, List.forall_mem_singleton.mpr isTake⟩
  active := List.forall_mem_append.mpr ⟨looked.active, List.forall_mem_singleton.mpr active⟩

theorem Task.Sound.mono {taken later : SsrcKind → Nat} (sound : task.Sound domainId first taken)
    (grows : ∀ kind, taken kind ≤ later kind) : task.Sound domainId first later := by
  have holds {call : Call} {number : Nat} {value : UInt16}
      (here : Holds domainId first call (taken call.kind) number value) :
      Holds domainId first call (later call.kind) number value :=
    ⟨here.looked, Nat.lt_of_lt_of_le here.before (grows _), here.isTake⟩
  cases task with
  | allocate | turn => exact True.intro
  | take call => exact Looked.mono sound (grows _)
  | checkMemory call number value => exact holds sound
  | checkDialogs call number value memory => exact ⟨holds sound.1, sound.2⟩

/-- What a call has left to do goes on from what it has done. -/
theorem sound_rest
    (follows : ∀ kind seqName, ssrcPrefix domainId kind = .ok seqName →
      Follows (first kind) (shared.taken kind) shared.sequences seqName)
    (sound : task.Sound domainId first shared.taken) :
    ∀ rest ∈ (work domainId shared task).1,
      rest.Sound domainId first (work domainId shared task).2.taken := by
  fun_cases work domainId shared task
  case case2 kind seqName named =>
    rintro rest ⟨⟩
    have none' {P : Round → Prop} : ∀ round ∈ ([] : List Round), P round := fun _ member => by
      cases member
    exact ⟨named, Nat.le_refl _, List.Pairwise.nil, none', none', none'⟩
  case case6 call few value sequences isTake isUp =>
    rintro rest ⟨⟩
    obtain ⟨given, next, taken, isValue, -⟩ := takeNextValue_of_follows (follows _ _ sound.named)
    obtain ⟨rfl⟩ : given = value := Except.ok.inj (congrArg Prod.fst (taken.symm.trans isTake))
    have counted : (shared.take call.kind sequences).taken call.kind = shared.taken call.kind + 1 :=
      Function.update_self ..
    exact ⟨sound, counted ▸ Nat.lt_succ_self _, isValue⟩
  case case10 call number value numericSsrc parsed isActive =>
    rintro rest ⟨⟩
    exact Looked.push sound.looked sound.before ⟨value, sound.isTake, rfl⟩ (Or.inl ⟨numericSsrc, parsed, isActive⟩)
  case case11 call number value numericSsrc parsed inactive =>
    rintro rest ⟨⟩
    exact ⟨sound, numericSsrc, parsed, Bool.eq_false_iff.mpr inactive⟩
  case case12 call number value memory isUp looked isActive =>
    rintro rest ⟨⟩
    exact Looked.push sound.1.looked sound.1.before ⟨value, sound.1.isTake, rfl⟩ (Or.inr ⟨_, rfl, isActive⟩)
  all_goals exact fun rest isRest => nomatch isRest

/-- What a call returns is sound. -/
theorem sound_return (returns : ∀ return' ∈ shared.returns, return'.Sound domainId first)
    (sound : task.Sound domainId first shared.taken) :
    ∀ return' ∈ (work domainId shared task).2.returns, return'.Sound domainId first := by
  have refused {kind : SsrcKind} {began ended : Nat} {rounds : List Round} {error : SequenceError}
      (other : error ≠ exhausted) :
      (⟨kind, began, ended, rounds, .error error⟩ : Return).Sound domainId first :=
    fun same => absurd same other
  have added {last : Return} (isSound : last.Sound domainId first) :
      ∀ return' ∈ shared.returns ++ [last], return'.Sound domainId first :=
    List.forall_mem_append.mpr ⟨returns, List.forall_mem_singleton.mpr isSound⟩
  fun_cases work domainId shared task
  case case1 kind error isError => exact added (refused (ssrcPrefix_error isError))
  case case3 call many => exact added fun _ => ⟨call.seqName, many, sound⟩
  case case5 call few error sequences isError isUp =>
    exact added (refused (takeNextValue_error isError ▸ by decide))
  case case13 call number value memory isUp looked inactive =>
    refine added ⟨call.seqName, ⟨ssrcOf call.seqName value, number, memory, some shared.activity⟩,
      sound.1.looked.named, List.getLast?_concat, rfl, ⟨sound.2, shared.activity, rfl, ?_⟩,
      value, sound.1.isTake, rfl⟩
    exact Bool.eq_false_iff.mpr inactive
  case case4 | case7 | case8 | case9 | case14 => exact added (refused (by decide))
  all_goals exact returns

theorem follows_work
    (follows : ∀ kind seqName, ssrcPrefix domainId kind = .ok seqName →
      Follows (first kind) (shared.taken kind) shared.sequences seqName)
    (sound : task.Sound domainId first shared.taken) :
    ∀ kind seqName, ssrcPrefix domainId kind = .ok seqName →
      Follows (first kind) ((work domainId shared task).2.taken kind)
        (work domainId shared task).2.sequences seqName := by
  intro kind seqName named
  rcases @sequences_work domainId shared task with
    ⟨sameTable, sameTaken⟩ | ⟨call, value, rfl, isTake, counted⟩
  · rw [sameTable, sameTaken]
    exact follows kind seqName named
  · obtain ⟨given, next, taken, -, behind, others⟩ := takeNextValue_of_follows (follows _ _ sound.named)
    have isNext : next = (work domainId shared (.take call)).2.sequences :=
      congrArg Prod.snd (taken.symm.trans isTake)
    rw [← isNext, counted]
    by_cases same : kind = call.kind
    · subst same
      rw [Function.update_self, Except.ok.inj (named.symm.trans sound.named)]
      exact behind
    · have differs : seqName ≠ call.seqName := fun sameName =>
        same (ssrcPrefix_inj named (sameName ▸ sound.named))
      rw [Function.update_of_ne same, Follows, others seqName differs]
      exact follows kind seqName named

variable {earlier later : List Task}

theorem numbers_advance {kind : SsrcKind} {number : Nat}
    (few : tally (Shared.numbers kind) (Task.number kind) number ⟨shared, earlier ++ task :: later⟩ ≤
      (decide (number < shared.taken kind)).toNat) :
    tally (Shared.numbers kind) (Task.number kind) number
        ⟨(work domainId shared task).2, earlier ++ (work domainId shared task).1.toList ++ later⟩ ≤
      (decide (number < (work domainId shared task).2.taken kind)).toNat := by
  simp only [tally_split, tallyHere, Option.bind_some] at few
  simp only [tally_advanced, tallyHere]
  rcases @number_work domainId shared task kind with
    ⟨sameTaken, ⟨sameNumbers, same | none'⟩ | ⟨held, isHeld, ends, given⟩⟩ |
      ⟨isNext, sameNumbers, noNumber, isNew | none'⟩
  · rwa [sameTaken, sameNumbers, same]
  · rw [sameTaken, sameNumbers, none', Option.toList_none, List.count_nil]
    omega
  · rw [sameTaken, given, ends, Option.bind_none, Option.toList_none, List.count_nil, List.count_append]
    rw [isHeld, Option.toList_some] at few
    omega
  · rw [noNumber, Option.toList_none, List.count_nil] at few
    rw [isNext, sameNumbers, isNew, Option.toList_some]
    have fresh := count_fresh few
    omega
  · rw [noNumber, Option.toList_none, List.count_nil] at few
    have older := few.trans (Nat.le_add_left _ ([shared.taken kind].count number))
    rw [isNext, sameNumbers, none', Option.toList_none, List.count_nil]
    have fresh := count_fresh few
    omega

theorem taken_le_work (kind : SsrcKind) :
    shared.taken kind ≤ (work domainId shared task).2.taken kind := by
  rcases @number_work domainId shared task kind with
    ⟨same, -⟩ | ⟨isNext, -⟩
  · exact Nat.le_of_eq same.symm
  · exact isNext ▸ Nat.le_succ _

theorem inv_begin {tasks : List Task} (inv : Inv domainId first ⟨shared, tasks⟩) (begins : task.Begins) :
    Inv domainId first ⟨shared, tasks ++ [task]⟩ := by
  have plain : task.Sound domainId first shared.taken ∧ ∀ kind, task.number kind = none := by
    cases task with
    | allocate | turn => exact ⟨True.intro, fun _ => rfl⟩
    | _ => exact begins.elim
  exact ⟨inv.sequences, List.forall_mem_append.mpr ⟨inv.tasks, List.forall_mem_singleton.mpr plain.1⟩,
    inv.returns, fun kind number =>
      (tally_begin _ _ _ (plain.2 kind)).trans_le (inv.numbers kind number)⟩

theorem inv_advance (inv : Inv domainId first ⟨shared, earlier ++ task :: later⟩) :
    Inv domainId first
      ⟨(work domainId shared task).2, earlier ++ (work domainId shared task).1.toList ++ later⟩ := by
  have isTask : task ∈ earlier ++ task :: later := List.mem_append_right _ (List.mem_cons_self ..)
  have sound := inv.tasks task isTask
  refine ⟨follows_work inv.sequences sound, fun other member => ?_, sound_return inv.returns sound,
    fun kind number => numbers_advance (inv.numbers kind number)⟩
  rcases mem_advanced task member with isRest | isOther
  · exact sound_rest inv.sequences sound other isRest
  · exact (inv.tasks other isOther).mono taken_le_work

end

/-! ## From the invariant to the properties -/

section

variable {domainId : String} {first : SsrcKind → Nat} {pool : Pool Shared Task}

theorem value_bounds {value : UInt16} {kind : SsrcKind} {number : Nat}
    (isValue : value.toNat = CyclicCounter.after 9999 (first kind) number) :
    1 ≤ value.toNat ∧ value.toNat ≤ 9999 :=
  isValue ▸ ⟨CyclicCounter.one_le_after _, CyclicCounter.after_le (by decide) _⟩

/-- An SSRC that was returned is that of a take whose number no other return has. -/
theorem Return.Sound.given {return' : Return} {ssrc : String} (sound : return'.Sound domainId first)
    (given : return'.result = .ok ssrc) :
    ∃ seqName round, ssrcPrefix domainId return'.kind = .ok seqName ∧
      return'.rounds.getLast? = some round ∧ round.ssrc = ssrc ∧ round.Free domainId ∧
      IsTake first return'.kind seqName round.number ssrc := by
  rw [Return.Sound, given] at sound
  obtain ⟨seqName, round, named, isLast, rfl, free, isTake⟩ := sound
  exact ⟨seqName, round, named, isLast, rfl, free, isTake⟩

/-- Takes with different numbers that give one SSRC are a round of the counter apart. -/
theorem takesApart_of_ne {one other : Return} {ssrc : String} (sound : one.Sound domainId first)
    (otherSound : other.Sound domainId first) (given : one.result = .ok ssrc)
    (otherGiven : other.result = .ok ssrc)
    (apart : one.kind = other.kind → ∀ number, one.number = some number → other.number ≠ some number) :
    one.TakesApart other := by
  obtain ⟨seqName, round, named, isLast, -, -, value, isValue, isText⟩ := sound.given given
  obtain ⟨otherName, otherRound, otherNamed, otherLast, -, -, otherValue, otherIsValue, otherText⟩ :=
    otherSound.given otherGiven
  obtain ⟨sameKind, rfl⟩ := ssrcOf_inj named otherNamed (isText.symm.trans otherText)
  have isNumber : one.number = some round.number := by
    rw [Return.number, given, isLast]
    rfl
  have otherNumber : other.number = some otherRound.number := by
    rw [Return.number, otherGiven, otherLast]
    rfl
  have differs : round.number ≠ otherRound.number := fun same =>
    apart sameKind _ isNumber (same ▸ otherNumber)
  rw [← sameKind] at otherIsValue
  have same := isValue.symm.trans otherIsValue
  refine ⟨round.number, otherRound.number, isNumber, otherNumber, ?_⟩
  rcases Nat.lt_or_gt_of_ne differs with before | behind
  · exact Or.inl (CyclicCounter.round_apart same before)
  · exact Or.inr (CyclicCounter.round_apart same.symm behind)

theorem Inv.apart (inv : Inv domainId first pool) :
    pool.shared.returns.Pairwise fun one other => ∀ ssrc, one.result = .ok ssrc →
      other.result = .ok ssrc → one.TakesApart other := by
  have ofKind (kind : SsrcKind) : pool.shared.returns.Pairwise fun one other =>
      one.kind = kind → other.kind = kind → ∀ number, one.number = some number → other.number ≠ some number := by
    have distinct : (pool.shared.numbers kind).Nodup := by
      refine List.nodup_iff_count_le_one.mpr fun number => ?_
      have counted := (inv.numbers kind number).trans (Bool.toNat_le _)
      exact (Nat.le_add_right ..).trans counted
    refine (List.pairwise_filterMap.mp distinct).imp fun differ isKind otherKind number isIts otherIts => ?_
    exact differ number (by rw [if_pos isKind]; exact isIts) number (by rw [if_pos otherKind]; exact otherIts) rfl
  refine ((ofKind .realtime).and (ofKind .history)).imp_of_mem
    fun {one other} member otherMember differ ssrc given otherGiven => ?_
  refine takesApart_of_ne (inv.returns one member) (inv.returns other otherMember) given otherGiven
    fun sameKind => ?_
  cases isKind : one.kind with
  | realtime => exact differ.1 isKind (sameKind ▸ isKind)
  | history => exact differ.2 isKind (sameKind ▸ isKind)

/-- A call that is alone takes a whole round of the counter before it gives up. -/
theorem Return.Sound.exhausted {return' : Return} (sound : return'.Sound domainId first)
    (gaveUp : return'.result = .error exhausted) (alone : return'.Alone) {seqName : String}
    (named : ssrcPrefix domainId return'.kind = .ok seqName) {value : UInt16} (positive : 1 ≤ value)
    (bounded : value ≤ 9999) :
    ∃ round ∈ return'.rounds, round.ssrc = ssrcOf seqName value ∧ round.Active domainId := by
  rw [Return.Sound, gaveUp] at sound
  obtain ⟨itsName, many, looked⟩ := sound rfl
  obtain ⟨number, since, before, isNumber⟩ := @CyclicCounter.exists_after 9999 (first return'.kind) value.toNat
    (UInt16.le_iff_toNat_le.mp positive) (UInt16.le_iff_toNat_le.mp bounded) return'.began
  have distinct : (return'.rounds.map Round.number).Nodup := looked.ordered.imp Nat.ne_of_lt
  have inRound : ∀ number ∈ return'.rounds.map Round.number,
      return'.began ≤ number ∧ number < return'.began + 9999 := by
    intro number member
    obtain ⟨round, isRound, rfl⟩ := List.mem_map.mp member
    exact alone ▸ looked.inside round isRound
  have taken := CyclicCounter.mem_round distinct inRound (by rw [List.length_map]; exact many) since before
  obtain ⟨round, isRound, rfl⟩ := List.mem_map.mp taken
  obtain ⟨its, isIts, isText⟩ := looked.isTake round isRound
  have same : its = value := UInt16.toNat_inj.mp (isIts.trans isNumber)
  rw [same, Except.ok.inj (looked.named.symm.trans named)] at isText
  exact ⟨round, isRound, isText, looked.active round isRound⟩

theorem Inv.sound (inv : Inv domainId first pool) : Sound domainId pool.shared := by
  refine ⟨fun kind seqName named => ?_, fun return' member ssrc given => ?_,
    fun return' member ssrc given => ?_, fun one member other otherMember differ ssrc given otherGiven => ?_,
    inv.apart, fun return' member gaveUp alone seqName named value positive bounded =>
      (inv.returns return' member).exhausted gaveUp alone named positive bounded⟩
  · obtain ⟨row, found, compatible, -⟩ := inv.sequences kind seqName named
    have bounds := SeqCode.bounds compatible
    exact ⟨row, found, UInt64.le_iff_toNat_le.mpr bounds.1, UInt64.le_iff_toNat_le.mpr bounds.2⟩
  · obtain ⟨seqName, round, named, -, -, -, value, isValue, rfl⟩ := (inv.returns return' member).given given
    exact wellFormed_ssrcOf named (value_bounds isValue).1 (value_bounds isValue).2
  · obtain ⟨seqName, round, -, isLast, isText, free, -⟩ := (inv.returns return' member).given given
    exact ⟨round, isLast, isText, free⟩
  · obtain ⟨seqName, -, named, -, -, -, value, -, isText⟩ := (inv.returns one member).given given
    obtain ⟨otherName, -, otherNamed, -, -, -, otherValue, -, otherText⟩ :=
      (inv.returns other otherMember).given otherGiven
    exact differ (ssrcOf_inj named otherNamed (isText.symm.trans otherText)).1

end

/-! ## Every run -/

/-- The sequences of a domain are such as its start leaves them. -/
def Accepted (domainId : String) (table : SeqTable) : Prop :=
  ∀ kind seqName, ssrcPrefix domainId kind = .ok seqName → validateSequence table seqName = .ok ()

theorem validateSequence_insertIgnore {table : SeqTable} {seqName : String} (other : String)
    (valid : validateSequence table seqName = .ok ()) :
    validateSequence (insertIgnore table other) seqName = .ok () := by
  rw [insertIgnore]
  rcases table.insert_cases ⟨other, 1, 1, 1, some other, some 4⟩ with ⟨taken, -⟩ | ⟨next, inserted, free, -, same⟩
  · rw [taken]
    exact valid
  · rw [inserted]
    have differs : seqName ≠ other := by
      rintro rfl
      rw [validateSequence, free] at valid
      cases valid
    change validateSequence next seqName = _
    rw [validateSequence, same seqName differs]
    exact valid

/-- The start of a node refuses a table whose sequences are not such. -/
theorem initializeSequences_accepted {domainId : String} {table next : SeqTable}
    (started : initializeSequences domainId table = (.ok (), next)) : Accepted domainId next := by
  rw [initializeSequences] at started
  split at started
  · cases started
  · cases started
  · next realtime history isRealtime isHistory =>
      dsimp only at started
      split at started
      · cases started
      · next valid =>
          obtain ⟨second, rfl⟩ := Prod.mk.inj started
          intro kind seqName named
          cases kind with
          | realtime =>
              rw [Except.ok.inj (named.symm.trans isRealtime)]
              exact validateSequence_insertIgnore _ valid
          | history =>
              rw [Except.ok.inj (named.symm.trans isHistory)]
              exact second

/-- The value of a sequence before any takes. -/
def firstValue (domainId : String) (table : SeqTable) (kind : SsrcKind) : Nat :=
  match ssrcPrefix domainId kind with
  | .error _ => 1
  | .ok seqName => ((table.find seqName).map fun row => row.currentValue.toNat).getD 1

def start (table : SeqTable) (activity : Activity) : Pool Shared Task := ⟨.init table activity, []⟩

theorem inv_start {domainId : String} {table : SeqTable} {activity : Activity}
    (accepted : Accepted domainId table) :
    Inv domainId (firstValue domainId table) (start table activity) := by
  refine ⟨fun kind seqName named => ?_, fun _ member => (by cases member), fun _ member => (by cases member),
    fun _ _ => Nat.zero_le _⟩
  obtain ⟨row, found, compatible⟩ := validateSequence_ok (accepted kind seqName named)
  have bounds := SeqCode.bounds compatible
  have isFirst : firstValue domainId table kind = row.currentValue.toNat := by
    rw [firstValue, named]
    change ((table.find seqName).map _).getD 1 = _
    rw [found]
    rfl
  refine ⟨row, found, compatible, ?_⟩
  rw [isFirst]
  exact (CyclicCounter.after_zero bounds.1 bounds.2).symm

/-- Whatever calls there are and however their steps are ordered, the properties hold all along. -/
theorem sound_of_accepted {domainId : String} {table : SeqTable} {activity : Activity}
    (accepted : Accepted domainId table) {moves : List (Move Task)}
    (calls : ∀ task, .begin task ∈ moves → task.Begins) :
    Sound domainId (Runs.final (step (work domainId)) (start table activity) moves).shared :=
  (invariant_final (Inv domainId (firstValue domainId table))
    (fun _ _ _ inv begins => inv_begin inv begins) (fun _ _ _ _ inv _ => inv_advance inv)
    (inv_start accepted) (guarded_run calls)).sound

/-- A node whose cache and dialog table are empty. -/
def quiet : Activity := ⟨.init, [], (· == ·), 0⟩

def domainId : String := "34020000002000000001"

/-- The table that the first start of a node leaves. -/
def firstTable : SeqTable := (initializeSequences domainId (.empty _)).2

theorem accepted_firstTable : Accepted domainId firstTable := by
  have started : (initializeSequences domainId (.empty _)).1 = .ok () := by decide +kernel
  exact initializeSequences_accepted (Prod.ext started rfl)

/-- Two calls of one kind and one of the other, each between the steps of the others. -/
def threeCalls : List (Move Task) :=
  [.begin (.allocate .realtime), .begin (.allocate .history), .begin (.allocate .realtime), .advance 2,
    .advance 0, .advance 1, .advance 0, .advance 2, .advance 1, .advance 2, .begin (.turn quiet .cutOff),
    .advance 3, .advance 0, .advance 0, .advance 0]

theorem sound_threeCalls :
    Sound domainId (Runs.final (step (work domainId)) (start firstTable quiet) threeCalls).shared :=
  sound_of_accepted accepted_firstTable (by simp [threeCalls, Task.Begins])

/-! ## A call that is overtaken -/

/-- Between two returns of one SSRC the sequence is taken from 9998 times. -/
def ReturnsApart (shared : Shared) : Prop :=
  shared.returns.Pairwise fun one other => ∀ ssrc, one.result = .ok ssrc → other.result = .ok ssrc →
    one.ended + 9998 ≤ other.ended

/-- A call that has taken the first value and has not looked at it. -/
def stalled : Task := .checkMemory ⟨.realtime, "020000", 0, []⟩ 0 1

/-- A whole call behind the one that is stalled. -/
def wholeCall : List (Move Task) :=
  [.begin (.allocate .realtime), .advance 1, .advance 1, .advance 1, .advance 1]

/-- The call is stalled while a whole round of others begin and return. -/
def overtaken : List (Move Task) :=
  [.begin (.allocate .realtime), .advance 0, .advance 0] ++ (List.replicate 9999 wholeCall).flatten ++
    [.advance 0, .advance 0]

/-- The call is stalled, and nothing is active. -/
structure Behind (pool : Pool Shared Task) : Prop where
  tasks : pool.tasks = [stalled]
  activity : pool.shared.activity = quiet
  database : pool.shared.database = .up
  follows : Follows 1 (pool.shared.taken .realtime) pool.shared.sequences "020000"

theorem step_second (shared : Shared) (one other : Task) :
    (step (work domainId) ⟨shared, [one, other]⟩ (.advance 1)).2 =
      ⟨(work domainId shared other).2, one :: (work domainId shared other).1.toList⟩ := by
  simp [step]

theorem named_domainId : ssrcPrefix domainId .realtime = .ok "020000" := by decide +kernel

theorem work_allocate (shared : Shared) : work domainId shared (.allocate .realtime) =
    (some (.take ⟨.realtime, "020000", shared.taken .realtime, []⟩), shared) := by
  rw [work, named_domainId]

theorem work_take {shared : Shared} {call : Call} {value : UInt16} {next : SeqTable}
    (few : call.rounds.length < 9999) (isUp : shared.database = .up)
    (isTake : takeNextValue shared.sequences call.seqName = (.ok value, next)) :
    work domainId shared (.take call) =
      (some (.checkMemory call (shared.taken call.kind) value), shared.take call.kind next) := by
  rw [work, if_neg (Nat.not_le_of_lt few), isUp, isTake]

/-- A whole call returns the next value. -/
theorem behind_wholeCall {pool : Pool Shared Task} (behind : Behind pool) :
    Behind (Runs.final (step (work domainId)) pool wholeCall) ∧
      (Runs.final (step (work domainId)) pool wholeCall).shared.taken .realtime =
        pool.shared.taken .realtime + 1 ∧
      ∃ return' value, (Runs.final (step (work domainId)) pool wholeCall).shared.returns =
          pool.shared.returns ++ [return'] ∧
        return'.result = .ok (ssrcOf "020000" value) ∧ return'.ended = pool.shared.taken .realtime + 1 ∧
        value.toNat = CyclicCounter.after 9999 1 (pool.shared.taken .realtime) := by
  obtain ⟨⟨sequences, activity, database, counted, returns⟩, tasks⟩ := pool
  obtain ⟨rfl, rfl, rfl, follows⟩ := behind
  obtain ⟨value, next, isTake, isValue, later, -⟩ := takeNextValue_of_follows follows
  have bounds : 1 ≤ value.toNat ∧ value.toNat ≤ 9999 :=
    isValue ▸ ⟨CyclicCounter.one_le_after _, CyclicCounter.after_le (by decide) _⟩
  obtain ⟨numericSsrc, parsed, -⟩ := (wellFormed_ssrcOf named_domainId bounds.1 bounds.2).number
  have take := @work_take ⟨sequences, quiet, .up, counted, returns⟩
    ⟨.realtime, "020000", counted .realtime, []⟩ _ _ (Nat.zero_lt_succ _) rfl isTake
  have counts : (Shared.take ⟨sequences, quiet, .up, counted, returns⟩ .realtime next).taken .realtime =
      counted .realtime + 1 := by
    simp [Shared.take]
  have final : Runs.final (step (work domainId)) ⟨⟨sequences, quiet, .up, counted, returns⟩, [stalled]⟩
      wholeCall = ⟨(Shared.take ⟨sequences, quiet, .up, counted, returns⟩ .realtime next).give .realtime
        (counted .realtime) [⟨ssrcOf "020000" value, counted .realtime, quiet, some quiet⟩]
        (.ok (ssrcOf "020000" value)), [stalled]⟩ := by
    rw [wholeCall, Runs.final_cons]
    change Runs.final _ (⟨_, [stalled, .allocate .realtime]⟩ : Pool Shared Task) _ = _
    rw [Runs.final_cons, step_second, work_allocate, Option.toList_some, Runs.final_cons, step_second, take,
      Option.toList_some, Runs.final_cons, step_second, work, parsed]
    rfl
  rw [final]
  refine ⟨⟨rfl, rfl, rfl, ?_⟩, counts, _, value, rfl, rfl, counts, isValue⟩
  change Follows 1 ((Shared.take _ .realtime next).taken .realtime) next "020000"
  rw [counts]
  exact later

/-- So many whole calls take so many values. -/
theorem behind_calls {pool : Pool Shared Task} (behind : Behind pool) (calls : Nat) :
    Behind (Runs.final (step (work domainId)) pool (List.replicate calls wholeCall).flatten) ∧
      (Runs.final (step (work domainId)) pool
        (List.replicate calls wholeCall).flatten).shared.taken .realtime =
        pool.shared.taken .realtime + calls := by
  induction calls with
  | zero => exact ⟨behind, rfl⟩
  | succ calls ih =>
      have more : (List.replicate (calls + 1) wholeCall).flatten =
          (List.replicate calls wholeCall).flatten ++ wholeCall := by
        rw [List.replicate_succ', List.flatten_append, List.flatten_singleton]
      rw [more, Runs.final_append]
      obtain ⟨next, counts, -⟩ := behind_wholeCall ih.1
      exact ⟨next, counts.trans (congrArg (· + 1) ih.2)⟩

/-- Then the call that was stalled goes on. -/
theorem stalled_returns {pool : Pool Shared Task} (behind : Behind pool) :
    ∃ return', (Runs.final (step (work domainId)) pool [.advance 0, .advance 0]).shared.returns =
        pool.shared.returns ++ [return'] ∧
      return'.result = .ok (ssrcOf "020000" 1) ∧ return'.ended = pool.shared.taken .realtime := by
  obtain ⟨⟨sequences, activity, database, counted, returns⟩, tasks⟩ := pool
  obtain ⟨rfl, rfl, rfl, -⟩ := behind
  obtain ⟨numericSsrc, parsed, -⟩ :=
    (@wellFormed_ssrcOf _ _ _ named_domainId 1 (by decide) (by decide)).number
  have look : work domainId ⟨sequences, quiet, .up, counted, returns⟩ stalled =
      (some (.checkDialogs ⟨.realtime, "020000", 0, []⟩ 0 1 quiet),
        ⟨sequences, quiet, .up, counted, returns⟩) := by
    rw [stalled, work, parsed]
    rfl
  have first : (step (work domainId) ⟨⟨sequences, quiet, .up, counted, returns⟩, [stalled]⟩ (.advance 0)).2 =
      ⟨⟨sequences, quiet, .up, counted, returns⟩,
        [.checkDialogs ⟨.realtime, "020000", 0, []⟩ 0 1 quiet]⟩ := by
    simp [step, look]
  rw [Runs.final_cons, first]
  exact ⟨_, rfl, rfl, rfl⟩

theorem behind_start :
    Behind (Runs.final (step (work domainId)) (start firstTable quiet)
      [.begin (.allocate .realtime), .advance 0, .advance 0]) ∧
      (Runs.final (step (work domainId)) (start firstTable quiet)
        [.begin (.allocate .realtime), .advance 0, .advance 0]).shared.taken .realtime = 1 := by
  have isFirst : firstValue domainId firstTable .realtime = 1 := by decide +kernel
  have follows := (@inv_start _ _ quiet accepted_firstTable).sequences .realtime "020000" named_domainId
  rw [isFirst] at follows
  obtain ⟨value, next, isTake, isValue, later, -⟩ := takeNextValue_of_follows follows
  have isOne : value = 1 := UInt16.toNat_inj.mp isValue
  subst isOne
  have take := @work_take (.init firstTable quiet) ⟨.realtime, "020000", 0, []⟩ _ _ (Nat.zero_lt_succ _)
    rfl isTake
  have counts : (Shared.take (.init firstTable quiet) .realtime next).taken .realtime = 1 := by
    simp [Shared.take, Shared.init]
  have first : (step (work domainId) ⟨.init firstTable quiet, [.allocate .realtime]⟩ (.advance 0)).2 =
      ⟨.init firstTable quiet, [.take ⟨.realtime, "020000", 0, []⟩]⟩ := by
    simp [step, work_allocate, Shared.init]
  have second : (step (work domainId) ⟨.init firstTable quiet, [.take ⟨.realtime, "020000", 0, []⟩]⟩
      (.advance 0)).2 = ⟨Shared.take (.init firstTable quiet) .realtime next, [stalled]⟩ := by
    simp [step, take]
    rfl
  have final : Runs.final (step (work domainId)) (start firstTable quiet)
      [.begin (.allocate .realtime), .advance 0, .advance 0] =
      ⟨Shared.take (.init firstTable quiet) .realtime next, [stalled]⟩ := by
    rw [Runs.final_cons]
    change Runs.final _ (⟨.init firstTable quiet, [.allocate .realtime]⟩ : Pool Shared Task) _ = _
    rw [Runs.final_cons, first, Runs.final_cons, second]
    rfl
  rw [final]
  refine ⟨⟨rfl, rfl, rfl, ?_⟩, counts⟩
  rw [counts]
  exact later

theorem returnsApart_overtaken :
    (∀ task, .begin task ∈ overtaken → task.Begins) ∧ Accepted domainId firstTable ∧
      ¬ReturnsApart (Runs.final (step (work domainId)) (start firstTable quiet) overtaken).shared := by
  refine ⟨?_, accepted_firstTable, ?_⟩
  · intro task member
    simp only [overtaken, List.mem_append, List.mem_flatten, List.mem_replicate] at member
    rcases member with (inFront | ⟨moves, ⟨-, rfl⟩, inCall⟩) | atEnd
    · simp at inFront
      rw [inFront]
      exact True.intro
    · simp [wholeCall] at inCall
      rw [inCall]
      exact True.intro
    · simp at atEnd
  · obtain ⟨behind, one⟩ := behind_start
    obtain ⟨whole, round⟩ := behind_calls behind 9998
    obtain ⟨last, counts, return', value, returned, isText, ended, isValue⟩ := behind_wholeCall whole
    obtain ⟨stalledReturn, stalledReturned, stalledText, stalledEnded⟩ := stalled_returns last
    rw [round, one] at isValue ended
    have isOne : value = 1 := UInt16.toNat_inj.mp isValue
    have more : List.replicate 9999 wholeCall = List.replicate 9998 wholeCall ++ [wholeCall] :=
      List.replicate_succ'
    intro apart
    rw [ReturnsApart, overtaken, Runs.final_append, Runs.final_append, more, List.flatten_append,
      List.flatten_singleton, Runs.final_append, stalledReturned, returned, List.pairwise_append] at apart
    have few := apart.2.2 return' (List.mem_append_right _ (List.mem_singleton_self _)) stalledReturn
      (List.mem_singleton_self _) _ (isOne ▸ isText) stalledText
    rw [ended, stalledEnded, counts, round, one] at few
    exact absurd few (by decide)

end Gmv.Session.SsrcSequence
