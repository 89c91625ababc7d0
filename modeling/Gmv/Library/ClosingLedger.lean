import Mathlib.Data.List.Nodup
import Mathlib.Logic.Function.Basic

/-!
# Numbered attempts to close a lane

A lane is opened, begins to close under a generation, hands out numbered attempts
one at a time, takes back those that failed, and is dropped; then it may be opened
again.  The module keeps the books of such a system from its events alone, and
shows that the books balance when every first begin brings a generation that was
not issued before.
-/

namespace Gmv.Library.ClosingLedger

variable {κ γ : Type} [DecidableEq κ] [DecidableEq γ]

/-- What an observer sees of one operation. -/
inductive Event (κ γ : Type) where
  | opened (id : κ)
  | dropped (id : κ)
  | begun (id : κ) (generation : γ)
  | handed (id : κ) (generation : γ) (seq : Nat)
  | failed (id : κ) (generation : γ) (seq : Nat)
  | quiet
  deriving DecidableEq, Repr

/-! ## The books -/

/-- The books of one lane: the generations named and the attempts handed out since
it was opened, those among them that have not failed, and the generations of its
earlier lives. -/
structure Log (γ : Type) where
  generations : List γ
  handed : List (γ × Nat)
  outstanding : List (γ × Nat)
  retired : List γ
  deriving DecidableEq, Repr

def Log.empty : Log γ := ⟨[], [], [], []⟩

def Log.record (id : κ) (log : Log γ) : Event κ γ → Log γ
  | .opened other => if other = id then ⟨[], [], [], log.retired ++ log.generations⟩ else log
  | .dropped other => if other = id then ⟨[], [], [], log.retired ++ log.generations⟩ else log
  | .begun other generation =>
      if other = id then { log with generations := log.generations ++ [generation] } else log
  | .handed other generation seq =>
      if other = id then
        { log with
          generations := log.generations ++ [generation]
          handed := log.handed ++ [(generation, seq)]
          outstanding := log.outstanding ++ [(generation, seq)] }
      else log
  | .failed other generation seq =>
      if other = id then { log with outstanding := log.outstanding.erase (generation, seq) }
      else log
  | .quiet => log

def logOf (id : κ) (events : List (Event κ γ)) : Log γ :=
  events.foldl (Log.record id) Log.empty

/-- The generations issued by begins. -/
def issuedIn (events : List (Event κ γ)) : List γ :=
  events.filterMap fun
    | .begun _ generation => some generation
    | _ => none

/-- All attempts handed out. -/
def handedIn (events : List (Event κ γ)) : List (γ × Nat) :=
  events.filterMap fun
    | .handed _ generation seq => some (generation, seq)
    | _ => none

/-- Books that show no attempt twice, rising numbers within one life of a lane, at
most one open attempt, and one generation. -/
structure Accounted (events : List (Event κ γ)) : Prop where
  unique : (handedIn events).Nodup
  rising : ∀ id, ((logOf id events).handed.map Prod.snd).Pairwise (· < ·)
  oneOpen : ∀ id, (logOf id events).outstanding.length ≤ 1
  oneGeneration : ∀ id, ∀ first ∈ (logOf id events).generations,
    ∀ second ∈ (logOf id events).generations, first = second

/-! ## The lanes -/

structure Lane (γ : Type) where
  generation : Option γ
  inflight : Option Nat
  seq : Nat
  deriving DecidableEq, Repr

abbrev Lanes (κ γ : Type) := κ → Option (Lane γ)

/-- What the lanes do under an event, after the events of the past. -/
inductive Moves (past : List (Event κ γ)) (lanes : Lanes κ γ) : Event κ γ → Lanes κ γ → Prop
  | opened {id : κ} {seq : Nat} (free : lanes id = none) :
      Moves past lanes (.opened id) (Function.update lanes id (some ⟨none, none, seq⟩))
  | dropped {id : κ} {lane : Lane γ} (held : lanes id = some lane) :
      Moves past lanes (.dropped id) (Function.update lanes id none)
  | first {id : κ} {lane : Lane γ} {generation : γ} (held : lanes id = some lane)
      (playing : lane.generation = none) (fresh : generation ∉ issuedIn past) :
      Moves past lanes (.begun id generation)
        (Function.update lanes id (some ⟨some generation, none, lane.seq⟩))
  | again {id : κ} {lane : Lane γ} {generation : γ} (held : lanes id = some lane)
      (closing : lane.generation = some generation) :
      Moves past lanes (.begun id generation) lanes
  | handed {id : κ} {lane : Lane γ} {generation : γ} {seq : Nat} (held : lanes id = some lane)
      (closing : lane.generation = some generation) (ready : lane.inflight = none)
      (higher : lane.seq < seq) :
      Moves past lanes (.handed id generation seq)
        (Function.update lanes id (some ⟨some generation, some seq, seq⟩))
  | failed {id : κ} {lane : Lane γ} {generation : γ} {seq : Nat} (held : lanes id = some lane)
      (closing : lane.generation = some generation) (pending : lane.inflight = some seq) :
      Moves past lanes (.failed id generation seq)
        (Function.update lanes id (some ⟨some generation, none, lane.seq⟩))
  | quiet : Moves past lanes .quiet lanes

/-! ## Balance -/

/-- The books of a lane that closes under a generation. -/
structure Agrees (log : Log γ) (lane : Lane γ) (generation : γ) : Prop where
  generations : ∀ named ∈ log.generations, named = generation
  handed : ∀ attempt ∈ log.handed, attempt.1 = generation ∧ attempt.2 ≤ lane.seq
  rising : (log.handed.map Prod.snd).Pairwise (· < ·)
  outstanding : log.outstanding = lane.inflight.toList.map fun seq => (generation, seq)

/-- The books of a lane that is down, or up and not closing. -/
structure Log.Idle (log : Log γ) : Prop where
  generations : log.generations = []
  handed : log.handed = []
  outstanding : log.outstanding = []

/-- The books and the lanes agree. -/
structure Balanced (events : List (Event κ γ)) (lanes : Lanes κ γ) : Prop where
  idle : ∀ id, (∀ lane, lanes id = some lane → lane.generation = none) → (logOf id events).Idle
  closing : ∀ id lane generation, lanes id = some lane → lane.generation = some generation →
    Agrees (logOf id events) lane generation
  issued : ∀ id lane generation, lanes id = some lane → lane.generation = some generation →
    generation ∈ issuedIn events
  apart : ∀ first second lane other generation, lanes first = some lane →
    lane.generation = some generation → lanes second = some other →
    other.generation = some generation → first = second
  retiredIssued : ∀ id, ∀ generation ∈ (logOf id events).retired, generation ∈ issuedIn events
  retiredGone : ∀ id, ∀ generation ∈ (logOf id events).retired, ∀ other lane,
    lanes other = some lane → lane.generation ≠ some generation
  handedIssued : ∀ attempt ∈ handedIn events, attempt.1 ∈ issuedIn events
  handedBelow : ∀ attempt ∈ handedIn events, ∀ id lane, lanes id = some lane →
    lane.generation = some attempt.1 → attempt.2 ≤ lane.seq
  unique : (handedIn events).Nodup

theorem balanced_nil : Balanced ([] : List (Event κ γ)) fun _ => none where
  idle _ _ := ⟨rfl, rfl, rfl⟩
  closing _ _ _ held := by cases held
  issued _ _ _ held := by cases held
  apart _ _ _ _ _ held := by cases held
  retiredIssued _ _ member := by cases member
  retiredGone _ _ member := by cases member
  handedIssued _ member := by cases member
  handedBelow _ member := by cases member
  unique := List.nodup_nil

theorem logOf_concat (id : κ) (events : List (Event κ γ)) (event : Event κ γ) :
    logOf id (events ++ [event]) = (logOf id events).record id event := by
  rw [logOf, List.foldl_append, List.foldl_cons, List.foldl_nil, logOf]

/-- The lane that an event is about. -/
def Event.lane : Event κ γ → Option κ
  | .opened id | .dropped id | .begun id _ | .handed id _ _ | .failed id _ _ => some id
  | .quiet => none

/-- An event leaves the books of the other lanes alone. -/
theorem logOf_concat_of_ne {event : Event κ γ} {id other : κ} {past : List (Event κ γ)}
    (about : event.lane = some id) (differs : other ≠ id) :
    logOf other (past ++ [event]) = logOf other past := by
  rw [logOf_concat]
  cases event with
  | quiet => cases about
  | _ =>
      cases about
      exact if_neg differs.symm

/-- An event that retires nothing of its own lane retires nothing. -/
theorem retired_concat {event : Event κ γ} {id : κ} {past : List (Event κ γ)}
    (about : event.lane = some id)
    (own : (logOf id (past ++ [event])).retired = (logOf id past).retired) (other : κ) :
    (logOf other (past ++ [event])).retired = (logOf other past).retired := by
  by_cases same : other = id
  · rw [same, own]
  · rw [logOf_concat_of_ne about same]

/-- The books of every lane pass an account that balances. -/
theorem Balanced.accounted {events : List (Event κ γ)} {lanes : Lanes κ γ}
    (balanced : Balanced events lanes) : Accounted events := by
  have cases : ∀ id, (logOf id events).Idle ∨
      ∃ lane generation, Agrees (logOf id events) lane generation := by
    intro id
    by_cases down : ∀ lane, lanes id = some lane → lane.generation = none
    · exact Or.inl (balanced.idle id down)
    · push Not at down
      obtain ⟨lane, held, closes⟩ := down
      obtain ⟨generation, closing⟩ := Option.ne_none_iff_exists'.mp closes
      exact Or.inr ⟨lane, generation, balanced.closing id lane generation held closing⟩
  refine ⟨balanced.unique, fun id => ?_, fun id => ?_, fun id => ?_⟩
  · rcases cases id with idle | ⟨lane, generation, agrees⟩
    · rw [idle.handed]
      exact List.Pairwise.nil
    · exact agrees.rising
  · rcases cases id with idle | ⟨lane, generation, agrees⟩
    · rw [idle.outstanding]
      exact Nat.zero_le 1
    · rw [agrees.outstanding, List.length_map]
      cases lane.inflight with
      | none => exact Nat.zero_le 1
      | some seq => exact Nat.le_refl 1
  · intro first isFirst second isSecond
    rcases cases id with idle | ⟨lane, generation, agrees⟩
    · rw [idle.generations] at isFirst
      cases isFirst
    · rw [agrees.generations first isFirst, agrees.generations second isSecond]

/-! ## Events keep the balance -/

section

variable {log : Log γ} {lane : Lane γ} {generation : γ}

omit [DecidableEq γ] in
theorem Agrees.generations_concat (agrees : Agrees log lane generation) :
    ∀ named ∈ log.generations ++ [generation], named = generation := by
  intro named member
  rcases List.mem_append.mp member with earlier | isLast
  · exact agrees.generations named earlier
  · exact List.mem_singleton.mp isLast

omit [DecidableEq γ] in
/-- The books of a lane that begins to close. -/
theorem Log.Idle.begun (idle : log.Idle) {seq : Nat} :
    Agrees { log with generations := log.generations ++ [generation] }
      ⟨some generation, none, seq⟩ generation := by
  refine ⟨fun named member => ?_, fun attempt member => ?_, ?_, idle.outstanding⟩
  · rw [idle.generations] at member
    exact List.mem_singleton.mp member
  · rw [idle.handed] at member
    cases member
  · rw [idle.handed]
    exact List.Pairwise.nil

omit [DecidableEq γ] in
/-- The books of a lane that hands out its next attempt. -/
theorem Agrees.hand (agrees : Agrees log lane generation) {seq : Nat}
    (ready : lane.inflight = none) (higher : lane.seq < seq) :
    Agrees { log with
      generations := log.generations ++ [generation]
      handed := log.handed ++ [(generation, seq)]
      outstanding := log.outstanding ++ [(generation, seq)] }
      ⟨some generation, some seq, seq⟩ generation := by
  refine ⟨agrees.generations_concat, fun attempt member => ?_, ?_, ?_⟩
  · rcases List.mem_append.mp member with earlier | isLast
    · obtain ⟨named, below⟩ := agrees.handed attempt earlier
      exact ⟨named, Nat.le_trans below (Nat.le_of_lt higher)⟩
    · rw [List.mem_singleton.mp isLast]
      exact ⟨rfl, Nat.le_refl _⟩
  · rw [List.map_append, List.pairwise_append]
    refine ⟨agrees.rising, List.pairwise_singleton _ _, ?_⟩
    intro earlier member last isLast
    obtain ⟨attempt, inHanded, rfl⟩ := List.mem_map.mp member
    rw [List.mem_singleton.mp isLast]
    exact Nat.lt_of_le_of_lt (agrees.handed attempt inHanded).2 higher
  · rw [agrees.outstanding, ready]
    rfl

end

section

variable {past : List (Event κ γ)} {lanes : Lanes κ γ}

omit [DecidableEq κ] [DecidableEq γ] in
theorem mem_issuedIn_concat {event : Event κ γ} {generation : γ} :
    generation ∈ issuedIn (past ++ [event]) ↔
      generation ∈ issuedIn past ∨ ∃ id, event = .begun id generation := by
  cases event <;> simp [issuedIn, eq_comm]

omit [DecidableEq κ] [DecidableEq γ] in
theorem issuedIn_mono {event : Event κ γ} {generation : γ} (member : generation ∈ issuedIn past) :
    generation ∈ issuedIn (past ++ [event]) := mem_issuedIn_concat.mpr (Or.inl member)

omit [DecidableEq κ] [DecidableEq γ] in
theorem handedIn_concat (event : Event κ γ) :
    handedIn (past ++ [event]) = handedIn past ++ handedIn [event] := by
  simp [handedIn]

/-- Every lane that closes was closing under the same generation before, and its
number has not fallen. -/
def Continues (lanes next : Lanes κ γ) : Prop :=
  ∀ id lane generation, next id = some lane → lane.generation = some generation →
    ∃ old, lanes id = some old ∧ old.generation = some generation ∧ old.seq ≤ lane.seq

omit [DecidableEq κ] [DecidableEq γ] in
theorem Continues.refl (lanes : Lanes κ γ) : Continues lanes lanes :=
  fun _ lane _ held closing => ⟨lane, held, closing, Nat.le_refl _⟩

omit [DecidableEq γ] in
theorem Continues.update {id : κ} {replaced : Option (Lane γ)}
    (continues : ∀ lane generation, replaced = some lane → lane.generation = some generation →
      ∃ old, lanes id = some old ∧ old.generation = some generation ∧ old.seq ≤ lane.seq) :
    Continues lanes (Function.update lanes id replaced) := by
  intro other lane generation held closing
  rw [Function.update_apply] at held
  split at held
  · rename_i same
    rw [same]
    exact continues lane generation held closing
  · exact ⟨lane, held, closing, Nat.le_refl _⟩

section

variable {event : Event κ γ} {next : Lanes κ γ}

theorem Balanced.issued_of_continues (balanced : Balanced past lanes)
    (continues : Continues lanes next) {id : κ} {lane : Lane γ} {generation : γ}
    (held : next id = some lane) (closing : lane.generation = some generation) :
    generation ∈ issuedIn (past ++ [event]) := by
  obtain ⟨old, oldHeld, oldClosing, _⟩ := continues id lane generation held closing
  exact issuedIn_mono (balanced.issued id old generation oldHeld oldClosing)

theorem Balanced.apart_of_continues (balanced : Balanced past lanes)
    (continues : Continues lanes next) (first second : κ) (lane other : Lane γ) (generation : γ)
    (held : next first = some lane) (closing : lane.generation = some generation)
    (otherHeld : next second = some other) (otherClosing : other.generation = some generation) :
    first = second := by
  obtain ⟨old, oldHeld, oldClosing, _⟩ := continues first lane generation held closing
  obtain ⟨older, olderHeld, olderClosing, _⟩ :=
    continues second other generation otherHeld otherClosing
  exact balanced.apart first second old older generation oldHeld oldClosing olderHeld olderClosing

theorem Balanced.gone_of_continues (balanced : Balanced past lanes)
    (continues : Continues lanes next) {id : κ} {generation : γ}
    (retired : generation ∈ (logOf id past).retired) (other : κ) (lane : Lane γ)
    (held : next other = some lane) : lane.generation ≠ some generation := by
  intro closing
  obtain ⟨old, oldHeld, oldClosing, _⟩ := continues other lane generation held closing
  exact balanced.retiredGone id generation retired other old oldHeld oldClosing

theorem Balanced.below_of_continues (balanced : Balanced past lanes)
    (continues : Continues lanes next) {attempt : γ × Nat} (member : attempt ∈ handedIn past)
    (id : κ) (lane : Lane γ) (held : next id = some lane)
    (closing : lane.generation = some attempt.1) : attempt.2 ≤ lane.seq := by
  obtain ⟨old, oldHeld, oldClosing, risen⟩ := continues id lane attempt.1 held closing
  exact Nat.le_trans (balanced.handedBelow attempt member id old oldHeld oldClosing) risen

/-- An event that issues nothing new, hands out nothing and retires nothing keeps the
balance when it keeps the books of every lane. -/
theorem Balanced.frame (balanced : Balanced past lanes) (continues : Continues lanes next)
    (nothing : handedIn [event] = [])
    (retired : ∀ id, (logOf id (past ++ [event])).retired = (logOf id past).retired)
    (idle : ∀ id, (∀ lane, next id = some lane → lane.generation = none) →
      (logOf id (past ++ [event])).Idle)
    (closing : ∀ id lane generation, next id = some lane → lane.generation = some generation →
      Agrees (logOf id (past ++ [event])) lane generation) :
    Balanced (past ++ [event]) next := by
  have attempts : handedIn (past ++ [event]) = handedIn past := by
    rw [handedIn_concat, nothing, List.append_nil]
  refine ⟨idle, closing, fun id lane generation held closing =>
    balanced.issued_of_continues continues held closing,
    balanced.apart_of_continues continues, ?_, ?_, ?_, ?_, ?_⟩
  · intro id generation member
    rw [retired] at member
    exact issuedIn_mono (balanced.retiredIssued id generation member)
  · intro id generation member
    rw [retired] at member
    exact balanced.gone_of_continues continues member
  · intro attempt member
    rw [attempts] at member
    exact issuedIn_mono (balanced.handedIssued attempt member)
  · intro attempt member
    rw [attempts] at member
    exact balanced.below_of_continues continues member
  · rw [attempts]
    exact balanced.unique

end

theorem Balanced.quiet (balanced : Balanced past lanes) : Balanced (past ++ [.quiet]) lanes := by
  have books : ∀ id, logOf id (past ++ [.quiet]) = logOf id past :=
    fun id => logOf_concat id past .quiet
  refine balanced.frame (Continues.refl lanes) rfl (fun id => by rw [books]) ?_ ?_
  · intro id
    rw [books]
    exact balanced.idle id
  · intro id
    rw [books]
    exact balanced.closing id

/-- The books of an event that touches one lane, from the books of that lane. -/
theorem Balanced.books_of_touched (balanced : Balanced past lanes) {event : Event κ γ} {id : κ}
    (about : event.lane = some id) (replaced : Option (Lane γ))
    (idle : (∀ lane, replaced = some lane → lane.generation = none) →
      (logOf id (past ++ [event])).Idle)
    (closing : ∀ lane generation, replaced = some lane → lane.generation = some generation →
      Agrees (logOf id (past ++ [event])) lane generation) :
    (∀ other, (∀ lane, Function.update lanes id replaced other = some lane →
        lane.generation = none) → (logOf other (past ++ [event])).Idle) ∧
      ∀ other lane generation, Function.update lanes id replaced other = some lane →
        lane.generation = some generation →
        Agrees (logOf other (past ++ [event])) lane generation := by
  constructor
  · intro other down
    by_cases same : other = id
    · subst same
      rw [Function.update_self] at down
      exact idle down
    · rw [Function.update_of_ne same] at down
      rw [logOf_concat_of_ne about same]
      exact balanced.idle other down
  · intro other lane generation held closes
    by_cases same : other = id
    · subst same
      rw [Function.update_self] at held
      exact closing lane generation held closes
    · rw [Function.update_of_ne same] at held
      rw [logOf_concat_of_ne about same]
      exact balanced.closing other lane generation held closes

theorem Balanced.opened (balanced : Balanced past lanes) {id : κ} {seq : Nat}
    (free : lanes id = none) :
    Balanced (past ++ [.opened id]) (Function.update lanes id (some ⟨none, none, seq⟩)) := by
  have idle : (logOf id past).Idle := balanced.idle id fun lane held => by
    rw [free] at held
    cases held
  have own : logOf id (past ++ [.opened id]) = ⟨[], [], [], (logOf id past).retired⟩ := by
    rw [logOf_concat, Log.record, if_pos rfl, idle.generations, List.append_nil]
  obtain ⟨idles, closings⟩ := balanced.books_of_touched rfl (some ⟨none, none, seq⟩)
    (fun _ => by rw [own]; exact ⟨rfl, rfl, rfl⟩)
    (fun lane generation same closes => by
      cases same
      cases closes)
  refine balanced.frame (Continues.update fun lane generation same closing => ?_) rfl
    (retired_concat rfl (by rw [own])) idles closings
  cases same
  cases closing

/-- A lane that is dropped takes its generation with it. -/
theorem Balanced.dropped (balanced : Balanced past lanes) {id : κ} {lane : Lane γ}
    (held : lanes id = some lane) :
    Balanced (past ++ [.dropped id]) (Function.update lanes id none) := by
  have own : logOf id (past ++ [.dropped id]) =
      ⟨[], [], [], (logOf id past).retired ++ (logOf id past).generations⟩ := by
    rw [logOf_concat, Log.record, if_pos rfl]
  have others : ∀ other, other ≠ id → logOf other (past ++ [.dropped id]) = logOf other past :=
    fun other differs => logOf_concat_of_ne rfl differs
  have continues : Continues lanes (Function.update lanes id none) :=
    Continues.update fun lane generation same => by cases same
  -- What is retired now was the generation of the lane itself.
  have named : ∀ generation ∈ (logOf id past).generations, lane.generation = some generation := by
    intro generation member
    cases closing : lane.generation with
    | none =>
        have idle := balanced.idle id fun other sameLane => by
          rw [held] at sameLane
          cases sameLane
          exact closing
        rw [idle.generations] at member
        cases member
    | some current =>
        rw [(balanced.closing id lane current held closing).generations generation member]
  have attempts : handedIn (past ++ [.dropped id]) = handedIn past := by
    rw [handedIn_concat]
    exact List.append_nil _
  obtain ⟨idles, closings⟩ := balanced.books_of_touched rfl none
    (fun _ => by rw [own]; exact ⟨rfl, rfl, rfl⟩)
    (fun other generation same _ => by cases same)
  refine ⟨idles, closings, fun id lane generation held closing =>
    balanced.issued_of_continues continues held closing,
    balanced.apart_of_continues continues, ?_, ?_, ?_, ?_, ?_⟩
  · intro other generation member
    by_cases same : other = id
    · rw [same, own] at member
      rcases List.mem_append.mp member with earlier | current
      · exact issuedIn_mono (balanced.retiredIssued id generation earlier)
      · exact issuedIn_mono (balanced.issued id lane generation held (named generation current))
    · rw [others other same] at member
      exact issuedIn_mono (balanced.retiredIssued other generation member)
  · intro other generation member holder next nextHeld
    by_cases same : other = id
    · rw [same, own] at member
      rcases List.mem_append.mp member with earlier | current
      · exact balanced.gone_of_continues continues earlier holder next nextHeld
      · intro closing
        by_cases self : holder = id
        · rw [self, Function.update_self] at nextHeld
          cases nextHeld
        · rw [Function.update_of_ne self] at nextHeld
          exact self (balanced.apart holder id next lane generation nextHeld closing held
            (named generation current))
    · rw [others other same] at member
      exact balanced.gone_of_continues continues member holder next nextHeld
  · intro attempt member
    rw [attempts] at member
    exact issuedIn_mono (balanced.handedIssued attempt member)
  · intro attempt member
    rw [attempts] at member
    exact balanced.below_of_continues continues member
  · rw [attempts]
    exact balanced.unique

theorem Balanced.again (balanced : Balanced past lanes) {id : κ} {lane : Lane γ} {generation : γ}
    (held : lanes id = some lane) (closing : lane.generation = some generation) :
    Balanced (past ++ [.begun id generation]) lanes := by
  have agrees := balanced.closing id lane generation held closing
  have own : logOf id (past ++ [.begun id generation]) =
      { logOf id past with generations := (logOf id past).generations ++ [generation] } := by
    rw [logOf_concat, Log.record, if_pos rfl]
  have unchanged : Function.update lanes id (some lane) = lanes := by
    rw [← held, Function.update_eq_self]
  obtain ⟨idles, closings⟩ := balanced.books_of_touched rfl (some lane)
    (fun down => by
      rw [down lane rfl] at closing
      cases closing)
    (fun other current same closes => by
      cases same
      rw [closing] at closes
      cases closes
      rw [own]
      exact { agrees with generations := agrees.generations_concat })
  rw [unchanged] at idles closings
  exact balanced.frame (Continues.refl lanes) rfl (retired_concat rfl (by rw [own])) idles closings

theorem Balanced.failed (balanced : Balanced past lanes) {id : κ} {lane : Lane γ} {generation : γ}
    {seq : Nat} (held : lanes id = some lane) (closing : lane.generation = some generation)
    (pending : lane.inflight = some seq) :
    Balanced (past ++ [.failed id generation seq])
      (Function.update lanes id (some ⟨some generation, none, lane.seq⟩)) := by
  have agrees := balanced.closing id lane generation held closing
  have own : logOf id (past ++ [.failed id generation seq]) =
      { logOf id past with
        outstanding := (logOf id past).outstanding.erase (generation, seq) } := by
    rw [logOf_concat, Log.record, if_pos rfl]
  obtain ⟨idles, closings⟩ := balanced.books_of_touched rfl
    (some ⟨some generation, none, lane.seq⟩)
    (fun down => by cases down _ rfl)
    (fun other current same closes => by
      cases same
      cases closes
      rw [own]
      refine ⟨agrees.generations, agrees.handed, agrees.rising, ?_⟩
      rw [agrees.outstanding, pending]
      simp)
  refine balanced.frame (Continues.update fun other current same closes => ?_) rfl
    (retired_concat rfl (by rw [own])) idles closings
  cases same
  cases closes
  exact ⟨lane, held, closing, Nat.le_refl _⟩

/-- A first begin under a generation that was never issued. -/
theorem Balanced.first (balanced : Balanced past lanes) {id : κ} {lane : Lane γ} {generation : γ}
    (held : lanes id = some lane) (playing : lane.generation = none)
    (fresh : generation ∉ issuedIn past) :
    Balanced (past ++ [.begun id generation])
      (Function.update lanes id (some ⟨some generation, none, lane.seq⟩)) := by
  have idle : (logOf id past).Idle := balanced.idle id fun other sameLane => by
    rw [held] at sameLane
    cases sameLane
    exact playing
  have own : logOf id (past ++ [.begun id generation]) =
      { logOf id past with generations := (logOf id past).generations ++ [generation] } := by
    rw [logOf_concat, Log.record, if_pos rfl]
  have retired : ∀ other,
      (logOf other (past ++ [.begun id generation])).retired = (logOf other past).retired :=
    retired_concat rfl (by rw [own])
  have attempts : handedIn (past ++ [.begun id generation]) = handedIn past := by
    rw [handedIn_concat]
    exact List.append_nil _
  obtain ⟨idles, closings⟩ := balanced.books_of_touched rfl
    (some ⟨some generation, none, lane.seq⟩) (fun down => by cases down _ rfl)
    (fun other current same closes => by
      cases same
      cases closes
      rw [own]
      exact idle.begun)
  -- A lane that closes after the event is the new one or was closing before.
  have origin : ∀ other next current,
      Function.update lanes id (some ⟨some generation, none, lane.seq⟩) other = some next →
      next.generation = some current →
      (other = id ∧ current = generation) ∨ (other ≠ id ∧ lanes other = some next) := by
    intro other next current nextHeld closes
    by_cases same : other = id
    · rw [same, Function.update_self] at nextHeld
      cases nextHeld
      cases closes
      exact Or.inl ⟨same, rfl⟩
    · rw [Function.update_of_ne same] at nextHeld
      exact Or.inr ⟨same, nextHeld⟩
  refine ⟨idles, closings, ?_, ?_, ?_, ?_, ?_, ?_, ?_⟩
  · intro other next current nextHeld closes
    rcases origin other next current nextHeld closes with ⟨_, rfl⟩ | ⟨_, before⟩
    · exact mem_issuedIn_concat.mpr (Or.inr ⟨id, rfl⟩)
    · exact issuedIn_mono (balanced.issued other next current before closes)
  · intro left right leftLane rightLane current leftHeld leftCloses rightHeld rightCloses
    rcases origin left leftLane current leftHeld leftCloses with ⟨isId, named⟩ | ⟨_, leftBefore⟩
    · rcases origin right rightLane current rightHeld rightCloses with
        ⟨alsoId, _⟩ | ⟨_, rightBefore⟩
      · rw [isId, alsoId]
      · rw [named] at rightCloses
        exact absurd (balanced.issued right rightLane generation rightBefore rightCloses) fresh
    · rcases origin right rightLane current rightHeld rightCloses with
        ⟨_, named⟩ | ⟨_, rightBefore⟩
      · rw [named] at leftCloses
        exact absurd (balanced.issued left leftLane generation leftBefore leftCloses) fresh
      · exact balanced.apart left right leftLane rightLane current leftBefore leftCloses
          rightBefore rightCloses
  · intro other current member
    rw [retired] at member
    exact issuedIn_mono (balanced.retiredIssued other current member)
  · intro other current member holder next nextHeld closes
    rw [retired] at member
    rcases origin holder next current nextHeld closes with ⟨_, named⟩ | ⟨_, before⟩
    · rw [named] at member
      exact fresh (balanced.retiredIssued other generation member)
    · exact balanced.retiredGone other current member holder next before closes
  · intro attempt member
    rw [attempts] at member
    exact issuedIn_mono (balanced.handedIssued attempt member)
  · intro attempt member other next nextHeld closes
    rw [attempts] at member
    rcases origin other next attempt.1 nextHeld closes with ⟨_, named⟩ | ⟨_, before⟩
    · have known := balanced.handedIssued attempt member
      rw [named] at known
      exact absurd known fresh
    · exact balanced.handedBelow attempt member other next before closes
  · rw [attempts]
    exact balanced.unique

/-- An attempt with a higher number than all those of its generation. -/
theorem Balanced.handed (balanced : Balanced past lanes) {id : κ} {lane : Lane γ} {generation : γ}
    {seq : Nat} (held : lanes id = some lane) (closing : lane.generation = some generation)
    (ready : lane.inflight = none) (higher : lane.seq < seq) :
    Balanced (past ++ [.handed id generation seq])
      (Function.update lanes id (some ⟨some generation, some seq, seq⟩)) := by
  have agrees := balanced.closing id lane generation held closing
  have own : logOf id (past ++ [.handed id generation seq]) =
      { logOf id past with
        generations := (logOf id past).generations ++ [generation]
        handed := (logOf id past).handed ++ [(generation, seq)]
        outstanding := (logOf id past).outstanding ++ [(generation, seq)] } := by
    rw [logOf_concat, Log.record, if_pos rfl]
  have retired : ∀ other,
      (logOf other (past ++ [.handed id generation seq])).retired = (logOf other past).retired :=
    retired_concat rfl (by rw [own])
  have attempts : handedIn (past ++ [.handed id generation seq]) =
      handedIn past ++ [(generation, seq)] := handedIn_concat _
  have continues : Continues lanes
      (Function.update lanes id (some ⟨some generation, some seq, seq⟩)) :=
    Continues.update fun other current same closes => by
      cases same
      cases closes
      exact ⟨lane, held, closing, Nat.le_of_lt higher⟩
  obtain ⟨idles, closings⟩ := balanced.books_of_touched rfl
    (some ⟨some generation, some seq, seq⟩) (fun down => by cases down _ rfl)
    (fun other current same closes => by
      cases same
      cases closes
      rw [own]
      exact agrees.hand ready higher)
  refine ⟨idles, closings, fun id lane generation held closing =>
    balanced.issued_of_continues continues held closing,
    balanced.apart_of_continues continues, ?_, ?_, ?_, ?_, ?_⟩
  · intro other current member
    rw [retired] at member
    exact issuedIn_mono (balanced.retiredIssued other current member)
  · intro other current member
    rw [retired] at member
    exact balanced.gone_of_continues continues member
  · intro attempt member
    rw [attempts] at member
    rcases List.mem_append.mp member with earlier | isLast
    · exact issuedIn_mono (balanced.handedIssued attempt earlier)
    · rw [List.mem_singleton.mp isLast]
      exact issuedIn_mono (balanced.issued id lane generation held closing)
  · intro attempt member other next nextHeld closes
    rw [attempts] at member
    rcases List.mem_append.mp member with earlier | isLast
    · exact balanced.below_of_continues continues earlier other next nextHeld closes
    · rw [List.mem_singleton.mp isLast] at closes ⊢
      obtain ⟨old, oldHeld, oldCloses, _⟩ := continues other next generation nextHeld closes
      have isId := balanced.apart other id old lane generation oldHeld oldCloses held closing
      rw [isId, Function.update_self] at nextHeld
      cases nextHeld
      exact Nat.le_refl _
  · rw [attempts, List.nodup_append]
    refine ⟨balanced.unique, List.nodup_singleton _, fun attempt member last isLast same => ?_⟩
    rw [List.mem_singleton.mp isLast] at same
    have below := balanced.handedBelow attempt member id lane held (by rw [same]; exact closing)
    rw [same] at below
    exact absurd higher (Nat.not_lt.mpr below)

/-- Every move keeps the balance. -/
theorem Balanced.moves {event : Event κ γ} {next : Lanes κ γ} (balanced : Balanced past lanes)
    (moves : Moves past lanes event next) : Balanced (past ++ [event]) next := by
  cases moves with
  | opened free => exact balanced.opened free
  | dropped held => exact balanced.dropped held
  | first held playing fresh => exact balanced.first held playing fresh
  | again held closing => exact balanced.again held closing
  | handed held closing ready higher => exact balanced.handed held closing ready higher
  | failed held closing pending => exact balanced.failed held closing pending
  | quiet => exact balanced.quiet

end

end Gmv.Library.ClosingLedger
