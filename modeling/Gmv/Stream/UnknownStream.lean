import Gmv.Library.TaskPool
import Mathlib.Data.List.Perm.Subperm

/-!
# Unknown streams

The packets of one key that belongs to no registered stream.  The node counts them in
an observation, tells of the stream when they keep coming, and forgets the observation
when they stop.  Each packet and each expiry reads the clock first and works on the map
afterwards, and an expiry decides in one operation of the map and removes in another.
The scheduler may hand out an expiry at any time, so what is put into it is left out.
-/

namespace Gmv.Stream.UnknownStream

open Gmv.Library Gmv.Library.TaskPool

def confirmMs : Nat := 2000
def minPackets : Nat := 3
def cooldownMs : Nat := 30000
def expireMs : Nat := 30000

/-- `saturating_add(1)` on 64 bits. -/
def saturatingSucc64 (count : Nat) : Nat := if count = 18446744073709551615 then count else count + 1

/-- What the node remembers of a key; zero stands for a stream it has not told of. -/
structure UnknownStreamObservation where
  firstSeenAtMs : Nat
  lastSeenAtMs : Nat
  packetCount : Nat
  lastNotifyAtMs : Nat
  deriving DecidableEq, Repr

/-- The part of the event that the key does not fix. -/
structure UnknownStreamEvent where
  firstSeenAtMs : Nat
  lastSeenAtMs : Nat
  packetCount : Nat
  deriving DecidableEq, Repr

namespace UnknownStreamObservation

def observe (observation : UnknownStreamObservation) (nowMs : Nat) :
    Bool × UnknownStreamObservation :=
  let seen := { observation with
    lastSeenAtMs := nowMs
    packetCount := saturatingSucc64 observation.packetCount }
  if (minPackets ≤ seen.packetCount ∧ confirmMs ≤ nowMs - seen.firstSeenAtMs) ∧
      (seen.lastNotifyAtMs = 0 ∨ cooldownMs ≤ nowMs - seen.lastNotifyAtMs) then
    (true, { seen with lastNotifyAtMs := nowMs })
  else (false, seen)

def idleMs (observation : UnknownStreamObservation) (nowMs : Nat) : Nat :=
  nowMs - observation.lastSeenAtMs

def event (observation : UnknownStreamObservation) : UnknownStreamEvent :=
  ⟨observation.firstSeenAtMs, observation.lastSeenAtMs, observation.packetCount⟩

end UnknownStreamObservation

/-- The clock, the entry of the key, the times at which its packets reached the map, and
the events that were sent. -/
structure State where
  clock : Nat
  observation : Option UnknownStreamObservation
  packets : List Nat
  sent : List UnknownStreamEvent
  deriving DecidableEq, Repr

def init (clock : Nat) : State := ⟨clock, none, [], []⟩

/-- What a call has still to do, by its next operation.  A call that sends knows whether
the event queue will have room. -/
inductive Task where
  | tick (ms : Nat)
  | observe (room : Bool)
  | observeEntry (now : Nat) (room : Bool)
  | send (event : UnknownStreamEvent) (room : Bool)
  | expire
  | expireGet (now : Nat)
  | expireRemove
  deriving DecidableEq, Repr

def work (state : State) : Task → Option Task × State
  | .tick ms => (none, { state with clock := state.clock + ms })
  | .observe room => (some (.observeEntry state.clock room), state)
  | .observeEntry now room =>
      let packets := state.packets ++ [state.clock]
      match state.observation with
      | none => (none, { state with observation := some ⟨now, now, 1, 0⟩, packets := packets })
      | some observation =>
          let (notify, observation) := observation.observe now
          (if notify then some (.send observation.event room) else none,
            { state with observation := some observation, packets := packets })
  | .send event room => (none, if room then { state with sent := state.sent ++ [event] } else state)
  | .expire => (some (.expireGet state.clock), state)
  | .expireGet now =>
      match state.observation with
      | none => (none, state)
      | some observation =>
          (if expireMs ≤ observation.idleMs now then some .expireRemove else none, state)
  | .expireRemove => (none, { state with observation := none })

/-- The calls; every other task is the rest of one. -/
def Task.isCall : Task → Bool
  | .tick _ | .observe _ | .expire => true
  | _ => false

/-- The packets that reached the map at a time or later. -/
def State.packetsSince (state : State) (time : Nat) : Nat :=
  state.packets.countP (time ≤ ·)

/-- The packets kept coming, for long enough and often enough. -/
def State.Confirms (state : State) (event : UnknownStreamEvent) : Prop :=
  minPackets ≤ state.packetsSince event.firstSeenAtMs ∧
    event.firstSeenAtMs + confirmMs ≤ event.lastSeenAtMs

def Apart (first second : UnknownStreamEvent) : Prop :=
  first.lastSeenAtMs + cooldownMs ≤ second.lastSeenAtMs ∨
    second.lastSeenAtMs + cooldownMs ≤ first.lastSeenAtMs

instance : DecidableRel Apart := fun _ _ => inferInstanceAs (Decidable (_ ∨ _))

/-- When the entry that is in the map was last told of. -/
def State.notifiedAt (state : State) : Option Nat :=
  (state.observation.map UnknownStreamObservation.lastNotifyAtMs).filter (· ≠ 0)

/-- The reading of the clock that a packet on its way to the map carries. -/
def Task.reading : Task → Option Nat
  | .observeEntry now _ => some now
  | _ => none

/-- No packet that is still to come can be observed before a time. -/
def Ahead (pool : Pool State Task) (time : Nat) : Prop :=
  time ≤ pool.shared.clock ∧ ∀ task ∈ pool.tasks, ∀ now ∈ task.reading, time ≤ now

instance (pool : Pool State Task) (time : Nat) : Decidable (Ahead pool time) :=
  inferInstanceAs (Decidable (_ ∧ _))

/-- A removal leaves the cooldown of the removed entry to its end: with the time that a
new entry takes to be confirmed, it is over for every packet to come. -/
def RemovesCooled (pool : Pool State Task) (task : Task) : Prop :=
  task = .expireRemove → ∀ notifiedAt ∈ pool.shared.notifiedAt,
    Ahead pool (notifiedAt + cooldownMs - confirmMs)

instance (pool : Pool State Task) (task : Task) : Decidable (RemovesCooled pool task) :=
  inferInstanceAs (Decidable (_ → _))

/-! ## What an operation does -/

theorem UnknownStreamObservation.observe_cases (observation : UnknownStreamObservation)
    (nowMs : Nat) :
    (∃ next, observation.observe nowMs = (false, next) ∧
      next.firstSeenAtMs = observation.firstSeenAtMs ∧
      next.packetCount = saturatingSucc64 observation.packetCount ∧
      next.lastNotifyAtMs = observation.lastNotifyAtMs) ∨
    (∃ next, observation.observe nowMs = (true, next) ∧
      next.firstSeenAtMs = observation.firstSeenAtMs ∧
      next.packetCount = saturatingSucc64 observation.packetCount ∧
      next.lastNotifyAtMs = nowMs ∧ next.lastSeenAtMs = nowMs ∧
      minPackets ≤ next.packetCount ∧ next.firstSeenAtMs + confirmMs ≤ nowMs ∧
      (observation.lastNotifyAtMs = 0 ∨ observation.lastNotifyAtMs + cooldownMs ≤ nowMs)) := by
  simp only [observe]
  split
  · rename_i due
    obtain ⟨⟨enough, long⟩, cooled⟩ := due
    have since : observation.firstSeenAtMs + confirmMs ≤ nowMs := by
      simp only [confirmMs] at long ⊢
      omega
    exact Or.inr ⟨_, rfl, rfl, rfl, rfl, rfl, enough, since,
      cooled.imp_right fun apart => by simp only [cooldownMs] at apart ⊢; omega⟩
  · exact Or.inl ⟨_, rfl, rfl, rfl, rfl⟩

theorem saturatingSucc64_le (count : Nat) : saturatingSucc64 count ≤ count + 1 := by
  rw [saturatingSucc64]
  split <;> omega

theorem expireGet_cases (state : State) (now : Nat) :
    work state (.expireGet now) = (none, state) ∨
      work state (.expireGet now) = (some .expireRemove, state) := by
  simp only [work]
  split
  · exact Or.inl rfl
  · split
    · exact Or.inr rfl
    · exact Or.inl rfl

/-- The event that a task is about to send. -/
def Task.tells : Task → Option UnknownStreamEvent
  | .send event _ => some event
  | _ => none

/-- The events that were sent or are about to be. -/
def told (pool : Pool State Task) : List UnknownStreamEvent :=
  pool.shared.sent ++ pool.tasks.filterMap Task.tells

theorem silent_of_isCall {task : Task} (calls : task.isCall = true) : task.reading = none := by
  cases task <;> first | rfl | cases calls

theorem tells_of_isCall {task : Task} (calls : task.isCall = true) : task.tells = none := by
  cases task <;> first | rfl | cases calls

section Steps

variable {state next : State} {earlier later : List Task} {task : Task} {rest : Option Task}
  {time : Nat}

theorem told_perm : (told ⟨state, earlier ++ task :: later⟩).Perm
    (state.sent ++ task.tells.toList ++ (earlier ++ later).filterMap Task.tells) := by
  rw [List.append_assoc state.sent]
  exact (held_perm Task.tells).append_left _

theorem told_advanced_perm : (told ⟨next, earlier ++ rest.toList ++ later⟩).Perm
    (next.sent ++ (rest.bind Task.tells).toList ++ (earlier ++ later).filterMap Task.tells) := by
  rw [List.append_assoc next.sent]
  exact (held_advanced_perm Task.tells).append_left _

theorem unread {bound : Nat → Prop} (silent : rest.bind Task.reading = none) :
    ∀ now ∈ rest.bind Task.reading, bound now := by
  rw [silent]
  exact fun _ isReading => by cases isReading

/-- An operation that decides on no event leaves the events as they are, or loses one. -/
theorem told_kept (sends : (next.sent ++ (rest.bind Task.tells).toList).Sublist
    (state.sent ++ task.tells.toList)) :
    (told ⟨next, earlier ++ rest.toList ++ later⟩).Subperm
      (told ⟨state, earlier ++ task :: later⟩) := by
  rw [told_advanced_perm.subperm_right, told_perm.subperm_left]
  exact (sends.append_right _).subperm

/-- A packet that is told of adds its event. -/
theorem told_observed (packet : UnknownStreamObservation) (now : Nat) (room : Bool) :
    (told ⟨{ state with observation := some packet, packets := state.packets ++ [state.clock] },
      earlier ++ (some (Task.send packet.event room)).toList ++ later⟩).Perm
      (packet.event :: told ⟨state, earlier ++ .observeEntry now room :: later⟩) := by
  refine told_advanced_perm.trans (List.Perm.trans ?_ (told_perm.symm.cons packet.event))
  simp only [Option.bind_some, Task.tells, Option.toList_some, Option.toList_none, List.append_nil,
    List.append_assoc, List.singleton_append]
  exact List.perm_middle

theorem told_begin (calls : task.isCall = true) :
    told ⟨state, earlier ++ [task]⟩ = told ⟨state, earlier⟩ := by
  rw [told, List.filterMap_append, List.filterMap_cons_none (tells_of_isCall calls), List.filterMap_nil,
    List.append_nil]
  rfl

/-! ## Every event is confirmed -/

/-- Observations and events count packets that reached the map since they were first
seen, and no reading of the clock is ahead of it. -/
structure Counted (pool : Pool State Task) : Prop where
  readings : ∀ task ∈ pool.tasks, ∀ now ∈ task.reading, now ≤ pool.shared.clock
  seen : ∀ observation, pool.shared.observation = some observation →
    observation.firstSeenAtMs ≤ pool.shared.clock ∧
      observation.packetCount ≤ pool.shared.packetsSince observation.firstSeenAtMs
  events : ∀ event ∈ told pool, pool.shared.Confirms event

theorem packetsSince_append (state : State) (packet time : Nat) :
    { state with packets := state.packets ++ [packet] }.packetsSince time =
      state.packetsSince time + if time ≤ packet then 1 else 0 := by
  simp only [State.packetsSince, List.countP_append, List.countP_singleton, decide_eq_true_eq]

theorem State.Confirms.mono {event : UnknownStreamEvent} (confirms : state.Confirms event)
    (more : state.packetsSince event.firstSeenAtMs ≤ next.packetsSince event.firstSeenAtMs) :
    next.Confirms event :=
  ⟨Nat.le_trans confirms.1 more, confirms.2⟩

theorem Counted.begin (counted : Counted ⟨state, earlier⟩) (calls : task.isCall = true) :
    Counted ⟨state, earlier ++ [task]⟩ := by
  refine ⟨fun other member now isReading => ?_, counted.seen, fun event member => ?_⟩
  · rcases List.mem_append.mp member with old | isNew
    · exact counted.readings other old now isReading
    · rw [List.mem_singleton.mp isNew, silent_of_isCall calls] at isReading
      cases isReading
  · exact counted.events event (told_begin calls ▸ member)

/-- A step that counts at most one packet, keeps the observation or gives it its packet,
and decides on no event. -/
theorem Counted.keep (counted : Counted ⟨state, earlier ++ task :: later⟩)
    (clock : state.clock ≤ next.clock)
    (packets : ∀ time, state.packetsSince time ≤ next.packetsSince time)
    (reading : ∀ now ∈ rest.bind Task.reading, now ≤ next.clock)
    (seen : ∀ observation, next.observation = some observation →
      observation.firstSeenAtMs ≤ next.clock ∧
        observation.packetCount ≤ next.packetsSince observation.firstSeenAtMs)
    (events : ∀ event ∈ told ⟨next, earlier ++ rest.toList ++ later⟩,
      event ∈ told ⟨state, earlier ++ task :: later⟩ ∨ next.Confirms event) :
    Counted ⟨next, earlier ++ rest.toList ++ later⟩ := by
  refine ⟨fun other member now isReading => ?_, seen, fun event member => ?_⟩
  · rcases mem_advanced task member with isRest | old
    · exact reading now (Option.mem_bind_iff.mpr ⟨other, isRest, isReading⟩)
    · exact Nat.le_trans (counted.readings other old now isReading) clock
  · rcases events event member with old | confirms
    · exact (counted.events event old).mono (packets _)
    · exact confirms

theorem Counted.advance (counted : Counted ⟨state, earlier ++ task :: later⟩) :
    Counted ⟨(work state task).2, earlier ++ (work state task).1.toList ++ later⟩ := by
  have quiet : ∀ {rest : Option Task}, (rest.bind Task.tells).toList.Sublist task.tells.toList →
      ∀ event ∈ told ⟨state, earlier ++ rest.toList ++ later⟩,
        event ∈ told ⟨state, earlier ++ task :: later⟩ ∨ state.Confirms event :=
    fun sends event member => Or.inl ((told_kept (sends.append_left _)).subset member)
  cases task with
  | tick ms =>
      refine counted.keep (Nat.le_add_right _ _) (fun _ => Nat.le_refl _) (unread rfl)
        (fun observation found => ?_) fun event member => Or.inl ?_
      · obtain ⟨first, count⟩ := counted.seen observation found
        exact ⟨Nat.le_trans first (Nat.le_add_right _ _), count⟩
      · exact (told_kept (List.Sublist.refl _)).subset member
  | observe room =>
      refine counted.keep (Nat.le_refl _) (fun _ => Nat.le_refl _) ?_ counted.seen
        (quiet (List.Sublist.refl _))
      intro now isReading
      cases isReading
      exact Nat.le_refl _
  | observeEntry now room =>
      have read := counted.readings _ (List.mem_append_right _ (List.mem_cons_self ..)) now rfl
      have more : ∀ time, state.packetsSince time ≤
          { state with packets := state.packets ++ [state.clock] }.packetsSince time := fun time => by
        rw [packetsSince_append]
        exact Nat.le_add_right _ _
      cases entry : state.observation with
      | none =>
          simp only [work, entry]
          refine counted.keep (Nat.le_refl _) more (unread rfl) (fun observation found => ?_)
            fun event member => Or.inl ((told_kept (List.Sublist.refl _)).subset member)
          cases found
          have one : 1 ≤ { state with packets := state.packets ++ [state.clock] }.packetsSince now := by
            rw [packetsSince_append, if_pos read]
            exact Nat.le_add_left 1 _
          exact ⟨read, one⟩
      | some observation =>
          obtain ⟨first, count⟩ := counted.seen observation entry
          have counts : ∀ packet : UnknownStreamObservation,
              packet.firstSeenAtMs = observation.firstSeenAtMs →
              packet.packetCount = saturatingSucc64 observation.packetCount →
              packet.firstSeenAtMs ≤ state.clock ∧ packet.packetCount ≤
                { state with packets := state.packets ++ [state.clock] }.packetsSince
                  packet.firstSeenAtMs := by
            intro packet sameFirst isSucc
            rw [sameFirst, isSucc, packetsSince_append, if_pos first]
            exact ⟨first, Nat.le_trans (saturatingSucc64_le _) (Nat.add_le_add_right count 1)⟩
          rcases observation.observe_cases now with
            ⟨packet, observed, sameFirst, isSucc, _⟩ |
              ⟨packet, observed, sameFirst, isSucc, _, isLast, enough, long, _⟩ <;>
            simp only [work, entry, observed]
          · refine counted.keep (Nat.le_refl _) more (unread rfl) (fun other found => ?_)
              fun event member => Or.inl ((told_kept (List.Sublist.refl _)).subset member)
            cases found
            exact counts packet sameFirst isSucc
          · refine counted.keep (Nat.le_refl _) more (unread rfl) (fun other found => ?_)
              fun event member => ?_
            · cases found
              exact counts packet sameFirst isSucc
            · rcases List.mem_cons.mp ((told_observed packet now room).subset member) with isNew | old
              · rw [isNew]
                exact Or.inr ⟨Nat.le_trans enough (counts packet sameFirst isSucc).2,
                  Nat.le_trans long (Nat.le_of_eq isLast.symm)⟩
              · exact Or.inl old
  | send event room =>
      cases room with
      | true =>
          exact counted.keep (Nat.le_refl _) (fun _ => Nat.le_refl _) (unread rfl) counted.seen
            fun other member => Or.inl ((told_kept (by simp [work, Task.tells])).subset member)
      | false =>
          exact counted.keep (Nat.le_refl _) (fun _ => Nat.le_refl _) (unread rfl) counted.seen
            (quiet (List.nil_sublist _))
  | expire =>
      exact counted.keep (Nat.le_refl _) (fun _ => Nat.le_refl _) (unread rfl) counted.seen
        (quiet (List.Sublist.refl _))
  | expireGet now =>
      rcases expireGet_cases state now with stays | removes
      · rw [stays]
        exact counted.keep (Nat.le_refl _) (fun _ => Nat.le_refl _) (unread rfl) counted.seen
          (quiet (List.Sublist.refl _))
      · rw [removes]
        exact counted.keep (Nat.le_refl _) (fun _ => Nat.le_refl _) (unread rfl) counted.seen
          (quiet (List.Sublist.refl _))
  | expireRemove =>
      exact counted.keep (Nat.le_refl _) (fun _ => Nat.le_refl _) (unread rfl) (by simp [work])
        fun event member => Or.inl ((told_kept (List.Sublist.refl _)).subset member)

/-! ## Events are apart -/

/-- With the entry told of, no event is newer; otherwise the cooldown of every event is
over before another one can be confirmed. -/
def Cooled (pool : Pool State Task) (event : UnknownStreamEvent) : Prop :=
  (∀ notifiedAt ∈ pool.shared.notifiedAt, event.lastSeenAtMs ≤ notifiedAt) ∧
    (pool.shared.notifiedAt = none →
      Ahead pool (event.lastSeenAtMs + cooldownMs - confirmMs) ∧
        ∀ observation, pool.shared.observation = some observation →
          event.lastSeenAtMs + cooldownMs - confirmMs ≤ observation.firstSeenAtMs)

structure Spaced (pool : Pool State Task) : Prop where
  apart : (told pool).Pairwise Apart
  cooled : ∀ event ∈ told pool, Cooled pool event

theorem Ahead.begin (ahead : Ahead ⟨state, earlier⟩ time) (calls : task.isCall = true) :
    Ahead ⟨state, earlier ++ [task]⟩ time := by
  refine ⟨ahead.1, fun other member now isReading => ?_⟩
  rcases List.mem_append.mp member with old | isNew
  · exact ahead.2 other old now isReading
  · rw [List.mem_singleton.mp isNew, silent_of_isCall calls] at isReading
    cases isReading

theorem Ahead.advance (ahead : Ahead ⟨state, earlier ++ task :: later⟩ time)
    (clock : state.clock ≤ next.clock)
    (reading : ∀ now ∈ rest.bind Task.reading, time ≤ now) :
    Ahead ⟨next, earlier ++ rest.toList ++ later⟩ time := by
  refine ⟨Nat.le_trans ahead.1 clock, fun other member now isReading => ?_⟩
  rcases mem_advanced task member with isRest | old
  · exact reading now (Option.mem_bind_iff.mpr ⟨other, isRest, isReading⟩)
  · exact ahead.2 other old now isReading

theorem Ahead.mono {earlierTime : Nat} {pool : Pool State Task} (ahead : Ahead pool time)
    (before : earlierTime ≤ time) : Ahead pool earlierTime :=
  ⟨Nat.le_trans before ahead.1, fun other member now isReading =>
    Nat.le_trans before (ahead.2 other member now isReading)⟩

theorem apart_symm {first second : UnknownStreamEvent} (apart : Apart first second) :
    Apart second first := Or.symm apart

theorem Spaced.begin (spaced : Spaced ⟨state, earlier⟩) (calls : task.isCall = true) :
    Spaced ⟨state, earlier ++ [task]⟩ := by
  have same : told ⟨state, earlier ++ [task]⟩ = told ⟨state, earlier⟩ := told_begin calls
  refine ⟨by rw [same]; exact spaced.apart, fun event member => ?_⟩
  rw [same] at member
  obtain ⟨newest, rests⟩ := spaced.cooled event member
  exact ⟨newest, fun quiet => ⟨(rests quiet).1.begin calls, (rests quiet).2⟩⟩

/-- A step that decides on no event. -/
theorem Spaced.keep (spaced : Spaced ⟨state, earlier ++ task :: later⟩)
    (sends : (next.sent ++ (rest.bind Task.tells).toList).Sublist
      (state.sent ++ task.tells.toList))
    (cooled : ∀ event, Cooled ⟨state, earlier ++ task :: later⟩ event →
      Cooled ⟨next, earlier ++ rest.toList ++ later⟩ event) :
    Spaced ⟨next, earlier ++ rest.toList ++ later⟩ := by
  have fewer : (told ⟨next, earlier ++ rest.toList ++ later⟩).Subperm
      (told ⟨state, earlier ++ task :: later⟩) := told_kept sends
  obtain ⟨kept, perm, sublist⟩ := fewer
  exact ⟨(perm.pairwise_iff apart_symm).mp (spaced.apart.sublist sublist),
    fun event member => cooled event (spaced.cooled event
      (sublist.subset (perm.symm.subset member)))⟩

/-- A step that leaves the entry as it is. -/
theorem Cooled.keep {event : UnknownStreamEvent}
    (cooled : Cooled ⟨state, earlier ++ task :: later⟩ event) (clock : state.clock ≤ next.clock)
    (same : next.observation = state.observation)
    (reading : ∀ now ∈ rest.bind Task.reading, state.clock ≤ now) :
    Cooled ⟨next, earlier ++ rest.toList ++ later⟩ event := by
  obtain ⟨newest, rests⟩ := cooled
  simp only [Cooled, State.notifiedAt, same] at newest rests ⊢
  refine ⟨newest, fun quiet => ⟨?_, (rests quiet).2⟩⟩
  have ahead := (rests quiet).1
  exact ahead.advance clock fun now isRest => Nat.le_trans ahead.1 (reading now isRest)

/-- When the entry is confirmed and its cooldown is over, every event that was told of lies a
cooldown back, by the entry or by the time it took to confirm it. -/
theorem Spaced.cooledDown {pool : Pool State Task} {observation : UnknownStreamObservation}
    {now : Nat} (spaced : Spaced pool) (entry : pool.shared.observation = some observation)
    (long : observation.firstSeenAtMs + confirmMs ≤ now)
    (apart : observation.lastNotifyAtMs = 0 ∨ observation.lastNotifyAtMs + cooldownMs ≤ now) :
    ∀ event ∈ told pool, event.lastSeenAtMs + cooldownMs ≤ now := by
  intro event member
  obtain ⟨newest, rests⟩ := spaced.cooled event member
  rcases Nat.eq_zero_or_pos observation.lastNotifyAtMs with never | told
  · have before := (rests (by simp [State.notifiedAt, entry, never])).2 observation entry
    simp only [cooldownMs, confirmMs] at before long ⊢
    omega
  · have notAfter := newest observation.lastNotifyAtMs (by
      simp [State.notifiedAt, entry, Nat.pos_iff_ne_zero.mp told])
    have cooled := apart.resolve_left (Nat.pos_iff_ne_zero.mp told)
    exact Nat.le_trans (Nat.add_le_add_right notAfter _) cooled

theorem Spaced.advance (spaced : Spaced ⟨state, earlier ++ task :: later⟩)
    (removes : RemovesCooled ⟨state, earlier ++ task :: later⟩ task) :
    Spaced ⟨(work state task).2, earlier ++ (work state task).1.toList ++ later⟩ := by
  cases task with
  | tick ms =>
      exact spaced.keep (List.Sublist.refl _) fun event cooled =>
        cooled.keep (Nat.le_add_right _ _) rfl (unread rfl)
  | observe room =>
      refine spaced.keep (List.Sublist.refl _) fun event cooled =>
        cooled.keep (Nat.le_refl _) rfl fun now isReading => ?_
      cases isReading
      exact Nat.le_refl _
  | observeEntry now room =>
      cases entry : state.observation with
      | none =>
          simp only [work, entry]
          refine spaced.keep (List.Sublist.refl _) fun event cooled => ⟨by simp [State.notifiedAt], ?_⟩
          intro _
          obtain ⟨ahead, _⟩ := cooled.2 (by simp [State.notifiedAt, entry])
          refine ⟨ahead.advance (Nat.le_refl _) (unread rfl), fun observation found => ?_⟩
          cases found
          exact ahead.2 _ (List.mem_append_right _ (List.mem_cons_self ..)) now rfl
      | some observation =>
          rcases observation.observe_cases now with
            ⟨packet, observed, sameFirst, _, sameLast⟩ |
              ⟨packet, observed, sameFirst, _, isNow, isLast, _, long, apart⟩ <;>
            simp only [work, entry, observed]
          · refine spaced.keep (List.Sublist.refl _) fun event cooled => ?_
            obtain ⟨newest, rests⟩ := cooled
            simp only [Cooled, State.notifiedAt, entry, Option.map_some, sameLast] at newest rests ⊢
            refine ⟨newest, fun quiet => ?_⟩
            obtain ⟨ahead, before⟩ := rests quiet
            refine ⟨ahead.advance (Nat.le_refl _) (unread rfl), fun other found => ?_⟩
            cases found
            exact sameFirst ▸ before observation rfl
          · have cooledDown := spaced.cooledDown entry (sameFirst ▸ long) apart
            have positive : now ≠ 0 := by
              simp only [confirmMs] at long
              omega
            refine ⟨((told_observed packet now room).pairwise_iff apart_symm).mpr (List.pairwise_cons.mpr
              ⟨fun event member => Or.inr ?_, spaced.apart⟩), fun event member => ?_⟩
            · exact Nat.le_trans (cooledDown event member) (Nat.le_of_eq isLast.symm)
            · have notified : State.notifiedAt { state with
                  observation := some packet, packets := state.packets ++ [state.clock] } =
                  some now := by
                simp [State.notifiedAt, isNow, positive]
              refine ⟨fun notifiedAt isNotified => ?_, fun quiet => ?_⟩
              · rw [notified] at isNotified
                cases isNotified
                rcases List.mem_cons.mp ((told_observed packet now room).subset member) with isNew | old
                · exact Nat.le_of_eq (isNew ▸ isLast)
                · exact Nat.le_trans (Nat.le_add_right _ _) (cooledDown event old)
              · rw [notified] at quiet
                cases quiet
  | send event room =>
      cases room with
      | true =>
          exact spaced.keep (by simp [work, Task.tells]) fun other cooled =>
            cooled.keep (Nat.le_refl _) rfl (unread rfl)
      | false =>
          exact spaced.keep ((List.nil_sublist _).append_left _) fun other cooled =>
            cooled.keep (Nat.le_refl _) rfl (unread rfl)
  | expire =>
      exact spaced.keep (List.Sublist.refl _) fun event cooled =>
        cooled.keep (Nat.le_refl _) rfl (unread rfl)
  | expireGet now =>
      rcases expireGet_cases state now with stays | goesOn
      · rw [stays]
        exact spaced.keep (List.Sublist.refl _) fun event cooled =>
          cooled.keep (Nat.le_refl _) rfl (unread rfl)
      · rw [goesOn]
        exact spaced.keep (List.Sublist.refl _) fun event cooled =>
          cooled.keep (Nat.le_refl _) rfl (unread rfl)
  | expireRemove =>
      refine spaced.keep (List.Sublist.refl _) fun event cooled => ⟨by simp [work, State.notifiedAt], ?_⟩
      intro _
      refine ⟨?_, by simp [work]⟩
      have ahead : Ahead ⟨state, earlier ++ .expireRemove :: later⟩
          (event.lastSeenAtMs + cooldownMs - confirmMs) := by
        cases notified : state.notifiedAt with
        | none => exact (cooled.2 notified).1
        | some notifiedAt =>
            have newest := cooled.1 notifiedAt notified
            exact (removes rfl notifiedAt notified).mono
              (Nat.sub_le_sub_right (Nat.add_le_add_right newest _) _)
      exact ahead.advance (Nat.le_refl _) (unread rfl)

end Steps

theorem told_init (clock : Nat) : told ⟨init clock, []⟩ = [] := rfl

theorem counted_init (clock : Nat) : Counted ⟨init clock, []⟩ where
  readings _ member := by cases member
  seen _ found := by cases found
  events event member := by cases (told_init clock ▸ member)

theorem spaced_init (clock : Nat) : Spaced ⟨init clock, []⟩ where
  apart := List.Pairwise.nil
  cooled event member := by cases (told_init clock ▸ member)

/-- A move that removes no entry, or one whose cooldown is over. -/
def CooledMove (pool : Pool State Task) : Move Task → Prop
  | .begin _ => True
  | .advance index => ∀ task ∈ pool.tasks[index]?, RemovesCooled pool task

instance (pool : Pool State Task) (move : Move Task) : Decidable (CooledMove pool move) :=
  match move with
  | .begin _ => isTrue trivial
  | .advance index => inferInstanceAs (Decidable (∀ task ∈ pool.tasks[index]?, _))

/-- In every interleaving of packets and expiries of the key: every event is confirmed
when it is sent, and any two events are a cooldown apart when each removal finds the
cooldown of its entry at an end. -/
theorem notifications_of_cooled (clock : Nat) (moves : List (Move Task))
    (calls : ∀ task, .begin task ∈ moves → task.isCall = true) :
    (∀ entry ∈ Runs.run (step work) ⟨init clock, []⟩ moves,
      ∀ event ∈ entry.after.shared.sent, entry.after.shared.Confirms event) ∧
    ((∀ entry ∈ Runs.run (step work) ⟨init clock, []⟩ moves,
        CooledMove entry.before entry.action) →
      ∀ entry ∈ Runs.run (step work) ⟨init clock, []⟩ moves,
        entry.after.shared.sent.Pairwise Apart) := by
  constructor
  · intro entry member event isSent
    have guarded : ∀ entry ∈ Runs.run (step work) ⟨init clock, []⟩ moves,
        Guarded (fun task => task.isCall = true) (fun _ _ => True) entry.before entry.action := by
      intro other inRun
      cases isAction : other.action with
      | begin task => exact calls task (isAction ▸ Runs.action_mem inRun)
      | advance index => exact fun _ _ => trivial
    obtain ⟨_, counted⟩ := invariant_run Counted (fun _ _ _ counted calls => counted.begin calls)
      (fun _ _ _ _ counted _ => counted.advance) (counted_init clock) guarded entry member
    exact counted.events event (List.mem_append_left _ isSent)
  · intro cooled entry member
    have guarded : ∀ entry ∈ Runs.run (step work) ⟨init clock, []⟩ moves,
        Guarded (fun task => task.isCall = true) RemovesCooled entry.before entry.action := by
      intro other inRun
      have cools := cooled other inRun
      cases isAction : other.action with
      | begin task => exact calls task (isAction ▸ Runs.action_mem inRun)
      | advance index =>
          rw [isAction] at cools
          exact cools
    obtain ⟨_, spaced⟩ := invariant_run Spaced (fun _ _ _ spaced calls => spaced.begin calls)
      (fun _ _ _ _ spaced removes => spaced.advance removes) (spaced_init clock) guarded entry member
    exact (List.pairwise_append.mp spaced.apart).1

/-- Three packets over two seconds, and what a scheduler does with them. -/
def threePackets : List (Move Task) :=
  [.begin (.observe true), .advance 0, .advance 0, .begin (.tick 1000), .advance 0,
    .begin (.observe true), .advance 0, .advance 0, .begin (.tick 1000), .advance 0,
    .begin (.observe true), .advance 0, .advance 0, .advance 0]

/-- The key is told of, expires idle, and is told of again. -/
def quietExpiry : List (Move Task) :=
  threePackets ++ [.begin (.tick 30000), .advance 0, .begin .expire, .advance 0, .advance 0,
    .advance 0] ++ threePackets

theorem notifications_of_cooled_quietExpiry :
    (Runs.final (step work) ⟨init 1000, []⟩ quietExpiry).shared.sent.map
        UnknownStreamEvent.lastSeenAtMs = [3000, 35000] ∧
      ∀ entry ∈ Runs.run (step work) ⟨init 1000, []⟩ quietExpiry,
        entry.after.shared.sent.Pairwise Apart := by
  refine ⟨by decide +kernel,
    (notifications_of_cooled 1000 quietExpiry fun task begun => ?_).2 (by decide +kernel)⟩
  have calls : ∀ move ∈ quietExpiry, ∀ task, move = .begin task → task.isCall = true := by
    simp [quietExpiry, threePackets, Task.isCall]
  exact calls _ begun task rfl

/-- An expiry finds the key idle for the whole window.  Before it removes the entry the
second and the third packet arrive, and three more follow. -/
def packetsBeforeRemoval : List (Move Task) :=
  [.begin (.observe true), .advance 0, .advance 0, .begin (.tick 30000), .advance 0,
    .begin .expire, .advance 0, .advance 0,
    .begin (.observe true), .advance 1, .advance 1, .begin (.observe true), .advance 1, .advance 1,
    .advance 1, .advance 0] ++ threePackets

/-- The node tells of the key at 31000 and again at 33000. -/
theorem packetsBeforeRemoval_tells_twice :
    (∀ task, .begin task ∈ packetsBeforeRemoval → task.isCall = true) ∧
      (Runs.final (step work) ⟨init 1000, []⟩ packetsBeforeRemoval).shared.sent.map
        UnknownStreamEvent.lastSeenAtMs = [31000, 33000] ∧
      ¬ (Runs.final (step work) ⟨init 1000, []⟩ packetsBeforeRemoval).shared.sent.Pairwise Apart := by
  refine ⟨fun task begun => ?_, by decide +kernel, by decide +kernel⟩
  have calls : ∀ move ∈ packetsBeforeRemoval, ∀ task, move = .begin task → task.isCall = true := by
    simp [packetsBeforeRemoval, threePackets, Task.isCall]
  exact calls _ begun task rfl

end Gmv.Stream.UnknownStream
