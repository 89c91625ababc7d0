import Gmv.Stream.ReorderRounds

/-!
# The representation invariant of the reorder queue

Every buffered packet sits in the slot of its own sequence number and the
counter counts the occupied slots.  The invariant holds of the queue that `init`
starts from and is kept by each single operation on it, hence by whole rounds.
-/

namespace Gmv.Stream

open Gmv.Library

namespace ReorderQueue

/-- The representation invariant. -/
structure WellFormed (q : ReorderQueue) : Prop where
  placed : ∀ index pkt, q.queue index = some pkt → slotOf pkt.seq = index
  counted : q.queueCount = SlotRing.occupied q.queue
  window : 0 < q.queueWindow

theorem hasPacket_iff (q : ReorderQueue) (seq : BitVec 16) :
    q.hasPacket seq = true ↔ ∃ pkt, q.queue (slotOf seq) = some pkt ∧ pkt.seq = seq := by
  unfold hasPacket
  cases q.queue (slotOf seq) with
  | none => simp
  | some pkt => simp

/-- What a take removes: the first occupied slot from the read pointer on. -/
structure TakesFirst (q : ReorderQueue) (pkt : RtpPacket) (offset : Nat) : Prop where
  small : offset < bufferSize
  held : q.queue (SlotRing.shift (slotOf q.firstReadRtpSn) offset) = some pkt
  first : ∀ index, (q.queue index).isSome →
    offset ≤ SlotRing.gap (slotOf q.firstReadRtpSn) index

/-- The queue after a take. -/
def afterTake (q : ReorderQueue) (pkt : RtpPacket) (offset : Nat) : ReorderQueue :=
  { q with
    firstReadRtpSn := pkt.seq + 1#16
    queue := Function.update q.queue (SlotRing.shift (slotOf q.firstReadRtpSn) offset) none
    queueCount := q.queueCount - 1 }

/-- A take either finds the queue empty or removes its first packet. -/
theorem takeAvailable_cases (q : ReorderQueue) :
    (q.takeAvailable = (none, q) ∧ ∀ index, q.queue index = none) ∨
      ∃ pkt offset, TakesFirst q pkt offset ∧
        q.takeAvailable = (some (pkt, decide (offset > 0)), q.afterTake pkt offset) := by
  unfold takeAvailable takeFirstAvailablePacket
  cases scan : SlotRing.firstFrom q.queue (slotOf q.firstReadRtpSn) bufferSize 0 with
  | none =>
      left
      exact ⟨rfl, SlotRing.firstFrom_round_eq_none scan⟩
  | some found =>
      right
      obtain ⟨small, held, first⟩ := SlotRing.firstFrom_round_eq_some scan
      exact ⟨found.1, found.2, ⟨small, held, first⟩, rfl⟩

namespace WellFormed

variable {q : ReorderQueue}

theorem new (packetRx : Receiver) (kind : PayloadKind) :
    WellFormed (ReorderQueue.new packetRx kind) where
  placed := by intro index pkt held; cases held
  counted := by
    simp only [ReorderQueue.new, SlotRing.occupied_eq_length, SlotRing.items_empty,
      List.length_nil]
  window := reorderWindow_pos kind

theorem withRx (valid : WellFormed q) (packetRx : Receiver) : WellFormed (q.withRx packetRx) :=
  ⟨valid.placed, valid.counted, valid.window⟩

/-- The invariant does not mention the read pointer. -/
theorem withFirst (valid : WellFormed q) (seq : BitVec 16) :
    WellFormed { q with firstReadRtpSn := seq } :=
  ⟨valid.placed, valid.counted, valid.window⟩

theorem store (valid : WellFormed q) (pkt : RtpPacket) : WellFormed (q.store pkt) where
  placed := by
    intro index held stored
    by_cases same : index = slotOf pkt.seq
    · subst same
      simp only [ReorderQueue.store, Function.update_self, Option.some.injEq] at stored
      rw [stored]
    · simp only [ReorderQueue.store, Function.update_of_ne same] at stored
      exact valid.placed index held stored
  counted := by
    unfold ReorderQueue.store
    cases slot : q.queue (slotOf pkt.seq) with
    | none => simp [SlotRing.occupied_put slot, valid.counted]
    | some old => simp [SlotRing.occupied_replace slot, valid.counted]
  window := valid.window

theorem enqueue (valid : WellFormed q) (pkt : RtpPacket) : WellFormed (q.enqueue pkt) := by
  unfold ReorderQueue.enqueue
  split
  · exact valid
  · split
    · exact valid
    · exact valid.store pkt

theorem enqueueInitial (valid : WellFormed q) (pkt : RtpPacket) :
    WellFormed (q.enqueueInitial pkt) := by
  unfold ReorderQueue.enqueueInitial
  split
  · exact valid
  · exact (valid.withFirst _).store pkt

theorem enqueueAll (valid : WellFormed q) (pkts : List RtpPacket) :
    WellFormed (q.enqueueAll pkts) := by
  induction pkts generalizing q with
  | nil => exact valid
  | cons pkt rest ih => exact ih (valid.enqueue pkt)

theorem receives (valid : WellFormed q) {arrivals : List RtpPacket} {after : ReorderQueue}
    (received : Receives q arrivals after) : WellFormed after := by
  rw [received.enqueued]
  exact (valid.enqueueAll arrivals).withRx _

/-- Clearing an occupied slot and counting down keeps the invariant. -/
theorem clear (valid : WellFormed q) {index : Fin bufferSize} {pkt : RtpPacket}
    (held : q.queue index = some pkt) :
    WellFormed
      { q with queue := Function.update q.queue index none, queueCount := q.queueCount - 1 } where
  placed := by
    intro other stored still
    by_cases same : other = index
    · subst same; simp at still
    · simp only [Function.update_of_ne same] at still
      exact valid.placed other stored still
  counted := by
    have cleared := SlotRing.occupied_clear held
    have counted := valid.counted
    dsimp only
    omega
  window := valid.window

/-- The counter is positive while a slot is occupied, so that the decrement of a
take cannot underflow. -/
theorem queueCount_pos (valid : WellFormed q) {index : Fin bufferSize} {pkt : RtpPacket}
    (held : q.queue index = some pkt) : 0 < q.queueCount := by
  have cleared := SlotRing.occupied_clear held
  have counted := valid.counted
  omega

theorem queue_eq_none (valid : WellFormed q) (empty : q.queueCount = 0)
    (index : Fin bufferSize) : q.queue index = none := by
  cases held : q.queue index with
  | none => rfl
  | some pkt =>
      have positive := valid.queueCount_pos held
      omega

theorem queueCount_eq_zero (valid : WellFormed q) (empty : ∀ index, q.queue index = none) :
    q.queueCount = 0 := by
  rw [valid.counted, SlotRing.occupied_eq_length, SlotRing.items_eq_nil_iff.mpr empty]
  rfl

theorem afterTake (valid : WellFormed q) {pkt : RtpPacket} {offset : Nat}
    (taken : TakesFirst q pkt offset) : WellFormed (q.afterTake pkt offset) :=
  (valid.clear taken.held).withFirst _

end WellFormed

/-- A round either finds the input closed and the queue empty, or hands out the
first packet of the queue after the arrivals of that round. -/
theorem pull_cases {q : ReorderQueue} (valid : WellFormed q) :
    ∃ arrivals ready, Receives q arrivals ready ∧ WellFormed ready ∧
      ((q.pull () = (none, ready) ∧ (∀ index, ready.queue index = none)) ∨
        ∃ pkt offset, TakesFirst ready pkt offset ∧
          q.pull () = (some (pkt, decide (offset > 0)), ready.afterTake pkt offset)) := by
  obtain ⟨arrivals, ready, received, outcome⟩ := pull_spec q
  have readyValid := valid.receives received
  refine ⟨arrivals, ready, received, readyValid, ?_⟩
  by_cases empty : ready.queueCount = 0
  · left
    rw [outcome, if_pos empty]
    exact ⟨rfl, readyValid.queue_eq_none empty⟩
  · rw [if_neg empty] at outcome
    rcases takeAvailable_cases ready with ⟨-, bare⟩ | ⟨pkt, offset, taken, result⟩
    · exact absurd (readyValid.queueCount_eq_zero bare) empty
    · right
      exact ⟨pkt, offset, taken, outcome.trans result⟩

theorem WellFormed.pull {q : ReorderQueue} (valid : WellFormed q) (turn : Unit) :
    WellFormed (q.pull turn).2 := by
  obtain ⟨arrivals, ready, -, readyValid, ⟨outcome, -⟩ | ⟨pkt, offset, taken, outcome⟩⟩ :=
    pull_cases valid
  · exact outcome ▸ readyValid
  · exact outcome ▸ readyValid.afterTake taken

/-- The states that single operations of the code reach: the initial fill,
arrivals, the two takes, the moves of the read pointer and the channel. -/
inductive Reachable : ReorderQueue → Prop where
  | new (packetRx : Receiver) (kind : PayloadKind) : Reachable (.new packetRx kind)
  | channel {q : ReorderQueue} (packetRx : Receiver) :
      Reachable q → Reachable (q.withRx packetRx)
  | enqueueInitial {q : ReorderQueue} (pkt : RtpPacket) :
      Reachable q → Reachable (q.enqueueInitial pkt)
  | enqueue {q : ReorderQueue} (pkt : RtpPacket) : Reachable q → Reachable (q.enqueue pkt)
  | takeExpected {q rest : ReorderQueue} {pkt : RtpPacket} :
      Reachable q → q.takeExpectedPacket = some (pkt, rest) → Reachable rest
  | takeFirst {q rest : ReorderQueue} {pkt : RtpPacket} {offset : Nat} :
      Reachable q → q.takeFirstAvailablePacket = some (pkt, offset, rest) → Reachable rest
  | moveTo {q : ReorderQueue} (seq : BitVec 16) :
      Reachable q → Reachable { q with firstReadRtpSn := seq }

theorem takeFirstAvailablePacket_eq_some {q rest : ReorderQueue} {pkt : RtpPacket}
    {offset : Nat} (taken : q.takeFirstAvailablePacket = some (pkt, offset, rest)) :
    q.queue (SlotRing.shift (slotOf q.firstReadRtpSn) offset) = some pkt ∧
      rest = { q with
        queue := Function.update q.queue (SlotRing.shift (slotOf q.firstReadRtpSn) offset) none
        queueCount := q.queueCount - 1 } := by
  unfold takeFirstAvailablePacket at taken
  cases scan : SlotRing.firstFrom q.queue (slotOf q.firstReadRtpSn) bufferSize 0 with
  | none => rw [scan] at taken; cases taken
  | some found =>
      rw [scan] at taken
      cases taken
      exact ⟨(SlotRing.firstFrom_round_eq_some scan).2.1, rfl⟩

theorem Reachable.wellFormed {q : ReorderQueue} (reachable : Reachable q) : WellFormed q := by
  induction reachable with
  | new packetRx kind => exact .new packetRx kind
  | channel packetRx _ ih => exact ih.withRx packetRx
  | enqueueInitial pkt _ ih => exact ih.enqueueInitial pkt
  | enqueue pkt _ ih => exact ih.enqueue pkt
  | takeExpected _ taken ih =>
      obtain ⟨held, -, rfl⟩ := takeExpectedPacket_eq_some taken
      exact ih.clear held
  | takeFirst _ taken ih =>
      obtain ⟨held, rfl⟩ := takeFirstAvailablePacket_eq_some taken
      exact ih.clear held
  | moveTo seq _ ih => exact ih.withFirst seq

namespace Reachable

variable {q : ReorderQueue}

theorem enqueueAll (reachable : Reachable q) (pkts : List RtpPacket) :
    Reachable (q.enqueueAll pkts) := by
  induction pkts generalizing q with
  | nil => exact reachable
  | cons pkt rest ih => exact ih (reachable.enqueue pkt)

theorem receives (reachable : Reachable q) {arrivals : List RtpPacket} {after : ReorderQueue}
    (received : Receives q arrivals after) : Reachable after := by
  rw [received.enqueued]
  exact (reachable.enqueueAll arrivals).channel _

theorem takeAvailable (reachable : Reachable q) : Reachable q.takeAvailable.2 := by
  unfold ReorderQueue.takeAvailable
  cases taken : q.takeFirstAvailablePacket with
  | none => exact reachable
  | some found => exact (reachable.takeFirst taken).moveTo _

/-- A whole round consists of single operations. -/
theorem pull (reachable : Reachable q) (turn : Unit) : Reachable (q.pull turn).2 := by
  obtain ⟨arrivals, ready, received, outcome⟩ := pull_spec q
  have readyReachable := reachable.receives received
  rw [outcome]
  split
  · exact readyReachable
  · exact readyReachable.takeAvailable

theorem calculateIndexFrom (reachable : Reachable q) (pending : List RtpPacket)
    {filled : ReorderQueue} (done : q.calculateIndexFrom pending = .ok filled) :
    Reachable filled := by
  induction pending generalizing q with
  | nil =>
      unfold ReorderQueue.calculateIndexFrom at done
      split at done
      · cases done
      · cases done; exact reachable
  | cons pkt rest ih =>
      unfold ReorderQueue.calculateIndexFrom at done
      split at done
      · exact ih ((reachable.channel _).enqueueInitial pkt) done
      · cases done; exact reachable

end Reachable

end ReorderQueue

namespace RtpPacketBuffer

open ReorderQueue

theorem init_eq_ok {packetRx : Receiver} {kind : PayloadKind} {aacAdts : AacAdtsConfig}
    {b : RtpPacketBuffer} (started : init packetRx kind aacAdts = .ok b) :
    (ReorderQueue.new packetRx kind).calculateIndexFrom packetRx.pending = .ok b.reorder ∧
      b.assembly = AuAssembler.new kind aacAdts := by
  have pending : (ReorderQueue.new packetRx kind).packetRx.pending = packetRx.pending := rfl
  unfold init calculateIndex at started
  rw [pending] at started
  cases filled : (ReorderQueue.new packetRx kind).calculateIndexFrom packetRx.pending with
  | error message => rw [filled] at started; cases started
  | ok reorder => rw [filled] at started; cases started; exact ⟨rfl, rfl⟩

theorem init_reachable {packetRx : Receiver} {kind : PayloadKind} {aacAdts : AacAdtsConfig}
    {b : RtpPacketBuffer} (started : init packetRx kind aacAdts = .ok b) :
    Reachable b.reorder :=
  (Reachable.new packetRx kind).calculateIndexFrom _ (init_eq_ok started).1

theorem init_wellFormed {packetRx : Receiver} {kind : PayloadKind} {aacAdts : AacAdtsConfig}
    {b : RtpPacketBuffer} (started : init packetRx kind aacAdts = .ok b) :
    WellFormed b.reorder :=
  (init_reachable started).wellFormed

/-- The states before and after every round of a run are reachable. -/
theorem Rounds.reachable {before after : ReorderQueue} {rounds : List Round}
    (led : Rounds before rounds after) (start : Reachable before) :
    (∀ round ∈ rounds, Reachable round.before ∧ Reachable round.after) ∧
      Reachable after := by
  obtain ⟨turns, rfl, rfl⟩ := led
  have keep : ∀ q turn, Reachable q → True → Reachable (q.pull turn).2 :=
    fun q turn reachable _ => reachable.pull turn
  exact ⟨Runs.invariant_run Reachable _ keep start (fun _ _ => trivial),
    Runs.invariant_final Reachable _ keep start (fun _ _ => trivial)⟩

theorem Rounds.mem {before after : ReorderQueue} {rounds : List Round}
    (led : Rounds before rounds after) {round : Round} (member : round ∈ rounds) :
    (round.result, round.after) = round.before.pull () := by
  obtain ⟨turns, rfl, rfl⟩ := led
  rw [Runs.mem_run member]
  rfl

end RtpPacketBuffer

end Gmv.Stream
