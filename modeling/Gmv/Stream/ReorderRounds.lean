import Gmv.Stream.RtpPacketBuffer

/-!
# What one round does to the reorder queue

Every loop that reads the channel does the same thing to the queue: it enqueues
the packets it received, in order, without moving the read pointer.  A round is
then a list of arrivals followed by one take, and the take always removes the
first occupied slot from the read pointer on.  All later results about runs of
the buffer rest on this description.
-/

namespace Gmv.Stream

open Gmv.Library

namespace ReorderQueue

/-- Enqueue a list of packets in order. -/
def enqueueAll (q : ReorderQueue) (pkts : List RtpPacket) : ReorderQueue :=
  pkts.foldl enqueue q

@[simp]
theorem enqueueAll_nil (q : ReorderQueue) : q.enqueueAll [] = q := rfl

@[simp]
theorem enqueueAll_cons (q : ReorderQueue) (pkt : RtpPacket) (rest : List RtpPacket) :
    q.enqueueAll (pkt :: rest) = (q.enqueue pkt).enqueueAll rest := rfl

theorem enqueueAll_append (q : ReorderQueue) (first second : List RtpPacket) :
    q.enqueueAll (first ++ second) = (q.enqueueAll first).enqueueAll second :=
  List.foldl_append

/-- The queue with another receiver. -/
def withRx (q : ReorderQueue) (packetRx : Receiver) : ReorderQueue :=
  { q with packetRx := packetRx }

@[simp] theorem withRx_packetRx (q : ReorderQueue) (packetRx : Receiver) :
    (q.withRx packetRx).packetRx = packetRx := rfl

@[simp] theorem withRx_self (q : ReorderQueue) : q.withRx q.packetRx = q := rfl

theorem enqueue_withRx (q : ReorderQueue) (packetRx : Receiver) (pkt : RtpPacket) :
    (q.withRx packetRx).enqueue pkt = (q.enqueue pkt).withRx packetRx := by
  unfold enqueue
  change (if q.isOldPacket pkt.seq then q.withRx packetRx
    else if q.hasPacket pkt.seq then q.withRx packetRx
    else (q.store pkt).withRx packetRx) = _
  split
  · rfl
  · split <;> rfl

theorem enqueueAll_withRx (q : ReorderQueue) (packetRx : Receiver) (pkts : List RtpPacket) :
    (q.withRx packetRx).enqueueAll pkts = (q.enqueueAll pkts).withRx packetRx := by
  induction pkts generalizing q with
  | nil => rfl
  | cons pkt rest ih => simp only [enqueueAll_cons, enqueue_withRx, ih]

@[simp] theorem enqueue_packetRx (q : ReorderQueue) (pkt : RtpPacket) :
    (q.enqueue pkt).packetRx = q.packetRx := by
  unfold enqueue
  split
  · rfl
  · split <;> rfl

@[simp] theorem enqueue_firstReadRtpSn (q : ReorderQueue) (pkt : RtpPacket) :
    (q.enqueue pkt).firstReadRtpSn = q.firstReadRtpSn := by
  unfold enqueue
  split
  · rfl
  · split <;> rfl

@[simp] theorem enqueue_queueWindow (q : ReorderQueue) (pkt : RtpPacket) :
    (q.enqueue pkt).queueWindow = q.queueWindow := by
  unfold enqueue
  split
  · rfl
  · split <;> rfl

theorem queueCount_le_enqueue (q : ReorderQueue) (pkt : RtpPacket) :
    q.queueCount ≤ (q.enqueue pkt).queueCount ∧
      (q.enqueue pkt).queueCount ≤ q.queueCount + 1 := by
  unfold enqueue store
  split
  · exact ⟨Nat.le_refl _, Nat.le_succ _⟩
  · split
    · exact ⟨Nat.le_refl _, Nat.le_succ _⟩
    · dsimp only
      split <;> omega

@[simp] theorem enqueueAll_firstReadRtpSn (q : ReorderQueue) (pkts : List RtpPacket) :
    (q.enqueueAll pkts).firstReadRtpSn = q.firstReadRtpSn := by
  induction pkts generalizing q with
  | nil => rfl
  | cons pkt rest ih => rw [enqueueAll_cons, ih, enqueue_firstReadRtpSn]

@[simp] theorem enqueueAll_queueWindow (q : ReorderQueue) (pkts : List RtpPacket) :
    (q.enqueueAll pkts).queueWindow = q.queueWindow := by
  induction pkts generalizing q with
  | nil => rfl
  | cons pkt rest ih => rw [enqueueAll_cons, ih, enqueue_queueWindow]

theorem queueCount_le_enqueueAll (q : ReorderQueue) (pkts : List RtpPacket) :
    q.queueCount ≤ (q.enqueueAll pkts).queueCount ∧
      (q.enqueueAll pkts).queueCount ≤ q.queueCount + pkts.length := by
  induction pkts generalizing q with
  | nil => exact ⟨Nat.le_refl _, Nat.le_refl _⟩
  | cons pkt rest ih =>
      have one := queueCount_le_enqueue q pkt
      have many := ih (q.enqueue pkt)
      rw [enqueueAll_cons, List.length_cons]
      omega

/-- `after` is `before` with the packets `arrivals` received and enqueued. -/
structure Receives (before : ReorderQueue) (arrivals : List RtpPacket)
    (after : ReorderQueue) : Prop where
  delivered : before.packetRx.pending = arrivals ++ after.packetRx.pending
  enqueued : after = (before.enqueueAll arrivals).withRx after.packetRx

namespace Receives

theorem refl (q : ReorderQueue) : Receives q [] q := ⟨rfl, rfl⟩

/-- Reading the clock receives nothing. -/
theorem clock (q : ReorderQueue) (clock : List GapTick) :
    Receives q [] (q.withRx ⟨q.packetRx.pending, clock⟩) := ⟨rfl, rfl⟩

/-- Receiving one packet. -/
theorem one {q : ReorderQueue} {pkt : RtpPacket} {rest : List RtpPacket}
    (pending : q.packetRx.pending = pkt :: rest) (clock : List GapTick) :
    Receives q [pkt] ((q.withRx ⟨rest, clock⟩).enqueue pkt) := by
  refine ⟨?_, ?_⟩
  · simpa using pending
  · rw [enqueue_withRx]
    rfl

theorem trans {first middle last : ReorderQueue} {early late : List RtpPacket}
    (start : Receives first early middle) (rest : Receives middle late last) :
    Receives first (early ++ late) last := by
  refine ⟨?_, ?_⟩
  · rw [start.delivered, rest.delivered, List.append_assoc]
  · rw [rest.enqueued, start.enqueued, enqueueAll_withRx, enqueueAll_append]
    rfl

theorem firstReadRtpSn_eq {before after : ReorderQueue} {arrivals : List RtpPacket}
    (received : Receives before arrivals after) :
    after.firstReadRtpSn = before.firstReadRtpSn := by
  rw [received.enqueued]
  exact enqueueAll_firstReadRtpSn before arrivals

theorem queueWindow_eq {before after : ReorderQueue} {arrivals : List RtpPacket}
    (received : Receives before arrivals after) :
    after.queueWindow = before.queueWindow := by
  rw [received.enqueued]
  exact enqueueAll_queueWindow before arrivals

theorem queueCount_bounds {before after : ReorderQueue} {arrivals : List RtpPacket}
    (received : Receives before arrivals after) :
    before.queueCount ≤ after.queueCount ∧
      after.packetRx.pending.length + after.queueCount ≤
        before.packetRx.pending.length + before.queueCount := by
  have counted := queueCount_le_enqueueAll before arrivals
  have count : after.queueCount = (before.enqueueAll arrivals).queueCount := by
    rw [received.enqueued]
    rfl
  rw [count, received.delivered, List.length_append]
  omega

theorem queue_eq {before after : ReorderQueue} {arrivals : List RtpPacket}
    (received : Receives before arrivals after) :
    after.queue = (before.enqueueAll arrivals).queue := by
  rw [received.enqueued]
  rfl

theorem receivedUntil_eq {before after : ReorderQueue} {arrivals : List RtpPacket}
    (received : Receives before arrivals after) :
    before.receivedUntil after = arrivals := by
  unfold receivedUntil
  rw [received.delivered, List.length_append, Nat.add_sub_cancel, List.take_left]

end Receives

/-! ## The loops that read the channel -/

theorem reducePacketFrom_receives (q : ReorderQueue) (pending : List RtpPacket)
    (same : q.packetRx.pending = pending) :
    ∃ arrivals, Receives q arrivals (q.reducePacketFrom pending).2 ∧
      ((q.reducePacketFrom pending).1 = true →
        q.queueWindow ≤ (q.reducePacketFrom pending).2.queueCount) ∧
      ((q.reducePacketFrom pending).1 = false →
        (q.reducePacketFrom pending).2.packetRx.pending = []) := by
  induction pending generalizing q with
  | nil =>
      unfold reducePacketFrom
      split
      · exact ⟨[], Receives.refl q, by simp, fun _ => same⟩
      · next full => exact ⟨[], Receives.refl q, fun _ => Nat.le_of_not_lt full, by simp⟩
  | cons pkt rest ih =>
      unfold reducePacketFrom
      split
      · have first : Receives q [pkt] ((q.withRx ⟨rest, q.packetRx.clock⟩).enqueue pkt) :=
          Receives.one same q.packetRx.clock
        obtain ⟨arrivals, received, full, closed⟩ :=
          ih ((q.withRx ⟨rest, q.packetRx.clock⟩).enqueue pkt) (by simp)
        rw [first.queueWindow_eq] at full
        exact ⟨[pkt] ++ arrivals, first.trans received, full, closed⟩
      · next full => exact ⟨[], Receives.refl q, fun _ => Nat.le_of_not_lt full, by simp⟩

theorem reducePacket_receives (q : ReorderQueue) :
    ∃ arrivals, Receives q arrivals q.reducePacket.2 ∧
      (q.reducePacket.1 = true → q.queueWindow ≤ q.reducePacket.2.queueCount) ∧
      (q.reducePacket.1 = false → q.reducePacket.2.packetRx.pending = []) :=
  reducePacketFrom_receives q q.packetRx.pending rfl

/-- A gap wait only receives packets, and its answer is whether the expected
packet is there when it ends. -/
structure Waits (q : ReorderQueue) (expectedSeq : BitVec 16)
    (waited : Bool × ReorderQueue) : Prop where
  receives : ∃ arrivals, Receives q arrivals waited.2
  answer : waited.1 = waited.2.hasPacket expectedSeq

theorem Waits.after {q middle : ReorderQueue} {arrivals : List RtpPacket}
    {expectedSeq : BitVec 16} {waited : Bool × ReorderQueue}
    (received : Receives q arrivals middle) (rest : Waits middle expectedSeq waited) :
    Waits q expectedSeq waited := by
  obtain ⟨more, later⟩ := rest.receives
  exact ⟨⟨arrivals ++ more, received.trans later⟩, rest.answer⟩

theorem waitUntilGapDeadlineFrom_waits (q : ReorderQueue) (expectedSeq : BitVec 16)
    (clock : List GapTick) :
    Waits q expectedSeq (q.waitUntilGapDeadlineFrom expectedSeq clock) := by
  induction clock generalizing q with
  | nil => exact ⟨⟨[], Receives.refl q⟩, rfl⟩
  | cons tick rest ih =>
      unfold waitUntilGapDeadlineFrom
      have ticked : Receives q [] (q.withRx ⟨q.packetRx.pending, rest⟩) := Receives.clock q rest
      split
      · next present => exact ⟨⟨[], Receives.refl q⟩, present.symm⟩
      · next absent =>
          have missing : q.hasPacket expectedSeq = false := by simpa using absent
          split
          · exact ⟨⟨[], Receives.refl q⟩, missing.symm⟩
          · cases tick with
            | expired => exact ⟨⟨[], ticked⟩, missing.symm⟩
            | timeout => exact ⟨⟨[], ticked⟩, rfl⟩
            | ready =>
                dsimp only
                split
                · exact ⟨⟨[], ticked⟩, missing.symm⟩
                · next pkt pending shape =>
                    exact (ih _).after (Receives.one shape rest)

theorem waitPhases_waits (q : ReorderQueue) (expectedSeq : BitVec 16)
    (maxWaitMs phaseMs : Nat) (useSecondGap : Bool) :
    Waits q expectedSeq (waitPhases expectedSeq maxWaitMs phaseMs useSecondGap q) := by
  fun_induction waitPhases expectedSeq maxWaitMs phaseMs useSecondGap q with
  | case1 phaseMs useSecondGap q waited found =>
      have phase := waitUntilGapDeadlineFrom_waits q expectedSeq q.packetRx.clock
      exact ⟨phase.receives, found.symm.trans phase.answer⟩
  | case2 phaseMs useSecondGap q waited missed last =>
      have phase := waitUntilGapDeadlineFrom_waits q expectedSeq q.packetRx.clock
      have none : waited.1 = false := by simpa using missed
      exact ⟨phase.receives, none.symm.trans phase.answer⟩
  | case3 phaseMs useSecondGap q waited missed more stepMs ih =>
      obtain ⟨arrivals, received⟩ :=
        (waitUntilGapDeadlineFrom_waits q expectedSeq q.packetRx.clock).receives
      exact ih.after received

theorem waitForGapPacket_waits (q : ReorderQueue) (expectedSeq : BitVec 16) :
    Waits q expectedSeq (q.waitForGapPacket expectedSeq) :=
  waitPhases_waits q expectedSeq _ _ _

/-! ## The take -/

theorem takeExpectedPacket_eq_some {q rest : ReorderQueue} {pkt : RtpPacket}
    (taken : q.takeExpectedPacket = some (pkt, rest)) :
    q.queue (slotOf q.firstReadRtpSn) = some pkt ∧ pkt.seq = q.firstReadRtpSn ∧
      rest = { q with
        queue := Function.update q.queue (slotOf q.firstReadRtpSn) none
        queueCount := q.queueCount - 1 } := by
  unfold takeExpectedPacket at taken
  cases held : q.queue (slotOf q.firstReadRtpSn) with
  | none => rw [held] at taken; cases taken
  | some stored =>
      rw [held] at taken
      dsimp only at taken
      split at taken
      · next same =>
          cases taken
          exact ⟨rfl, by simpa using same, rfl⟩
      · cases taken

/-- A buffered expected packet is the first one that the scan finds. -/
theorem handOut_takeExpectedPacket {q rest : ReorderQueue} {pkt : RtpPacket}
    (taken : q.takeExpectedPacket = some (pkt, rest)) :
    handOut pkt false rest = q.takeAvailable := by
  obtain ⟨held, _, rfl⟩ := takeExpectedPacket_eq_some taken
  have start : SlotRing.shift (slotOf q.firstReadRtpSn) 0 = slotOf q.firstReadRtpSn :=
    Fin.ext (Nat.mod_eq_of_lt (slotOf q.firstReadRtpSn).isLt)
  have scan : SlotRing.firstFrom q.queue (slotOf q.firstReadRtpSn) bufferSize 0 = some (pkt, 0) := by
    change SlotRing.firstFrom q.queue (slotOf q.firstReadRtpSn) (1023 + 1) 0 = _
    rw [SlotRing.firstFrom, start, held]
  simp [takeAvailable, takeFirstAvailablePacket, scan, start]

/-- `take_next_packet` receives packets while it waits for a gap to close, and
then takes the first available packet. -/
theorem takeNextPacket_spec (q : ReorderQueue) (inputClosed : Bool) :
    ∃ arrivals ready, Receives q arrivals ready ∧
      q.takeNextPacket inputClosed =
        if q.queueCount = 0 then (none, ready) else ready.takeAvailable := by
  unfold takeNextPacket
  by_cases empty : q.queueCount = 0
  · exact ⟨[], q, Receives.refl q, by simp [empty]⟩
  · simp only [beq_iff_eq, empty, if_false]
    cases expected : q.takeExpectedPacket with
    | some taken =>
        exact ⟨[], q, Receives.refl q, handOut_takeExpectedPacket expected⟩
    | none =>
        cases inputClosed with
        | true => exact ⟨[], q, Receives.refl q, rfl⟩
        | false =>
            obtain ⟨arrivals, received⟩ := (waitForGapPacket_waits q q.firstReadRtpSn).receives
            refine ⟨arrivals, _, received, ?_⟩
            simp only [Bool.false_eq_true, if_false]
            split
            · split
              · next found => exact handOut_takeExpectedPacket found
              · rfl
            · rfl

/-- One round: refill the queue, then take a packet. -/
def pull (q : ReorderQueue) (_ : Unit) : Option (RtpPacket × Bool) × ReorderQueue :=
  q.reducePacket.2.takeNextPacket (!q.reducePacket.1)

/-- A round is a list of arrivals followed by one take. -/
theorem pull_spec (q : ReorderQueue) :
    ∃ arrivals ready, Receives q arrivals ready ∧
      q.pull () = if ready.queueCount = 0 then (none, ready) else ready.takeAvailable := by
  obtain ⟨first, refilled, full, closed⟩ := reducePacket_receives q
  obtain ⟨second, ready, waited, taken⟩ :=
    takeNextPacket_spec q.reducePacket.2 (!q.reducePacket.1)
  by_cases empty : q.reducePacket.2.queueCount = 0
  · refine ⟨first, q.reducePacket.2, refilled, ?_⟩
    rw [if_pos empty, pull, takeNextPacket, if_pos (by simpa using empty)]
  · refine ⟨first ++ second, ready, refilled.trans waited, ?_⟩
    have grown := waited.queueCount_bounds.1
    rw [pull, taken, if_neg empty, if_neg (by omega)]

end ReorderQueue

namespace RtpPacketBuffer

open ReorderQueue

/-- The rounds `rounds` lead the queue from `before` to `after`. -/
def Rounds (before : ReorderQueue) (rounds : List Round) (after : ReorderQueue) : Prop :=
  ∃ turns : List Unit, rounds = Runs.run pull before turns ∧ after = Runs.final pull before turns

theorem Rounds.nil (q : ReorderQueue) : Rounds q [] q := ⟨[], rfl, rfl⟩

theorem Rounds.single (q : ReorderQueue) :
    Rounds q [⟨q, (), (q.pull ()).1, (q.pull ()).2⟩] (q.pull ()).2 := ⟨[()], rfl, rfl⟩

theorem Rounds.append {first middle last : ReorderQueue} {early late : List Round}
    (start : Rounds first early middle) (rest : Rounds middle late last) :
    Rounds first (early ++ late) last := by
  obtain ⟨turns, rfl, rfl⟩ := start
  obtain ⟨more, rfl, rfl⟩ := rest
  exact ⟨turns ++ more, (Runs.run_append ..).symm, (Runs.final_append ..).symm⟩

/-- The loop of `consume_packet` moves the queue by whole rounds only. -/
theorem consumeLoop_rounds (maxConsumeLen fuel : Nat) (b : RtpPacketBuffer) :
    Rounds b.reorder (consumeLoop maxConsumeLen fuel b).rounds
      (consumeLoop maxConsumeLen fuel b).after.reorder := by
  induction fuel generalizing b with
  | zero => exact Rounds.nil b.reorder
  | succ fuel ih =>
      have turn := Rounds.single b.reorder
      unfold consumeLoop
      dsimp only
      split
      · split <;> exact turn
      · split
        · exact turn
        · split
          · exact turn
          · exact turn.append (ih _)

theorem consumePacket_rounds (b : RtpPacketBuffer) (maxConsumeLen : Nat) :
    Rounds b.reorder (b.consumePacket maxConsumeLen).rounds
      (b.consumePacket maxConsumeLen).after.reorder := by
  unfold consumePacket
  split
  · exact Rounds.nil b.reorder
  · dsimp only
    split
    · exact Rounds.nil b.reorder
    · split
      · exact Rounds.nil b.reorder
      · exact consumeLoop_rounds ..

/-- A run of `consume_packet` calls moves the queue by whole rounds only. -/
theorem runRounds_rounds (b : RtpPacketBuffer) (lengths : List Nat) :
    Rounds b.reorder (b.runRounds lengths) (b.afterRun lengths).reorder := by
  induction lengths generalizing b with
  | nil => exact Rounds.nil b.reorder
  | cons maxConsumeLen rest ih =>
      exact (consumePacket_rounds b maxConsumeLen).append (ih _)

end RtpPacketBuffer

end Gmv.Stream
