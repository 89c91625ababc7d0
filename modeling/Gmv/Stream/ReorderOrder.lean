import Mathlib.Data.List.Chain
import Gmv.Stream.ReorderInvariant

/-!
# The order of the packets that the reorder queue hands out

The scan of `take_first_available_packet` goes by slots, of which there are
1024, and never looks at a sequence number, of which there are 65536.  The two
agree as long as the buffered packets, counted round the slots from the read
pointer, stand in serial order.  A packet that is accepted out of that order is
handed out before an older one, and a packet that happens to sit in the slot of
the expected sequence number is handed out as if nothing were missing.
-/

namespace Gmv.Stream

open Gmv.Library

namespace ReorderQueue

/-- How many sequence numbers `seq` lies ahead of the read pointer. -/
def ahead (q : ReorderQueue) (seq : BitVec 16) : Nat :=
  SerialNumber.distance q.firstReadRtpSn seq

/-- How many slots the slot of `seq` lies ahead of the slot of the read pointer. -/
def slotsAhead (q : ReorderQueue) (seq : BitVec 16) : Nat :=
  SlotRing.gap (slotOf q.firstReadRtpSn) (slotOf seq)

theorem slotsAhead_eq (q : ReorderQueue) (seq : BitVec 16) :
    q.slotsAhead seq = q.ahead seq % bufferSize := by
  have residue : seq.toNat % 1024 = (q.firstReadRtpSn.toNat + q.ahead seq) % 1024 :=
    SerialNumber.toNat_mod_eq q.firstReadRtpSn seq (by decide)
  simp only [slotsAhead, SlotRing.gap, slotOf, bufferSize]
  omega

/-- The buffered packets stand in serial order round the slots, each less than
half the number space ahead of the packet handed out last. -/
def InOrder (q : ReorderQueue) : Prop :=
  (∀ pkt ∈ SlotRing.items q.queue, q.ahead pkt.seq + 1 < seqHalfRange) ∧
    ∀ pkt ∈ SlotRing.items q.queue, ∀ other ∈ SlotRing.items q.queue,
      q.slotsAhead pkt.seq < q.slotsAhead other.seq → q.ahead pkt.seq < q.ahead other.seq

/-- An arriving packet takes a slot that agrees with its place in the serial
order of the packets in the other slots. -/
def Fits (q : ReorderQueue) (pkt : RtpPacket) : Prop :=
  q.ahead pkt.seq + 1 < seqHalfRange ∧
    ∀ other ∈ SlotRing.items q.queue, slotOf other.seq ≠ slotOf pkt.seq →
      (q.slotsAhead pkt.seq < q.slotsAhead other.seq ↔ q.ahead pkt.seq < q.ahead other.seq)

/-- Every arrival is dropped as old, dropped as a duplicate, or fits. -/
def AdmitsAll : ReorderQueue → List RtpPacket → Prop
  | _, [] => True
  | q, pkt :: rest =>
      (q.isOldPacket pkt.seq = true ∨ q.hasPacket pkt.seq = true ∨ q.Fits pkt) ∧
        AdmitsAll (q.enqueue pkt) rest

instance (q : ReorderQueue) : Decidable q.InOrder := inferInstanceAs (Decidable (_ ∧ _))

instance (q : ReorderQueue) (pkt : RtpPacket) : Decidable (q.Fits pkt) :=
  inferInstanceAs (Decidable (_ ∧ _))

def decideAdmitsAll : (q : ReorderQueue) → (pkts : List RtpPacket) → Decidable (q.AdmitsAll pkts)
  | _, [] => .isTrue trivial
  | q, pkt :: rest =>
      have := decideAdmitsAll (q.enqueue pkt) rest
      inferInstanceAs (Decidable (_ ∧ _))

instance (q : ReorderQueue) (pkts : List RtpPacket) : Decidable (q.AdmitsAll pkts) :=
  decideAdmitsAll q pkts

/-! ## Arrivals and takes keep the order -/

theorem mem_items_store {q : ReorderQueue} {pkt other : RtpPacket} (valid : WellFormed q)
    (member : other ∈ SlotRing.items (q.store pkt).queue) :
    other = pkt ∨ other ∈ SlotRing.items q.queue ∧ slotOf other.seq ≠ slotOf pkt.seq := by
  obtain ⟨index, held⟩ := SlotRing.mem_items.mp member
  by_cases same : index = slotOf pkt.seq
  · subst same
    simp only [store, Function.update_self, Option.some.injEq] at held
    exact .inl held.symm
  · simp only [store, Function.update_of_ne same] at held
    refine .inr ⟨SlotRing.mem_items.mpr ⟨index, held⟩, ?_⟩
    rw [valid.placed index other held]
    exact same

theorem InOrder.store {q : ReorderQueue} (valid : WellFormed q) (ordered : q.InOrder)
    {pkt : RtpPacket} (fits : q.Fits pkt) : (q.store pkt).InOrder := by
  obtain ⟨near, sorted⟩ := ordered
  obtain ⟨nearHere, sortedHere⟩ := fits
  refine ⟨?_, ?_⟩
  · intro other member
    rcases mem_items_store valid member with rfl | ⟨old, -⟩
    · exact nearHere
    · exact near other old
  · intro first firstMember second secondMember slots
    change q.slotsAhead first.seq < q.slotsAhead second.seq at slots
    change q.ahead first.seq < q.ahead second.seq
    rcases mem_items_store valid firstMember with rfl | ⟨firstOld, firstElsewhere⟩
    · rcases mem_items_store valid secondMember with rfl | ⟨secondOld, secondElsewhere⟩
      · omega
      · exact (sortedHere second secondOld secondElsewhere).mp slots
    · rcases mem_items_store valid secondMember with rfl | ⟨secondOld, secondElsewhere⟩
      · have notAfter := mt (sortedHere first firstOld firstElsewhere).mpr (by omega)
        have apart : q.ahead first.seq ≠ q.ahead second.seq := by
          intro same
          exact firstElsewhere (congrArg slotOf (SerialNumber.distance_injective same))
        omega
      · exact sorted first firstOld second secondOld slots

theorem InOrder.enqueueAll {q : ReorderQueue} (valid : WellFormed q) (ordered : q.InOrder)
    {pkts : List RtpPacket} (admitted : q.AdmitsAll pkts) : (q.enqueueAll pkts).InOrder := by
  induction pkts generalizing q with
  | nil => exact ordered
  | cons pkt rest ih =>
      obtain ⟨here, later⟩ := admitted
      refine ih (valid.enqueue pkt) ?_ later
      unfold enqueue
      split
      · exact ordered
      · next recent =>
          split
          · exact ordered
          · next absent =>
              exact ordered.store valid ((here.resolve_left recent).resolve_left absent)

/-- A packet that stays behind after a take lies ahead of the packet taken. -/
theorem TakesFirst.slotsAhead_lt {q : ReorderQueue} {pkt : RtpPacket} {offset : Nat}
    (valid : WellFormed q) (taken : TakesFirst q pkt offset) {index : Fin bufferSize}
    {other : RtpPacket}
    (elsewhere : index ≠ SlotRing.shift (slotOf q.firstReadRtpSn) offset)
    (held : q.queue index = some other) :
    q.slotsAhead pkt.seq < q.slotsAhead other.seq := by
  have ownSlot := valid.placed _ pkt taken.held
  have otherSlot := valid.placed index other held
  have own : q.slotsAhead pkt.seq = offset := by
    rw [slotsAhead, ownSlot, SlotRing.gap_shift _ taken.small]
  have atLeast := taken.first index (by simp [held])
  have different : offset ≠ SlotRing.gap (slotOf q.firstReadRtpSn) index := by
    rintro rfl
    exact elsewhere (SlotRing.shift_gap _ _).symm
  rw [own, slotsAhead, otherSlot]
  omega

theorem TakesFirst.mem_afterTake {q : ReorderQueue} {pkt other : RtpPacket} {offset : Nat}
    (valid : WellFormed q) (taken : TakesFirst q pkt offset)
    (member : other ∈ SlotRing.items (q.afterTake pkt offset).queue) :
    other ∈ SlotRing.items q.queue ∧ q.slotsAhead pkt.seq < q.slotsAhead other.seq := by
  obtain ⟨index, held⟩ := SlotRing.mem_items.mp member
  by_cases same : index = SlotRing.shift (slotOf q.firstReadRtpSn) offset
  · subst same
    simp [ReorderQueue.afterTake] at held
  · simp only [ReorderQueue.afterTake, Function.update_of_ne same] at held
    exact ⟨SlotRing.mem_items.mpr ⟨index, held⟩, taken.slotsAhead_lt valid same held⟩

theorem InOrder.afterTake {q : ReorderQueue} (valid : WellFormed q) (ordered : q.InOrder)
    {pkt : RtpPacket} {offset : Nat} (taken : TakesFirst q pkt offset) :
    (q.afterTake pkt offset).InOrder := by
  obtain ⟨near, sorted⟩ := ordered
  have pktMember := SlotRing.mem_items.mpr ⟨_, taken.held⟩
  -- Both counts of a packet that stays behind shrink by those of the packet taken and one.
  have shrunk : ∀ other ∈ SlotRing.items (q.afterTake pkt offset).queue,
      other ∈ SlotRing.items q.queue ∧
        q.slotsAhead pkt.seq < q.slotsAhead other.seq ∧
        q.ahead pkt.seq < q.ahead other.seq ∧
        (q.afterTake pkt offset).ahead other.seq = q.ahead other.seq - q.ahead pkt.seq - 1 := by
    intro other member
    obtain ⟨otherMember, slots⟩ := taken.mem_afterTake valid member
    have further := sorted pkt pktMember other otherMember slots
    exact ⟨otherMember, slots, further, SerialNumber.distance_advance further⟩
  refine ⟨?_, ?_⟩
  · intro other member
    obtain ⟨old, -, further, shorter⟩ := shrunk other member
    have bound := near other old
    omega
  · intro first firstMember second secondMember slots
    obtain ⟨firstOld, firstSlots, firstFurther, firstShorter⟩ := shrunk first firstMember
    obtain ⟨secondOld, secondSlots, secondFurther, secondShorter⟩ := shrunk second secondMember
    have before : q.slotsAhead first.seq < q.slotsAhead second.seq := by
      simp only [slotsAhead_eq, bufferSize] at *
      omega
    have apart := sorted first firstOld second secondOld before
    omega

/-- The step lemma: an ordered queue stays ordered through a round whose
arrivals fit, and hands out a packet near the read pointer. -/
theorem InOrder.pull {q : ReorderQueue} (valid : WellFormed q) (ordered : q.InOrder)
    (admitted : q.AdmitsAll (q.receivedUntil (q.pull ()).2)) :
    (q.pull ()).2.InOrder ∧
      ((q.pull ()).1 = none → (q.pull ()).2.firstReadRtpSn = q.firstReadRtpSn) ∧
      ∀ handed, (q.pull ()).1 = some handed →
        q.ahead handed.1.seq + 1 < seqHalfRange ∧
          (q.pull ()).2.firstReadRtpSn = handed.1.seq + 1#16 := by
  obtain ⟨arrived, ready, received, readyValid, result⟩ := pull_cases valid
  have samePointer := received.firstReadRtpSn_eq
  have readyOrdered (fitting : q.AdmitsAll arrived) : ready.InOrder := by
    rw [received.enqueued]
    exact ordered.enqueueAll valid fitting
  rcases result with ⟨outcome, -⟩ | ⟨pkt, offset, taken, outcome⟩
  · rw [outcome, received.receivedUntil_eq] at admitted
    rw [outcome]
    exact ⟨readyOrdered admitted, fun _ => samePointer, by simp⟩
  · have arrivedEq : q.receivedUntil (ready.afterTake pkt offset) = arrived :=
      received.receivedUntil_eq
    rw [outcome, arrivedEq] at admitted
    rw [outcome]
    have sorted := readyOrdered admitted
    refine ⟨sorted.afterTake readyValid taken, by simp, ?_⟩
    intro handed same
    cases same
    have near := sorted.1 pkt (SlotRing.mem_items.mpr ⟨_, taken.held⟩)
    rw [ahead, samePointer] at near
    exact ⟨near, rfl⟩

/-- The run lemma: the packets handed out by an ordered queue follow one another
in serial order, starting near its read pointer. -/
theorem InOrder.run {q : ReorderQueue} (valid : WellFormed q) (ordered : q.InOrder)
    {turns : List Unit}
    (admitted : ∀ round ∈ Runs.run ReorderQueue.pull q turns,
      round.before.AdmitsAll (arrivals round)) :
    ((Runs.run ReorderQueue.pull q turns).filterMap Runs.Transition.result).IsChain
        (fun previous next => SerialNumber.Precedes previous.1.seq next.1.seq) ∧
      ∀ first ∈ ((Runs.run ReorderQueue.pull q turns).filterMap
        Runs.Transition.result).head?, q.ahead first.1.seq + 1 < seqHalfRange := by
  induction turns generalizing q with
  | nil => simp
  | cons turn rest ih =>
      obtain ⟨nextOrdered, kept, moved⟩ :=
        ordered.pull valid (admitted _ (List.mem_cons_self ..))
      obtain ⟨chain, start⟩ := ih (valid.pull turn) nextOrdered
        (fun round inRest => admitted round (List.mem_cons_of_mem _ inRest))
      cases result : (q.pull ()).1 with
      | none =>
          simp only [Runs.run_cons, Runs.transition, List.filterMap_cons, result]
          refine ⟨chain, ?_⟩
          intro first head
          have near := start first head
          rwa [ahead, kept result] at near
      | some handed =>
          obtain ⟨near, pointer⟩ := moved handed result
          simp only [Runs.run_cons, Runs.transition, List.filterMap_cons, result]
          refine ⟨List.isChain_cons.mpr ⟨?_, chain⟩, ?_⟩
          · intro next head
            have close := start next head
            rw [ahead, pointer] at close
            unfold seqHalfRange at close
            have longer : SerialNumber.distance handed.1.seq next.1.seq = _ :=
              SerialNumber.distance_succ (by omega)
            unfold SerialNumber.Precedes
            omega
          · intro first head
            simp only [List.head?_cons, Option.mem_some_iff] at head
            exact head ▸ near

/-- A take from offset zero is told apart from a skip only by the packet itself. -/
theorem TakesFirst.lost_iff {q : ReorderQueue} (valid : WellFormed q)
    {pkt : RtpPacket} {offset : Nat} (taken : TakesFirst q pkt offset) :
    (0 < offset ↔ pkt.seq ≠ q.firstReadRtpSn) ↔
      ¬ ∃ other, q.queue (slotOf q.firstReadRtpSn) = some other ∧
        other.seq ≠ q.firstReadRtpSn := by
  have ownSlot := valid.placed _ pkt taken.held
  have backGap : SlotRing.gap (slotOf q.firstReadRtpSn) (slotOf q.firstReadRtpSn) = 0 := by
    have start := q.slotsAhead_eq q.firstReadRtpSn
    rwa [ahead, SerialNumber.distance_self] at start
  rcases Nat.eq_zero_or_pos offset with zero | positive
  · subst zero
    have start : SlotRing.shift (slotOf q.firstReadRtpSn) 0 = slotOf q.firstReadRtpSn :=
      Fin.ext (Nat.mod_eq_of_lt (slotOf q.firstReadRtpSn).isLt)
    have held := taken.held
    rw [start] at held
    simp [held]
  · have free : q.queue (slotOf q.firstReadRtpSn) = none := by
      cases held : q.queue (slotOf q.firstReadRtpSn) with
      | none => rfl
      | some other =>
          have earlier := taken.first (slotOf q.firstReadRtpSn) (by simp [held])
          omega
    have elsewhere : pkt.seq ≠ q.firstReadRtpSn := by
      intro same
      rw [same] at ownSlot
      have gapEq := SlotRing.gap_shift (slotOf q.firstReadRtpSn) taken.small
      rw [← ownSlot, backGap] at gapEq
      omega
    simp [free, positive, elsewhere]

end ReorderQueue

namespace RtpPacketBuffer

open ReorderQueue

/-- In every run in which the initial fill leaves the buffered packets in slot
order and every later arrival fits that order, the packets come out in strictly
increasing serial order. -/
theorem handedOut_in_serial_order (packetRx : Receiver) (kind : PayloadKind)
    (aacAdts : AacAdtsConfig) (b : RtpPacketBuffer) (lengths : List Nat)
    (started : init packetRx kind aacAdts = .ok b) (filled : b.reorder.InOrder)
    (admitted : ∀ round ∈ b.runRounds lengths, round.before.AdmitsAll (arrivals round)) :
    (b.handedOut lengths).IsChain
      (fun previous next => SerialNumber.Precedes previous.1.seq next.1.seq) := by
  obtain ⟨turns, rounds, -⟩ := runRounds_rounds b lengths
  rw [rounds] at admitted
  rw [handedOut, rounds]
  exact (filled.run (init_wellFormed started) admitted).1

/-- Packets that differ in their sequence number only. -/
def numbered (seqs : List Nat) : List RtpPacket :=
  seqs.map fun seq => ⟨1, 0, false, BitVec.ofNat 16 seq, [0]⟩

/-- A started buffer with a decidable property. -/
theorem exists_started (packetRx : Receiver) (kind : PayloadKind) (aacAdts : AacAdtsConfig)
    (holds : RtpPacketBuffer → Bool)
    (checked : (match init packetRx kind aacAdts with
      | .ok b => holds b
      | .error _ => false) = true) :
    ∃ b, init packetRx kind aacAdts = .ok b ∧ holds b = true := by
  cases started : init packetRx kind aacAdts with
  | error message => simp [started] at checked
  | ok b => exact ⟨b, rfl, by simpa [started] using checked⟩

/-- A late packet, a duplicate, a lost packet and a restart of the numbering far
ahead all come out in order. -/
theorem handedOut_in_serial_order_restart :
    ∃ b, init ⟨numbered [10, 12, 11, 13, 14, 14, 16, 17, 18, 12, 5000, 5002, 5001], []⟩
        .g711 ⟨8000, 1⟩ = .ok b ∧
      (b.handedOut (List.replicate 14 100)).IsChain
        (fun previous next => SerialNumber.Precedes previous.1.seq next.1.seq) := by
  obtain ⟨b, started, checked⟩ := exists_started
    ⟨numbered [10, 12, 11, 13, 14, 14, 16, 17, 18, 12, 5000, 5002, 5001], []⟩ .g711 ⟨8000, 1⟩
    (fun b => decide (b.reorder.InOrder ∧
      ∀ round ∈ b.runRounds (List.replicate 14 100), round.before.AdmitsAll (arrivals round)))
    (by decide +kernel)
  obtain ⟨filled, admitted⟩ := of_decide_eq_true checked
  exact ⟨b, started, handedOut_in_serial_order _ _ _ b _ started filled admitted⟩

/-- A packet 1024 ahead of the gap that it lands in is handed out before six older
ones. -/
theorem far_packet_overtakes_older_packets :
    ∃ b, init ⟨numbered [10, 12, 13, 14, 15, 16, 17, 1035], []⟩ .g711 ⟨8000, 1⟩ = .ok b ∧
      ¬ (b.handedOut (List.replicate 9 100)).IsChain
        (fun previous next => SerialNumber.Precedes previous.1.seq next.1.seq) := by
  obtain ⟨b, started, checked⟩ := exists_started
    ⟨numbered [10, 12, 13, 14, 15, 16, 17, 1035], []⟩ .g711 ⟨8000, 1⟩
    (fun b => decide (¬ (b.handedOut (List.replicate 9 100)).IsChain
      (fun previous next => SerialNumber.Precedes previous.1.seq next.1.seq)))
    (by decide +kernel)
  exact ⟨b, started, of_decide_eq_true checked⟩

/-! ## The loss flag -/

/-- After the arrivals of the round, the slot of the expected sequence number
holds a packet with another one. -/
def Aliased (round : Round) : Prop :=
  ∃ other, (round.before.enqueueAll (arrivals round)).queue
      (slotOf round.before.firstReadRtpSn) = some other ∧
    other.seq ≠ round.before.firstReadRtpSn

/-- In every run, the flag of a packet handed out in a round tells exactly
whether a sequence number was skipped if and only if the slot of the expected
number holds no other packet when the round takes its packet. -/
theorem lostBefore_exact_iff (packetRx : Receiver) (kind : PayloadKind)
    (aacAdts : AacAdtsConfig) (b : RtpPacketBuffer) (lengths : List Nat)
    (started : init packetRx kind aacAdts = .ok b) :
    ∀ round ∈ b.runRounds lengths, ∀ pkt lostBefore,
      round.result = some (pkt, lostBefore) →
        ((lostBefore = true ↔ pkt.seq ≠ round.before.firstReadRtpSn) ↔ ¬ Aliased round) := by
  have led := runRounds_rounds b lengths
  intro round member pkt lostBefore handed
  have valid := ((led.reachable (init_reachable started)).1 round member).1.wellFormed
  have pulled := led.mem member
  obtain ⟨arrived, ready, received, readyValid, result⟩ := pull_cases valid
  rcases result with ⟨outcome, -⟩ | ⟨taken, offset, first, outcome⟩
  · rw [outcome] at pulled
    rw [Prod.mk.injEq] at pulled
    rw [handed] at pulled
    cases pulled.1
  · rw [outcome, Prod.mk.injEq, handed, Option.some.injEq, Prod.mk.injEq] at pulled
    obtain ⟨⟨rfl, rfl⟩, after⟩ := pulled
    have arrivedEq : arrivals round = arrived := by
      rw [arrivals, after]
      exact received.receivedUntil_eq
    have exact := first.lost_iff readyValid
    rw [received.firstReadRtpSn_eq, received.queue_eq] at exact
    unfold Aliased
    rw [arrivedEq]
    simpa using exact

/-- The skipped number 12 is signalled and nothing else is. -/
theorem lostBefore_exact_iff_gap :
    ∃ b, init ⟨numbered [10, 11, 13, 14, 15, 16, 17, 18], []⟩ .g711 ⟨8000, 1⟩ = .ok b ∧
      ∀ round ∈ b.runRounds (List.replicate 9 100), ∀ pkt lostBefore,
        round.result = some (pkt, lostBefore) →
          ((lostBefore = true ↔ pkt.seq ≠ round.before.firstReadRtpSn) ↔ ¬ Aliased round) := by
  obtain ⟨b, started, -⟩ := exists_started
    ⟨numbered [10, 11, 13, 14, 15, 16, 17, 18], []⟩ .g711 ⟨8000, 1⟩ (fun _ => true)
    (by decide +kernel)
  exact ⟨b, started, lostBefore_exact_iff _ _ _ b _ started⟩

/-- With packet 1035 in the slot of the missing packet 11, the loss of 1024
sequence numbers is not signalled. -/
theorem aliased_packet_hides_loss :
    ∃ b, init ⟨numbered [10, 12, 13, 14, 15, 16, 17, 1035], []⟩ .g711 ⟨8000, 1⟩ = .ok b ∧
      ∃ round ∈ b.runRounds [100, 100], ∃ pkt lostBefore,
        round.result = some (pkt, lostBefore) ∧
          ¬ (lostBefore = true ↔ pkt.seq ≠ round.before.firstReadRtpSn) := by
  obtain ⟨b, started, checked⟩ := exists_started
    ⟨numbered [10, 12, 13, 14, 15, 16, 17, 1035], []⟩ .g711 ⟨8000, 1⟩
    (fun b => (b.runRounds [100, 100]).any fun round =>
      round.result.any fun handed =>
        !handed.2 && decide (handed.1.seq ≠ round.before.firstReadRtpSn))
    (by decide +kernel)
  refine ⟨b, started, ?_⟩
  obtain ⟨round, member, flagged⟩ := List.any_eq_true.mp checked
  cases result : round.result with
  | none => simp [result] at flagged
  | some handed =>
      rw [result] at flagged
      simp only [Option.any_some, Bool.and_eq_true, Bool.not_eq_true', decide_eq_true_eq] at flagged
      refine ⟨round, member, handed.1, handed.2, result, ?_⟩
      simp [flagged.1, flagged.2]

end RtpPacketBuffer

end Gmv.Stream
