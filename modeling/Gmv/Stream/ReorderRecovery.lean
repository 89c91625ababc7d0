import Gmv.Library.Overtaking
import Gmv.Stream.ReorderConservation

/-!
# Reordering is undone

A sender numbers its packets one after the other, and they arrive nearly in that order: a packet is overtaken only by
those that are sent next to it, fewer than the queue collects before it hands one out.  Then every packet is there when
its turn comes.  The queue never waits for one, and hands all of them out as they were sent, none with a loss before
it, whatever the clock says.
-/

namespace Gmv.Stream

open Gmv.Library Gmv.Library.Overtaking

namespace ReorderQueue

/-- The packets of a sender, from any number on and round the number space. -/
def Consecutive (base : BitVec 16) (sent : List RtpPacket) : Prop :=
  ∀ i : Fin sent.length, (sent.get i).seq = base + BitVec.ofNat 16 i

instance (base : BitVec 16) (sent : List RtpPacket) : Decidable (Consecutive base sent) :=
  Nat.decidableForallFin _

variable {base : BitVec 16} {sent : List RtpPacket} {next : Nat} {arrived rest : List (Fin sent.length)}
  {q : ReorderQueue} {i : Fin sent.length}

/-- After `next` packets have been handed out, the queue holds the others that have arrived. -/
structure Holds (base : BitVec 16) (sent : List RtpPacket) (next : Nat) (arrived : List (Fin sent.length))
    (q : ReorderQueue) : Prop where
  valid : WellFormed q
  items : ∀ pkt, pkt ∈ SlotRing.items q.queue ↔ ∃ i ∈ arrived, next ≤ i.val ∧ sent.get i = pkt
  near : ∀ i ∈ arrived, i.val < next + bufferSize
  passed : ∀ i : Fin sent.length, i.val < next → i ∈ arrived

/-- How far each packet that is held lies ahead of the next one. -/
def leads (base : BitVec 16) (next : Nat) (q : ReorderQueue) : List Nat :=
  (SlotRing.items q.queue).map fun pkt => SerialNumber.distance (base + BitVec.ofNat 16 next) pkt.seq

theorem length_leads (valid : WellFormed q) (base : BitVec 16) (next : Nat) :
    (leads base next q).length = q.queueCount := by
  rw [leads, List.length_map, valid.counted, SlotRing.occupied_eq_length]

theorem nodup_leads (valid : WellFormed q) (base : BitVec 16) (next : Nat) : (leads base next q).Nodup := by
  have placed : ∀ {index pkt}, q.queue index = some pkt → slotOf pkt.seq = index := fun held => valid.placed _ _ held
  have distinct : (SlotRing.items q.queue).Nodup := by
    refine (List.nodup_finRange bufferSize).filterMap fun index other pkt held held' => ?_
    rw [← placed (Option.mem_def.mp held), ← placed (Option.mem_def.mp held')]
  refine distinct.map_on fun pkt member other member' same => ?_
  obtain ⟨index, held⟩ := SlotRing.mem_items.mp member
  obtain ⟨index', held'⟩ := SlotRing.mem_items.mp member'
  have seq : pkt.seq = other.seq := SerialNumber.distance_injective same
  have slot : index = index' := by rw [← placed held, ← placed held', seq]
  rw [slot, held'] at held
  exact (Option.some.inj held).symm

theorem distance_get (consecutive : Consecutive base sent) (later : next ≤ i.val) (near : i.val < next + bufferSize) :
    SerialNumber.distance (base + BitVec.ofNat 16 next) (sent.get i).seq = i.val - next := by
  rw [consecutive i]
  unfold bufferSize at near
  exact SerialNumber.distance_add_ofNat base later (by omega)

theorem isOldPacket_of_lt (pointer : q.firstReadRtpSn = base + BitVec.ofNat 16 next)
    (consecutive : Consecutive base sent) (before : i.val < next) (fresh : next < i.val + seqHalfRange) :
    q.isOldPacket (sent.get i).seq = true := by
  unfold seqHalfRange at fresh
  have back : SerialNumber.distance (sent.get i).seq q.firstReadRtpSn = next - i.val := by
    rw [pointer, consecutive i]
    exact SerialNumber.distance_add_ofNat base (Nat.le_of_lt before) (by omega)
  have different : (sent.get i).seq ≠ q.firstReadRtpSn := by
    intro same
    rw [same, SerialNumber.distance_self] at back
    omega
  rw [isOldPacket, bne_iff_ne.mpr different, Bool.true_and, decide_eq_true_eq]
  change SerialNumber.distance (sent.get i).seq q.firstReadRtpSn < 32768
  omega

theorem isOldPacket_of_le (pointer : q.firstReadRtpSn = base + BitVec.ofNat 16 next)
    (consecutive : Consecutive base sent) (later : next ≤ i.val) (near : i.val < next + bufferSize) :
    q.isOldPacket (sent.get i).seq = false := by
  have lead := distance_get consecutive later near
  rw [← pointer] at lead
  unfold bufferSize at near
  rcases Nat.eq_or_lt_of_le later with same | after
  · have here : (sent.get i).seq = q.firstReadRtpSn := by rw [consecutive i, pointer, same]
    rw [isOldPacket, here, bne_self_eq_false, Bool.false_and]
  · have ahead : SerialNumber.distance q.firstReadRtpSn q.firstReadRtpSn <
        SerialNumber.distance q.firstReadRtpSn (sent.get i).seq := by
      rw [SerialNumber.distance_self]
      omega
    have back := SerialNumber.distance_backwards ahead
    rw [SerialNumber.distance_self, lead] at back
    have far : ¬(q.firstReadRtpSn - (sent.get i).seq).toNat < seqHalfRange := by
      change ¬SerialNumber.distance (sent.get i).seq q.firstReadRtpSn < 32768
      omega
    rw [isOldPacket, decide_eq_false far, Bool.and_false]

namespace Holds

theorem mem_leads (holds : Holds base sent next arrived q) (consecutive : Consecutive base sent) {lead : Nat} :
    lead ∈ leads base next q ↔ ∃ i ∈ arrived, i.val = next + lead := by
  rw [leads, List.mem_map]
  constructor
  · rintro ⟨pkt, member, rfl⟩
    obtain ⟨i, isArrived, later, rfl⟩ := (holds.items pkt).mp member
    refine ⟨i, isArrived, ?_⟩
    rw [distance_get consecutive later (holds.near i isArrived)]
    omega
  · rintro ⟨i, isArrived, place⟩
    have later : next ≤ i.val := by omega
    refine ⟨sent.get i, (holds.items _).mpr ⟨i, isArrived, later, rfl⟩, ?_⟩
    rw [distance_get consecutive later (holds.near i isArrived)]
    omega

/-- A packet that is near is in the queue when it has arrived. -/
theorem hasPacket_iff (holds : Holds base sent next arrived q) (consecutive : Consecutive base sent)
    (later : next ≤ i.val) (near : i.val < next + bufferSize) :
    q.hasPacket (sent.get i).seq = true ↔ i ∈ arrived := by
  rw [ReorderQueue.hasPacket_iff]
  constructor
  · rintro ⟨pkt, held, same⟩
    obtain ⟨j, isArrived, after, rfl⟩ := (holds.items pkt).mp (SlotRing.mem_items.mpr ⟨_, held⟩)
    have left := distance_get consecutive after (holds.near j isArrived)
    have right := distance_get consecutive later near
    rw [same] at left
    have place : j = i := Fin.ext (by omega)
    exact place ▸ isArrived
  · intro isArrived
    obtain ⟨index, held⟩ := SlotRing.mem_items.mp ((holds.items _).mpr ⟨i, isArrived, later, rfl⟩)
    rw [← holds.valid.placed index _ held] at held
    exact ⟨_, held, rfl⟩

/-- As long as the queue is not full, no packet that arrives is far ahead. -/
theorem lt_of_room (holds : Holds base sent next arrived q) (consecutive : Consecutive base sent)
    {window : Nat} (room : q.queueCount < window)
    (complete : ∀ other : Fin sent.length, other.val + window ≤ i.val → other ∈ arrived) :
    i.val < next + 2 * window := by
  by_contra far
  have many : window ≤ (leads base next q).length := le_length_of_covers fun lead small => by
    have inside : next + lead < sent.length := by
      have bound := i.isLt
      omega
    exact (holds.mem_leads consecutive).mpr ⟨⟨next + lead, inside⟩, complete _ (by simp only; omega), rfl⟩
  rw [length_leads holds.valid] at many
  omega

/-- When the queue is full, the next packet is there. -/
theorem mem_of_full (holds : Holds base sent next arrived q) (consecutive : Consecutive base sent) {window : Nat}
    (positive : 0 < window) (full : window ≤ q.queueCount) (isNext : i.val = next)
    (few : i ∉ arrived → ∀ other ∈ arrived, other.val < i.val + window) : i ∈ arrived := by
  by_contra missing
  have below : (leads base next q).length < window := by
    refine length_lt_of_between (nodup_leads holds.valid base next) positive fun lead member => ?_
    obtain ⟨other, isArrived, place⟩ := (holds.mem_leads consecutive).mp member
    have near := few missing other isArrived
    refine ⟨Nat.pos_of_ne_zero fun zero => ?_, by omega⟩
    have same : other = i := Fin.ext (by omega)
    exact missing (same ▸ isArrived)
  rw [length_leads holds.valid] at below
  omega

/-- A packet that has been handed out, or is held, changes nothing. -/
theorem again (holds : Holds base sent next arrived q) (known : i.val < next ∨ i ∈ arrived)
    (near : i.val < next + bufferSize) : Holds base sent next (i :: arrived) q where
  valid := holds.valid
  items pkt := by
    rw [holds.items]
    constructor
    · rintro ⟨j, isArrived, later, same⟩
      exact ⟨j, List.mem_cons_of_mem _ isArrived, later, same⟩
    · rintro ⟨j, isArrived, later, same⟩
      rcases List.mem_cons.mp isArrived with rfl | isArrived
      · exact ⟨j, known.resolve_left (by omega), later, same⟩
      · exact ⟨j, isArrived, later, same⟩
  near := List.forall_mem_cons.mpr ⟨near, holds.near⟩
  passed j before := List.mem_cons_of_mem _ (holds.passed j before)

theorem store (holds : Holds base sent next arrived q) (consecutive : Consecutive base sent) (later : next ≤ i.val)
    (near : i.val < next + bufferSize) (absent : q.hasPacket (sent.get i).seq = false) :
    Holds base sent next (i :: arrived) (q.store (sent.get i)) where
  valid := holds.valid.store _
  items pkt := by
    have window : ∀ other ∈ SlotRing.items q.queue,
        SerialNumber.distance (base + BitVec.ofNat 16 next) other.seq < bufferSize := by
      intro other member
      obtain ⟨j, isArrived, after, rfl⟩ := (holds.items other).mp member
      have close := holds.near j isArrived
      rw [distance_get consecutive after close]
      omega
    have free := free_slot holds.valid window (by rw [distance_get consecutive later near]; omega) absent
    rw [(items_store free).mem_iff, List.mem_cons, holds.items]
    constructor
    · rintro (rfl | ⟨j, isArrived, after, same⟩)
      · exact ⟨i, List.mem_cons_self, later, rfl⟩
      · exact ⟨j, List.mem_cons_of_mem _ isArrived, after, same⟩
    · rintro ⟨j, isArrived, after, same⟩
      rcases List.mem_cons.mp isArrived with rfl | isArrived
      · exact Or.inl same.symm
      · exact Or.inr ⟨j, isArrived, after, same⟩
  near := List.forall_mem_cons.mpr ⟨near, holds.near⟩
  passed j before := List.mem_cons_of_mem _ (holds.passed j before)

/-! ## A packet is received -/

theorem enqueue (holds : Holds base sent next arrived q) (consecutive : Consecutive base sent)
    (pointer : q.firstReadRtpSn = base + BitVec.ofNat 16 next) (fresh : next < i.val + seqHalfRange)
    (near : i.val < next + bufferSize) : Holds base sent next (i :: arrived) (q.enqueue (sent.get i)) := by
  rw [ReorderQueue.enqueue]
  by_cases before : i.val < next
  · rw [if_pos (isOldPacket_of_lt pointer consecutive before fresh)]
    exact holds.again (Or.inl before) near
  · have later : next ≤ i.val := Nat.le_of_not_lt before
    rw [isOldPacket_of_le pointer consecutive later near, if_neg Bool.false_ne_true]
    split
    · next present => exact holds.again (Or.inr ((holds.hasPacket_iff consecutive later near).mp present)) near
    · next absent => exact holds.store consecutive later near (Bool.eq_false_iff.mpr absent)

theorem enqueueInitial (holds : Holds base sent 0 arrived q) (consecutive : Consecutive base sent)
    (near : i.val < bufferSize) : Holds base sent 0 (i :: arrived) (q.enqueueInitial (sent.get i)) := by
  have near : i.val < 0 + bufferSize := by omega
  rw [ReorderQueue.enqueueInitial]
  split
  · next present =>
      exact holds.again (Or.inr ((holds.hasPacket_iff consecutive (Nat.zero_le _) near).mp present)) near
  · next absent =>
      have moved : ∀ first, Holds base sent 0 arrived { q with firstReadRtpSn := first } := fun first =>
        { holds with valid := holds.valid.withFirst first }
      exact (moved _).store consecutive (Nat.zero_le _) near (Bool.eq_false_iff.mpr absent)

/-- The next packet is handed out, and nothing but it leaves the queue. -/
theorem takeNextPacket (holds : Holds base sent next arrived q) (consecutive : Consecutive base sent)
    (pointer : q.firstReadRtpSn = base + BitVec.ofNat 16 next) (isNext : i.val = next) (there : i ∈ arrived)
    (inputClosed : Bool) :
    ∃ offset, TakesFirst q (sent.get i) offset ∧
      q.takeNextPacket inputClosed = (some (sent.get i, false), q.afterTake (sent.get i) offset) ∧
      Holds base sent (next + 1) arrived (q.afterTake (sent.get i) offset) := by
  have here : (sent.get i).seq = q.firstReadRtpSn := by rw [consecutive i, pointer, isNext]
  obtain ⟨index, held⟩ := SlotRing.mem_items.mp ((holds.items _).mpr ⟨i, there, by omega, rfl⟩)
  rw [← holds.valid.placed index _ held, here] at held
  have counted : q.queueCount ≠ 0 := Nat.ne_of_gt (holds.valid.queueCount_pos held)
  obtain ⟨left, expected⟩ : ∃ left, q.takeExpectedPacket = some (sent.get i, left) := by
    rw [takeExpectedPacket, held]
    exact ⟨_, if_pos (by simpa using here)⟩
  have handed := handOut_takeExpectedPacket expected
  rcases takeAvailable_cases q with ⟨-, empty⟩ | ⟨pkt, offset, taken, outcome⟩
  · rw [empty] at held
    cases held
  have same : pkt = sent.get i := by
    rw [outcome, handOut] at handed
    exact (congrArg Prod.fst (Option.some.inj (congrArg Prod.fst handed))).symm
  subst same
  have result : q.takeNextPacket inputClosed = (some (sent.get i, false), q.afterTake (sent.get i) offset) := by
    have noLoss : decide (offset > 0) = false := by
      rw [outcome, handOut] at handed
      exact (congrArg Prod.snd (Option.some.inj (congrArg Prod.fst handed))).symm
    calc q.takeNextPacket inputClosed = handOut (sent.get i) false left := by
          rw [ReorderQueue.takeNextPacket, if_neg (by simpa using counted), expected]
      _ = (some (sent.get i, false), q.afterTake (sent.get i) offset) := by rw [handed, outcome, noLoss]
  refine ⟨offset, taken, result, holds.valid.afterTake taken, fun pkt => ?_, ?_, fun j before => ?_⟩
  · constructor
    · intro member
      obtain ⟨member', slots⟩ := taken.mem_afterTake holds.valid member
      obtain ⟨j, isArrived, later, rfl⟩ := (holds.items pkt).mp member'
      refine ⟨j, isArrived, Nat.lt_of_le_of_ne later fun place => ?_, rfl⟩
      have itself : j = i := Fin.ext (by omega)
      rw [itself] at slots
      exact Nat.lt_irrefl _ slots
    · rintro ⟨j, isArrived, later, rfl⟩
      have member := (holds.items _).mpr ⟨j, isArrived, Nat.le_of_succ_le later, rfl⟩
      have left := distance_get consecutive (Nat.le_of_succ_le later) (holds.near j isArrived)
      have right := distance_get consecutive (Nat.le_of_eq isNext.symm) (holds.near i there)
      refine (List.mem_cons.mp ((SlotRing.items_clear taken.held).mem_iff.mp member)).resolve_left fun itself => ?_
      rw [itself] at left
      omega
  · intro j isArrived
    exact Nat.lt_succ_of_lt (holds.near j isArrived)
  · rcases Nat.lt_succ_iff_lt_or_eq.mp before with earlier | place
    · exact holds.passed j earlier
    · have itself : j = i := Fin.ext (by omega)
      exact itself ▸ there

end Holds

/-! ## A run of the queue -/

/-- A queue that is being sent packets: what it holds, what it still gets and in which order. -/
structure Receiving (base : BitVec 16) (sent : List RtpPacket) (next : Nat) (arrived rest : List (Fin sent.length))
    (q : ReorderQueue) : Prop where
  holds : Holds base sent next arrived q
  pointer : q.firstReadRtpSn = base + BitVec.ofNat 16 next
  pending : q.packetRx.pending = rest.map sent.get
  follows : Follows q.queueWindow seqHalfRange arrived rest
  covers : ∀ i, i ∈ arrived ∨ i ∈ rest
  bounded : next ≤ sent.length
  small : 2 * q.queueWindow ≤ bufferSize

/-- The first packet that is pending is received while there is room. -/
theorem Receiving.enqueue (receiving : Receiving base sent next arrived (i :: rest) q)
    (consecutive : Consecutive base sent) (room : q.queueCount < q.queueWindow) (clock : List GapTick) :
    Receiving base sent next (i :: arrived) rest ((q.withRx ⟨rest.map sent.get, clock⟩).enqueue (sent.get i)) := by
  obtain ⟨holds, pointer, -, follows, covers, bounded, small⟩ := receiving
  have near : i.val < next + bufferSize := by
    have ahead := holds.lt_of_room consecutive room fun other far =>
      follows.mem_of_far covers holds.valid.window far
    omega
  have fresh : next < i.val + seqHalfRange := by
    cases next with
    | zero => exact Nat.lt_of_lt_of_le (by decide) (Nat.le_add_left ..)
    | succ last =>
        -- the packet that has been handed out last is among those that have arrived
        exact (follows.1 ⟨last, bounded⟩ (holds.passed _ (Nat.lt_succ_self last))).1
  have kept : Holds base sent next arrived (q.withRx ⟨rest.map sent.get, clock⟩) :=
    { holds with valid := holds.valid.withRx _ }
  refine ⟨kept.enqueue consecutive pointer fresh near, ?_, ?_, ?_, fun other => ?_, bounded, ?_⟩
  · rw [enqueue_firstReadRtpSn]
    exact pointer
  · rw [enqueue_packetRx]
    rfl
  · rw [enqueue_queueWindow]
    exact follows.2
  · rcases covers other with isArrived | comes
    · exact Or.inl (List.mem_cons_of_mem _ isArrived)
    · rcases List.mem_cons.mp comes with rfl | later
      · exact Or.inl List.mem_cons_self
      · exact Or.inr later
  · rw [enqueue_queueWindow]
    exact small

/-- The queue collects packets until it is full or none comes any more. -/
theorem Receiving.reducePacketFrom (receiving : Receiving base sent next arrived rest q)
    (consecutive : Consecutive base sent) :
    ∃ arrived' rest', Receiving base sent next arrived' rest' (q.reducePacketFrom (rest.map sent.get)).2 ∧
      ((q.reducePacketFrom (rest.map sent.get)).1 = true →
        (q.reducePacketFrom (rest.map sent.get)).2.queueWindow ≤
          (q.reducePacketFrom (rest.map sent.get)).2.queueCount) ∧
      ((q.reducePacketFrom (rest.map sent.get)).1 = false → rest' = []) := by
  induction rest generalizing arrived q with
  | nil =>
      rw [List.map_nil, ReorderQueue.reducePacketFrom]
      split
      · exact ⟨arrived, [], receiving, nofun, fun _ => rfl⟩
      · next full => exact ⟨arrived, [], receiving, fun _ => Nat.le_of_not_lt full, nofun⟩
  | cons i rest ih =>
      rw [List.map_cons, ReorderQueue.reducePacketFrom]
      split
      · next room => exact ih (receiving.enqueue consecutive room q.packetRx.clock)
      · next full => exact ⟨arrived, i :: rest, receiving, fun _ => Nat.le_of_not_lt full, nofun⟩

/-- The step lemma: a round hands out the next packet, without a loss, or there is none left. -/
theorem Receiving.pull (receiving : Receiving base sent next arrived rest q)
    (consecutive : Consecutive base sent) :
    ∃ arrived' rest', (q.pull ()).1 = none ∧ Receiving base sent next arrived' rest' (q.pull ()).2 ∨
      ∃ i : Fin sent.length, i.val = next ∧ (q.pull ()).1 = some (sent.get i, false) ∧
        Receiving base sent (next + 1) arrived' rest' (q.pull ()).2 := by
  obtain ⟨arrived', rest', reduced, full, closed⟩ := receiving.reducePacketFrom consecutive
  rw [← receiving.pending] at reduced full closed
  refine ⟨arrived', rest', ?_⟩
  rw [ReorderQueue.pull]
  change Receiving base sent next arrived' rest' q.reducePacket.2 at reduced
  obtain ⟨holds, pointer, pending, follows, covers, bounded, small⟩ := reduced
  by_cases empty : q.reducePacket.2.queueCount = 0
  · rw [takeNextPacket, if_pos (by simpa using empty)]
    exact Or.inl ⟨rfl, holds, pointer, pending, follows, covers, bounded, small⟩
  · -- something is held, so that the next packet is one that has been sent
    obtain ⟨pkt, member⟩ : ∃ pkt, pkt ∈ SlotRing.items q.reducePacket.2.queue := by
      refine List.exists_mem_of_length_pos ?_
      rw [← SlotRing.occupied_eq_length, ← holds.valid.counted]
      exact Nat.pos_of_ne_zero empty
    obtain ⟨held, -, later, -⟩ := (holds.items pkt).mp member
    have inside : next < sent.length := Nat.lt_of_le_of_lt later held.isLt
    have there : (⟨next, inside⟩ : Fin sent.length) ∈ arrived' := by
      cases flag : q.reducePacket.1 with
      | true =>
          refine holds.mem_of_full consecutive holds.valid.window (full flag) rfl fun missing => ?_
          exact follows.lt_of_missing ((covers _).resolve_left missing) missing
      | false =>
          refine (covers _).resolve_right fun comes => ?_
          rw [closed flag] at comes
          cases comes
    obtain ⟨offset, -, taken, after⟩ :=
      holds.takeNextPacket consecutive pointer rfl there (!q.reducePacket.1)
    refine Or.inr ⟨⟨next, inside⟩, rfl, by rw [taken], ?_⟩
    rw [taken]
    refine ⟨after, ?_, pending, follows, covers, inside, small⟩
    change (sent.get ⟨next, inside⟩).seq + 1#16 = _
    rw [consecutive, BitVec.ofNat_add, BitVec.add_assoc]

/-- The run lemma: what is handed out is what has been sent, up to where the queue is. -/
theorem Receiving.run (receiving : Receiving base sent next arrived rest q) (consecutive : Consecutive base sent)
    (turns : List Unit) :
    ∃ later arrived' rest', Receiving base sent later arrived' rest' (Runs.final ReorderQueue.pull q turns) ∧
      (Runs.run ReorderQueue.pull q turns).filterMap Runs.Transition.result ++
          (sent.drop later).map (fun pkt => (pkt, false)) =
        (sent.drop next).map fun pkt => (pkt, false) := by
  induction turns generalizing next arrived rest q with
  | nil => exact ⟨next, arrived, rest, receiving, rfl⟩
  | cons turn turns ih =>
      obtain ⟨arrived', rest', ⟨none, idle⟩ | ⟨i, isNext, handed, moved⟩⟩ := receiving.pull consecutive
      · obtain ⟨later, arrived'', rest'', last, whole⟩ := ih idle
        refine ⟨later, arrived'', rest'', last, ?_⟩
        simpa only [Runs.run_cons, Runs.transition, List.filterMap_cons, none] using whole
      · obtain ⟨later, arrived'', rest'', last, whole⟩ := ih moved
        refine ⟨later, arrived'', rest'', last, ?_⟩
        have first : sent.drop next = sent.get i :: sent.drop (next + 1) := by
          rw [← isNext, List.drop_eq_getElem_cons i.isLt]
          rfl
        simp only [Runs.run_cons, Runs.transition, List.filterMap_cons, handed]
        rw [List.cons_append, whole, first, List.map_cons]

/-! ## The initial fill -/

/-- A queue that is being filled: the lowest number that has come is the first one to read. -/
structure FillingUp (base : BitVec 16) (sent : List RtpPacket) (arrived rest : List (Fin sent.length))
    (q : ReorderQueue) : Prop where
  holds : Holds base sent 0 arrived q
  filling : Filling base q
  pending : q.packetRx.pending = rest.map sent.get
  follows : Follows q.queueWindow seqHalfRange arrived rest
  covers : ∀ i, i ∈ arrived ∨ i ∈ rest
  small : 2 * q.queueWindow ≤ bufferSize
  enough : q.queueWindow ≤ sent.length

theorem FillingUp.enqueueInitial (fillingUp : FillingUp base sent arrived (i :: rest) q)
    (consecutive : Consecutive base sent) (room : q.queueCount < q.queueWindow) (clock : List GapTick) :
    FillingUp base sent (i :: arrived) rest
      ((q.withRx ⟨rest.map sent.get, clock⟩).enqueueInitial (sent.get i)) := by
  obtain ⟨holds, filling, -, follows, covers, small, enough⟩ := fillingUp
  have near : i.val < bufferSize := by
    have ahead := holds.lt_of_room consecutive room fun other far =>
      follows.mem_of_far covers holds.valid.window far
    omega
  have close : SerialNumber.distance base (sent.get i).seq < bufferSize := by
    have lead := distance_get consecutive (Nat.zero_le i.val) (by omega)
    rw [BitVec.add_zero] at lead
    omega
  have kept : Holds base sent 0 arrived (q.withRx ⟨rest.map sent.get, clock⟩) :=
    { holds with valid := holds.valid.withRx _ }
  have started : Filling base (q.withRx ⟨rest.map sent.get, clock⟩) := ⟨filling.window, filling.lowest⟩
  have window : ((q.withRx ⟨rest.map sent.get, clock⟩).enqueueInitial (sent.get i)).queueWindow = q.queueWindow := by
    rw [ReorderQueue.enqueueInitial]
    split <;> rfl
  refine ⟨kept.enqueueInitial consecutive near, (started.enqueueInitial kept.valid close).1, ?_, ?_,
    fun other => ?_, ?_, ?_⟩
  · rw [enqueueInitial_packetRx]
    rfl
  · rw [window]
    exact follows.2
  · rcases covers other with isArrived | comes
    · exact Or.inl (List.mem_cons_of_mem _ isArrived)
    · rcases List.mem_cons.mp comes with rfl | later
      · exact Or.inl List.mem_cons_self
      · exact Or.inr later
  · rw [window]
    exact small
  · rw [window]
    exact enough

/-- Enough packets come to fill the queue. -/
theorem FillingUp.calculateIndexFrom (fillingUp : FillingUp base sent arrived rest q)
    (consecutive : Consecutive base sent) :
    ∃ filled arrived' rest', q.calculateIndexFrom (rest.map sent.get) = .ok filled ∧
      FillingUp base sent arrived' rest' filled ∧ filled.queueWindow ≤ filled.queueCount := by
  induction rest generalizing arrived q with
  | nil =>
      have many : sent.length ≤ (leads base 0 q).length := le_length_of_covers fun lead inside => by
        have there := (fillingUp.covers ⟨lead, inside⟩).resolve_right List.not_mem_nil
        exact (fillingUp.holds.mem_leads consecutive).mpr ⟨_, there, (Nat.zero_add lead).symm⟩
      rw [length_leads fillingUp.holds.valid] at many
      have full := Nat.le_trans fillingUp.enough many
      rw [List.map_nil, ReorderQueue.calculateIndexFrom, if_neg (Nat.not_lt_of_le full)]
      exact ⟨q, arrived, [], rfl, fillingUp, full⟩
  | cons i rest ih =>
      rw [List.map_cons, ReorderQueue.calculateIndexFrom]
      split
      · next room => exact ih (fillingUp.enqueueInitial consecutive room q.packetRx.clock)
      · next full => exact ⟨q, arrived, i :: rest, rfl, fillingUp, Nat.le_of_not_lt full⟩

/-- A queue that is full begins with the first packet that has been sent. -/
theorem FillingUp.receiving (fillingUp : FillingUp base sent arrived rest q)
    (consecutive : Consecutive base sent) (full : q.queueWindow ≤ q.queueCount) :
    Receiving base sent 0 arrived rest q := by
  obtain ⟨holds, filling, pending, follows, covers, small, enough⟩ := fillingUp
  have positive := holds.valid.window
  let first : Fin sent.length := ⟨0, Nat.lt_of_lt_of_le positive enough⟩
  have there : first ∈ arrived := holds.mem_of_full consecutive positive full rfl fun missing =>
    follows.lt_of_missing ((covers first).resolve_left missing) missing
  have lowest := (filling.lowest (Nat.ne_of_gt (Nat.lt_of_lt_of_le positive full))).2 (sent.get first)
    ((holds.items _).mpr ⟨first, there, Nat.zero_le _, rfl⟩)
  have itself : (sent.get first).seq = base := by
    rw [consecutive first]
    exact BitVec.add_zero base
  rw [itself, SerialNumber.distance_self, Nat.le_zero] at lowest
  have pointer : q.firstReadRtpSn = base :=
    SerialNumber.distance_injective (lowest.trans (SerialNumber.distance_self base).symm)
  refine ⟨holds, ?_, pending, follows, covers, Nat.zero_le _, small⟩
  rw [pointer, BitVec.add_zero]

end ReorderQueue

namespace RtpPacketBuffer

open ReorderQueue

variable {kind : PayloadKind} {base : BitVec 16} {sent : List RtpPacket} {order : List (Fin sent.length)}

/-- Packets that arrive nearly in order start the buffer. -/
theorem init_receiving (aacAdts : AacAdtsConfig) (clock : List GapTick) (consecutive : Consecutive base sent)
    (each : ∀ i, i ∈ order) (follows : Follows (reorderWindow kind) seqHalfRange [] order)
    (enough : reorderWindow kind ≤ sent.length) :
    ∃ b arrived rest, init ⟨order.map sent.get, clock⟩ kind aacAdts = .ok b ∧
      b.assembly = AuAssembler.new kind aacAdts ∧ Receiving base sent 0 arrived rest b.reorder := by
  have nothing : SlotRing.items (ReorderQueue.new ⟨order.map sent.get, clock⟩ kind).queue = [] := SlotRing.items_empty
  have start : FillingUp base sent [] order (ReorderQueue.new ⟨order.map sent.get, clock⟩ kind) := by
    refine ⟨⟨WellFormed.new _ kind, fun pkt => ?_, nofun, nofun⟩, ⟨?_, fun counted => absurd rfl counted⟩, rfl, follows,
      fun i => Or.inr (each i), ?_, enough⟩
    · rw [nothing]
      simp
    · rw [nothing]
      nofun
    · change 2 * reorderWindow kind ≤ bufferSize
      cases kind <;> decide
  obtain ⟨filled, arrived, rest, calculated, fillingUp, full⟩ := start.calculateIndexFrom consecutive
  refine ⟨⟨filled, AuAssembler.new kind aacAdts⟩, arrived, rest, ?_, rfl, fillingUp.receiving consecutive full⟩
  have indexed : (ReorderQueue.new ⟨order.map sent.get, clock⟩ kind).calculateIndex = .ok filled := calculated
  rw [init, indexed]

/-- What the calls of a run are handed is what has been sent, up to where the queue is. -/
theorem handedOut_receiving {b : RtpPacketBuffer} {arrived rest : List (Fin sent.length)}
    (receiving : Receiving base sent 0 arrived rest b.reorder) (consecutive : Consecutive base sent)
    (lengths : List Nat) :
    ∃ later arrived' rest', Receiving base sent later arrived' rest' (b.afterRun lengths).reorder ∧
      b.handedOut lengths ++ (sent.drop later).map (fun pkt => (pkt, false)) = sent.map fun pkt => (pkt, false) := by
  obtain ⟨turns, rounds, final⟩ := runRounds_rounds b lengths
  obtain ⟨later, arrived', rest', last, whole⟩ := receiving.run consecutive turns
  refine ⟨later, arrived', rest', ?_, ?_⟩
  · rwa [final]
  · rw [handedOut, rounds]
    exact whole

/-- When nothing is left to receive or to hand out, all has been handed out. -/
theorem handedOut_of_exhausted {b : RtpPacketBuffer} {arrived rest : List (Fin sent.length)}
    (receiving : Receiving base sent 0 arrived rest b.reorder) (consecutive : Consecutive base sent)
    {lengths : List Nat} (exhausted : Exhausted (b.afterRun lengths).reorder) :
    b.handedOut lengths = sent.map fun pkt => (pkt, false) := by
  obtain ⟨later, arrived', rest', ⟨holds, -, pending, -, covers, -, -⟩, whole⟩ :=
    handedOut_receiving receiving consecutive lengths
  have all : sent.length ≤ later := by
    by_contra inside
    rw [exhausted.1] at pending
    have there := (covers ⟨later, Nat.lt_of_not_le inside⟩).resolve_right fun comes => by
      rw [List.map_eq_nil_iff.mp pending.symm] at comes
      cases comes
    have member := (holds.items _).mpr ⟨_, there, Nat.le_refl later, rfl⟩
    rw [SlotRing.items_eq_nil_iff.mpr (holds.valid.queue_eq_none exhausted.2)] at member
    cases member
  rwa [List.drop_of_length_le all, List.map_nil, List.append_nil] at whole

/-- A round of a queue that is exhausted changes nothing. -/
theorem pull_exhausted {q : ReorderQueue} (exhausted : Exhausted q) : q.pull () = (none, q) := by
  have reduced : q.reducePacket.2 = q := by
    rw [reducePacket, exhausted.1, reducePacketFrom]
    split <;> rfl
  rw [pull, reduced, takeNextPacket, if_pos (by simp [exhausted.2])]

theorem Rounds.exhausted {before after : ReorderQueue} {rounds : List Round} (run : Rounds before rounds after)
    (exhausted : Exhausted before) : after = before ∧ rounds.filterMap Runs.Transition.result = [] := by
  obtain ⟨turns, rfl, rfl⟩ := run
  induction turns with
  | nil => exact ⟨rfl, rfl⟩
  | cons turn turns ih =>
      have idle : before.pull turn = (none, before) := pull_exhausted exhausted
      rw [Runs.final_cons, Runs.run_cons, List.filterMap_cons, Runs.transition, idle]
      exact ih

/-- Once the demuxer has been told that there is no more, there is none. -/
theorem exhausted_of_none {b : RtpPacketBuffer} (reachable : Reachable b.reorder) {lengths : List Nat}
    (ends : ∃ call ∈ b.consumeRun lengths, call.result = none) : Exhausted (b.afterRun lengths).reorder := by
  induction lengths generalizing b with
  | nil =>
      obtain ⟨call, member, -⟩ := ends
      cases member
  | cons maxConsumeLen lengths ih =>
      obtain ⟨call, member, none⟩ := ends
      rw [afterRun]
      rcases List.mem_cons.mp member with rfl | later
      · have exhausted := consumePacket_eq_none b maxConsumeLen reachable.wellFormed none
        rwa [((runRounds_rounds _ lengths).exhausted exhausted).1]
      · exact ih ((consumePacket_rounds b maxConsumeLen).reachable reachable).2 ⟨call, later, none⟩

/-- Packets that arrive nearly in order are handed out in the order in which they have been sent, and none with a
loss before it, whatever the clock says; all of them, once the demuxer is told that there is no more. -/
theorem reordering_undone (kind : PayloadKind) (aacAdts : AacAdtsConfig) (clock : List GapTick) (base : BitVec 16)
    (sent : List RtpPacket) (order : List (Fin sent.length)) (consecutive : Consecutive base sent)
    (each : ∀ i, i ∈ order) (follows : Follows (reorderWindow kind) seqHalfRange [] order)
    (enough : reorderWindow kind ≤ sent.length) :
    ∃ b, init ⟨order.map sent.get, clock⟩ kind aacAdts = .ok b ∧ ∀ lengths : List Nat,
      b.handedOut lengths <+: sent.map (fun pkt => (pkt, false)) ∧
        ((∃ call ∈ b.consumeRun lengths, call.result = none) →
          b.handedOut lengths = sent.map fun pkt => (pkt, false)) := by
  obtain ⟨b, arrived, rest, started, -, receiving⟩ := init_receiving aacAdts clock consecutive each follows enough
  refine ⟨b, started, fun lengths => ⟨?_, fun ends => ?_⟩⟩
  · obtain ⟨later, -, -, -, whole⟩ := handedOut_receiving receiving consecutive lengths
    exact ⟨_, whole⟩
  · exact handedOut_of_exhausted receiving consecutive (exhausted_of_none (init_reachable started) ends)

/-- Across the end of the number space, with packets that overtake and a copy that comes late. -/
theorem reordering_undone_swapped :
    let sent := numbered [65532, 65533, 65534, 65535, 0, 1, 2, 3, 4, 5]
    let order : List (Fin 10) := [1, 0, 2, 7, 3, 2, 4, 6, 5, 0, 9, 8]
    ∃ b, init ⟨order.map sent.get, []⟩ .g711 ⟨8000, 1⟩ = .ok b ∧ ∀ lengths : List Nat,
      b.handedOut lengths <+: sent.map (fun pkt => (pkt, false)) ∧
        ((∃ call ∈ b.consumeRun lengths, call.result = none) →
          b.handedOut lengths = sent.map fun pkt => (pkt, false)) := by
  intro sent order
  have consecutive : Consecutive 65532#16 sent := by decide
  have each : ∀ i, i ∈ order := by decide
  have follows : Follows (reorderWindow .g711) seqHalfRange [] order := by decide
  exact reordering_undone .g711 ⟨8000, 1⟩ [] 65532#16 sent order consecutive each follows (by decide)

end RtpPacketBuffer

end Gmv.Stream
