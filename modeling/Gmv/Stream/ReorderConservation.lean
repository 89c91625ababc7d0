import Gmv.Stream.ReorderOrder

/-!
# Conservation of packets in the reorder queue

As long as every packet arrives less than 1024 sequence numbers ahead of the
read pointer, a slot stands for one sequence number only.  The packets accepted
on arrival are then, up to order, the packets handed out together with those
still buffered, and `consume_packet` reports the end of the stream only when
nothing is buffered any more.
-/

namespace Gmv.Stream

open Gmv.Library

namespace ReorderQueue

/-- The arrivals that are neither old nor duplicates of a buffered packet. -/
def accepted : ReorderQueue → List RtpPacket → List RtpPacket
  | _, [] => []
  | q, pkt :: rest =>
      if q.isOldPacket pkt.seq || q.hasPacket pkt.seq then accepted (q.enqueue pkt) rest
      else pkt :: accepted (q.enqueue pkt) rest

/-- The packets of the initial fill that are not duplicates of a buffered one. -/
def acceptedInitially : ReorderQueue → List RtpPacket → List RtpPacket
  | _, [] => []
  | q, pkt :: rest =>
      if q.hasPacket pkt.seq then acceptedInitially (q.enqueueInitial pkt) rest
      else pkt :: acceptedInitially (q.enqueueInitial pkt) rest

/-- Every buffered packet is less than 1024 ahead of the read pointer. -/
def InWindow (q : ReorderQueue) : Prop :=
  ∀ pkt ∈ SlotRing.items q.queue, q.ahead pkt.seq < bufferSize

/-- An arrival is old or less than 1024 ahead of the read pointer. -/
def Close (q : ReorderQueue) (pkt : RtpPacket) : Prop :=
  q.isOldPacket pkt.seq = true ∨ q.ahead pkt.seq < bufferSize

instance (q : ReorderQueue) (pkt : RtpPacket) : Decidable (q.Close pkt) :=
  inferInstanceAs (Decidable (_ ∨ _))

/-! ## One arrival -/

/-- Within a window that follows `base`, a slot stands for one sequence number. -/
theorem free_slot {q : ReorderQueue} (valid : WellFormed q) {base : BitVec 16}
    (window : ∀ other ∈ SlotRing.items q.queue,
      SerialNumber.distance base other.seq < bufferSize)
    {pkt : RtpPacket} (near : SerialNumber.distance base pkt.seq < bufferSize)
    (absent : q.hasPacket pkt.seq = false) : q.queue (slotOf pkt.seq) = none := by
  cases held : q.queue (slotOf pkt.seq) with
  | none => rfl
  | some other =>
      have otherNear := window other (SlotRing.mem_items.mpr ⟨_, held⟩)
      have sameSlot := congrArg Fin.val (valid.placed _ other held)
      have left := SerialNumber.toNat_mod_eq base pkt.seq (n := 1024) (by decide)
      have right := SerialNumber.toNat_mod_eq base other.seq (n := 1024) (by decide)
      simp only [slotOf, bufferSize] at sameSlot otherNear near
      have same : other.seq = pkt.seq :=
        SerialNumber.distance_injective (show SerialNumber.distance base other.seq =
          SerialNumber.distance base pkt.seq by omega)
      have present := (hasPacket_iff q pkt.seq).mpr ⟨other, held, same⟩
      rw [absent] at present
      cases present

theorem items_store {q : ReorderQueue} {pkt : RtpPacket}
    (free : q.queue (slotOf pkt.seq) = none) :
    (SlotRing.items (q.store pkt).queue).Perm (pkt :: SlotRing.items q.queue) :=
  SlotRing.items_put free pkt

theorem InWindow.enqueue {q : ReorderQueue} (valid : WellFormed q) (window : q.InWindow)
    {pkt : RtpPacket} (close : q.Close pkt) :
    (q.enqueue pkt).InWindow ∧
      (SlotRing.items (q.enqueue pkt).queue).Perm
        ((if q.isOldPacket pkt.seq || q.hasPacket pkt.seq then [] else [pkt]) ++
          SlotRing.items q.queue) := by
  unfold ReorderQueue.enqueue
  cases old : q.isOldPacket pkt.seq with
  | true => exact ⟨window, by simp⟩
  | false =>
      cases present : q.hasPacket pkt.seq with
      | true => exact ⟨window, by simp⟩
      | false =>
          have near : q.ahead pkt.seq < bufferSize := close.resolve_left (by simp [old])
          have free := free_slot valid window near present
          refine ⟨?_, by simpa using items_store free⟩
          intro other member
          rcases mem_items_store valid member with rfl | ⟨kept, -⟩
          · exact near
          · exact window other kept

theorem isOldPacket_enqueue (q : ReorderQueue) (pkt other : RtpPacket) :
    (q.enqueue pkt).Close other ↔ q.Close other := by
  simp only [Close, isOldPacket, ahead, enqueue_firstReadRtpSn]

theorem InWindow.enqueueAll {q : ReorderQueue} (valid : WellFormed q) (window : q.InWindow)
    {pkts : List RtpPacket} (close : ∀ pkt ∈ pkts, q.Close pkt) :
    (q.enqueueAll pkts).InWindow ∧
      (SlotRing.items (q.enqueueAll pkts).queue).Perm
        (q.accepted pkts ++ SlotRing.items q.queue) := by
  induction pkts generalizing q with
  | nil => exact ⟨window, by simp [accepted]⟩
  | cons pkt rest ih =>
      obtain ⟨nextWindow, added⟩ := window.enqueue valid (close pkt (List.mem_cons_self ..))
      obtain ⟨finalWindow, more⟩ := ih (valid.enqueue pkt) nextWindow (fun other inRest =>
        (isOldPacket_enqueue q pkt other).mpr (close other (List.mem_cons_of_mem _ inRest)))
      refine ⟨finalWindow, ?_⟩
      refine more.trans ((added.append_left _).trans ?_)
      rw [accepted]
      by_cases dropped : (q.isOldPacket pkt.seq || q.hasPacket pkt.seq) = true
      · rw [if_pos dropped, if_pos dropped, List.nil_append]
      · rw [if_neg dropped, if_neg dropped, List.cons_append, List.nil_append]
        exact List.perm_middle

/-! ## The window implies slot order -/

theorem InWindow.inOrder {q : ReorderQueue} (window : q.InWindow) : q.InOrder := by
  refine ⟨?_, ?_⟩
  · intro pkt member
    have near := window pkt member
    simp only [bufferSize, seqHalfRange] at *
    omega
  · intro pkt member other otherMember slots
    have near := window pkt member
    have otherNear := window other otherMember
    simp only [slotsAhead_eq, bufferSize] at *
    omega

theorem InWindow.fits {q : ReorderQueue} (window : q.InWindow) {pkt : RtpPacket}
    (near : q.ahead pkt.seq < bufferSize) : q.Fits pkt := by
  refine ⟨?_, ?_⟩
  · simp only [bufferSize, seqHalfRange] at *
    omega
  · intro other member _
    have otherNear := window other member
    simp only [slotsAhead_eq, bufferSize] at *
    omega

theorem InWindow.admitsAll {q : ReorderQueue} (valid : WellFormed q) (window : q.InWindow)
    {pkts : List RtpPacket} (close : ∀ pkt ∈ pkts, q.Close pkt) : q.AdmitsAll pkts := by
  induction pkts generalizing q with
  | nil => trivial
  | cons pkt rest ih =>
      have here := close pkt (List.mem_cons_self ..)
      refine ⟨?_, ih (valid.enqueue pkt) (window.enqueue valid here).1 (fun other inRest =>
        (isOldPacket_enqueue q pkt other).mpr (close other (List.mem_cons_of_mem _ inRest)))⟩
      rcases here with old | near
      · exact .inl old
      · exact .inr (.inr (window.fits near))

/-! ## One round and a run of rounds -/

theorem InWindow.afterTake {q : ReorderQueue} (valid : WellFormed q) (window : q.InWindow)
    {pkt : RtpPacket} {offset : Nat} (taken : TakesFirst q pkt offset) :
    (q.afterTake pkt offset).InWindow := by
  intro other member
  obtain ⟨otherMember, slots⟩ := taken.mem_afterTake valid member
  have near := window other otherMember
  have further := window.inOrder.2 pkt (SlotRing.mem_items.mpr ⟨_, taken.held⟩) other otherMember
    slots
  have shorter : (q.afterTake pkt offset).ahead other.seq =
      q.ahead other.seq - q.ahead pkt.seq - 1 := SerialNumber.distance_advance further
  omega

/-- The step lemma: a round accepts its close arrivals into the queue and hands
out at most one packet of it. -/
theorem InWindow.pull {q : ReorderQueue} (valid : WellFormed q) (window : q.InWindow)
    (close : ∀ pkt ∈ q.receivedUntil (q.pull ()).2, q.Close pkt) :
    (q.pull ()).2.InWindow ∧
      (q.accepted (q.receivedUntil (q.pull ()).2) ++ SlotRing.items q.queue).Perm
        ((q.pull ()).1.toList.map Prod.fst ++ SlotRing.items (q.pull ()).2.queue) := by
  obtain ⟨arrived, ready, received, readyValid, result⟩ := pull_cases valid
  have arrivedInto (near : ∀ pkt ∈ arrived, q.Close pkt) : ready.InWindow ∧
      (SlotRing.items ready.queue).Perm (q.accepted arrived ++ SlotRing.items q.queue) := by
    rw [received.enqueued]
    exact window.enqueueAll valid near
  rcases result with ⟨outcome, -⟩ | ⟨pkt, offset, taken, outcome⟩
  · rw [outcome, received.receivedUntil_eq] at close
    rw [outcome, received.receivedUntil_eq]
    obtain ⟨readyWindow, added⟩ := arrivedInto close
    exact ⟨readyWindow, by simpa using added.symm⟩
  · have arrivedEq : q.receivedUntil (ready.afterTake pkt offset) = arrived :=
      received.receivedUntil_eq
    rw [outcome, arrivedEq] at close
    rw [outcome, arrivedEq]
    obtain ⟨readyWindow, added⟩ := arrivedInto close
    refine ⟨readyWindow.afterTake readyValid taken, added.symm.trans ?_⟩
    rw [Option.toList_some, List.map_singleton, List.singleton_append]
    exact SlotRing.items_clear taken.held

/-- The packets accepted during some rounds. -/
def acceptedIn (rounds : List Round) : List RtpPacket :=
  rounds.flatMap fun round => round.before.accepted (arrivals round)

/-- The run lemma: over any number of rounds, what is accepted and was buffered
is what is handed out and stays buffered. -/
theorem InWindow.run {q : ReorderQueue} (valid : WellFormed q) (window : q.InWindow)
    {turns : List Unit}
    (close : ∀ round ∈ Runs.run ReorderQueue.pull q turns,
      ∀ pkt ∈ arrivals round, round.before.Close pkt) :
    (∀ round ∈ Runs.run ReorderQueue.pull q turns,
        round.before.AdmitsAll (arrivals round)) ∧
      (SlotRing.items q.queue ++ acceptedIn (Runs.run ReorderQueue.pull q turns)).Perm
        (((Runs.run ReorderQueue.pull q turns).filterMap Runs.Transition.result).map Prod.fst ++
          SlotRing.items (Runs.final ReorderQueue.pull q turns).queue) := by
  induction turns generalizing q with
  | nil => simp [acceptedIn]
  | cons turn rest ih =>
      have closeHere := close _ (List.mem_cons_self ..)
      obtain ⟨nextWindow, moved⟩ := window.pull valid closeHere
      obtain ⟨admitted, balance⟩ := ih (valid.pull turn) nextWindow
        (fun round inRest => close round (List.mem_cons_of_mem _ inRest))
      refine ⟨?_, ?_⟩
      · intro round member
        rcases List.mem_cons.mp member with rfl | inRest
        · exact window.admitsAll valid closeHere
        · exact admitted round inRest
      · have handedHere : ((Runs.run ReorderQueue.pull q (turn :: rest)).filterMap
            Runs.Transition.result).map Prod.fst =
            (q.pull ()).1.toList.map Prod.fst ++
              ((Runs.run ReorderQueue.pull (q.pull ()).2 rest).filterMap
                Runs.Transition.result).map Prod.fst := by
          rw [Runs.run_cons, List.filterMap_cons]
          cases result : (q.pull ()).1 with
          | none => simp [Runs.transition, result]
          | some handed => simp [Runs.transition, result]
        rw [handedHere, Runs.final_cons, List.append_assoc]
        refine List.Perm.trans ?_ (balance.append_left _)
        rw [← List.append_assoc]
        refine List.Perm.trans ?_ (moved.append_right _)
        change (SlotRing.items q.queue ++ (q.accepted (q.receivedUntil (q.pull ()).2) ++
          acceptedIn (Runs.run ReorderQueue.pull (q.pull ()).2 rest))).Perm _
        rw [← List.append_assoc]
        exact List.perm_append_comm.append_right _

/-! ## The initial fill -/

/-- Enqueue the packets of the initial fill in order. -/
def fillAll (q : ReorderQueue) (pkts : List RtpPacket) : ReorderQueue :=
  pkts.foldl enqueueInitial q

theorem enqueueInitial_withRx (q : ReorderQueue) (packetRx : Receiver) (pkt : RtpPacket) :
    (q.withRx packetRx).enqueueInitial pkt = (q.enqueueInitial pkt).withRx packetRx := by
  unfold enqueueInitial
  change (if q.hasPacket pkt.seq then q.withRx packetRx else _) = _
  split <;> rfl

theorem fillAll_withRx (q : ReorderQueue) (packetRx : Receiver) (pkts : List RtpPacket) :
    (q.withRx packetRx).fillAll pkts = (q.fillAll pkts).withRx packetRx := by
  induction pkts generalizing q with
  | nil => rfl
  | cons pkt rest ih =>
      change ((q.withRx packetRx).enqueueInitial pkt).fillAll rest = _
      rw [enqueueInitial_withRx, ih]
      rfl

theorem enqueueInitial_packetRx (q : ReorderQueue) (pkt : RtpPacket) :
    (q.enqueueInitial pkt).packetRx = q.packetRx := by
  unfold enqueueInitial
  split <;> rfl

theorem calculateIndexFrom_fills (q : ReorderQueue) (pending : List RtpPacket)
    (same : q.packetRx.pending = pending) {filled : ReorderQueue}
    (done : q.calculateIndexFrom pending = .ok filled) :
    pending = q.receivedUntil filled ++ filled.packetRx.pending ∧
      filled = (q.fillAll (q.receivedUntil filled)).withRx filled.packetRx ∧
      filled.queueWindow ≤ filled.queueCount := by
  induction pending generalizing q with
  | nil =>
      unfold calculateIndexFrom at done
      split at done
      · cases done
      · next full =>
          cases done
          simp only [receivedUntil, same, Nat.sub_self, List.take_zero, List.append_nil]
          exact ⟨trivial, rfl, Nat.le_of_not_lt full⟩
  | cons pkt rest ih =>
      unfold calculateIndexFrom at done
      split at done
      · let next := (q.withRx ⟨rest, q.packetRx.clock⟩).enqueueInitial pkt
        have nextRx : next.packetRx = ⟨rest, q.packetRx.clock⟩ := enqueueInitial_packetRx _ pkt
        have nextPending : next.packetRx.pending = rest := by rw [nextRx]
        obtain ⟨split, fill, full⟩ := ih next nextPending done
        have count : rest.length =
            (next.receivedUntil filled).length + filled.packetRx.pending.length := by
          rw [← List.length_append, ← split]
        have more : q.receivedUntil filled = pkt :: next.receivedUntil filled := by
          unfold receivedUntil
          rw [same, nextPending, List.length_cons, Nat.sub_add_comm (by omega),
            List.take_succ_cons]
        rw [more]
        refine ⟨by rw [List.cons_append, ← split], ?_, full⟩
        have first : q.fillAll (pkt :: next.receivedUntil filled) =
            (q.enqueueInitial pkt).fillAll (next.receivedUntil filled) := rfl
        have nextEq : next = (q.enqueueInitial pkt).withRx ⟨rest, q.packetRx.clock⟩ :=
          enqueueInitial_withRx ..
        conv_lhs => rw [fill, nextEq, fillAll_withRx]
        rw [first, nextEq]
        rfl
      · next full =>
          cases done
          simp only [receivedUntil, same, Nat.sub_self, List.take_zero, List.nil_append]
          exact ⟨trivial, rfl, Nat.le_of_not_lt full⟩

/-- During an initial fill that spans fewer than 1024 numbers from `base` on, the
read pointer is the lowest number received. -/
structure Filling (base : BitVec 16) (q : ReorderQueue) : Prop where
  window : ∀ pkt ∈ SlotRing.items q.queue, SerialNumber.distance base pkt.seq < bufferSize
  lowest : q.queueCount ≠ 0 → SerialNumber.distance base q.firstReadRtpSn < bufferSize ∧
    ∀ pkt ∈ SlotRing.items q.queue,
      SerialNumber.distance base q.firstReadRtpSn ≤ SerialNumber.distance base pkt.seq

theorem seqBefore_iff {base seq first : BitVec 16}
    (near : SerialNumber.distance base seq < bufferSize)
    (firstNear : SerialNumber.distance base first < bufferSize) :
    seqBefore seq first = true ↔
      SerialNumber.distance base seq < SerialNumber.distance base first := by
  have back : (first - seq).toNat = SerialNumber.distance seq first := rfl
  simp only [seqBefore, bne_iff_ne, ne_eq, Bool.and_eq_true, decide_eq_true_eq, back,
    seqHalfRange, bufferSize] at *
  rcases Nat.lt_trichotomy (SerialNumber.distance base seq) (SerialNumber.distance base first)
    with before | same | after
  · have gap := SerialNumber.distance_sub (Nat.le_of_lt before)
    refine ⟨fun _ => before, fun _ => ⟨?_, by omega⟩⟩
    rintro rfl
    omega
  · have equal := SerialNumber.distance_injective same
    simp [equal]
  · have gap := SerialNumber.distance_backwards after
    constructor
    · rintro ⟨-, small⟩
      omega
    · intro before
      omega

theorem Filling.enqueueInitial {base : BitVec 16} {q : ReorderQueue} (valid : WellFormed q)
    (filling : Filling base q) {pkt : RtpPacket}
    (near : SerialNumber.distance base pkt.seq < bufferSize) :
    Filling base (q.enqueueInitial pkt) ∧
      (SlotRing.items (q.enqueueInitial pkt).queue).Perm
        ((if q.hasPacket pkt.seq then [] else [pkt]) ++ SlotRing.items q.queue) := by
  unfold ReorderQueue.enqueueInitial
  cases present : q.hasPacket pkt.seq with
  | true => exact ⟨filling, by simp⟩
  | false =>
      have free := free_slot valid filling.window near present
      let first := if q.queueCount == 0 || seqBefore pkt.seq q.firstReadRtpSn then pkt.seq
        else q.firstReadRtpSn
      let moved : ReorderQueue := { q with firstReadRtpSn := first }
      have members : ∀ other ∈ SlotRing.items (moved.store pkt).queue,
          other = pkt ∨ other ∈ SlotRing.items q.queue := fun other member =>
        (mem_items_store (valid.withFirst first) member).imp_right And.left
      have low : SerialNumber.distance base first ≤ SerialNumber.distance base pkt.seq ∧
          ∀ other ∈ SlotRing.items q.queue,
            SerialNumber.distance base first ≤ SerialNumber.distance base other.seq := by
        by_cases empty : q.queueCount = 0
        · have none := SlotRing.items_eq_nil_iff.mpr (valid.queue_eq_none empty)
          simp [first, empty, none]
        · obtain ⟨firstNear, below⟩ := filling.lowest empty
          have compare := seqBefore_iff near firstNear
          cases before : seqBefore pkt.seq q.firstReadRtpSn with
          | true =>
              have nearer := compare.mp before
              have pick : first = pkt.seq := by simp [first, before]
              rw [pick]
              refine ⟨Nat.le_refl _, fun other member => ?_⟩
              have bound := below other member
              omega
          | false =>
              have further := mt compare.mpr (by simp [before])
              have pick : first = q.firstReadRtpSn := by simp [first, before, empty]
              rw [pick]
              exact ⟨by omega, below⟩
      refine ⟨⟨?_, fun _ => ⟨?_, ?_⟩⟩, ?_⟩
      · intro other member
        rcases members other member with rfl | old
        · exact near
        · exact filling.window other old
      · change SerialNumber.distance base first < bufferSize
        omega
      · intro other member
        change SerialNumber.distance base first ≤ SerialNumber.distance base other.seq
        rcases members other member with rfl | old
        · exact low.1
        · exact low.2 other old
      · rw [if_neg Bool.false_ne_true, if_neg Bool.false_ne_true, List.singleton_append]
        exact SlotRing.items_put free pkt

theorem Filling.fillAll {base : BitVec 16} {q : ReorderQueue} (valid : WellFormed q)
    (filling : Filling base q) {pkts : List RtpPacket}
    (near : ∀ pkt ∈ pkts, SerialNumber.distance base pkt.seq < bufferSize) :
    Filling base (q.fillAll pkts) ∧
      (SlotRing.items (q.fillAll pkts).queue).Perm
        (q.acceptedInitially pkts ++ SlotRing.items q.queue) := by
  induction pkts generalizing q with
  | nil => exact ⟨filling, by rw [acceptedInitially, List.nil_append, ReorderQueue.fillAll,
      List.foldl_nil]⟩
  | cons pkt rest ih =>
      obtain ⟨nextFilling, added⟩ :=
        filling.enqueueInitial valid (near pkt (List.mem_cons_self ..))
      obtain ⟨done, more⟩ := ih (valid.enqueueInitial pkt) nextFilling
        (fun other inRest => near other (List.mem_cons_of_mem _ inRest))
      refine ⟨done, more.trans ((added.append_left _).trans ?_)⟩
      rw [acceptedInitially]
      by_cases dropped : q.hasPacket pkt.seq = true
      · rw [if_pos dropped, if_pos dropped, List.nil_append]
      · rw [if_neg dropped, if_neg dropped, List.cons_append, List.nil_append]
        exact List.perm_middle

theorem Filling.inWindow {base : BitVec 16} {q : ReorderQueue} (filling : Filling base q)
    (nonempty : q.queueCount ≠ 0) : q.InWindow := by
  obtain ⟨-, below⟩ := filling.lowest nonempty
  intro pkt member
  have near := filling.window pkt member
  have apart : q.ahead pkt.seq = _ := SerialNumber.distance_sub (below pkt member)
  omega

/-! ## The end of the stream -/

/-- A round without a packet has seen the closed channel and an empty queue. -/
theorem pull_eq_none {q : ReorderQueue} (valid : WellFormed q) (ended : (q.pull ()).1 = none) :
    q.reducePacket.1 = false ∧ (q.pull ()).2.queueCount = 0 := by
  obtain ⟨arrived, refilled, full, -⟩ := reducePacket_receives q
  obtain ⟨more, ready, received, readyValid, result⟩ := pull_cases valid
  rcases result with ⟨outcome, empty⟩ | ⟨pkt, offset, -, outcome⟩
  · have nothing := readyValid.queueCount_eq_zero empty
    refine ⟨?_, by rw [outcome]; exact nothing⟩
    cases closed : q.reducePacket.1 with
    | false => rfl
    | true =>
        have enough := full closed
        have positive := valid.window
        obtain ⟨second, waiting, waited, taken⟩ :=
          takeNextPacket_spec q.reducePacket.2 (!q.reducePacket.1)
        have grown := waited.queueCount_bounds.1
        change q.pull () = _ at taken
        rw [if_neg (by omega)] at taken
        rcases takeAvailable_cases waiting with ⟨-, bare⟩ | ⟨pkt, offset, -, handed⟩
        · have none := (valid.receives (refilled.trans waited)).queueCount_eq_zero bare
          omega
        · rw [taken, handed] at ended
          cases ended
  · rw [outcome] at ended
    cases ended

/-- Once the channel is closed, a round leaves nothing to receive. -/
theorem pull_closed {q : ReorderQueue} (closed : q.reducePacket.1 = false) :
    (q.pull ()).2.packetRx.pending = [] := by
  obtain ⟨-, -, -, drained⟩ := reducePacket_receives q
  have nothing := drained closed
  obtain ⟨more, ready, received, taken⟩ :=
    takeNextPacket_spec q.reducePacket.2 (!q.reducePacket.1)
  have delivered := received.delivered
  rw [nothing] at delivered
  have readyNothing := (List.append_eq_nil_iff.mp delivered.symm).2
  rw [pull, taken]
  split
  · exact readyNothing
  · rcases takeAvailable_cases ready with ⟨outcome, -⟩ | ⟨pkt, offset, -, outcome⟩
    · rw [outcome]; exact readyNothing
    · rw [outcome]; exact readyNothing

/-- A round that hands out a packet has one packet less to receive or hand out. -/
theorem pull_shrinks {q : ReorderQueue} (valid : WellFormed q) {handed : RtpPacket × Bool}
    (result : (q.pull ()).1 = some handed) :
    (q.pull ()).2.packetRx.pending.length + (q.pull ()).2.queueCount <
      q.packetRx.pending.length + q.queueCount := by
  obtain ⟨arrived, ready, received, readyValid, ⟨outcome, -⟩ | ⟨pkt, offset, taken, outcome⟩⟩ :=
    pull_cases valid
  · rw [outcome] at result
    cases result
  · have bounds := received.queueCount_bounds.2
    have positive := readyValid.queueCount_pos taken.held
    rw [outcome]
    change ready.packetRx.pending.length + (ready.queueCount - 1) < _
    omega

end ReorderQueue

namespace RtpPacketBuffer

open ReorderQueue

/-- Nothing is left to receive or to hand out. -/
def Exhausted (q : ReorderQueue) : Prop :=
  q.packetRx.pending = [] ∧ q.queueCount = 0

instance (q : ReorderQueue) : Decidable (Exhausted q) := inferInstanceAs (Decidable (_ ∧ _))

theorem consumeLoop_eq_none (maxConsumeLen fuel : Nat) (b : RtpPacketBuffer)
    (valid : WellFormed b.reorder)
    (enough : b.reorder.packetRx.pending.length + b.reorder.queueCount < fuel)
    (ended : (consumeLoop maxConsumeLen fuel b).result = none) :
    Exhausted (consumeLoop maxConsumeLen fuel b).after.reorder := by
  induction fuel generalizing b with
  | zero => omega
  | succ fuel ih =>
      have turn : b.reorder.reducePacket.2.takeNextPacket (!b.reorder.reducePacket.1) =
          b.reorder.pull () := rfl
      unfold consumeLoop at ended ⊢
      simp only [turn] at ended ⊢
      have closedEmpty : (!b.reorder.reducePacket.1 && (b.reorder.pull ()).2.queueCount == 0) =
          true → Exhausted (b.reorder.pull ()).2 := by
        intro both
        simp only [Bool.and_eq_true, Bool.not_eq_true', beq_iff_eq] at both
        exact ⟨pull_closed both.1, both.2⟩
      cases result : (b.reorder.pull ()).1 with
      | none =>
          obtain ⟨closed, empty⟩ := pull_eq_none valid result
          have exhausted : Exhausted (b.reorder.pull ()).2 := ⟨pull_closed closed, empty⟩
          dsimp only
          split <;> exact exhausted
      | some handed =>
          simp only [result] at ended ⊢
          split
          · next copied => rw [copied] at ended; cases ended
          · next nothing =>
              simp only [nothing] at ended
              split
              · next both => exact closedEmpty both
              · next more =>
                  rw [if_neg more] at ended
                  have shrunk := pull_shrinks valid result
                  exact ih _ (valid.pull ()) (by
                    change (b.reorder.pull ()).2.packetRx.pending.length +
                      (b.reorder.pull ()).2.queueCount < fuel
                    omega) ended

/-- `consume_packet` returns `None` only when the channel is closed and the queue
is empty. -/
theorem consumePacket_eq_none (b : RtpPacketBuffer) (maxConsumeLen : Nat)
    (valid : WellFormed b.reorder) (ended : (b.consumePacket maxConsumeLen).result = none) :
    Exhausted (b.consumePacket maxConsumeLen).after.reorder := by
  unfold consumePacket at ended ⊢
  split
  · next zero => rw [if_pos zero] at ended; cases ended
  · next positive =>
      rw [if_neg positive] at ended
      dsimp only at ended ⊢
      split
      · next copied => rw [copied] at ended; cases ended
      · next nothing =>
          rw [nothing] at ended
          dsimp only at ended
          split
          · next copied => rw [copied] at ended; cases ended
          · next unready =>
              rw [unready] at ended
              exact consumeLoop_eq_none _ _ _ valid (Nat.lt_succ_self _) ended

theorem consumeRun_eq_none (b : RtpPacketBuffer) (lengths : List Nat)
    (reachable : Reachable b.reorder) :
    ∀ call ∈ b.consumeRun lengths, call.result = none → Exhausted call.after.reorder := by
  induction lengths generalizing b with
  | nil => intro call member; cases member
  | cons maxConsumeLen rest ih =>
      intro call member
      rcases List.mem_cons.mp member with rfl | later
      · exact consumePacket_eq_none b maxConsumeLen reachable.wellFormed
      · exact ih _ ((consumePacket_rounds b maxConsumeLen).reachable reachable).2 call later

theorem getLast?_consumeRun (b : RtpPacketBuffer) (lengths : List Nat) {last : ConsumeCall}
    (ends : (b.consumeRun lengths).getLast? = some last) : last.after = b.afterRun lengths := by
  induction lengths generalizing b with
  | nil => cases ends
  | cons maxConsumeLen rest ih =>
      rw [consumeRun, List.getLast?_cons] at ends
      cases later : ((b.consumePacket maxConsumeLen).after.consumeRun rest).getLast? with
      | none =>
          rw [later] at ends
          cases ends
          rw [List.getLast?_eq_none_iff] at later
          cases rest with
          | nil => rfl
          | cons => cases later
      | some call =>
          rw [later] at ends
          cases ends
          exact ih _ later

/-- The packets of the initial fill. -/
def initialFill (packetRx : Receiver) (kind : PayloadKind) (b : RtpPacketBuffer) :
    List RtpPacket :=
  (ReorderQueue.new packetRx kind).receivedUntil b.reorder

/-- The packets that `init` and a run of calls receive and do not drop as old or
as duplicates. -/
def acceptedUntil (packetRx : Receiver) (kind : PayloadKind) (b : RtpPacketBuffer)
    (lengths : List Nat) : List RtpPacket :=
  (ReorderQueue.new packetRx kind).acceptedInitially (initialFill packetRx kind b) ++
    acceptedIn (b.runRounds lengths)

/-- The initial fill spans fewer than 1024 sequence numbers. -/
def FillSpan (packetRx : Receiver) (kind : PayloadKind) (b : RtpPacketBuffer) : Prop :=
  ∃ base, ∀ pkt ∈ initialFill packetRx kind b, SerialNumber.distance base pkt.seq < bufferSize

theorem init_inWindow {packetRx : Receiver} {kind : PayloadKind} {aacAdts : AacAdtsConfig}
    {b : RtpPacketBuffer} (started : init packetRx kind aacAdts = .ok b)
    (span : FillSpan packetRx kind b) :
    b.reorder.InWindow ∧
      (SlotRing.items b.reorder.queue).Perm
        ((ReorderQueue.new packetRx kind).acceptedInitially (initialFill packetRx kind b)) := by
  obtain ⟨base, near⟩ := span
  have valid := WellFormed.new packetRx kind
  have nothing : SlotRing.items (ReorderQueue.new packetRx kind).queue = [] :=
    SlotRing.items_empty
  have start : Filling base (ReorderQueue.new packetRx kind) := by
    refine ⟨?_, fun counted => absurd rfl counted⟩
    rw [nothing]
    intro pkt member
    cases member
  obtain ⟨-, filled, enough⟩ := calculateIndexFrom_fills _ _ rfl (init_eq_ok started).1
  obtain ⟨filling, stored⟩ := start.fillAll valid near
  have positive := (init_wellFormed started).window
  have queueEq : b.reorder.queue =
      ((ReorderQueue.new packetRx kind).fillAll (initialFill packetRx kind b)).queue := by
    rw [filled]
    rfl
  rw [nothing, List.append_nil, ← queueEq] at stored
  refine ⟨?_, stored⟩
  rw [filled] at enough positive ⊢
  exact filling.inWindow (Nat.ne_of_gt (Nat.lt_of_lt_of_le positive enough))

/-- The counter counts the occupied slots in every reachable state, `None` means
that nothing is left, and while no packet arrives 1024 or more ahead the
accepted packets are handed out exactly once and in order. -/
theorem reorder_conservation :
    (∀ q, Reachable q → q.queueCount = SlotRing.occupied q.queue ∧
      ∀ index pkt, q.queue index = some pkt → 0 < q.queueCount) ∧
    ∀ (packetRx : Receiver) (kind : PayloadKind) (aacAdts : AacAdtsConfig)
      (b : RtpPacketBuffer) (lengths : List Nat), init packetRx kind aacAdts = .ok b →
      (∀ round ∈ b.runRounds lengths, Reachable round.before ∧ Reachable round.after) ∧
      (∀ call ∈ b.consumeRun lengths, call.result = none → Exhausted call.after.reorder) ∧
      (FillSpan packetRx kind b →
        (∀ round ∈ b.runRounds lengths, ∀ pkt ∈ arrivals round, round.before.Close pkt) →
        (b.handedOut lengths).IsChain
            (fun previous next => SerialNumber.Precedes previous.1.seq next.1.seq) ∧
          (acceptedUntil packetRx kind b lengths).Perm
            ((b.handedOut lengths).map Prod.fst ++
              SlotRing.items (b.afterRun lengths).reorder.queue) ∧
          ∀ last, (b.consumeRun lengths).getLast? = some last → last.result = none →
            (acceptedUntil packetRx kind b lengths).Perm
              ((b.handedOut lengths).map Prod.fst)) := by
  refine ⟨fun q reachable => ⟨reachable.wellFormed.counted, fun index pkt held =>
    reachable.wellFormed.queueCount_pos held⟩, ?_⟩
  intro packetRx kind aacAdts b lengths started
  have led := runRounds_rounds b lengths
  have reachable := led.reachable (init_reachable started)
  have finished := consumeRun_eq_none b lengths (init_reachable started)
  refine ⟨reachable.1, finished, ?_⟩
  intro span close
  obtain ⟨window, filled⟩ := init_inWindow started span
  have valid := init_wellFormed started
  obtain ⟨turns, rounds, final⟩ := led
  rw [rounds] at close
  obtain ⟨admitted, balance⟩ := window.run valid close
  have ordered := (window.inOrder.run valid admitted).1
  have conserved : (acceptedUntil packetRx kind b lengths).Perm
      ((b.handedOut lengths).map Prod.fst ++
        SlotRing.items (b.afterRun lengths).reorder.queue) := by
    rw [acceptedUntil, handedOut, rounds, final]
    exact (filled.symm.append_right _).trans balance
  refine ⟨by rw [handedOut, rounds]; exact ordered, conserved, ?_⟩
  intro last ends none
  have exhausted := finished last (List.mem_of_getLast? ends) none
  rw [getLast?_consumeRun b lengths ends] at exhausted
  have empty := SlotRing.items_eq_nil_iff.mpr
    (reachable.2.wellFormed.queue_eq_none exhausted.2)
  rwa [empty, List.append_nil] at conserved

/-- Reordered packets across the wrap of the sequence numbers, with a duplicate
and a gap, until the end of the stream. -/
theorem reorder_conservation_wrap :
    ∃ b, init ⟨numbered [65534, 0, 65535, 0, 1, 2, 3, 5, 4, 65534, 7, 8], []⟩
        .g711 ⟨8000, 1⟩ = .ok b ∧
      (acceptedUntil ⟨numbered [65534, 0, 65535, 0, 1, 2, 3, 5, 4, 65534, 7, 8], []⟩ .g711 b
          (List.replicate 11 100)).Perm
        ((b.handedOut (List.replicate 11 100)).map Prod.fst) := by
  let packetRx : Receiver := ⟨numbered [65534, 0, 65535, 0, 1, 2, 3, 5, 4, 65534, 7, 8], []⟩
  obtain ⟨b, started, checked⟩ := exists_started
    packetRx .g711 ⟨8000, 1⟩ (fun b => decide (
      (∀ pkt ∈ initialFill packetRx .g711 b, SerialNumber.distance 65534#16 pkt.seq < bufferSize) ∧
      (∀ round ∈ b.runRounds (List.replicate 11 100), ∀ pkt ∈ arrivals round,
        round.before.Close pkt) ∧
      ((b.consumeRun (List.replicate 11 100)).getLast?.map ConsumeCall.result) = some none))
    (by decide +kernel)
  obtain ⟨near, close, ends⟩ := of_decide_eq_true checked
  obtain ⟨-, -, conserved⟩ :=
    reorder_conservation.2 packetRx .g711 ⟨8000, 1⟩ b (List.replicate 11 100) started
  obtain ⟨last, isLast, none⟩ := Option.map_eq_some_iff.mp ends
  exact ⟨b, started, (conserved ⟨_, near⟩ close).2.2 last isLast none⟩

end RtpPacketBuffer

end Gmv.Stream
