import Gmv.Library.SlotRing
import Gmv.Stream.RtpPacket

/-!
# The reorder queue of `RtpPacketBuffer`

The fields of `RtpPacketBuffer` that order the packets, and the functions that
use them.  The queue array is a function from slot indices to optional packets.

The input channel is the list of packets that it still delivers: its senders
are gone once the list is empty, so a blocking `recv` fails exactly then.  A
run that blocks forever on an open channel is a run of this model cut off
before that call.  Timing only decides how each turn of a gap wait ends, and the
receiver carries those decisions as a list of clock readings, one for each
turn.  Quantifying over the readings quantifies over every timing.
-/

namespace Gmv.Stream

open Gmv.Library

/-- How the clock and the channel behave in one turn of a gap wait. -/
inductive GapTick where
  /-- `Instant::now()` is at or past the deadline. -/
  | expired
  /-- `recv_timeout` gives up without a packet. -/
  | timeout
  /-- `recv_timeout` returns the next packet, or `Disconnected` after the last. -/
  | ready
  deriving DecidableEq, Repr

structure Receiver where
  pending : List RtpPacket
  clock : List GapTick

structure ReorderQueue where
  firstReadRtpSn : BitVec 16
  queue : Fin bufferSize → Option RtpPacket
  queueCount : Nat
  queueWindow : Nat
  payloadKind : PayloadKind
  packetRx : Receiver

namespace ReorderQueue

/-- The queue part of the value that `init` builds before the initial fill. -/
def new (packetRx : Receiver) (payloadKind : PayloadKind) : ReorderQueue where
  firstReadRtpSn := BitVec.allOnes 16
  queue := fun _ => none
  queueCount := 0
  queueWindow := reorderWindow payloadKind
  payloadKind := payloadKind
  packetRx := packetRx

def hasPacket (q : ReorderQueue) (seq : BitVec 16) : Bool :=
  ((q.queue (slotOf seq)).map fun pkt => pkt.seq == seq).getD false

def isOldPacket (q : ReorderQueue) (seq : BitVec 16) : Bool :=
  seq != q.firstReadRtpSn && decide ((q.firstReadRtpSn - seq).toNat < seqHalfRange)

/-- Store a packet in its slot, counting it only when the slot was empty. -/
def store (q : ReorderQueue) (pkt : RtpPacket) : ReorderQueue :=
  { q with
    queue := Function.update q.queue (slotOf pkt.seq) (some pkt)
    queueCount :=
      if (q.queue (slotOf pkt.seq)).isNone then q.queueCount + 1 else q.queueCount }

def enqueueInitial (q : ReorderQueue) (pkt : RtpPacket) : ReorderQueue :=
  if q.hasPacket pkt.seq then q
  else
    let first :=
      if q.queueCount == 0 || seqBefore pkt.seq q.firstReadRtpSn then pkt.seq
      else q.firstReadRtpSn
    { q with firstReadRtpSn := first }.store pkt

def enqueue (q : ReorderQueue) (pkt : RtpPacket) : ReorderQueue :=
  if q.isOldPacket pkt.seq then q
  else if q.hasPacket pkt.seq then q
  else q.store pkt

/-- `calculate_index` with the packets the channel still delivers. -/
def calculateIndexFrom (q : ReorderQueue) : List RtpPacket → Except String ReorderQueue
  | [] =>
      if q.queueCount < q.queueWindow then .error "rtp input channel closed" else .ok q
  | pkt :: rest =>
      if q.queueCount < q.queueWindow then
        ({ q with packetRx.pending := rest }.enqueueInitial pkt).calculateIndexFrom rest
      else .ok q

def calculateIndex (q : ReorderQueue) : Except String ReorderQueue :=
  q.calculateIndexFrom q.packetRx.pending

/-- `reduce_packet` with the packets the channel still delivers.  The flag is
false when the channel turned out to be closed. -/
def reducePacketFrom (q : ReorderQueue) : List RtpPacket → Bool × ReorderQueue
  | [] => if q.queueCount < q.queueWindow then (false, q) else (true, q)
  | pkt :: rest =>
      if q.queueCount < q.queueWindow then
        ({ q with packetRx.pending := rest }.enqueue pkt).reducePacketFrom rest
      else (true, q)

def reducePacket (q : ReorderQueue) : Bool × ReorderQueue :=
  q.reducePacketFrom q.packetRx.pending

def takeExpectedPacket (q : ReorderQueue) : Option (RtpPacket × ReorderQueue) :=
  match q.queue (slotOf q.firstReadRtpSn) with
  | some pkt =>
      if pkt.seq == q.firstReadRtpSn then
        some (pkt,
          { q with
            queue := Function.update q.queue (slotOf q.firstReadRtpSn) none
            queueCount := q.queueCount - 1 })
      else none
  | none => none

/-- The scan visits `BUFFER_SIZE` slots from the slot of the read pointer on;
its running index, reset at the end of the array, is the start plus the offset
round the ring. -/
def takeFirstAvailablePacket (q : ReorderQueue) : Option (RtpPacket × Nat × ReorderQueue) :=
  match SlotRing.firstFrom q.queue (slotOf q.firstReadRtpSn) bufferSize 0 with
  | some (pkt, offset) =>
      some (pkt, offset,
        { q with
          queue := Function.update q.queue
            (SlotRing.shift (slotOf q.firstReadRtpSn) offset) none
          queueCount := q.queueCount - 1 })
  | none => none

/-- `wait_until_gap_deadline`, one clock reading for each turn of its loop.  No
reading left means that the deadline has passed, so that the wait ends with what
its first test says. -/
def waitUntilGapDeadlineFrom (q : ReorderQueue) (expectedSeq : BitVec 16) :
    List GapTick → Bool × ReorderQueue
  | [] => (q.hasPacket expectedSeq, q)
  | tick :: rest =>
      if q.hasPacket expectedSeq then (true, q)
      else if q.queueCount ≥ reorderBufferHighWatermark then (false, q)
      else
        match tick with
        | .expired => (false, { q with packetRx.clock := rest })
        | .timeout => (q.hasPacket expectedSeq, { q with packetRx.clock := rest })
        | .ready =>
            match q.packetRx.pending with
            | [] => (false, { q with packetRx.clock := rest })
            | pkt :: pending =>
                ({ q with packetRx := ⟨pending, rest⟩ }.enqueue pkt).waitUntilGapDeadlineFrom
                  expectedSeq rest

def waitUntilGapDeadline (q : ReorderQueue) (expectedSeq : BitVec 16) : Bool × ReorderQueue :=
  q.waitUntilGapDeadlineFrom expectedSeq q.packetRx.clock

/-- The phases of `wait_for_gap_packet`.  `phaseMs` sets the deadline of one
phase, which the clock readings decide. -/
def waitPhases (expectedSeq : BitVec 16) (maxWaitMs phaseMs : Nat) (useSecondGap : Bool)
    (q : ReorderQueue) : Bool × ReorderQueue :=
  let waited := q.waitUntilGapDeadline expectedSeq
  if waited.1 then (true, waited.2)
  else if phaseMs ≥ maxWaitMs then (false, waited.2)
  else
    let stepMs := if useSecondGap then gapWaitSecondMs else gapWaitStepMs
    waitPhases expectedSeq maxWaitMs (min (phaseMs + stepMs) maxWaitMs) false waited.2
termination_by maxWaitMs - phaseMs
decreasing_by
  have positive : 0 < stepMs := by
    simp only [stepMs, gapWaitSecondMs, gapWaitStepMs]
    split <;> decide
  omega

def waitForGapPacket (q : ReorderQueue) (expectedSeq : BitVec 16) : Bool × ReorderQueue :=
  let maxWaitMs := maxGapWaitMs q.payloadKind
  waitPhases expectedSeq maxWaitMs (min gapWaitFirstMs maxWaitMs) true q

/-- Hand out a packet and move the read pointer just past it. -/
def handOut (pkt : RtpPacket) (lostBefore : Bool) (q : ReorderQueue) :
    Option (RtpPacket × Bool) × ReorderQueue :=
  (some (pkt, lostBefore), { q with firstReadRtpSn := pkt.seq + 1#16 })

/-- The end of `take_next_packet`: take the first packet that is there. -/
def takeAvailable (q : ReorderQueue) : Option (RtpPacket × Bool) × ReorderQueue :=
  match q.takeFirstAvailablePacket with
  | none => (none, q)
  | some (pkt, offset, rest) => handOut pkt (decide (offset > 0)) rest

def takeNextPacket (q : ReorderQueue) (inputClosed : Bool) :
    Option (RtpPacket × Bool) × ReorderQueue :=
  if q.queueCount == 0 then (none, q)
  else
    match q.takeExpectedPacket with
    | some (pkt, rest) => handOut pkt false rest
    | none =>
        if inputClosed then q.takeAvailable
        else
          let waited := q.waitForGapPacket q.firstReadRtpSn
          if waited.1 then
            match waited.2.takeExpectedPacket with
            | some (pkt, rest) => handOut pkt false rest
            | none => waited.2.takeAvailable
          else waited.2.takeAvailable

end ReorderQueue

end Gmv.Stream
