import Gmv.Library.Runs
import Gmv.Stream.AccessUnit
import Gmv.Stream.ReorderQueue

/-!
# `RtpPacketBuffer` and `consume_packet`

The buffer is the reorder queue together with the access unit assembler.  A
call of `consume_packet` works in rounds: each round refills the queue, takes
one packet from it and processes that packet.  The model returns the rounds of
a call next to its result, so that statements can speak about what was received
and handed out on the way; the code itself keeps no such record.
-/

namespace Gmv.Stream

open Gmv.Library

structure RtpPacketBuffer where
  reorder : ReorderQueue
  assembly : AuAssembler

/-- One turn of the loop of `consume_packet`, as the reorder queue sees it: the
result is what `take_next_packet` hands out. -/
abbrev Round := Runs.Transition ReorderQueue Unit (Option (RtpPacket × Bool))

/-- The packets that the channel delivered between two states of the queue. -/
def ReorderQueue.receivedUntil (before after : ReorderQueue) : List RtpPacket :=
  before.packetRx.pending.take
    (before.packetRx.pending.length - after.packetRx.pending.length)

/-- The packets that the channel delivered during the round. -/
def arrivals (round : Round) : List RtpPacket :=
  round.before.receivedUntil round.after

namespace RtpPacketBuffer

/-- The outcome of one `consume_packet` call: the bytes copied to the caller,
their number being the returned length, or `none`. -/
structure ConsumeCall where
  result : Option Bytes
  rounds : List Round
  after : RtpPacketBuffer

/-- `init`, with the payload kind and the ADTS configuration that it derives
from the media description. -/
def init (packetRx : Receiver) (payloadKind : PayloadKind) (aacAdts : AacAdtsConfig) :
    Except String RtpPacketBuffer :=
  match (ReorderQueue.new packetRx payloadKind).calculateIndex with
  | .error message => .error message
  | .ok reorder => .ok ⟨reorder, AuAssembler.new payloadKind aacAdts⟩

/-- The end of stream: close the access unit under assembly and hand it out. -/
def drain (maxConsumeLen : Nat) (reorder : ReorderQueue) (assembly : AuAssembler)
    (round : Round) : ConsumeCall :=
  let out := (assembly.finishAccessUnit false).consumeReadyAu maxConsumeLen
  ⟨out.1, [round], ⟨reorder, out.2⟩⟩

/-- The loop of `consume_packet`.  Every turn that goes on has taken a packet,
so the packets that are pending or queued bound the number of turns. -/
def consumeLoop (maxConsumeLen : Nat) : Nat → RtpPacketBuffer → ConsumeCall
  | 0, b => ⟨none, [], b⟩
  | fuel + 1, b =>
      let reduced := b.reorder.reducePacket
      let inputClosed := !reduced.1
      let taken := reduced.2.takeNextPacket inputClosed
      let round : Round := ⟨b.reorder, (), taken.1, taken.2⟩
      match taken.1 with
      | none =>
          if inputClosed && taken.2.queueCount == 0 then
            drain maxConsumeLen taken.2 b.assembly round
          else ⟨none, [round], ⟨taken.2, b.assembly⟩⟩
      | some (pkt, lostBefore) =>
          let out := (b.assembly.processPacket pkt lostBefore).consumeReadyAu maxConsumeLen
          match out.1 with
          | some copied => ⟨some copied, [round], ⟨taken.2, out.2⟩⟩
          | none =>
              if inputClosed && taken.2.queueCount == 0 then
                drain maxConsumeLen taken.2 out.2 round
              else
                let rest := consumeLoop maxConsumeLen fuel ⟨taken.2, out.2⟩
                { rest with rounds := round :: rest.rounds }

def consumePacket (b : RtpPacketBuffer) (maxConsumeLen : Nat) : ConsumeCall :=
  if maxConsumeLen == 0 then ⟨some [], [], b⟩
  else
    let held := b.assembly.consumeRemaining maxConsumeLen
    match held.1 with
    | some copied => ⟨some copied, [], ⟨b.reorder, held.2⟩⟩
    | none =>
        let ready := held.2.consumeReadyAu maxConsumeLen
        match ready.1 with
        | some copied => ⟨some copied, [], ⟨b.reorder, ready.2⟩⟩
        | none =>
            consumeLoop maxConsumeLen
              (b.reorder.packetRx.pending.length + b.reorder.queueCount + 1)
              ⟨b.reorder, ready.2⟩

/-- The calls of a run, each with the length that its caller asked for. -/
def consumeRun (b : RtpPacketBuffer) : List Nat → List ConsumeCall
  | [] => []
  | maxConsumeLen :: rest =>
      b.consumePacket maxConsumeLen :: (b.consumePacket maxConsumeLen).after.consumeRun rest

/-- The buffer after the calls of a run. -/
def afterRun (b : RtpPacketBuffer) : List Nat → RtpPacketBuffer
  | [] => b
  | maxConsumeLen :: rest => (b.consumePacket maxConsumeLen).after.afterRun rest

/-- All rounds of a run in order. -/
def runRounds (b : RtpPacketBuffer) (lengths : List Nat) : List Round :=
  (b.consumeRun lengths).flatMap ConsumeCall.rounds

/-- The packets that `take_next_packet` hands out during a run, each with its
`lost_before` flag. -/
def handedOut (b : RtpPacketBuffer) (lengths : List Nat) : List (RtpPacket × Bool) :=
  (b.runRounds lengths).filterMap Runs.Transition.result

end RtpPacketBuffer

end Gmv.Stream
