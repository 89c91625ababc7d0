import Gmv.Stream.Nal

/-!
# Access unit assembly

The fields of `RtpPacketBuffer` that turn packets into access units, and the
functions that use them: the pending fragments, the access unit under assembly
with its damage flag, the key frame gate and the finished access units.
-/

namespace Gmv.Stream

structure AuAssembler where
  remaining : Bytes
  readyAus : List Bytes
  auBuffer : Bytes
  auTimestamp : Option UInt32
  auDamaged : Bool
  waitKeyframe : Bool
  payloadKind : PayloadKind
  h264Fu : Option Bytes
  h265Fu : Option Bytes
  aacAdts : AacAdtsConfig
  deriving DecidableEq, Repr

namespace AuAssembler

def kindIsRawVideo : PayloadKind → Bool
  | .h264 | .h265 => true
  | _ => false

/-- The assembly part of the value that `init` builds. -/
def new (payloadKind : PayloadKind) (aacAdts : AacAdtsConfig) : AuAssembler where
  remaining := []
  readyAus := []
  auBuffer := []
  auTimestamp := none
  auDamaged := false
  waitKeyframe := kindIsRawVideo payloadKind
  payloadKind := payloadKind
  h264Fu := none
  h265Fu := none
  aacAdts := aacAdts

def isRawVideo (a : AuAssembler) : Bool := kindIsRawVideo a.payloadKind

def resetFragmentState (a : AuAssembler) : AuAssembler :=
  { a with h264Fu := none, h265Fu := none }

def accessUnitHasKeyframe (kind : PayloadKind) (data : Bytes) : Bool :=
  match kind with
  | .h264 => h264AccessUnitHasKeyframe data
  | .h265 => h265AccessUnitHasKeyframe data
  | _ => false

def shouldOutputAccessUnit (a : AuAssembler) (data : Bytes) : Bool × AuAssembler :=
  if !a.isRawVideo then (true, a)
  else
    let keyframe := accessUnitHasKeyframe a.payloadKind data
    if a.waitKeyframe then
      if keyframe then (true, { a with waitKeyframe := false }) else (false, a)
    else (true, a)

def finishAccessUnit (a : AuAssembler) (_marker : Bool) : AuAssembler :=
  if a.auBuffer.isEmpty then { a with auTimestamp := none, auDamaged := false }
  else if a.auDamaged then
    { a with
      auBuffer := []
      waitKeyframe := a.waitKeyframe || a.isRawVideo
      auTimestamp := none
      auDamaged := false }
  else
    let data := a.auBuffer
    let decision := { a with auBuffer := [] }.shouldOutputAccessUnit data
    let readyAus := if decision.1 then a.readyAus ++ [data] else a.readyAus
    { decision.2 with readyAus := readyAus, auTimestamp := none, auDamaged := false }

def appendAccessUnit (a : AuAssembler) (timestamp : UInt32) (marker : Bool) (data : Bytes) :
    AuAssembler :=
  let a := if a.auTimestamp.any (· != timestamp) then a.finishAccessUnit false else a
  let a := if a.auTimestamp.isNone then { a with auTimestamp := some timestamp } else a
  let a := { a with auBuffer := a.auBuffer ++ data }
  if marker then a.finishAccessUnit true else a

def markPacketLoss (a : AuAssembler) (nextTimestamp : UInt32) : AuAssembler :=
  let hadFragment := a.h264Fu.isSome || a.h265Fu.isSome
  let a := a.resetFragmentState
  if a.auBuffer.isEmpty then
    { a with
      auTimestamp := none
      auDamaged := false
      waitKeyframe := a.waitKeyframe || (hadFragment && a.isRawVideo) }
  else if a.auTimestamp.any (· != nextTimestamp) then
    { a with auBuffer := [], auTimestamp := none, auDamaged := false }
  else
    { a with auBuffer := [], auTimestamp := some nextTimestamp, auDamaged := true }

/-- `depacketize_h264` on the assembler's own fragment state. -/
def depacketizeH264 (a : AuAssembler) (payload : Bytes) : Option Bytes × AuAssembler :=
  let unpacked := Stream.depacketizeH264 a.h264Fu payload
  (unpacked.1, { a with h264Fu := unpacked.2 })

/-- `depacketize_h265` on the assembler's own fragment state. -/
def depacketizeH265 (a : AuAssembler) (payload : Bytes) : Option Bytes × AuAssembler :=
  let unpacked := Stream.depacketizeH265 a.h265Fu payload
  (unpacked.1, { a with h265Fu := unpacked.2 })

/-- The common end of the two raw video branches of `process_packet`. -/
def receiveUnpacked (unpacked : Option Bytes × AuAssembler) (timestamp : UInt32)
    (marker : Bool) : AuAssembler :=
  match unpacked.1 with
  | some data => unpacked.2.appendAccessUnit timestamp marker data
  | none => if marker then unpacked.2.finishAccessUnit true else unpacked.2

/-- The loss handling that the video branches of `process_packet` start with. -/
def noteLoss (a : AuAssembler) (timestamp : UInt32) (lostBefore : Bool) : AuAssembler :=
  if lostBefore then a.markPacketLoss timestamp else a

def processPacket (a : AuAssembler) (pkt : RtpPacket) (lostBefore : Bool) : AuAssembler :=
  match a.payloadKind with
  | .ps | .passthrough =>
      (a.noteLoss pkt.timestamp lostBefore).appendAccessUnit pkt.timestamp pkt.marker pkt.payload
  | .h264 =>
      receiveUnpacked ((a.noteLoss pkt.timestamp lostBefore).depacketizeH264 pkt.payload)
        pkt.timestamp pkt.marker
  | .h265 =>
      receiveUnpacked ((a.noteLoss pkt.timestamp lostBefore).depacketizeH265 pkt.payload)
        pkt.timestamp pkt.marker
  | .aac =>
      match depacketizeAac a.aacAdts pkt.payload with
      | some data => { a with readyAus := a.readyAus ++ [data] }
      | none => a
  | .g711 => { a with readyAus := a.readyAus ++ [pkt.payload] }

/-- The bytes copied into the caller's buffer; their number is the return value
of `consume_remaining`. -/
def consumeRemaining (a : AuAssembler) (maxConsumeLen : Nat) : Option Bytes × AuAssembler :=
  if a.remaining.isEmpty then (none, a)
  else
    let copyLen := min a.remaining.length maxConsumeLen
    (some (a.remaining.take copyLen), { a with remaining := a.remaining.drop copyLen })

def consumeReadyAu (a : AuAssembler) (maxConsumeLen : Nat) : Option Bytes × AuAssembler :=
  match a.readyAus with
  | [] => (none, a)
  | data :: rest =>
      { a with readyAus := rest, remaining := data }.consumeRemaining maxConsumeLen

end AuAssembler

end Gmv.Stream
