import Gmv.Library.Runs
import Gmv.Library.UnitAssembly
import Gmv.Stream.AccessUnit

/-!
# The assembler as a unit assembly

For the payload kinds that assemble access units, `process_packet` refines the
unit assembly of the library: timestamps are its stamps, a payload contributes
complete NAL units or a piece of a fragmented one, and raw video is gated by
key frames.
-/

namespace Gmv.Stream

open Gmv.Library
open Gmv.Library.UnitAssembly

/-! ## What a payload contributes -/

/-- One fragmentation unit. -/
def fragmentContribution (newHeader : Bytes) (fuHeader : UInt8) (fragment : Bytes) :
    Contribution UInt8 :=
  if fuHeader &&& 0x80 != 0 && fuHeader &&& 0x40 != 0 then .broken
  else if fuHeader &&& 0x80 != 0 then .opens (startCode ++ newHeader ++ fragment)
  else if fuHeader &&& 0x40 != 0 then .closes fragment
  else .continues fragment

/-- Complete NAL units, when the payload holds any. -/
def wholeContribution : Option Bytes → Contribution UInt8
  | some data => .whole data
  | none => .ignored

def h264FuContribution : Bytes → Contribution UInt8
  | fuIndicator :: fuHeader :: fragment@(_ :: _) =>
      fragmentContribution [(fuIndicator &&& 0xe0) ||| (fuHeader &&& 0x1f)] fuHeader fragment
  | _ => .broken

def h264Contribution (payload : Bytes) : Contribution UInt8 :=
  match payload with
  | [] => .ignored
  | nal :: _ =>
      if (nal &&& 0x1f).toNat ≤ 23 then .whole (withStartCode payload)
      else if (nal &&& 0x1f).toNat = 24 then wholeContribution (depacketizeH264StapA payload)
      else if (nal &&& 0x1f).toNat = 28 then h264FuContribution payload
      else .ignored

def h265FuContribution : Bytes → Contribution UInt8
  | first :: second :: fuHeader :: fragment@(_ :: _) =>
      let fuType : UInt8 := fuHeader &&& 0x3f
      let typeBits : UInt8 := fuType <<< 1
      fragmentContribution [(first &&& 0x81) ||| typeBits, second] fuHeader fragment
  | _ => .broken

def h265Contribution (payload : Bytes) : Contribution UInt8 :=
  match payload with
  | first :: second :: _ :: _ =>
      let nalType := ((first >>> 1) &&& 0x3f).toNat
      let layerHigh : UInt8 := first <<< 5
      let layerLow : UInt8 := second >>> 3
      let layerId := (layerHigh &&& 0x20) ||| (layerLow &&& 0x1f)
      let tid : UInt8 := second &&& 0x07
      if layerId != 0 then .ignored
      else if tid == 0 then .ignored
      else if nalType > 50 then .ignored
      else if nalType ≤ 47 then .whole (withStartCode payload)
      else if nalType = 48 then wholeContribution (depacketizeH265Ap payload)
      else if nalType = 49 then h265FuContribution payload
      else .ignored
  | _ => .ignored

def contribution (kind : PayloadKind) (payload : Bytes) : Contribution UInt8 :=
  match kind with
  | .h264 => h264Contribution payload
  | .h265 => h265Contribution payload
  | _ => .whole payload

theorem receiveFragment_eq (newHeader : Bytes) (fuHeader : UInt8) (fragment : Bytes)
    (pending : Option Bytes) :
    receiveFragment newHeader fuHeader fragment pending =
      (fragmentContribution newHeader fuHeader fragment).resume pending := by
  unfold receiveFragment fragmentContribution
  cases start : fuHeader &&& 0x80 != 0 with
  | true => cases last : fuHeader &&& 0x40 != 0 <;> rfl
  | false => cases last : fuHeader &&& 0x40 != 0 <;> cases pending <;> rfl

theorem wholeContribution_resume (data pending : Option Bytes) :
    (wholeContribution data).resume pending = (data, pending) := by
  cases data <;> rfl

theorem depacketizeH264FuA_eq (pending : Option Bytes) (payload : Bytes) :
    depacketizeH264FuA pending payload = (h264FuContribution payload).resume pending := by
  rcases payload with _ | ⟨fuIndicator, _ | ⟨fuHeader, _ | ⟨byte, rest⟩⟩⟩
  · rfl
  · rfl
  · rfl
  · exact receiveFragment_eq ..

theorem depacketizeH264_eq (pending : Option Bytes) (payload : Bytes) :
    depacketizeH264 pending payload = (h264Contribution payload).resume pending := by
  unfold depacketizeH264 h264Contribution
  cases payload with
  | nil => rfl
  | cons nal rest =>
      dsimp only
      split
      · rfl
      · split
        · rw [wholeContribution_resume]
        · split
          · exact depacketizeH264FuA_eq ..
          · rfl

theorem depacketizeH265Fu_eq (pending : Option Bytes) (payload : Bytes) :
    depacketizeH265Fu pending payload = (h265FuContribution payload).resume pending := by
  rcases payload with _ | ⟨first, _ | ⟨second, _ | ⟨fuHeader, _ | ⟨byte, rest⟩⟩⟩⟩
  · rfl
  · rfl
  · rfl
  · rfl
  · exact receiveFragment_eq ..

theorem depacketizeH265_eq (pending : Option Bytes) (payload : Bytes) :
    depacketizeH265 pending payload = (h265Contribution payload).resume pending := by
  unfold depacketizeH265 h265Contribution
  rcases payload with _ | ⟨first, _ | ⟨second, _ | ⟨third, rest⟩⟩⟩
  · rfl
  · rfl
  · rfl
  · dsimp only
    split
    · rfl
    · split
      · rfl
      · split
        · rfl
        · split
          · rfl
          · split
            · rw [wholeContribution_resume]
            · split
              · exact depacketizeH265Fu_eq ..
              · rfl

/-! ## The refinement -/

namespace AuAssembler

/-- The payload kinds that assemble access units from several packets. -/
def assembles : PayloadKind → Bool
  | .ps | .passthrough | .h264 | .h265 => true
  | .aac | .g711 => false

theorem assembles_of_raw {kind : PayloadKind} (raw : kindIsRawVideo kind = true) :
    assembles kind = true := by
  cases kind with
  | h264 => rfl
  | h265 => rfl
  | _ => cases raw

/-- The assembler as a unit assembly. -/
def view (a : AuAssembler) : Assembly UInt32 UInt8 where
  ready := a.readyAus
  unit := a.auBuffer
  stamp := a.auTimestamp
  damaged := a.auDamaged
  waiting := a.waitKeyframe
  fragment := a.h264Fu <|> a.h265Fu

/-- A call of `process_packet` as an arrival. -/
def arrival (kind : PayloadKind) (pkt : RtpPacket) (lostBefore : Bool) :
    Arrival UInt32 UInt8 :=
  ⟨pkt.timestamp, pkt.marker, lostBefore, contribution kind pkt.payload⟩

/-- Only the codec of the payload kind has a pending fragment. -/
structure Tidy (kind : PayloadKind) (a : AuAssembler) : Prop where
  kindEq : a.payloadKind = kind
  h264 : kind ≠ .h264 → a.h264Fu = none
  h265 : kind ≠ .h265 → a.h265Fu = none

/-- The gate in closed form. -/
theorem shouldOutputAccessUnit_eq (a : AuAssembler) (data : Bytes) :
    a.shouldOutputAccessUnit data =
      (!a.isRawVideo || !a.waitKeyframe || accessUnitHasKeyframe a.payloadKind data,
        { a with
          waitKeyframe := a.waitKeyframe &&
            !(a.isRawVideo && accessUnitHasKeyframe a.payloadKind data) }) := by
  cases a with
  | mk remaining readyAus auBuffer auTimestamp auDamaged waitKeyframe payloadKind h264Fu h265Fu
      aacAdts =>
      unfold shouldOutputAccessUnit
      cases raw : isRawVideo _ with
      | false => simp
      | true =>
          cases key : accessUnitHasKeyframe payloadKind data <;> cases waitKeyframe <;> simp

theorem finishAccessUnit_view (a : AuAssembler) (marker : Bool) :
    (a.finishAccessUnit marker).view =
      a.view.finish a.isRawVideo (accessUnitHasKeyframe a.payloadKind) := by
  simp only [finishAccessUnit, shouldOutputAccessUnit_eq]
  change _ = if a.auBuffer.isEmpty then _ else if a.auDamaged then _ else _
  split
  · rfl
  · split <;> rfl

/-- Closing an access unit leaves the payload kind and the fragments alone. -/
theorem finishAccessUnit_frame (a : AuAssembler) (marker : Bool) :
    (a.finishAccessUnit marker).payloadKind = a.payloadKind ∧
      (a.finishAccessUnit marker).h264Fu = a.h264Fu ∧
      (a.finishAccessUnit marker).h265Fu = a.h265Fu := by
  simp only [finishAccessUnit, shouldOutputAccessUnit_eq]
  split
  · exact ⟨rfl, rfl, rfl⟩
  · split <;> exact ⟨rfl, rfl, rfl⟩

theorem finishAccessUnit_tidy {kind : PayloadKind} {a : AuAssembler} (tidy : Tidy kind a)
    (marker : Bool) : Tidy kind (a.finishAccessUnit marker) := by
  obtain ⟨sameKind, sameH264, sameH265⟩ := a.finishAccessUnit_frame marker
  exact ⟨sameKind.trans tidy.kindEq, fun other => sameH264.trans (tidy.h264 other),
    fun other => sameH265.trans (tidy.h265 other)⟩

theorem endIf_view (a : AuAssembler) (marker : Bool) :
    (if marker then a.finishAccessUnit true else a).view =
      a.view.endIf a.isRawVideo (accessUnitHasKeyframe a.payloadKind) marker := by
  cases marker with
  | true => exact a.finishAccessUnit_view true
  | false => rfl

theorem markPacketLoss_view (a : AuAssembler) (timestamp : UInt32) :
    (a.markPacketLoss timestamp).view = a.view.lose a.isRawVideo timestamp := by
  have pending : (a.h264Fu.isSome || a.h265Fu.isSome) = (a.h264Fu <|> a.h265Fu).isSome := by
    cases a.h264Fu <;> rfl
  unfold markPacketLoss
  rw [pending]
  change _ = if a.auBuffer.isEmpty then _ else if a.auTimestamp.any (· != timestamp) then _ else _
  change (if a.auBuffer.isEmpty then _ else if a.auTimestamp.any (· != timestamp) then _
    else _ : AuAssembler).view = _
  split
  · rfl
  · split <;> rfl

theorem noteLoss_view (a : AuAssembler) (timestamp : UInt32) (lostBefore : Bool) :
    (a.noteLoss timestamp lostBefore).view =
      a.view.noteLoss a.isRawVideo timestamp lostBefore := by
  cases lostBefore with
  | true => exact a.markPacketLoss_view timestamp
  | false => rfl

theorem noteLoss_tidy {kind : PayloadKind} {a : AuAssembler} (tidy : Tidy kind a)
    (timestamp : UInt32) (lostBefore : Bool) : Tidy kind (a.noteLoss timestamp lostBefore) := by
  cases lostBefore with
  | false => exact tidy
  | true =>
      change Tidy kind (a.markPacketLoss timestamp)
      unfold markPacketLoss
      dsimp only
      split
      · exact ⟨tidy.kindEq, fun _ => rfl, fun _ => rfl⟩
      · split <;> exact ⟨tidy.kindEq, fun _ => rfl, fun _ => rfl⟩

/-- Close the access unit under assembly when it has another timestamp. -/
def turnTo (a : AuAssembler) (timestamp : UInt32) : AuAssembler :=
  if a.auTimestamp.any (· != timestamp) then a.finishAccessUnit false else a

/-- Add data to the access unit under assembly. -/
def push (a : AuAssembler) (timestamp : UInt32) (data : Bytes) : AuAssembler :=
  { a with
    auTimestamp := some (a.auTimestamp.getD timestamp)
    auBuffer := a.auBuffer ++ data }

theorem appendAccessUnit_eq (a : AuAssembler) (timestamp : UInt32) (marker : Bool)
    (data : Bytes) :
    a.appendAccessUnit timestamp marker data =
      if marker then ((a.turnTo timestamp).push timestamp data).finishAccessUnit true
      else (a.turnTo timestamp).push timestamp data := by
  have stamped (b : AuAssembler) :
      (if b.auTimestamp.isNone then { b with auTimestamp := some timestamp } else b) =
        { b with auTimestamp := some (b.auTimestamp.getD timestamp) } := by
    rcases b with ⟨_, _, _, _ | current, _⟩ <;> rfl
  simp only [appendAccessUnit, stamped]
  rfl

theorem turnTo_tidy {kind : PayloadKind} {a : AuAssembler} (tidy : Tidy kind a)
    (timestamp : UInt32) : Tidy kind (a.turnTo timestamp) := by
  unfold turnTo
  split
  · exact finishAccessUnit_tidy tidy false
  · exact tidy

theorem turnTo_view (a : AuAssembler) (timestamp : UInt32) :
    (a.turnTo timestamp).view =
      a.view.turnTo a.isRawVideo (accessUnitHasKeyframe a.payloadKind) timestamp := by
  unfold turnTo
  change _ = if a.auTimestamp.any (· != timestamp) then _ else _
  split
  · exact a.finishAccessUnit_view false
  · rfl

theorem appendAccessUnit_view (a : AuAssembler) (timestamp : UInt32) (marker : Bool)
    (data : Bytes) :
    (a.appendAccessUnit timestamp marker data).view =
      (a.view.extend a.isRawVideo (accessUnitHasKeyframe a.payloadKind) timestamp data).endIf
        a.isRawVideo (accessUnitHasKeyframe a.payloadKind) marker := by
  let pushed := (a.turnTo timestamp).push timestamp data
  have pushedView : pushed.view = (a.turnTo timestamp).view.push timestamp data := rfl
  have kind : pushed.payloadKind = a.payloadKind := by
    change (a.turnTo timestamp).payloadKind = _
    unfold turnTo
    split
    · exact (a.finishAccessUnit_frame false).1
    · rfl
  have raw : pushed.isRawVideo = a.isRawVideo := congrArg kindIsRawVideo kind
  rw [appendAccessUnit_eq, endIf_view, pushedView, turnTo_view, raw, kind]
  rfl

theorem appendAccessUnit_tidy {kind : PayloadKind} {a : AuAssembler} (tidy : Tidy kind a)
    (timestamp : UInt32) (marker : Bool) (data : Bytes) :
    Tidy kind (a.appendAccessUnit timestamp marker data) := by
  have turned := turnTo_tidy tidy timestamp
  have pushed : Tidy kind ((a.turnTo timestamp).push timestamp data) :=
    ⟨turned.kindEq, turned.h264, turned.h265⟩
  rw [appendAccessUnit_eq]
  split
  · exact finishAccessUnit_tidy pushed true
  · exact pushed

/-- The two raw video branches, given that the depacketiser resumes a
contribution on the fragment of the view. -/
theorem receiveUnpacked_view (a unpacked : AuAssembler) (out : Option Bytes)
    (content : Contribution UInt8) (timestamp : UInt32) (marker : Bool)
    (sameKind : unpacked.payloadKind = a.payloadKind)
    (moved : unpacked.view = a.view.withFragment (content.resume a.view.fragment).2)
    (made : out = (content.resume a.view.fragment).1) :
    (receiveUnpacked (out, unpacked) timestamp marker).view =
      (a.view.receive a.isRawVideo (accessUnitHasKeyframe a.payloadKind) timestamp
        content).endIf a.isRawVideo (accessUnitHasKeyframe a.payloadKind) marker := by
  have raw : unpacked.isRawVideo = a.isRawVideo := congrArg kindIsRawVideo sameKind
  unfold receiveUnpacked Assembly.receive
  rcases resumed : content.resume a.view.fragment with ⟨_ | data, fragment⟩
  · rw [resumed] at made moved
    subst made
    change AuAssembler.view (if marker then unpacked.finishAccessUnit true else unpacked) = _
    rw [endIf_view, moved, raw, sameKind]
  · rw [resumed] at made moved
    subst made
    change (unpacked.appendAccessUnit timestamp marker data).view = _
    rw [appendAccessUnit_view, moved, raw, sameKind]

theorem receiveUnpacked_tidy {kind : PayloadKind} {out : Option Bytes} {unpacked : AuAssembler}
    (tidy : Tidy kind unpacked) (timestamp : UInt32) (marker : Bool) :
    Tidy kind (receiveUnpacked (out, unpacked) timestamp marker) := by
  unfold receiveUnpacked
  split
  · exact appendAccessUnit_tidy tidy timestamp marker _
  · split
    · exact finishAccessUnit_tidy tidy true
    · exact tidy

/-- One call of `process_packet` is one arrival at the unit assembly. -/
theorem processPacket_view {kind : PayloadKind} {a : AuAssembler} (tidy : Tidy kind a)
    (assembled : assembles kind = true) (pkt : RtpPacket) (lostBefore : Bool) :
    (a.processPacket pkt lostBefore).view =
        a.view.step (kindIsRawVideo kind) (accessUnitHasKeyframe kind)
          (arrival kind pkt lostBefore) ∧
      Tidy kind (a.processPacket pkt lostBefore) := by
  have noted := noteLoss_tidy tidy pkt.timestamp lostBefore
  have notedView := noteLoss_view a pkt.timestamp lostBefore
  have raw : a.isRawVideo = kindIsRawVideo kind := congrArg kindIsRawVideo tidy.kindEq
  have notedRaw : (a.noteLoss pkt.timestamp lostBefore).isRawVideo = kindIsRawVideo kind :=
    congrArg kindIsRawVideo noted.kindEq
  rw [raw] at notedView
  unfold processPacket Assembly.step arrival
  rw [tidy.kindEq, ← notedView]
  have direct (same : contribution kind pkt.payload = .whole pkt.payload) :
      ((a.noteLoss pkt.timestamp lostBefore).appendAccessUnit pkt.timestamp pkt.marker
        pkt.payload).view =
        ((a.noteLoss pkt.timestamp lostBefore).view.receive (kindIsRawVideo kind)
          (accessUnitHasKeyframe kind) pkt.timestamp (contribution kind pkt.payload)).endIf
          (kindIsRawVideo kind) (accessUnitHasKeyframe kind) pkt.marker := by
    rw [appendAccessUnit_view, notedRaw, noted.kindEq, same]
    rfl
  generalize a.noteLoss pkt.timestamp lostBefore = b at *
  cases kind with
  | ps => exact ⟨direct rfl, appendAccessUnit_tidy noted ..⟩
  | passthrough => exact ⟨direct rfl, appendAccessUnit_tidy noted ..⟩
  | aac => cases assembled
  | g711 => cases assembled
  | h264 =>
      have other : b.h265Fu = none := noted.h265 (by decide)
      have pending : b.view.fragment = b.h264Fu := by simp [view, other]
      have unpackedTidy : Tidy .h264 (b.depacketizeH264 pkt.payload).2 :=
        ⟨noted.kindEq, fun wrong => absurd rfl wrong, noted.h265⟩
      refine ⟨?_, receiveUnpacked_tidy unpackedTidy _ _⟩
      have received := receiveUnpacked_view b (b.depacketizeH264 pkt.payload).2
        (b.depacketizeH264 pkt.payload).1 (contribution .h264 pkt.payload) pkt.timestamp pkt.marker
        rfl
        (by
          rw [pending, contribution, ← depacketizeH264_eq]
          simp [view, depacketizeH264, Assembly.withFragment, other])
        (by rw [pending, contribution, ← depacketizeH264_eq]; rfl)
      rw [notedRaw, noted.kindEq] at received
      exact received
  | h265 =>
      have other : b.h264Fu = none := noted.h264 (by decide)
      have pending : b.view.fragment = b.h265Fu := by simp [view, other]
      have unpackedTidy : Tidy .h265 (b.depacketizeH265 pkt.payload).2 :=
        ⟨noted.kindEq, noted.h264, fun wrong => absurd rfl wrong⟩
      refine ⟨?_, receiveUnpacked_tidy unpackedTidy _ _⟩
      have received := receiveUnpacked_view b (b.depacketizeH265 pkt.payload).2
        (b.depacketizeH265 pkt.payload).1 (contribution .h265 pkt.payload) pkt.timestamp pkt.marker
        rfl
        (by
          rw [pending, contribution, ← depacketizeH265_eq]
          simp [view, depacketizeH265, Assembly.withFragment, other])
        (by rw [pending, contribution, ← depacketizeH265_eq]; rfl)
      rw [notedRaw, noted.kindEq] at received
      exact received

/-! ## Runs of `process_packet` -/

/-- A packet of a video stream. -/
def videoPacket (timestamp : UInt32) (marker : Bool) (payload : Bytes) : RtpPacket :=
  ⟨1, timestamp, marker, 0, payload⟩

/-- One call as a step: the packet with its `lost_before` flag. -/
def processCall (a : AuAssembler) (call : RtpPacket × Bool) : Unit × AuAssembler :=
  ((), a.processPacket call.1 call.2)

/-- The assembler after a list of calls. -/
def processAll (a : AuAssembler) (calls : List (RtpPacket × Bool)) : AuAssembler :=
  Runs.final processCall a calls

/-- A run of calls is a run of the unit assembly. -/
theorem processAll_view {kind : PayloadKind} {a : AuAssembler} (tidy : Tidy kind a)
    (assembled : assembles kind = true) (calls : List (RtpPacket × Bool)) :
    (a.processAll calls).view =
      calls.foldl (fun s call => s.step (kindIsRawVideo kind) (accessUnitHasKeyframe kind)
        (arrival kind call.1 call.2)) a.view := by
  induction calls generalizing a with
  | nil => rfl
  | cons call rest ih =>
      obtain ⟨stepped, nextTidy⟩ := processPacket_view tidy assembled call.1 call.2
      rw [List.foldl_cons, ← stepped]
      exact ih nextTidy

theorem new_tidy (kind : PayloadKind) (aacAdts : AacAdtsConfig) :
    Tidy kind (AuAssembler.new kind aacAdts) := ⟨rfl, fun _ => rfl, fun _ => rfl⟩

end AuAssembler

end Gmv.Stream
