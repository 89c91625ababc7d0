import Gmv.Stream.Assembly
import Gmv.Stream.KeyframeSearch

/-!
# Depacketisation undoes packetisation

The ways to cut the NAL units of an access unit into RTP payloads: single NAL
unit packets, aggregation packets and fragmentation units.  Whatever mix a
sender chooses, the assembler puts the access units together again.
-/

namespace Gmv.Stream

open Gmv.Library
open Gmv.Library.UnitAssembly

/-! ## NAL units -/

/-- An H265 NAL unit header of the base layer with a temporal id. -/
structure BaseLayer (first second : UInt8) : Prop where
  layerHigh : first &&& 1 = 0
  layerLow : second >>> 3 = 0
  temporal : second &&& 7 ≠ 0

/-- The NAL units of a stream: H264 types 1 to 23; H265 types 0 to 47 of the
base layer with at least three bytes. -/
def CodecNal : PayloadKind → Bytes → Prop
  | .h264, header :: _ => 1 ≤ (header &&& 0x1f).toNat ∧ (header &&& 0x1f).toNat ≤ 23
  | .h265, first :: second :: _ :: _ =>
      ((first >>> 1) &&& 0x3f).toNat ≤ 47 ∧ BaseLayer first second
  | _, _ => False

/-- A NAL unit of the codec with emulation prevention. -/
structure StreamNal (kind : PayloadKind) (nal : Bytes) : Prop where
  codec : CodecNal kind nal
  escaped : Escaped nal

theorem CodecNal.ne_nil {kind : PayloadKind} {nal : Bytes} (codec : CodecNal kind nal) :
    nal ≠ [] := by
  rintro rfl
  cases kind <;> exact codec

/-! ## Payloads -/

/-- One NAL unit of an aggregation packet behind its 16-bit length. -/
def lengthPrefixed (nal : Bytes) : Bytes :=
  (nal.length / 256).toUInt8 :: (nal.length % 256).toUInt8 :: nal

/-- The payload header of an aggregation packet: STAP-A or AP. -/
def AggregationHeader : PayloadKind → Bytes → Prop
  | .h264, [header] => (header &&& 0x1f).toNat = 24
  | .h265, [first, second] => ((first >>> 1) &&& 0x3f).toNat = 48 ∧ BaseLayer first second
  | _, _ => False

/-- The number of bytes of a NAL unit header. -/
def nalHeaderLen : PayloadKind → Nat
  | .h265 => 2
  | _ => 1

/-- A fragmentation unit: the payload header and the FU header, with the start
and end bits in `flags`, before a piece of the NAL unit. -/
def fuPayload (kind : PayloadKind) (nalHeader : Bytes) (flags : UInt8) (piece : Bytes) : Bytes :=
  match kind, nalHeader with
  | .h265, first :: second :: _ =>
      let fuType := (first >>> 1) &&& 0x3f
      ((first &&& 0x81) ||| 0x62) :: second :: (flags ||| fuType) :: piece
  | _, header :: _ => ((header &&& 0xe0) ||| 28) :: (flags ||| (header &&& 0x1f)) :: piece
  | _, [] => piece

/-- The fragmentation units of one NAL unit: a first piece, any number of middle
pieces and a last piece. -/
def fuPayloads (kind : PayloadKind) (nalHeader first : Bytes) (middle : List Bytes)
    (last : Bytes) : List Bytes :=
  fuPayload kind nalHeader 0x80 first ::
    (middle.map (fuPayload kind nalHeader 0) ++ [fuPayload kind nalHeader 0x40 last])

/-- The ways to cut NAL units into payloads. -/
inductive Cut (kind : PayloadKind) : List Bytes → List Bytes → Prop where
  | nil : Cut kind [] []
  | single (nal : Bytes) {nals payloads : List Bytes} (rest : Cut kind nals payloads) :
      Cut kind (nal :: nals) (nal :: payloads)
  | aggregate (header : Bytes) (units : List Bytes) {nals payloads : List Bytes}
      (isHeader : AggregationHeader kind header) (nonempty : units ≠ [])
      (short : ∀ unit ∈ units, unit.length < 65536) (rest : Cut kind nals payloads) :
      Cut kind (units ++ nals) ((header ++ units.flatMap lengthPrefixed) :: payloads)
  | fragments (nalHeader first : Bytes) (middle : List Bytes) (last : Bytes)
      {nals payloads : List Bytes} (headerLen : nalHeader.length = nalHeaderLen kind)
      (firstFull : first ≠ []) (middleFull : ∀ piece ∈ middle, piece ≠ []) (lastFull : last ≠ [])
      (rest : Cut kind nals payloads) :
      Cut kind ((nalHeader ++ first ++ middle.flatten ++ last) :: nals)
        (fuPayloads kind nalHeader first middle last ++ payloads)

/-! ## What the payloads contribute -/

/-- A property of bytes is checked on all 256 of them. -/
theorem byte_all (holds : UInt8 → Prop) (checked : ∀ index : Fin 256, holds (UInt8.ofFin index))
    (byte : UInt8) : holds byte := by
  simpa using checked byte.toFin

/-- The layer and temporal id tests let the base layer through. -/
theorem h265Contribution_baseLayer {first second : UInt8} (base : BaseLayer first second)
    (third : UInt8) (rest : Bytes) :
    h265Contribution (first :: second :: third :: rest) =
      let nalType := ((first >>> 1) &&& 0x3f).toNat
      if nalType > 50 then .ignored
      else if nalType ≤ 47 then .whole (withStartCode (first :: second :: third :: rest))
      else if nalType = 48 then
        wholeContribution (depacketizeH265Ap (first :: second :: third :: rest))
      else if nalType = 49 then h265FuContribution (first :: second :: third :: rest)
      else .ignored := by
  have high : (first <<< 5) &&& 0x20 = 0 :=
    byte_all (fun first => first &&& 1 = 0 → (first <<< 5) &&& 0x20 = 0)
      (by decide +kernel) first base.layerHigh
  have temporal : (second &&& 7 == 0) = false := by simpa using base.temporal
  unfold h265Contribution
  simp only [high, base.layerLow, temporal]
  rfl

theorem contribution_single {kind : PayloadKind} {nal : Bytes} (codec : CodecNal kind nal) :
    contribution kind nal = .whole (withStartCode nal) := by
  cases kind with
  | h264 =>
      cases nal with
      | nil => cases codec
      | cons header rest =>
          change (if (header &&& 0x1f).toNat ≤ 23 then _ else _) = _
          rw [if_pos codec.2]
  | h265 =>
      rcases nal with _ | ⟨first, _ | ⟨second, _ | ⟨third, rest⟩⟩⟩
      · cases codec
      · cases codec
      · cases codec
      · obtain ⟨small, base⟩ := codec
        change h265Contribution (first :: second :: third :: rest) = _
        rw [h265Contribution_baseLayer base]
        dsimp only
        rw [if_neg (by omega), if_pos small]
  | _ => cases codec

theorem be16_lengthPrefixed {length : Nat} (short : length < 65536) :
    be16 (length / 256).toUInt8 (length % 256).toUInt8 = length := by
  simp only [be16, Nat.toUInt8, UInt8.toNat_ofNat']
  omega

theorem aggregatedUnits_flatMap (units : List Bytes)
    (short : ∀ unit ∈ units, unit.length < 65536) (nonempty : ∀ unit ∈ units, unit ≠ [])
    (fuel : Nat) (enough : units.length ≤ fuel) (out : Bytes) :
    aggregatedUnits fuel (units.flatMap lengthPrefixed) out =
      if (out ++ annexB units).isEmpty then none else some (out ++ annexB units) := by
  induction units generalizing fuel out with
  | nil => cases fuel <;> simp [aggregatedUnits]
  | cons unit rest ih =>
      obtain ⟨fuel, rfl⟩ : ∃ more, fuel = more + 1 :=
        ⟨fuel - 1, by rw [List.length_cons] at enough; omega⟩
      have length := be16_lengthPrefixed (short unit (List.mem_cons_self ..))
      have positive := List.length_pos_iff.mpr (nonempty unit (List.mem_cons_self ..))
      have shape : (unit :: rest).flatMap lengthPrefixed =
          (unit.length / 256).toUInt8 :: (unit.length % 256).toUInt8 ::
            (unit ++ rest.flatMap lengthPrefixed) := by
        simp [lengthPrefixed]
      have inside : ¬ (unit.length == 0 ||
          decide (unit.length > (unit ++ rest.flatMap lengthPrefixed).length)) = true := by
        simp only [List.length_append, Bool.or_eq_true, beq_iff_eq, decide_eq_true_eq]
        omega
      rw [shape, aggregatedUnits, length, if_neg inside, List.drop_left, List.take_left,
        ih (fun other member => short other (List.mem_cons_of_mem _ member))
          (fun other member => nonempty other (List.mem_cons_of_mem _ member)) fuel
          (Nat.le_of_succ_le_succ enough)]
      simp [annexB_cons]

theorem length_le_flatMap_lengthPrefixed (units : List Bytes) :
    units.length ≤ (units.flatMap lengthPrefixed).length := by
  induction units with
  | nil => exact Nat.zero_le _
  | cons unit rest ih =>
      simp only [List.flatMap_cons, List.length_append, List.length_cons, lengthPrefixed]
      omega

theorem depacketizeAggregation_units {headerLen : Nat} (header : Bytes) {units : List Bytes}
    (isLen : header.length = headerLen) (nonempty : units ≠ [])
    (short : ∀ unit ∈ units, unit.length < 65536) (full : ∀ unit ∈ units, unit ≠ []) :
    depacketizeAggregation headerLen (header ++ units.flatMap lengthPrefixed) =
      some (annexB units) := by
  have count := length_le_flatMap_lengthPrefixed units
  have some : 0 < units.length := List.length_pos_iff.mpr nonempty
  unfold depacketizeAggregation
  rw [if_neg (by rw [List.length_append]; omega), ← isLen, List.drop_left,
    aggregatedUnits_flatMap units short full _ (by rw [List.length_append]; omega)]
  cases units with
  | nil => exact absurd rfl nonempty
  | cons unit rest => rfl

theorem contribution_aggregate {kind : PayloadKind} {header : Bytes} {units : List Bytes}
    (isHeader : AggregationHeader kind header) (nonempty : units ≠ [])
    (short : ∀ unit ∈ units, unit.length < 65536) (full : ∀ unit ∈ units, unit ≠ []) :
    contribution kind (header ++ units.flatMap lengthPrefixed) = .whole (annexB units) := by
  have some : 0 < units.length := List.length_pos_iff.mpr nonempty
  have count := length_le_flatMap_lengthPrefixed units
  cases kind with
  | h264 =>
      rcases header with _ | ⟨byte, _ | ⟨second, more⟩⟩
      · cases isHeader
      · have type24 : (byte &&& 0x1f).toNat = 24 := isHeader
        change (if (byte &&& 0x1f).toNat ≤ 23 then _ else if (byte &&& 0x1f).toNat = 24 then
          wholeContribution (depacketizeAggregation 1 _) else _) = _
        rw [if_neg (by omega), if_pos type24]
        exact congrArg wholeContribution
          (depacketizeAggregation_units [byte] rfl nonempty short full)
      · cases isHeader
  | h265 =>
      rcases header with _ | ⟨first, _ | ⟨second, _ | ⟨third, more⟩⟩⟩
      · cases isHeader
      · cases isHeader
      · obtain ⟨type48, base⟩ := isHeader
        have made := depacketizeAggregation_units [first, second] rfl nonempty short full
        cases body : units.flatMap lengthPrefixed with
        | nil => rw [body, List.length_nil] at count; omega
        | cons third rest =>
            rw [body] at made
            change h265Contribution (first :: second :: third :: rest) = _
            rw [h265Contribution_baseLayer base]
            dsimp only
            rw [if_neg (by omega), if_neg (by omega), if_pos type48]
            exact congrArg wholeContribution made
      · cases isHeader
  | _ => cases isHeader

/-- The three kinds of fragmentation units, told apart by their flags. -/
def fuContribution (nalHeader : Bytes) (flags : UInt8) (piece : Bytes) : Contribution UInt8 :=
  if flags = 0x80 then .opens (startCode ++ nalHeader ++ piece)
  else if flags = 0x40 then .closes piece
  else .continues piece

theorem fuContribution_first (nalHeader piece : Bytes) (pending : Option Bytes) :
    (fuContribution nalHeader 0x80 piece).resume pending =
      (none, some (startCode ++ nalHeader ++ piece)) := rfl

theorem fuContribution_middle (nalHeader piece out : Bytes) :
    (fuContribution nalHeader 0 piece).resume (some out) = (none, some (out ++ piece)) := rfl

theorem fuContribution_last (nalHeader piece out : Bytes) :
    (fuContribution nalHeader 0x40 piece).resume (some out) = (some (out ++ piece), none) := rfl

/-- The start and end bits of an FU header. -/
def IsFlags (flags : UInt8) : Prop := flags = 0x80 ∨ flags = 0 ∨ flags = 0x40

theorem fragmentContribution_flags {flags fuHeader : UInt8} (isFlags : IsFlags flags)
    (bits : fuHeader &&& 0xc0 = flags) (nalHeader piece : Bytes) :
    fragmentContribution nalHeader fuHeader piece = fuContribution nalHeader flags piece := by
  have split : ∀ byte : UInt8, byte &&& 0x80 = (byte &&& 0xc0) &&& 0x80 ∧
      byte &&& 0x40 = (byte &&& 0xc0) &&& 0x40 := byte_all _ (by decide +kernel)
  unfold fragmentContribution
  rw [(split fuHeader).1, (split fuHeader).2, bits]
  rcases isFlags with rfl | rfl | rfl <;> rfl

/-- The H264 headers of a fragment restore the NAL header. -/
theorem h264_fu_headers {flags : UInt8} (isFlags : IsFlags flags) (header : UInt8) :
    (((header &&& 0xe0) ||| 28) &&& 0x1f).toNat = 28 ∧
      (flags ||| (header &&& 0x1f)) &&& 0xc0 = flags ∧
      (((header &&& 0xe0) ||| 28) &&& 0xe0) ||| ((flags ||| (header &&& 0x1f)) &&& 0x1f) =
        header := by
  rcases isFlags with rfl | rfl | rfl
  · exact byte_all (fun header => (((header &&& 0xe0) ||| 28) &&& 0x1f).toNat = 28 ∧
      (0x80 ||| (header &&& 0x1f)) &&& 0xc0 = 0x80 ∧
      (((header &&& 0xe0) ||| 28) &&& 0xe0) ||| ((0x80 ||| (header &&& 0x1f)) &&& 0x1f) = header)
      (by decide +kernel) header
  · exact byte_all (fun header => (((header &&& 0xe0) ||| 28) &&& 0x1f).toNat = 28 ∧
      (0 ||| (header &&& 0x1f)) &&& 0xc0 = 0 ∧
      (((header &&& 0xe0) ||| 28) &&& 0xe0) ||| ((0 ||| (header &&& 0x1f)) &&& 0x1f) = header)
      (by decide +kernel) header
  · exact byte_all (fun header => (((header &&& 0xe0) ||| 28) &&& 0x1f).toNat = 28 ∧
      (0x40 ||| (header &&& 0x1f)) &&& 0xc0 = 0x40 ∧
      (((header &&& 0xe0) ||| 28) &&& 0xe0) ||| ((0x40 ||| (header &&& 0x1f)) &&& 0x1f) = header)
      (by decide +kernel) header

/-- The first byte of the payload header and the FU header of an H265 fragment. -/
def h265FuHeaders (flags first : UInt8) : UInt8 × UInt8 :=
  ((first &&& 0x81) ||| 0x62, flags ||| ((first >>> 1) &&& 0x3f))

/-- The H265 headers of a fragment restore the NAL header. -/
theorem h265_fu_headers {flags : UInt8} (isFlags : IsFlags flags) (first : UInt8) :
    (((h265FuHeaders flags first).1 >>> 1) &&& 0x3f).toNat = 49 ∧
      (h265FuHeaders flags first).1 &&& 1 = first &&& 1 ∧
      (h265FuHeaders flags first).2 &&& 0xc0 = flags ∧
      ((h265FuHeaders flags first).1 &&& 0x81) |||
        (((h265FuHeaders flags first).2 &&& (0x3f : UInt8)) <<< (1 : UInt8)) = first := by
  rcases isFlags with rfl | rfl | rfl
  · revert first; exact byte_all _ (by decide +kernel)
  · revert first; exact byte_all _ (by decide +kernel)
  · revert first; exact byte_all _ (by decide +kernel)

theorem contribution_fuPayload {kind : PayloadKind} {nalHeader body : Bytes}
    (codec : CodecNal kind (nalHeader ++ body)) (headerLen : nalHeader.length = nalHeaderLen kind)
    {flags : UInt8} (isFlags : IsFlags flags) {piece : Bytes} (full : piece ≠ []) :
    contribution kind (fuPayload kind nalHeader flags piece) =
      fuContribution nalHeader flags piece := by
  obtain ⟨byte, more, rfl⟩ := List.exists_cons_of_ne_nil full
  cases kind with
  | h264 =>
      obtain ⟨header, rfl⟩ := List.length_eq_one_iff.mp headerLen
      obtain ⟨type28, bits, restored⟩ := h264_fu_headers isFlags header
      change (if (((header &&& 0xe0) ||| 28) &&& 0x1f).toNat ≤ 23 then _
        else if (((header &&& 0xe0) ||| 28) &&& 0x1f).toNat = 24 then _
        else if (((header &&& 0xe0) ||| 28) &&& 0x1f).toNat = 28 then
          fragmentContribution [(((header &&& 0xe0) ||| 28) &&& 0xe0) |||
            ((flags ||| (header &&& 0x1f)) &&& 0x1f)] (flags ||| (header &&& 0x1f)) (byte :: more)
        else _) = _
      rw [type28, if_neg (by decide), if_neg (by decide), if_pos rfl,
        fragmentContribution_flags isFlags bits, restored]
  | h265 =>
      obtain ⟨first, second, rfl⟩ := List.length_eq_two.mp headerLen
      obtain ⟨type49, layer, bits, restored⟩ := h265_fu_headers isFlags first
      have base : BaseLayer first second := by
        rcases body with _ | ⟨third, rest⟩
        · cases codec
        · exact codec.2
      have fuBase : BaseLayer (h265FuHeaders flags first).1 second :=
        ⟨layer.trans base.layerHigh, base.layerLow, base.temporal⟩
      change h265Contribution ((h265FuHeaders flags first).1 :: second ::
        (h265FuHeaders flags first).2 :: byte :: more) = _
      rw [h265Contribution_baseLayer fuBase]
      dsimp only
      rw [type49, if_neg (by decide), if_neg (by decide), if_neg (by decide), if_pos rfl]
      change fragmentContribution [((h265FuHeaders flags first).1 &&& 0x81) |||
        (((h265FuHeaders flags first).2 &&& (0x3f : UInt8)) <<< (1 : UInt8)), second] _ _ = _
      rw [fragmentContribution_flags isFlags bits, restored]
  | _ => cases codec

/-! ## Assembling the payloads of one access unit -/

section Gathering

variable (gated : Bool) (isKey : Bytes → Bool) (timestamp : UInt32)

/-- Take in the payloads of some packets with one timestamp and no marker. -/
def receiveAll (kind : PayloadKind) (s : Assembly UInt32 UInt8) (payloads : List Bytes) :
    Assembly UInt32 UInt8 :=
  payloads.foldl (fun s payload => s.receive gated isKey timestamp (contribution kind payload)) s

/-- The unit under assembly with some NAL units added. -/
def gather (s : Assembly UInt32 UInt8) (nals : List Bytes) : Assembly UInt32 UInt8 :=
  if nals = [] then s else s.push timestamp (annexB nals)

theorem gather_push (s : Assembly UInt32 UInt8) (first second : List Bytes)
    (nonempty : first ≠ []) :
    gather timestamp (s.push timestamp (annexB first)) second =
      gather timestamp s (first ++ second) := by
  unfold gather
  rw [if_neg (fun empty => nonempty (List.append_eq_nil_iff.mp empty).1)]
  split
  · next empty => rw [empty, List.append_nil]
  · rw [Assembly.push_push, annexB_append]

/-- No unit of another timestamp and no fragment is pending. -/
structure Calm (s : Assembly UInt32 UInt8) : Prop where
  stamp : s.stamp = none ∨ s.stamp = some timestamp
  fragment : s.fragment = none

theorem Calm.push {timestamp : UInt32} {s : Assembly UInt32 UInt8} (calm : Calm timestamp s)
    (data : Bytes) : Calm timestamp (s.push timestamp data) := by
  refine ⟨.inr ?_, calm.fragment⟩
  rcases calm.stamp with none | same <;> simp [Assembly.push, *]

variable {timestamp} {kind : PayloadKind}

theorem Calm.receive_whole {s : Assembly UInt32 UInt8} (calm : Calm timestamp s) (data : Bytes) :
    s.receive gated isKey timestamp (.whole data) = s.push timestamp data := by
  rw [s.receive_push gated isKey timestamp calm.stamp rfl]
  rfl

theorem receiveAll_append (s : Assembly UInt32 UInt8) (first second : List Bytes) :
    receiveAll gated isKey timestamp kind s (first ++ second) =
      receiveAll gated isKey timestamp kind (receiveAll gated isKey timestamp kind s first)
        second :=
  List.foldl_append

theorem receiveAll_middle {nalHeader body : Bytes} (codec : CodecNal kind (nalHeader ++ body))
    (headerLen : nalHeader.length = nalHeaderLen kind) (middle : List Bytes)
    (full : ∀ piece ∈ middle, piece ≠ []) (s : Assembly UInt32 UInt8) (out : Bytes) :
    receiveAll gated isKey timestamp kind (s.withFragment (some out))
        (middle.map (fuPayload kind nalHeader 0)) =
      s.withFragment (some (out ++ middle.flatten)) := by
  induction middle generalizing out with
  | nil => simp [receiveAll]
  | cons piece rest ih =>
      have content := contribution_fuPayload codec headerLen (.inr (.inl rfl) : IsFlags 0)
        (full piece (List.mem_cons_self ..))
      change receiveAll gated isKey timestamp kind
        ((s.withFragment (some out)).receive gated isKey timestamp
          (contribution kind (fuPayload kind nalHeader 0 piece)))
        (rest.map (fuPayload kind nalHeader 0)) = _
      rw [content, (s.withFragment (some out)).receive_pending gated isKey timestamp
        (fuContribution_middle nalHeader piece out)]
      have later := ih (fun other member => full other (List.mem_cons_of_mem _ member))
        (out ++ piece)
      rw [List.append_assoc] at later
      exact later

/-- The fragmentation units of a NAL unit add that NAL unit. -/
theorem receiveAll_fuPayloads {nalHeader first last : Bytes} {middle : List Bytes}
    (codec : CodecNal kind (nalHeader ++ (first ++ middle.flatten ++ last)))
    (headerLen : nalHeader.length = nalHeaderLen kind) (firstFull : first ≠ [])
    (middleFull : ∀ piece ∈ middle, piece ≠ []) (lastFull : last ≠ [])
    {s : Assembly UInt32 UInt8} (calm : Calm timestamp s) :
    receiveAll gated isKey timestamp kind s (fuPayloads kind nalHeader first middle last) =
      s.push timestamp (annexB [nalHeader ++ first ++ middle.flatten ++ last]) := by
  let opened := startCode ++ nalHeader ++ first
  have opens : s.receive gated isKey timestamp
      (contribution kind (fuPayload kind nalHeader 0x80 first)) = s.withFragment (some opened) := by
    rw [contribution_fuPayload codec headerLen (.inl rfl) firstFull,
      s.receive_pending gated isKey timestamp (fuContribution_first nalHeader first s.fragment)]
  have closes : (s.withFragment (some (opened ++ middle.flatten))).receive gated isKey timestamp
      (contribution kind (fuPayload kind nalHeader 0x40 last)) =
      s.push timestamp (opened ++ middle.flatten ++ last) := by
    rw [contribution_fuPayload codec headerLen (.inr (.inr rfl)) lastFull,
      (s.withFragment (some (opened ++ middle.flatten))).receive_push gated isKey timestamp
        calm.stamp (fuContribution_last nalHeader last (opened ++ middle.flatten))]
    simp only [Assembly.withFragment, ← calm.fragment]
  change receiveAll gated isKey timestamp kind (s.receive gated isKey timestamp
    (contribution kind (fuPayload kind nalHeader 0x80 first))) (_ ++ [_]) = _
  rw [opens, receiveAll_append, receiveAll_middle gated isKey codec headerLen middle middleFull]
  refine closes.trans ?_
  simp [opened]

/-- Whatever the cut, the payloads add exactly the NAL units. -/
theorem Cut.receiveAll {nals payloads : List Bytes} (cut : Cut kind nals payloads)
    (codec : ∀ nal ∈ nals, CodecNal kind nal) {s : Assembly UInt32 UInt8}
    (calm : Calm timestamp s) :
    receiveAll gated isKey timestamp kind s payloads = gather timestamp s nals := by
  induction cut generalizing s with
  | nil => rfl
  | @single nal nals payloads rest ih =>
      have here := contribution_single (codec nal (List.mem_cons_self ..))
      change Stream.receiveAll gated isKey timestamp kind
        (s.receive gated isKey timestamp (contribution kind nal)) payloads = _
      rw [here, calm.receive_whole, ih (fun other member => codec other
        (List.mem_cons_of_mem _ member)) (calm.push _)]
      have alone : withStartCode nal = annexB [nal] := by simp [withStartCode]
      rw [alone]
      exact gather_push timestamp s [nal] nals (List.cons_ne_nil _ _)
  | @aggregate header units nals payloads isHeader nonempty short rest ih =>
      have here := contribution_aggregate isHeader nonempty short fun unit member =>
        (codec unit (List.mem_append_left _ member)).ne_nil
      change Stream.receiveAll gated isKey timestamp kind (s.receive gated isKey timestamp
        (contribution kind (header ++ units.flatMap lengthPrefixed))) payloads = _
      rw [here, calm.receive_whole, ih (fun other member => codec other
        (List.mem_append_right _ member)) (calm.push _)]
      exact gather_push timestamp s units nals nonempty
  | @fragments nalHeader first middle last nals payloads headerLen firstFull middleFull lastFull
      rest ih =>
      have codecHere : CodecNal kind (nalHeader ++ (first ++ middle.flatten ++ last)) := by
        have whole := codec _ (List.mem_cons_self ..)
        simpa using whole
      rw [receiveAll_append, receiveAll_fuPayloads gated isKey codecHere headerLen firstFull middleFull
        lastFull calm, ih (fun other member => codec other (List.mem_cons_of_mem _ member))
        (calm.push _)]
      exact gather_push timestamp s _ nals (List.cons_ne_nil _ _)

end Gathering

/-! ## Access units -/

/-- An access unit and the packets that carry it. -/
structure CodedUnit where
  timestamp : UInt32
  nals : List Bytes
  packets : List RtpPacket

namespace CodedUnit

open AuAssembler

/-- The packets are a cut of the NAL units, share the timestamp and have the
marker on the last packet. -/
structure Valid (kind : PayloadKind) (u : CodedUnit) : Prop where
  nonempty : u.nals ≠ []
  nals : ∀ nal ∈ u.nals, StreamNal kind nal
  cut : Cut kind u.nals (u.packets.map RtpPacket.payload)
  stamps : ∀ pkt ∈ u.packets, pkt.timestamp = u.timestamp
  markers : ∃ front last, u.packets = front ++ [last] ∧
    (∀ pkt ∈ front, pkt.marker = false) ∧ last.marker = true

/-- One of the NAL units is a key frame. -/
def hasKeyframe (kind : PayloadKind) (u : CodedUnit) : Bool :=
  u.nals.any fun nal => keyframeHeader kind (nal.headD 0)

/-- The packets, each received without a loss before it. -/
def calls (u : CodedUnit) : List (RtpPacket × Bool) := u.packets.map fun pkt => (pkt, false)

/-- Nothing is under assembly. -/
structure Idle (s : Assembly UInt32 UInt8) : Prop where
  unit : s.unit = []
  stamp : s.stamp = none
  damaged : s.damaged = false
  fragment : s.fragment = none

variable {kind : PayloadKind} {u : CodedUnit}

theorem any_congr_of_mem {nals : List Bytes} {first second : Bytes → Bool}
    (same : ∀ nal ∈ nals, first nal = second nal) : nals.any first = nals.any second := by
  have mapped := congrArg (fun flags => flags.any id) (List.map_congr_left same)
  simpa only [List.any_map, Function.id_comp] using mapped

theorem accessUnitHasKeyframe_annexB (raw : kindIsRawVideo kind = true) (valid : u.Valid kind) :
    accessUnitHasKeyframe kind (annexB u.nals) = u.hasKeyframe kind := by
  have units : ∀ nal ∈ u.nals, Escaped nal ∧ nal ≠ [] := fun nal member =>
    ⟨(valid.nals nal member).escaped, (valid.nals nal member).codec.ne_nil⟩
  unfold hasKeyframe
  cases kind with
  | h264 =>
      refine (accessUnitHasNal_annexB h264IsKeyframeNal valid.nonempty units).trans ?_
      refine any_congr_of_mem fun nal member => ?_
      cases nal with
      | nil => exact absurd rfl (units [] member).2
      | cons header rest => rfl
  | h265 =>
      refine (accessUnitHasNal_annexB h265IsKeyframeNal valid.nonempty units).trans ?_
      refine any_congr_of_mem fun nal member => ?_
      have codec := (valid.nals nal member).codec
      rcases nal with _ | ⟨first, _ | ⟨second, rest⟩⟩
      · cases codec
      · cases codec
      · rfl
  | _ => cases raw

variable (kind) (gated : Bool) (isKey : Bytes → Bool)

theorem steps_eq_receiveAll {timestamp : UInt32} (pkts : List RtpPacket)
    (stamps : ∀ pkt ∈ pkts, pkt.timestamp = timestamp)
    (unmarked : ∀ pkt ∈ pkts, pkt.marker = false) (s : Assembly UInt32 UInt8) :
    (pkts.map fun pkt => (pkt, false)).foldl
        (fun s call => s.step gated isKey (arrival kind call.1 call.2)) s =
      receiveAll gated isKey timestamp kind s (pkts.map RtpPacket.payload) := by
  induction pkts generalizing s with
  | nil => rfl
  | cons pkt rest ih =>
      have step : s.step gated isKey (arrival kind pkt false) =
          s.receive gated isKey timestamp (contribution kind pkt.payload) := by
        simp only [Assembly.step, arrival, unmarked pkt (List.mem_cons_self ..),
          stamps pkt (List.mem_cons_self ..)]
        rfl
      simp only [List.map_cons, List.foldl_cons, step]
      exact ih (fun other member => stamps other (List.mem_cons_of_mem _ member))
        (fun other member => unmarked other (List.mem_cons_of_mem _ member)) _

/-- The packets of a unit add its NAL units and end it. -/
theorem steps_unit (valid : u.Valid kind) {s : Assembly UInt32 UInt8} (idle : Idle s) :
    u.calls.foldl (fun s call => s.step gated isKey (arrival kind call.1 call.2)) s =
      (s.push u.timestamp (annexB u.nals)).finish gated isKey := by
  obtain ⟨front, last, packets, unmarked, marked⟩ := valid.markers
  have stamps := valid.stamps
  have cut := valid.cut
  rw [packets] at stamps cut
  have calm : Calm u.timestamp s := ⟨.inl idle.stamp, idle.fragment⟩
  have gathered := cut.receiveAll gated isKey
    (fun nal member => (valid.nals nal member).codec) calm
  rw [List.map_append, receiveAll_append, gather, if_neg valid.nonempty] at gathered
  have frontSteps := steps_eq_receiveAll kind gated isKey front
    (fun pkt member => stamps pkt (List.mem_append_left _ member)) unmarked s
  rw [calls, packets, List.map_append, List.foldl_append, frontSteps, ← gathered]
  have lastStamp := stamps last (List.mem_append_right _ (List.mem_singleton_self _))
  simp only [List.map_cons, List.map_nil, List.foldl_cons, List.foldl_nil, Assembly.step, arrival,
    lastStamp, marked]
  rfl

variable {kind}

/-- The output of the units from a gate that waits for a key frame or is open. -/
def output (kind : PayloadKind) (units : List CodedUnit) (waiting : Bool) : List Bytes :=
  if waiting then (units.dropWhile fun u => !u.hasKeyframe kind).map fun u => annexB u.nals
  else units.map fun u => annexB u.nals

/-- The idle assembly after a unit. -/
def afterUnit (kind : PayloadKind) (u : CodedUnit) (s : Assembly UInt32 UInt8) :
    Assembly UInt32 UInt8 :=
  { s with
    ready := if !s.waiting || u.hasKeyframe kind then s.ready ++ [annexB u.nals] else s.ready
    waiting := s.waiting && !u.hasKeyframe kind }

theorem finish_unit_idle (raw : kindIsRawVideo kind = true) (valid : u.Valid kind)
    {s : Assembly UInt32 UInt8} (idle : Idle s) :
    (s.push u.timestamp (annexB u.nals)).finish true (accessUnitHasKeyframe kind) =
      afterUnit kind u s := by
  have key := accessUnitHasKeyframe_annexB raw valid
  have full : (annexB u.nals).isEmpty = false := by
    obtain ⟨nal, rest, same⟩ := List.exists_cons_of_ne_nil valid.nonempty
    rw [same]
    rfl
  simp [afterUnit, Assembly.finish, Assembly.push, Assembly.outputs, idle.unit, idle.stamp,
    idle.damaged, full, key]

/-- The run lemma over the access units. -/
theorem steps_units (raw : kindIsRawVideo kind = true) (units : List CodedUnit)
    (valid : ∀ u ∈ units, u.Valid kind) {s : Assembly UInt32 UInt8} (idle : Idle s) :
    ((units.flatMap calls).foldl (fun s call => s.step true (accessUnitHasKeyframe kind)
        (arrival kind call.1 call.2)) s).ready = s.ready ++ output kind units s.waiting := by
  induction units generalizing s with
  | nil => cases waiting : s.waiting <;> simp [output]
  | cons u rest ih =>
      have here := valid u (List.mem_cons_self ..)
      rw [List.flatMap_cons, List.foldl_append, steps_unit kind true _ here idle,
        finish_unit_idle raw here idle]
      have nextIdle : Idle (afterUnit kind u s) :=
        ⟨idle.unit, idle.stamp, idle.damaged, idle.fragment⟩
      rw [ih (fun other member => valid other (List.mem_cons_of_mem _ member)) nextIdle]
      cases waiting : s.waiting with
      | false => simp [afterUnit, output, waiting]
      | true => cases key : u.hasKeyframe kind <;> simp [afterUnit, output, waiting, key]

/-- Whatever cut the sender chooses for its access units, the assembler puts out
the byte stream of each access unit, from the first one with a key frame on.  The
timestamps of neighbouring access units need not even differ. -/
theorem depacketization_undoes_packetization (kind : PayloadKind) (aacAdts : AacAdtsConfig)
    (raw : kindIsRawVideo kind = true) (units : List CodedUnit)
    (valid : ∀ u ∈ units, u.Valid kind) :
    ((AuAssembler.new kind aacAdts).processAll (units.flatMap calls)).readyAus =
      (units.dropWhile fun u => !u.hasKeyframe kind).map fun u => annexB u.nals := by
  have run := congrArg Assembly.ready
    (processAll_view (new_tidy kind aacAdts) (assembles_of_raw raw) (units.flatMap calls))
  rw [raw] at run
  refine run.trans ?_
  rw [steps_units raw units valid ⟨rfl, rfl, rfl, rfl⟩]
  change [] ++ output kind units (kindIsRawVideo kind) = _
  rw [raw]
  rfl

/-- A unit before the first key frame, and a key frame whose parameter sets are
aggregated and whose slice is cut into three fragments. -/
theorem depacketization_undoes_packetization_mixed :
    let slice : CodedUnit := ⟨1, [[0x41, 9]], [videoPacket 1 true [0x41, 9]]⟩
    let frame : CodedUnit := ⟨2, [[0x67, 1], [0x68, 2], [0x65, 3, 4, 5]],
      [videoPacket 2 false [0x78, 0, 2, 0x67, 1, 0, 2, 0x68, 2], videoPacket 2 false [0x7c, 0x85, 3],
        videoPacket 2 false [0x7c, 0x05, 4], videoPacket 2 true [0x7c, 0x45, 5]]⟩
    ((AuAssembler.new .h264 ⟨0, 0⟩).processAll ([slice, frame].flatMap calls)).readyAus =
      [[0, 0, 0, 1, 0x67, 1, 0, 0, 0, 1, 0x68, 2, 0, 0, 0, 1, 0x65, 3, 4, 5]] := by
  intro slice frame
  have sliceValid : slice.Valid .h264 := by
    refine ⟨by decide, ?_, .single [0x41, 9] .nil, by decide, [], _, rfl, by decide, rfl⟩
    intro nal member
    cases List.mem_singleton.mp member
    exact ⟨⟨by decide, by decide⟩, by decide +kernel⟩
  have frameValid : frame.Valid .h264 := by
    refine ⟨by decide, ?_, ?_, by decide, [_, _, _], _, rfl, by decide, rfl⟩
    · intro nal member
      rcases member with _ | ⟨_, _ | ⟨_, _ | ⟨_, none⟩⟩⟩
      · exact ⟨⟨by decide, by decide⟩, by decide +kernel⟩
      · exact ⟨⟨by decide, by decide⟩, by decide +kernel⟩
      · exact ⟨⟨by decide, by decide⟩, by decide +kernel⟩
      · cases none
    · exact .aggregate [0x78] [[0x67, 1], [0x68, 2]] rfl (by decide) (by decide)
        (.fragments [0x65] [3] [[4]] [5] rfl (by decide) (by decide) (by decide) .nil)
  refine (depacketization_undoes_packetization .h264 ⟨0, 0⟩ rfl [slice, frame] ?_).trans
    (by decide)
  intro u member
  rcases member with _ | ⟨_, _ | ⟨_, none⟩⟩
  · exact sliceValid
  · exact frameValid
  · cases none

end CodedUnit

end Gmv.Stream
