import Gmv.Library.Framing
import Gmv.Stream.Nal

/-!
# AAC access units in ADTS frames

An RTP payload of AAC carries its access units behind a list of 16-bit headers; the
depacketiser puts each of them into an ADTS frame, whose header repeats the length
in 13 bits.  The readers of these frames strip the header and take the audio
configuration from it.
-/

namespace Gmv.Stream.AdtsFraming

open Gmv.Library.Framing

/-! ## The readers -/

/-- `Self::strip_adts` of the FLV muxer. -/
def stripAdts (data : Bytes) : Bytes :=
  if decide (data.length ≥ 7) && data.getD 0 0 == 0xff && data.getD 1 0 &&& 0xf0 == 0xf0 then
    let hasCrc := data.getD 1 0 &&& 0x01 == 0
    let headerLen := if hasCrc then 9 else 7
    if data.length > headerLen then data.drop headerLen else data
  else data

/-- The two bytes of the audio specific configuration, from the third and the fourth
byte of the header. -/
def ascBytes (third fourth : UInt8) : UInt8 × UInt8 :=
  let profile := ((third &&& 0xc0) >>> 6) + 1
  let sfIndex := (third &&& 0x3c) >>> 2
  let chanCfg := ((third &&& 0x01) <<< 2) ||| ((fourth &&& 0xc0) >>> 6)
  ((profile <<< 3) ||| (sfIndex >>> 1), ((sfIndex &&& 1) <<< 7) ||| (chanCfg <<< 3))

def parseAacAscFromAdts (adts : Bytes) : Option (UInt8 × UInt8) :=
  if adts.length < 7 then none
  else if adts.getD 0 0 != 0xff || adts.getD 1 0 &&& 0xf0 != 0xf0 then none
  else some (ascBytes (adts.getD 2 0) (adts.getD 3 0))

/-! ## What the formats say -/

/-- The object type, the sample rate index and the channel configuration that an audio
specific configuration stands for. -/
def ascFields (asc : UInt8 × UInt8) : Nat × Nat × Nat :=
  (asc.1.toNat / 8, asc.1.toNat % 8 * 2 + asc.2.toNat / 128, asc.2.toNat / 8 % 16)

/-- The object type of AAC-LC. -/
def aacLc : Nat := 2

/-- `frame_length`: 13 bits in three bytes of the header. -/
def frameLength (frame : Bytes) : Nat :=
  (frame.getD 3 0).toNat % 4 * 2048 + (frame.getD 4 0).toNat * 8 + (frame.getD 5 0).toNat / 32

def adtsHeaderLen : Nat := 7

/-- A frame without an error check behind its header. -/
def framePayload (frame : Bytes) : Bytes := frame.drop adtsHeaderLen

inductive SplitError where
  | lengthInsideHeader
  deriving DecidableEq, Repr

/-- A reader of a stream of frames: the next frame ends where its `frame_length` says. -/
def verdict (buffer : Bytes) : Verdict SplitError :=
  if buffer.length < adtsHeaderLen then .wait
  else if frameLength buffer < adtsHeaderLen then .reject .lengthInsideHeader
  else if buffer.length < frameLength buffer then .wait
  else .cut (frameLength buffer)

/-- The number of bits of the AU headers of a payload. -/
def auHeaderBits (payload : Bytes) : Nat := be16 (payload.getD 0 0) (payload.getD 1 0)

/-- The size in an AU header: its upper 13 bits. -/
def auSize (payload : Bytes) (i : Nat) : Nat :=
  be16 (payload.getD (2 + i * 2) 0) (payload.getD (2 + i * 2 + 1) 0) / 8

def auSizes (payload : Bytes) : List Nat :=
  (List.range (auHeaderBits payload / 16)).map (auSize payload)

/-- Consecutive pieces of the given sizes. -/
def pieces : List Nat → Bytes → List Bytes
  | [], _ => []
  | size :: sizes, data => data.take size :: pieces sizes (data.drop size)

/-- The access units that the AU headers of a payload list. -/
def listedAus (payload : Bytes) : List Bytes :=
  pieces (auSizes payload) (payload.drop (2 + auHeaderBits payload / 8))

/-! ## The ADTS stream as frames -/

theorem frameLength_append {buffer : Bytes} (more : Bytes)
    (enough : ¬ buffer.length < adtsHeaderLen) :
    frameLength (buffer ++ more) = frameLength buffer := by
  have header (index : Nat) (small : index < adtsHeaderLen) :
      (buffer ++ more).getD index 0 = buffer.getD index 0 := by
    rw [List.getD_eq_getElem?_getD, List.getElem?_append_left (by omega),
      List.getD_eq_getElem?_getD]
  simp only [frameLength, header 3 (by decide), header 4 (by decide), header 5 (by decide)]

theorem verdict_append {buffer : Bytes} (more : Bytes)
    (decided : verdict buffer ≠ .wait) : verdict (buffer ++ more) = verdict buffer :=
  lengthPrefixed_append (· < adtsHeaderLen) SplitError.lengthInsideHeader (fun length => length) more
    (frameLength_append more) decided

theorem cut_bounds {buffer : Bytes} {size : Nat} (cut : verdict buffer = .cut size) :
    0 < size ∧ size ≤ buffer.length := by
  simp only [verdict] at cut
  split_ifs at cut with short small partly
  cases cut
  simp only [adtsHeaderLen] at *
  omega

def adtsSplitter : Splitter UInt8 SplitError where
  verdict := verdict
  cut_fits := cut_bounds
  cut_append more cut := by rw [verdict_append more (by simp [cut]), cut]
  reject_append more reject := by rw [verdict_append more (by simp [reject]), reject]

theorem frameLength_lt (frame : Bytes) : frameLength frame < 8192 := by
  have first := (frame.getD 4 0).toNat_lt
  have second := (frame.getD 5 0).toNat_lt
  simp only [frameLength]
  omega

/-! ## Frames as the depacketiser writes them -/

theorem appendAdtsFrame_append (out frame : Bytes) (cfg : AacAdtsConfig) :
    appendAdtsFrame out frame cfg = out ++ appendAdtsFrame [] frame cfg := by
  unfold appendAdtsFrame
  split
  · simp
  · simp

/-- Two bit fields that do not overlap. -/
theorem joined (high : Nat) {low width : Nat} (fits : low < 2 ^ width) :
    high <<< width ||| low = high * 2 ^ width + low := by
  rw [← Nat.shiftLeft_add_eq_or_of_lt fits, Nat.shiftLeft_eq]

section Frame

variable {cfg : AacAdtsConfig} {index : Nat}

theorem length_frame (rate : aacSampleRateIndex cfg.sampleRate = some index) (au : Bytes) :
    (appendAdtsFrame [] au cfg).length = au.length + adtsHeaderLen := by
  simp only [appendAdtsFrame, rate, List.nil_append, List.length_append, List.length_cons,
    List.length_nil, adtsHeaderLen]
  omega

theorem framePayload_frame (rate : aacSampleRateIndex cfg.sampleRate = some index) (au : Bytes) :
    framePayload (appendAdtsFrame [] au cfg) = au := by
  simp [appendAdtsFrame, rate, framePayload, adtsHeaderLen]

/-- The three bytes hold the length modulo `2 ^ 13`. -/
theorem frameLength_frame (rate : aacSampleRateIndex cfg.sampleRate = some index) (au : Bytes) :
    frameLength (appendAdtsFrame [] au cfg) = (au.length + adtsHeaderLen) % 8192 := by
  have two (value : Nat) : value &&& 3 = value % 4 := Nat.and_two_pow_sub_one_eq_mod value 2
  have three (value : Nat) : value &&& 7 = value % 8 := Nat.and_two_pow_sub_one_eq_mod value 3
  have eight (value : Nat) : value &&& 255 = value % 256 :=
    Nat.and_two_pow_sub_one_eq_mod value 8
  simp only [appendAdtsFrame, rate, frameLength, adtsHeaderLen, List.nil_append, List.cons_append,
    List.getD_cons_succ, List.getD_cons_zero]
  generalize au.length + 7 = len
  have high : ((min cfg.channels 7 &&& 3) <<< 6 ||| len >>> 11 &&& 3) =
      min cfg.channels 7 % 4 * 64 + len / 2048 % 4 := by
    rw [two, two, Nat.shiftRight_eq_div_pow, joined _ (by omega)]
    rfl
  have middle : len >>> 3 &&& 255 = len / 8 % 256 := by
    rw [eight, Nat.shiftRight_eq_div_pow]
  have low : ((len &&& 7) <<< 5 ||| 31) = len % 8 * 32 + 31 := by
    rw [three, joined _ (by decide)]
    rfl
  rw [high, middle, low]
  simp only [Nat.toUInt8_eq, UInt8.toNat_ofNat']
  omega

theorem stripAdts_frame (rate : aacSampleRateIndex cfg.sampleRate = some index) {au : Bytes}
    (filled : au ≠ []) : stripAdts (appendAdtsFrame [] au cfg) = au := by
  have positive : 0 < au.length := List.length_pos_iff.mpr filled
  simp only [appendAdtsFrame, rate, List.nil_append, List.cons_append]
  unfold stripAdts
  rw [if_pos (by simp [show (0xf1 : UInt8) &&& 0xf0 = 0xf0 by decide])]
  simp only [List.getD_cons_succ, List.getD_cons_zero,
    show ((0xf1 : UInt8) &&& 0x01 == 0) = false by decide, Bool.false_eq_true, if_false]
  rw [if_pos (by simpa using positive)]
  rfl

theorem aacSampleRateIndex_lt (rate : aacSampleRateIndex cfg.sampleRate = some index) :
    index < 13 := by
  unfold aacSampleRateIndex at rate
  split at rate <;> cases rate <;> decide

/-- The header is read back bit by bit, whatever the top bits of the length are. -/
theorem ascFields_header : ∀ index < 13, ∀ channels < 8, ∀ top < 4,
    ascFields (ascBytes
      (((1 &&& 0x03) <<< 6) ||| ((index &&& 0x0f) <<< 2) ||| (channels >>> 2)).toUInt8
      (((channels &&& 0x03) <<< 6) ||| top).toUInt8) = (aacLc, index, channels) := by
  decide +kernel

theorem parseAacAscFromAdts_frame (rate : aacSampleRateIndex cfg.sampleRate = some index)
    (channels : cfg.channels ≤ 7) (au : Bytes) :
    (parseAacAscFromAdts (appendAdtsFrame [] au cfg)).map ascFields =
      some (aacLc, index, cfg.channels) := by
  have top : (au.length + 7) >>> 11 &&& 0x03 < 4 := Nat.and_lt_two_pow (n := 2) _ (by decide)
  have header := ascFields_header index (aacSampleRateIndex_lt rate) cfg.channels (by omega) _ top
  simp only [appendAdtsFrame, rate, List.nil_append, List.cons_append, Nat.min_eq_left channels]
  unfold parseAacAscFromAdts
  rw [if_neg (by simp), if_neg (by simp [show (0xf1 : UInt8) &&& 0xf0 = 0xf0 by decide])]
  simp only [List.getD_cons_succ, List.getD_cons_zero, Option.map_some, header]

/-- A frame is recognised whatever follows it, as long as its length fits. -/
theorem verdict_frame (rate : aacSampleRateIndex cfg.sampleRate = some index) {au : Bytes}
    (short : au.length ≤ 8184) (more : Bytes) :
    verdict (appendAdtsFrame [] au cfg ++ more) =
      .cut (appendAdtsFrame [] au cfg).length := by
  have size := length_frame rate au
  have field : frameLength (appendAdtsFrame [] au cfg ++ more) = au.length + adtsHeaderLen := by
    rw [frameLength_append more (by omega), frameLength_frame rate]
    exact Nat.mod_eq_of_lt (by simp only [adtsHeaderLen]; omega)
  simp only [verdict, field, List.length_append, size]
  rw [if_neg (by omega), if_neg (by omega), if_neg (by omega)]

end Frame

/-! ## The payload -/

/-- The loop over the AU headers from number `i` on. -/
theorem aacUnits_eq {cfg : AacAdtsConfig} {payload : Bytes} (remaining i dataOffset : Nat)
    {out result : Bytes}
    (accepted : aacUnits cfg payload remaining i dataOffset out = some result) :
    result = out ++ (pieces ((List.range' i remaining).map (auSize payload))
        (payload.drop dataOffset)).flatMap (appendAdtsFrame [] · cfg) ∧
      (pieces ((List.range' i remaining).map (auSize payload))
        (payload.drop dataOffset)).map List.length =
          (List.range' i remaining).map (auSize payload) := by
  induction remaining generalizing i dataOffset out with
  | zero =>
      unfold aacUnits at accepted
      split at accepted
      · cases accepted
      · cases accepted
        simp [pieces]
  | succ remaining ih =>
      unfold aacUnits at accepted
      dsimp only at accepted
      split at accepted
      · cases accepted
      split at accepted
      · cases accepted
      · next fits =>
          have size : be16 (payload.getD (2 + i * 16 / 8) 0) (payload.getD (2 + i * 16 / 8 + 1) 0)
              >>> 3 = auSize payload i := by
            rw [Nat.shiftRight_eq_div_pow, show i * 16 / 8 = i * 2 by omega]
            rfl
          rw [size] at accepted fits
          obtain ⟨rest, lengths⟩ := ih (i + 1) (dataOffset + auSize payload i) accepted
          rw [appendAdtsFrame_append, List.append_assoc] at rest
          simp only [List.range'_succ, List.map_cons, pieces, List.drop_drop, List.flatMap_cons]
          refine ⟨rest, congrArg₂ List.cons ?_ lengths⟩
          rw [List.length_take, List.length_drop]
          omega

theorem depacketizeAac_eq {cfg : AacAdtsConfig} {payload out : Bytes}
    (headers : isAdts payload = false) (accepted : depacketizeAac cfg payload = some out) :
    out = (listedAus payload).flatMap (appendAdtsFrame [] · cfg) ∧
      (listedAus payload).map List.length = auSizes payload := by
  unfold depacketizeAac at accepted
  rw [headers] at accepted
  simp only [Bool.false_eq_true, if_false] at accepted
  split at accepted
  · next high low _ _ rest =>
      split at accepted
      · cases accepted
      · next whole =>
          simp only [Bool.or_eq_true, beq_iff_eq, bne_iff_ne, decide_eq_true_eq, not_or,
            Decidable.not_not] at whole
          have bytes : (be16 high low + 7) / 8 = be16 high low / 8 := by omega
          rw [bytes] at accepted
          have units := aacUnits_eq _ _ _ accepted
          simpa [listedAus, auSizes, auHeaderBits, List.range_eq_range'] using units
  · cases accepted

/-! ## The round trip -/

/-- A stream splits into frames that carry the access units of a payload, every one with
its length, its data and the audio configuration. -/
def RoundTrips (cfg : AacAdtsConfig) (index : Nat) (payload out : Bytes) : Prop :=
  ∃ frames, Splits adtsSplitter out frames [] ∧
    frames.map framePayload = listedAus payload ∧
    frames.map frameLength = (listedAus payload).map (·.length + adtsHeaderLen) ∧
    ∀ frame ∈ frames, framePayload frame ≠ [] →
      stripAdts frame = framePayload frame ∧
      (parseAacAscFromAdts frame).map ascFields = some (aacLc, index, cfg.channels)

/-- No frame can say that it is longer than 8191 bytes. -/
theorem RoundTrips.short {cfg : AacAdtsConfig} {index : Nat} {payload out : Bytes}
    (trips : RoundTrips cfg index payload out) :
    ∀ au ∈ listedAus payload, au.length ≤ 8184 := by
  obtain ⟨frames, -, -, lengths, -⟩ := trips
  intro au listed
  have field : au.length + adtsHeaderLen ∈ frames.map frameLength :=
    lengths ▸ List.mem_map_of_mem listed
  obtain ⟨frame, -, same⟩ := List.mem_map.mp field
  have bound := frameLength_lt frame
  rw [same] at bound
  simp only [adtsHeaderLen] at bound
  omega

/-- The access units of a payload come through the ADTS frames exactly when every one is
at most 8184 bytes long. -/
theorem roundTrips_iff (cfg : AacAdtsConfig) (index : Nat) (payload out : Bytes)
    (rate : aacSampleRateIndex cfg.sampleRate = some index)
    (channels : 1 ≤ cfg.channels ∧ cfg.channels ≤ 7) (headers : isAdts payload = false)
    (accepted : depacketizeAac cfg payload = some out) :
    RoundTrips cfg index payload out ↔ ∀ au ∈ listedAus payload, au.length ≤ 8184 := by
  constructor
  · exact RoundTrips.short
  · intro short
    obtain ⟨rfl, -⟩ := depacketizeAac_eq headers accepted
    have known : ∀ frame ∈ (listedAus payload).map (appendAdtsFrame [] · cfg), ∀ more,
        adtsSplitter.verdict (frame ++ more) = .cut frame.length := by
      intro frame member more
      obtain ⟨au, listed, rfl⟩ := List.mem_map.mp member
      exact verdict_frame rate (short au listed) more
    refine ⟨(listedAus payload).map (appendAdtsFrame [] · cfg), ?_, ?_, ?_, ?_⟩
    · simpa [List.flatMap_def] using splits_flatten [] known rfl
    · simp [Function.comp_def, framePayload_frame rate]
    · rw [List.map_map]
      refine List.map_congr_left fun au listed => ?_
      have fits := short au listed
      rw [Function.comp_apply, frameLength_frame rate]
      exact Nat.mod_eq_of_lt (by simp only [adtsHeaderLen]; omega)
    · intro frame member filled
      obtain ⟨au, listed, rfl⟩ := List.mem_map.mp member
      rw [framePayload_frame rate] at filled ⊢
      exact ⟨stripAdts_frame rate filled, parseAacAscFromAdts_frame rate channels.2 au⟩

/-- Two access units of one and of two bytes. -/
theorem roundTrips_twoUnits :
    RoundTrips ⟨48000, 2⟩ 3 [0, 32, 0, 8, 0, 16, 1, 2, 3]
      ([0xff, 0xf1, 0x4c, 0x80, 0x01, 0x1f, 0xfc, 1] ++
        [0xff, 0xf1, 0x4c, 0x80, 0x01, 0x3f, 0xfc, 2, 3]) :=
  (roundTrips_iff _ _ _ _ rfl (by decide) (by decide +kernel) (by decide +kernel)).mpr
    (by decide +kernel)

/-- One access unit of 8185 bytes: the length of its frame does not fit. -/
theorem longUnit_stays_apart :
    ∃ out, depacketizeAac ⟨48000, 2⟩ ([0, 16, 0xff, 0xc8] ++ List.replicate 8185 0) = some out ∧
      ¬RoundTrips ⟨48000, 2⟩ 3 ([0, 16, 0xff, 0xc8] ++ List.replicate 8185 0) out := by
  have accepted : (depacketizeAac ⟨48000, 2⟩
      ([0, 16, 0xff, 0xc8] ++ List.replicate 8185 0)).isSome := by decide +kernel
  obtain ⟨out, made⟩ := Option.isSome_iff_exists.mp accepted
  refine ⟨out, made, fun trips => ?_⟩
  have lengths := (depacketizeAac_eq (by decide +kernel) made).2
  have sizes : auSizes ([0, 16, 0xff, 0xc8] ++ List.replicate 8185 0) = [8185] := by
    decide +kernel
  have listed : 8185 ∈ (listedAus ([0, 16, 0xff, 0xc8] ++ List.replicate 8185 0)).map List.length := by
    rw [lengths, sizes]
    exact List.mem_singleton_self _
  obtain ⟨au, member, long⟩ := List.mem_map.mp listed
  have bound := trips.short au member
  omega

end Gmv.Stream.AdtsFraming
