import Gmv.Library.Binary64
import Gmv.Session.FField
import Gmv.Stream.AdtsFraming

/-!
# The sample rate of AAC

The signalling side reads the rate as a code and passes it on as a text of kilohertz; the media
node reads the text as a number and looks its hertz up in the table of ADTS.  The texts are whole
numbers, so that the rates which are not whole kilohertz are none that ADTS has.
-/

namespace Gmv.Stream.AacRates

open Gmv.Library Gmv.Shared Gmv.Session.FField AdtsFraming

/-! ## The audio configuration -/

def parseSampleRate (s : String) : Option Nat :=
  (Binary64.parse s.toList).bind fun rate =>
    if Binary64.le rate (.finite 0) then none
    else if Binary64.lt rate (.finite 1000) then
      some (Binary64.toUnsigned (Binary64.roundAway (Binary64.mul rate (.finite 1000))))
    else some (Binary64.toUnsigned (Binary64.roundAway rate))

/-- `AacAdtsConfig::from_media_ext` -/
def fromMediaExt (mediaExt : MediaExt) : AacAdtsConfig where
  sampleRate :=
    match mediaExt.audioParams.sampleRate.bind parseSampleRate with
    | some rate => rate
    | none =>
        if mediaExt.audioParams.clockRate > 0 then mediaExt.audioParams.clockRate.toNat
        else if mediaExt.clockRate > 0 then mediaExt.clockRate.toNat
        else 8000
  channels := (max mediaExt.audioParams.channelCount 1).toNat

/-! ## What the formats say -/

/-- The rates of AAC in hertz, under their codes in an `f=` field. -/
def standardRates : List (String × Nat) :=
  [("1", 8000), ("6", 11025), ("7", 12000), ("3", 16000), ("8", 22050), ("9", 24000), ("4", 32000),
    ("10", 44100), ("11", 48000), ("12", 64000), ("13", 88200), ("14", 96000)]

/-- The codes of the rates that are not whole kilohertz. -/
def brokenCodes : List String := (standardRates.filter (·.2 % 1000 ≠ 0)).map Prod.fst

example : brokenCodes = ["6", "8", "10", "13"] := by decide

/-- A description whose `f=` field is one for AAC with the given code of its rate. -/
def AnnouncesAac (sdp code : String) : Prop :=
  ∃ videoCodec resolution fps bitrateType bitrate audioBitrate,
    fParts sdp = some ["v", videoCodec, resolution, fps, bitrateType, bitrate, "6", audioBitrate, code] ∧
      bitrate.toList.getLast? = some 'a'

/-- A payload that begins with its AU headers and has all the access units behind them. -/
structure WellFormed (payload : Bytes) : Prop where
  headers : isAdts payload = false
  some_unit : auHeaderBits payload ≠ 0
  whole : auHeaderBits payload % 16 = 0
  fits : 2 + auHeaderBits payload / 8 + (auSizes payload).sum ≤ payload.length

/-- The frames of exactly these access units. -/
def Carries (out : Option Bytes) (aus : List Bytes) : Prop :=
  ∃ frames : List Bytes, out = some frames.flatten ∧ frames.map framePayload = aus ∧
    ∀ frame ∈ frames, adtsHeaderLen ≤ frame.length

instance (payload : Bytes) : Decidable (WellFormed payload) :=
  decidable_of_iff
    (isAdts payload = false ∧ auHeaderBits payload ≠ 0 ∧ auHeaderBits payload % 16 = 0 ∧
      2 + auHeaderBits payload / 8 + (auSizes payload).sum ≤ payload.length)
    ⟨fun ⟨headers, some_unit, whole, fits⟩ => ⟨headers, some_unit, whole, fits⟩,
      fun formed => ⟨formed.headers, formed.some_unit, formed.whole, formed.fits⟩⟩

/-! ## Payloads -/

/-- `out` unless there is nothing in it. -/
def unlessNone (out : Bytes) : Option Bytes := if out.isEmpty then none else some out

/-- The loop over the AU headers of access units that are all there. -/
theorem aacUnits_of_fits {cfg : AacAdtsConfig} {payload : Bytes} (remaining i dataOffset : Nat)
    (out : Bytes) (headers : 2 + (i + remaining) * 2 ≤ payload.length)
    (fits : dataOffset + ((List.range' i remaining).map (auSize payload)).sum ≤ payload.length) :
    aacUnits cfg payload remaining i dataOffset out =
      unlessNone (out ++ (pieces ((List.range' i remaining).map (auSize payload))
        (payload.drop dataOffset)).flatMap (appendAdtsFrame [] · cfg)) := by
  induction remaining generalizing i dataOffset out with
  | zero => simp [aacUnits, pieces, unlessNone]
  | succ remaining ih =>
      have size : be16 (payload.getD (2 + i * 16 / 8) 0) (payload.getD (2 + i * 16 / 8 + 1) 0)
          >>> 3 = auSize payload i := by
        rw [Nat.shiftRight_eq_div_pow, show i * 16 / 8 = i * 2 by omega]
        rfl
      simp only [List.range'_succ, List.map_cons, List.sum_cons] at fits
      have later := ih (i + 1) (dataOffset + auSize payload i)
        (appendAdtsFrame out ((payload.drop dataOffset).take (auSize payload i)) cfg)
        (by omega) (by omega)
      rw [aacUnits, size, if_neg (by omega), if_neg (by omega), later, appendAdtsFrame_append,
        List.append_assoc]
      simp only [List.range'_succ, List.map_cons, pieces, List.drop_drop, List.flatMap_cons]

theorem depacketizeAac_wellFormed {payload : Bytes} (formed : WellFormed payload)
    (cfg : AacAdtsConfig) :
    depacketizeAac cfg payload =
      unlessNone ((listedAus payload).flatMap (appendAdtsFrame [] · cfg)) := by
  obtain ⟨headers, some_unit, whole, fits⟩ := formed
  have long : 4 ≤ payload.length := by omega
  obtain ⟨high, low, third, fourth, rest, shape⟩ :
      ∃ high low third fourth rest, payload = high :: low :: third :: fourth :: rest := by
    clear headers some_unit whole fits
    match payload with
    | high :: low :: third :: fourth :: rest => exact ⟨high, low, third, fourth, rest, rfl⟩
    | [] | [_] | [_, _] | [_, _, _] => exact absurd long (by simp)
  have bits : be16 high low = auHeaderBits payload := by rw [shape]; rfl
  have reads : depacketizeAac cfg payload =
      if be16 high low == 0 || be16 high low % 16 != 0 ||
        decide (payload.length < 2 + (be16 high low + 7) / 8) then none
      else aacUnits cfg payload (be16 high low / 16) 0 (2 + (be16 high low + 7) / 8) [] := by
    rw [shape] at headers ⊢
    rw [depacketizeAac, if_neg (by rw [headers]; decide)]
  have bytes : (auHeaderBits payload + 7) / 8 = auHeaderBits payload / 8 := by omega
  rw [reads, bits, bytes, if_neg]
  · rw [aacUnits_of_fits _ _ _ _ (by omega), List.nil_append, ← List.range_eq_range']
    · rfl
    · rw [← List.range_eq_range']
      exact fits
  · simp only [Bool.or_eq_true, beq_iff_eq, bne_iff_ne, decide_eq_true_eq, not_or,
      Decidable.not_not]
    omega

section Rate

variable {cfg : AacAdtsConfig} {payload : Bytes}

/-- A rate that ADTS has brings all access units through. -/
theorem carries_of_rate {index : Nat} (rate : aacSampleRateIndex cfg.sampleRate = some index)
    (formed : WellFormed payload) : Carries (depacketizeAac cfg payload) (listedAus payload) := by
  have filled : listedAus payload ≠ [] := by
    have units : auHeaderBits payload / 16 ≠ 0 := by
      have := formed.some_unit
      have := formed.whole
      omega
    obtain ⟨count, more⟩ := Nat.exists_eq_succ_of_ne_zero units
    simp [listedAus, auSizes, more, List.range_succ_eq_map, pieces]
  refine ⟨(listedAus payload).map (appendAdtsFrame [] · cfg), ?_, ?_, ?_⟩
  · rw [depacketizeAac_wellFormed formed, unlessNone, List.flatMap_def, if_neg]
    obtain ⟨au, rest, cons⟩ := List.exists_cons_of_ne_nil filled
    have long := length_frame rate au
    rw [List.isEmpty_iff, cons, List.map_cons, List.flatten_cons]
    intro empty
    rw [(List.append_eq_nil_iff.mp empty).1] at long
    simp [adtsHeaderLen] at long
  · simp [Function.comp_def, framePayload_frame rate]
  · intro frame member
    obtain ⟨au, -, rfl⟩ := List.mem_map.mp member
    rw [length_frame rate]
    exact Nat.le_add_left _ _

/-- With a rate that ADTS does not have nothing is left. -/
theorem depacketizeAac_none (rate : aacSampleRateIndex cfg.sampleRate = none)
    (formed : WellFormed payload) : depacketizeAac cfg payload = none := by
  have empty : ∀ au, appendAdtsFrame [] au cfg = [] := fun au => by rw [appendAdtsFrame, rate]
  rw [depacketizeAac_wellFormed formed, unlessNone, if_pos]
  rw [List.isEmpty_iff, List.flatMap_eq_nil_iff]
  exact fun au _ => empty au

theorem carries_iff_rate (formed : WellFormed payload) :
    Carries (depacketizeAac cfg payload) (listedAus payload) ↔
      (aacSampleRateIndex cfg.sampleRate).isSome := by
  constructor
  · intro carries
    cases rate : aacSampleRateIndex cfg.sampleRate with
    | some index => rfl
    | none =>
        obtain ⟨frames, made, -⟩ := carries
        rw [depacketizeAac_none rate formed] at made
        cases made
  · intro known
    obtain ⟨index, rate⟩ := Option.isSome_iff_exists.mp known
    exact carries_of_rate rate formed

end Rate

/-! ## The rate from the code to the table -/

/-- A whole number of kilohertz is read as its hertz. -/
theorem parseSampleRate_kilohertz {s : String} (digits : Decimal.Digits s.toList)
    (positive : 0 < Decimal.value s.toList) (small : Decimal.value s.toList < 1000) :
    parseSampleRate s = some (1000 * Decimal.value s.toList) := by
  generalize number : Decimal.value s.toList = kilohertz at *
  have filled : s.toList ≠ [] := fun empty => by
    rw [empty] at number
    exact positive.ne' number.symm
  have parsed : Binary64.parse s.toList = some (.finite kilohertz) := by
    rw [Binary64.parse_digits digits filled, number, Binary64.round_natCast (by omega)]
  have above : Binary64.le (.finite kilohertz) (.finite 0) = false := by
    rw [Binary64.le, decide_eq_false_iff_not, not_le]
    exact_mod_cast positive
  have below : Binary64.lt (.finite kilohertz) (.finite 1000) = true := by
    rw [Binary64.lt, decide_eq_true_eq]
    exact_mod_cast small
  have hertz : Binary64.mul (.finite kilohertz) (.finite 1000) =
      .finite (1000 * kilohertz : Nat) := by
    rw [Binary64.mul, ← Binary64.round_natCast (by omega)]
    congr 1
    push_cast
    ring
  rw [parseSampleRate, parsed, Option.bind_some, above, below, hertz, Binary64.roundAway_natCast,
    Binary64.toUnsigned_natCast (by omega)]
  rfl

theorem extractFField_toUTF8 {sdp : String} {parts : List String} (found : fParts sdp = some parts)
    (me : MediaExt) : extractFField me sdp.toUTF8 = fillParams me parts := by
  have text : String.fromUTF8? sdp.toUTF8 = some sdp := by
    simp only [String.fromUTF8?, String.toUTF8_eq_toByteArray, dif_pos sdp.isValidUTF8]
    rfl
  simp only [extractFField, text, found]

/-- The text of the rate after an `f=` field with a code of the table. -/
theorem sampleRate_extractFField {sdp code rate : String} (announces : AnnouncesAac sdp code)
    (listed : sampleRateMap.lookup code = some rate) (me : MediaExt) :
    (extractFField me sdp.toUTF8).audioParams.sampleRate = some rate := by
  obtain ⟨videoCodec, resolution, fps, bitrateType, bitrate, audioBitrate, parts, letter⟩ := announces
  have coded : code ≠ "" := by
    rintro rfl
    rw [show sampleRateMap.lookup "" = none by decide] at listed
    cases listed
  rw [extractFField_toUTF8 parts]
  simp [fillParams, letter, unlessEmpty, coded, mapSampleRate, listed]

/-- The text under a code of a standard rate is a whole number of kilohertz, and its hertz are
those of ADTS unless the code is one of the four. -/
theorem sampleRateMap_standard : ∀ entry ∈ standardRates, ∃ rate ∈ sampleRateMap.lookup entry.1,
    Decimal.Digits rate.toList ∧
      0 < Decimal.value rate.toList ∧ Decimal.value rate.toList < 1000 ∧
      ((aacSampleRateIndex (1000 * Decimal.value rate.toList)).isSome ↔ entry.1 ∉ brokenCodes) := by
  decide +kernel

/-- AAC comes through exactly with the codes of the rates that are whole kilohertz. -/
theorem aac_carries_iff (me : MediaExt) {sdp code : String} (announces : AnnouncesAac sdp code)
    (standard : code ∈ standardRates.map Prod.fst) {payload : Bytes} (formed : WellFormed payload) :
    Carries (depacketizeAac (fromMediaExt (extractFField me sdp.toUTF8)) payload)
      (listedAus payload) ↔ code ∉ brokenCodes := by
  obtain ⟨entry, member, rfl⟩ := List.mem_map.mp standard
  obtain ⟨rate, listed, digits, positive, small, known⟩ := sampleRateMap_standard entry member
  have hertz : (fromMediaExt (extractFField me sdp.toUTF8)).sampleRate =
      1000 * Decimal.value rate.toList := by
    simp only [fromMediaExt, sampleRate_extractFField announces listed me, Option.bind_some,
      parseSampleRate_kilohertz digits positive small]
  rw [carries_iff_rate formed, hertz, known]

/-- A description of AAC with 8 kHz, and two access units of one and of two bytes. -/
theorem eightKilohertz_carries :
    Carries (depacketizeAac
        (fromMediaExt (extractFField .default "v=0\r\nf=v/////a/6//1\r\n".toUTF8))
        [0, 32, 0, 8, 0, 16, 1, 2, 3])
      (listedAus [0, 32, 0, 8, 0, 16, 1, 2, 3]) :=
  (@aac_carries_iff .default _ "1"
    ⟨"", "", "", "", "a", "", by decide +kernel, by decide +kernel⟩ (by decide)
    _ (by decide +kernel)).mpr (by decide)

/-- The same with 11.025 kHz: the depacketiser has nothing to hand on. -/
theorem elevenKilohertz_discarded :
    AnnouncesAac "v=0\r\nf=v/////a/6//6\r\n" "6" ∧
      WellFormed [0, 32, 0, 8, 0, 16, 1, 2, 3] ∧
      ¬Carries (depacketizeAac
          (fromMediaExt (extractFField .default "v=0\r\nf=v/////a/6//6\r\n".toUTF8))
          [0, 32, 0, 8, 0, 16, 1, 2, 3])
        (listedAus [0, 32, 0, 8, 0, 16, 1, 2, 3]) := by
  have announces : AnnouncesAac "v=0\r\nf=v/////a/6//6\r\n" "6" :=
    ⟨"", "", "", "", "a", "", by decide +kernel, by decide +kernel⟩
  have formed : WellFormed [0, 32, 0, 8, 0, 16, 1, 2, 3] := by decide +kernel
  have text : sampleRateMap.lookup "6" = some "11" := by decide
  refine ⟨announces, formed, ?_⟩
  rw [carries_iff_rate formed, fromMediaExt]
  simp only [sampleRate_extractFField announces text, Option.bind_some,
    parseSampleRate_kilohertz (s := "11") (by decide +kernel) (by decide +kernel) (by decide +kernel)]
  decide +kernel

end Gmv.Stream.AacRates
