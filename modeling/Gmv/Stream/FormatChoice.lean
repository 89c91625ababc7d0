import Gmv.Shared.MediaExt
import Gmv.Stream.RtpPacket

/-!
# Payload kinds and input formats

The depacketiser and the demuxer of a stream each read the description of its medium, and each
in its own way.  What the one puts together the other takes apart, so that the payload kind and
the input format should belong to each other.
-/

namespace Gmv.Stream.FormatChoice

open Gmv.Shared

/-- The formats that the demuxer asks FFmpeg for. -/
inductive InputFormat where
  | mpeg
  | h264
  | hevc
  | aac
  | mulaw
  | alaw
  deriving DecidableEq, Repr

/-! ## The depacketiser -/

def matchesCodec (codec : Option String) (candidates : List String) : Bool :=
  match codec with
  | some text => candidates.any fun candidate => toAsciiLowercase text == candidate
  | none => false

def g711Codecs : List String :=
  ["g711", "g.711", "g711a", "g.711a", "g711u", "g.711u", "pcma", "pcmu", "alaw", "mulaw", "ulaw"]

/-- The choice by the codecs, for the type names that say nothing. -/
def payloadKindOfCodecs (video audio : Option String) : PayloadKind :=
  if matchesCodec video ["h264", "h.264", "avc"] then .h264
  else if matchesCodec video ["h265", "h.265", "hevc"] then .h265
  else if matchesCodec audio ["aac"] then .aac
  else if matchesCodec audio g711Codecs then .g711
  else .passthrough

def payloadKindFromMediaExt (mediaExt : MediaExt) : PayloadKind :=
  let typeName := toAsciiUppercase mediaExt.typeName
  if typeName ∈ ["PS", "MP2P", "MP2PS"] then .ps
  else if typeName ∈ ["H264", "H.264", "AVC"] then .h264
  else if typeName ∈ ["H265", "H.265", "HEVC"] then .h265
  else if typeName ∈ ["AAC", "MPEG4-GENERIC"] then .aac
  else if typeName ∈ ["G711", "G711A", "G711U", "PCMA", "PCMU"] then .g711
  else payloadKindOfCodecs mediaExt.videoParams.codecId mediaExt.audioParams.codecId

/-! ## The demuxer -/

def eqIgnoreAsciiCase (one other : String) : Bool := toAsciiLowercase one == toAsciiLowercase other

def isMulawCodec (codec : String) : Bool :=
  ["g711u", "g.711u", "g711 u-law", "g.711 u-law", "u-law", "ulaw", "mu-law", "mulaw", "pcmu",
    "pcm_mulaw"].any fun candidate => toAsciiLowercase codec == candidate

/-- The choice by the codecs, for the type names that say nothing. -/
def inputFormatOfCodecs (video audio : Option String) : InputFormat :=
  if video.any fun s => eqIgnoreAsciiCase s "h264" || eqIgnoreAsciiCase s "h.264" ||
      eqIgnoreAsciiCase s "avc" then .h264
  else if video.any fun s => eqIgnoreAsciiCase s "h265" || eqIgnoreAsciiCase s "h.265" ||
      eqIgnoreAsciiCase s "hevc" then .hevc
  else if audio.any isMulawCodec then .mulaw
  else if audio.any fun s => eqIgnoreAsciiCase s "aac" then .aac
  else if audio.isSome then .alaw
  else .mpeg

def pickInputFormat (mediaExt : MediaExt) : InputFormat :=
  let typeName := toAsciiUppercase mediaExt.typeName
  if typeName ∈ ["PS", "MP2P", "MP2PS"] then .mpeg
  else if typeName ∈ ["H264", "H.264", "AVC"] then .h264
  else if typeName ∈ ["H265", "H.265", "HEVC"] then .hevc
  else if typeName ∈ ["AAC"] then .aac
  else if typeName ∈ ["G711U", "PCMU", "MULAW"] then .mulaw
  else if typeName ∈ ["G711", "G711A", "PCMA", "ALAW"] then .alaw
  else inputFormatOfCodecs mediaExt.videoParams.codecId mediaExt.audioParams.codecId

/-! ## What belongs together -/

/-- The kinds and the formats that belong to each other. -/
structure Correspond (kind : PayloadKind) (format : InputFormat) : Prop where
  h264 : kind = .h264 ↔ format = .h264
  h265 : kind = .h265 ↔ format = .hevc
  aac : kind = .aac ↔ format = .aac
  g711 : kind = .g711 ↔ format = .alaw ∨ format = .mulaw
  mpeg : kind = .ps ∨ kind = .passthrough ↔ format = .mpeg

def namesVideo (video : Option String) : Bool :=
  matchesCodec video ["h264", "h.264", "avc"] || matchesCodec video ["h265", "h.265", "hevc"]

/-- The type names that both sides know. -/
def sharedNames : List String :=
  ["PS", "MP2P", "MP2PS", "H264", "H.264", "AVC", "H265", "H.265", "HEVC", "AAC", "G711", "G711A",
    "G711U", "PCMA", "PCMU"]

/-- The descriptions that both sides understand in the same way: by a type name that both know; by
one that only one of them knows, when the codecs say the same; or by the codecs, when the audio is
none that only the demuxer takes for A-law or µ-law. -/
def Understood (mediaExt : MediaExt) : Prop :=
  let typeName := toAsciiUppercase mediaExt.typeName
  let video := mediaExt.videoParams.codecId
  let audio := mediaExt.audioParams.codecId
  typeName ∈ sharedNames ∨
    typeName = "MPEG4-GENERIC" ∧ namesVideo video = false ∧ matchesCodec audio ["aac"] ∨
    typeName ∈ ["MULAW", "ALAW"] ∧ namesVideo video = false ∧ matchesCodec audio g711Codecs ∨
    typeName ∉ sharedNames ++ ["MPEG4-GENERIC", "MULAW", "ALAW"] ∧
      (namesVideo video ∨ audio = none ∨ matchesCodec audio ["aac"] ∨ matchesCodec audio g711Codecs)

instance (kind : PayloadKind) (format : InputFormat) : Decidable (Correspond kind format) :=
  decidable_of_iff
    ((kind = .h264 ↔ format = .h264) ∧ (kind = .h265 ↔ format = .hevc) ∧
      (kind = .aac ↔ format = .aac) ∧ (kind = .g711 ↔ format = .alaw ∨ format = .mulaw) ∧
      (kind = .ps ∨ kind = .passthrough ↔ format = .mpeg))
    ⟨fun ⟨h264, h265, aac, g711, mpeg⟩ => ⟨h264, h265, aac, g711, mpeg⟩,
      fun same => ⟨same.h264, same.h265, same.aac, same.g711, same.mpeg⟩⟩

/-! ## The choice by the codecs -/

section Codecs

variable (video audio : Option String)

/-- Of the tests on the codecs both sides have the same, apart from those for µ-law and for
everything else. -/
theorem inputFormatOfCodecs_eq : inputFormatOfCodecs video audio =
    if matchesCodec video ["h264", "h.264", "avc"] then .h264
    else if matchesCodec video ["h265", "h.265", "hevc"] then .hevc
    else if audio.any isMulawCodec then .mulaw
    else if matchesCodec audio ["aac"] then .aac
    else if audio.isSome then .alaw
    else .mpeg := by
  have lower : ∀ candidate ∈ ["h264", "h.264", "avc", "h265", "h.265", "hevc", "aac"],
      toAsciiLowercase candidate = candidate := by decide
  simp only [List.forall_mem_cons] at lower
  cases video <;> cases audio <;>
    simp [inputFormatOfCodecs, matchesCodec, eqIgnoreAsciiCase, lower, or_assoc]

theorem lowercase_of_aac (aac : matchesCodec audio ["aac"] = true) :
    ∃ text, audio = some text ∧ toAsciiLowercase text = "aac" := by
  cases audio with
  | none => cases aac
  | some text => exact ⟨text, rfl, by simpa [matchesCodec] using aac⟩

/-- No codec is both AAC and one that the other side of the choice looks for. -/
theorem notMulaw_of_aac (aac : matchesCodec audio ["aac"] = true) : audio.any isMulawCodec = false := by
  obtain ⟨text, rfl, isAac⟩ := lowercase_of_aac audio aac
  simp [isMulawCodec, isAac]

theorem notG711_of_aac (aac : matchesCodec audio ["aac"] = true) :
    matchesCodec audio g711Codecs = false := by
  obtain ⟨text, rfl, isAac⟩ := lowercase_of_aac audio aac
  simp [matchesCodec, g711Codecs, isAac]

theorem isSome_of_matchesCodec {audio : Option String} {candidates : List String}
    (matched : matchesCodec audio candidates = true) : audio.isSome = true := by
  cases audio with
  | none => cases matched
  | some text => rfl

/-- Both sides choose by the codecs in the same way, unless the audio is one of those that only the
demuxer takes for A-law or µ-law. -/
theorem correspond_codecs_iff :
    Correspond (payloadKindOfCodecs video audio) (inputFormatOfCodecs video audio) ↔
      namesVideo video ∨ audio = none ∨ matchesCodec audio ["aac"] ∨ matchesCodec audio g711Codecs := by
  have notMulaw := notMulaw_of_aac audio
  have notG711 := notG711_of_aac audio
  have aacSome := @isSome_of_matchesCodec audio ["aac"]
  have g711Some := @isSome_of_matchesCodec audio g711Codecs
  have mulawSome : audio.any isMulawCodec = true → audio.isSome = true := by cases audio <;> simp
  rw [inputFormatOfCodecs_eq, payloadKindOfCodecs, namesVideo, ← Option.isNone_iff_eq_none,
    ← Option.not_isSome]
  generalize matchesCodec video ["h264", "h.264", "avc"] = h264
  generalize matchesCodec video ["h265", "h.265", "hevc"] = h265
  generalize matchesCodec audio ["aac"] = aac at *
  generalize matchesCodec audio g711Codecs = g711 at *
  generalize audio.any isMulawCodec = mulaw at *
  generalize audio.isSome = some' at *
  revert h264 h265 aac g711 mulaw some'
  decide

theorem correspond_aac_iff :
    Correspond .aac (inputFormatOfCodecs video audio) ↔
      namesVideo video = false ∧ matchesCodec audio ["aac"] := by
  have notMulaw := notMulaw_of_aac audio
  rw [inputFormatOfCodecs_eq, namesVideo]
  generalize matchesCodec video ["h264", "h.264", "avc"] = h264
  generalize matchesCodec video ["h265", "h.265", "hevc"] = h265
  generalize matchesCodec audio ["aac"] = aac at *
  generalize audio.any isMulawCodec = mulaw at *
  generalize audio.isSome = some' at *
  revert h264 h265 aac mulaw some'
  decide

theorem correspond_g711_iff {format : InputFormat} (isG711 : format = .alaw ∨ format = .mulaw) :
    Correspond (payloadKindOfCodecs video audio) format ↔
      namesVideo video = false ∧ matchesCodec audio g711Codecs := by
  have notG711 := notG711_of_aac audio
  rw [payloadKindOfCodecs, namesVideo]
  generalize matchesCodec video ["h264", "h.264", "avc"] = h264
  generalize matchesCodec video ["h265", "h.265", "hevc"] = h265
  generalize matchesCodec audio ["aac"] = aac at *
  generalize matchesCodec audio g711Codecs = g711 at *
  obtain rfl | rfl := isG711 <;> revert h264 h265 aac g711 <;> decide

end Codecs

/-! ## The choice by the type name -/

/-- A type name that both sides know is enough for them. -/
theorem correspond_shared {mediaExt : MediaExt} (known : toAsciiUppercase mediaExt.typeName ∈ sharedNames) :
    Correspond (payloadKindFromMediaExt mediaExt) (pickInputFormat mediaExt) := by
  rw [payloadKindFromMediaExt, pickInputFormat]
  generalize toAsciiUppercase mediaExt.typeName = typeName at known ⊢
  simp only [sharedNames, List.mem_cons, List.not_mem_nil, or_false] at known
  obtain rfl | rfl | rfl | rfl | rfl | rfl | rfl | rfl | rfl | rfl | rfl | rfl | rfl | rfl | rfl := known <;>
    simp <;> decide

/-- The depacketiser and the demuxer agree exactly on the descriptions that both understand. -/
theorem correspond_iff (mediaExt : MediaExt) :
    Correspond (payloadKindFromMediaExt mediaExt) (pickInputFormat mediaExt) ↔ Understood mediaExt := by
  by_cases known : toAsciiUppercase mediaExt.typeName ∈ sharedNames
  · exact iff_of_true (correspond_shared known) (Or.inl known)
  rw [payloadKindFromMediaExt, pickInputFormat, Understood]
  generalize mediaExt.videoParams.codecId = video
  generalize mediaExt.audioParams.codecId = audio
  generalize toAsciiUppercase mediaExt.typeName = typeName at known ⊢
  by_cases generic : typeName = "MPEG4-GENERIC"
  · subst generic
    simpa [sharedNames] using correspond_aac_iff video audio
  by_cases mulaw : typeName = "MULAW"
  · subst mulaw
    simpa [sharedNames] using correspond_g711_iff video audio (Or.inr rfl)
  by_cases alaw : typeName = "ALAW"
  · subst alaw
    simpa [sharedNames] using correspond_g711_iff video audio (Or.inl rfl)
  · have byCodecs := correspond_codecs_iff video audio
    simp only [sharedNames, List.mem_cons, List.not_mem_nil, or_false, not_or] at known
    simpa [sharedNames, known, generic, mulaw, alaw] using byCodecs

/-- AAC that is named as RTP names it, and by nothing else. -/
def genericAudio : MediaExt := { MediaExt.default with typeCode := 97, typeName := "mpeg4-generic" }

/-- It is taken out of its packets as AAC, and given to the demuxer as a program stream. -/
theorem generic_audio_disagrees : payloadKindFromMediaExt genericAudio = .aac ∧
    pickInputFormat genericAudio = .mpeg ∧
    ¬Correspond (payloadKindFromMediaExt genericAudio) (pickInputFormat genericAudio) := by
  decide

end Gmv.Stream.FormatChoice
