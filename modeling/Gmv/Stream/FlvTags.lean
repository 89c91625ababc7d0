import Gmv.Library.ByteFormat
import Gmv.Stream.RtpPacket

/-!
# The FLV stream of H.265

The tags that the FLV muxer builds, one behind another after a header with the sequence
headers, and a reader of the format: a file header, and tags that tell the size of their body
in front of it and that of the whole tag behind it.
-/

namespace Gmv.Stream.FlvTags

open Gmv.Library.ByteFormat

/-! ## The muxer -/

def flvTagAudio : UInt8 := 8
def flvTagVideo : UInt8 := 9

def flvCodecH265 : UInt8 := 12
def flvCodecAac : UInt8 := 10

def flvFrameKey : UInt8 := 1
def flvFrameInter : UInt8 := 2

def flvAudioSamplerate44k : UInt8 := 3
def flvAudioSamplerate22k : UInt8 := 2
def flvAudioSamplerate11k : UInt8 := 1
def flvAudioSamplerate5_5k : UInt8 := 0
def flvAudioBits16 : UInt8 := 1
def flvAudioStereo : UInt8 := 1
def flvAudioMono : UInt8 := 0

def flvCodecG711A : UInt8 := 7
def flvCodecG711Mu : UInt8 := 8

/-- The codec ids as FFmpeg numbers them. -/
def avCodecIdPcmMulaw : UInt32 := 65542
def avCodecIdPcmAlaw : UInt32 := 65543
def avCodecIdAac : UInt32 := 86018

structure AudioStreamInfo where
  codecId : UInt32
  sampleRate : UInt32
  channels : UInt32
  extradata : Bytes
  deriving DecidableEq, Repr

/-- The muxer's streams; the audio streams in the order in which the map is walked. -/
structure H265FlvContext where
  videoExtradata : Bytes
  audioStreams : List (Int32 × AudioStreamInfo)
  deriving DecidableEq, Repr

def getFlvSamplerateIndex (sampleRate : UInt32) : UInt8 :=
  if sampleRate = 5512 then flvAudioSamplerate5_5k
  else if sampleRate = 11025 then flvAudioSamplerate11k
  else if sampleRate = 22050 then flvAudioSamplerate22k
  else flvAudioSamplerate44k

def buildFlvTag (tagType : UInt8) (body : Bytes) (dts : UInt32) : Bytes :=
  let tag := [tagType] ++ (beBytes 4 body.length).drop 1 ++ (beBytes 4 dts.toNat).drop 1 ++
    [(dts >>> 24).toUInt8] ++ [0, 0, 0] ++ body
  tag ++ beBytes 4 tag.length

def buildVideoSequenceHeader (context : H265FlvContext) : Bytes :=
  let body := [(flvFrameKey <<< 4) ||| flvCodecH265, 0] ++ [0, 0, 0] ++ context.videoExtradata
  buildFlvTag flvTagVideo body 0

def buildVideoDataTag (frameType : UInt8) (cts : Int32) (payload : Bytes) (dts : UInt32) : Bytes :=
  let body := [(frameType <<< 4) ||| flvCodecH265, 1] ++ (beBytes 4 cts.toUInt32.toNat).drop 1 ++
    payload
  buildFlvTag flvTagVideo body dts

/-- The first byte of an audio tag of a codec. -/
def codecHeader (codec : UInt8) (info : AudioStreamInfo) : UInt8 :=
  (codec <<< 4) ||| (getFlvSamplerateIndex info.sampleRate <<< 2) ||| (flvAudioBits16 <<< 1) |||
    (if info.channels = 2 then flvAudioStereo else flvAudioMono)

def unsupportedAudio (codecId : UInt32) : String :=
  "Unsupported audio codec: " ++ toString codecId

def audioHeader (info : AudioStreamInfo) : Except String UInt8 :=
  if info.codecId = avCodecIdAac then .ok (codecHeader flvCodecAac info)
  else if info.codecId = avCodecIdPcmAlaw then .ok (codecHeader flvCodecG711A info)
  else if info.codecId = avCodecIdPcmMulaw then .ok (codecHeader flvCodecG711Mu info)
  else .error (unsupportedAudio info.codecId)

def buildAudioSequenceHeader (info : AudioStreamInfo) : Except String Bytes := do
  let header ← audioHeader info
  let body := if info.codecId = avCodecIdAac then [header, 0] ++ info.extradata else [header]
  pure (buildFlvTag flvTagAudio body 0)

def buildAudioDataTag (info : AudioStreamInfo) (rawAudio : Bytes) (dts : UInt32) :
    Except String Bytes := do
  let header ← audioHeader info
  let body := if info.codecId = avCodecIdAac then [header, 1] else [header]
  pure (buildFlvTag flvTagAudio (body ++ rawAudio) dts)

/-- The streams that get a sequence header. -/
def AudioStreamInfo.hasSequenceHeader (info : AudioStreamInfo) : Bool :=
  !info.extradata.isEmpty && info.codecId == avCodecIdAac

/-- "FLV", the version, the flags for audio and video, the data offset and the first
`PreviousTagSize`. -/
def fileHeader : Bytes :=
  [0x46, 0x4c, 0x56,
   0x01,
   0x05,
   0x00, 0x00, 0x00, 0x09,
   0x00, 0x00, 0x00, 0x00]

def appendSequenceHeaders : Bytes → List (Int32 × AudioStreamInfo) → Except String Bytes
  | header, [] => .ok header
  | header, (_, info) :: rest =>
      if info.hasSequenceHeader then do
        let audioSeqHeader ← buildAudioSequenceHeader info
        appendSequenceHeaders (header ++ audioSeqHeader) rest
      else appendSequenceHeaders header rest

def buildFullHeader (context : H265FlvContext) : Except String Bytes :=
  appendSequenceHeaders (fileHeader ++ buildVideoSequenceHeader context) context.audioStreams

/-! ## The reader -/

/-- The fields in the first byte of an audio body. -/
structure Sound where
  format : Nat
  rate : Nat
  size : Nat
  channels : Nat
  deriving DecidableEq, Repr

inductive Content where
  | video (frameType codec packetType : Nat) (compositionTime : Int) (payload : Bytes)
  | aac (sound : Sound) (packetType : Nat) (payload : Bytes)
  | audio (sound : Sound) (payload : Bytes)
  deriving DecidableEq, Repr

structure Tag where
  kind : Nat
  timestamp : Nat
  streamId : Nat
  bodyLength : Nat
  content : Content
  previousTagSize : Nat
  deriving DecidableEq, Repr

/-- A number of twenty-four bits with a sign. -/
def signed24 (value : Nat) : Int := if value < 2 ^ 23 then value else value - 2 ^ 24

def readVideo (body : Bytes) : Option Content :=
  match body with
  | first :: packetType :: high :: middle :: low :: payload =>
      let codec := first.toNat % 16
      if codec = 7 ∨ codec = 12 then
        some (.video (first.toNat / 16) codec packetType.toNat
          (signed24 (beValue [high, middle, low])) payload)
      else none
  | _ => none

def readSound (first : UInt8) : Sound :=
  ⟨first.toNat / 16, first.toNat / 4 % 4, first.toNat / 2 % 2, first.toNat % 2⟩

def readAudio (body : Bytes) : Option Content :=
  match body with
  | [] => none
  | first :: rest =>
      if (readSound first).format = 10 then
        match rest with
        | [] => none
        | packetType :: payload => some (.aac (readSound first) packetType.toNat payload)
      else some (.audio (readSound first) rest)

def readContent (kind : Nat) (body : Bytes) : Option Content :=
  if kind = 8 then readAudio body else if kind = 9 then readVideo body else none

def readTag : Reader Tag := do
  let kind ← readUint 1
  let size ← readUint 3
  let timestamp ← readUint 3
  let extended ← readUint 1
  let streamId ← readUint 3
  let body ← readBytes size
  let content ← StateT.lift (readContent kind body)
  let previousTagSize ← readUint 4
  pure ⟨kind, extended * 2 ^ 24 + timestamp, streamId, body.length, content, previousTagSize⟩

/-- The file header up to its data offset, and the first `PreviousTagSize`. -/
def readFileHeader : Reader Unit := do
  let signature ← readBytes 3
  let _version ← readUint 1
  let _flags ← readUint 1
  let dataOffset ← readUint 4
  let _ ← readBytes (dataOffset - 9)
  let previousTagSize ← readUint 4
  StateT.lift (if signature = [0x46, 0x4c, 0x56] ∧ previousTagSize = 0 then some () else none)

def readFile (bytes : Bytes) : Option (List Tag) := do
  let (_, tags) ← readFileHeader.run bytes
  readAll readTag tags

/-! ## What the tags say -/

/-- A tag that is asked for. -/
inductive Request where
  | video (frameType : UInt8) (cts : Int32) (payload : Bytes) (dts : UInt32)
  | audio (info : AudioStreamInfo) (rawAudio : Bytes) (dts : UInt32)
  deriving DecidableEq, Repr

def Request.build : Request → Except String Bytes
  | .video frameType cts payload dts => .ok (buildVideoDataTag frameType cts payload dts)
  | .audio info rawAudio dts => buildAudioDataTag info rawAudio dts

def Request.bodyLength : Request → Nat
  | .video _ _ payload _ => 5 + payload.length
  | .audio info rawAudio _ => (if info.codecId = avCodecIdAac then 2 else 1) + rawAudio.length

/-- The frame type, the composition time and the body fit in their fields. -/
def Request.Fits (request : Request) : Prop :=
  request.bodyLength < 2 ^ 24 ∧
    match request with
    | .video frameType cts _ _ =>
        frameType < 16 ∧ 0 ≤ cts.toInt ∧ cts.toInt < 2 ^ 23
    | .audio .. => True

instance (request : Request) : Decidable request.Fits := by
  unfold Request.Fits
  cases request <;> infer_instance

/-- The number of an audio codec in FLV. -/
def soundFormat (codecId : UInt32) : Nat :=
  if codecId = avCodecIdAac then 10 else if codecId = avCodecIdPcmAlaw then 7 else 8

def AudioStreamInfo.sound (info : AudioStreamInfo) : Sound :=
  ⟨soundFormat info.codecId, (getFlvSamplerateIndex info.sampleRate).toNat, 1,
    if info.channels = 2 then 1 else 0⟩

def tagOf (kind : Nat) (dts : UInt32) (bodyLength : Nat) (content : Content) : Tag :=
  ⟨kind, dts.toNat, 0, bodyLength, content, 11 + bodyLength⟩

/-- The tag that a request stands for. -/
def Request.tag (request : Request) : Tag :=
  match request with
  | .video frameType cts payload dts =>
      tagOf 9 dts request.bodyLength (.video frameType.toNat 12 1 cts.toInt payload)
  | .audio info rawAudio dts =>
      tagOf 8 dts request.bodyLength
        (if info.codecId = avCodecIdAac then .aac info.sound 1 rawAudio
          else .audio info.sound rawAudio)

def videoHeaderTag (context : H265FlvContext) : Tag :=
  tagOf 9 0 (5 + context.videoExtradata.length) (.video 1 12 0 0 context.videoExtradata)

def audioHeaderTag (info : AudioStreamInfo) : Tag :=
  tagOf 8 0 (2 + info.extradata.length) (.aac info.sound 0 info.extradata)

/-- The streams with a sequence header, in the order of the map. -/
def H265FlvContext.headerStreams (context : H265FlvContext) : List AudioStreamInfo :=
  (context.audioStreams.map Prod.snd).filter AudioStreamInfo.hasSequenceHeader

/-! ## One tag -/

theorem buildFlvTag_eq (tagType : UInt8) (body : Bytes) (dts : UInt32) :
    buildFlvTag tagType body dts =
      beBytes 1 tagType.toNat ++ (beBytes 3 body.length ++ (beBytes 3 dts.toNat ++
        (beBytes 1 (dts.toNat / 2 ^ 24) ++ (beBytes 3 0 ++ (body ++
          ([] ++ (beBytes 4 (11 + body.length) ++ []))))))) := by
  have extended : beBytes 1 (dts.toNat / 2 ^ 24) = [(dts >>> 24).toUInt8] := by
    rw [beBytes, pow_zero, Nat.div_one, beBytes]
    congr 1
    apply UInt8.toNat_inj.mp
    rw [UInt8.toNat_ofNat', UInt32.toNat_toUInt8, UInt32.toNat_shiftRight, Nat.shiftRight_eq_div_pow]
    rfl
  have total : ([tagType] ++ (beBytes 4 body.length).drop 1 ++ (beBytes 4 dts.toNat).drop 1 ++
      [(dts >>> 24).toUInt8] ++ [0, 0, 0] ++ body).length = 11 + body.length := by
    simp only [List.length_append, List.length_drop, length_beBytes, List.length_cons, List.length_nil]
  rw [beBytes_one, extended, buildFlvTag, total]
  simp only [List.append_assoc, List.append_nil, List.nil_append]
  rfl

/-- A tag is read with the content of its body, at its full timestamp, and with its size. -/
theorem reads_tag {tagType : UInt8} {body : Bytes} {size : Nat} {content : Content} (dts : UInt32)
    (sized : body.length = size) (fits : size < 2 ^ 24)
    (found : readContent tagType.toNat body = some content) :
    Reads readTag (buildFlvTag tagType body dts) (tagOf tagType.toNat dts size content) := by
  subst sized
  have dtsLt := dts.toNat_lt
  have timestamp : dts.toNat / 2 ^ 24 * 2 ^ 24 + dts.toNat % 256 ^ 3 = dts.toNat :=
    Nat.div_add_mod' dts.toNat (2 ^ 24)
  have kind : Reads (readUint 1) (beBytes 1 tagType.toNat) tagType.toNat := reads_uint tagType.toNat_lt
  have size : Reads (readUint 3) (beBytes 3 body.length) body.length := reads_uint fits
  have extended : Reads (readUint 1) (beBytes 1 (dts.toNat / 2 ^ 24)) (dts.toNat / 2 ^ 24) :=
    reads_uint (by omega)
  have streamId : Reads (readUint 3) (beBytes 3 0) 0 := reads_uint (by omega)
  have previous : Reads (readUint 4) (beBytes 4 (11 + body.length)) (11 + body.length) :=
    reads_uint (by omega)
  have whole : Reads readTag (buildFlvTag tagType body dts)
      ⟨tagType.toNat, dts.toNat / 2 ^ 24 * 2 ^ 24 + dts.toNat % 256 ^ 3, 0, body.length, content,
        11 + body.length⟩ := by
    rw [buildFlvTag_eq]
    exact kind.bind (size.bind ((reads_uint_mod 3 dts.toNat).bind (extended.bind (streamId.bind
      ((reads_bytes body).bind ((Reads.lift found).bind (previous.bind (Reads.pure _))))))))
  rw [timestamp] at whole
  exact whole

/-! ## The contents -/

/-- The frame type stands in the upper half of the first byte, the codec in the lower. -/
theorem videoByte {frameType : UInt8} (small : frameType < 16) :
    ((frameType <<< 4) ||| flvCodecH265).toNat / 16 = frameType.toNat ∧
      ((frameType <<< 4) ||| flvCodecH265).toNat % 16 = 12 := by
  have each : ∀ place : Fin 16, ((UInt8.ofNat place <<< 4) ||| flvCodecH265).toNat / 16 = place ∧
      ((UInt8.ofNat place <<< 4) ||| flvCodecH265).toNat % 16 = 12 := by decide
  have one := each ⟨frameType.toNat, UInt8.lt_iff_toNat_lt.mp small⟩
  rwa [UInt8.ofNat_toNat] at one

/-- A composition time that is not negative is read back from its lower three bytes. -/
theorem signed24_cts {cts : Int32} (notNegative : 0 ≤ cts.toInt) (small : cts.toInt < 2 ^ 23) :
    signed24 (beValue ((beBytes 4 cts.toUInt32.toNat).drop 1)) = cts.toInt := by
  have same : (cts.toUInt32.toNat : Int) = cts.toInt := by
    have cond := BitVec.toInt_eq_toNat_cond cts.toBitVec
    rw [Int32.toInt_toBitVec, Int32.toNat_toBitVec] at cond
    have bound := cts.toUInt32.toNat_lt
    split at cond <;> omega
  have low : (beBytes 4 cts.toUInt32.toNat).drop 1 = beBytes 3 cts.toUInt32.toNat := rfl
  rw [low, beValue_beBytes_of_lt (by omega), signed24, if_pos (by omega), same]

theorem readVideo_body {frameType : UInt8} (fits : frameType < 16) (packetType : UInt8)
    {time : Bytes} (three : time.length = 3) (payload : Bytes) :
    readContent 9 ([(frameType <<< 4) ||| flvCodecH265, packetType] ++ time ++ payload) =
      some (.video frameType.toNat 12 packetType.toNat (signed24 (beValue time)) payload) := by
  obtain ⟨high, middle, low, rfl⟩ := List.length_eq_three.mp three
  obtain ⟨upper, lower⟩ := videoByte fits
  rw [readContent, if_neg (by decide), if_pos rfl]
  simp only [readVideo, List.cons_append, List.nil_append, lower, upper, or_true, if_true]

theorem readSound_header (info : AudioStreamInfo) {codec : UInt8}
    (isCodec : codec = flvCodecAac ∨ codec = flvCodecG711A ∨ codec = flvCodecG711Mu) :
    readSound (codecHeader codec info) = ⟨codec.toNat, (getFlvSamplerateIndex info.sampleRate).toNat, 1,
      if info.channels = 2 then 1 else 0⟩ := by
  have rates : getFlvSamplerateIndex info.sampleRate ∈ [(0 : UInt8), 1, 2, 3] := by
    rw [getFlvSamplerateIndex]
    split_ifs <;> decide
  rw [codecHeader]
  generalize getFlvSamplerateIndex info.sampleRate = rate at rates
  simp only [List.mem_cons, List.not_mem_nil, or_false] at rates
  by_cases stereo : info.channels = 2
  · rw [if_pos stereo, if_pos stereo]
    obtain rfl | rfl | rfl := isCodec <;> obtain rfl | rfl | rfl | rfl := rates <;> rfl
  · rw [if_neg stereo, if_neg stereo]
    obtain rfl | rfl | rfl := isCodec <;> obtain rfl | rfl | rfl | rfl := rates <;> rfl

theorem readAudio_aac {info : AudioStreamInfo} (isAac : info.codecId = avCodecIdAac)
    (packetType : UInt8) (payload : Bytes) :
    readContent 8 ([codecHeader flvCodecAac info, packetType] ++ payload) =
      some (.aac info.sound packetType.toNat payload) := by
  rw [readContent, if_pos rfl]
  simp only [readAudio, List.cons_append, List.nil_append, readSound_header info (Or.inl rfl),
    AudioStreamInfo.sound, soundFormat, if_pos isAac]
  rfl

theorem readAudio_g711 {info : AudioStreamInfo} {codec : UInt8}
    (isCodec : codec = flvCodecG711A ∨ codec = flvCodecG711Mu)
    (format : soundFormat info.codecId = codec.toNat) (payload : Bytes) :
    readContent 8 ([codecHeader codec info] ++ payload) = some (.audio info.sound payload) := by
  have other : codec.toNat ≠ 10 := by obtain rfl | rfl := isCodec <;> decide
  rw [readContent, if_pos rfl]
  simp only [readAudio, List.cons_append, List.nil_append, readSound_header info (Or.inr isCodec),
    if_neg other, AudioStreamInfo.sound, format]

/-- Of the codecs that the muxer supports, AAC has a packet type in its body. -/
theorem readAudio_body {info : AudioStreamInfo} {header : UInt8} (supported : audioHeader info = .ok header)
    (packetType : UInt8) (payload : Bytes) :
    readContent 8 ((if info.codecId = avCodecIdAac then [header, packetType] else [header]) ++ payload) =
      some (if info.codecId = avCodecIdAac then .aac info.sound packetType.toNat payload
        else .audio info.sound payload) := by
  rw [audioHeader] at supported
  split_ifs at supported with isAac isAlaw isMulaw
  · cases supported
    rw [if_pos isAac, if_pos isAac]
    exact readAudio_aac isAac packetType payload
  · cases supported
    rw [if_neg isAac, if_neg isAac]
    exact readAudio_g711 (Or.inl rfl) (by rw [soundFormat, if_neg isAac, if_pos isAlaw]; rfl) payload
  · cases supported
    rw [if_neg isAac, if_neg isAac]
    exact readAudio_g711 (Or.inr rfl) (by rw [soundFormat, if_neg isAac, if_neg isAlaw]; rfl) payload

/-- A request that is built is read back as what it stands for. -/
theorem reads_request {request : Request} {bytes : Bytes} (builds : request.build = .ok bytes)
    (fits : request.Fits) : Reads readTag bytes request.tag := by
  obtain ⟨bodyFits, fits⟩ := fits
  cases request with
  | video frameType cts payload dts =>
      obtain ⟨frameFits, notNegative, small⟩ := fits
      cases builds
      have content := readVideo_body frameFits 1
        (show ((beBytes 4 cts.toUInt32.toNat).drop 1).length = 3 from rfl) payload
      rw [signed24_cts notNegative small] at content
      have length : ([(frameType <<< 4) ||| flvCodecH265, 1] ++
          (beBytes 4 cts.toUInt32.toNat).drop 1 ++ payload).length = 5 + payload.length := by
        rw [List.length_append, List.length_append]
        rfl
      exact reads_tag dts length bodyFits content
  | audio info rawAudio dts =>
      rw [Request.build, buildAudioDataTag] at builds
      cases supported : audioHeader info with
      | error message => rw [supported] at builds; cases builds
      | ok header =>
          rw [supported] at builds
          cases builds
          have length : ((if info.codecId = avCodecIdAac then [header, 1] else [header]) ++
              rawAudio).length = (Request.audio info rawAudio dts).bodyLength := by
            rw [List.length_append, Request.bodyLength]
            split_ifs <;> rfl
          exact reads_tag dts length bodyFits (readAudio_body supported 1 rawAudio)

/-! ## The stream -/

theorem reads_videoHeader {context : H265FlvContext} (short : context.videoExtradata.length < 2 ^ 23) :
    Reads readTag (buildVideoSequenceHeader context) (videoHeaderTag context) := by
  have content := readVideo_body (by decide : flvFrameKey < 16) 0 (show ([0, 0, 0] : Bytes).length = 3 from rfl)
    context.videoExtradata
  have length : ([(flvFrameKey <<< 4) ||| flvCodecH265, 0] ++ [0, 0, 0] ++
      context.videoExtradata).length = 5 + context.videoExtradata.length := by
    rw [List.length_append]
    rfl
  have noTime : signed24 (beValue [0, 0, 0]) = 0 := by decide
  rw [noTime] at content
  exact reads_tag 0 length (by omega) content

/-- The sequence header of an AAC stream. -/
def aacSequenceHeader (info : AudioStreamInfo) : Bytes :=
  buildFlvTag flvTagAudio ([codecHeader flvCodecAac info, 0] ++ info.extradata) 0

theorem buildAudioSequenceHeader_eq {info : AudioStreamInfo} (isAac : info.codecId = avCodecIdAac) :
    buildAudioSequenceHeader info = .ok (aacSequenceHeader info) := by
  simp only [buildAudioSequenceHeader, audioHeader, if_pos isAac]
  rfl

theorem isAac_of_header {info : AudioStreamInfo} (has : info.hasSequenceHeader = true) :
    info.codecId = avCodecIdAac := by
  rw [AudioStreamInfo.hasSequenceHeader, Bool.and_eq_true, beq_iff_eq] at has
  exact has.2

theorem reads_audioHeader {info : AudioStreamInfo} (isAac : info.codecId = avCodecIdAac)
    (short : info.extradata.length < 2 ^ 23) :
    Reads readTag (aacSequenceHeader info) (audioHeaderTag info) := by
  have length : ([codecHeader flvCodecAac info, 0] ++ info.extradata).length =
      2 + info.extradata.length := List.length_append
  exact reads_tag 0 length (by omega) (readAudio_aac isAac 0 info.extradata)

/-- No audio stream fails the header, since only those of AAC are asked for theirs. -/
theorem appendSequenceHeaders_eq (header : Bytes) (streams : List (Int32 × AudioStreamInfo)) :
    appendSequenceHeaders header streams =
      .ok (header ++ ((streams.map Prod.snd).filter AudioStreamInfo.hasSequenceHeader).flatMap
        aacSequenceHeader) := by
  induction streams generalizing header with
  | nil => simp [appendSequenceHeaders]
  | cons stream rest ih =>
      rw [appendSequenceHeaders]
      by_cases has : stream.2.hasSequenceHeader = true
      · rw [if_pos has, buildAudioSequenceHeader_eq (isAac_of_header has)]
        simp only [List.map_cons, List.filter_cons_of_pos has, List.flatMap_cons]
        rw [← List.append_assoc]
        exact ih _
      · rw [if_neg has]
        simp only [List.map_cons, List.filter_cons_of_neg has]
        exact ih header

theorem buildFullHeader_eq (context : H265FlvContext) :
    buildFullHeader context = .ok (fileHeader ++ buildVideoSequenceHeader context ++
      context.headerStreams.flatMap aacSequenceHeader) :=
  appendSequenceHeaders_eq _ _

theorem reads_fileHeader : Reads readFileHeader fileHeader () := by
  have signature : Reads (readBytes 3) [0x46, 0x4c, 0x56] [0x46, 0x4c, 0x56] := reads_bytes _
  have version : Reads (readUint 1) (beBytes 1 1) 1 := reads_uint (by omega)
  have flags : Reads (readUint 1) (beBytes 1 5) 5 := reads_uint (by omega)
  have dataOffset : Reads (readUint 4) (beBytes 4 9) 9 := reads_uint (by omega)
  have nothing : Reads (readBytes (9 - 9)) [] [] := reads_bytes []
  have previous : Reads (readUint 4) (beBytes 4 0) 0 := reads_uint (by omega)
  have fields : fileHeader = [0x46, 0x4c, 0x56] ++ (beBytes 1 1 ++ (beBytes 1 5 ++ (beBytes 4 9 ++
      ([] ++ (beBytes 4 0 ++ []))))) := by decide
  rw [fields]
  exact signature.bind (version.bind (flags.bind (dataOffset.bind (nothing.bind (previous.bind
    (Reads.lift rfl))))))

/-- Behind the file header come the tags. -/
theorem readFile_append (tags : Bytes) : readFile (fileHeader ++ tags) = readAll readTag tags := by
  rw [readFile, reads_fileHeader tags]
  simp only [Option.bind_eq_bind, Option.bind_some]

theorem buildFlvTag_ne_nil (tagType : UInt8) (body : Bytes) (dts : UInt32) :
    buildFlvTag tagType body dts ≠ [] := List.cons_ne_nil _ _

theorem build_ne_nil {request : Request} {bytes : Bytes} (builds : request.build = .ok bytes) :
    bytes ≠ [] := by
  cases request with
  | video frameType cts payload dts =>
      cases builds
      exact buildFlvTag_ne_nil _ _ _
  | audio info rawAudio dts =>
      rw [Request.build, buildAudioDataTag] at builds
      cases supported : audioHeader info with
      | error message => rw [supported] at builds; cases builds
      | ok header =>
          rw [supported] at builds
          cases builds
          exact buildFlvTag_ne_nil _ _ _

/-- The tags behind the file header, each with what it is read as. -/
def streamItems (context : H265FlvContext) (built : List (Request × Bytes)) : List (Bytes × Tag) :=
  (buildVideoSequenceHeader context, videoHeaderTag context) ::
    context.headerStreams.map (fun info => (aacSequenceHeader info, audioHeaderTag info)) ++
    built.map (fun entry => (entry.2, entry.1.tag))

theorem bytes_streamItems (context : H265FlvContext) (built : List (Request × Bytes)) :
    (streamItems context built).flatMap Prod.fst = buildVideoSequenceHeader context ++
      (context.headerStreams.flatMap aacSequenceHeader ++ built.flatMap Prod.snd) := by
  simp only [streamItems, List.cons_append, List.flatMap_cons, List.flatMap_append, List.flatMap_map]

theorem tags_streamItems (context : H265FlvContext) (built : List (Request × Bytes)) :
    (streamItems context built).map Prod.snd =
      videoHeaderTag context :: context.headerStreams.map audioHeaderTag ++ built.map (·.1.tag) := by
  simp only [streamItems, List.cons_append, List.map_cons, List.map_append, List.map_map,
    Function.comp_def]

/-- Every tag of the stream is written as something, is read as what it stands for, and tells its
size. -/
theorem streamItems_read {context : H265FlvContext} {built : List (Request × Bytes)}
    (videoShort : context.videoExtradata.length < 2 ^ 23)
    (audioShort : ∀ stream ∈ context.audioStreams, stream.2.extradata.length < 2 ^ 23)
    (builds : ∀ entry ∈ built, entry.1.build = .ok entry.2) (fits : ∀ entry ∈ built, entry.1.Fits)
    {item : Bytes × Tag} (member : item ∈ streamItems context built) :
    item.1 ≠ [] ∧ Reads readTag item.1 item.2 ∧ item.2.previousTagSize = 11 + item.2.bodyLength := by
  rcases List.mem_append.mp member with inHeader | inTags
  · rcases List.mem_cons.mp inHeader with rfl | inAudio
    · exact ⟨buildFlvTag_ne_nil _ _ _, reads_videoHeader videoShort, rfl⟩
    · obtain ⟨info, isStream, rfl⟩ := List.mem_map.mp inAudio
      obtain ⟨inMap, has⟩ := List.mem_filter.mp isStream
      obtain ⟨stream, inStreams, rfl⟩ := List.mem_map.mp inMap
      exact ⟨buildFlvTag_ne_nil _ _ _,
        reads_audioHeader (isAac_of_header has) (audioShort stream inStreams), rfl⟩
  · obtain ⟨entry, isBuilt, rfl⟩ := List.mem_map.mp inTags
    refine ⟨build_ne_nil (builds entry isBuilt),
      reads_request (builds entry isBuilt) (fits entry isBuilt), ?_⟩
    cases entry.1 <;> rfl

/-- A reader of the stream finds the video sequence header, those of the AAC streams and then the
tags, each as it was asked for and with its size behind it. -/
theorem flv_round_trip {context : H265FlvContext} {built : List (Request × Bytes)}
    (videoShort : context.videoExtradata.length < 2 ^ 23)
    (audioShort : ∀ stream ∈ context.audioStreams, stream.2.extradata.length < 2 ^ 23)
    (builds : ∀ entry ∈ built, entry.1.build = .ok entry.2) (fits : ∀ entry ∈ built, entry.1.Fits) :
    ∃ header, buildFullHeader context = .ok header ∧
      readFile (header ++ built.flatMap Prod.snd) =
        some (videoHeaderTag context :: context.headerStreams.map audioHeaderTag ++
          built.map (·.1.tag)) ∧
      ∀ tag ∈ videoHeaderTag context :: context.headerStreams.map audioHeaderTag ++
          built.map (·.1.tag), tag.previousTagSize = 11 + tag.bodyLength := by
  refine ⟨_, buildFullHeader_eq context, ?_, ?_⟩
  · have items := readAll_flatMap
      (fun item member => (streamItems_read videoShort audioShort builds fits member).1)
      (fun item member => (streamItems_read videoShort audioShort builds fits member).2.1)
    rw [bytes_streamItems, tags_streamItems] at items
    rw [List.append_assoc, List.append_assoc, readFile_append]
    exact items
  · rw [← tags_streamItems]
    intro tag member
    obtain ⟨item, isItem, rfl⟩ := List.mem_map.mp member
    exact (streamItems_read videoShort audioShort builds fits isItem).2.2

/-- A stream of one picture and one AAC tag. -/
theorem flv_round_trip_aac :
    ∃ header, buildFullHeader ⟨[1], [(1, ⟨86018, 8000, 1, [0x15, 0x88]⟩)]⟩ = .ok header ∧
      (Request.video flvFrameInter 40 [9, 8] 33).build =
        .ok [9, 0, 0, 7, 0, 0, 33, 0, 0, 0, 0, 0x2c, 1, 0, 0, 40, 9, 8, 0, 0, 0, 18] ∧
      (Request.audio ⟨86018, 8000, 1, [0x15, 0x88]⟩ [7] 16777217).build =
        .ok [8, 0, 0, 3, 0, 0, 1, 1, 0, 0, 0, 0xae, 1, 7, 0, 0, 0, 14] ∧
      readFile (header ++ [9, 0, 0, 7, 0, 0, 33, 0, 0, 0, 0, 0x2c, 1, 0, 0, 40, 9, 8, 0, 0, 0, 18,
          8, 0, 0, 3, 0, 0, 1, 1, 0, 0, 0, 0xae, 1, 7, 0, 0, 0, 14]) =
        some [⟨9, 0, 0, 6, .video 1 12 0 0 [1], 17⟩,
          ⟨8, 0, 0, 4, .aac ⟨10, 3, 1, 0⟩ 0 [0x15, 0x88], 15⟩,
          ⟨9, 33, 0, 7, .video 2 12 1 40 [9, 8], 18⟩,
          ⟨8, 16777217, 0, 3, .aac ⟨10, 3, 1, 0⟩ 1 [7], 14⟩] := by
  obtain ⟨header, isHeader, read, -⟩ := @flv_round_trip
    ⟨[1], [(1, ⟨86018, 8000, 1, [0x15, 0x88]⟩)]⟩
    [(.video flvFrameInter 40 [9, 8] 33,
      [9, 0, 0, 7, 0, 0, 33, 0, 0, 0, 0, 0x2c, 1, 0, 0, 40, 9, 8, 0, 0, 0, 18]),
      (.audio ⟨86018, 8000, 1, [0x15, 0x88]⟩ [7] 16777217,
        [8, 0, 0, 3, 0, 0, 1, 1, 0, 0, 0, 0xae, 1, 7, 0, 0, 0, 14])]
    (by decide) (by decide) (by decide) (by decide)
  exact ⟨header, isHeader, by decide, by decide, read⟩

end Gmv.Stream.FlvTags
