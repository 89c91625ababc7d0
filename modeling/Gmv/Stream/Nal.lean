import Gmv.Stream.RtpPacket

/-!
# NAL units inside RTP payloads and access units

The stateless half of the depacketiser: start codes, aggregation packets, one
fragment of a fragmented NAL unit, the key frame search in an assembled access
unit, and the ADTS framing of AAC.
-/

namespace Gmv.Stream

def startCode : Bytes := [0, 0, 0, 1]

def withStartCode (payload : Bytes) : Bytes := startCode ++ payload

/-- `u16::from_be_bytes` as a length. -/
def be16 (high low : UInt8) : Nat := high.toNat * 256 + low.toNat

/-! ## Aggregation packets -/

/-- The loop over the length-prefixed NAL units of an aggregation packet.  The
fuel is the number of bytes, which every turn shortens. -/
def aggregatedUnits : Nat → Bytes → Bytes → Option Bytes
  | fuel + 1, high :: low :: rest, out =>
      let naluLen := be16 high low
      if naluLen == 0 || naluLen > rest.length then none
      else aggregatedUnits fuel (rest.drop naluLen) (out ++ startCode ++ rest.take naluLen)
  | _, _, out => if out.isEmpty then none else some out

/-- Both aggregation formats: `headerLen` bytes of payload header before the
first length field. -/
def depacketizeAggregation (headerLen : Nat) (payload : Bytes) : Option Bytes :=
  if payload.length ≤ headerLen then none
  else aggregatedUnits payload.length (payload.drop headerLen) []

def depacketizeH264StapA (payload : Bytes) : Option Bytes := depacketizeAggregation 1 payload

def depacketizeH265Ap (payload : Bytes) : Option Bytes := depacketizeAggregation 2 payload

/-! ## Fragmentation units -/

/-- One fragment of either codec, with the NAL header that a first fragment
stands for and the fragment's data.  The pair is the finished NAL unit, if any,
and the fragment that is pending afterwards. -/
def receiveFragment (newHeader : Bytes) (fuHeader : UInt8) (fragment : Bytes)
    (pending : Option Bytes) : Option Bytes × Option Bytes :=
  let start := fuHeader &&& 0x80 != 0
  let last := fuHeader &&& 0x40 != 0
  if start && last then (none, none)
  else if start then (none, some (startCode ++ newHeader ++ fragment))
  else
    match pending with
    | none => (none, none)
    | some out => if last then (some (out ++ fragment), none) else (none, some (out ++ fragment))

def depacketizeH264FuA (pending : Option Bytes) : Bytes → Option Bytes × Option Bytes
  | fuIndicator :: fuHeader :: fragment@(_ :: _) =>
      receiveFragment [(fuIndicator &&& 0xe0) ||| (fuHeader &&& 0x1f)] fuHeader fragment pending
  | _ => (none, none)

def depacketizeH265Fu (pending : Option Bytes) : Bytes → Option Bytes × Option Bytes
  | first :: second :: fuHeader :: fragment@(_ :: _) =>
      let fuType : UInt8 := fuHeader &&& 0x3f
      let typeBits : UInt8 := fuType <<< 1
      receiveFragment [(first &&& 0x81) ||| typeBits, second] fuHeader fragment pending
  | _ => (none, none)

/-! ## One payload -/

/-- `depacketize_h264` as a function of the pending fragment. -/
def depacketizeH264 (pending : Option Bytes) (payload : Bytes) : Option Bytes × Option Bytes :=
  match payload with
  | [] => (none, pending)
  | nal :: _ =>
      let nalType := (nal &&& 0x1f).toNat
      if nalType ≤ 23 then (some (withStartCode payload), pending)
      else if nalType = 24 then (depacketizeH264StapA payload, pending)
      else if nalType = 28 then depacketizeH264FuA pending payload
      else (none, pending)

/-- `depacketize_h265` as a function of the pending fragment. -/
def depacketizeH265 (pending : Option Bytes) (payload : Bytes) : Option Bytes × Option Bytes :=
  match payload with
  | first :: second :: _ :: _ =>
      let nalType := ((first >>> 1) &&& 0x3f).toNat
      let layerHigh : UInt8 := first <<< 5
      let layerLow : UInt8 := second >>> 3
      let layerId := (layerHigh &&& 0x20) ||| (layerLow &&& 0x1f)
      let tid : UInt8 := second &&& 0x07
      if layerId != 0 then (none, pending)
      else if tid == 0 then (none, pending)
      else if nalType > 50 then (none, pending)
      else if nalType ≤ 47 then (some (withStartCode payload), pending)
      else if nalType = 48 then (depacketizeH265Ap payload, pending)
      else if nalType = 49 then depacketizeH265Fu pending payload
      else (none, pending)
  | _ => (none, pending)

/-! ## Start codes and key frames of an assembled access unit -/

/-- `find_start_code` on the bytes from position `pos` on. -/
def findStartCodeIn : Bytes → Nat → Option (Nat × Nat)
  | [], _ => none
  | byte :: rest, pos =>
      if (byte :: rest).take 4 = [0, 0, 0, 1] then some (pos, 4)
      else if (byte :: rest).take 3 = [0, 0, 1] then some (pos, 3)
      else findStartCodeIn rest (pos + 1)

def findStartCode (data : Bytes) (start : Nat) : Option (Nat × Nat) :=
  findStartCodeIn (data.drop start) start

/-- The loop of `access_unit_has_nal`.  The fuel is the number of bytes; every
turn moves `nalStart` past a start code. -/
def accessUnitHasNalFrom (data : Bytes) (predicate : Bytes → Bool) : Nat → Nat → Bool
  | 0, _ => false
  | fuel + 1, nalStart =>
      if nalStart < data.length then
        match findStartCode data nalStart with
        | some (nextStart, nextStartLen) =>
            if decide (nextStart > nalStart) &&
                predicate ((data.drop nalStart).take (nextStart - nalStart)) then true
            else accessUnitHasNalFrom data predicate fuel (nextStart + nextStartLen)
        | none => predicate (data.drop nalStart)
      else false

def accessUnitHasNal (data : Bytes) (predicate : Bytes → Bool) : Bool :=
  match findStartCode data 0 with
  | none => !data.isEmpty && predicate data
  | some (firstStart, firstStartLen) =>
      accessUnitHasNalFrom data predicate data.length (firstStart + firstStartLen)

def h264IsKeyframeNal : Bytes → Bool
  | [] => false
  | header :: _ => header &&& 0x1f == 5

def h265IsKeyframeNal : Bytes → Bool
  | header :: _ :: _ =>
      let nalType := (header >>> 1) &&& 0x3f
      nalType == 19 || nalType == 20 || nalType == 21
  | _ => false

def h264AccessUnitHasKeyframe (data : Bytes) : Bool := accessUnitHasNal data h264IsKeyframeNal

def h265AccessUnitHasKeyframe (data : Bytes) : Bool := accessUnitHasNal data h265IsKeyframeNal

/-! ## AAC -/

structure AacAdtsConfig where
  sampleRate : Nat
  channels : Nat
  deriving DecidableEq, Repr

def isAdts : Bytes → Bool
  | first :: second :: _ => first == 0xff && second &&& 0xf0 == 0xf0
  | _ => false

def aacSampleRateIndex : Nat → Option Nat
  | 96000 => some 0
  | 88200 => some 1
  | 64000 => some 2
  | 48000 => some 3
  | 44100 => some 4
  | 32000 => some 5
  | 24000 => some 6
  | 22050 => some 7
  | 16000 => some 8
  | 12000 => some 9
  | 11025 => some 10
  | 8000 => some 11
  | 7350 => some 12
  | _ => none

def appendAdtsFrame (out frame : Bytes) (cfg : AacAdtsConfig) : Bytes :=
  match aacSampleRateIndex cfg.sampleRate with
  | none => out
  | some sampleRateIndex =>
      let channels := min cfg.channels 7
      let frameLen := frame.length + 7
      let profile := 1
      let header : Bytes :=
        [0xff, 0xf1,
          (((profile &&& 0x03) <<< 6) ||| ((sampleRateIndex &&& 0x0f) <<< 2) |||
            (channels >>> 2)).toUInt8,
          (((channels &&& 0x03) <<< 6) ||| ((frameLen >>> 11) &&& 0x03)).toUInt8,
          ((frameLen >>> 3) &&& 0xff).toUInt8,
          (((frameLen &&& 0x07) <<< 5) ||| 0x1f).toUInt8,
          0xfc]
      out ++ header ++ frame

/-- The loop over the AU headers: `remaining` headers from number `i` on. -/
def aacUnits (cfg : AacAdtsConfig) (payload : Bytes) :
    Nat → Nat → Nat → Bytes → Option Bytes
  | 0, _, _, out => if out.isEmpty then none else some out
  | remaining + 1, i, dataOffset, out =>
      let byteOffset := 2 + i * 16 / 8
      if byteOffset + 2 > payload.length then none
      else
        let auSize := be16 (payload.getD byteOffset 0) (payload.getD (byteOffset + 1) 0) >>> 3
        if dataOffset + auSize > payload.length then none
        else
          aacUnits cfg payload remaining (i + 1) (dataOffset + auSize)
            (appendAdtsFrame out ((payload.drop dataOffset).take auSize) cfg)

def depacketizeAac (cfg : AacAdtsConfig) (payload : Bytes) : Option Bytes :=
  if isAdts payload then some payload
  else
    match payload with
    | high :: low :: _ :: _ :: _ =>
        let auHeaderBits := be16 high low
        let auHeaderBytes := (auHeaderBits + 7) / 8
        if auHeaderBits == 0 || auHeaderBits % 16 != 0 ||
            decide (payload.length < 2 + auHeaderBytes) then none
        else aacUnits cfg payload (auHeaderBits / 16) 0 (2 + auHeaderBytes) []
    | _ => none

end Gmv.Stream
