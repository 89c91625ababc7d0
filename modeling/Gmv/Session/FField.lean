import Gmv.Library.Decimal
import Gmv.Shared.MediaExt
import Gmv.Session.SdpText

/-!
# The f= field of a session description

The codes that a GB28181 device gives for its video and its audio, and what the signalling side
puts into the description of the medium for them.  A code that is not known leaves its parameter
as it is.
-/

namespace Gmv.Session.FField

open Gmv.Library Gmv.Shared
open BroadcastWait (stripPrefix)

/-! ## The tables -/

def bitrateMap : List (String × String) :=
  [("1", "5.3"), ("2", "6.3"), ("3", "8"), ("4", "16"), ("5", "24"), ("6", "32"), ("7", "48"),
    ("8", "64"), ("9", "12"), ("10", "80"), ("11", "96"), ("12", "112"), ("13", "128"),
    ("14", "160"), ("15", "192"), ("16", "224"), ("17", "256"), ("18", "288"), ("19", "320"),
    ("20", "10.8"), ("21", "12.4"), ("22", "14"), ("23", "15.6"), ("24", "17.2"), ("25", "19.6"),
    ("26", "21.2"), ("27", "24.4"), ("28", "23.05"), ("29", "34"), ("30", "48.61")]

def sampleRateMap : List (String × String) :=
  [("1", "8"), ("2", "14"), ("3", "16"), ("4", "32"), ("5", "7"), ("6", "11"), ("7", "12"),
    ("8", "22"), ("9", "24"), ("10", "44"), ("11", "48"), ("12", "64"), ("13", "88"), ("14", "96"),
    ("15", "12.8"), ("16", "25.6"), ("17", "38.4")]

/-! ## The parameters -/

/-- `str::parse` for `i32`. -/
def parseI32 (item : String) : Option Int :=
  let (negative, digits) :=
    match item.toList with
    | '-' :: rest => (true, rest)
    | '+' :: rest => (false, rest)
    | chars => (false, chars)
  if digits.isEmpty || !digits.all Char.isDigit then none
  else
    let number : Int := if negative then -Decimal.value digits else Decimal.value digits
    if -2147483648 ≤ number ∧ number ≤ 2147483647 then some number else none

def mapVideoCodec (params : VideoParams) (item : String) : VideoParams :=
  match item with
  | "1" => { params with codecId := some "mpeg4" }
  | "2" => { params with codecId := some "h264" }
  | "3" => { params with codecId := some "svac" }
  | "4" => { params with codecId := some "3gp" }
  | "5" => { params with codecId := some "h265" }
  | _ => params

def mapResolution (params : VideoParams) (item : String) : VideoParams :=
  match item with
  | "1" => { params with resolution := some (176, 144) }
  | "2" => { params with resolution := some (352, 288) }
  | "3" => { params with resolution := some (704, 576) }
  | "4" => { params with resolution := some (704, 576) }
  | "5" => { params with resolution := some (1280, 720) }
  | "6" => { params with resolution := some (1920, 1080) }
  | _ =>
      match splitOnce 'x' item with
      | some (w, h) =>
          match parseI32 w, parseI32 h with
          | some width, some height => { params with resolution := some (width, height) }
          | _, _ => params
      | none => params

def mapFps (params : VideoParams) (item : String) : VideoParams :=
  match parseI32 item with
  | some fps => { params with fps := some fps }
  | none => params

def mapBitrateType (params : VideoParams) (item : String) : VideoParams :=
  match item with
  | "1" => { params with bitrateType := some "CBR" }
  | "2" => { params with bitrateType := some "VBR" }
  | _ => params

def mapVideoBitrate (params : VideoParams) (item : String) : VideoParams :=
  match parseI32 item with
  | some br => { params with bitrate := some br }
  | none => params

def mapAudioCodec (params : AudioParams) (item : String) : AudioParams :=
  match item with
  | "1" => { params with codecId := some "g711" }
  | "2" => { params with codecId := some "g723" }
  | "3" => { params with codecId := some "g729" }
  | "4" => { params with codecId := some "g722" }
  | "5" => { params with codecId := some "svac" }
  | "6" => { params with codecId := some "aac" }
  | _ => params

def mapAudioBitrate (params : AudioParams) (item : String) : AudioParams :=
  match bitrateMap.lookup item with
  | some rate => { params with bitrate := some rate }
  | none => params

def mapSampleRate (params : AudioParams) (item : String) : AudioParams :=
  match sampleRateMap.lookup item with
  | some rate => { params with sampleRate := some rate }
  | none => params

/-! ## The field -/

/-- A part that is empty says nothing. -/
def unlessEmpty {α : Type} (item : String) (map : α → String → α) (params : α) : α :=
  if item = "" then params else map params item

/-- The parts of the first `f=` line. -/
def fParts (sdp : String) : Option (List String) :=
  ((Sdp.lines sdp).findSome? fun line => stripPrefix "f=" (Xml.trim line)).map fun field =>
    (Sdp.split '/' field).map Xml.trim

/-- The bit rate of the video, whose letter is that of the audio behind it. -/
def videoBitrate (part : String) : String :=
  Xml.trim (if part.toList.getLast? = some 'a' then String.ofList part.toList.dropLast else part)

def fillParams (me : MediaExt) (parts : List String) : MediaExt :=
  match parts with
  | [kind, codec, resolution, fps, bitrateType, bitrate, audioCodec, audioBitrate, sampleRate] =>
      if kind = "v" ∧ bitrate.toList.getLast? = some 'a' then
        let video := unlessEmpty codec mapVideoCodec me.videoParams
        let video := unlessEmpty resolution mapResolution video
        let video := unlessEmpty fps mapFps video
        let video := unlessEmpty bitrateType mapBitrateType video
        let video := unlessEmpty (videoBitrate bitrate) mapVideoBitrate video
        let audio := unlessEmpty audioCodec mapAudioCodec me.audioParams
        let audio := unlessEmpty audioBitrate mapAudioBitrate audio
        let audio := unlessEmpty sampleRate mapSampleRate audio
        { me with videoParams := video, audioParams := audio }
      else me
  | _ => me

def extractFField (me : MediaExt) (sdp : ByteArray) : MediaExt :=
  match String.fromUTF8? sdp with
  | none => me
  | some text =>
      match fParts text with
      | some parts => fillParams me parts
      | none => me

end Gmv.Session.FField
