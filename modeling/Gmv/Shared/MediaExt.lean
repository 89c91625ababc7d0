import Mathlib.Data.List.Basic

/-!
# The description of a medium

What the signalling side finds out about the medium of a stream and hands to the media node:
the payload type and its name, and the parameters of its video and its audio.  The functions
that fill the parameters read the codes of a GB28181 `f=` field.
-/

namespace Gmv.Shared

structure VideoParams where
  codecId : Option String
  resolution : Option (Int × Int)
  fps : Option Int
  bitrateType : Option String
  bitrate : Option Int
  deriving DecidableEq, Repr

structure AudioParams where
  codecId : Option String
  bitrate : Option String
  sampleRate : Option String
  channelCount : Int
  clockRate : Int
  deriving DecidableEq, Repr

structure MediaExt where
  typeCode : UInt8
  typeName : String
  clockRate : Int
  videoParams : VideoParams
  audioParams : AudioParams
  deriving DecidableEq, Repr

def VideoParams.default : VideoParams := ⟨none, none, none, none, none⟩

def AudioParams.default : AudioParams := ⟨none, none, none, 1, 8000⟩

def MediaExt.default : MediaExt := ⟨0, "", 0, .default, .default⟩

/-! ## Letters -/

def toAsciiUppercase (text : String) : String := String.ofList (text.toList.map Char.toUpper)

def toAsciiLowercase (text : String) : String := String.ofList (text.toList.map Char.toLower)

end Gmv.Shared
