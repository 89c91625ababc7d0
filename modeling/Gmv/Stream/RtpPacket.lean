import Gmv.Library.SerialNumber

/-!
# RTP packets and payload kinds

The packet record of `stream/src/media/rtp.rs`, the payload kinds that select a
depacketiser, and the constants that depend on them.  A `u16` sequence number
is a `BitVec 16`, so that `wrapping_add` and `wrapping_sub` are its addition
and subtraction.  The `ssrc` of the buffer only occurs in log lines and is left
out of the model.
-/

namespace Gmv.Stream

abbrev Bytes := List UInt8

structure RtpPacket where
  ssrc : UInt32
  timestamp : UInt32
  marker : Bool
  seq : BitVec 16
  payload : Bytes
  deriving DecidableEq, Repr

inductive PayloadKind where
  | ps
  | h264
  | h265
  | aac
  | g711
  | passthrough
  deriving DecidableEq, Repr

def bufferSize : Nat := 1024

instance : NeZero bufferSize := ⟨by decide⟩

def defaultVideoQueueWindow : Nat := 32

def defaultAudioQueueWindow : Nat := 8

def reorderBufferHighWatermark : Nat := bufferSize * 4 / 5

def videoGapWaitMs : Nat := 80

def audioGapWaitMs : Nat := 5

def gapWaitFirstMs : Nat := 5

def gapWaitSecondMs : Nat := 15

def gapWaitStepMs : Nat := 10

def seqHalfRange : Nat := 32768

def reorderWindow : PayloadKind → Nat
  | .ps | .h264 | .h265 | .passthrough => defaultVideoQueueWindow
  | .aac | .g711 => defaultAudioQueueWindow

def maxGapWaitMs : PayloadKind → Nat
  | .ps | .h264 | .h265 | .passthrough => videoGapWaitMs
  | .aac | .g711 => audioGapWaitMs

theorem reorderWindow_pos (kind : PayloadKind) : 0 < reorderWindow kind := by
  cases kind <;> decide

def seqBefore (seq base : BitVec 16) : Bool :=
  seq != base && decide ((base - seq).toNat < seqHalfRange)

/-- The slot of the reorder queue that a sequence number is stored in. -/
def slotOf (seq : BitVec 16) : Fin bufferSize :=
  ⟨seq.toNat % bufferSize, Nat.mod_lt _ (by decide)⟩

end Gmv.Stream
