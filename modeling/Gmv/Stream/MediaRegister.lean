import Gmv.Stream.SignIn
import Mathlib.Logic.Function.Basic

/-!
# The media registry

The maps of the media node that a stream lives in: its channel under the ssrc, its
metadata under the stream id, and the timer that checks its input.  The operations are
those of the register, one definition for each piece that a map or the scheduler is
touched by, and the whole operation made of its pieces.
-/

namespace Gmv.Stream.Media

open Gmv.Stream.Register (MediaExt RegisterCode typeMismatch)

inductive OutputEnum where
  | httpFlv
  | rtmp
  | dashMp4
  | dashFmp4
  | hlsFmp4
  | hlsTs
  | rtsp
  | gb28181Frame
  | gb28181Ps
  | webRtc
  | localMp4
  | localTs
  deriving DecidableEq, Repr

/-- The outputs for which the layers of a stream can be built; the others panic. -/
def OutputEnum.isImplemented : OutputEnum → Bool
  | .httpFlv | .dashFmp4 | .dashMp4 | .hlsFmp4 | .localMp4 => true
  | _ => false

structure MediaConfig where
  ssrc : UInt32
  streamId : String
  inWaitTimeout : Option UInt8
  capture : Bool
  output : OutputEnum
  deriving DecidableEq, Repr

/-- A capture filter panics as an output that is not implemented does. -/
def MediaConfig.isImplemented (config : MediaConfig) : Bool :=
  config.output.isImplemented && !config.capture

/-- An http-flv stream that times out at its first check. -/
def flvConfig (ssrc : UInt32) (streamId : String) : MediaConfig :=
  ⟨ssrc, streamId, some 1, false, .httpFlv⟩

structure RtpChannel where
  inHasTimeout : UInt8
  streamId : String
  deriving DecidableEq, Repr

def RtpChannel.new (streamId : String) : RtpChannel := ⟨0, streamId⟩

/-- The seconds without input, one more: the counter wraps, what is read of it does not. -/
def RtpChannel.timeoutCount (channel : RtpChannel) : UInt8 :=
  if channel.inHasTimeout = 255 then 255 else channel.inHasTimeout + 1

def RtpChannel.countTimeout (channel : RtpChannel) : RtpChannel :=
  { channel with inHasTimeout := channel.inHasTimeout + 1 }

structure StreamMetadata where
  ssrc : UInt32
  inWaitTimeout : UInt8
  mediaExt : Option MediaExt
  deriving DecidableEq, Repr

/-- What an event says of its stream, as the metadata and the stream id were when it was
issued. -/
structure BaseStreamInfo where
  ssrc : UInt32
  streamId : String
  deriving DecidableEq, Repr

structure RegisterStreamInfo where
  baseStreamInfo : BaseStreamInfo
  code : RegisterCode
  msg : Option String
  deriving DecidableEq, Repr

structure OutputStreamInfo where
  baseStreamInfo : BaseStreamInfo
  playType : OutputEnum
  userCount : UInt32
  deriving DecidableEq, Repr

/-- The events that the node tells the signalling side of.  The answer to any `other`
event leaves the registry as it is. -/
inductive OutEvent where
  | streamRegister (info : RegisterStreamInfo)
  | streamInTimeout (info : BaseStreamInfo)
  | streamIdle (info : OutputStreamInfo)
  | other
  deriving DecidableEq, Repr

inductive InTimeoutEventRes where
  | keepAlive
  | closeAll
  deriving DecidableEq, Repr

inductive OutputEventRes where
  | keepMuxer
  | closeMuxer
  | closeAll
  deriving DecidableEq, Repr

structure Resp (α : Type) where
  code : UInt16
  data : Option α
  deriving DecidableEq, Repr

/-- What `hand_out` makes of the answer to a `StreamInTimeout`. -/
def inTimeoutRes (answer : Option (Resp InTimeoutEventRes)) : InTimeoutEventRes :=
  match answer with
  | some ⟨200, some res⟩ => res
  | _ => .closeAll

/-- What `hand_out` makes of the answer to a `StreamIdle`. -/
def outputRes (info : OutputStreamInfo) (answer : Option (Resp OutputEventRes)) : OutputEventRes :=
  match answer with
  | some ⟨200, some res⟩ => res
  | _ => if info.userCount = 0 then .closeAll else .closeMuxer

structure Inner where
  timeSchedule : UInt32 → Bool
  rtpGatewayMap : UInt32 → Option RtpChannel
  streamMetadataMap : String → Option StreamMetadata
  inWaitTimeout : UInt8

namespace Inner

variable (inner : Inner)

def empty (inWaitTimeout : UInt8) : Inner := ⟨fun _ => false, fun _ => none, fun _ => none, inWaitTimeout⟩

/-- The timer of an ssrc is armed, unless the scheduler refuses. -/
def arm (ssrc : UInt32) (accepts : Bool) : Inner :=
  if accepts then { inner with timeSchedule := Function.update inner.timeSchedule ssrc true } else inner

/-- The scheduler hands the timer out. -/
def disarm (ssrc : UInt32) : Inner :=
  { inner with timeSchedule := Function.update inner.timeSchedule ssrc false }

def setChannel (ssrc : UInt32) (channel : Option RtpChannel) : Inner :=
  { inner with rtpGatewayMap := Function.update inner.rtpGatewayMap ssrc channel }

def setMetadata (streamId : String) (metadata : Option StreamMetadata) : Inner :=
  { inner with streamMetadataMap := Function.update inner.streamMetadataMap streamId metadata }

/-! ### The operations -/

def metadataOf (config : MediaConfig) : StreamMetadata :=
  ⟨config.ssrc, config.inWaitTimeout.getD inner.inWaitTimeout, none⟩

def insertChannel (config : MediaConfig) : Inner :=
  inner.setChannel config.ssrc (some (.new config.streamId))

def insertMetadata (config : MediaConfig) : Inner :=
  inner.setMetadata config.streamId (some (inner.metadataOf config))

def initMedia (config : MediaConfig) (accepts : Bool) : Inner :=
  if config.isImplemented then
    ((inner.arm config.ssrc accepts).insertChannel config).insertMetadata config
  else inner

def initMediaExt (ssrc : UInt32) (mediaExt : MediaExt) : Inner :=
  match inner.rtpGatewayMap ssrc with
  | none => inner
  | some channel =>
      match inner.streamMetadataMap channel.streamId with
      | none => inner
      | some metadata =>
          inner.setMetadata channel.streamId (some { metadata with mediaExt := some mediaExt })

/-- A packet has come. -/
def refresh (ssrc : UInt32) : Inner :=
  match inner.rtpGatewayMap ssrc with
  | none => inner
  | some channel => inner.setChannel ssrc (some { channel with inHasTimeout := 0 })

/-- The check of an input: the event that is to be sent, if any. -/
def handleRtpInTimeout (ssrc : UInt32) (accepts : Bool) : Option OutEvent × Inner :=
  match inner.rtpGatewayMap ssrc with
  | none => (none, inner)
  | some channel =>
      match inner.streamMetadataMap channel.streamId with
      | none => (none, inner)
      | some metadata =>
          let counted := inner.setChannel ssrc (some channel.countTimeout)
          if channel.timeoutCount < metadata.inWaitTimeout then (none, counted.arm ssrc accepts)
          else (some (.streamInTimeout ⟨metadata.ssrc, channel.streamId⟩), counted)

/-- The stream is taken out of both maps, by the ids that the event carries. -/
def closeAll (info : BaseStreamInfo) : Inner :=
  (inner.setMetadata info.streamId none).setChannel info.ssrc none

def closeStreamByInput (info : BaseStreamInfo) (res : InTimeoutEventRes) (accepts : Bool) : Inner :=
  match res with
  | .keepAlive => inner.arm info.ssrc accepts
  | .closeAll => inner.closeAll info

/-- Only `CloseAll` touches the registry. -/
def closeStreamByOutput (info : OutputStreamInfo) (res : OutputEventRes) : Inner :=
  match res with
  | .keepMuxer | .closeMuxer => inner
  | .closeAll => inner.closeAll info.baseStreamInfo

/-- The first packets of a stream have come.  They start it, and a payload type that is
not the one of the description ends it. -/
def sendStreamConfig (rtpType : UInt8) (streamId : String) (subscribed : Bool) :
    Option OutEvent × Inner :=
  match inner.streamMetadataMap streamId with
  | none => (none, inner)
  | some metadata =>
      let info : BaseStreamInfo := ⟨metadata.ssrc, streamId⟩
      match metadata.mediaExt with
      | none => (none, inner)
      | some mediaExt =>
          if mediaExt.typeCode = rtpType then
            match inner.rtpGatewayMap metadata.ssrc with
            | none => (none, inner)
            | some _ =>
                (if subscribed then some (.streamRegister ⟨info, .success, none⟩) else none, inner)
          else
            (some (.streamRegister
              ⟨info, .invalidState, some (typeMismatch mediaExt.typeCode rtpType)⟩),
              inner.closeAll info)

end Inner

end Gmv.Stream.Media
