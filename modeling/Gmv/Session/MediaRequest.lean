import Gmv.Session.DeviceChannel
import Gmv.Session.DialogSession
import Gmv.Session.PeerBye
import Gmv.Stream.MediaRegister

/-!
# Requests for media

`play_live`, `play_back` and `download` hand out a stream of a channel: one that is up
already, or one that they set up at a media node.  The module follows each of them from
its checks to its reply, with every answer of the media nodes, of the device, of the
database and of the file system as an outcome that it is given.  The requests of one
channel and mode hold a lock, so each runs by itself; a close that a request begins is
followed to the end of the task that it spawns.
-/

namespace Gmv.Session.MediaRequest

open Gmv.Stream.Media (OutputEnum)
open Gmv.Stream.Register (MediaExt)

/-! ## Data -/

inductive BaseErrorCode where
  | network
  | invalidRequest
  | alreadyExists
  | timeout
  | unsupported
  deriving DecidableEq, Repr

/-- An error that a request raises, the refusal of a media node, and an error that a
request passes on. -/
inductive GlobalError where
  | biz (code : BaseErrorCode) (msg : String)
  | sys (msg : String)
  | resp (code : UInt16) (msg : String)
  | outside (msg : String)
  deriving DecidableEq, Repr

inductive TransMode where
  | udp
  | tcpActive
  | tcpPassive
  deriving DecidableEq, Repr

inductive Codec where
  | mpeg4
  | h264
  | svacVideo
  | h265
  | g711a
  | g711u
  | g7221
  | g7231
  | g729
  | svacAudio
  | aac
  deriving DecidableEq, Repr

structure Filter where
  capture : Bool
  deriving DecidableEq, Repr

/-- The formats of the outputs carry no data. -/
inductive OutputKind where
  | httpFlv
  | rtmp
  | dashFmp4
  | dashMp4
  | hlsFmp4
  | hlsTs
  | rtsp
  | gb28181Frame
  | gb28181Ps
  | webRtc
  | localMp4 (path : String)
  | localTs (path : String)
  deriving DecidableEq, Repr

def outputKindToEnum : OutputKind → OutputEnum
  | .rtmp => .rtmp
  | .dashFmp4 => .dashFmp4
  | .dashMp4 => .dashMp4
  | .hlsFmp4 => .hlsFmp4
  | .hlsTs => .hlsTs
  | .rtsp => .rtsp
  | .gb28181Frame => .gb28181Frame
  | .gb28181Ps => .gb28181Ps
  | .webRtc => .webRtc
  | .localMp4 _ => .localMp4
  | .localTs _ => .localTs
  | .httpFlv => .httpFlv

structure CustomMediaConfig where
  output : OutputKind
  codec : Option Codec
  filter : Filter
  deriving DecidableEq, Repr

/-- What a media node is told to make of a stream; the two timeouts stay at the defaults
of the node. -/
structure MediaConfig where
  ssrc : UInt32
  streamId : String
  codec : Option Codec
  filter : Filter
  output : OutputKind
  deriving DecidableEq, Repr

def mediaConfig (ssrc : UInt32) (streamId : String) : Option CustomMediaConfig → MediaConfig
  | none => ⟨ssrc, streamId, none, ⟨false⟩, .dashFmp4⟩
  | some custom => ⟨ssrc, streamId, custom.codec, custom.filter, custom.output⟩

structure PlayLiveModel where
  deviceId : String
  channelId : Option String
  transMode : Option TransMode
  customMediaConfig : Option CustomMediaConfig
  deriving DecidableEq, Repr

structure PlayBackModel where
  deviceId : String
  channelId : Option String
  transMode : Option TransMode
  customMediaConfig : Option CustomMediaConfig
  st : UInt32
  et : UInt32
  deriving DecidableEq, Repr

structure StreamInfo where
  streamId : String
  url : String
  deriving DecidableEq, Repr

def StreamInfo.build (streamId proxyAddr : String) :
    Option OutputKind → Except GlobalError StreamInfo
  | none | some .dashFmp4 => .ok ⟨streamId, proxyAddr ++ "/play/" ++ streamId ++ ".fmp4"⟩
  | some .httpFlv => .ok ⟨streamId, proxyAddr ++ "/play/" ++ streamId ++ ".flv"⟩
  | some .dashMp4 => .ok ⟨streamId, proxyAddr ++ "/play/" ++ streamId ++ ".mpd"⟩
  | _ => .error (.biz .unsupported "unsupported output")

/-- The outputs that a URL can be built for. -/
def hasUrl : Option OutputKind → Bool
  | none | some .dashFmp4 | some .httpFlv | some .dashMp4 => true
  | _ => false

theorem build_of_hasUrl (streamId proxyAddr : String) (output : Option OutputKind) :
    if hasUrl output then ∃ info, StreamInfo.build streamId proxyAddr output = .ok info
    else ∃ error, StreamInfo.build streamId proxyAddr output = .error error := by
  cases output with
  | none => exact ⟨_, rfl⟩
  | some kind => cases kind <;> exact ⟨_, rfl⟩

structure StreamNode where
  localIp : String
  localPort : UInt16
  pubIp : String
  pubPort : UInt16
  deriving DecidableEq, Repr

structure StreamConf where
  nodeMap : AList fun _ : String => StreamNode

/-- A row of `GMV_RECORD`. -/
structure GmvRecord where
  bizId : String
  deviceId : String
  channelId : String
  userId : Option String
  st : NaiveDateTime
  et : NaiveDateTime
  speed : UInt8
  ct : NaiveDateTime
  state : UInt8
  lt : NaiveDateTime
  streamAppName : String
  deriving DecidableEq, Repr

/-- The INVITE of a stream.  A live stream has no range, and only a download has a speed. -/
structure Invite where
  deviceId : String
  channelId : String
  nodeName : String
  pubIp : String
  pubPort : UInt16
  transMode : TransMode
  ssrc : String
  streamId : String
  am : AccessMode
  range : Option (UInt32 × UInt32)
  speed : Option UInt8
  deriving DecidableEq, Repr

/-- What a request sends to the media nodes, to the device and to the database. -/
inductive Message where
  | streamOnline (nodeName : String) (ssrc : UInt32) (streamId : String)
  | streamInit (nodeName : String) (config : MediaConfig)
  | invite (invite : Invite)
  | streamInitExt (nodeName : String) (ssrc : UInt32) (ext : MediaExt)
  | inviteStop (deviceId callId streamId : String)
  | closeOutput (nodeName : String) (ssrc : UInt32) (output : OutputEnum)
  | insertRecord (record : GmvRecord)
  deriving DecidableEq, Repr

/-- The arguments of `start_invite_stream`, with the SSRC and the id that were made for the
stream. -/
structure Setup where
  deviceId : String
  channelId : String
  am : AccessMode
  st : UInt32
  et : UInt32
  transMode : Option TransMode
  ssrc : String
  config : MediaConfig
  deriving DecidableEq, Repr

namespace Setup

def streamId (setup : Setup) : String := setup.config.streamId

/-- The INVITE at a node: a live stream has no range, and a download has a speed.  No
request sets a talk up here. -/
def invite (setup : Setup) (nodeName : String) (node : StreamNode) : Invite where
  deviceId := setup.deviceId
  channelId := setup.channelId
  nodeName := nodeName
  pubIp := node.pubIp
  pubPort := node.pubPort
  transMode := setup.transMode.getD .udp
  ssrc := setup.ssrc
  streamId := setup.streamId
  am := setup.am
  range := if setup.am = .live then none else some (setup.st, setup.et)
  speed := if setup.am = .down then some 1 else none

def stop (setup : Setup) (callId : String) : Message :=
  .inviteStop setup.deviceId callId setup.streamId

end Setup

/-- The cache, what was sent, and what was set up for each stream that a request entered in
`stream_map`.  The tokens of a stream are left out: entering one cannot fail, and no request
reads them. -/
structure World where
  cache : Cache
  sent : List Message
  entered : List Setup

namespace World

def ofCache (cache : Cache) : World := ⟨cache, [], []⟩

def send (world : World) (message : Message) : World :=
  { world with sent := world.sent ++ [message] }

end World

/-! ## Outcomes -/

/-- What a close finds of the device, and why its BYE fails if it does. -/
structure CloseOutcome where
  device : PeerBye.DeviceSession
  byeError : Option String
  deriving DecidableEq, Repr

/-- What asking a media node for a stream comes to. -/
structure ReuseOutcome where
  client : Except GlobalError Unit
  online : Except GlobalError (Option Bool)
  close : CloseOutcome
  deriving DecidableEq

/-- What setting a stream up at one media node comes to: the code of `stream_init` or
nothing when it fails, the call of the INVITE with the answer of the device, the code and
text of `stream_init_ext`, and the address that the media arrives from or nothing when the
wait ends. -/
structure NodeOutcome where
  client : Except GlobalError Unit
  streamInit : Option UInt16
  invite : Except GlobalError (String × MediaExt)
  streamInitExt : Except GlobalError (UInt16 × String)
  heard : Option String
  deriving DecidableEq

/-- The outcomes of the steps of one request.  `canonicalize` gives nothing for a path
that is not UTF-8, and `localTime` is the conversion of a timestamp. -/
structure Outcomes where
  hasSession : Bool
  runningRecord : Except GlobalError Bool
  createDir : Except GlobalError Unit
  canonicalize : Except GlobalError (Option String)
  reuse : ReuseOutcome
  ssrcStreamId : Except GlobalError (String × String)
  node : String → NodeOutcome
  localTime : UInt32 → Option NaiveDateTime
  insertRecord : Except GlobalError Unit
  now : NaiveDateTime
  close : CloseOutcome

/-! ## Closes -/

/-- The task that a close spawns, from the BYE that it takes to the end. -/
def sendBye (byeError : Option String) (streamId : String) (cache : Cache) : Cache :=
  match cache.streamCloseTakeBye streamId with
  | (none, next) => next
  | (some command, next) =>
      match byeError with
      | none => (next.streamCloseComplete streamId command.generation).2
      | some reason =>
          (next.streamCloseMarkFailed streamId command.generation command.seq reason).2

/-- `stream_close::begin` with the task that it spawns. -/
def close (outcome : CloseOutcome) (streamId : String) (cache : Cache) : Cache :=
  match cache.streamCloseBegin streamId with
  | (none, next) => next
  | (some start, next) =>
      if start.newlyStarted then
        match outcome.device with
        | .missing =>
            if next.streamIsRestored streamId then next
            else (next.streamCloseForce streamId start.generation).2
        | .expired => (next.streamCloseForce streamId start.generation).2
        | .scheduled => sendBye outcome.byeError streamId next
      else next

def World.close (world : World) (outcome : CloseOutcome) (streamId : String) : World :=
  { world with cache := MediaRequest.close outcome streamId world.cache }

/-! ## Streams that are up already -/

def deviceMapGetInviteInfo (cache : Cache) (deviceId channelId : String) (am : AccessMode) :
    Option (String × String) :=
  (cache.deviceMap deviceId).findSome? fun entry =>
    if entry.channelId == channelId && entry.am == am then some (entry.streamId, entry.ssrc)
    else none

def streamMapQueryNode (cache : Cache) (streamId : String) : Option (String × String) :=
  (cache.streamMap.lookup streamId).map fun stream => (stream.streamNodeName, stream.proxyAddr)

def parseU32 (ssrc : String) : Option UInt32 :=
  (DeviceChannel.parseUnsigned 4294967295 ssrc).map UInt32.ofNat

/-- The error of `ssrc.parse::<u32>()`. -/
def invalidSsrc : GlobalError := .outside "invalid digit found in string"

/-- Whether the media node of a stream that was found has it online. -/
def streamOnline (conf : StreamConf) (streamId ssrc : String) (out : ReuseOutcome) (world : World) :
    Except GlobalError (Option (String × String)) × World :=
  match streamMapQueryNode world.cache streamId with
  | none => (.ok none, world)
  | some (nodeName, proxyAddr) =>
      match conf.nodeMap.lookup nodeName with
      | none => (.ok none, world)
      | some _ =>
          match out.client, parseU32 ssrc with
          | .error error, _ => (.error error, world)
          | .ok _, none => (.error invalidSsrc, world)
          | .ok _, some u32ssrc =>
              match out.online with
              | .error error => (.error error, world.send (.streamOnline nodeName u32ssrc streamId))
              | .ok data =>
                  (.ok (if data = some true then some (streamId, proxyAddr) else none),
                    world.send (.streamOnline nodeName u32ssrc streamId))

def enableInviteStream (conf : StreamConf) (deviceId channelId : String) (am : AccessMode)
    (out : ReuseOutcome) (world : World) : Except GlobalError (Option (String × String)) × World :=
  match deviceMapGetInviteInfo world.cache deviceId channelId am with
  | none => (.ok none, world)
  | some (streamId, ssrc) =>
      match streamOnline conf streamId ssrc out world with
      | (.ok none, next) => (.ok none, next.close out.close streamId)
      | found => found

/-! ## Streams that are set up -/

/-- The number of streams of a node, as it is counted. -/
def streamCount (cache : Cache) (nodeName : String) : UInt16 :=
  UInt16.ofNat (cache.streamMap.entries.countP fun entry => entry.2.streamNodeName == nodeName)

/-- The nodes of the configuration, those with few streams first. -/
def streamMapOrderNode (conf : StreamConf) (cache : Cache) : List (UInt16 × String) :=
  (conf.nodeMap.keys.map fun name => (streamCount cache name, name)).mergeSort fun first second =>
    first.1 < second.1 || (first.1 == second.1 && first.2 ≤ second.2)

/-- What `start_invite_stream` returns. -/
structure Invited where
  streamId : String
  nodeName : String
  proxyAddr : String
  deriving DecidableEq, Repr

def World.cleanupStreamInit (world : World) (nodeName : String) (config : MediaConfig) : World :=
  world.send (.closeOutput nodeName config.ssrc (outputKindToEnum config.output))

/-- Behind the entry in `stream_map`: the wait for the media. -/
def awaitStream (setup : Setup) (nodeName : String) (out : NodeOutcome) (closing : CloseOutcome)
    (world : World) : Except GlobalError Invited × World :=
  match out.heard with
  | some proxyAddr =>
      let updated := (world.cache.streamMapUpdateSource setup.streamId proxyAddr nodeName).2
      let listed := updated.deviceMapInsert setup.deviceId setup.channelId setup.ssrc setup.streamId
        setup.am
      (.ok ⟨setup.streamId, nodeName, proxyAddr⟩, { world with cache := listed })
  | none =>
      (.error (.biz .timeout "未接收到监控推流"),
        (world.cleanupStreamInit nodeName setup.config).close closing setup.streamId)

/-- Behind an INVITE that was accepted. -/
def enterStream (setup : Setup) (nodeName callId : String) (ext : MediaExt) (out : NodeOutcome)
    (closing : CloseOutcome) (world : World) : Except GlobalError Invited × World :=
  let world := world.send (.streamInitExt nodeName setup.config.ssrc ext)
  let stopped := (world.send (setup.stop callId)).cleanupStreamInit nodeName setup.config
  match out.streamInitExt with
  | .error error => (.error error, stopped)
  | .ok (code, msg) =>
      if code ≠ 200 then (.error (.resp code msg), stopped)
      else
        match world.cache.streamMapInsertInfo setup.streamId setup.deviceId setup.channelId
          setup.config.ssrc "" nodeName callId 1 setup.am with
        | (false, _) => (.error (.biz .invalidRequest "stream dialog already exists"), stopped)
        | (true, next) =>
            awaitStream setup nodeName out closing
              { world with cache := next, entered := world.entered ++ [setup] }

/-- Behind a node that has taken the stream. -/
def inviteStream (setup : Setup) (nodeName : String) (node : StreamNode) (out : NodeOutcome)
    (closing : CloseOutcome) (world : World) : Except GlobalError Invited × World :=
  let world := world.send (.invite (setup.invite nodeName node))
  match out.invite with
  | .error error => (.error error, world.cleanupStreamInit nodeName setup.config)
  | .ok (callId, ext) => enterStream setup nodeName callId ext out closing world

/-- The loop over the nodes. -/
def tryNodes (conf : StreamConf) (setup : Setup) (out : String → NodeOutcome)
    (closing : CloseOutcome) (world : World) :
    List (UInt16 × String) → Except GlobalError Invited × World
  | [] => (.error (.biz .network "无可用流媒体服务"), world)
  | (_, nodeName) :: rest =>
      match conf.nodeMap.lookup nodeName with
      | none => tryNodes conf setup out closing world rest
      | some node =>
          match (out nodeName).client with
          | .error error => (.error error, world)
          | .ok _ =>
              let world := world.send (.streamInit nodeName setup.config)
              if (out nodeName).streamInit = some 200 then
                inviteStream setup nodeName node (out nodeName) closing world
              else tryNodes conf setup out closing world rest

/-- The nodes are ordered before the SSRC is made. -/
def startInviteStream (conf : StreamConf) (deviceId channelId : String) (am : AccessMode)
    (st et : UInt32) (transMode : Option TransMode) (custom : Option CustomMediaConfig)
    (out : Outcomes) (world : World) : Except GlobalError Invited × World :=
  match out.ssrcStreamId with
  | .error error => (.error error, world)
  | .ok (ssrc, streamId) =>
      match parseU32 ssrc with
      | none => (.error invalidSsrc, world)
      | some u32ssrc =>
          tryNodes conf
            ⟨deviceId, channelId, am, st, et, transMode, ssrc, mediaConfig u32ssrc streamId custom⟩
            out.node out.close world (streamMapOrderNode conf world.cache)

/-! ## The requests -/

def offline : GlobalError := .biz .network "设备已离线"

def validatePlaybackRange (st et : UInt32) : Except GlobalError Unit :=
  if st < et then .ok ()
  else .error (.biz .invalidRequest "playback start time must be before end time")

/-- The common end of `play_live` and `play_back`, behind the lock. -/
def play (conf : StreamConf) (deviceId channelId : String) (am : AccessMode) (st et : UInt32)
    (transMode : Option TransMode) (custom : Option CustomMediaConfig) (out : Outcomes)
    (world : World) : Except GlobalError StreamInfo × World :=
  let output := custom.map CustomMediaConfig.output
  match enableInviteStream conf deviceId channelId am out.reuse world with
  | (.error error, next) => (.error error, next)
  | (.ok (some (streamId, proxyAddr)), next) => (StreamInfo.build streamId proxyAddr output, next)
  | (.ok none, next) =>
      match startInviteStream conf deviceId channelId am st et transMode custom out next with
      | (.error error, last) => (.error error, last)
      | (.ok invited, last) => (StreamInfo.build invited.streamId invited.proxyAddr output, last)

def playLive (conf : StreamConf) (model : PlayLiveModel) (out : Outcomes) (world : World) :
    Except GlobalError StreamInfo × World :=
  if out.hasSession then
    play conf model.deviceId (model.channelId.getD model.deviceId) .live 0 0 model.transMode
      model.customMediaConfig out world
  else (.error offline, world)

def playBack (conf : StreamConf) (model : PlayBackModel) (out : Outcomes) (world : World) :
    Except GlobalError StreamInfo × World :=
  if out.hasSession then
    match validatePlaybackRange model.st model.et with
    | .error error => (.error error, world)
    | .ok _ =>
        play conf model.deviceId (model.channelId.getD model.deviceId) .back model.st model.et
          model.transMode model.customMediaConfig out world
  else (.error offline, world)

/-- `saturating_sub(2)` and `saturating_add(1)`. -/
def saturatingPred2 (st : UInt32) : UInt32 := if st < 2 then 0 else st - 2

/-- The directory of a download, behind the checks of its request. -/
def downloadPath (model : PlayBackModel) (out : Outcomes) : Except GlobalError String := do
  if ← out.runningRecord then throw (.biz .alreadyExists "任务已存在")
  validatePlaybackRange model.st model.et
  out.createDir
  match ← out.canonicalize with
  | none => throw (.sys "文件名错误")
  | some path => return path

/-- The row of a download, when its two times can be converted. -/
def gmvRecord (model : PlayBackModel) (out : Outcomes) (invited : Invited) :
    Except GlobalError GmvRecord :=
  match out.localTime model.st with
  | none => .error (.sys "invalid start time")
  | some st =>
      match out.localTime model.et with
      | none => .error (.sys "invalid end time")
      | some et =>
          .ok {
            bizId := invited.streamId
            deviceId := model.deviceId
            channelId := model.channelId.getD model.deviceId
            userId := none
            st := st
            et := et
            speed := 1
            ct := out.now
            state := 0
            lt := out.now
            streamAppName := invited.nodeName }

/-- The end of a download, behind the stream that it set up. -/
def recordDownload (model : PlayBackModel) (out : Outcomes) (invited : Invited) (world : World) :
    Except GlobalError String × World :=
  match gmvRecord model out invited with
  | .error error => (.error error, world)
  | .ok record =>
      let world := world.send (.insertRecord record)
      match out.insertRecord with
      | .error error => (.error error, world.close out.close invited.streamId)
      | .ok _ => (.ok invited.streamId, world)

def download (conf : StreamConf) (model : PlayBackModel) (out : Outcomes) (world : World) :
    Except GlobalError String × World :=
  if out.hasSession then
    match downloadPath model out with
    | .error error => (.error error, world)
    | .ok path =>
        let custom := model.customMediaConfig.getD ⟨.localMp4 path, none, ⟨false⟩⟩
        match startInviteStream conf model.deviceId (model.channelId.getD model.deviceId) .down
          (saturatingPred2 model.st) (saturatingSucc32 model.et) model.transMode (some custom) out
          world with
        | (.error error, next) => (.error error, next)
        | (.ok invited, next) => recordDownload model out invited next
  else (.error offline, world)

/-! ## A request that meets no failure -/

/-- One media node. -/
def oneNode : StreamConf :=
  ⟨(∅ : AList fun _ : String => StreamNode).insert "s1" ⟨"10.0.0.2", 18080, "203.0.113.2", 28080⟩⟩

/-- Every step works for a stream with this SSRC and id, and the media arrives through a proxy. -/
def allWorks (ssrc streamId : String) : Outcomes where
  hasSession := true
  runningRecord := .ok false
  createDir := .ok ()
  canonicalize := .ok (some "/var/gmv/20240101")
  reuse := ⟨.ok (), .ok (some true), ⟨.scheduled, none⟩⟩
  ssrcStreamId := .ok (ssrc, streamId)
  node := fun _ => ⟨.ok (), some 200, .ok ("call-" ++ streamId, ⟨96⟩), .ok (200, "success"),
    some "10.0.0.9:30000"⟩
  localTime := fun seconds => some seconds.toNat
  insertRecord := .ok ()
  now := 1704067200
  close := ⟨.scheduled, none⟩

end Gmv.Session.MediaRequest
