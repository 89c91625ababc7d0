import Gmv.Session.StreamRecession

/-!
# Requests that fail

A request that fails ought to leave no stream of its own playing.  The failures inside
`start_invite_stream` compensate for what came before them, and so does a record that
cannot be inserted.  Two exits behind a stream that is up do not: the URL of an output
that has none, and a time that cannot be converted.  The module tells from the outcomes
of its steps when a request leaves nothing behind.
-/

namespace Gmv.Session.MediaRequest

open Gmv.Stream.Register (MediaExt)

/-! ## When a request sets a stream up -/

/-- A node that has taken the stream brings it up. -/
def NodeOutcome.completes (out : NodeOutcome) : Bool :=
  out.invite.isOk && out.streamInitExt.toOption.any (fun resp => resp.1 == 200) && out.heard.isSome

/-- The first node that takes the stream brings it up. -/
def establishes (conf : StreamConf) (out : String → NodeOutcome) : List (UInt16 × String) → Bool
  | [] => false
  | (_, nodeName) :: rest =>
      match conf.nodeMap.lookup nodeName with
      | none => establishes conf out rest
      | some _ =>
          (out nodeName).client.isOk &&
            if (out nodeName).streamInit = some 200 then (out nodeName).completes
            else establishes conf out rest

/-- `start_invite_stream` brings up a stream under an id that is free. -/
def starts (conf : StreamConf) (out : Outcomes) (cache : Cache) : Bool :=
  match out.ssrcStreamId with
  | .error _ => false
  | .ok (ssrc, streamId) =>
      (parseU32 ssrc).isSome && establishes conf out.node (streamMapOrderNode conf cache) &&
        (cache.streamMap.lookup streamId).isNone

/-- A look for a stream that is up already ends without one, and without an error. -/
def findsNone (conf : StreamConf) (deviceId channelId : String) (am : AccessMode)
    (out : ReuseOutcome) (cache : Cache) : Bool :=
  match deviceMapGetInviteInfo cache deviceId channelId am with
  | none => true
  | some (streamId, ssrc) =>
      match streamMapQueryNode cache streamId with
      | none => true
      | some (nodeName, _) =>
          (conf.nodeMap.lookup nodeName).isNone ||
            (out.client.isOk && (parseU32 ssrc).isSome &&
              out.online.toOption.any fun data => data != some true)

/-- The cache behind a look that ends without a stream. -/
def behindLook (deviceId channelId : String) (am : AccessMode) (out : ReuseOutcome)
    (cache : Cache) : Cache :=
  match deviceMapGetInviteInfo cache deviceId channelId am with
  | none => cache
  | some (streamId, _) => close out.close streamId cache

inductive Request where
  | live (model : PlayLiveModel)
  | back (model : PlayBackModel)
  | download (model : PlayBackModel)
  deriving DecidableEq, Repr

inductive Reply where
  | info (info : StreamInfo)
  | download (streamId : String)
  deriving DecidableEq, Repr

def playSetsUp (conf : StreamConf) (deviceId channelId : String) (am : AccessMode)
    (out : Outcomes) (cache : Cache) : Bool :=
  findsNone conf deviceId channelId am out.reuse cache &&
    starts conf out (behindLook deviceId channelId am out.reuse cache)

namespace Request

def run (conf : StreamConf) (out : Outcomes) (world : World) :
    Request → Except GlobalError Reply × World
  | live model =>
      let (result, next) := playLive conf model out world
      (result.map .info, next)
  | back model =>
      let (result, next) := playBack conf model out world
      (result.map .info, next)
  | download model =>
      let (result, next) := MediaRequest.download conf model out world
      (result.map .download, next)

/-- The request gets past its checks, finds no stream and sets one up. -/
def setsUp (conf : StreamConf) (out : Outcomes) (cache : Cache) : Request → Bool
  | live model =>
      out.hasSession &&
        playSetsUp conf model.deviceId (model.channelId.getD model.deviceId) .live out cache
  | back model =>
      out.hasSession && decide (model.st < model.et) &&
        playSetsUp conf model.deviceId (model.channelId.getD model.deviceId) .back out cache
  | download model =>
      out.hasSession && out.runningRecord.toOption.any (fun running => !running) &&
        decide (model.st < model.et) && out.createDir.isOk &&
        out.canonicalize.toOption.any Option.isSome && starts conf out cache

/-- A step behind the stream fails that has no compensation: the output has no URL, or a
time of a download cannot be converted. -/
def endsUncompensated (out : Outcomes) : Request → Bool
  | live model => !hasUrl (model.customMediaConfig.map CustomMediaConfig.output)
  | back model => !hasUrl (model.customMediaConfig.map CustomMediaConfig.output)
  | download model => (out.localTime model.st).isNone || (out.localTime model.et).isNone

end Request

/-! ## What is left behind -/

/-- No stream that was entered is playing. -/
def Settled (world : World) : Prop := ∀ setup ∈ world.entered, AtRest setup.streamId world.cache

/-- When the request fails, no stream that it entered is playing in the end. -/
def LeavesNothing (conf : StreamConf) (request : Request) (out : Outcomes) (cache : Cache) : Prop :=
  ∀ error, (request.run conf out (World.ofCache cache)).1 = .error error →
    Settled (request.run conf out (World.ofCache cache)).2

/-! ## The stream of a request -/

/-- The one stream that was entered is playing. -/
structure Brought (setup : Setup) (world : World) : Prop where
  entered : world.entered = [setup]
  playing : ∃ stream, world.cache.streamMap.lookup setup.streamId = some stream ∧
    stream.lifecycle = .playing

/-- The ends of setting a stream up: it is up when everything works, and on a failure no
stream that was entered is playing. -/
inductive Ends (works : Bool) : Except GlobalError Invited × World → Prop where
  | up {setup : Setup} {invited : Invited} {next : World} (holds : works = true)
      (same : invited.streamId = setup.streamId) (brought : Brought setup next) :
      Ends works (.ok invited, next)
  | failed {error : GlobalError} {next : World} (fails : works = false) (settled : Settled next) :
      Ends works (.error error, next)

section Setups

variable {conf : StreamConf} {setup : Setup} {world : World}

theorem settled_of_empty (empty : world.entered = []) : Settled world := by
  intro setup member
  rw [empty] at member
  cases member

theorem awaitStream_ends (nodeName : String) (out : NodeOutcome) (closing : CloseOutcome)
    (brought : Brought setup world) :
    Ends out.heard.isSome (awaitStream setup nodeName out closing world) := by
  obtain ⟨entered, stream, held, playing⟩ := brought
  rw [awaitStream]
  cases heard : out.heard with
  | some proxyAddr =>
      refine .up rfl rfl ⟨entered, ?_⟩
      rw [Cache.streamMapUpdateSource, held]
      exact ⟨_, AList.lookup_insert _, playing⟩
  | none =>
      refine .failed rfl fun other member => ?_
      have isSetup : other ∈ world.entered := member
      rw [entered, List.mem_singleton] at isSetup
      rw [isSetup]
      exact (close_spec closing setup.streamId world.cache).2

theorem enterStream_ends (setup : Setup) (world : World) (nodeName callId : String)
    (ext : MediaExt) (out : NodeOutcome) (closing : CloseOutcome) (empty : world.entered = []) :
    Ends (out.streamInitExt.toOption.any (fun resp => resp.1 == 200) && out.heard.isSome &&
        (world.cache.streamMap.lookup setup.streamId).isNone)
      (enterStream setup nodeName callId ext out closing world) := by
  rw [enterStream]
  cases replied : out.streamInitExt with
  | error error => exact .failed rfl (settled_of_empty empty)
  | ok resp =>
      obtain ⟨code, msg⟩ := resp
      dsimp only
      by_cases taken : code = 200
      · rw [if_neg (not_not.mpr taken), Cache.streamMapInsertInfo, Cache.streamMapInsert]
        cases held : world.cache.streamMap.lookup setup.streamId with
        | some stream =>
            have occupied : (world.send
                (.streamInitExt nodeName setup.config.ssrc ext)).cache.streamMap.lookup setup.streamId =
                  some stream := held
            rw [occupied]
            refine .failed ?_ (settled_of_empty empty)
            simp
        | none =>
            have free : (world.send
                (.streamInitExt nodeName setup.config.ssrc ext)).cache.streamMap.lookup setup.streamId =
                  none := held
            rw [free]
            have all : ((Except.ok (code, msg) : Except GlobalError (UInt16 × String)).toOption.any
                (fun resp => resp.1 == 200) && out.heard.isSome &&
                  (none : Option StreamTable).isNone) = out.heard.isSome := by
              simp [Except.toOption, taken]
            rw [all]
            refine awaitStream_ends nodeName out closing ⟨?_, _, AList.lookup_insert _, rfl⟩
            exact congrArg (· ++ [setup]) empty
      · rw [if_pos taken]
        refine .failed ?_ (settled_of_empty empty)
        simp [Except.toOption, taken]

theorem inviteStream_ends (setup : Setup) (world : World) (nodeName : String) (node : StreamNode)
    (out : NodeOutcome) (closing : CloseOutcome) (empty : world.entered = []) :
    Ends (out.completes && (world.cache.streamMap.lookup setup.streamId).isNone)
      (inviteStream setup nodeName node out closing world) := by
  rw [inviteStream, NodeOutcome.completes]
  cases invited : out.invite with
  | error error => exact .failed rfl (settled_of_empty empty)
  | ok accepted =>
      obtain ⟨callId, ext⟩ := accepted
      have rest := enterStream_ends setup (world.send (.invite (setup.invite nodeName node)))
        nodeName callId ext out closing empty
      rw [Except.isOk, Except.toBool, Bool.true_and]
      exact rest

theorem tryNodes_ends (conf : StreamConf) (setup : Setup) (world : World)
    (out : String → NodeOutcome) (closing : CloseOutcome) (nodes : List (UInt16 × String))
    (empty : world.entered = []) :
    Ends (establishes conf out nodes && (world.cache.streamMap.lookup setup.streamId).isNone)
      (tryNodes conf setup out closing world nodes) := by
  induction nodes generalizing world with
  | nil => exact .failed rfl (settled_of_empty empty)
  | cons entry rest ih =>
      obtain ⟨count, nodeName⟩ := entry
      rw [tryNodes, establishes]
      cases conf.nodeMap.lookup nodeName with
      | none => exact ih world empty
      | some node =>
          cases client : (out nodeName).client with
          | error error => exact .failed rfl (settled_of_empty empty)
          | ok _ =>
              rw [Except.isOk, Except.toBool, Bool.true_and]
              dsimp only
              by_cases taken : (out nodeName).streamInit = some 200
              · rw [if_pos taken, if_pos taken]
                exact inviteStream_ends setup (world.send (.streamInit nodeName setup.config)) nodeName
                  node (out nodeName) closing empty
              · rw [if_neg taken, if_neg taken]
                exact ih (world.send (.streamInit nodeName setup.config)) empty

theorem startInviteStream_ends (conf : StreamConf) (world : World)
    (deviceId channelId : String) (am : AccessMode) (st et : UInt32) (transMode : Option TransMode)
    (custom : Option CustomMediaConfig) (out : Outcomes)
    (empty : world.entered = []) :
    Ends (starts conf out world.cache)
      (startInviteStream conf deviceId channelId am st et transMode custom out world) := by
  rw [startInviteStream, starts]
  cases made : out.ssrcStreamId with
  | error error => exact .failed rfl (settled_of_empty empty)
  | ok ids =>
      obtain ⟨ssrc, streamId⟩ := ids
      dsimp only
      cases parsed : parseU32 ssrc with
      | none => exact .failed rfl (settled_of_empty empty)
      | some u32ssrc =>
          rw [Option.isSome_some, Bool.true_and]
          have same : (mediaConfig u32ssrc streamId custom).streamId = streamId := by
            cases custom <;> rfl
          have ends := tryNodes_ends conf
            ⟨deviceId, channelId, am, st, et, transMode, ssrc, mediaConfig u32ssrc streamId custom⟩
            world out.node out.close (streamMapOrderNode conf world.cache) empty
          rw [Setup.streamId, same] at ends
          exact ends

/-- A look for a stream enters none. -/
theorem enableInviteStream_cases (deviceId channelId : String) (am : AccessMode)
    (out : ReuseOutcome) (empty : world.entered = []) :
    (findsNone conf deviceId channelId am out world.cache = true ∧
      ∃ sent, enableInviteStream conf deviceId channelId am out world =
        (.ok none, ⟨behindLook deviceId channelId am out world.cache, sent, []⟩)) ∨
    (findsNone conf deviceId channelId am out world.cache = false ∧
      ∃ result sent, result ≠ .ok none ∧
        enableInviteStream conf deviceId channelId am out world =
          (result, ⟨world.cache, sent, []⟩)) := by
  obtain ⟨cache, sent, entered⟩ := world
  cases empty
  rw [enableInviteStream, findsNone, behindLook]
  dsimp only
  cases listed : deviceMapGetInviteInfo cache deviceId channelId am with
  | none => exact Or.inl ⟨rfl, sent, rfl⟩
  | some found =>
      obtain ⟨streamId, ssrc⟩ := found
      dsimp only
      rw [streamOnline]
      dsimp only
      cases queried : streamMapQueryNode cache streamId with
      | none => exact Or.inl ⟨rfl, sent, rfl⟩
      | some source =>
          obtain ⟨nodeName, proxyAddr⟩ := source
          dsimp only
          cases conf.nodeMap.lookup nodeName with
          | none => exact Or.inl ⟨rfl, sent, rfl⟩
          | some node =>
              cases client : out.client with
              | error error => exact Or.inr ⟨rfl, _, sent, by simp, rfl⟩
              | ok _ =>
                  cases parsed : parseU32 ssrc with
                  | none => exact Or.inr ⟨rfl, _, sent, by simp, rfl⟩
                  | some u32ssrc =>
                      cases online : out.online with
                      | error error => exact Or.inr ⟨rfl, _, _, by simp, rfl⟩
                      | ok data =>
                          by_cases isOnline : data = some true
                          · refine Or.inr ⟨?_, .ok (some (streamId, proxyAddr)),
                              sent ++ [.streamOnline nodeName u32ssrc streamId], by simp, ?_⟩
                            · simp [Except.toOption, isOnline]
                            · simp only [isOnline, if_true]
                              rfl
                          · refine Or.inl ⟨?_, sent ++ [.streamOnline nodeName u32ssrc streamId], ?_⟩
                            · simp [Except.isOk, Except.toBool, Except.toOption, isOnline]
                            · simp only [isOnline, if_false]
                              rfl

theorem Brought.not_settled (brought : Brought setup world) : ¬ Settled world := by
  intro settled
  obtain ⟨stream, held, playing⟩ := brought.playing
  have entered : setup ∈ world.entered := by
    rw [brought.entered]
    exact List.mem_singleton_self setup
  exact settled setup entered stream held playing

/-- The end of a download that set its stream up. -/
theorem recordDownload_ends (model : PlayBackModel) (out : Outcomes) {invited : Invited}
    (same : invited.streamId = setup.streamId) (brought : Brought setup world) :
    ((Request.download model).endsUncompensated out = true ∧
      ∃ error, recordDownload model out invited world = (.error error, world)) ∨
    ((Request.download model).endsUncompensated out = false ∧
      (Settled (recordDownload model out invited world).2 ∨
        ∃ reply, (recordDownload model out invited world).1 = .ok reply)) := by
  rw [recordDownload, gmvRecord, Request.endsUncompensated]
  cases out.localTime model.st with
  | none => exact Or.inl ⟨rfl, _, rfl⟩
  | some st =>
      cases out.localTime model.et with
      | none => exact Or.inl ⟨rfl, _, rfl⟩
      | some et =>
          refine Or.inr ⟨rfl, ?_⟩
          cases out.insertRecord with
          | ok _ => exact Or.inr ⟨_, rfl⟩
          | error error =>
              refine Or.inl fun other member => ?_
              have isSetup : other ∈ world.entered := member
              rw [brought.entered, List.mem_singleton] at isSetup
              rw [isSetup, ← same]
              exact (close_spec out.close invited.streamId world.cache).2

end Setups

/-! ## Requests -/

/-- What a request comes to, by whether it set a stream up and by whether a step behind the
stream failed without compensation. -/
inductive Finishes (setUp uncompensated : Bool) : Except GlobalError Reply × World → Prop where
  | without {result : Except GlobalError Reply} {next : World} (notUp : setUp = false)
      (settled : Settled next) : Finishes setUp uncompensated (result, next)
  | stranded {error : GlobalError} {next : World} {setup : Setup} (isUp : setUp = true)
      (fails : uncompensated = true) (brought : Brought setup next) :
      Finishes setUp uncompensated (.error error, next)
  | undone {result : Except GlobalError Reply} {next : World} (fine : uncompensated = false)
      (settled : Settled next) : Finishes setUp uncompensated (result, next)
  | served {reply : Reply} {next : World} (fine : uncompensated = false) :
      Finishes setUp uncompensated (.ok reply, next)

section Requests

variable {conf : StreamConf} {world : World}

theorem play_finishes (deviceId channelId : String) (am : AccessMode) (st et : UInt32)
    (transMode : Option TransMode) (custom : Option CustomMediaConfig) (out : Outcomes)
    (empty : world.entered = []) :
    Finishes (playSetsUp conf deviceId channelId am out world.cache)
      (!hasUrl (custom.map CustomMediaConfig.output))
      ((play conf deviceId channelId am st et transMode custom out world).1.map .info,
        (play conf deviceId channelId am st et transMode custom out world).2) := by
  rw [play, playSetsUp]
  rcases enableInviteStream_cases deviceId channelId am out.reuse empty with
    ⟨findsNone, sent, looked⟩ | ⟨finds, result, sent, found, looked⟩
  · rw [looked, findsNone, Bool.true_and]
    dsimp only
    cases ends : startInviteStream conf deviceId channelId am st et transMode custom out
      ⟨behindLook deviceId channelId am out.reuse world.cache, sent, []⟩ with
    | mk result last =>
        have startEnds := startInviteStream_ends conf
          ⟨behindLook deviceId channelId am out.reuse world.cache, sent, []⟩ deviceId channelId am st et
          transMode custom out rfl
        rw [ends] at startEnds
        cases startEnds with
        | failed fails settled => exact .without fails settled
        | @up setup invited _ holds same brought =>
            dsimp only
            have built := build_of_hasUrl invited.streamId invited.proxyAddr
              (custom.map CustomMediaConfig.output)
            split at built
            · next url =>
                obtain ⟨info, built⟩ := built
                rw [built]
                exact .served (by rw [url]; rfl)
            · next noUrl =>
                obtain ⟨error, built⟩ := built
                rw [built]
                exact .stranded holds (by simpa using noUrl) brought
  · rw [finds, Bool.false_and, looked]
    refine .without rfl (settled_of_empty ?_)
    cases result with
    | error error => rfl
    | ok reused =>
        cases reused with
        | none => exact absurd rfl found
        | some source => rfl

theorem playLive_finishes (model : PlayLiveModel) (out : Outcomes) (empty : world.entered = []) :
    Finishes ((Request.live model).setsUp conf out world.cache)
      ((Request.live model).endsUncompensated out) ((Request.live model).run conf out world) := by
  rw [Request.run, playLive, Request.setsUp, Request.endsUncompensated]
  cases registered : out.hasSession with
  | false => exact .without rfl (settled_of_empty empty)
  | true =>
      rw [Bool.true_and]
      exact play_finishes model.deviceId (model.channelId.getD model.deviceId) .live 0 0
        model.transMode model.customMediaConfig out empty

theorem playBack_finishes (model : PlayBackModel) (out : Outcomes) (empty : world.entered = []) :
    Finishes ((Request.back model).setsUp conf out world.cache)
      ((Request.back model).endsUncompensated out) ((Request.back model).run conf out world) := by
  rw [Request.run, playBack, Request.setsUp, Request.endsUncompensated, validatePlaybackRange]
  cases registered : out.hasSession with
  | false => exact .without rfl (settled_of_empty empty)
  | true =>
      rw [Bool.true_and]
      by_cases range : model.st < model.et
      · rw [if_pos range, decide_eq_true range, Bool.true_and]
        exact play_finishes model.deviceId (model.channelId.getD model.deviceId) .back model.st
          model.et model.transMode model.customMediaConfig out empty
      · rw [if_neg range, decide_eq_false range, Bool.false_and]
        exact .without rfl (settled_of_empty empty)

/-- The checks of a download. -/
theorem downloadPath_cases (model : PlayBackModel) (out : Outcomes) :
    (∃ path, downloadPath model out = .ok path ∧
      (out.runningRecord.toOption.any (fun running => !running) && decide (model.st < model.et) &&
        out.createDir.isOk && out.canonicalize.toOption.any Option.isSome) = true) ∨
    (∃ error, downloadPath model out = .error error ∧
      (out.runningRecord.toOption.any (fun running => !running) && decide (model.st < model.et) &&
        out.createDir.isOk && out.canonicalize.toOption.any Option.isSome) = false) := by
  rw [downloadPath, validatePlaybackRange]
  cases out.runningRecord with
  | error error => exact Or.inr ⟨error, rfl, rfl⟩
  | ok running =>
      cases running with
      | true => exact Or.inr ⟨_, rfl, rfl⟩
      | false =>
          by_cases range : model.st < model.et
          · rw [if_pos range, decide_eq_true range]
            cases out.createDir with
            | error error => exact Or.inr ⟨error, rfl, rfl⟩
            | ok _ =>
                cases out.canonicalize with
                | error error => exact Or.inr ⟨error, rfl, rfl⟩
                | ok path =>
                    cases path with
                    | none => exact Or.inr ⟨_, rfl, rfl⟩
                    | some path => exact Or.inl ⟨path, rfl, rfl⟩
          · rw [if_neg range, decide_eq_false range]
            exact Or.inr ⟨_, rfl, rfl⟩

theorem download_finishes (model : PlayBackModel) (out : Outcomes) (empty : world.entered = []) :
    Finishes ((Request.download model).setsUp conf out world.cache)
      ((Request.download model).endsUncompensated out)
      ((Request.download model).run conf out world) := by
  rw [Request.run, download, Request.setsUp]
  cases registered : out.hasSession with
  | false => exact .without rfl (settled_of_empty empty)
  | true =>
      rw [Bool.true_and]
      rcases downloadPath_cases model out with ⟨path, checked, passes⟩ | ⟨error, checked, refuses⟩
      · rw [checked, passes, Bool.true_and]
        dsimp only
        cases ends : startInviteStream conf model.deviceId (model.channelId.getD model.deviceId) .down
          (saturatingPred2 model.st) (saturatingSucc32 model.et) model.transMode
          (some (model.customMediaConfig.getD ⟨.localMp4 path, none, ⟨false⟩⟩)) out world with
        | mk result next =>
            have startEnds := startInviteStream_ends conf world model.deviceId
              (model.channelId.getD model.deviceId) .down (saturatingPred2 model.st)
              (saturatingSucc32 model.et) model.transMode
              (some (model.customMediaConfig.getD ⟨.localMp4 path, none, ⟨false⟩⟩)) out empty
            rw [ends] at startEnds
            cases startEnds with
            | failed fails settled => exact .without fails settled
            | @up setup invited _ holds same brought =>
                rw [if_pos rfl]
                dsimp only
                rcases recordDownload_ends model out same brought with
                  ⟨fails, error, recorded⟩ | ⟨fine, settled | ⟨reply, recorded⟩⟩
                · rw [recorded]
                  exact .stranded holds fails brought
                · exact .undone fine settled
                · rw [recorded]
                  exact .served fine
      · rw [checked, refuses, Bool.false_and]
        exact .without rfl (settled_of_empty empty)

theorem Request.run_finishes (conf : StreamConf) (request : Request) (out : Outcomes)
    (world : World) (empty : world.entered = []) :
    Finishes (request.setsUp conf out world.cache) (request.endsUncompensated out)
      (request.run conf out world) := by
  cases request with
  | live model => exact playLive_finishes model out empty
  | back model => exact playBack_finishes model out empty
  | download model => exact download_finishes model out empty

end Requests

/-- Whatever its steps come to, a request that fails leaves no stream that it entered
playing, except when it has set a stream up and then finds no URL for the output or cannot
convert a time. -/
theorem leavesNothing_iff_compensated (conf : StreamConf) (request : Request) (out : Outcomes)
    (cache : Cache) :
    LeavesNothing conf request out cache ↔
      ¬ (request.setsUp conf out cache = true ∧ request.endsUncompensated out = true) := by
  have finishes := request.run_finishes conf out (World.ofCache cache) rfl
  rw [LeavesNothing]
  cases ran : request.run conf out (World.ofCache cache) with
  | mk result next =>
      rw [ran] at finishes
      have sameCache : (World.ofCache cache).cache = cache := rfl
      rw [sameCache] at finishes
      cases finishes with
      | without notUp settled =>
          refine iff_of_true (fun _ _ => settled) fun ⟨isUp, _⟩ => ?_
          rw [notUp] at isUp
          cases isUp
      | @stranded error _ setup isUp fails brought =>
          exact iff_of_false (fun leaves => brought.not_settled (leaves error rfl))
            (not_not.mpr ⟨isUp, fails⟩)
      | undone fine settled =>
          refine iff_of_true (fun _ _ => settled) fun ⟨_, fails⟩ => ?_
          rw [fine] at fails
          cases fails
      | served fine =>
          refine iff_of_true (fun error failed => by cases failed) fun ⟨_, fails⟩ => ?_
          rw [fine] at fails
          cases fails

/-- A live stream as fragmented HLS: the media nodes make it, and no URL is built for it. -/
def hlsLive : Request :=
  .live ⟨"34020000001320000001", some "34020000001310000001", none, some ⟨.hlsFmp4, none, ⟨false⟩⟩⟩

/-- The request is refused with its stream playing. -/
theorem hlsLive_leaves_stream :
    ¬ LeavesNothing oneNode hlsLive (allWorks "0200000001" "a") Cache.init := by
  generalize isRun : hlsLive.run oneNode (allWorks "0200000001" "a") (World.ofCache Cache.init) = ended
  have ran : ended.1 = .error (.biz .unsupported "unsupported output") := by
    rw [← isRun]
    decide +kernel
  have entered : "a" ∈ ended.2.entered.map Setup.streamId := by
    rw [← isRun]
    decide +kernel
  have playing : (ended.2.cache.streamMap.lookup "a").map StreamTable.lifecycle = some .playing := by
    rw [← isRun]
    decide +kernel
  intro leaves
  rw [LeavesNothing, isRun] at leaves
  obtain ⟨setup, member, isId⟩ := List.mem_map.mp entered
  obtain ⟨stream, held, plays⟩ := Option.map_eq_some_iff.mp playing
  rw [← isId] at held
  exact leaves _ ran setup member stream held plays

end Gmv.Session.MediaRequest
