import Gmv.Library.Runs
import Gmv.Session.StreamRecession

/-!
# Streams that are shared

`play_live` and `play_back` hand out a stream that is up already when it has the device,
the channel and the mode of the request.  The range of a recording and the output that the
media node makes are not part of that key: the URL is built from the output that the
request asks for.  The module runs requests one after another, with closes, BYEs of the
peers and resets of devices between them, and tells which of them get a stream that was
set up for what they ask.
-/

namespace Gmv.Session.MediaRequest

open Gmv.Library
open Gmv.Stream.Register (MediaExt)

/-! ## Runs -/

/-- What a user asks for. -/
structure Ask where
  deviceId : String
  channelId : String
  am : AccessMode
  st : UInt32
  et : UInt32
  output : Option OutputKind
  deriving DecidableEq, Repr

def PlayLiveModel.ask (model : PlayLiveModel) : Ask :=
  ⟨model.deviceId, model.channelId.getD model.deviceId, .live, 0, 0,
    model.customMediaConfig.map CustomMediaConfig.output⟩

def PlayBackModel.ask (model : PlayBackModel) : Ask :=
  ⟨model.deviceId, model.channelId.getD model.deviceId, .back, model.st, model.et,
    model.customMediaConfig.map CustomMediaConfig.output⟩

/-- A request, or another event that closes or drops streams. -/
inductive Action where
  | live (model : PlayLiveModel) (out : Outcomes)
  | back (model : PlayBackModel) (out : Outcomes)
  | download (model : PlayBackModel) (out : Outcomes)
  | close (streamId : String) (outcome : CloseOutcome)
  | peerBye (callId : String)
  | reset (deviceId : String)

def step (conf : StreamConf) (world : World) : Action → Option StreamInfo × World
  | .live model out =>
      let (result, next) := playLive conf model out world
      (result.toOption, next)
  | .back model out =>
      let (result, next) := playBack conf model out world
      (result.toOption, next)
  | .download model out => (none, (download conf model out world).2)
  | .close streamId outcome => (none, world.close outcome streamId)
  | .peerBye callId =>
      (none, { world with cache := (world.cache.streamTerminatedByCallId callId).2 })
  | .reset deviceId => (none, { world with cache := world.cache.resetDeviceState deviceId })

/-! ## What was set up -/

/-- The last setup that entered a stream under an id. -/
def World.setupOf (world : World) (streamId : String) : Option Setup :=
  world.entered.reverse.find? fun setup => setup.streamId == streamId

/-- The output that the extension of a URL names. -/
def urlOutput (url : String) : Option OutputKind :=
  let extension := (url.toList.reverse.takeWhile (· != '.')).reverse
  if extension = ['f', 'm', 'p', '4'] then some .dashFmp4
  else if extension = ['f', 'l', 'v'] then some .httpFlv
  else if extension = ['m', 'p', 'd'] then some .dashMp4
  else none

/-- The setup was announced to a media node, with its configuration, and to the device. -/
def Announced (setup : Setup) (nodeName : String) (node : StreamNode) (sent : List Message) : Prop :=
  .streamInit nodeName setup.config ∈ sent ∧ .invite (setup.invite nodeName node) ∈ sent

/-- The setup is one for the device, channel and mode, and for the range of a recording. -/
structure Serves (setup : Setup) (ask : Ask) : Prop where
  deviceId : setup.deviceId = ask.deviceId
  channelId : setup.channelId = ask.channelId
  am : setup.am = ask.am
  range : ask.am = .back → setup.st = ask.st ∧ setup.et = ask.et

/-- The stream that is handed out was invited for what was asked, and its URL names the
output that the media node was told to make. -/
def Compatible (ask : Ask) (info : StreamInfo) (world : World) : Prop :=
  ∃ setup nodeName node, world.setupOf info.streamId = some setup ∧
    Announced setup nodeName node world.sent ∧ Serves setup ask ∧
    urlOutput info.url = some setup.config.output

def Handed (entry : Runs.Transition World Action (Option StreamInfo)) : Prop :=
  ∀ info, entry.result = some info →
    match entry.action with
    | .live model _ => Compatible model.ask info entry.after
    | .back model _ => Compatible model.ask info entry.after
    | _ => False

/-! ## When a stream is found -/

/-- A stream with the key of a request is listed, and its media node says that it is online. -/
structure FindsOnline (conf : StreamConf) (deviceId channelId : String) (am : AccessMode)
    (out : ReuseOutcome) (cache : Cache) (streamId : String) : Prop where
  listed : ∃ ssrc, deviceMapGetInviteInfo cache deviceId channelId am = some (streamId, ssrc) ∧
    (parseU32 ssrc).isSome
  node : ∃ nodeName proxyAddr, streamMapQueryNode cache streamId = some (nodeName, proxyAddr) ∧
    (conf.nodeMap.lookup nodeName).isSome
  client : out.client.isOk
  online : out.online.toOption = some (some true)

/-- A stream that is found was set up for the range that is asked, and its media node makes the
output that the URL is built for. -/
def SuitsFound (conf : StreamConf) (ask : Ask) (out : Outcomes) (world : World) : Prop :=
  ∀ streamId, FindsOnline conf ask.deviceId ask.channelId ask.am out.reuse world.cache streamId →
    hasUrl ask.output = true →
      ∃ setup, world.setupOf streamId = some setup ∧
        (ask.am = .back → setup.st = ask.st ∧ setup.et = ask.et) ∧
        setup.config.output = ask.output.getD .dashFmp4

def Suits (conf : StreamConf) (world : World) : Action → Prop
  | .live model out => out.hasSession = true → SuitsFound conf model.ask out world
  | .back model out =>
      out.hasSession = true → model.st < model.et → SuitsFound conf model.ask out world
  | _ => True

/-! ## What a run keeps -/

def Setup.key (setup : Setup) : String × String × AccessMode :=
  (setup.deviceId, setup.channelId, setup.am)

/-- Every listed stream is up, every stream that is up has the key of the last setup under its
id, and every setup was announced. -/
structure Sound (world : World) : Prop where
  linked : Linked world.cache
  streams : ∀ id stream, world.cache.streamMap.lookup id = some stream →
    ∃ setup, world.setupOf id = some setup ∧ key stream = setup.key
  announced : ∀ setup ∈ world.entered, ∃ nodeName node, Announced setup nodeName node world.sent

section Steps

variable {conf : StreamConf} {setup : Setup} {world : World} {cache : Cache}

theorem setupOf_entered (cache : Cache) (sent : List Message) (entered : List Setup) (setup : Setup)
    (id : String) :
    World.setupOf ⟨cache, sent, entered ++ [setup]⟩ id =
      if setup.streamId = id then some setup else World.setupOf ⟨cache, sent, entered⟩ id := by
  simp only [World.setupOf, List.reverse_append, List.reverse_singleton, List.singleton_append,
    List.find?_cons]
  by_cases same : setup.streamId = id
  · rw [if_pos same, beq_iff_eq.mpr same]
  · rw [if_neg same, beq_eq_false_iff_ne.mpr same]

theorem Announced.mono {nodeName : String} {node : StreamNode} {sent more : List Message}
    (announced : Announced setup nodeName node sent) : Announced setup nodeName node (sent ++ more) :=
  ⟨List.mem_append_left _ announced.1, List.mem_append_left _ announced.2⟩

theorem Sound.sends (sound : Sound world) (more : List Message) :
    Sound { world with sent := world.sent ++ more } := by
  refine ⟨sound.linked, sound.streams, fun setup member => ?_⟩
  obtain ⟨nodeName, node, announced⟩ := sound.announced setup member
  exact ⟨nodeName, node, announced.mono⟩

theorem Sound.send (sound : Sound world) (message : Message) : Sound (world.send message) :=
  sound.sends [message]

theorem Sound.recede (sound : Sound world) (recedes : Recedes world.cache cache) :
    Sound { world with cache := cache } := by
  refine ⟨recedes.linked sound.linked, fun id stream found => ?_, sound.announced⟩
  obtain ⟨old, held, same⟩ := recedes.key_eq found
  obtain ⟨setup, last, isKey⟩ := sound.streams id old held
  exact ⟨setup, last, same.trans isKey⟩

theorem Sound.close (sound : Sound world) (outcome : CloseOutcome) (streamId : String) :
    Sound (world.close outcome streamId) :=
  sound.recede (close_spec outcome streamId world.cache).1

theorem recedes_streamMapUpdateSource (cache : Cache) (streamId proxyAddr nodeName : String) :
    Recedes cache (cache.streamMapUpdateSource streamId proxyAddr nodeName).2 := by
  rw [Cache.streamMapUpdateSource]
  cases held : cache.streamMap.lookup streamId with
  | none => exact .refl
  | some stream => exact .change .refl held rfl rfl rfl fun playing => playing

/-- A stream that is up is listed. -/
theorem Linked.insert (linked : Linked cache) {deviceId channelId streamId : String}
    {am : AccessMode} {stream : StreamTable} (ssrc : String)
    (held : cache.streamMap.lookup streamId = some stream)
    (isKey : key stream = (deviceId, channelId, am)) :
    Linked (cache.deviceMapInsert deviceId channelId ssrc streamId am) := by
  intro other entry member
  rw [Cache.deviceMapInsert] at member
  by_cases same : other = deviceId
  · subst same
    simp only [Function.update_self, List.mem_append, List.mem_singleton] at member
    rcases member with old | isNew
    · exact linked other entry old
    · rw [isNew]
      exact ⟨stream, held, isKey⟩
  · simp only [Function.update_of_ne same] at member
    exact linked other entry member

/-- The world stays sound, and a stream that is returned was set up last under its id. -/
structure SetsUp (setup : Setup) (ended : Except GlobalError Invited × World) : Prop where
  sound : Sound ended.2
  last : ∀ invited, ended.1 = .ok invited → ended.2.setupOf invited.streamId = some setup

theorem SetsUp.failed (sound : Sound world) (error : GlobalError) :
    SetsUp setup (.error error, world) :=
  ⟨sound, fun invited isOk => by cases isOk⟩

theorem awaitStream_setsUp (sound : Sound world) (nodeName : String) (out : NodeOutcome)
    (closing : CloseOutcome) {stream : StreamTable}
    (held : world.cache.streamMap.lookup setup.streamId = some stream)
    (last : world.setupOf setup.streamId = some setup) :
    SetsUp setup (awaitStream setup nodeName out closing world) := by
  rw [awaitStream]
  cases out.heard with
  | none => exact .failed ((sound.send _).close closing setup.streamId) _
  | some proxyAddr =>
      have updates := recedes_streamMapUpdateSource world.cache setup.streamId proxyAddr nodeName
      have updated := sound.recede updates
      have listed : ∃ now,
          (world.cache.streamMapUpdateSource setup.streamId proxyAddr nodeName).2.streamMap.lookup
            setup.streamId = some now := by
        rw [Cache.streamMapUpdateSource, held]
        exact ⟨_, AList.lookup_insert _⟩
      obtain ⟨now, isNow⟩ := listed
      obtain ⟨other, isOther, isKey⟩ := updated.streams setup.streamId now isNow
      have same : some setup = some other := last.symm.trans isOther
      cases same
      have linked := updated.linked.insert setup.ssrc isNow isKey
      refine ⟨⟨linked, updated.streams, updated.announced⟩, fun invited isOk => ?_⟩
      cases isOk
      exact last

/-- A setup that was announced enters its stream under an id that is free. -/
theorem Sound.enter (sound : Sound world) {nodeName : String} {node : StreamNode}
    (announced : Announced setup nodeName node world.sent)
    (free : world.cache.streamMap.lookup setup.streamId = none) (stream : StreamTable)
    (isKey : key stream = setup.key) :
    Sound { world with
      cache := { world.cache with streamMap := world.cache.streamMap.insert setup.streamId stream }
      entered := world.entered ++ [setup] } := by
  refine ⟨fun deviceId entry member => ?_, fun id other found => ?_, fun other member => ?_⟩
  · obtain ⟨listed, held, same⟩ := sound.linked deviceId entry member
    have differs : entry.streamId ≠ setup.streamId := by
      intro isId
      rw [isId, free] at held
      cases held
    exact ⟨listed, (AList.lookup_insert_ne differs).trans held, same⟩
  · rw [setupOf_entered]
    by_cases isId : setup.streamId = id
    · subst isId
      rw [AList.lookup_insert, Option.some.injEq] at found
      rw [if_pos rfl, ← found]
      exact ⟨setup, rfl, isKey⟩
    · rw [AList.lookup_insert_ne (Ne.symm isId)] at found
      rw [if_neg isId]
      exact sound.streams id other found
  · rcases List.mem_append.mp member with old | isNew
    · exact sound.announced other old
    · rw [List.mem_singleton.mp isNew]
      exact ⟨nodeName, node, announced⟩

theorem enterStream_setsUp (sound : Sound world) (nodeName callId : String) (node : StreamNode)
    (ext : MediaExt) (out : NodeOutcome) (closing : CloseOutcome)
    (announced : Announced setup nodeName node world.sent) :
    SetsUp setup (enterStream setup nodeName callId ext out closing world) := by
  have told := sound.send (.streamInitExt nodeName setup.config.ssrc ext)
  have stopped := (told.send (setup.stop callId)).send
    (.closeOutput nodeName setup.config.ssrc (outputKindToEnum setup.config.output))
  rw [enterStream]
  cases out.streamInitExt with
  | error error => exact .failed stopped error
  | ok resp =>
      dsimp only
      split
      · exact .failed stopped _
      · rw [Cache.streamMapInsertInfo, Cache.streamMapInsert]
        cases held : (world.send (.streamInitExt nodeName setup.config.ssrc ext)).cache.streamMap.lookup
            setup.streamId with
        | some stream => exact .failed stopped _
        | none =>
            have entered := told.enter announced.mono held
              ⟨setup.deviceId, setup.channelId, "", nodeName, callId, 1, setup.am, setup.config.ssrc,
                false, .playing⟩ rfl
            refine awaitStream_setsUp entered nodeName out closing (AList.lookup_insert _) ?_
            rw [setupOf_entered, if_pos rfl]

theorem inviteStream_setsUp (sound : Sound world) (nodeName : String) (node : StreamNode)
    (out : NodeOutcome) (closing : CloseOutcome)
    (told : .streamInit nodeName setup.config ∈ world.sent) :
    SetsUp setup (inviteStream setup nodeName node out closing world) := by
  have invited := sound.send (.invite (setup.invite nodeName node))
  rw [inviteStream]
  cases out.invite with
  | error error => exact .failed (invited.send _) error
  | ok accepted =>
      exact enterStream_setsUp invited nodeName accepted.1 node accepted.2 out closing
        ⟨List.mem_append_left _ told, List.mem_append_right _ (List.mem_singleton_self _)⟩

theorem tryNodes_setsUp (conf : StreamConf) (sound : Sound world) (out : String → NodeOutcome)
    (closing : CloseOutcome) (nodes : List (UInt16 × String)) :
    SetsUp setup (tryNodes conf setup out closing world nodes) := by
  induction nodes generalizing world with
  | nil => exact .failed sound _
  | cons entry rest ih =>
      rw [tryNodes]
      cases conf.nodeMap.lookup entry.2 with
      | none => exact ih sound
      | some node =>
          cases (out entry.2).client with
          | error error => exact .failed sound error
          | ok _ =>
              have told := sound.send (.streamInit entry.2 setup.config)
              dsimp only
              split
              · exact inviteStream_setsUp told entry.2 node (out entry.2) closing
                  (List.mem_append_right _ (List.mem_singleton_self _))
              · exact ih told

/-- What `start_invite_stream` sets up is what it was called for. -/
theorem startInviteStream_spec (conf : StreamConf) (sound : Sound world) (deviceId channelId : String)
    (am : AccessMode) (st et : UInt32) (transMode : Option TransMode)
    (custom : Option CustomMediaConfig) (out : Outcomes) :
    Sound (startInviteStream conf deviceId channelId am st et transMode custom out world).2 ∧
      ∀ invited,
        (startInviteStream conf deviceId channelId am st et transMode custom out world).1 = .ok invited →
        ∃ setup,
          (startInviteStream conf deviceId channelId am st et transMode custom out world).2.setupOf
            invited.streamId = some setup ∧
          setup.key = (deviceId, channelId, am) ∧ setup.st = st ∧ setup.et = et ∧
          setup.config.output = (custom.map CustomMediaConfig.output).getD .dashFmp4 := by
  rw [startInviteStream]
  cases out.ssrcStreamId with
  | error error => exact ⟨sound, fun invited isOk => by cases isOk⟩
  | ok ids =>
      dsimp only
      cases parseU32 ids.1 with
      | none => exact ⟨sound, fun invited isOk => by cases isOk⟩
      | some u32ssrc =>
          dsimp only
          generalize isSetup : (⟨deviceId, channelId, am, st, et, transMode, ids.1,
            mediaConfig u32ssrc ids.2 custom⟩ : Setup) = setup
          have setsUp : SetsUp setup _ := tryNodes_setsUp conf sound out.node out.close
            (streamMapOrderNode conf world.cache)
          refine ⟨setsUp.sound, fun invited isOk => ⟨setup, setsUp.last invited isOk, ?_⟩⟩
          subst isSetup
          cases custom <;> exact ⟨rfl, rfl, rfl, rfl⟩

/-! ## What a request finds -/

/-- What looking for a stream comes to. -/
inductive Looks (conf : StreamConf) (deviceId channelId : String) (am : AccessMode)
    (out : ReuseOutcome) (world : World) : Except GlobalError (Option (String × String)) × World → Prop
  | found {streamId proxyAddr : String} {sent : List Message}
      (finds : FindsOnline conf deviceId channelId am out world.cache streamId) :
      Looks conf deviceId channelId am out world
        (.ok (some (streamId, proxyAddr)), ⟨world.cache, world.sent ++ sent, world.entered⟩)
  | without {result : Except GlobalError (Option (String × String))} {cache : Cache}
      {sent : List Message}
      (missing : ∀ streamId, ¬ FindsOnline conf deviceId channelId am out world.cache streamId)
      (recedes : Recedes world.cache cache) (nothing : ∀ found, result ≠ .ok (some found)) :
      Looks conf deviceId channelId am out world (result, ⟨cache, world.sent ++ sent, world.entered⟩)

theorem Looks.quiet {deviceId channelId : String} {am : AccessMode} {out : ReuseOutcome}
    {result : Except GlobalError (Option (String × String))}
    (missing : ∀ streamId, ¬ FindsOnline conf deviceId channelId am out world.cache streamId)
    (recedes : Recedes world.cache cache) (nothing : ∀ found, result ≠ .ok (some found)) :
    Looks conf deviceId channelId am out world (result, { world with cache := cache }) := by
  have looks : Looks conf deviceId channelId am out world
      (result, ⟨cache, world.sent ++ [], world.entered⟩) := .without missing recedes nothing
  rw [List.append_nil] at looks
  exact looks

theorem enableInviteStream_looks (conf : StreamConf) (deviceId channelId : String)
    (am : AccessMode) (out : ReuseOutcome) (world : World) :
    Looks conf deviceId channelId am out world
      (enableInviteStream conf deviceId channelId am out world) := by
  rw [enableInviteStream]
  cases listed : deviceMapGetInviteInfo world.cache deviceId channelId am with
  | none =>
      refine .quiet (fun streamId finds => ?_) .refl (by simp)
      obtain ⟨ssrc, isListed, _⟩ := finds.listed
      rw [listed] at isListed
      cases isListed
  | some info =>
      obtain ⟨streamId, ssrc⟩ := info
      have same : ∀ other, FindsOnline conf deviceId channelId am out world.cache other →
          other = streamId ∧ (parseU32 ssrc).isSome := by
        intro other finds
        obtain ⟨otherSsrc, isListed, parses⟩ := finds.listed
        rw [listed] at isListed
        cases isListed
        exact ⟨rfl, parses⟩
      have closes := (close_spec out.close streamId world.cache).1
      dsimp only
      rw [streamOnline]
      cases queried : streamMapQueryNode world.cache streamId with
      | none =>
          refine .quiet (fun other finds => ?_) closes (by simp)
          obtain ⟨nodeName, proxyAddr, isQueried, _⟩ := finds.node
          rw [(same other finds).1, queried] at isQueried
          cases isQueried
      | some source =>
          obtain ⟨nodeName, proxyAddr⟩ := source
          dsimp only
          have onNode : ∀ other, FindsOnline conf deviceId channelId am out world.cache other →
              (conf.nodeMap.lookup nodeName).isSome := by
            intro other finds
            obtain ⟨otherNode, otherProxy, isQueried, known⟩ := finds.node
            rw [(same other finds).1, queried] at isQueried
            cases isQueried
            exact known
          cases known : conf.nodeMap.lookup nodeName with
          | none =>
              refine .quiet (fun other finds => ?_) closes (by simp)
              have isKnown := onNode other finds
              rw [known] at isKnown
              cases isKnown
          | some node =>
              cases client : out.client with
              | error error =>
                  refine .quiet (fun other finds => ?_) .refl (by simp)
                  have isOk := finds.client
                  rw [client] at isOk
                  cases isOk
              | ok _ =>
                  cases parsed : parseU32 ssrc with
                  | none =>
                      refine .quiet (fun other finds => ?_) .refl (by simp)
                      have parses := (same other finds).2
                      rw [parsed] at parses
                      cases parses
                  | some u32ssrc =>
                      cases online : out.online with
                      | error error =>
                          refine .without (fun other finds => ?_) .refl (by simp)
                          have isOnline := finds.online
                          rw [online] at isOnline
                          cases isOnline
                      | ok data =>
                          dsimp only
                          by_cases isOnline : data = some true
                          · rw [if_pos isOnline]
                            refine .found ⟨⟨ssrc, listed, ?_⟩, ⟨nodeName, proxyAddr, queried, ?_⟩, ?_, ?_⟩
                            · rw [parsed]; rfl
                            · rw [known]; rfl
                            · rw [client]; rfl
                            · rw [online, isOnline]; rfl
                          · rw [if_neg isOnline]
                            refine .without (fun other finds => ?_) closes (by simp)
                            have saysOnline := finds.online
                            rw [online] at saysOnline
                            exact isOnline (Option.some.inj saysOnline)

theorem FindsOnline.unique {deviceId channelId streamId other : String} {am : AccessMode}
    {out : ReuseOutcome} (finds : FindsOnline conf deviceId channelId am out cache streamId)
    (also : FindsOnline conf deviceId channelId am out cache other) : other = streamId := by
  obtain ⟨ssrc, listed, _⟩ := finds.listed
  obtain ⟨otherSsrc, otherListed, _⟩ := also.listed
  rw [listed, Option.some.injEq, Prod.mk.injEq] at otherListed
  exact otherListed.1.symm

/-- A stream that is found was set up with the key that is asked for. -/
theorem Sound.found (sound : Sound world) {deviceId channelId streamId : String} {am : AccessMode}
    {out : ReuseOutcome} (finds : FindsOnline conf deviceId channelId am out world.cache streamId) :
    ∃ setup, world.setupOf streamId = some setup ∧ setup.key = (deviceId, channelId, am) := by
  obtain ⟨ssrc, listed, _⟩ := finds.listed
  obtain ⟨entry, member, matching⟩ := List.exists_of_findSome?_eq_some listed
  rw [Option.ite_none_right_eq_some, Bool.and_eq_true, beq_iff_eq, beq_iff_eq, Option.some.injEq,
    Prod.mk.injEq] at matching
  obtain ⟨⟨onChannel, inMode⟩, isId, _⟩ := matching
  obtain ⟨stream, held, isKey⟩ := sound.linked deviceId entry member
  rw [isId] at held
  obtain ⟨setup, last, sameKey⟩ := sound.streams streamId stream held
  refine ⟨setup, last, ?_⟩
  rw [← sameKey, isKey, onChannel, inMode]

/-- The extension behind the last dot of a URL. -/
theorem extension_of_append (stem suffix : String) (extension : List Char)
    (isSuffix : suffix.toList = '.' :: extension) (noDot : ∀ char ∈ extension, (char != '.') = true) :
    ((stem ++ suffix).toList.reverse.takeWhile (· != '.')).reverse = extension := by
  rw [String.toList_append, List.reverse_append, isSuffix, List.reverse_cons, List.append_assoc,
    List.takeWhile_append_of_pos fun char member => noDot char (List.mem_reverse.mp member)]
  simp

theorem urlOutput_of_build {streamId proxyAddr : String} {output : Option OutputKind}
    {info : StreamInfo} (built : StreamInfo.build streamId proxyAddr output = .ok info) :
    hasUrl output = true ∧ info.streamId = streamId ∧
      urlOutput info.url = some (output.getD .dashFmp4) := by
  have fmp4 := extension_of_append (proxyAddr ++ "/play/" ++ streamId) ".fmp4"
    ['f', 'm', 'p', '4'] rfl (by simp)
  have flv := extension_of_append (proxyAddr ++ "/play/" ++ streamId) ".flv"
    ['f', 'l', 'v'] rfl (by simp)
  have mpd := extension_of_append (proxyAddr ++ "/play/" ++ streamId) ".mpd"
    ['m', 'p', 'd'] rfl (by simp)
  cases output with
  | none =>
      cases built
      refine ⟨rfl, rfl, ?_⟩
      rw [urlOutput, fmp4]
      rfl
  | some kind =>
      cases kind with
      | dashFmp4 =>
          cases built
          refine ⟨rfl, rfl, ?_⟩
          rw [urlOutput, fmp4]
          rfl
      | httpFlv =>
          cases built
          refine ⟨rfl, rfl, ?_⟩
          rw [urlOutput, flv]
          rfl
      | dashMp4 =>
          cases built
          refine ⟨rfl, rfl, ?_⟩
          rw [urlOutput, mpd]
          rfl
      | _ => cases built

theorem Sound.compatible (sound : Sound world) {setup : Setup} {info : StreamInfo}
    (last : world.setupOf info.streamId = some setup) {ask : Ask}
    (isKey : setup.key = (ask.deviceId, ask.channelId, ask.am))
    (range : ask.am = .back → setup.st = ask.st ∧ setup.et = ask.et)
    (output : urlOutput info.url = some setup.config.output) : Compatible ask info world := by
  have entered : setup ∈ world.entered := List.mem_reverse.mp (List.mem_of_find?_eq_some last)
  obtain ⟨nodeName, node, announced⟩ := sound.announced setup entered
  rw [Setup.key, Prod.mk.injEq, Prod.mk.injEq] at isKey
  exact ⟨setup, nodeName, node, last, announced, ⟨isKey.1, isKey.2.1, isKey.2.2, range⟩, output⟩

/-- The common end of `play_live` and `play_back`: it keeps the world sound, and what it hands
out is compatible exactly when a stream that it finds suits. -/
theorem play_spec (conf : StreamConf) (sound : Sound world) (deviceId channelId : String)
    (am : AccessMode) (st et : UInt32) (transMode : Option TransMode)
    (custom : Option CustomMediaConfig) (out : Outcomes) :
    Sound (play conf deviceId channelId am st et transMode custom out world).2 ∧
      ((∀ info, (play conf deviceId channelId am st et transMode custom out world).1 = .ok info →
          Compatible ⟨deviceId, channelId, am, st, et, custom.map CustomMediaConfig.output⟩ info
            (play conf deviceId channelId am st et transMode custom out world).2) ↔
        SuitsFound conf ⟨deviceId, channelId, am, st, et, custom.map CustomMediaConfig.output⟩ out
          world) := by
  have looks := enableInviteStream_looks conf deviceId channelId am out.reuse world
  rw [play]
  generalize enableInviteStream conf deviceId channelId am out.reuse world = look at looks
  cases looks with
  | @found streamId proxyAddr sent finds =>
      obtain ⟨setup, last, isKey⟩ := sound.found finds
      refine ⟨sound.sends sent, fun handed other otherFinds url => ?_, fun suits info built => ?_⟩
      · have built := build_of_hasUrl streamId proxyAddr (custom.map CustomMediaConfig.output)
        rw [if_pos url] at built
        obtain ⟨info, built⟩ := built
        obtain ⟨_, isId, isOutput⟩ := urlOutput_of_build built
        obtain ⟨serving, _, _, isLast, _, serves, named⟩ := handed info built
        rw [isId] at isLast
        rw [finds.unique otherFinds]
        refine ⟨serving, isLast, serves.range, ?_⟩
        rw [isOutput, Option.some.injEq] at named
        exact named.symm
      · obtain ⟨url, isId, isOutput⟩ := urlOutput_of_build built
        obtain ⟨serving, isLast, range, output⟩ := suits streamId finds url
        rw [last, Option.some.injEq] at isLast
        rw [← isLast] at range output
        rw [← isId] at last
        refine (sound.sends sent).compatible last isKey range ?_
        rw [isOutput, output]
  | @without result cache sent missing recedes nothing =>
      have next := (sound.sends sent).recede recedes
      have suits : SuitsFound conf
          ⟨deviceId, channelId, am, st, et, custom.map CustomMediaConfig.output⟩ out world :=
        fun streamId finds => absurd finds (missing streamId)
      cases result with
      | error error => exact ⟨next, iff_of_true (fun info isOk => by cases isOk) suits⟩
      | ok found =>
          cases found with
          | some found => exact absurd rfl (nothing found)
          | none =>
              obtain ⟨sound, setsUp⟩ := startInviteStream_spec conf next deviceId channelId am st et
                transMode custom out
              dsimp only
              cases started : startInviteStream conf deviceId channelId am st et transMode custom out
                ⟨cache, world.sent ++ sent, world.entered⟩ with
              | mk ended last =>
                  rw [started] at sound setsUp
                  cases ended with
                  | error error => exact ⟨sound, iff_of_true (fun info isOk => by cases isOk) suits⟩
                  | ok invited =>
                      refine ⟨sound, iff_of_true (fun info built => ?_) suits⟩
                      obtain ⟨_, isId, isOutput⟩ := urlOutput_of_build built
                      obtain ⟨setup, isLast, isKey, isSt, isEt, output⟩ := setsUp invited rfl
                      rw [← isId] at isLast
                      refine sound.compatible isLast isKey (fun _ => ⟨isSt, isEt⟩) ?_
                      rw [isOutput, output]

theorem playLive_spec (conf : StreamConf) (sound : Sound world) (model : PlayLiveModel)
    (out : Outcomes) :
    Sound (playLive conf model out world).2 ∧
      ((∀ info, (playLive conf model out world).1 = .ok info →
          Compatible model.ask info (playLive conf model out world).2) ↔
        Suits conf world (.live model out)) := by
  rw [playLive, Suits]
  cases out.hasSession with
  | false => exact ⟨sound, iff_of_true (fun info isOk => by cases isOk) fun online => by cases online⟩
  | true =>
      have spec := play_spec conf sound model.deviceId (model.channelId.getD model.deviceId) .live 0 0
        model.transMode model.customMediaConfig out
      refine ⟨spec.1, spec.2.trans ?_⟩
      rw [forall_prop_of_true rfl]
      rfl

theorem playBack_spec (conf : StreamConf) (sound : Sound world) (model : PlayBackModel)
    (out : Outcomes) :
    Sound (playBack conf model out world).2 ∧
      ((∀ info, (playBack conf model out world).1 = .ok info →
          Compatible model.ask info (playBack conf model out world).2) ↔
        Suits conf world (.back model out)) := by
  rw [playBack, Suits, validatePlaybackRange]
  cases out.hasSession with
  | false => exact ⟨sound, iff_of_true (fun info isOk => by cases isOk) fun online => by cases online⟩
  | true =>
      by_cases range : model.st < model.et
      · have spec := play_spec conf sound model.deviceId (model.channelId.getD model.deviceId) .back
          model.st model.et model.transMode model.customMediaConfig out
        rw [if_pos range]
        refine ⟨spec.1, spec.2.trans ?_⟩
        rw [forall_prop_of_true rfl, forall_prop_of_true range]
        rfl
      · rw [if_neg range]
        exact ⟨sound, iff_of_true (fun info isOk => by cases isOk) fun _ valid => absurd valid range⟩

theorem download_sound (conf : StreamConf) (sound : Sound world) (model : PlayBackModel)
    (out : Outcomes) : Sound (download conf model out world).2 := by
  rw [download]
  split
  · cases downloadPath model out with
    | error error => exact sound
    | ok path =>
        dsimp only
        obtain ⟨next, _⟩ := startInviteStream_spec conf sound model.deviceId
          (model.channelId.getD model.deviceId) .down (saturatingPred2 model.st)
          (saturatingSucc32 model.et) model.transMode
          (some (model.customMediaConfig.getD ⟨.localMp4 path, none, ⟨false⟩⟩)) out
        cases started : startInviteStream conf model.deviceId (model.channelId.getD model.deviceId)
          .down (saturatingPred2 model.st) (saturatingSucc32 model.et) model.transMode
          (some (model.customMediaConfig.getD ⟨.localMp4 path, none, ⟨false⟩⟩)) out world with
        | mk ended last =>
            rw [started] at next
            cases ended with
            | error error => exact next
            | ok invited =>
                dsimp only
                rw [recordDownload]
                cases gmvRecord model out invited with
                | error error => exact next
                | ok record =>
                    cases out.insertRecord with
                    | ok _ => exact next.send _
                    | error error => exact (next.send _).close out.close invited.streamId
  · exact sound

end Steps

theorem toOption_eq_some {result : Except GlobalError StreamInfo} {info : StreamInfo} :
    result.toOption = some info ↔ result = .ok info := by
  cases result <;> simp [Except.toOption]

theorem handed_of_none {entry : Runs.Transition World Action (Option StreamInfo)}
    (nothing : entry.result = none) : Handed entry := by
  intro info isInfo
  rw [nothing] at isInfo
  cases isInfo

/-- One action keeps the world sound, and it hands out a compatible stream exactly when the
stream that it finds suits. -/
theorem step_spec (conf : StreamConf) (world : World) (action : Action) (sound : Sound world) :
    Sound (step conf world action).2 ∧
      (Handed (Runs.transition (step conf) world action) ↔ Suits conf world action) := by
  cases action with
  | live model out =>
      obtain ⟨next, handed⟩ := playLive_spec conf sound model out
      rw [← handed]
      exact ⟨next, forall_congr' fun info => imp_congr_left toOption_eq_some⟩
  | back model out =>
      obtain ⟨next, handed⟩ := playBack_spec conf sound model out
      rw [← handed]
      exact ⟨next, forall_congr' fun info => imp_congr_left toOption_eq_some⟩
  | download model out =>
      exact ⟨download_sound conf sound model out, iff_of_true (handed_of_none rfl) trivial⟩
  | close streamId outcome =>
      exact ⟨sound.close outcome streamId, iff_of_true (handed_of_none rfl) trivial⟩
  | peerBye callId =>
      exact ⟨sound.recede (recedes_streamTerminatedByCallId world.cache callId),
        iff_of_true (handed_of_none rfl) trivial⟩
  | reset deviceId =>
      exact ⟨sound.recede (recedes_resetDeviceState sound.linked deviceId),
        iff_of_true (handed_of_none rfl) trivial⟩

theorem sound_init : Sound (World.ofCache Cache.init) := by
  refine ⟨fun deviceId entry member => ?_, fun id stream found => ?_, fun setup member => ?_⟩
  · cases member
  · cases found
  · cases member

/-- In every sequence of requests, with closes, BYEs and resets between them: every stream that
is handed out was invited for the device, channel, mode and range that are asked, and its URL
names the output that the media node was told to make, exactly when every request that finds a
stream online asks for the range and for the output that it was set up with. -/
theorem handed_compatible_iff_suits (conf : StreamConf) (actions : List Action) :
    (∀ entry ∈ Runs.run (step conf) (World.ofCache Cache.init) actions, Handed entry) ↔
      ∀ entry ∈ Runs.run (step conf) (World.ofCache Cache.init) actions,
        Suits conf entry.before entry.action := by
  have sound := Runs.invariant_run Sound (fun _ _ => True)
    (fun world action sound _ => (step_spec conf world action sound).1) sound_init
    fun entry (_ : entry ∈ Runs.run (step conf) (World.ofCache Cache.init) actions) => trivial
  refine forall₂_congr fun entry member => ?_
  have spec := (step_spec conf entry.before entry.action (sound entry member).1).2
  rw [← Runs.mem_run member] at spec
  exact spec

/-- The recording of one hour of a channel. -/
def hour (st : UInt32) : PlayBackModel :=
  ⟨"34020000001320000001", some "34020000001310000001", none, none, st, st + 3600⟩

/-- Two users ask for different hours of one channel. -/
def twoHours : List Action :=
  [.back (hour 1704067200) (allWorks "1200000001" "a"),
    .back (hour 1704153600) (allWorks "1200000002" "b")]

/-- The second user gets the recording of the first. -/
theorem twoHours_share_stream :
    ¬ ∀ entry ∈ Runs.run (step oneNode) (World.ofCache Cache.init) twoHours, Handed entry := by
  have second : Runs.transition (step oneNode)
      (Runs.final (step oneNode) (World.ofCache Cache.init) (twoHours.take 1))
      (.back (hour 1704153600) (allWorks "1200000002" "b")) ∈
        Runs.run (step oneNode) (World.ofCache Cache.init) twoHours := by
    simp [twoHours]
  intro handed
  obtain ⟨setup, nodeName, node, last, _, serves, _⟩ := handed _ second
    ⟨"a", "10.0.0.9:30000/play/a.fmp4"⟩ (by decide +kernel)
  have setUp : ((step oneNode (Runs.final (step oneNode) (World.ofCache Cache.init) (twoHours.take 1))
      (.back (hour 1704153600) (allWorks "1200000002" "b"))).2.setupOf "a").map Setup.st =
        some 1704067200 := by decide +kernel
  have isLast : (step oneNode (Runs.final (step oneNode) (World.ofCache Cache.init)
      (twoHours.take 1)) (.back (hour 1704153600) (allWorks "1200000002" "b"))).2.setupOf "a" =
        some setup := last
  rw [isLast, Option.map_some, Option.some.injEq] at setUp
  have asked := (serves.range rfl).1
  rw [setUp] at asked
  exact absurd asked (by decide)

end Gmv.Session.MediaRequest
