import Gmv.Library.Tenancy
import Gmv.Stream.MediaRegister

/-!
# The pairing of channels and metadata

Two maps hold a stream: the channel under its ssrc names the stream id, and the metadata
under its stream id names the ssrc.  The events that close a stream carry both ids as
they were when the event was issued, and their answers come at any time and in any
order.
-/

namespace Gmv.Stream.Media

open Gmv.Library

/-- The registry and the events whose answer is still to come. -/
structure State where
  inner : Inner
  events : List OutEvent

def init (inWaitTimeout : UInt8) : State := ⟨.empty inWaitTimeout, []⟩

/-- The operations on the registry.  The flags say whether the scheduler takes a timer,
whether the event queue has room and whether the bus of the stream takes a subscription. -/
inductive Action where
  | initMedia (config : MediaConfig) (accepts : Bool)
  | initMediaExt (ssrc : UInt32) (mediaExt : Register.MediaExt)
  | refresh (ssrc : UInt32)
  | sendStreamConfig (rtpType : UInt8) (streamId : String) (subscribed room : Bool)
  | rtpTimeout (ssrc : UInt32) (accepts room : Bool)
  | streamIdle (streamId : String) (playType : OutputEnum) (userCount : UInt32) (room : Bool)
  | answerInTimeout (index : Nat) (answer : Option (Resp InTimeoutEventRes)) (accepts : Bool)
  | answerIdle (index : Nat) (answer : Option (Resp OutputEventRes))
  deriving DecidableEq, Repr

namespace State

variable (state : State)

/-- `try_send`. -/
def trySend (event : Option OutEvent) (room : Bool) : State :=
  if room then { state with events := state.events ++ event.toList } else state

/-- The handler of the event is done with it. -/
def answered (index : Nat) (inner : Inner) : State := ⟨inner, state.events.eraseIdx index⟩

end State

def step (state : State) : Action → Unit × State
  | .initMedia config accepts => ((), { state with inner := state.inner.initMedia config accepts })
  | .initMediaExt ssrc mediaExt => ((), { state with inner := state.inner.initMediaExt ssrc mediaExt })
  | .refresh ssrc => ((), { state with inner := state.inner.refresh ssrc })
  | .sendStreamConfig rtpType streamId subscribed room =>
      let (event, inner) := state.inner.sendStreamConfig rtpType streamId subscribed
      ((), State.trySend { state with inner := inner } event room)
  | .rtpTimeout ssrc accepts room =>
      if state.inner.timeSchedule ssrc then
        let (event, inner) := (state.inner.disarm ssrc).handleRtpInTimeout ssrc accepts
        ((), State.trySend { state with inner := inner } event room)
      else ((), state)
  | .streamIdle streamId playType userCount room =>
      match state.inner.streamMetadataMap streamId with
      | none => ((), state)
      | some metadata =>
          ((), state.trySend (some (.streamIdle ⟨⟨metadata.ssrc, streamId⟩, playType, userCount⟩)) room)
  | .answerInTimeout index answer accepts =>
      match state.events[index]? with
      | some (.streamInTimeout info) =>
          ((), state.answered index
            (state.inner.closeStreamByInput info (inTimeoutRes answer) accepts))
      | _ => ((), state)
  | .answerIdle index answer =>
      match state.events[index]? with
      | some (.streamIdle info) =>
          ((), state.answered index (state.inner.closeStreamByOutput info (outputRes info answer)))
      | _ => ((), state)

/-- The stream that the channel of an ssrc belongs to. -/
def Inner.streamOf (inner : Inner) (ssrc : UInt32) : Option String :=
  (inner.rtpGatewayMap ssrc).map RtpChannel.streamId

/-- The ssrc that the metadata of a stream names. -/
def Inner.ssrcOf (inner : Inner) (streamId : String) : Option UInt32 :=
  (inner.streamMetadataMap streamId).map StreamMetadata.ssrc

def Inner.Paired (inner : Inner) : Prop :=
  ∀ ssrc streamId, inner.streamOf ssrc = some streamId ↔ inner.ssrcOf streamId = some ssrc

/-- The stream that an answer is about, and whether the answer closes it. -/
structure Reply where
  info : BaseStreamInfo
  closes : Bool
  deriving DecidableEq, Repr

/-- The reply that an action handles. -/
def reply (state : State) : Action → Option Reply
  | .answerInTimeout index answer _ =>
      match state.events[index]? with
      | some (.streamInTimeout info) => some ⟨info, inTimeoutRes answer == .closeAll⟩
      | _ => none
  | .answerIdle index answer =>
      match state.events[index]? with
      | some (.streamIdle info) => some ⟨info.baseStreamInfo, outputRes info answer == .closeAll⟩
      | _ => none
  | _ => none

/-- A close reply takes nothing away but the channel and the metadata of the stream that
it was issued for. -/
def RemovesOwn (entry : Runs.Transition State Action Unit) : Prop :=
  ∀ handled ∈ reply entry.before entry.action,
    (∀ ssrc streamId, entry.before.inner.streamOf ssrc = some streamId →
      entry.after.inner.streamOf ssrc ≠ some streamId →
        ssrc = handled.info.ssrc ∧ streamId = handled.info.streamId) ∧
    (∀ streamId ssrc, entry.before.inner.ssrcOf streamId = some ssrc →
      entry.after.inner.ssrcOf streamId ≠ some ssrc →
        ssrc = handled.info.ssrc ∧ streamId = handled.info.streamId)

/-- A new stream takes an ssrc and a stream id that are not registered. -/
def Fresh (state : State) : Action → Prop
  | .initMedia config _ =>
      state.inner.rtpGatewayMap config.ssrc = none ∧
        state.inner.streamMetadataMap config.streamId = none
  | _ => True

instance (state : State) (action : Action) : Decidable (Fresh state action) :=
  match action with
  | .initMedia config _ => inferInstanceAs (Decidable
      (state.inner.rtpGatewayMap config.ssrc = none ∧
        state.inner.streamMetadataMap config.streamId = none))
  | .initMediaExt .. | .refresh _ | .sendStreamConfig .. | .rtpTimeout .. | .streamIdle ..
  | .answerInTimeout .. | .answerIdle .. => isTrue trivial

/-- Neither of the ids of a stream is taken by another one. -/
def Inner.Untaken (inner : Inner) (info : BaseStreamInfo) : Prop :=
  (∀ streamId ∈ inner.streamOf info.ssrc, streamId = info.streamId) ∧
    ∀ ssrc ∈ inner.ssrcOf info.streamId, ssrc = info.ssrc

instance (inner : Inner) (info : BaseStreamInfo) : Decidable (inner.Untaken info) :=
  @instDecidableAnd _ _ (Option.decidableForallMem _) (Option.decidableForallMem _)

/-- A reply that closes a stream comes while neither of its ids is taken by another. -/
def ClosesUntaken (state : State) (action : Action) : Prop :=
  ∀ handled ∈ reply state action, handled.closes = true → state.inner.Untaken handled.info

instance (state : State) (action : Action) : Decidable (ClosesUntaken state action) :=
  inferInstanceAs (Decidable (∀ _ ∈ _, _ → _))

/-! ## What the operations do to the two maps -/

namespace Inner

variable {inner next : Inner}

/-- Two registries hold the same streams. -/
def SameStreams (inner next : Inner) : Prop :=
  (∀ ssrc, next.streamOf ssrc = inner.streamOf ssrc) ∧
    ∀ streamId, next.ssrcOf streamId = inner.ssrcOf streamId

theorem SameStreams.refl (inner : Inner) : SameStreams inner inner :=
  ⟨fun _ => rfl, fun _ => rfl⟩

theorem SameStreams.trans {last : Inner} (first : SameStreams inner next)
    (second : SameStreams next last) : SameStreams inner last :=
  ⟨fun ssrc => (second.1 ssrc).trans (first.1 ssrc),
    fun streamId => (second.2 streamId).trans (first.2 streamId)⟩

theorem SameStreams.paired (same : SameStreams inner next) : next.Paired ↔ inner.Paired := by
  simp only [Paired, same.1, same.2]

@[simp]
theorem arm_streamOf (ssrc : UInt32) (accepts : Bool) :
    (inner.arm ssrc accepts).streamOf = inner.streamOf := by
  cases accepts <;> rfl

@[simp]
theorem arm_ssrcOf (ssrc : UInt32) (accepts : Bool) :
    (inner.arm ssrc accepts).ssrcOf = inner.ssrcOf := by
  cases accepts <;> rfl

theorem arm_same (ssrc : UInt32) (accepts : Bool) : SameStreams inner (inner.arm ssrc accepts) :=
  ⟨fun _ => by rw [arm_streamOf], fun _ => by rw [arm_ssrcOf]⟩

theorem setChannel_streamOf (ssrc : UInt32) (channel : Option RtpChannel) :
    (inner.setChannel ssrc channel).streamOf =
      Function.update inner.streamOf ssrc (channel.map RtpChannel.streamId) := by
  funext other
  by_cases same : other = ssrc
  · subst same
    simp [streamOf, setChannel]
  · simp [streamOf, setChannel, same]

theorem setMetadata_ssrcOf (streamId : String) (metadata : Option StreamMetadata) :
    (inner.setMetadata streamId metadata).ssrcOf =
      Function.update inner.ssrcOf streamId (metadata.map StreamMetadata.ssrc) := by
  funext other
  by_cases same : other = streamId
  · subst same
    simp [ssrcOf, setMetadata]
  · simp [ssrcOf, setMetadata, same]

/-- A channel that stays with its stream. -/
theorem setChannel_same {ssrc : UInt32} {old channel : RtpChannel}
    (present : inner.rtpGatewayMap ssrc = some old) (sameStream : channel.streamId = old.streamId) :
    SameStreams inner (inner.setChannel ssrc (some channel)) := by
  refine ⟨fun other => ?_, fun _ => rfl⟩
  rw [setChannel_streamOf, Function.update_apply]
  split
  · next same => rw [same, streamOf, present, Option.map_some, Option.map_some, sameStream]
  · rfl

/-- Metadata that keeps its ssrc. -/
theorem setMetadata_same {streamId : String} {old metadata : StreamMetadata}
    (present : inner.streamMetadataMap streamId = some old) (sameSsrc : metadata.ssrc = old.ssrc) :
    SameStreams inner (inner.setMetadata streamId (some metadata)) := by
  refine ⟨fun _ => rfl, fun other => ?_⟩
  rw [setMetadata_ssrcOf, Function.update_apply]
  split
  · next same => rw [same, ssrcOf, present, Option.map_some, Option.map_some, sameSsrc]
  · rfl

theorem initMediaExt_same (ssrc : UInt32) (mediaExt : Register.MediaExt) :
    SameStreams inner (inner.initMediaExt ssrc mediaExt) := by
  rw [initMediaExt]
  split
  · exact .refl inner
  · split
    · exact .refl inner
    · next present => exact setMetadata_same present rfl

theorem refresh_same (ssrc : UInt32) : SameStreams inner (inner.refresh ssrc) := by
  rw [refresh]
  split
  · exact .refl inner
  · next present => exact setChannel_same present rfl

theorem handleRtpInTimeout_same (ssrc : UInt32) (accepts : Bool) :
    SameStreams inner (inner.handleRtpInTimeout ssrc accepts).2 := by
  rw [handleRtpInTimeout]
  split
  · exact .refl inner
  · next channel present =>
      split
      · exact .refl inner
      · have counted : SameStreams inner (inner.setChannel ssrc (some channel.countTimeout)) :=
          setChannel_same present rfl
        dsimp only
        split
        · exact counted.trans (arm_same ssrc accepts)
        · exact counted

/-- The owners of the ssrcs after a stream has been closed, and the places of the streams. -/
theorem closeAll_streamOf (info : BaseStreamInfo) :
    (inner.closeAll info).streamOf = Function.update inner.streamOf info.ssrc none :=
  setChannel_streamOf ..

theorem closeAll_ssrcOf (info : BaseStreamInfo) :
    (inner.closeAll info).ssrcOf = Function.update inner.ssrcOf info.streamId none :=
  setMetadata_ssrcOf ..

/-! ### Pairing as tenancy: a stream is at the ssrc that it owns -/

theorem paired_iff : inner.Paired ↔
    Tenancy.Sound inner.streamOf inner.ssrcOf ∧ Tenancy.Complete inner.streamOf inner.ssrcOf := by
  constructor
  · exact fun paired => ⟨fun ssrc streamId => (paired ssrc streamId).mp,
      fun ssrc streamId => (paired ssrc streamId).mpr⟩
  · exact fun ⟨sound, complete⟩ ssrc streamId => ⟨sound ssrc streamId, complete ssrc streamId⟩

/-- A new stream takes an ssrc that nobody owns. -/
theorem Paired.insert (paired : inner.Paired) {config : MediaConfig} {accepts : Bool}
    (unowned : inner.streamOf config.ssrc = none) (unplaced : inner.ssrcOf config.streamId = none) :
    (((inner.arm config.ssrc accepts).insertChannel config).insertMetadata config).Paired := by
  set next := ((inner.arm config.ssrc accepts).insertChannel config).insertMetadata config
  have owners : next.streamOf =
      Function.update inner.streamOf config.ssrc (some config.streamId) := by
    have inserted : next.streamOf = Function.update (inner.arm config.ssrc accepts).streamOf
        config.ssrc (some config.streamId) := setChannel_streamOf ..
    rw [inserted, arm_streamOf]
  have places : next.ssrcOf =
      Function.update inner.ssrcOf config.streamId (some config.ssrc) := by
    have inserted : next.ssrcOf = Function.update (inner.arm config.ssrc accepts).ssrcOf
        config.streamId (some config.ssrc) := setMetadata_ssrcOf ..
    rw [inserted, arm_ssrcOf]
  rw [paired_iff] at paired ⊢
  have occupies : Tenancy.Occupies inner.streamOf inner.ssrcOf config.streamId config.ssrc
      next.streamOf next.ssrcOf := by
    rw [owners, places]
    constructor
    · rw [Function.update_self]
    · intro other elsewhere
      rw [Function.update_of_ne elsewhere, if_neg]
      intro owned
      rw [paired.1 other config.streamId owned] at unplaced
      cases unplaced
    · rw [Function.update_self]
    · intro other different
      rw [Function.update_of_ne different, unowned, if_neg (by simp)]
  exact ⟨paired.1.occupies occupies, paired.2.occupies occupies⟩

/-- A stream whose ids are not taken leaves, and nobody else loses its place. -/
theorem Paired.closeAll (paired : inner.Paired) {info : BaseStreamInfo}
    (untaken : inner.Untaken info) : (inner.closeAll info).Paired := by
  rw [paired_iff] at paired ⊢
  rw [closeAll_streamOf, closeAll_ssrcOf]
  have leaves : Tenancy.Leaves inner.streamOf inner.ssrcOf info.streamId
      (Function.update inner.streamOf info.ssrc none)
      (Function.update inner.ssrcOf info.streamId none) := by
    constructor
    · intro ssrc other owned
      rw [Function.update_apply] at owned
      split at owned
      · cases owned
      · next elsewhere =>
          refine ⟨owned, ?_⟩
          rintro rfl
          exact elsewhere (untaken.2 ssrc (paired.1 ssrc _ owned))
    · rw [Function.update_self]
    · intro other different
      rw [Function.update_of_ne different]
  refine ⟨paired.1.leaves leaves, (paired.2.leaves_iff paired.1 leaves).mpr ?_⟩
  intro ssrc other different owned
  rw [Function.update_of_ne]
  · exact owned
  · rintro rfl
    exact different (untaken.1 other owned)

theorem Paired.untaken (paired : inner.Paired) {streamId : String} {metadata : StreamMetadata}
    (present : inner.streamMetadataMap streamId = some metadata) :
    inner.Untaken ⟨metadata.ssrc, streamId⟩ := by
  have placed : inner.ssrcOf streamId = some metadata.ssrc := by rw [ssrcOf, present]; rfl
  constructor
  · intro other owned
    have owner := (paired metadata.ssrc streamId).mpr placed
    exact Option.some.inj (owned.symm.trans owner)
  · intro other at'
    exact Option.some.inj (at'.symm.trans placed)

theorem sendStreamConfig_cases (rtpType : UInt8) (streamId : String) (subscribed : Bool) :
    (inner.sendStreamConfig rtpType streamId subscribed).2 = inner ∨
      ∃ metadata, inner.streamMetadataMap streamId = some metadata ∧
        (inner.sendStreamConfig rtpType streamId subscribed).2 =
          inner.closeAll ⟨metadata.ssrc, streamId⟩ := by
  rw [sendStreamConfig]
  split
  · exact Or.inl rfl
  · next metadata present =>
      dsimp only
      split
      · exact Or.inl rfl
      · split
        · split <;> exact Or.inl rfl
        · exact Or.inr ⟨metadata, present, rfl⟩

end Inner

/-! ## One operation -/

@[simp]
theorem State.trySend_inner (state : State) (event : Option OutEvent) (room : Bool) :
    (state.trySend event room).inner = state.inner := by
  cases room <;> rfl

/-- Operations that leave the streams as they are, and a reply that closes none. -/
theorem settled {state : State} {action : Action}
    (same : Inner.SameStreams state.inner (step state action).2.inner)
    (keeps : ∀ handled ∈ reply state action, handled.closes = false) (paired : state.inner.Paired) :
    (step state action).2.inner.Paired ∧ RemovesOwn (Runs.transition step state action) ↔
      ClosesUntaken state action := by
  refine iff_of_true ⟨same.paired.mpr paired, ?_⟩
    (fun handled isReply closes => absurd ((keeps handled isReply).symm.trans closes) Bool.false_ne_true)
  intro handled _
  constructor
  · intro ssrc streamId owned lost
    exact absurd ((same.1 ssrc).trans owned) lost
  · intro streamId ssrc placed lost
    exact absurd ((same.2 streamId).trans placed) lost

/-- Operations that handle no reply. -/
theorem unanswered {state : State} {action : Action} (silent : reply state action = none)
    (paired : (step state action).2.inner.Paired) :
    (step state action).2.inner.Paired ∧ RemovesOwn (Runs.transition step state action) ↔
      ClosesUntaken state action := by
  have noReply (handled : Reply) (isReply : handled ∈ reply state action) : False := by
    rw [silent] at isReply
    cases isReply
  exact iff_of_true ⟨paired, fun handled isReply => (noReply handled isReply).elim⟩
    (fun handled isReply => (noReply handled isReply).elim)

/-- A reply that closes its stream. -/
theorem closed {state : State} {action : Action} {info : BaseStreamInfo}
    (answered : reply state action = some ⟨info, true⟩)
    (gone : (step state action).2.inner = state.inner.closeAll info)
    (paired : state.inner.Paired) :
    (step state action).2.inner.Paired ∧ RemovesOwn (Runs.transition step state action) ↔
      ClosesUntaken state action := by
  have untaken : ClosesUntaken state action ↔ state.inner.Untaken info := by
    simp only [ClosesUntaken, answered, Option.mem_some_iff, forall_eq', forall_const]
  rw [untaken]
  constructor
  · rintro ⟨-, own⟩
    obtain ⟨channels, descriptions⟩ := own _ answered
    simp only [Runs.transition, gone, Inner.closeAll_streamOf, Inner.closeAll_ssrcOf] at channels descriptions
    constructor
    · intro streamId owned
      exact (channels info.ssrc streamId owned (by rw [Function.update_self]; simp)).2
    · intro ssrc placed
      exact (descriptions info.streamId ssrc placed (by rw [Function.update_self]; simp)).1
  · intro free
    refine ⟨by rw [gone]; exact paired.closeAll free, ?_⟩
    intro handled isReply
    cases answered.symm.trans isReply
    simp only [Runs.transition, gone, Inner.closeAll_streamOf, Inner.closeAll_ssrcOf]
    constructor
    · intro ssrc streamId owned lost
      rw [Function.update_apply] at lost
      split at lost
      · next same => subst same; exact ⟨rfl, free.1 streamId owned⟩
      · exact absurd owned lost
    · intro streamId ssrc placed lost
      rw [Function.update_apply] at lost
      split at lost
      · next same => subst same; exact ⟨free.2 ssrc placed, rfl⟩
      · exact absurd placed lost

theorem answerInTimeout_paired_iff (state : State) (index : Nat)
    (answer : Option (Resp InTimeoutEventRes)) (accepts : Bool) (paired : state.inner.Paired) :
    (step state (.answerInTimeout index answer accepts)).2.inner.Paired ∧
        RemovesOwn (Runs.transition step state (.answerInTimeout index answer accepts)) ↔
      ClosesUntaken state (.answerInTimeout index answer accepts) := by
  match found : state.events[index]? with
  | some (.streamInTimeout info) =>
      cases verdict : inTimeoutRes answer with
      | keepAlive =>
          refine settled ?_ ?_ paired
          · simp only [step, found, verdict]
            exact state.inner.arm_same info.ssrc accepts
          · simp only [reply, found, verdict, Option.mem_some_iff, forall_eq']
            rfl
      | closeAll =>
          refine closed (by simp only [reply, found, verdict]; rfl) ?_ paired
          simp only [step, found, verdict]
          rfl
  | none | some (.streamRegister _) | some (.streamIdle _) | some .other =>
      exact unanswered (by simp only [reply, found]) (by simp only [step, found]; exact paired)

theorem answerIdle_paired_iff (state : State) (index : Nat)
    (answer : Option (Resp OutputEventRes)) (paired : state.inner.Paired) :
    (step state (.answerIdle index answer)).2.inner.Paired ∧
        RemovesOwn (Runs.transition step state (.answerIdle index answer)) ↔
      ClosesUntaken state (.answerIdle index answer) := by
  match found : state.events[index]? with
  | some (.streamIdle info) =>
      cases verdict : outputRes info answer with
      | keepMuxer | closeMuxer =>
          refine settled ?_ ?_ paired
          · simp only [step, found, verdict]
            exact .refl state.inner
          · simp only [reply, found, verdict, Option.mem_some_iff, forall_eq']
            rfl
      | closeAll =>
          refine closed (by simp only [reply, found, verdict]; rfl) ?_ paired
          simp only [step, found, verdict]
          rfl
  | none | some (.streamRegister _) | some (.streamInTimeout _) | some .other =>
      exact unanswered (by simp only [reply, found]) (by simp only [step, found]; exact paired)

/-- The operations keep the pairing, and replies keep to their own stream, exactly when
no reply closes a stream whose ids are taken. -/
theorem step_paired_iff (state : State) (action : Action) (paired : state.inner.Paired)
    (fresh : Fresh state action) :
    (step state action).2.inner.Paired ∧ RemovesOwn (Runs.transition step state action) ↔
      ClosesUntaken state action := by
  cases action with
  | initMedia config accepts =>
      apply unanswered rfl
      simp only [step, Inner.initMedia]
      split
      · exact paired.insert (by rw [Inner.streamOf, fresh.1]; rfl) (by rw [Inner.ssrcOf, fresh.2]; rfl)
      · exact paired
  | initMediaExt ssrc mediaExt =>
      exact unanswered rfl ((Inner.initMediaExt_same ssrc mediaExt).paired.mpr paired)
  | refresh ssrc => exact unanswered rfl ((Inner.refresh_same ssrc).paired.mpr paired)
  | sendStreamConfig rtpType streamId subscribed room =>
      apply unanswered rfl
      simp only [step, State.trySend_inner]
      rcases state.inner.sendStreamConfig_cases rtpType streamId subscribed with
        same | ⟨metadata, present, gone⟩
      · rw [same]
        exact paired
      · rw [gone]
        exact paired.closeAll (paired.untaken present)
  | rtpTimeout ssrc accepts room =>
      apply unanswered rfl
      simp only [step]
      split
      · rw [State.trySend_inner]
        exact ((state.inner.disarm ssrc).handleRtpInTimeout_same ssrc accepts).paired.mpr paired
      · exact paired
  | streamIdle streamId playType userCount room =>
      apply unanswered rfl
      simp only [step]
      split
      · exact paired
      · rw [State.trySend_inner]
        exact paired
  | answerInTimeout index answer accepts =>
      exact answerInTimeout_paired_iff state index answer accepts paired
  | answerIdle index answer => exact answerIdle_paired_iff state index answer paired

/-! ## Runs -/

theorem init_paired (inWaitTimeout : UInt8) : (init inWaitTimeout).inner.Paired :=
  fun _ _ => ⟨fun owned => (by cases owned), fun placed => (by cases placed)⟩

/-- New streams take ids that are not registered.  Then the two maps agree between any
two operations, and every close reply keeps to its own stream, exactly when no reply
closes a stream whose ssrc or stream id has been taken by another one. -/
theorem paired_iff_closes_untaken (inWaitTimeout : UInt8) (actions : List Action)
    (fresh : ∀ entry ∈ Runs.run step (init inWaitTimeout) actions, Fresh entry.before entry.action) :
    (∀ entry ∈ Runs.run step (init inWaitTimeout) actions,
        entry.after.inner.Paired ∧ RemovesOwn entry) ↔
      ∀ entry ∈ Runs.run step (init inWaitTimeout) actions,
        ClosesUntaken entry.before entry.action :=
  Runs.checked_run_iff (fun state => state.inner.Paired) RemovesOwn Fresh ClosesUntaken
    step_paired_iff (init_paired inWaitTimeout) fresh

/-- A stream times out and is closed, and its ssrc goes to another stream. -/
def timeoutThenReuse : List Action :=
  [.initMedia (flvConfig 1 "first") true, .rtpTimeout 1 true true, .answerInTimeout 0 none true,
    .initMedia (flvConfig 1 "second") true]

theorem paired_iff_closes_untaken_timeoutThenReuse :
    (Runs.run step (init 4) timeoutThenReuse).length = 4 ∧
      ∀ entry ∈ Runs.run step (init 4) timeoutThenReuse,
        entry.after.inner.Paired ∧ RemovesOwn entry :=
  ⟨rfl, (paired_iff_closes_untaken 4 timeoutThenReuse (by decide +kernel)).mpr (by decide +kernel)⟩

/-- The stream was idle as well, and the answer to that comes when its ssrc has gone to
the other stream. -/
def idleReplyAfterReuse : List Action :=
  [.initMedia (flvConfig 1 "first") true, .streamIdle "first" .httpFlv 0 true, .rtpTimeout 1 true true,
    .answerInTimeout 1 none true, .initMedia (flvConfig 1 "second") true, .answerIdle 0 none]

/-- The late answer takes the channel of the other stream, whose metadata stays. -/
theorem idleReplyAfterReuse_unpairs :
    (∀ entry ∈ Runs.run step (init 4) idleReplyAfterReuse, Fresh entry.before entry.action) ∧
      ¬∀ entry ∈ Runs.run step (init 4) idleReplyAfterReuse,
        entry.after.inner.Paired ∧ RemovesOwn entry := by
  have fresh : ∀ entry ∈ Runs.run step (init 4) idleReplyAfterReuse, Fresh entry.before entry.action := by
    decide +kernel
  refine ⟨fresh, fun all => ?_⟩
  have last := (all _ (List.getLast_mem (by simp [idleReplyAfterReuse]))).1
  have lost := (last 1 "second").mpr (by decide +kernel)
  revert lost
  decide +kernel

end Gmv.Stream.Media
