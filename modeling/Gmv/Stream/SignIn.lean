import Gmv.Library.Runs

/-!
# Sign-in of a stream

One registered stream between three parties: the RTP handlers that refresh its
channel and queue a `StreamRegister` event while `wait_sign_in` is set, the
event loop that answers the event with a `StreamConfig`, and the signalling side
that delivers the media description.  A refresh is taken apart into its load of
the flag, its send, its store and its end, so that refreshes may overlap.
-/

namespace Gmv.Stream.Register

open Gmv.Library

/-- The part of the media description that sign-in reads. -/
structure MediaExt where
  typeCode : UInt8
  deriving DecidableEq, Repr

/-- The channel of a stream in `rtp_gateway_map`. -/
structure RtpChannel where
  inHasTimeout : Nat
  waitSignIn : Bool
  missPkt : Nat
  deriving DecidableEq, Repr

def RtpChannel.new : RtpChannel := ⟨0, true, 0⟩

/-- The entry of a stream in `stream_metadata_map`. -/
structure StreamMetadata (A : Type) where
  mediaExt : Option MediaExt
  originTrans : Option A
  deriving DecidableEq, Repr

/-- The code of a `RegisterStreamInfo`. -/
inductive RegisterCode where
  | success
  | invalidState
  deriving DecidableEq, Repr

/-- The queued events that concern the stream. -/
inductive Event (A : Type) where
  | inner (rtpType : UInt8) (originTrans : A)
  | out (code : RegisterCode) (msg : Option String)
  deriving DecidableEq, Repr

/-- Where a refresh under way stands: before its `try_send`, before its store of
the flag, or behind both. -/
inductive Stage where
  | send
  | store
  | finish
  deriving DecidableEq, Repr

/-- A call of `refresh` under way. -/
structure Refresh (A : Type) where
  rtpType : UInt8
  originTrans : A
  stage : Stage
  deriving DecidableEq, Repr

/-- The state around one stream: its entries in the two maps, the event queue,
the refreshes under way, the configurations published and the number of packets
that got a sender. -/
structure State (A : Type) where
  rtpGateway : Option RtpChannel
  streamMetadata : Option (StreamMetadata A)
  eventQueue : List (Event A)
  refreshing : List (Refresh A)
  published : List MediaExt
  accepted : Nat
  deriving DecidableEq, Repr

/-- The state after `init_media`. -/
def initMedia (A : Type) : State A :=
  ⟨some RtpChannel.new, some ⟨none, none⟩, [], [], [], 0⟩

/-- What a call gives back. -/
inductive Outcome where
  | pending
  | sender
  | busy
  | notFound
  | ok
  deriving DecidableEq, Repr

inductive Action (A : Type) where
  | refreshRtp (rtpType : UInt8) (originTrans : A)
  | advance (index : Nat) (isFull : Bool)
  | handInner (subscribed accepts : Bool)
  | initMediaExt (mediaExt : MediaExt)
  deriving DecidableEq, Repr

variable {A : Type}

/-- The start of `refresh_rtp`: the channel is looked up and its flag loaded. -/
def refreshRtp (state : State A) (rtpType : UInt8) (originTrans : A) : Outcome × State A :=
  match state.rtpGateway with
  | none => (.notFound, state)
  | some channel =>
      let stage := if channel.waitSignIn then Stage.send else Stage.finish
      (.pending, { state with refreshing := state.refreshing ++ [⟨rtpType, originTrans, stage⟩] })

/-- The last part of `refresh`: the packet gets a sender unless the channel is full
and its count of missed packets is due for a report. -/
def RtpChannel.finish (channel : RtpChannel) (isFull : Bool) : Bool × RtpChannel :=
  if isFull then
    let count := channel.missPkt
    let callIoBusy := if count < 60 then count % 60 == 0 else count % 300 == 0
    (!callIoBusy, { channel with inHasTimeout := 0, missPkt := count + 1 })
  else (true, { channel with inHasTimeout := 0, missPkt := 0 })

/-- The next part of a refresh under way. -/
def advance (state : State A) (index : Nat) (isFull : Bool) : Outcome × State A :=
  match state.refreshing[index]? with
  | none => (.notFound, state)
  | some call =>
      match call.stage with
      | .send =>
          (.pending, { state with
            eventQueue := state.eventQueue ++ [.inner call.rtpType call.originTrans]
            refreshing := state.refreshing.set index { call with stage := .store } })
      | .store =>
          (.pending, { state with
            rtpGateway := state.rtpGateway.map fun channel => { channel with waitSignIn := false }
            refreshing := state.refreshing.set index { call with stage := .finish } })
      | .finish =>
          let rest := state.refreshing.eraseIdx index
          match state.rtpGateway with
          | none => (.notFound, { state with refreshing := rest })
          | some channel =>
              let ended := channel.finish isFull
              if ended.1 then
                (.sender, { state with
                  rtpGateway := some ended.2, refreshing := rest, accepted := state.accepted + 1 })
              else (.busy, { state with rtpGateway := some ended.2, refreshing := rest })

/-- The text of a type mismatch. -/
def typeMismatch (sdp rtp : UInt8) : String :=
  "Play type is not identical;sdp=" ++ toString sdp.toNat ++ ",rtp=" ++ toString rtp.toNat

/-- `send_stream_config`; the two flags are the answers of the stream's bus to the
subscription and to the publication. -/
def sendStreamConfig (state : State A) (rtpType : UInt8) (subscribed accepts : Bool) : State A :=
  match state.streamMetadata with
  | none => state
  | some metadata =>
      match metadata.mediaExt with
      | none => state
      | some mediaExt =>
          if mediaExt.typeCode = rtpType then
            if state.rtpGateway.isSome && subscribed then
              { state with
                published := if accepts then state.published ++ [mediaExt] else state.published
                eventQueue := state.eventQueue ++ [.out .success none] }
            else state
          else
            { state with
              eventQueue := state.eventQueue ++
                [.out .invalidState (some (typeMismatch mediaExt.typeCode rtpType))]
              streamMetadata := none
              rtpGateway := none }

/-- The event loop takes the next event. -/
def handInner (state : State A) (subscribed accepts : Bool) : Outcome × State A :=
  match state.eventQueue with
  | [] => (.pending, state)
  | .out _ _ :: rest => (.ok, { state with eventQueue := rest })
  | .inner rtpType originTrans :: rest =>
      match state.streamMetadata with
      | none => (.ok, { state with eventQueue := rest })
      | some metadata =>
          (.ok, sendStreamConfig
            { state with
              eventQueue := rest
              streamMetadata := some { metadata with originTrans := some originTrans } }
            rtpType subscribed accepts)

def initMediaExt (state : State A) (mediaExt : MediaExt) : Outcome × State A :=
  match state.rtpGateway, state.streamMetadata with
  | some _, some metadata =>
      (.ok, { state with streamMetadata := some { metadata with mediaExt := some mediaExt } })
  | _, _ => (.notFound, state)

def step (state : State A) : Action A → Outcome × State A
  | .refreshRtp rtpType originTrans => refreshRtp state rtpType originTrans
  | .advance index isFull => advance state index isFull
  | .handInner subscribed accepts => handInner state subscribed accepts
  | .initMediaExt mediaExt => initMediaExt state mediaExt

/-! ## What keeps a stream on its way -/

def Event.isInner : Event A → Bool
  | .inner _ _ => true
  | .out _ _ => false

namespace State

/-- The stream is in both maps. -/
def Registered (state : State A) : Prop :=
  state.rtpGateway.isSome = true ∧ state.streamMetadata.isSome = true

/-- The media description has arrived. -/
def Described (state : State A) : Prop :=
  ∃ metadata mediaExt, state.streamMetadata = some metadata ∧ metadata.mediaExt = some mediaExt

/-- A configuration is out or an event for it is queued. -/
def Assured (state : State A) : Prop :=
  state.published ≠ [] ∨ ∃ event ∈ state.eventQueue, event.isInner = true

/-- The next packet will queue an event. -/
def Waiting (state : State A) : Prop :=
  ∃ channel, state.rtpGateway = some channel ∧ channel.waitSignIn = true

/-- A stream with packets and a description starts or is still on its way. -/
def Starts (state : State A) : Prop :=
  state.Described → 0 < state.accepted → state.Registered → state.Assured ∨ state.Waiting

/-- The flag is down, or about to go down, only for an event that counts. -/
def Settled (state : State A) : Prop :=
  state.Registered →
    (¬ state.Waiting ∨ ∃ call ∈ state.refreshing, call.stage = .store) → state.Assured

end State

/-- A queued event that the loop takes for a stream in the maps finds the media
description there, and the bus of the stream takes the subscription and the
configuration when the type of the packet is the described one. -/
def Heard (state : State A) : Action A → Prop
  | .handInner subscribed accepts =>
      ∀ rtpType originTrans rest metadata,
        state.eventQueue = .inner rtpType originTrans :: rest →
        state.streamMetadata = some metadata →
        ∃ mediaExt, metadata.mediaExt = some mediaExt ∧
          (mediaExt.typeCode = rtpType → state.rtpGateway.isSome = true →
            subscribed = true ∧ accepts = true)
  | _ => True

/-! ## Steps keep the flag honest -/

/-- A step that leaves the maps' entries, the events and the configurations alone,
and brings no refresh to its store, keeps the state settled. -/
theorem State.Settled.of_same {state next : State A} (settled : state.Settled)
    (gateway : next.rtpGateway.isSome = state.rtpGateway.isSome)
    (metadata : next.streamMetadata.isSome = state.streamMetadata.isSome)
    (waiting : state.Waiting → next.Waiting) (assured : state.Assured → next.Assured)
    (stores : ∀ call ∈ next.refreshing, call.stage = .store → call ∈ state.refreshing) :
    next.Settled := by
  rintro ⟨hasGateway, hasMetadata⟩ lowered
  refine assured (settled ⟨gateway ▸ hasGateway, metadata ▸ hasMetadata⟩ ?_)
  rcases lowered with down | ⟨call, member, stage⟩
  · exact Or.inl fun up => down (waiting up)
  · exact Or.inr ⟨call, stores call member stage, stage⟩

theorem refreshRtp_settled {state : State A} (settled : state.Settled) (rtpType : UInt8)
    (originTrans : A) : (refreshRtp state rtpType originTrans).2.Settled := by
  rw [refreshRtp]
  split
  · exact settled
  · rename_i channel _
    refine settled.of_same rfl rfl id id ?_
    intro call member stage
    rcases List.mem_append.mp member with earlier | isNew
    · exact earlier
    · rw [List.mem_singleton.mp isNew] at stage
      change (if channel.waitSignIn then Stage.send else Stage.finish) = .store at stage
      split at stage <;> cases stage

theorem RtpChannel.finish_waitSignIn (channel : RtpChannel) (isFull : Bool) :
    (channel.finish isFull).2.waitSignIn = channel.waitSignIn := by
  cases isFull <;> rfl

/-- The end of a refresh touches neither the flag nor the events. -/
theorem finish_settled {state next : State A} (settled : state.Settled) {index : Nat}
    {isFull : Bool} {channel : RtpChannel} (gateway : state.rtpGateway = some channel)
    (nextGateway : next.rtpGateway = some (channel.finish isFull).2)
    (metadata : next.streamMetadata = state.streamMetadata)
    (queue : next.eventQueue = state.eventQueue) (published : next.published = state.published)
    (calls : next.refreshing = state.refreshing.eraseIdx index) : next.Settled := by
  refine settled.of_same (by rw [gateway, nextGateway]; rfl) (by rw [metadata]) ?_ ?_ ?_
  · rintro ⟨other, same, waits⟩
    rw [gateway] at same
    cases same
    exact ⟨_, nextGateway, (channel.finish_waitSignIn isFull).trans waits⟩
  · rw [State.Assured, State.Assured, queue, published]
    exact id
  · intro call member _
    rw [calls] at member
    exact List.mem_of_mem_eraseIdx member

theorem advance_settled {state : State A} (settled : state.Settled) (index : Nat)
    (isFull : Bool) : (advance state index isFull).2.Settled := by
  rw [advance]
  split
  · exact settled
  · rename_i call found
    have present : call ∈ state.refreshing := List.mem_of_getElem? found
    split
    · intro _ _
      exact Or.inr ⟨_, List.mem_append_right _ List.mem_cons_self, rfl⟩
    · -- The event went out before the flag goes down.
      rename_i stage
      rintro ⟨hasGateway, hasMetadata⟩ _
      have had : state.rtpGateway.isSome = true := by
        rw [← hasGateway, Option.isSome_map]
      exact settled ⟨had, hasMetadata⟩ (Or.inr ⟨call, present, stage⟩)
    · dsimp only
      split
      · rename_i gateway
        refine settled.of_same rfl rfl id id ?_
        exact fun other member _ => List.mem_of_mem_eraseIdx member
      · rename_i channel gateway
        split
        · exact finish_settled settled gateway rfl rfl rfl rfl rfl
        · exact finish_settled settled gateway rfl rfl rfl rfl rfl

theorem initMediaExt_settled {state : State A} (settled : state.Settled) (mediaExt : MediaExt) :
    (initMediaExt state mediaExt).2.Settled := by
  rw [initMediaExt]
  split
  · rename_i metadata gateway found
    exact settled.of_same rfl (congrArg Option.isSome found).symm id id fun call member _ => member
  · exact settled

/-- With the description there and a bus that accepts, the configuration goes out
or the stream is dropped. -/
theorem sendStreamConfig_settled {state : State A} {metadata : StreamMetadata A}
    (found : state.streamMetadata = some metadata) {mediaExt : MediaExt}
    (described : metadata.mediaExt = some mediaExt) {rtpType : UInt8} {subscribed accepts : Bool}
    (bus : mediaExt.typeCode = rtpType → state.rtpGateway.isSome = true →
      subscribed = true ∧ accepts = true) :
    (sendStreamConfig state rtpType subscribed accepts).Settled := by
  simp only [sendStreamConfig, found, described]
  split
  · rename_i same
    by_cases hasGateway : state.rtpGateway.isSome = true
    · obtain ⟨rfl, rfl⟩ := bus same hasGateway
      rw [hasGateway]
      intro _ _
      exact Or.inl (List.append_ne_nil_of_right_ne_nil _ (List.cons_ne_nil _ _))
    · rw [Bool.not_eq_true] at hasGateway
      rw [hasGateway]
      rintro ⟨isThere, _⟩ _
      rw [Bool.false_and, if_neg Bool.false_ne_true, hasGateway] at isThere
      cases isThere
  · rintro ⟨isThere, _⟩ _
    cases isThere

theorem handInner_settled {state : State A} (settled : state.Settled) {subscribed accepts : Bool}
    (heard : Heard state (.handInner subscribed accepts)) :
    (handInner state subscribed accepts).2.Settled := by
  rw [handInner]
  split
  · exact settled
  · rename_i code msg rest queue
    refine settled.of_same rfl rfl id ?_ fun call member _ => member
    rintro (out | ⟨event, member, isInner⟩)
    · exact Or.inl out
    · rw [queue] at member
      rcases List.mem_cons.mp member with same | later
      · rw [same] at isInner
        cases isInner
      · exact Or.inr ⟨event, later, isInner⟩
  · rename_i rtpType originTrans rest queue
    split
    · rename_i missing
      rintro ⟨_, hasMetadata⟩
      change state.streamMetadata.isSome = true at hasMetadata
      rw [missing] at hasMetadata
      cases hasMetadata
    · rename_i metadata found
      obtain ⟨mediaExt, described, bus⟩ := heard rtpType originTrans rest metadata queue found
      have updated : { state with
          eventQueue := rest
          streamMetadata := some { metadata with originTrans := some originTrans } }.streamMetadata =
          some { metadata with originTrans := some originTrans } := rfl
      exact sendStreamConfig_settled updated described bus

theorem step_settled (state : State A) (action : Action A) (settled : state.Settled)
    (heard : Heard state action) : (step state action).2.Settled := by
  cases action with
  | refreshRtp rtpType originTrans => exact refreshRtp_settled settled rtpType originTrans
  | advance index isFull => exact advance_settled settled index isFull
  | handInner subscribed accepts => exact handInner_settled settled heard
  | initMediaExt mediaExt => exact initMediaExt_settled settled mediaExt

theorem initMedia_settled : (initMedia A).Settled := by
  rintro _ (down | ⟨call, member, _⟩)
  · exact absurd ⟨RtpChannel.new, rfl, rfl⟩ down
  · cases member

theorem State.Settled.starts {state : State A} (settled : state.Settled) : state.Starts := by
  intro _ _ registered
  by_cases waits : state.Waiting
  · exact Or.inr waits
  · exact Or.inl (settled registered (Or.inl waits))

/-- In a run where every event that is taken finds the description there and a bus that
accepts, every state with packets and a description has the stream started or on its
way. -/
theorem starts_of_heard (actions : List (Action A))
    (heard : ∀ entry ∈ Runs.run step (initMedia A) actions, Heard entry.before entry.action) :
    ∀ entry ∈ Runs.run step (initMedia A) actions, entry.before.Starts ∧ entry.after.Starts := by
  intro entry member
  obtain ⟨before, after⟩ := Runs.invariant_run State.Settled Heard step_settled initMedia_settled
    heard entry member
  exact ⟨before.starts, after.starts⟩

/-- The description first, then a packet and its event. -/
def descriptionFirst : List (Action Unit) :=
  [.initMediaExt ⟨96⟩, .refreshRtp 96 (), .advance 0 false, .advance 0 false, .advance 0 false,
    .handInner true true]

theorem starts_of_heard_descriptionFirst :
    (Runs.final step (initMedia Unit) descriptionFirst).Starts := by
  have last : Runs.transition step (Runs.final step (initMedia Unit) (descriptionFirst.take 5))
      (.handInner true true) ∈ Runs.run step (initMedia Unit) descriptionFirst := by
    simp [descriptionFirst]
  refine (starts_of_heard descriptionFirst ?_ _ last).2
  simp only [descriptionFirst, Runs.run_cons, Runs.run_nil, List.forall_mem_cons]
  refine ⟨trivial, trivial, trivial, trivial, trivial, ?_, fun entry member => ?_⟩
  · intro rtpType originTrans rest metadata _ found
    cases found
    exact ⟨⟨96⟩, rfl, fun _ _ => ⟨rfl, rfl⟩⟩
  · cases member

/-- A first packet whose event is taken before the description arrives leaves the
stream silent for good. -/
theorem early_packet_never_starts :
    ¬ (Runs.final step (initMedia Unit)
      [.refreshRtp 96 (), .advance 0 false, .advance 0 false, .advance 0 false,
        .handInner true true, .initMediaExt ⟨96⟩]).Starts := by
  intro starts
  have described : (Runs.final step (initMedia Unit)
      [.refreshRtp 96 (), .advance 0 false, .advance 0 false, .advance 0 false,
        .handInner true true, .initMediaExt ⟨96⟩]).Described := ⟨_, _, rfl, rfl⟩
  rcases starts described (by decide) ⟨rfl, rfl⟩ with (out | ⟨event, member, _⟩) | ⟨channel, same, waits⟩
  · exact out rfl
  · cases member
  · cases same
    cases waits

/-- So does an event that finds no subscriber of the configuration on the bus. -/
example : (Runs.final step (initMedia Unit) (descriptionFirst.take 5 ++ [.handInner true false])) =
    ⟨some ⟨0, false, 0⟩, some ⟨some ⟨96⟩, some ()⟩, [.out .success none], [], [], 1⟩ := by
  decide

end Gmv.Stream.Register
