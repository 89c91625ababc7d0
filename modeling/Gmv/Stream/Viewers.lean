import Gmv.Library.TaskPool
import Gmv.Stream.MediaRegister

/-!
# Viewers of a stream

One stream of the media node and those who watch it.  A viewer is counted at its output
and under its token when it is admitted; an http body, or the handler itself, leaves an
out session behind, and the expiry of the session takes the viewer off both counts again.
An output whose count has come down to zero raises a `StreamIdle` event, whose answer
keeps the muxer by a placeholder session, closes the muxer, or closes the stream.  Calls
run at the same time, one atomic operation after the other.  An event may stay without an
answer, so whether the event queue has room is left out, as is the `OffPlay` event.
-/

namespace Gmv.Stream.Viewers

open Gmv.Library Gmv.Library.TaskPool
open Media (OutputEnum BaseStreamInfo OutputStreamInfo OutputEventRes Resp outputRes)

def outputs : List OutputEnum :=
  [.httpFlv, .rtmp, .dashFmp4, .dashMp4, .hlsFmp4, .hlsTs, .rtsp, .gb28181Frame, .gb28181Ps, .webRtc,
    .localMp4, .localTs]

theorem mem_outputs (output : OutputEnum) : output ∈ outputs := by
  cases output <;> simp [outputs]

inductive MuxerEnum where
  | flv
  | mp4
  | ts
  | fMp4
  | hlsMp4
  | dashMp4
  | hlsTs
  | rtpFrame
  | rtpPs
  | rtpEnc
  deriving DecidableEq, Repr

def MuxerEnum.fromOutputEnum : OutputEnum → MuxerEnum
  | .httpFlv => .flv
  | .rtmp => .flv
  | .dashMp4 => .dashMp4
  | .dashFmp4 => .fMp4
  | .hlsFmp4 => .hlsMp4
  | .hlsTs => .ts
  | .rtsp => .rtpFrame
  | .gb28181Frame => .rtpFrame
  | .gb28181Ps => .rtpPs
  | .webRtc => .rtpEnc
  | .localMp4 => .mp4
  | .localTs => .ts

/-! ## The counts of the outputs -/

/-- One atomic counter for each output. -/
abbrev OutputCount := OutputEnum → UInt32

namespace OutputCount

variable (count : OutputCount) (output : OutputEnum)

def getOutCount : UInt32 := (outputs.map count).foldr (· + ·) 0

def getMuxerSize : UInt32 := count output

def add : OutputCount := Function.update count output (count output + 1)

/-- `fetch_sub(1)`, the first half of `subtract`; it wraps below zero. -/
def fetchSub : OutputCount := Function.update count output (count output - 1)

/-- The second half of `subtract` when the counter was zero. -/
def storeZero : OutputCount := Function.update count output 0

end OutputCount

/-- The part of the metadata that viewers touch: the counts and the muxers that are open. -/
structure StreamMetadata where
  outputCount : OutputCount
  muxers : MuxerEnum → Bool

/-- An out session; its address is that of a viewer, or the placeholder. -/
structure OutSession where
  viewer : Bool
  token : String
  outputEnum : OutputEnum
  deriving DecidableEq, Repr

/-- The plays of one token, by output. -/
abbrev PlayCounts := OutputEnum → Option UInt32

def PlayCounts.isEmpty (plays : PlayCounts) : Bool := outputs.all fun output => (plays output).isNone

/-- The stream, if it is registered, its viewers by token, the out sessions under their
ids, the `StreamIdle` events on their way, and how many viewers are attached to an output:
admitted, and their session not expired. -/
structure State where
  info : BaseStreamInfo
  metadata : Option StreamMetadata
  userTokenMap : String → Option PlayCounts
  outSessionMap : List (Nat × OutSession)
  nextId : Nat
  events : List OutputStreamInfo
  attached : OutputEnum → Nat

namespace State

variable (state : State)

/-- A stream that has just been initialised. -/
def init (info : BaseStreamInfo) (muxers : MuxerEnum → Bool) : State :=
  ⟨info, some ⟨fun _ => 0, muxers⟩, fun _ => none, [], 1, [], fun _ => 0⟩

def setCount (metadata : StreamMetadata) (count : OutputCount) : State :=
  { state with metadata := some { metadata with outputCount := count } }

def attach (output : OutputEnum) : State :=
  { state with attached := Function.update state.attached output (state.attached output + 1) }

def detach (output : OutputEnum) : State :=
  { state with attached := Function.update state.attached output (state.attached output - 1) }

def setToken (token : String) (plays : Option PlayCounts) : State :=
  { state with userTokenMap := Function.update state.userTokenMap token plays }

/-- A session gets the next id. -/
def addSession (session : OutSession) : State :=
  { state with
    outSessionMap := state.outSessionMap ++ [(state.nextId, session)]
    nextId := state.nextId + 1 }

def sessionAt (id : Nat) : Option OutSession :=
  (state.outSessionMap.find? (·.1 = id)).map Prod.snd

def removeSession (id : Nat) : State :=
  { state with outSessionMap := state.outSessionMap.eraseP (·.1 = id) }

def sessions : List OutSession := state.outSessionMap.map Prod.snd

def checkToken (token : String) : Bool := (state.userTokenMap token).isSome

/-- How often a token plays an output. -/
def timesOf (token : String) (output : OutputEnum) : Option UInt32 :=
  (state.userTokenMap token).bind fun plays => plays output

/-- The half of `insert_out_token` that works on `user_token_map`. -/
def insertToken (token : String) (output : OutputEnum) : State :=
  match state.userTokenMap token with
  | some plays =>
      match plays output with
      | some times => state.setToken token (some (Function.update plays output (some (times + 1))))
      | none => state.setToken token (some (Function.update plays output (some 1)))
  | none => state.setToken token (some (Function.update (fun _ => none) output (some 1)))

/-- The part of `clean_play_token` that works on `user_token_map`. -/
def cleanToken (token : String) (output : OutputEnum) : State :=
  match state.userTokenMap token with
  | none => state
  | some plays =>
      match plays output with
      | none => state
      | some times =>
          if times = 1 then
            let rest : PlayCounts := Function.update plays output none
            if rest.isEmpty then state.setToken token none else state.setToken token (some rest)
          else state.setToken token (some (Function.update plays output (some (times - 1))))

end State

/-! ## The handlers -/

/-- What a handler does with a viewer that it has admitted: it opens a body and leaves the
session to the end of the body, or leaves the session itself, or just answers. -/
inductive Course where
  | body
  | listen
  | answer
  deriving DecidableEq, Repr

structure Handler where
  output : OutputEnum
  asksOnPlay : Bool
  course : Course
  deriving DecidableEq, Repr

def flv : Handler := ⟨.httpFlv, true, .body⟩
def fmp4 : Handler := ⟨.dashFmp4, true, .body⟩
def mpd : Handler := ⟨.dashMp4, true, .answer⟩
def m4it : Handler := ⟨.dashMp4, false, .listen⟩
def m4s : Handler := ⟨.dashMp4, false, .listen⟩

/-- The handlers behind the play path. -/
def httpHandlers : List Handler := [flv, fmp4, mpd, m4it, m4s]

inductive OptAction where
  | insert
  | remove
  deriving DecidableEq, Repr

/-- Why a count goes down: a session has expired, and zero raises `StreamIdle`, or an
output says that it no longer uses the muxer. -/
inductive Cause where
  | expiry (session : OutSession)
  | removal (output : OutputEnum)
  deriving DecidableEq, Repr

def Cause.output : Cause → OutputEnum
  | .expiry session => session.outputEnum
  | .removal output => output

/-- What a call has still to do, by its next operation.  A request knows what `OnPlay`
and `get_muxer_rx` will answer. -/
inductive Task where
  | request (handler : Handler) (token : String) (onPlay : Option Bool) (rx : Bool)
  | check (handler : Handler) (token : String) (onPlay : Option Bool) (rx : Bool)
  | insertOutToken (handler : Handler) (token : String) (rx : Bool)
  | insertToken (handler : Handler) (token : String) (rx : Bool)
  | play (handler : Handler) (token : String) (rx : Bool)
  | body (output : OutputEnum) (token : String)
  | listenOutputTimeout (output : OutputEnum) (token : String)
  | expire (id : Nat)
  | cleanToken (session : OutSession)
  | subtract (cause : Cause)
  | storeZero (cause : Cause)
  | streamIdle (output : OutputEnum)
  | handleOutput (act : OptAction) (output : OutputEnum)
  | closeStreamByOutput (index : Nat) (answer : Option (Resp OutputEventRes))
  deriving DecidableEq, Repr

/-- An output that is at zero raises its event next, if a session has brought it there. -/
def Cause.atZero : Cause → Option Task
  | .expiry session => some (.streamIdle session.outputEnum)
  | .removal _ => none

/-- `subtract` up to its store. -/
def subtract (state : State) (cause : Cause) : Option Task × State :=
  match state.metadata with
  | none => (none, state)
  | some metadata =>
      let last := metadata.outputCount cause.output
      (if last = 0 then some (.storeZero cause) else if last = 1 then cause.atZero else none,
        state.setCount metadata (metadata.outputCount.fetchSub cause.output))

def closeStreamByOutput (state : State) (index : Nat) (answer : Option (Resp OutputEventRes)) : State :=
  match state.events[index]? with
  | none => state
  | some info =>
      let handled := { state with events := state.events.eraseIdx index }
      match outputRes info answer with
      | .keepMuxer => handled.addSession ⟨false, "", info.playType⟩
      | .closeMuxer =>
          match state.metadata with
          | none => handled
          | some metadata =>
              if metadata.outputCount.getMuxerSize info.playType = 0 then
                { handled with metadata := some { metadata with
                    muxers := Function.update metadata.muxers (.fromOutputEnum info.playType) false } }
              else handled
      | .closeAll => { handled with metadata := none }

def work (state : State) : Task → Option Task × State
  | .request handler token onPlay rx =>
      (if state.metadata.isSome then some (.check handler token onPlay rx) else none, state)
  | .check handler token onPlay rx =>
      if state.checkToken token then (some (.insertOutToken handler token rx), state)
      else if handler.asksOnPlay ∧ onPlay = some true then
        (some (.insertOutToken handler token rx), state)
      else (none, state)
  | .insertOutToken handler token rx =>
      match state.metadata with
      | none => (none, state)
      | some metadata =>
          (some (.insertToken handler token rx),
            (state.setCount metadata (metadata.outputCount.add handler.output)).attach handler.output)
  | .insertToken handler token rx =>
      (some (.play handler token rx), state.insertToken token handler.output)
  | .play handler token rx =>
      match handler.course with
      | .body => (if rx then some (.body handler.output token) else none, state)
      | .listen => (some (.listenOutputTimeout handler.output token), state)
      | .answer => (none, state)
  | .body output token => (some (.listenOutputTimeout output token), state)
  | .listenOutputTimeout output token =>
      (none, if state.metadata.isSome then state.addSession ⟨true, token, output⟩ else state)
  | .expire id =>
      match state.sessionAt id with
      | none => (none, state)
      | some session =>
          let removed := state.removeSession id
          (some (.cleanToken session),
            if session.viewer then removed.detach session.outputEnum else removed)
  | .cleanToken session =>
      (some (.subtract (.expiry session)), state.cleanToken session.token session.outputEnum)
  | .subtract cause => subtract state cause
  | .storeZero cause =>
      match state.metadata with
      | none => (none, state)
      | some metadata =>
          (cause.atZero, state.setCount metadata (metadata.outputCount.storeZero cause.output))
  | .streamIdle output =>
      match state.metadata with
      | none => (none, state)
      | some metadata =>
          (none, { state with
            events := state.events ++ [⟨state.info, output, metadata.outputCount.getOutCount⟩] })
  | .handleOutput .insert output =>
      match state.metadata with
      | none => (none, state)
      | some metadata => (none, state.setCount metadata (metadata.outputCount.add output))
  | .handleOutput .remove output => subtract state (.removal output)
  | .closeStreamByOutput index answer => (none, closeStreamByOutput state index answer)

/-! ## The pieces of the state -/

namespace OutputCount

variable {count : OutputCount} {output other : OutputEnum}

theorem add_self : count.add output output = count output + 1 := by
  rw [add, Function.update_self]

theorem add_of_ne (different : other ≠ output) : count.add output other = count other := by
  rw [add, Function.update_of_ne different]

theorem fetchSub_self : count.fetchSub output output = count output - 1 := by
  rw [fetchSub, Function.update_self]

theorem fetchSub_of_ne (different : other ≠ output) : count.fetchSub output other = count other := by
  rw [fetchSub, Function.update_of_ne different]

theorem storeZero_self : count.storeZero output output = 0 := by
  rw [storeZero, Function.update_self]

theorem storeZero_of_ne (different : other ≠ output) :
    count.storeZero output other = count other := by
  rw [storeZero, Function.update_of_ne different]

end OutputCount

theorem PlayCounts.isEmpty_iff (plays : PlayCounts) :
    plays.isEmpty = true ↔ ∀ output, plays output = none := by
  simp only [isEmpty, List.all_eq_true, Option.isNone_iff_eq_none]
  exact ⟨fun all output => all output (mem_outputs output), fun all output _ => all output⟩

namespace State

variable {state : State} {token : String} {output : OutputEnum} {id : Nat} {session : OutSession}

theorem attach_self : (state.attach output).attached output = state.attached output + 1 :=
  Function.update_self ..

theorem attach_of_ne {other : OutputEnum} (different : other ≠ output) :
    (state.attach output).attached other = state.attached other :=
  Function.update_of_ne different ..

theorem detach_self : (state.detach output).attached output = state.attached output - 1 :=
  Function.update_self ..

theorem detach_of_ne {other : OutputEnum} (different : other ≠ output) :
    (state.detach output).attached other = state.attached other :=
  Function.update_of_ne different ..

@[simp]
theorem addSession_sessions : (state.addSession session).sessions = state.sessions ++ [session] := by
  simp [addSession, sessions]

/-- The session of an id is taken out. -/
theorem sessions_perm (found : state.sessionAt id = some session) :
    state.sessions.Perm (session :: (state.removeSession id).sessions) := by
  obtain ⟨entry, isEntry, rfl⟩ := Option.map_eq_some_iff.mp found
  simp only [sessions, removeSession]
  clear found
  generalize state.outSessionMap = entries at isEntry ⊢
  induction entries with
  | nil => cases isEntry
  | cons head rest ih =>
      by_cases same : head.1 = id
      · rw [List.find?_cons_of_pos (by simpa using same)] at isEntry
        cases isEntry
        rw [List.eraseP_cons_of_pos (by simpa using same)]
        exact List.Perm.refl _
      · rw [List.find?_cons_of_neg (by simpa using same)] at isEntry
        rw [List.eraseP_cons_of_neg (by simpa using same)]
        exact ((ih isEntry).cons _).trans (List.Perm.swap ..)

theorem setToken_userTokenMap (plays : Option PlayCounts) (other : String) :
    (state.setToken token plays).userTokenMap other =
      if other = token then plays else state.userTokenMap other := by
  simp only [setToken, Function.update_apply]

theorem setToken_timesOf (plays : Option PlayCounts) (otherToken : String) (other : OutputEnum) :
    (state.setToken token plays).timesOf otherToken other =
      if otherToken = token then plays.bind (fun counts => counts other)
      else state.timesOf otherToken other := by
  simp only [timesOf, setToken_userTokenMap]
  split <;> rfl

/-- The times of a token are set at one output. -/
theorem setToken_update_timesOf {plays : PlayCounts} (present : ∀ other,
    state.timesOf token other = plays other) (times : Option UInt32) (otherToken : String)
    (other : OutputEnum) :
    (state.setToken token (some (Function.update plays output times))).timesOf otherToken other =
      if otherToken = token ∧ other = output then times else state.timesOf otherToken other := by
  rw [setToken_timesOf]
  by_cases same : otherToken = token
  · subst same
    simp only [true_and, if_true, Option.bind_some, Function.update_apply, present]
  · simp only [same, false_and, if_false]

theorem insertToken_timesOf (otherToken : String) (other : OutputEnum) :
    (state.insertToken token output).timesOf otherToken other =
      if otherToken = token ∧ other = output then
        some ((state.timesOf token output).elim 1 (· + 1))
      else state.timesOf otherToken other := by
  rw [insertToken]
  split
  · next plays present =>
      have same (other : OutputEnum) : state.timesOf token other = plays other := by
        rw [timesOf, present, Option.bind_some]
      split
      · next times counted => rw [setToken_update_timesOf same, same, counted]; rfl
      · next uncounted => rw [setToken_update_timesOf same, same, uncounted]; rfl
  · next absent =>
      have same (other : OutputEnum) : state.timesOf token other = none := by
        rw [timesOf, absent, Option.bind_none]
      rw [setToken_update_timesOf same, same]
      rfl

theorem cleanToken_timesOf (otherToken : String) (other : OutputEnum) :
    (state.cleanToken token output).timesOf otherToken other =
      if otherToken = token ∧ other = output then
        (state.timesOf token output).bind fun times => if times = 1 then none else some (times - 1)
      else state.timesOf otherToken other := by
  have unchanged (absent : state.timesOf token output = none) :
      state.timesOf otherToken other = if otherToken = token ∧ other = output then
        (state.timesOf token output).bind fun times => if times = 1 then none else some (times - 1)
      else state.timesOf otherToken other := by
    split
    · next same => rw [same.1, same.2, absent, Option.bind_none]
    · rfl
  rw [cleanToken]
  split
  · next absent => exact unchanged (by rw [timesOf, absent, Option.bind_none])
  · next plays present =>
      have same (other : OutputEnum) : state.timesOf token other = plays other := by
        rw [timesOf, present, Option.bind_some]
      split
      · next uncounted => exact unchanged (by rw [same, uncounted])
      · next times counted =>
          rw [same, counted, Option.bind_some]
          split
          · next once =>
              dsimp only
              split
              · next empty =>
                  rw [PlayCounts.isEmpty_iff] at empty
                  rw [setToken_timesOf, Option.bind_none]
                  by_cases sameToken : otherToken = token
                  · subst sameToken
                    have rest := empty other
                    rw [Function.update_apply] at rest
                    simp only [true_and, if_true, same]
                    split at rest
                    · next sameOutput => rw [if_pos sameOutput]
                    · next otherOutput => rw [if_neg otherOutput, rest]
                  · simp only [sameToken, false_and, if_false]
              · exact setToken_update_timesOf same none otherToken other
          · exact setToken_update_timesOf same _ otherToken other

/-! Tokens are all that these two change. -/

section Tokens

variable (state token output)

@[simp]
theorem insertToken_metadata : (state.insertToken token output).metadata = state.metadata := by
  rw [insertToken]
  split
  · split <;> rfl
  · rfl

@[simp]
theorem insertToken_sessions : (state.insertToken token output).sessions = state.sessions := by
  rw [insertToken]
  split
  · split <;> rfl
  · rfl

@[simp]
theorem insertToken_attached : (state.insertToken token output).attached = state.attached := by
  rw [insertToken]
  split
  · split <;> rfl
  · rfl

@[simp]
theorem cleanToken_attached : (state.cleanToken token output).attached = state.attached := by
  rw [cleanToken]
  split
  · rfl
  · split
    · rfl
    · split
      · dsimp only
        split <;> rfl
      · rfl

@[simp]
theorem cleanToken_metadata : (state.cleanToken token output).metadata = state.metadata := by
  rw [cleanToken]
  split
  · rfl
  · split
    · rfl
    · split
      · dsimp only
        split <;> rfl
      · rfl

@[simp]
theorem cleanToken_sessions : (state.cleanToken token output).sessions = state.sessions := by
  rw [cleanToken]
  split
  · rfl
  · split
    · rfl
    · split
      · dsimp only
        split <;> rfl
      · rfl

end Tokens

/-- A token that is there plays something. -/
def TokensPlay (state : State) : Prop :=
  ∀ token, (state.userTokenMap token).isSome → ∃ output, (state.timesOf token output).isSome

theorem TokensPlay.setToken (play : state.TokensPlay) {plays : Option PlayCounts}
    (some' : ∀ counts ∈ plays, ∃ output, (counts output).isSome) : (state.setToken token plays).TokensPlay := by
  intro other present
  simp only [setToken_userTokenMap] at present
  simp only [setToken_timesOf]
  split at present
  · next same =>
      obtain ⟨counts, rfl⟩ := Option.isSome_iff_exists.mp present
      simpa only [same, if_true, Option.bind_some] using some' counts rfl
  · next different =>
      simpa only [different, if_false] using play other present

theorem TokensPlay.insertToken (play : state.TokensPlay) : (state.insertToken token output).TokensPlay := by
  rw [State.insertToken]
  split
  · split
    all_goals
      apply play.setToken
      rintro _ ⟨⟩
      exact ⟨output, by rw [Function.update_self]; rfl⟩
  · apply play.setToken
    rintro _ ⟨⟩
    exact ⟨output, by rw [Function.update_self]; rfl⟩

theorem TokensPlay.cleanToken (play : state.TokensPlay) : (state.cleanToken token output).TokensPlay := by
  rw [State.cleanToken]
  split
  · exact play
  · split
    · exact play
    · split
      · dsimp only
        split
        · exact play.setToken (fun _ none => by cases none)
        · next occupied =>
            apply play.setToken
            rintro _ ⟨⟩
            rw [PlayCounts.isEmpty_iff, not_forall] at occupied
            obtain ⟨other, counted⟩ := occupied
            exact ⟨other, Option.isSome_iff_ne_none.mpr counted⟩
      · apply play.setToken
        rintro _ ⟨⟩
        exact ⟨output, by rw [Function.update_self]; rfl⟩

end State

end Gmv.Stream.Viewers
