import Gmv.Library.Runs

/-!
# Talk sessions of the media node

A talk is opened under an id, and a sender task is spawned for it.  A close removes the
session and cancels the sender, which then leaves its loop, removes what is registered
under the id and reports the talk as closed.  The two parts of a close, the end of the
loop and the last removal are steps of their own, and an id may be opened again between
any two of them.  A session is known by the number of its cancellation token.
-/

namespace Gmv.Stream.Talk

open Gmv.Library

structure TalkOpenReq where
  talkId : String
  ssrc : UInt32
  token : String
  codec : String
  sampleRate : UInt32
  channelCount : UInt8
  payloadType : UInt8
  frameDurationMs : UInt16
  deriving DecidableEq, Repr

/-- The answer to an open, without the address that takes the frames. -/
structure TalkOpenResp where
  talkId : String
  rtpPort : UInt16
  codec : String
  sampleRate : UInt32
  channelCount : UInt8
  payloadType : UInt8
  frameDurationMs : UInt16
  deriving DecidableEq, Repr

inductive Protocol where
  | udp
  | tcp
  | all
  deriving DecidableEq, Repr

structure TalkTarget (A : Type) where
  addr : A
  protocol : Protocol
  deriving DecidableEq, Repr

/-- A registered session.  Its target and its payload type are shared with its sender. -/
structure TalkSession where
  ssrc : UInt32
  token : String
  codec : String
  sampleRate : UInt32
  channelCount : UInt8
  frameDurationMs : UInt16
  cancel : Nat
  deriving DecidableEq, Repr

inductive CloseReason where
  | cancelled
  | inputClosed
  | inputTimeout
  deriving DecidableEq, Repr

/-- The task of a session; with a reason it has left its loop. -/
structure Sender where
  talkId : String
  closeReason : Option CloseReason
  deriving DecidableEq, Repr

/-- The registered sessions, what each token's session shares with its sender, the
tokens whose close has still to cancel them, the cancelled ones, the senders, and the
number of tokens so far. -/
structure State (A : Type) where
  rtpPort : Option UInt16
  sessions : String → Option TalkSession
  targets : Nat → Option (TalkTarget A)
  payloadTypes : Nat → UInt8
  cancelling : Nat → Bool
  cancelled : Nat → Bool
  senders : Nat → Option Sender
  tokens : Nat

def init (A : Type) (rtpPort : Option UInt16) : State A :=
  ⟨rtpPort, fun _ => none, fun _ => none, fun _ => 0, fun _ => false, fun _ => false,
    fun _ => none, 0⟩

/-- What a step gives back.  A close and a sender's end may close a TCP connection. -/
inductive Outcome (A : Type) where
  | opened (resp : TalkOpenResp) (cancel : Nat)
  | refused (msg : String)
  | answered
  | removed (tcpClose : Option A)
  | notFound
  | cancelled
  | left
  | closed (talkId : String) (reason : CloseReason) (tcpClose : Option A)
  | ended
  | waiting
  deriving DecidableEq, Repr

inductive Action (A : Type) where
  | openTalk (req : TalkOpenReq)
  | answer (talkId : String) (target : TalkTarget A) (payloadType : UInt8)
  | close (talkId : String)
  | cancel (token : Nat)
  | leave (token : Nat) (reason : CloseReason)
  | finish (token : Nat)
  deriving DecidableEq, Repr

variable {A : Type}

def validateOpenReq (req : TalkOpenReq) : Except String Unit :=
  if req.talkId = "" ∨ req.token = "" then .error "talk_id/token must not be empty"
  else if req.sampleRate = 0 ∨ req.channelCount = 0 ∨ req.frameDurationMs = 0 then
    .error "invalid talk audio config"
  else .ok ()

def closeTalkTarget (target : Option (TalkTarget A)) : Option A :=
  target.bind fun target => if target.protocol = .tcp then some target.addr else none

def openTalk (state : State A) (req : TalkOpenReq) : Outcome A × State A :=
  match validateOpenReq req with
  | .error msg => (.refused msg, state)
  | .ok () =>
      match state.rtpPort with
      | none => (.refused "rtp writer is not initialized", state)
      | some rtpPort =>
          match state.sessions req.talkId with
          | some _ => (.refused "talk session already exists", state)
          | none =>
              let cancel := state.tokens
              (.opened ⟨req.talkId, rtpPort, req.codec, req.sampleRate, req.channelCount,
                  req.payloadType, req.frameDurationMs⟩ cancel,
                { state with
                  sessions := Function.update state.sessions req.talkId
                    (some ⟨req.ssrc, req.token, req.codec, req.sampleRate, req.channelCount,
                      req.frameDurationMs, cancel⟩)
                  targets := Function.update state.targets cancel none
                  payloadTypes := Function.update state.payloadTypes cancel req.payloadType
                  senders := Function.update state.senders cancel (some ⟨req.talkId, none⟩)
                  tokens := cancel + 1 })

def answer (state : State A) (talkId : String) (target : TalkTarget A) (payloadType : UInt8) :
    Outcome A × State A :=
  match state.sessions talkId with
  | none => (.notFound, state)
  | some session =>
      (.answered, { state with
        targets := Function.update state.targets session.cancel (some target)
        payloadTypes := Function.update state.payloadTypes session.cancel payloadType })

/-- The first part of a close, up to the cancellation. -/
def close (state : State A) (talkId : String) : Outcome A × State A :=
  match state.sessions talkId with
  | none => (.notFound, state)
  | some session =>
      (.removed (if state.rtpPort.isSome then closeTalkTarget (state.targets session.cancel)
          else none),
        { state with
          sessions := Function.update state.sessions talkId none
          cancelling := Function.update state.cancelling session.cancel true })

/-- The last part of a close. -/
def cancel (state : State A) (token : Nat) : Outcome A × State A :=
  if state.cancelling token then
    (.cancelled, { state with
      cancelling := Function.update state.cancelling token false
      cancelled := Function.update state.cancelled token true })
  else (.waiting, state)

/-- A branch of the sender's `select!` is ready: its token is cancelled, its session was
dropped with the input end of the queue, or frames have stopped for too long. -/
def ready (state : State A) (token : Nat) (talkId : String) : CloseReason → Bool
  | .cancelled => state.cancelled token
  | .inputClosed => !(state.sessions talkId).any fun session => session.cancel == token
  | .inputTimeout => true

/-- The sender leaves its loop. -/
def leave (state : State A) (token : Nat) (reason : CloseReason) : Outcome A × State A :=
  match state.senders token with
  | some ⟨talkId, none⟩ =>
      if ready state token talkId reason then
        (.left, { state with
          senders := Function.update state.senders token (some ⟨talkId, some reason⟩) })
      else (.waiting, state)
  | _ => (.waiting, state)

/-- The sender removes what is registered under its id, and reports it. -/
def finish (state : State A) (token : Nat) : Outcome A × State A :=
  match state.senders token with
  | some ⟨talkId, some reason⟩ =>
      let senders := Function.update state.senders token none
      match state.sessions talkId with
      | some _ =>
          (.closed talkId reason (closeTalkTarget (state.targets token)),
            { state with sessions := Function.update state.sessions talkId none, senders := senders })
      | none => (.ended, { state with senders := senders })
  | _ => (.waiting, state)

def step (state : State A) : Action A → Outcome A × State A
  | .openTalk req => openTalk state req
  | .answer talkId target payloadType => answer state talkId target payloadType
  | .close talkId => close state talkId
  | .cancel token => cancel state token
  | .leave token reason => leave state token reason
  | .finish token => finish state token

abbrev Entry (A : Type) := Runs.Transition (State A) (Action A) (Outcome A)

/-- The session of a token is registered under an id. -/
def Holds (talkId : String) (token : Nat) (state : State A) : Prop :=
  ∃ session, state.sessions talkId = some session ∧ session.cancel = token

/-- A close of the id, or the end of the session's own sender, by its timeout or by the
end of its input. -/
def Releases (talkId : String) (token : Nat) (entry : Entry A) : Prop :=
  entry.action = .close talkId ∨
    entry.action = .finish token ∧ ∃ reason, reason ≠ .cancelled ∧
      entry.before.senders token = some ⟨talkId, some reason⟩

/-- Every session that is opened stays registered until it is released. -/
def KeptUntilReleased (entries : List (Entry A)) : Prop :=
  ∀ first opening later, entries = first ++ opening :: later →
    ∀ resp token, opening.result = .opened resp token →
      ∀ middle entry rest, later = middle ++ entry :: rest →
        Holds resp.talkId token entry.after ∨
          ∃ release ∈ middle ++ [entry], Releases resp.talkId token release

/-- A sender reports the end of its own session only. -/
def ReportsOwn (entries : List (Entry A)) : Prop :=
  ∀ entry ∈ entries, ∀ talkId reason tcpClose, entry.result = .closed talkId reason tcpClose →
    ∃ token, entry.action = .finish token ∧ Holds talkId token entry.before

/-- The last removal of a sender finds its own session under its id, or none: the id was
not opened again before. -/
def FindsOwn (state : State A) (action : Action A) : Prop :=
  ∀ token, action = .finish token → ∀ talkId reason session,
    state.senders token = some ⟨talkId, some reason⟩ → state.sessions talkId = some session →
      session.cancel = token

/-! ## Tokens and senders -/

/-- Tokens are numbered in turn, no two sessions share one, the token of a registered
session is not cancelled, and a cancelled sender has a cancelled token. -/
structure Sound (state : State A) : Prop where
  fresh : ∀ token, state.tokens ≤ token →
    state.cancelled token = false ∧ state.cancelling token = false ∧ state.senders token = none
  registered : ∀ talkId session, state.sessions talkId = some session →
    session.cancel < state.tokens ∧ state.cancelled session.cancel = false ∧
      state.cancelling session.cancel = false
  apart : ∀ first second one two, state.sessions first = some one →
    state.sessions second = some two → one.cancel = two.cancel → first = second
  left : ∀ token talkId, state.senders token = some ⟨talkId, some .cancelled⟩ →
    state.cancelled token = true

theorem sound_init (rtpPort : Option UInt16) : Sound (init A rtpPort) where
  fresh _ _ := ⟨rfl, rfl, rfl⟩
  registered _ _ found := by cases found
  apart _ _ _ _ found := by cases found
  left _ _ found := by cases found

section Steps

variable {state : State A}

theorem openTalk_cases (state : State A) (req : TalkOpenReq) :
    (∃ msg, openTalk state req = (.refused msg, state)) ∨
      ∃ session resp, state.sessions req.talkId = none ∧ session.cancel = state.tokens ∧
        resp.talkId = req.talkId ∧
        openTalk state req = (.opened resp state.tokens, { state with
          sessions := Function.update state.sessions req.talkId (some session)
          targets := Function.update state.targets state.tokens none
          payloadTypes := Function.update state.payloadTypes state.tokens req.payloadType
          senders := Function.update state.senders state.tokens (some ⟨req.talkId, none⟩)
          tokens := state.tokens + 1 }) := by
  rw [openTalk]
  split
  · exact Or.inl ⟨_, rfl⟩
  · split
    · exact Or.inl ⟨_, rfl⟩
    · split
      · exact Or.inl ⟨_, rfl⟩
      · rename_i vacant
        exact Or.inr ⟨_, _, vacant, rfl, rfl, rfl⟩

theorem finish_cases (state : State A) (token : Nat) :
    finish state token = (.waiting, state) ∨
    (∃ talkId reason session, state.senders token = some ⟨talkId, some reason⟩ ∧
      state.sessions talkId = some session ∧
      finish state token = (.closed talkId reason (closeTalkTarget (state.targets token)),
        { state with
          sessions := Function.update state.sessions talkId none
          senders := Function.update state.senders token none })) ∨
    ∃ talkId reason, state.senders token = some ⟨talkId, some reason⟩ ∧
      state.sessions talkId = none ∧
      finish state token = (.ended, { state with
        senders := Function.update state.senders token none }) := by
  rw [finish]
  split
  · rename_i talkId reason sender
    split
    · rename_i session found
      exact Or.inr (Or.inl ⟨talkId, reason, session, sender, found, rfl⟩)
    · rename_i vacant
      exact Or.inr (Or.inr ⟨talkId, reason, sender, vacant, rfl⟩)
  · exact Or.inl rfl

theorem leave_cases (state : State A) (token : Nat) (reason : CloseReason) :
    leave state token reason = (.waiting, state) ∨
      ∃ talkId, state.senders token = some ⟨talkId, none⟩ ∧ ready state token talkId reason = true ∧
        leave state token reason = (.left, { state with
          senders := Function.update state.senders token (some ⟨talkId, some reason⟩) }) := by
  rw [leave]
  split
  · rename_i talkId sender
    split
    · rename_i isReady
      exact Or.inr ⟨talkId, sender, isReady, rfl⟩
    · exact Or.inl rfl
  · exact Or.inl rfl

/-- A sessions map without one id has fewer sessions. -/
theorem found_of_update_none {sessions : String → Option TalkSession} {removed talkId : String}
    {session : TalkSession} (found : Function.update sessions removed none talkId = some session) :
    talkId ≠ removed ∧ sessions talkId = some session := by
  by_cases same : talkId = removed
  · rw [same, Function.update_self] at found
    cases found
  · rw [Function.update_of_ne same] at found
    exact ⟨same, found⟩

theorem Sound.openTalk (sound : Sound state) (req : TalkOpenReq) :
    Sound (openTalk state req).2 := by
  rcases openTalk_cases state req with ⟨msg, refused⟩ | ⟨session, resp, _, isNext, _, opened⟩
  · rw [refused]
    exact sound
  · rw [opened]
    have older : ∀ talkId other,
        Function.update state.sessions req.talkId (some session) talkId = some other →
          (talkId = req.talkId ∧ other = session) ∨
            talkId ≠ req.talkId ∧ state.sessions talkId = some other := by
      intro talkId other found
      by_cases same : talkId = req.talkId
      · rw [same, Function.update_self] at found
        exact Or.inl ⟨same, (Option.some.inj found).symm⟩
      · rw [Function.update_of_ne same] at found
        exact Or.inr ⟨same, found⟩
    refine ⟨fun token past => ?_, fun talkId other found => ?_, ?_, fun token talkId isLeft => ?_⟩
    · have before : state.tokens ≤ token := Nat.le_trans (Nat.le_succ _) past
      obtain ⟨live, idle, noSender⟩ := sound.fresh token before
      refine ⟨live, idle, ?_⟩
      change Function.update state.senders state.tokens _ token = none
      rw [Function.update_of_ne (Nat.ne_of_gt past)]
      exact noSender
    · rcases older talkId other found with ⟨_, rfl⟩ | ⟨_, old⟩
      · obtain ⟨live, idle, _⟩ := sound.fresh state.tokens (Nat.le_refl _)
        rw [← isNext] at live idle
        exact ⟨Nat.lt_succ_of_le (Nat.le_of_eq isNext), live, idle⟩
      · obtain ⟨below, live⟩ := sound.registered talkId other old
        exact ⟨Nat.lt_succ_of_lt below, live⟩
    · intro first second one two isOne isTwo same
      rcases older first one isOne with ⟨atFirst, rfl⟩ | ⟨_, oldOne⟩ <;>
        rcases older second two isTwo with ⟨atSecond, rfl⟩ | ⟨_, oldTwo⟩
      · exact atFirst.trans atSecond.symm
      · have below := (sound.registered second two oldTwo).1
        exact absurd (same.symm.trans isNext) (Nat.ne_of_lt below)
      · have below := (sound.registered first one oldOne).1
        exact absurd (same.trans isNext) (Nat.ne_of_lt below)
      · exact sound.apart first second one two oldOne oldTwo same
    · by_cases same : token = state.tokens
      · rw [same] at isLeft
        change Function.update state.senders state.tokens _ state.tokens = _ at isLeft
        rw [Function.update_self] at isLeft
        cases isLeft
      · change Function.update state.senders state.tokens _ token = _ at isLeft
        rw [Function.update_of_ne same] at isLeft
        exact sound.left token talkId isLeft

theorem Sound.answer (sound : Sound state) (talkId : String) (target : TalkTarget A)
    (payloadType : UInt8) : Sound (answer state talkId target payloadType).2 := by
  rw [Talk.answer]
  split
  · exact sound
  · exact ⟨sound.fresh, sound.registered, sound.apart, sound.left⟩

/-- Removing a session keeps the tokens of the others apart. -/
theorem Sound.close (sound : Sound state) (talkId : String) : Sound (close state talkId).2 := by
  rw [Talk.close]
  split
  · exact sound
  · rename_i session found
    refine ⟨fun token past => ?_, fun other kept isKept => ?_, ?_, sound.left⟩
    · obtain ⟨live, idle, noSender⟩ := sound.fresh token past
      have below := (sound.registered talkId session found).1
      refine ⟨live, ?_, noSender⟩
      change Function.update state.cancelling session.cancel true token = false
      rw [Function.update_of_ne (Nat.ne_of_gt (Nat.lt_of_lt_of_le below past))]
      exact idle
    · obtain ⟨differs, old⟩ := found_of_update_none isKept
      obtain ⟨below, live, idle⟩ := sound.registered other kept old
      refine ⟨below, live, ?_⟩
      change Function.update state.cancelling session.cancel true kept.cancel = false
      rw [Function.update_of_ne fun same => differs (sound.apart _ _ _ _ old found same)]
      exact idle
    · intro first second one two isOne isTwo same
      exact sound.apart first second one two (found_of_update_none isOne).2
        (found_of_update_none isTwo).2 same

theorem Sound.cancel (sound : Sound state) (token : Nat) : Sound (cancel state token).2 := by
  rw [Talk.cancel]
  split
  · rename_i pending
    have below : ∀ other, state.tokens ≤ other → other ≠ token := by
      intro other past same
      rw [← same, (sound.fresh other past).2.1] at pending
      cases pending
    refine ⟨fun other past => ?_, fun talkId session found => ?_, sound.apart,
      fun other talkId isLeft => ?_⟩
    · obtain ⟨live, idle, noSender⟩ := sound.fresh other past
      refine ⟨?_, ?_, noSender⟩
      · change Function.update state.cancelled token true other = false
        rw [Function.update_of_ne (below other past)]
        exact live
      · change Function.update state.cancelling token false other = false
        rw [Function.update_of_ne (below other past)]
        exact idle
    · obtain ⟨isToken, live, idle⟩ := sound.registered talkId session found
      have differs : session.cancel ≠ token := by
        intro same
        rw [same, pending] at idle
        cases idle
      refine ⟨isToken, ?_, ?_⟩
      · change Function.update state.cancelled token true session.cancel = false
        rw [Function.update_of_ne differs]
        exact live
      · change Function.update state.cancelling token false session.cancel = false
        rw [Function.update_of_ne differs]
        exact idle
    · change Function.update state.cancelled token true other = true
      by_cases same : other = token
      · rw [same, Function.update_self]
      · rw [Function.update_of_ne same]
        exact sound.left other talkId isLeft
  · exact sound

/-- A sender that moves on, or ends, keeps the tokens as they are. -/
theorem Sound.sender (sound : Sound state) {token : Nat} {sender : Option Sender}
    {sessions : String → Option TalkSession} (below : token < state.tokens)
    (fewer : ∀ talkId session, sessions talkId = some session →
      state.sessions talkId = some session)
    (left : ∀ talkId, sender = some ⟨talkId, some .cancelled⟩ → state.cancelled token = true) :
    Sound { state with
      sessions := sessions, senders := Function.update state.senders token sender } := by
  refine ⟨fun other past => ?_, fun talkId session found => ?_, ?_, fun other talkId isLeft => ?_⟩
  · obtain ⟨live, idle, noSender⟩ := sound.fresh other past
    refine ⟨live, idle, ?_⟩
    change Function.update state.senders token sender other = none
    rw [Function.update_of_ne (Nat.ne_of_gt (Nat.lt_of_lt_of_le below past))]
    exact noSender
  · exact sound.registered talkId session (fewer talkId session found)
  · intro first second one two isOne isTwo same
    exact sound.apart first second one two (fewer _ _ isOne) (fewer _ _ isTwo) same
  · change Function.update state.senders token sender other = _ at isLeft
    by_cases same : other = token
    · rw [same, Function.update_self] at isLeft
      exact same ▸ left talkId isLeft
    · rw [Function.update_of_ne same] at isLeft
      exact sound.left other talkId isLeft

theorem Sound.below (sound : Sound state) {token : Nat} {sender : Sender}
    (found : state.senders token = some sender) : token < state.tokens := by
  refine Nat.lt_of_not_le fun past => ?_
  rw [(sound.fresh token past).2.2] at found
  cases found

theorem Sound.leave (sound : Sound state) (token : Nat) (reason : CloseReason) :
    Sound (leave state token reason).2 := by
  rcases leave_cases state token reason with waits | ⟨talkId, sender, isReady, left⟩
  · rw [waits]
    exact sound
  · rw [left]
    refine sound.sender (sound.below sender) (fun _ _ found => found) fun id isLeft => ?_
    cases isLeft
    exact isReady

theorem Sound.finish (sound : Sound state) (token : Nat) : Sound (finish state token).2 := by
  rcases finish_cases state token with
    waits | ⟨talkId, reason, session, sender, _, closed⟩ | ⟨talkId, reason, sender, _, ended⟩
  · rw [waits]
    exact sound
  · rw [closed]
    exact sound.sender (sound.below sender)
      (fun _ _ found => (found_of_update_none found).2) fun _ isLeft => by cases isLeft
  · rw [ended]
    exact sound.sender (sound.below sender) (fun _ _ found => found) fun _ isLeft => by cases isLeft

theorem Sound.step (sound : Sound state) (action : Action A) : Sound (step state action).2 := by
  cases action with
  | openTalk req => exact sound.openTalk req
  | answer talkId target payloadType => exact sound.answer talkId target payloadType
  | close talkId => exact sound.close talkId
  | cancel token => exact sound.cancel token
  | leave token reason => exact sound.leave token reason
  | finish token => exact sound.finish token

/-! ## A session stays until it is released -/

/-- Neither an opening nor a report. -/
def Outcome.isQuiet : Outcome A → Bool
  | .opened _ _ | .closed _ _ _ => false
  | _ => true

/-- What a step may do to the registered sessions. -/
inductive Changes (state : State A) (sessions : String → Option TalkSession) :
    Action A → Outcome A → Prop where
  | quiet {action : Action A} {result : Outcome A} (silent : result.isQuiet = true)
      (after : sessions = state.sessions) : Changes state sessions action result
  | opened {req : TalkOpenReq} {session : TalkSession} {resp : TalkOpenResp}
      (vacant : state.sessions req.talkId = none) (isNext : session.cancel = state.tokens)
      (same : resp.talkId = req.talkId)
      (after : sessions = Function.update state.sessions req.talkId (some session)) :
      Changes state sessions (.openTalk req) (.opened resp state.tokens)
  | removed {talkId : String} {tcpClose : Option A}
      (after : sessions = Function.update state.sessions talkId none) :
      Changes state sessions (.close talkId) (.removed tcpClose)
  | closed {token : Nat} {talkId : String} {reason : CloseReason} {session : TalkSession}
      {tcpClose : Option A} (sender : state.senders token = some ⟨talkId, some reason⟩)
      (found : state.sessions talkId = some session)
      (after : sessions = Function.update state.sessions talkId none) :
      Changes state sessions (.finish token) (.closed talkId reason tcpClose)

theorem step_changes (state : State A) (action : Action A) :
    Changes state (step state action).2.sessions action (step state action).1 := by
  cases action with
  | openTalk req =>
      change Changes state (openTalk state req).2.sessions _ (openTalk state req).1
      rcases openTalk_cases state req with ⟨msg, refused⟩ | ⟨session, resp, vacant, isNext, same, opened⟩
      · rw [refused]
        exact .quiet rfl rfl
      · rw [opened]
        exact .opened vacant isNext same rfl
  | answer talkId target payloadType =>
      simp only [step, answer]
      split
      · exact .quiet rfl rfl
      · exact .quiet rfl rfl
  | close talkId =>
      simp only [step, close]
      split
      · exact .quiet rfl rfl
      · exact .removed rfl
  | cancel token =>
      simp only [step, cancel]
      split
      · exact .quiet rfl rfl
      · exact .quiet rfl rfl
  | leave token reason =>
      change Changes state (leave state token reason).2.sessions _ (leave state token reason).1
      rcases leave_cases state token reason with waits | ⟨_, _, _, left⟩
      · rw [waits]
        exact .quiet rfl rfl
      · rw [left]
        exact .quiet rfl rfl
  | finish token =>
      change Changes state (finish state token).2.sessions _ (finish state token).1
      rcases finish_cases state token with
        waits | ⟨talkId, reason, session, sender, found, closed⟩ | ⟨_, _, _, _, ended⟩
      · rw [waits]
        exact .quiet rfl rfl
      · rw [closed]
        exact .closed sender found rfl
      · rw [ended]
        exact .quiet rfl rfl

theorem Holds.of_other {next : State A} {talkId id : String} {token : Nat}
    {session : Option TalkSession} (holds : Holds talkId token state) (differs : talkId ≠ id)
    (after : next.sessions = Function.update state.sessions id session) :
    Holds talkId token next := by
  obtain ⟨held, found, isToken⟩ := holds
  exact ⟨held, by rw [after, Function.update_of_ne differs]; exact found, isToken⟩

theorem Holds.step {talkId : String} {token : Nat} (holds : Holds talkId token state)
    (sound : Sound state) (action : Action A) (finds : FindsOwn state action) :
    Holds talkId token (Talk.step state action).2 ∨
      Releases talkId token (Runs.transition Talk.step state action) := by
  have changes := step_changes state action
  generalize (Talk.step state action).1 = result at changes
  cases changes with
  | quiet _ after =>
      obtain ⟨held, found, isToken⟩ := holds
      exact Or.inl ⟨held, by rw [after]; exact found, isToken⟩
  | @opened req session resp vacant _ _ after =>
      refine Or.inl (holds.of_other (fun same => ?_) after)
      obtain ⟨held, found, _⟩ := holds
      rw [same, vacant] at found
      cases found
  | @removed id _ after =>
      by_cases same : talkId = id
      · exact Or.inr (Or.inl (congrArg Action.close same.symm))
      · exact Or.inl (holds.of_other same after)
  | @closed other id reason session _ sender found after =>
      by_cases same : talkId = id
      · -- The sender's own session, which is not cancelled as long as it is registered.
        subst same
        have own := finds other rfl talkId reason session sender found
        obtain ⟨held, isHeld, isToken⟩ := holds
        rw [found] at isHeld
        cases isHeld
        rw [own] at isToken
        subst isToken
        refine Or.inr (Or.inr ⟨rfl, reason, fun isCancelled => ?_, sender⟩)
        have live := (sound.registered talkId session found).2.1
        rw [own, sound.left other talkId (isCancelled ▸ sender)] at live
        cases live
      · exact Or.inl (holds.of_other same after)

theorem holds_of_opened {action : Action A} {resp : TalkOpenResp} {token : Nat}
    (isOpened : (step state action).1 = .opened resp token) :
    Holds resp.talkId token (step state action).2 := by
  have changes := step_changes state action
  rw [isOpened] at changes
  cases changes with
  | quiet silent _ => cases silent
  | @opened req session _ _ isNext same after =>
      exact ⟨session, by rw [after, same]; exact Function.update_self .., isNext⟩

/-- Only the end of a sender reports a talk as closed. -/
theorem finish_of_closed {action : Action A} {talkId : String} {reason : CloseReason}
    {tcpClose : Option A} (isClosed : (step state action).1 = .closed talkId reason tcpClose) :
    ∃ token session, action = .finish token ∧ state.senders token = some ⟨talkId, some reason⟩ ∧
      state.sessions talkId = some session := by
  have changes := step_changes state action
  rw [isClosed] at changes
  cases changes with
  | quiet silent _ => cases silent
  | closed sender found _ => exact ⟨_, _, rfl, sender, found⟩

end Steps

/-- In every run, sessions stay until they are released and senders report only their own
sessions exactly when every sender's last removal finds its own session, or none. -/
theorem kept_until_released_iff (rtpPort : Option UInt16) (actions : List (Action A)) :
    (KeptUntilReleased (Runs.run step (init A rtpPort) actions) ∧
        ReportsOwn (Runs.run step (init A rtpPort) actions)) ↔
      ∀ entry ∈ Runs.run step (init A rtpPort) actions, FindsOwn entry.before entry.action := by
  have sound : ∀ entry ∈ Runs.run step (init A rtpPort) actions, Sound entry.before :=
    fun entry member => (Runs.invariant_run Sound (fun _ _ => True)
      (fun _ action sound _ => sound.step action) (sound_init rtpPort) (fun _ _ => trivial)
      entry member).1
  constructor
  · rintro ⟨_, reports⟩ entry member token isFinish talkId reason session sender found
    have isStep := Runs.mem_run member
    have closed : entry.result = .closed talkId reason (closeTalkTarget (entry.before.targets token)) := by
      rw [isStep, isFinish]
      simp only [Runs.transition, step, finish, sender, found]
    obtain ⟨own, isOwn, held, isHeld, isToken⟩ := reports entry member talkId reason _ closed
    rw [found] at isHeld
    cases isHeld
    rw [isFinish] at isOwn
    cases isOwn
    exact isToken
  · intro finds
    refine ⟨?_, fun entry member talkId reason tcpClose closed => ?_⟩
    · intro first opening later split resp token opened middle entry rest behind
      have inRun : ∀ other ∈ opening :: later, other ∈ Runs.run step (init A rtpPort) actions :=
        fun other member => split ▸ List.mem_append_right _ member
      obtain ⟨actionsLater, isRun⟩ := Runs.run_behind split
      have start : Holds resp.talkId token opening.after := by
        have isStep := Runs.mem_run (inRun opening (List.mem_cons_self ..))
        rw [isStep] at opened ⊢
        exact holds_of_opened opened
      refine Runs.kept_until_released (Holds resp.talkId token) (Releases resp.talkId token) ?_ start
        (isRun.symm.trans behind)
      intro other member holds
      have atOther := inRun other (List.mem_cons_of_mem _ (isRun ▸ member))
      have moved := holds.step (sound other atOther) other.action (finds other atOther)
      have isStep := Runs.mem_run member
      rw [isStep]
      exact moved
    · rw [Runs.mem_run member] at closed
      obtain ⟨token, session, isFinish, sender, found⟩ := finish_of_closed closed
      exact ⟨token, isFinish, session, found,
        finds entry member token isFinish talkId reason session sender found⟩

def talkRequest : TalkOpenReq := ⟨"talk-1", 100, "token", "PCMA", 8000, 1, 8, 20⟩

/-- The id is opened again while the sender of the first session is still on its way out. -/
def reopenThenEnd : List (Action Unit) :=
  [.openTalk talkRequest, .close "talk-1", .cancel 0, .openTalk talkRequest, .leave 0 .cancelled,
    .finish 0]

/-- The cancelled sender removes the second session and reports it as closed. -/
theorem reopenThenEnd_loses_session :
    ¬ (KeptUntilReleased (Runs.run step (init Unit (some 30000)) reopenThenEnd) ∧
      ReportsOwn (Runs.run step (init Unit (some 30000)) reopenThenEnd)) := by
  rintro ⟨_, reports⟩
  have last : Runs.transition step
      (Runs.final step (init Unit (some 30000)) (reopenThenEnd.take 5)) (.finish 0) ∈
        Runs.run step (init Unit (some 30000)) reopenThenEnd := by
    simp [reopenThenEnd]
  obtain ⟨token, isFinish, session, found, isToken⟩ := reports _ last "talk-1" .cancelled none (by rfl)
  cases isFinish
  cases found
  cases isToken

end Gmv.Stream.Talk
