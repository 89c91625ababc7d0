import Gmv.Library.ByteFormat
import Gmv.Stream.RtpPacket
import Gmv.Stream.TalkManager

/-!
# Frames of a talk

Frames of a talk come in through a channel, wait in a small queue until it has filled once, and leave it
one with each tick, as RTP packets to the target of the talk.  A full queue gives up its oldest frame,
without a target a frame is lost, and what waits when the sender ends is dropped.  The module is one
sender beside the calls that push frames, answer and close, in any order.
-/

namespace Gmv.Stream.TalkFrames

open Gmv.Library Gmv.Library.ByteFormat
open Talk (TalkTarget CloseReason)

/-! ## Packets -/

def buildRtpPacket (ssrc : UInt32) (seq : UInt16) (timestamp : UInt32) (marker : Bool) (payloadType : UInt8)
    (payload : Bytes) : Bytes :=
  0x80 :: ((payloadType &&& 0x7f) ||| if marker then 0x80 else 0) ::
    (beBytes 2 seq.toNat ++ beBytes 4 timestamp.toNat ++ beBytes 4 ssrc.toNat ++ payload)

/-- An RTP packet without padding, extension and contributing sources, as its receiver sees it. -/
structure Packet where
  marker : Bool
  payloadType : Nat
  seq : Nat
  timestamp : Nat
  ssrc : Nat
  payload : Bytes
  deriving DecidableEq, Repr

/-- The header of such a packet, field by field. -/
def readHeader : Reader (Nat × Nat × Nat × Nat × Nat) := do
  let first ← readUint 1
  let second ← readUint 1
  let seq ← readUint 2
  let timestamp ← readUint 4
  let ssrc ← readUint 4
  return (first, second, seq, timestamp, ssrc)

def readPacket (bytes : Bytes) : Option Packet := do
  let ((first, second, seq, timestamp, ssrc), payload) ← readHeader.run bytes
  if first = 128 then some ⟨128 ≤ second, second % 128, seq, timestamp, ssrc, payload⟩ else none

theorem toNat_second (payloadType : UInt8) (marker : Bool) :
    ((payloadType &&& 0x7f) ||| if marker then 0x80 else 0).toNat =
      payloadType.toNat % 128 + if marker then 128 else 0 := by
  have small : payloadType.toNat % 128 < 2 ^ 7 := Nat.mod_lt _ (by decide)
  have low : payloadType.toNat &&& 127 = payloadType.toNat % 128 := Nat.and_two_pow_sub_one_eq_mod _ 7
  rw [UInt8.toNat_or, UInt8.toNat_and]
  change (payloadType.toNat &&& 127) ||| _ = _
  rw [low]
  cases marker with
  | false => exact Nat.or_zero _
  | true =>
      have sum := Nat.two_pow_add_eq_or_of_lt small 1
      rw [Nat.or_comm] at sum
      rw [Nat.mul_one, Nat.add_comm] at sum
      exact sum.symm

theorem reads_header (second : UInt8) (seq : UInt16) (timestamp ssrc : UInt32) :
    Reads readHeader (0x80 :: second :: (beBytes 2 seq.toNat ++ beBytes 4 timestamp.toNat ++ beBytes 4 ssrc.toNat))
      (128, second.toNat, seq.toNat, timestamp.toNat, ssrc.toNat) := by
  have fields : (0x80 :: second :: (beBytes 2 seq.toNat ++ beBytes 4 timestamp.toNat ++ beBytes 4 ssrc.toNat)) =
      beBytes 1 128 ++ (beBytes 1 second.toNat ++ (beBytes 2 seq.toNat ++ (beBytes 4 timestamp.toNat ++
        (beBytes 4 ssrc.toNat ++ [])))) := by
    rw [beBytes_one, List.append_nil, List.append_assoc]
    rfl
  rw [fields]
  refine (reads_uint (by decide)).bind ?_
  refine (reads_uint (second.toNat_lt)).bind ?_
  refine (reads_uint (seq.toNat_lt)).bind ?_
  refine (reads_uint (timestamp.toNat_lt)).bind ?_
  exact (reads_uint (ssrc.toNat_lt)).bind (Reads.pure _)

/-- A packet is read back as it was built; the payload type loses its highest bit. -/
theorem readPacket_build (ssrc : UInt32) (seq : UInt16) (timestamp : UInt32) (marker : Bool)
    (payloadType : UInt8) (payload : Bytes) :
    readPacket (buildRtpPacket ssrc seq timestamp marker payloadType payload) =
      some ⟨marker, payloadType.toNat % 128, seq.toNat, timestamp.toNat, ssrc.toNat, payload⟩ := by
  have read := reads_header ((payloadType &&& 0x7f) ||| if marker then 0x80 else 0) seq timestamp ssrc payload
  rw [buildRtpPacket, readPacket]
  rw [List.cons_append, List.cons_append] at read
  rw [read, toNat_second]
  cases marker with
  | false =>
      have small : payloadType.toNat % 128 < 128 := Nat.mod_lt _ (by decide)
      simp [Nat.not_le_of_lt small]
  | true => simp

/-! ## The sender -/

/-- `TALK_INPUT_QUEUE_SIZE`. -/
def talkInputQueueSize : Nat := 32

/-- `TALK_JITTER_MIN_FRAMES`. -/
def talkJitterMinFrames : Nat := 3

/-- `TALK_JITTER_MAX_FRAMES`. -/
def talkJitterMaxFrames : Nat := 8

/-- What a sender is spawned with; times are in milliseconds. -/
structure Settings where
  ssrc : UInt32
  sampleRate : UInt32
  frameDurationMs : UInt16
  inputTimeout : Nat
  deriving DecidableEq, Repr

/-- `saturating_mul`, and the division. -/
def Settings.frameSamples (settings : Settings) : UInt32 :=
  UInt32.ofNat (min (settings.sampleRate.toNat * settings.frameDurationMs.toNat) 4294967295 / 1000)

/-- What the RTP writer answers for the target at a tick: `tcp_sink` for its address, `tcp_sink_by_ip`
for its IP, and the error of the write if it fails.  A connection is known by its number. -/
structure PacketWriter where
  tcpSink : Option Nat
  tcpSinkByIp : Option Nat
  error : Option String
  deriving DecidableEq, Repr

/-- Where a packet is written: to an address over UDP, or into a TCP connection. -/
inductive Sink (A : Type) where
  | udp (addr : A)
  | tcp (connection : Nat)
  deriving DecidableEq, Repr

/-- The session, while it is registered, its channel, what it shares with the sender, and the sender:
with a reason it has left its loop, and `finished` it has returned. -/
structure State (A : Type) where
  registered : Bool
  cancelled : Bool
  input : List Bytes
  target : Option (TalkTarget A)
  payloadType : UInt8
  closeReason : Option CloseReason
  finished : Bool
  queue : List Bytes
  lastInput : Nat
  ready : Bool
  firstPacket : Bool
  seq : UInt16
  timestamp : UInt32

inductive Action (A : Type) where
  | pushFrame (frame : Bytes)
  /-- The two parts of `answer`. -/
  | answer (target : TalkTarget A)
  | storePayloadType (payloadType : UInt8)
  | close
  | cancel
  /-- The branches of the sender's `select!`. -/
  | cancelled
  | recv (now : Nat)
  | tick (now : Nat) (writer : PacketWriter)
  /-- Behind its loop the sender removes the session and returns. -/
  | finish
  deriving DecidableEq, Repr

inductive Outcome (A : Type) where
  | ignored
  | accepted
  | refused (msg : String)
  | answered
  | waiting
  | received (overflown : Option Bytes)
  | untargeted (frame : Bytes)
  | sent (target : TalkTarget A) (packet frame : Bytes) (sending : Except String (Sink A))
  | left (reason : CloseReason)
  | dropped (frames : List Bytes)
  deriving DecidableEq, Repr

variable {A : Type}

def PacketWriter.write (writer : PacketWriter) (sink : Sink A) : Except String (Sink A) :=
  match writer.error with
  | some msg => .error msg
  | none => .ok sink

/-- `send_rtp_packet`. -/
def sendRtpPacket (writer : PacketWriter) (target : TalkTarget A) : Except String (Sink A) :=
  match target.protocol with
  | .udp => writer.write (.udp target.addr)
  | .tcp =>
      match writer.tcpSink with
      | some connection => writer.write (.tcp connection)
      | none =>
          match writer.tcpSinkByIp with
          | some connection => writer.write (.tcp connection)
          | none => .error "talk tcp sink is not available"
  | .all => .error "protocol ALL cannot be used for talk"

def init (payloadType : UInt8) (now : Nat) : State A :=
  ⟨true, false, [], none, payloadType, none, false, [], now, false, true, 0, 0⟩

/-- The frames that wait, the oldest first. -/
def State.frames (state : State A) : List Bytes := state.queue ++ state.input

section

variable (settings : Settings) (state : State A)

def pushFrame (frame : Bytes) : Outcome A × State A :=
  if frame.isEmpty then (.ignored, state)
  else if !state.registered then (.refused "talk session not found", state)
  else if state.finished then (.refused "talk input queue closed", state)
  else if state.input.length < talkInputQueueSize then
    (.accepted, { state with input := state.input ++ [frame] })
  else (.refused "talk input queue busy", state)

/-- The sender takes a frame from the channel. -/
def receive (now : Nat) (frame : Bytes) (rest : List Bytes) : Outcome A × State A :=
  let full := talkJitterMaxFrames ≤ state.queue.length
  let queue := (if full then state.queue.drop 1 else state.queue) ++ [frame]
  (.received (if full then state.queue.head? else none),
    { state with
      input := rest
      lastInput := now
      queue := queue
      ready := state.ready || talkJitterMinFrames ≤ queue.length })

def leave (reason : CloseReason) : Outcome A × State A :=
  (.left reason, { state with closeReason := some reason })

/-- The sender's loop at a tick. -/
def tick (now : Nat) (writer : PacketWriter) : Outcome A × State A :=
  if settings.inputTimeout < now - state.lastInput then leave state .inputTimeout
  else if !state.ready then (.waiting, state)
  else
    match state.queue with
    | [] => (.waiting, state)
    | frame :: queue =>
        match state.target with
        | none => (.untargeted frame, { state with queue := queue })
        | some target =>
            (.sent target (buildRtpPacket settings.ssrc state.seq state.timestamp state.firstPacket
                state.payloadType frame) frame (sendRtpPacket writer target),
              { state with
                queue := queue
                seq := state.seq + 1
                timestamp := state.timestamp + settings.frameSamples
                firstPacket := false })

/-- No frame comes in between: the session is gone when the queue and the receiver are dropped. -/
def finish : Outcome A × State A :=
  (.dropped state.frames, { state with registered := false, finished := true, input := [], queue := [] })

def step : Action A → Outcome A × State A
  | .pushFrame frame => pushFrame state frame
  | .answer target =>
      if state.registered then (.answered, { state with target := some target })
      else (.refused "talk session not found", state)
  | .storePayloadType payloadType => (.answered, { state with payloadType := payloadType })
  | .close => (.answered, { state with registered := false })
  | .cancel => (.answered, { state with cancelled := !state.registered || state.cancelled })
  | .cancelled =>
      if state.closeReason = none ∧ state.cancelled = true then leave state .cancelled else (.waiting, state)
  | .recv now =>
      if state.closeReason.isSome then (.waiting, state)
      else
        match state.input with
        | frame :: rest => receive state now frame rest
        | [] => if state.registered then (.waiting, state) else leave state .inputClosed
  | .tick now writer =>
      if state.closeReason.isSome then (.waiting, state) else tick settings state now writer
  | .finish => if state.closeReason.isSome then finish state else (.waiting, state)

end

abbrev Entry (A : Type) := Runs.Transition (State A) (Action A) (Outcome A)

variable {settings : Settings} {state : State A}

/-! ## What a step does -/

/-- The ways a step can go. -/
inductive Did (settings : Settings) (state : State A) : Action A → Outcome A → State A → Prop
  | ignored {action : Action A} : Did settings state action .ignored state
  | refused {action : Action A} {msg : String} : Did settings state action (.refused msg) state
  | waiting {action : Action A} : Did settings state action .waiting state
  | accepted {frame : Bytes} (registered : state.registered = true)
      (room : state.input.length < talkInputQueueSize) :
      Did settings state (.pushFrame frame) .accepted { state with input := state.input ++ [frame] }
  | answered {action : Action A} {registered cancelled : Bool} {target : Option (TalkTarget A)}
      {payloadType : UInt8} (kept : registered = true → state.registered = true) :
      Did settings state action .answered
        { state with
          registered := registered
          cancelled := cancelled
          target := target
          payloadType := payloadType }
  | left {action : Action A} {reason : CloseReason} (inLoop : state.closeReason = none) :
      Did settings state action (.left reason) { state with closeReason := some reason }
  | received {now : Nat} {frame : Bytes} {rest : List Bytes} (inLoop : state.closeReason = none)
      (input : state.input = frame :: rest) :
      Did settings state (.recv now) (receive state now frame rest).1 (receive state now frame rest).2
  | untargeted {now : Nat} {writer : PacketWriter} {frame : Bytes} {queue : List Bytes}
      (inLoop : state.closeReason = none) (ready : state.ready = true)
      (found : state.queue = frame :: queue) :
      Did settings state (.tick now writer) (.untargeted frame) { state with queue := queue }
  | sent {now : Nat} {writer : PacketWriter} {frame : Bytes} {queue : List Bytes} {target : TalkTarget A}
      (inLoop : state.closeReason = none) (ready : state.ready = true)
      (found : state.queue = frame :: queue) (targeted : state.target = some target) :
      Did settings state (.tick now writer)
        (.sent target (buildRtpPacket settings.ssrc state.seq state.timestamp state.firstPacket
          state.payloadType frame) frame (sendRtpPacket writer target))
        { state with
          queue := queue
          seq := state.seq + 1
          timestamp := state.timestamp + settings.frameSamples
          firstPacket := false }
  | finished (left : state.closeReason.isSome = true) :
      Did settings state .finish (finish state).1 (finish state).2

theorem inLoop_of_not {reason : Option CloseReason} (running : ¬reason.isSome = true) : reason = none :=
  Option.not_isSome_iff_eq_none.mp running

theorem did_pushFrame (frame : Bytes) :
    Did settings state (.pushFrame frame) (pushFrame state frame).1 (pushFrame state frame).2 := by
  simp only [pushFrame]
  split
  · exact .ignored
  · split
    · exact .refused
    · rename_i registered
      split
      · exact .refused
      · split
        · rename_i room
          exact .accepted (by simpa using registered) room
        · exact .refused

theorem did_tick (now : Nat) (writer : PacketWriter) (inLoop : state.closeReason = none) :
    Did settings state (.tick now writer) (tick settings state now writer).1
      (tick settings state now writer).2 := by
  simp only [tick]
  split
  · exact .left inLoop
  · split
    · exact .waiting
    · rename_i ready
      have isReady : state.ready = true := by simpa using ready
      split
      · exact .waiting
      · rename_i found
        split
        · exact .untargeted inLoop isReady found
        · rename_i targeted
          exact .sent inLoop isReady found targeted

/-- The one place where the branches of a step are looked through. -/
theorem did_step (action : Action A) :
    Did settings state action (step settings state action).1 (step settings state action).2 := by
  cases action with
  | pushFrame frame => exact did_pushFrame frame
  | answer target =>
      simp only [step]
      split
      · exact .answered id
      · exact .refused
  | storePayloadType payloadType => exact .answered id
  | close => exact .answered fun registered => by cases registered
  | cancel => exact .answered id
  | cancelled =>
      simp only [step]
      split
      · rename_i both
        exact .left both.1
      · exact .waiting
  | recv now =>
      simp only [step]
      split
      · exact .waiting
      · rename_i running
        split
        · rename_i input
          exact .received (inLoop_of_not running) input
        · split
          · exact .waiting
          · exact .left (inLoop_of_not running)
  | tick now writer =>
      simp only [step]
      split
      · exact .waiting
      · rename_i running
        exact did_tick now writer (inLoop_of_not running)
  | finish =>
      simp only [step]
      split
      · rename_i left
        exact .finished left
      · exact .waiting

variable {action : Action A} {result : Outcome A} {next : State A}

/-! ## Where the frames are -/

/-- The frame that a step takes in. -/
def Entry.accepted (entry : Entry A) : Option Bytes :=
  match entry.action, entry.result with
  | .pushFrame frame, .accepted => some frame
  | _, _ => none

/-- The frames that leave with a step: as the oldest of a full queue, without a target, in a packet, or
dropped at the sender's end. -/
def Outcome.departed : Outcome A → List Bytes
  | .received overflown => overflown.toList
  | .untargeted frame => [frame]
  | .sent _ _ frame _ => [frame]
  | .dropped frames => frames
  | _ => []

/-- The frame leaves with a tick. -/
def Outcome.played : Outcome A → Bool
  | .untargeted _ => true
  | .sent _ _ _ _ => true
  | _ => false

def Outcome.isReceived : Outcome A → Bool
  | .received _ => true
  | _ => false

def Outcome.isSent : Outcome A → Bool
  | .sent _ _ _ _ => true
  | _ => false

/-- A step takes in one frame at most behind those that wait, and some may leave before them. -/
def Moves (state : State A) (action : Action A) (result : Outcome A) (next : State A) : Prop :=
  state.frames ++ (Entry.accepted ⟨state, action, result, next⟩).toList = result.departed ++ next.frames

theorem accepted_eq_none {entry : Entry A} (other : entry.result ≠ .accepted) : entry.accepted = none := by
  rw [Entry.accepted]
  split
  · rename_i accepted
    exact absurd accepted other
  · rfl

/-- A step that takes nothing in only lets frames leave. -/
theorem moves_of_departed (other : result ≠ .accepted)
    (departed : state.frames = result.departed ++ next.frames) :
    Moves state action result next := by
  rw [Moves, accepted_eq_none other, Option.toList_none, List.append_nil]
  exact departed

theorem frames_receive (now : Nat) {frame : Bytes} {rest : List Bytes} (input : state.input = frame :: rest) :
    state.frames = (receive state now frame rest).1.departed ++ (receive state now frame rest).2.frames := by
  simp only [State.frames, receive, Outcome.departed, input]
  by_cases full : talkJitterMaxFrames ≤ state.queue.length
  · cases queue : state.queue with
    | nil => rw [queue] at full; exact absurd full (by decide)
    | cons head tail =>
        rw [queue] at full
        simp only [full, if_true, List.head?_cons, Option.toList_some, List.drop_succ_cons, List.drop_zero,
          List.cons_append, List.nil_append, List.append_assoc]
  · simp only [full, if_false, Option.toList_none, List.nil_append, List.append_assoc, List.cons_append]

theorem Did.moves (did : Did settings state action result next) : Moves state action result next := by
  cases did with
  | ignored | refused | waiting | left => exact moves_of_departed nofun rfl
  | answered kept => exact moves_of_departed nofun rfl
  | accepted registered room => exact List.append_assoc _ _ _
  | received inLoop input => exact moves_of_departed nofun (frames_receive _ input)
  | untargeted inLoop ready found =>
      refine moves_of_departed nofun ?_
      rw [State.frames, found]
      rfl
  | sent inLoop ready found targeted =>
      refine moves_of_departed nofun ?_
      rw [State.frames, found]
      rfl
  | finished left => exact moves_of_departed nofun (List.append_nil _).symm

/-! ## The end -/

/-- A sender that has returned has removed the session, and nothing waits. -/
def Ended (state : State A) : Prop :=
  state.finished = true → state.closeReason.isSome = true ∧ state.registered = false ∧ state.frames = []

theorem ended_init (payloadType : UInt8) (now : Nat) : Ended (init payloadType now : State A) :=
  fun finished => by cases finished

theorem Did.ended (did : Did settings state action result next) (ended : Ended state) : Ended next := by
  have running (inLoop : state.closeReason = none) : ¬state.finished = true := fun finished => by
    have left := (ended finished).1
    rw [inLoop] at left
    cases left
  cases did with
  | ignored | refused | waiting => exact ended
  | accepted registered room =>
      intro finished
      rw [(ended finished).2.1] at registered
      cases registered
  | answered kept =>
      intro finished
      obtain ⟨left, gone, noFrames⟩ := ended finished
      exact ⟨left, Bool.eq_false_iff.mpr fun registered => Bool.false_ne_true (gone.symm.trans (kept registered)),
        noFrames⟩
  | left inLoop => exact fun finished => absurd finished (running inLoop)
  | received inLoop input => exact fun finished => absurd finished (running inLoop)
  | untargeted inLoop ready found => exact fun finished => absurd finished (running inLoop)
  | sent inLoop ready found targeted => exact fun finished => absurd finished (running inLoop)
  | finished left => exact fun _ => ⟨left, rfl, rfl⟩

/-- No push meets a receiver that is gone: the session goes first. -/
theorem pushFrame_ne_closed (ended : Ended state) (frame : Bytes) :
    (pushFrame state frame).1 ≠ .refused "talk input queue closed" := by
  simp only [pushFrame]
  split
  · nofun
  · split
    · simp
    · rename_i registered
      split
      · rename_i finished
        rw [(ended finished).2.1] at registered
        exact absurd rfl registered
      · split
        · nofun
        · simp

/-! ## The sender -/

/-- What a sender has received and sent. -/
def received (past : List (Entry A)) : Nat := past.countP fun entry => entry.result.isReceived

def packets (past : List (Entry A)) : Nat := past.countP fun entry => entry.result.isSent

/-- How a sender stands behind its past. -/
structure Steady (settings : Settings) (past : List (Entry A)) (state : State A) : Prop where
  input : state.input.length ≤ talkInputQueueSize
  queue : state.queue.length ≤ talkJitterMaxFrames
  filled : state.queue.length ≤ received past
  ready : state.ready = true → talkJitterMinFrames ≤ received past
  seq : state.seq = UInt16.ofNat (packets past)
  timestamp : state.timestamp = UInt32.ofNat (packets past * settings.frameSamples.toNat)
  firstPacket : state.firstPacket = (packets past == 0)

theorem steady_init (payloadType : UInt8) (now : Nat) : Steady (A := A) settings [] (init payloadType now) where
  input := Nat.zero_le _
  queue := Nat.zero_le _
  filled := Nat.zero_le _
  ready isReady := by cases isReady
  seq := rfl
  timestamp := by rw [packets, List.countP_nil, Nat.zero_mul]; rfl
  firstPacket := rfl

section

variable {past : List (Entry A)}

theorem received_concat (entry : Entry A) :
    received (past ++ [entry]) = received past + entry.result.isReceived.toNat := by
  rw [received, List.countP_append, List.countP_singleton]
  cases entry.result.isReceived <;> rfl

theorem packets_concat (entry : Entry A) :
    packets (past ++ [entry]) = packets past + entry.result.isSent.toNat := by
  rw [packets, List.countP_append, List.countP_singleton]
  cases entry.result.isSent <;> rfl

/-- A step that neither receives nor sends, and leaves what the sender has. -/
theorem Steady.same (steady : Steady settings past state)
    (sent : result.isSent = false) (input : next.input.length ≤ talkInputQueueSize)
    (queue : next.queue.length ≤ state.queue.length) (ready : next.ready = state.ready)
    (seq : next.seq = state.seq) (timestamp : next.timestamp = state.timestamp)
    (firstPacket : next.firstPacket = state.firstPacket) :
    Steady settings (past ++ [⟨state, action, result, next⟩]) next where
  input := input
  queue := Nat.le_trans queue steady.queue
  filled := by
    rw [received_concat]
    exact Nat.le_add_right_of_le (Nat.le_trans queue steady.filled)
  ready isReady := by
    rw [received_concat]
    exact Nat.le_add_right_of_le (steady.ready (ready ▸ isReady))
  seq := by rw [packets_concat, sent, seq, steady.seq]; rfl
  timestamp := by rw [packets_concat, sent, timestamp, steady.timestamp]; rfl
  firstPacket := by rw [packets_concat, sent, firstPacket, steady.firstPacket]; rfl

theorem Steady.stay (steady : Steady settings past state) (sent : result.isSent = false) :
    Steady settings (past ++ [⟨state, action, result, state⟩]) state :=
  steady.same sent steady.input (Nat.le_refl _) rfl rfl rfl rfl

theorem Steady.receive (steady : Steady settings past state) (now : Nat) {frame : Bytes} {rest : List Bytes}
    (input : state.input = frame :: rest) :
    Steady settings (past ++ [⟨state, .recv now, (receive state now frame rest).1, (receive state now frame rest).2⟩])
      (receive state now frame rest).2 where
  input := by
    have bound := steady.input
    rw [input, List.length_cons] at bound
    exact Nat.le_of_succ_le bound
  queue := by
    have bound := steady.queue
    simp only [TalkFrames.receive, List.length_append, List.length_singleton]
    split
    · rw [List.length_drop]
      have eight : talkJitterMaxFrames = 8 := rfl
      omega
    · omega
  filled := by
    have bound := steady.filled
    simp only [received_concat, TalkFrames.receive, Outcome.isReceived, List.length_append, List.length_singleton,
      Bool.toNat_true]
    split
    · rw [List.length_drop]
      omega
    · omega
  ready isReady := by
    have bound := steady.filled
    rw [received_concat]
    simp only [TalkFrames.receive, Bool.or_eq_true, decide_eq_true_eq, List.length_append,
      List.length_singleton] at isReady
    simp only [TalkFrames.receive, Outcome.isReceived, Bool.toNat_true]
    rcases isReady with before | enough
    · exact Nat.le_add_right_of_le (steady.ready before)
    · split at enough
      · rw [List.length_drop] at enough
        omega
      · omega
  seq := by rw [packets_concat]; exact steady.seq
  timestamp := by rw [packets_concat]; exact steady.timestamp
  firstPacket := by rw [packets_concat]; exact steady.firstPacket

theorem Steady.sent (steady : Steady settings past state) {now : Nat} {writer : PacketWriter}
    {frame packet : Bytes} {queue : List Bytes} {target : TalkTarget A} {sending : Except String (Sink A)}
    (found : state.queue = frame :: queue) :
    let next := { state with
      queue := queue
      seq := state.seq + 1
      timestamp := state.timestamp + settings.frameSamples
      firstPacket := false }
    Steady settings (past ++ [⟨state, .tick now writer, .sent target packet frame sending, next⟩]) next where
  input := steady.input
  queue := by
    have bound := steady.queue
    rw [found] at bound
    exact Nat.le_of_succ_le bound
  filled := by
    have bound := steady.filled
    rw [found] at bound
    rw [received_concat]
    exact Nat.le_of_succ_le bound
  ready isReady := by
    rw [received_concat]
    exact steady.ready isReady
  seq := by
    rw [packets_concat, steady.seq]
    exact (UInt16.ofNat_add _ 1).symm
  timestamp := by
    rw [packets_concat, steady.timestamp, Outcome.isSent, Bool.toNat_true, Nat.succ_mul,
      UInt32.ofNat_add, UInt32.ofNat_toNat]
  firstPacket := by
    rw [packets_concat]
    rfl

theorem Did.steady (did : Did settings state action result next) (steady : Steady settings past state) :
    Steady settings (past ++ [⟨state, action, result, next⟩]) next := by
  cases did with
  | ignored | refused | waiting => exact steady.stay rfl
  | accepted registered room =>
      refine steady.same rfl ?_ (Nat.le_refl _) rfl rfl rfl rfl
      rw [List.length_append, List.length_singleton]
      exact room
  | answered kept => exact steady.same rfl steady.input (Nat.le_refl _) rfl rfl rfl rfl
  | left inLoop => exact steady.same rfl steady.input (Nat.le_refl _) rfl rfl rfl rfl
  | received inLoop input => exact steady.receive _ input
  | untargeted inLoop ready found =>
      refine steady.same rfl steady.input ?_ rfl rfl rfl rfl
      rw [found]
      exact Nat.le_succ _
  | sent inLoop ready found targeted => exact steady.sent found
  | finished left => exact steady.same rfl (Nat.zero_le _) (Nat.zero_le _) rfl rfl rfl rfl

end

theorem steady_run {payloadType : UInt8} {now : Nat} {actions : List (Action A)} {first later : List (Entry A)}
    {entry : Entry A} (split : Runs.run (step settings) (init payloadType now) actions = first ++ entry :: later) :
    Steady settings first entry.before :=
  Runs.history_run (Steady settings) (fun _ _ => True)
    (fun _ _ action steady _ => (did_step action).steady steady)
    (steady_init payloadType now) (fun _ _ => True.intro) split

theorem Did.ready (did : Did settings state action result next) (played : result.played = true) :
    state.ready = true := by
  cases did with
  | untargeted inLoop ready found => exact ready
  | sent inLoop ready found targeted => exact ready
  | _ => cases played

/-- Where a packet for a target may go: over UDP to its address, or into the TCP connection of its
address and, only where there is none, into one of its IP. -/
inductive Routed (writer : PacketWriter) (target : TalkTarget A) : Sink A → Prop
  | udp (protocol : target.protocol = .udp) : Routed writer target (.udp target.addr)
  | exact {connection : Nat} (protocol : target.protocol = .tcp)
      (found : writer.tcpSink = some connection) : Routed writer target (.tcp connection)
  | byIp {connection : Nat} (protocol : target.protocol = .tcp) (absent : writer.tcpSink = none)
      (found : writer.tcpSinkByIp = some connection) : Routed writer target (.tcp connection)

theorem eq_of_write {writer : PacketWriter} {sink other : Sink A} (written : writer.write sink = .ok other) :
    sink = other := by
  rw [PacketWriter.write] at written
  split at written
  · cases written
  · exact Except.ok.inj written

theorem routed_of_sendRtpPacket {writer : PacketWriter} {target : TalkTarget A} {sink : Sink A}
    (written : sendRtpPacket writer target = .ok sink) : Routed writer target sink := by
  rw [sendRtpPacket] at written
  split at written
  · rename_i protocol
    rw [← eq_of_write written]
    exact .udp protocol
  · rename_i protocol
    split at written
    · rename_i found
      rw [← eq_of_write written]
      exact .exact protocol found
    · rename_i absent
      split at written
      · rename_i found
        rw [← eq_of_write written]
        exact .byIp protocol absent found
      · cases written
  · cases written

/-- A packet is sent with a tick. -/
theorem Did.packet {target : TalkTarget A} {packet frame : Bytes} {sending : Except String (Sink A)}
    (did : Did settings state action (.sent target packet frame sending) next) :
    state.target = some target ∧
      packet = buildRtpPacket settings.ssrc state.seq state.timestamp state.firstPacket
        state.payloadType frame ∧
      ∃ now writer, action = .tick now writer ∧ sending = sendRtpPacket writer target := by
  cases did with
  | sent inLoop ready found targeted => exact ⟨targeted, rfl, _, _, rfl, rfl⟩

/-- In any order of pushes, answers, closes and the steps of the sender, the frames taken in are the frames
that have left and those that wait, in their order, and none waits when the sender has returned; the queue
and the channel stay within their bounds, and no frame leaves with a tick before three have reached the
queue. -/
theorem frames_in_order (settings : Settings) (payloadType : UInt8) (now : Nat) (actions : List (Action A)) :
    (Runs.run (step settings) (init payloadType now) actions).filterMap Entry.accepted =
        (Runs.run (step settings) (init payloadType now) actions).flatMap (fun entry => entry.result.departed) ++
          (Runs.final (step settings) (init payloadType now) actions).frames ∧
      ((Runs.final (step settings) (init payloadType now) actions).finished = true →
        (Runs.final (step settings) (init payloadType now) actions).frames = []) ∧
      ∀ first entry later, Runs.run (step settings) (init payloadType now) actions = first ++ entry :: later →
        entry.before.queue.length ≤ talkJitterMaxFrames ∧ entry.before.input.length ≤ talkInputQueueSize ∧
          (entry.result.played = true → talkJitterMinFrames ≤ received first) := by
  refine ⟨?_, ?_, ?_⟩
  · have through := Runs.through_run (fun state : State A => state.frames)
      (fun entry => (Entry.accepted entry).toList) (fun entry => entry.result.departed)
      (fun state action => (@did_step A settings state action).moves) (init payloadType now) actions
    rw [List.filterMap_eq_flatMap_toList]
    exact through
  · have ended : Ended (Runs.final (step settings) (init payloadType now) actions) :=
      Runs.invariant_final (@Ended A) (fun _ _ => True)
        (fun _ action ended _ => (did_step action).ended ended)
        (ended_init payloadType now) (fun _ _ => True.intro)
    exact fun finished => (ended finished).2.2
  · intro first entry later split
    have steady := steady_run split
    refine ⟨steady.queue, steady.input, fun played => steady.ready ?_⟩
    have member : entry ∈ Runs.run (step settings) (init payloadType now) actions := by
      rw [split]
      exact List.mem_append_right _ (List.mem_cons_self ..)
    have isStep := Runs.mem_run member
    rw [isStep] at played
    exact (did_step entry.action).ready played

/-- A packet that is the next one behind those of a past. -/
structure NextPacket (settings : Settings) (past : List (Entry A)) (entry : Entry A)
    (target : TalkTarget A) (packet frame : Bytes) (sending : Except String (Sink A)) : Prop where
  found : entry.before.target = some target
  handed : ∃ now writer, entry.action = .tick now writer ∧ sending = sendRtpPacket writer target
  routed : ∀ now writer sink, entry.action = .tick now writer → sending = .ok sink →
    Routed writer target sink
  reads : readPacket packet =
    some ⟨packets past == 0, entry.before.payloadType.toNat % 128, packets past % 65536,
      packets past * settings.frameSamples.toNat % 4294967296, settings.ssrc.toNat, frame⟩

/-- The packets of a talk in any such order: each is handed over with the target of the talk, goes only
where that allows, and is read as the next frame, with the next sequence number and with a timestamp that
is further by the samples of a frame; the first one has the marker. -/
theorem packets_numbered (settings : Settings) (payloadType : UInt8) (now : Nat) (actions : List (Action A)) :
    ∀ first entry later, Runs.run (step settings) (init payloadType now) actions = first ++ entry :: later →
      ∀ target packet frame sending, entry.result = .sent target packet frame sending →
        NextPacket settings first entry target packet frame sending := by
  intro first entry later split target packet frame sending sent
  have steady := steady_run split
  have member : entry ∈ Runs.run (step settings) (init payloadType now) actions := by
    rw [split]
    exact List.mem_append_right _ (List.mem_cons_self ..)
  have isStep := Runs.mem_run member
  have result := congrArg Runs.Transition.result isStep
  have did := @did_step A settings entry.before entry.action
  rw [← show entry.result = (step settings entry.before entry.action).1 from result, sent] at did
  obtain ⟨found, rfl, tickNow, writer, isTick, rfl⟩ := did.packet
  refine ⟨found, ⟨tickNow, writer, isTick, rfl⟩, fun other told sink same written => ?_, ?_⟩
  · cases isTick.symm.trans same
    exact routed_of_sendRtpPacket written
  · rw [readPacket_build, steady.seq, steady.timestamp, steady.firstPacket, UInt16.toNat_ofNat',
      UInt32.toNat_ofNat']

/-- Three frames come in, the device answers, and the sender ticks twice; the second packet finds another
TCP connection of the device. -/
def firstFrames : List (Action Nat) :=
  [.pushFrame [1], .pushFrame [2], .pushFrame [3], .recv 0, .recv 5, .recv 9, .answer ⟨9, .tcp⟩,
    .tick 20 ⟨none, none, none⟩, .tick 40 ⟨none, some 2, none⟩]

def firstRun : List (Entry Nat) := Runs.run (step ⟨7, 8000, 20, 5000⟩) (init 8 0) firstFrames

theorem packets_numbered_second :
    NextPacket ⟨7, 8000, 20, 5000⟩ firstRun.dropLast (firstRun.getLast (by decide)) ⟨9, .tcp⟩
      (buildRtpPacket 7 1 160 false 8 [2]) [2] (.ok (.tcp 2)) :=
  packets_numbered ⟨7, 8000, 20, 5000⟩ 8 0 firstFrames firstRun.dropLast (firstRun.getLast (by decide)) []
    (List.dropLast_append_getLast _).symm ⟨9, .tcp⟩ _ [2] (.ok (.tcp 2)) rfl

end Gmv.Stream.TalkFrames
