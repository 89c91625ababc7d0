import Gmv.Library.Runs
import Gmv.Stream.RtpPacket

/-!
# Muxers that send fragments

FFmpeg writes into a buffer of the muxer.  After each packet the muxer takes what is there as a fragment
and broadcasts it with the time and the key flag of the packet that the fragment started with: the packet
whose write sent the fragment before it.  The three fragmented muxers do the same; HLS numbers its fragments.
The FLV muxer sends what a packet has produced with the flags of that packet, from a key frame on.
-/

namespace Gmv.Stream.FragmentMuxers

open Gmv.Library

structure MuxPacket where
  data : Bytes
  isKey : Bool
  timestamp : UInt64
  epoch : Nat
  seq : Nat
  deriving DecidableEq, Repr

/-- A packet for a muxer, with what FFmpeg makes of it: the bytes that it writes into the buffer, and
whether it takes the packet. -/
structure Input where
  size : Nat
  streamIndex : Nat
  keyFlag : Bool
  timestamp : UInt64
  written : Bytes
  taken : Bool
  deriving DecidableEq, Repr

inductive Action where
  /-- The timeline has a discontinuity; the epoch is renewed at a time. -/
  | discontinuity (now : Nat)
  | writePacket (input : Input)
  /-- The end of the stream, with what FFmpeg writes then. -/
  | flush (written : Bytes)
  deriving DecidableEq, Repr

/-- `HlsFmp4Context`, `CmafFmp4Context` and `DashCmafMp4Context`. -/
structure FragmentContext where
  initSegment : Bytes
  outBuf : Bytes
  /-- The streams of `in_timebase_map`. -/
  streams : List Nat
  videoIndex : Option Nat
  fragmentStartedWithKey : Bool
  fragmentStartTimestamp : UInt64
  epoch : Nat
  /-- Fragments have numbers. -/
  numbers : Bool
  seq : Nat
  deriving DecidableEq, Repr

/-- The context behind the header. -/
def initContext (numbers : Bool) (initSegment : Bytes) (streams : List Nat) (videoIndex : Option Nat)
    (now : Nat) : FragmentContext :=
  ⟨initSegment, [], streams, videoIndex, true, 0, now, numbers, 0⟩

def hlsFmp4Context : Bytes → List Nat → Option Nat → Nat → FragmentContext := initContext true

def cmafFmp4Context : Bytes → List Nat → Option Nat → Nat → FragmentContext := initContext false

def dashCmafMp4Context : Bytes → List Nat → Option Nat → Nat → FragmentContext := initContext false

namespace FragmentContext

variable (context : FragmentContext)

/-- `flush_fragment`, with the time and the key flag of the fragment that is held. -/
def flushFragment : Option MuxPacket × FragmentContext :=
  if context.outBuf.isEmpty then (none, context)
  else
    let seq := if context.numbers then context.seq + 1 else 0
    (some ⟨context.outBuf, context.fragmentStartedWithKey, context.fragmentStartTimestamp, context.epoch, seq⟩,
      { context with outBuf := [], seq := seq })

def isKeyframe (input : Input) : Bool :=
  context.videoIndex == some input.streamIndex && input.keyFlag

def writePacket (input : Input) : Option MuxPacket × FragmentContext :=
  if input.streamIndex ∈ context.streams then
    let written := { context with outBuf := context.outBuf ++ input.written }
    if input.taken then
      match written.flushFragment with
      | (none, context) => (none, context)
      | (some fragment, next) =>
          (some fragment, { next with
            fragmentStartedWithKey := context.isKeyframe input
            fragmentStartTimestamp := input.timestamp })
    else (none, written)
  else (none, context)

/-- `flush`. -/
def finish (written : Bytes) : Option MuxPacket × FragmentContext :=
  { context with outBuf := context.outBuf ++ written }.flushFragment

def step : Action → Option MuxPacket × FragmentContext
  | .discontinuity now => (none, { context with epoch := now })
  | .writePacket input => context.writePacket input
  | .flush written => context.finish written

end FragmentContext

abbrev Entry := Runs.Transition FragmentContext Action (Option MuxPacket)

/-- What FFmpeg writes in a step. -/
def Entry.written (entry : Entry) : Bytes :=
  match entry.action with
  | .discontinuity _ => []
  | .writePacket input => if input.streamIndex ∈ entry.before.streams then input.written else []
  | .flush written => written

/-- The fragments of a run. -/
def fragments (entries : List Entry) : List MuxPacket := entries.filterMap Runs.Transition.result

/-- What a step leaves for the next fragment: the key flag and the time of the packet that sent one. -/
def Entry.start (entry : Entry) : Option (Bool × UInt64) :=
  match entry.result, entry.action with
  | some _, .writePacket input => some (entry.before.isKeyframe input, input.timestamp)
  | _, _ => none

/-- What the next fragment starts with: the last packet that sent one, or the header. -/
def startOf (past : List Entry) : Bool × UInt64 := (past.reverse.findSome? Entry.start).getD (true, 0)

def Entry.renewed (entry : Entry) : Option Nat :=
  match entry.action with
  | .discontinuity now => some now
  | _ => none

/-- The time of the last discontinuity, or of the header. -/
def epochOf (now : Nat) (past : List Entry) : Nat := (past.reverse.findSome? Entry.renewed).getD now

theorem fragments_concat (past : List Entry) (entry : Entry) :
    fragments (past ++ [entry]) = fragments past ++ entry.result.toList := by
  rw [fragments, List.filterMap_append, fragments]
  cases found : entry.result with
  | none => rw [List.filterMap_cons_none found]; rfl
  | some fragment => rw [List.filterMap_cons_some found]; rfl

theorem startOf_concat (past : List Entry) (entry : Entry) :
    startOf (past ++ [entry]) = entry.start.getD (startOf past) := by
  rw [startOf, List.reverse_concat, List.findSome?_cons]
  cases entry.start <;> rfl

theorem epochOf_concat (now : Nat) (past : List Entry) (entry : Entry) :
    epochOf now (past ++ [entry]) = entry.renewed.getD (epochOf now past) := by
  rw [epochOf, List.reverse_concat, List.findSome?_cons]
  cases entry.renewed <;> rfl

/-! ## Nothing of what is written is lost -/

theorem flushFragment_bytes (context : FragmentContext) :
    context.outBuf = (context.flushFragment.1.map MuxPacket.data).getD [] ++ context.flushFragment.2.outBuf := by
  rw [FragmentContext.flushFragment]
  split
  · rfl
  · exact (List.append_nil _).symm

theorem flushFragment_nonempty {context : FragmentContext} {fragment : MuxPacket}
    (sent : context.flushFragment.1 = some fragment) : fragment.data ≠ [] := by
  rw [FragmentContext.flushFragment] at sent
  split at sent
  · cases sent
  · rename_i filled
    cases sent
    exact fun empty => filled (List.isEmpty_iff.mpr empty)

/-- The bytes of the fragment of a step. -/
def Entry.sent (entry : Entry) : Bytes := (entry.result.map MuxPacket.data).getD []

theorem bytes_step (context : FragmentContext) (action : Action) :
    context.outBuf ++ Entry.written (Runs.transition FragmentContext.step context action) =
      Entry.sent (Runs.transition FragmentContext.step context action) ++ (context.step action).2.outBuf := by
  cases action with
  | discontinuity now => exact List.append_nil _
  | writePacket input =>
      simp only [Runs.transition, Entry.written, Entry.sent, FragmentContext.step, FragmentContext.writePacket]
      split
      · split
        · have bytes := flushFragment_bytes { context with outBuf := context.outBuf ++ input.written }
          split
          · rename_i same
            rw [same] at bytes
            exact bytes
          · rename_i same
            rw [same] at bytes
            exact bytes
        · rfl
      · exact List.append_nil _
  | flush written => exact flushFragment_bytes { context with outBuf := context.outBuf ++ written }

theorem nonempty_step {context : FragmentContext} {action : Action} {fragment : MuxPacket}
    (sent : (context.step action).1 = some fragment) : fragment.data ≠ [] := by
  cases action with
  | discontinuity now => cases sent
  | writePacket input =>
      simp only [FragmentContext.step, FragmentContext.writePacket] at sent
      split at sent
      · split at sent
        · split at sent
          · cases sent
          · rename_i same
            cases sent
            exact flushFragment_nonempty (congrArg Prod.fst same)
        · cases sent
      · cases sent
  | flush written => exact flushFragment_nonempty sent

/-! ## What a fragment says -/

/-- How a context stands behind its past. -/
structure Tagged (numbered : Bool) (now : Nat) (past : List Entry) (context : FragmentContext) : Prop where
  numbers : context.numbers = numbered
  start : (context.fragmentStartedWithKey, context.fragmentStartTimestamp) = startOf past
  epoch : context.epoch = epochOf now past
  seq : context.seq = if numbered then (fragments past).length else 0

section

variable {numbered : Bool} {now : Nat} {past : List Entry} {context next : FragmentContext} {action : Action}

/-- A fragment that is sent says what the context holds. -/
theorem flushFragment_some {fragment : MuxPacket} (sent : context.flushFragment = (some fragment, next)) :
    fragment.isKey = context.fragmentStartedWithKey ∧ fragment.timestamp = context.fragmentStartTimestamp ∧
      fragment.epoch = context.epoch ∧ fragment.seq = (if context.numbers then context.seq + 1 else 0) ∧
      next = { context with outBuf := [], seq := fragment.seq } := by
  rw [FragmentContext.flushFragment] at sent
  split at sent <;> cases sent
  exact ⟨rfl, rfl, rfl, rfl, rfl⟩

theorem flushFragment_none (quiet : context.flushFragment = (none, next)) : next = context := by
  rw [FragmentContext.flushFragment] at quiet
  split at quiet <;> cases quiet
  rfl

theorem Tagged.quiet (tagged : Tagged numbered now past context) (sameNumbers : next.numbers = context.numbers)
    (sameKey : next.fragmentStartedWithKey = context.fragmentStartedWithKey)
    (sameTime : next.fragmentStartTimestamp = context.fragmentStartTimestamp)
    (sameSeq : next.seq = context.seq)
    (epoch : next.epoch = (Entry.renewed ⟨context, action, none, next⟩).getD context.epoch) :
    Tagged numbered now (past ++ [⟨context, action, none, next⟩]) next where
  numbers := sameNumbers.trans tagged.numbers
  start := by
    rw [startOf_concat, sameKey, sameTime, tagged.start]
    rfl
  epoch := by rw [epochOf_concat, epoch, tagged.epoch]
  seq := by rw [fragments_concat, sameSeq, tagged.seq, Option.toList_none, List.append_nil]

theorem seq_next (tagged : Tagged numbered now past context) :
    (if context.numbers then context.seq + 1 else 0) = if numbered then (fragments past).length + 1 else 0 := by
  rw [tagged.numbers, tagged.seq]
  cases numbered <;> rfl

/-- A fragment of a step says what the past tells, and the step keeps the tags. -/
structure Tells (numbered : Bool) (now : Nat) (past : List Entry) (fragment : MuxPacket) : Prop where
  start : (fragment.isKey, fragment.timestamp) = startOf past
  epoch : fragment.epoch = epochOf now past
  seq : fragment.seq = if numbered then (fragments past).length + 1 else 0

theorem Tagged.tells (tagged : Tagged numbered now past context) {fragment : MuxPacket}
    (isKey : fragment.isKey = context.fragmentStartedWithKey)
    (timestamp : fragment.timestamp = context.fragmentStartTimestamp) (epoch : fragment.epoch = context.epoch)
    (seq : fragment.seq = if context.numbers then context.seq + 1 else 0) : Tells numbered now past fragment where
  start := by rw [isKey, timestamp, tagged.start]
  epoch := by rw [epoch, tagged.epoch]
  seq := by rw [seq, seq_next tagged]

/-- A step that sends a fragment, behind which the next one starts as the step says. -/
theorem Tagged.sends (tagged : Tagged numbered now past context) {fragment : MuxPacket}
    (tells : Tells numbered now past fragment) (sameNumbers : next.numbers = context.numbers)
    (start : (next.fragmentStartedWithKey, next.fragmentStartTimestamp) =
      (Entry.start ⟨context, action, some fragment, next⟩).getD (startOf past))
    (epoch : next.epoch = (Entry.renewed ⟨context, action, some fragment, next⟩).getD context.epoch)
    (seq : next.seq = fragment.seq) :
    Tagged numbered now (past ++ [⟨context, action, some fragment, next⟩]) next where
  numbers := sameNumbers.trans tagged.numbers
  start := by rw [startOf_concat, start]
  epoch := by rw [epochOf_concat, epoch, tagged.epoch]
  seq := by
    rw [fragments_concat, seq, tells.seq, Option.toList_some, List.length_append, List.length_singleton]

theorem tagged_step (tagged : Tagged numbered now past context) (action : Action) :
    Tagged numbered now (past ++ [Runs.transition FragmentContext.step context action]) (context.step action).2 ∧
      ∀ fragment, (context.step action).1 = some fragment → Tells numbered now past fragment := by
  cases action with
  | discontinuity later => exact ⟨tagged.quiet rfl rfl rfl rfl rfl, fun _ sent => by cases sent⟩
  | writePacket input =>
      simp only [Runs.transition, FragmentContext.step, FragmentContext.writePacket]
      split
      · split
        · split
          · rename_i quiet
            rw [flushFragment_none quiet]
            exact ⟨tagged.quiet rfl rfl rfl rfl rfl, fun _ sent => by cases sent⟩
          · rename_i fragment next sent
            obtain ⟨isKey, timestamp, epoch, seq, rfl⟩ := flushFragment_some sent
            have tells := tagged.tells isKey timestamp epoch seq
            refine ⟨tagged.sends tells rfl rfl rfl rfl, fun other same => ?_⟩
            cases same
            exact tells
        · exact ⟨tagged.quiet rfl rfl rfl rfl rfl, fun _ sent => by cases sent⟩
      · exact ⟨tagged.quiet rfl rfl rfl rfl rfl, fun _ sent => by cases sent⟩
  | flush written =>
      simp only [Runs.transition, FragmentContext.step, FragmentContext.finish]
      cases sent : ({ context with outBuf := context.outBuf ++ written } : FragmentContext).flushFragment with
      | mk result next =>
          cases result with
          | none =>
              rw [flushFragment_none sent]
              exact ⟨tagged.quiet rfl rfl rfl rfl rfl, fun _ sent => by cases sent⟩
          | some fragment =>
              obtain ⟨isKey, timestamp, epoch, seq, rfl⟩ := flushFragment_some sent
              have tells := tagged.tells isKey timestamp epoch seq
              refine ⟨tagged.sends tells rfl tagged.start rfl rfl, fun other same => ?_⟩
              cases same
              exact tells

end

/-- The run of a fragmented muxer behind its header. -/
def runOf (numbers : Bool) (initSegment : Bytes) (streams : List Nat) (videoIndex : Option Nat) (now : Nat)
    (actions : List Action) : List Entry :=
  Runs.run FragmentContext.step (initContext numbers initSegment streams videoIndex now) actions

theorem flatten_fragments (entries : List Entry) :
    ((fragments entries).map MuxPacket.data).flatten = entries.flatMap Entry.sent := by
  induction entries with
  | nil => rfl
  | cons entry rest ih =>
      rw [List.flatMap_cons, ← ih, fragments]
      cases found : entry.result with
      | none => rw [List.filterMap_cons_none found, Entry.sent, found]; rfl
      | some fragment => rw [List.filterMap_cons_some found, Entry.sent, found]; rfl

/-- Whatever FFmpeg writes and refuses, the fragments of a muxer are what it wrote, cut into pieces that are
not empty, up to what is still in the buffer; each tells the key flag and the time of the packet that sent
the fragment before it, the time of the last discontinuity, and its number where fragments have numbers. -/
theorem fragments_of_written (numbers : Bool) (initSegment : Bytes) (streams : List Nat)
    (videoIndex : Option Nat) (now : Nat) (actions : List Action) :
    (runOf numbers initSegment streams videoIndex now actions).flatMap Entry.written =
        ((fragments (runOf numbers initSegment streams videoIndex now actions)).map MuxPacket.data).flatten ++
          (Runs.final FragmentContext.step (initContext numbers initSegment streams videoIndex now) actions).outBuf ∧
      ∀ first entry later, runOf numbers initSegment streams videoIndex now actions = first ++ entry :: later →
        ∀ fragment, entry.result = some fragment →
          fragment.data ≠ [] ∧ Tells numbers now first fragment := by
  constructor
  · rw [flatten_fragments]
    exact Runs.through_run FragmentContext.outBuf Entry.written Entry.sent bytes_step
      (initContext numbers initSegment streams videoIndex now) actions
  · intro first entry later split fragment sent
    have start : Tagged numbers now [] (initContext numbers initSegment streams videoIndex now) :=
      ⟨rfl, rfl, rfl, by cases numbers <;> rfl⟩
    have kept : ∀ past context action, Tagged numbers now past context → True →
        Tagged numbers now (past ++ [Runs.transition FragmentContext.step context action])
          (context.step action).2 :=
      fun past context action tagged _ => (tagged_step tagged action).1
    have tagged := Runs.history_run (Tagged numbers now) (fun _ _ => True) kept start (fun _ _ => True.intro) split
    have member : entry ∈ runOf numbers initSegment streams videoIndex now actions := by
      rw [split]
      exact List.mem_append_right _ (List.mem_cons_self ..)
    have isStep := Runs.mem_run member
    have result := (congrArg Runs.Transition.result isStep).symm.trans sent
    exact ⟨nonempty_step result, (tagged_step tagged entry.action).2 fragment result⟩

/-! ## The FLV muxer -/

/-- `FlvContext`; the streams are those below a number. -/
structure FlvContext where
  header : Bytes
  outBuf : Bytes
  streams : Nat
  videoIndex : Option Nat
  started : Bool
  epoch : Nat
  deriving DecidableEq, Repr

def flvContext (header : Bytes) (streams : Nat) (videoIndex : Option Nat) (now : Nat) : FlvContext :=
  ⟨header, [], streams, videoIndex, false, now⟩

namespace FlvContext

variable (context : FlvContext)

def isKeyframe (input : Input) : Bool :=
  context.videoIndex == some input.streamIndex && input.keyFlag

/-- The packet reaches FFmpeg: it is not empty, its stream is known, and the muxer has started or starts
with it. -/
def admits (input : Input) : Bool :=
  input.size != 0 && input.streamIndex < context.streams && (context.started || context.isKeyframe input)

def writePacket (input : Input) : Option MuxPacket × FlvContext :=
  if context.admits input then
    let outBuf := context.outBuf ++ input.written
    if input.taken && !outBuf.isEmpty then
      (some ⟨outBuf, context.isKeyframe input, input.timestamp, context.epoch, 0⟩,
        { context with started := true, outBuf := [] })
    else (none, { context with started := true, outBuf := outBuf })
  else (none, context)

end FlvContext

abbrev FlvEntry := Runs.Transition FlvContext Input (Option MuxPacket)

def FlvEntry.written (entry : FlvEntry) : Bytes :=
  if entry.before.admits entry.action then entry.action.written else []

def FlvEntry.sent (entry : FlvEntry) : Bytes := (entry.result.map MuxPacket.data).getD []

def flvRun (header : Bytes) (streams : Nat) (videoIndex : Option Nat) (now : Nat) (inputs : List Input) :
    List FlvEntry :=
  Runs.run FlvContext.writePacket (flvContext header streams videoIndex now) inputs

theorem flv_bytes_step (context : FlvContext) (input : Input) :
    context.outBuf ++ FlvEntry.written (Runs.transition FlvContext.writePacket context input) =
      FlvEntry.sent (Runs.transition FlvContext.writePacket context input) ++
        (context.writePacket input).2.outBuf := by
  simp only [Runs.transition, FlvEntry.written, FlvEntry.sent, FlvContext.writePacket]
  split
  · split
    · exact (List.append_nil _).symm
    · rfl
  · exact List.append_nil _

/-- A muxer that has started has seen a key frame of its video stream, which is the one it has had. -/
structure FlvStarted (videoIndex : Option Nat) (now : Nat) (past : List FlvEntry) (context : FlvContext) : Prop where
  video : context.videoIndex = videoIndex
  epoch : context.epoch = now
  key : context.started = true → ∃ entry ∈ past, ∃ index, videoIndex = some index ∧
    entry.action.streamIndex = index ∧ entry.action.keyFlag = true

theorem flv_admits_key {videoIndex : Option Nat} {now : Nat} {past : List FlvEntry} {context : FlvContext}
    (known : FlvStarted videoIndex now past context) {input : Input} (admitted : context.admits input = true)
    (entry : FlvEntry) (same : entry.action = input) :
    ∃ other ∈ past ++ [entry], ∃ index, videoIndex = some index ∧ other.action.streamIndex = index ∧
      other.action.keyFlag = true := by
  simp only [FlvContext.admits, FlvContext.isKeyframe, Bool.and_eq_true, Bool.or_eq_true, beq_iff_eq] at admitted
  rcases admitted.2 with started | ⟨isVideo, isKey⟩
  · obtain ⟨other, member, key⟩ := known.key started
    exact ⟨other, List.mem_append_left _ member, key⟩
  · exact ⟨entry, List.mem_append_right _ (List.mem_singleton_self _), input.streamIndex,
      known.video ▸ isVideo, by rw [same], by rw [same]; exact isKey⟩

theorem flvStarted_step {videoIndex : Option Nat} {now : Nat} (past : List FlvEntry) (context : FlvContext)
    (input : Input) (known : FlvStarted videoIndex now past context) :
    FlvStarted videoIndex now (past ++ [Runs.transition FlvContext.writePacket context input])
      (context.writePacket input).2 := by
  have older : context.started = true →
      ∃ entry ∈ past ++ [Runs.transition FlvContext.writePacket context input], ∃ index,
        videoIndex = some index ∧ entry.action.streamIndex = index ∧ entry.action.keyFlag = true := by
    intro started
    obtain ⟨entry, member, key⟩ := known.key started
    exact ⟨entry, List.mem_append_left _ member, key⟩
  by_cases admitted : context.admits input = true
  · have key := flv_admits_key known admitted (Runs.transition FlvContext.writePacket context input) rfl
    simp only [FlvContext.writePacket, if_pos admitted]
    split
    · exact ⟨known.video, known.epoch, fun _ => key⟩
    · exact ⟨known.video, known.epoch, fun _ => key⟩
  · simp only [FlvContext.writePacket, if_neg admitted]
    exact ⟨known.video, known.epoch, older⟩

/-- The FLV muxer writes nothing before a key frame of its video stream, and without one nothing at all; what
it sends from then on is what FFmpeg writes, up to what is in the buffer, in pieces that are not empty, each
with the time and the key flag of the packet that was written last. -/
theorem flv_of_written (header : Bytes) (streams : Nat) (videoIndex : Option Nat) (now : Nat)
    (inputs : List Input) :
    (flvRun header streams videoIndex now inputs).flatMap FlvEntry.written =
        (flvRun header streams videoIndex now inputs).flatMap FlvEntry.sent ++
          (Runs.final FlvContext.writePacket (flvContext header streams videoIndex now) inputs).outBuf ∧
      ∀ first entry later, flvRun header streams videoIndex now inputs = first ++ entry :: later →
        (FlvEntry.written entry ≠ [] → ∃ other ∈ first ++ [entry], ∃ index, videoIndex = some index ∧
          other.action.streamIndex = index ∧ other.action.keyFlag = true) ∧
        ∀ packet, entry.result = some packet → packet.data ≠ [] ∧ packet.timestamp = entry.action.timestamp ∧
          packet.isKey = (videoIndex == some entry.action.streamIndex && entry.action.keyFlag) ∧
          packet.epoch = now := by
  constructor
  · exact Runs.through_run FlvContext.outBuf FlvEntry.written FlvEntry.sent flv_bytes_step
      (flvContext header streams videoIndex now) inputs
  · intro first entry later split
    have start : FlvStarted videoIndex now [] (flvContext header streams videoIndex now) :=
      ⟨rfl, rfl, fun started => by cases started⟩
    have kept : ∀ past context input, FlvStarted videoIndex now past context → True →
        FlvStarted videoIndex now (past ++ [Runs.transition FlvContext.writePacket context input])
          (context.writePacket input).2 :=
      fun past context input known _ => flvStarted_step past context input known
    have known := Runs.history_run (FlvStarted videoIndex now) (fun _ _ => True) kept start
      (fun _ _ => True.intro) split
    have member : entry ∈ flvRun header streams videoIndex now inputs := by
      rw [split]
      exact List.mem_append_right _ (List.mem_cons_self ..)
    have isStep := Runs.mem_run member
    constructor
    · intro writes
      rw [FlvEntry.written] at writes
      split at writes
      · rename_i admitted
        exact flv_admits_key known admitted entry rfl
      · exact absurd rfl writes
    · intro packet sent
      have result := (congrArg Runs.Transition.result isStep).symm.trans sent
      simp only [Runs.transition, FlvContext.writePacket] at result
      split at result
      · split at result
        · rename_i full
          cases result
          simp only [Bool.and_eq_true, Bool.not_eq_true'] at full
          refine ⟨fun empty => ?_, rfl, ?_, known.epoch⟩
          · change entry.before.outBuf ++ entry.action.written = [] at empty
            rw [empty] at full
            cases full.2
          · rw [FlvContext.isKeyframe, known.video]
        · cases result
      · cases result

end Gmv.Stream.FragmentMuxers
