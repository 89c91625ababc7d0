import Gmv.Library.Latch
import Gmv.Stream.RtpPacket
import Gmv.Stream.TimelinePacing

/-!
# The start of a playback

A context reads packets until the parameters of its streams are known, and keeps those from the first
key frame on; where there is no video, from the first sound on.  The muxers get what was kept and then
every packet that is read, each with the timestamps of its timeline; events are handled in between.
-/

namespace Gmv.Stream.PlaybackStart

open Gmv.Library Timeline TimelinePacing

/-! ## Reading until the parameters are known -/

def fixMaxReadFrame : Nat := 128

/-- A packet of `av_read_frame`. -/
structure Frame where
  packet : AVPacket
  keyFlag : Bool
  payload : Bytes
  deriving DecidableEq, Repr

/-- What a stream of the demuxer says of itself at first. -/
structure StreamInfo where
  codecType : AVMediaType
  timeBase : Int32 × Int32
  videoDelay : Int32
  deriving DecidableEq, Repr

/-- `ParamRepairState` and the parameters of the codec, which are repaired with it. -/
structure Param (σ : Type) where
  ready : Bool
  videoDelay : Int32
  repair : σ

section

variable {σ : Type}

/-- The loop of `fix_basic_stream_info`, with what it has cached. -/
structure Fix (σ : Type) where
  params : List (Param σ)
  videoKeyframeFound : Bool
  audioReady : Bool
  counter : Nat
  pkts : List Frame
  globalBaseUs : Int64

variable (repairBasicStreamInfo : Nat → Param σ → Frame → Bool × Param σ)
variable (infos : List StreamInfo)

/-- A packet that is not discarded, with its timestamps, and the type of its stream. -/
structure Accepted where
  index : Nat
  codecType : AVMediaType
  frame : Frame
  deriving DecidableEq, Repr

def accept (params : List (Param σ)) (frame : Frame) : Option Accepted :=
  if frame.packet.streamIndex < 0 then none
  else
    let index := frame.packet.streamIndex.toInt.toNat
    match params[index]?, infos[index]? with
    | some param, some info =>
        if frame.packet.dataIsNull ∨ frame.packet.size ≤ 0 then none
        else (repairMissingTimestamps frame.packet param.videoDelay).map fun packet =>
          ⟨index, info.codecType, { frame with packet := packet }⟩
    | _, _ => none

def hasVideo : Bool := infos.any fun info => info.codecType = .video

/-- The parameters of a stream behind a packet: they are repaired until they are ready. -/
def repairOnce (param : Param σ) (accepted : Accepted) : Param σ :=
  if param.ready then param
  else
    let (ready, param) := repairBasicStreamInfo accepted.index param accepted.frame
    { param with ready := ready }

def repairAt (accepted : Accepted) (params : List (Param σ)) : List (Param σ) :=
  params.modify accepted.index fun param => repairOnce repairBasicStreamInfo param accepted

/-- The packet is one to start from. -/
def starts (accepted : Accepted) : Bool :=
  if hasVideo infos then decide (accepted.codecType = .video) && accepted.frame.keyFlag
  else decide (accepted.codecType = .audio)

def rescaleGlobalBaseUs (globalBaseUs pts : Int64) : Int64 :=
  if pts ≠ avNoptsValue then min globalBaseUs pts else globalBaseUs

def Fix.shouldCache (fix : Fix σ) : Bool :=
  if hasVideo infos then fix.videoKeyframeFound else fix.audioReady

/-- The loop body behind the checks. -/
def Fix.take (fix : Fix σ) (accepted : Accepted) : Fix σ :=
  let fix : Fix σ := { fix with
    params := repairAt repairBasicStreamInfo accepted fix.params
    videoKeyframeFound :=
      fix.videoKeyframeFound || (decide (accepted.codecType = .video) && accepted.frame.keyFlag)
    audioReady := fix.audioReady || decide (accepted.codecType = .audio)
    counter := fix.counter + 1 }
  if fix.shouldCache infos then { fix with
    pkts := fix.pkts ++ [accepted.frame]
    globalBaseUs := rescaleGlobalBaseUs fix.globalBaseUs accepted.frame.packet.pts }
  else fix

/-- Everything is known that the muxers need. -/
def Fix.complete (fix : Fix σ) : Bool := fix.shouldCache infos && fix.params.all Param.ready

/-- The loop over what `av_read_frame` gives; the packets that it has not read are left. -/
def fixLoop (fix : Fix σ) : List Frame → Fix σ × List Frame
  | [] => (fix, [])
  | frame :: rest =>
      if fix.counter < fixMaxReadFrame then
        match accept infos fix.params frame with
        | none => fixLoop fix rest
        | some accepted =>
            let fix := fix.take repairBasicStreamInfo infos accepted
            if fix.complete infos then (fix, rest) else fixLoop fix rest
      else (fix, frame :: rest)

def paramsOf (infos : List StreamInfo) (repair : Nat → σ) : List (Param σ) :=
  infos.mapIdx fun index info => ⟨false, info.videoDelay, repair index⟩

/-- The loop before the first packet. -/
def Fix.first (repair : Nat → σ) : Fix σ := ⟨paramsOf infos repair, false, false, 0, [], Int64.maxValue⟩

/-- The base behind the loop, of the packets or 0. -/
def baseOf (globalBaseUs : Int64) : Int64 := if globalBaseUs = Int64.maxValue then 0 else globalBaseUs

/-- `fix_basic_stream_info`. -/
def fixBasicStreamInfo (repair : Nat → σ) (frames : List Frame) : Fix σ × List Frame :=
  let (fix, rest) := fixLoop repairBasicStreamInfo infos (.first infos repair) frames
  ({ fix with globalBaseUs := baseOf fix.globalBaseUs }, rest)

end

/-! ## Feeding the muxers -/

section

variable {σ ε : Type}

/-- What `try_recv` of the events gives. -/
inductive Poll (ε : Type) where
  | event (event : ε)
  | channelClosed
  | nothing
  deriving DecidableEq, Repr

/-- A packet for the muxers. -/
structure Written where
  epoch : ProcessResult
  frame : Frame
  ts : UInt64
  deriving DecidableEq, Repr

/-- What the muxers are asked. -/
inductive Call (ε : Type) where
  | event (event : ε)
  | packet (written : Written)
  | flush
  deriving DecidableEq, Repr

variable (repairBasicStreamInfo : Nat → Param σ → Frame → Bool × Param σ)
variable (infos : List StreamInfo)
variable (avRescaleQ : Int64 → Int32 × Int32 → Int32 × Int32 → Int64)

/-- `process`: a packet that the normalizer discards does not reach the muxers. -/
def process (normalizer : TimelineNormalizer) (frame : Frame) : Option Written × TimelineNormalizer :=
  match normalizer.process avRescaleQ frame.packet with
  | ((packet, some masterClockUs, result), next) =>
      (some ⟨result, { frame with packet := packet }, (masterClockUs / 1000000).toUInt64⟩, next)
  | ((_, none, _), next) => (none, next)

def Poll.handle : Poll ε → List (Call ε)
  | .event happened => [.event happened]
  | _ => []

/-- Packets one after another, with a poll of the events before each; `none` when the channel is closed. -/
def feed (normalizer : TimelineNormalizer) : List (Poll ε) → List Frame →
    List (Call ε) × Option (TimelineNormalizer × List (Poll ε))
  | polls, [] => ([], some (normalizer, polls))
  | [], frame :: rest =>
      let (written, normalizer) := process avRescaleQ normalizer frame
      let (more, result) := feed normalizer [] rest
      ((written.map Call.packet).toList ++ more, result)
  | .channelClosed :: _, _ :: _ => ([], none)
  | poll :: polls, frame :: rest =>
      let (written, normalizer) := process avRescaleQ normalizer frame
      let (more, result) := feed normalizer polls rest
      (poll.handle ++ (written.map Call.packet).toList ++ more, result)

def normalizerOf (infos : List StreamInfo) (globalBaseUs : Int64) : TimelineNormalizer :=
  ⟨infos.map fun info => some (.new info.codecType info.timeBase info.videoDelay), globalBaseUs⟩

/-- The end of `invoke`: the poll before the read that fails. -/
def finish : List (Poll ε) → List (Call ε)
  | .channelClosed :: _ => []
  | .event happened :: _ => [.event happened, .flush]
  | _ => [.flush]

/-- What `invoke` does with cached packets and with those behind them; an error says that the channel was
closed before all that was cached was written. -/
def play (normalizer : TimelineNormalizer) (polls : List (Poll ε)) (cached rest : List Frame) :
    List (Call ε) × Except String Unit :=
  match feed avRescaleQ normalizer polls cached with
  | (calls, none) => (calls, .error "数据已释放，通道关闭")
  | (calls, some (normalizer, polls)) =>
      match feed avRescaleQ normalizer polls rest with
      | (more, none) => (calls ++ more, .ok ())
      | (more, some (_, polls)) => (calls ++ more ++ finish polls, .ok ())

def invoke (repair : Nat → σ) (frames : List Frame) (polls : List (Poll ε)) : List (Call ε) × Except String Unit :=
  match fixBasicStreamInfo repairBasicStreamInfo infos repair frames with
  | (fix, rest) =>
      if fix.pkts.isEmpty then ([], .ok ())
      else play avRescaleQ (normalizerOf infos fix.globalBaseUs) polls fix.pkts rest

end

/-! ## What is cached -/

section

variable {σ : Type} {repairBasicStreamInfo : Nat → Param σ → Frame → Bool × Param σ} {infos : List StreamInfo}
  {fix : Fix σ}

/-- A packet in the loop, with what is accepted of it. -/
def fixStep (repairBasicStreamInfo : Nat → Param σ → Frame → Bool × Param σ) (infos : List StreamInfo)
    (fix : Fix σ) (frame : Frame) : Option Accepted × Fix σ :=
  match accept infos fix.params frame with
  | none => (none, fix)
  | some accepted => (some accepted, fix.take repairBasicStreamInfo infos accepted)

abbrev FixEntry (σ : Type) := Runs.Transition (Fix σ) Frame (Option Accepted)

def acceptedOf (entries : List (FixEntry σ)) : List Accepted := entries.filterMap Runs.Transition.result

theorem acceptedOf_concat (past : List (FixEntry σ)) (entry : FixEntry σ) :
    acceptedOf (past ++ [entry]) = acceptedOf past ++ entry.result.toList := by
  rw [acceptedOf, List.filterMap_append, acceptedOf]
  cases found : entry.result with
  | none => rw [List.filterMap_cons_none found]; rfl
  | some accepted => rw [List.filterMap_cons_some found]; rfl

/-- The loop behind a packet, before it is cached. -/
def Fix.note (fix : Fix σ) (repairBasicStreamInfo : Nat → Param σ → Frame → Bool × Param σ)
    (accepted : Accepted) : Fix σ :=
  { fix with
    params := repairAt repairBasicStreamInfo accepted fix.params
    videoKeyframeFound :=
      fix.videoKeyframeFound || (decide (accepted.codecType = .video) && accepted.frame.keyFlag)
    audioReady := fix.audioReady || decide (accepted.codecType = .audio)
    counter := fix.counter + 1 }

theorem note_shouldCache (accepted : Accepted) :
    (fix.note repairBasicStreamInfo accepted).shouldCache infos =
      (fix.shouldCache infos || starts infos accepted) := by
  rw [Fix.shouldCache, Fix.shouldCache, starts]
  cases hasVideo infos <;> rfl

theorem take_eq (accepted : Accepted) :
    fix.take repairBasicStreamInfo infos accepted =
      if fix.shouldCache infos || starts infos accepted then
        { fix.note repairBasicStreamInfo accepted with
          pkts := fix.pkts ++ [accepted.frame]
          globalBaseUs := rescaleGlobalBaseUs fix.globalBaseUs accepted.frame.packet.pts }
      else fix.note repairBasicStreamInfo accepted := by
  rw [← @note_shouldCache σ repairBasicStreamInfo infos fix accepted]
  rfl

theorem take_shouldCache (accepted : Accepted) :
    (fix.take repairBasicStreamInfo infos accepted).shouldCache infos =
      (fix.shouldCache infos || starts infos accepted) := by
  rw [take_eq, ← @note_shouldCache σ repairBasicStreamInfo infos fix accepted]
  split <;> rfl

theorem take_pkts (accepted : Accepted) :
    (fix.take repairBasicStreamInfo infos accepted).pkts =
      if fix.shouldCache infos || starts infos accepted then fix.pkts ++ [accepted.frame] else fix.pkts := by
  rw [take_eq]
  split <;> rfl

theorem take_base (accepted : Accepted) :
    (fix.take repairBasicStreamInfo infos accepted).globalBaseUs =
      if fix.shouldCache infos || starts infos accepted then
        rescaleGlobalBaseUs fix.globalBaseUs accepted.frame.packet.pts
      else fix.globalBaseUs := by
  rw [take_eq]
  split <;> rfl

theorem take_counter (accepted : Accepted) :
    (fix.take repairBasicStreamInfo infos accepted).counter = fix.counter + 1 := by
  rw [take_eq]
  split <;> rfl

/-! ## Packets that are accepted -/

/-- A packet of one of `count` streams with something in it and both timestamps. -/
structure Valid (count : Nat) (packet : AVPacket) : Prop where
  isIndex : ¬packet.streamIndex < 0
  inside : packet.streamIndex.toInt.toNat < count
  filled : ¬(packet.dataIsNull = true ∨ packet.size ≤ 0)
  pts : packet.pts ≠ avNoptsValue
  dts : packet.dts ≠ avNoptsValue

theorem repair_valid {count : Nat} {packet : AVPacket} (valid : Valid count packet) (reorderDelay : Int32) :
    repairMissingTimestamps packet reorderDelay = some packet := by
  simp [repairMissingTimestamps, valid.pts, valid.dts]

theorem valid_of_repair {count : Nat} {packet repaired : AVPacket} {reorderDelay : Int32}
    (isIndex : ¬packet.streamIndex < 0) (inside : packet.streamIndex.toInt.toNat < count)
    (filled : ¬(packet.dataIsNull = true ∨ packet.size ≤ 0))
    (repairs : repairMissingTimestamps packet reorderDelay = some repaired) : Valid count repaired := by
  simp only [repairMissingTimestamps] at repairs
  split_ifs at repairs with _ _ stamped _ stamped stamped
  · cases repairs
    exact ⟨isIndex, inside, filled, stamped.1, stamped.2⟩
  · cases repairs
    exact ⟨isIndex, inside, filled, stamped.1, stamped.2⟩
  · cases repairs
    exact ⟨isIndex, inside, filled, stamped.1, stamped.2⟩

theorem accept_valid {params : List (Param σ)} {frame : Frame} {accepted : Accepted}
    (found : accept infos params frame = some accepted) : Valid infos.length accepted.frame.packet := by
  simp only [accept] at found
  split at found
  · cases found
  · rename_i isIndex
    split at found
    · rename_i param info _ known
      split at found
      · cases found
      · rename_i filled
        obtain ⟨packet, repairs, rfl⟩ := Option.map_eq_some_iff.mp found
        exact valid_of_repair isIndex (List.getElem?_eq_some_iff.mp known).1 filled repairs
    · cases found

/-- The least timestamp of packets. -/
def leastPts (frames : List Frame) : Int64 := (frames.map fun frame => frame.packet.pts).foldl min Int64.maxValue

theorem leastPts_concat {count : Nat} (frames : List Frame) {frame : Frame} (valid : Valid count frame.packet) :
    leastPts (frames ++ [frame]) = rescaleGlobalBaseUs (leastPts frames) frame.packet.pts := by
  rw [leastPts, List.map_append, List.foldl_append, rescaleGlobalBaseUs, if_pos valid.pts]
  rfl

/-! ## The loop -/

/-- The loop has cached what was accepted from the first packet to start from. -/
structure Cached (infos : List StreamInfo) (past : List (FixEntry σ)) (fix : Fix σ) : Prop where
  opened : fix.shouldCache infos = (acceptedOf past).any (starts infos)
  pkts : fix.pkts = (Latch.kept (starts infos) (acceptedOf past)).map Accepted.frame
  counter : fix.counter = (acceptedOf past).length
  base : fix.globalBaseUs = leastPts fix.pkts
  valid : ∀ frame ∈ fix.pkts, Valid infos.length frame.packet

theorem cached_step (past : List (FixEntry σ)) (fix : Fix σ) (frame : Frame) (cached : Cached infos past fix) :
    Cached infos (past ++ [Runs.transition (fixStep repairBasicStreamInfo infos) fix frame])
      (fixStep repairBasicStreamInfo infos fix frame).2 := by
  have behind := acceptedOf_concat past (Runs.transition (fixStep repairBasicStreamInfo infos) fix frame)
  cases found : accept infos fix.params frame with
  | none =>
      simp only [Runs.transition, fixStep, found, Option.toList_none, List.append_nil] at behind ⊢
      exact ⟨by rw [behind]; exact cached.opened, by rw [behind]; exact cached.pkts,
        by rw [behind]; exact cached.counter, cached.base, cached.valid⟩
  | some accepted =>
      simp only [Runs.transition, fixStep, found, Option.toList_some] at behind ⊢
      have opened := cached.opened
      have valid := accept_valid found
      refine ⟨?_, ?_, ?_, ?_, ?_⟩
      · rw [behind, take_shouldCache, List.any_append, ← opened, List.any_cons, List.any_nil, Bool.or_false]
      · rw [behind, take_pkts, Latch.kept_concat, ← opened]
        split
        · rw [List.map_append, List.map_singleton, ← cached.pkts]
        · rename_i closed
          have shut : (acceptedOf past).any (starts infos) = false := by
            rw [← opened]
            cases isOpen : fix.shouldCache infos with
            | true => exact absurd (by rw [isOpen, Bool.true_or]) closed
            | false => rfl
          rw [cached.pkts, Latch.kept_eq_nil_iff.mpr shut]
      · rw [behind, take_counter, List.length_append, List.length_singleton, cached.counter]
      · rw [take_base, take_pkts]
        split
        · rw [leastPts_concat _ valid, cached.base]
        · exact cached.base
      · rw [take_pkts]
        split
        · intro other member
          rcases List.mem_append.mp member with old | new
          · exact cached.valid other old
          · rwa [List.mem_singleton.mp new]
        · exact cached.valid

theorem take_params (accepted : Accepted) :
    (fix.take repairBasicStreamInfo infos accepted).params = repairAt repairBasicStreamInfo accepted fix.params := by
  rw [take_eq]
  split <;> rfl

theorem acceptedOf_cons (frame : Frame) (rest : List Frame) :
    acceptedOf (Runs.run (fixStep repairBasicStreamInfo infos) fix (frame :: rest)) =
      (accept infos fix.params frame).toList ++
        acceptedOf (Runs.run (fixStep repairBasicStreamInfo infos)
          (fixStep repairBasicStreamInfo infos fix frame).2 rest) := by
  rw [acceptedOf, Runs.run_cons, acceptedOf]
  cases found : accept infos fix.params frame with
  | none => exact List.filterMap_cons_none (by rw [Runs.transition, fixStep, found])
  | some accepted => exact List.filterMap_cons_some (by rw [Runs.transition, fixStep, found])

/-- The parameters of a stream are repaired by its own packets, one after another. -/
theorem params_final (read : List Frame) (index : Nat) :
    (Runs.final (fixStep repairBasicStreamInfo infos) fix read).params[index]? =
      fix.params[index]?.map fun param =>
        ((acceptedOf (Runs.run (fixStep repairBasicStreamInfo infos) fix read)).filter
          fun accepted => accepted.index == index).foldl (repairOnce repairBasicStreamInfo) param := by
  induction read generalizing fix with
  | nil => exact (congrFun Option.map_id _).symm
  | cons frame rest ih =>
      rw [Runs.final_cons, ih, acceptedOf_cons, List.filter_append, fixStep]
      cases found : accept infos fix.params frame with
      | none => rfl
      | some accepted =>
          dsimp only
          rw [take_params, repairAt, List.getElem?_modify, Option.toList_some]
          by_cases same : accepted.index = index
          · rw [List.filter_cons_of_pos (by simpa using same)]
            simp only [if_pos same]
            cases fix.params[index]? <;> rfl
          · rw [List.filter_cons_of_neg (by simpa using same)]
            simp only [if_neg same]
            cases fix.params[index]? <;> rfl

/-- A loop is a run over the packets that it reads, and it ends where they end, behind 128 packets or
where everything is known. -/
structure Reads (repairBasicStreamInfo : Nat → Param σ → Frame → Bool × Param σ) (infos : List StreamInfo)
    (fix : Fix σ) (read rest : List Frame) (done : Fix σ) : Prop where
  final : done = Runs.final (fixStep repairBasicStreamInfo infos) fix read
  before : ∀ entry ∈ Runs.run (fixStep repairBasicStreamInfo infos) fix read,
    entry.before.counter < fixMaxReadFrame ∧ entry.before.complete infos = false
  ended : rest ≠ [] → fixMaxReadFrame ≤ done.counter ∨ done.complete infos = true

theorem fixLoop_reads (frames : List Frame) (incomplete : fix.complete infos = false) :
    ∃ read, frames = read ++ (fixLoop repairBasicStreamInfo infos fix frames).2 ∧
      Reads repairBasicStreamInfo infos fix read (fixLoop repairBasicStreamInfo infos fix frames).2
        (fixLoop repairBasicStreamInfo infos fix frames).1 := by
  induction frames generalizing fix with
  | nil => exact ⟨[], rfl, rfl, fun _ member => (nomatch member), fun some' => absurd rfl some'⟩
  | cons frame rest ih =>
      rw [fixLoop]
      split
      · rename_i room
        cases found : accept infos fix.params frame with
        | none =>
            obtain ⟨read, split, reads⟩ := ih incomplete
            have step : fixStep repairBasicStreamInfo infos fix frame = (none, fix) := by rw [fixStep, found]
            refine ⟨frame :: read, by rw [List.cons_append, ← split], ?_, ?_, reads.ended⟩
            · rw [Runs.final_cons, step]
              exact reads.final
            · rw [Runs.run_cons, step]
              rintro entry (_ | ⟨_, later⟩)
              · exact ⟨room, incomplete⟩
              · exact reads.before entry later
        | some accepted =>
            have step : fixStep repairBasicStreamInfo infos fix frame =
                (some accepted, fix.take repairBasicStreamInfo infos accepted) := by rw [fixStep, found]
            dsimp only
            split
            · rename_i complete
              refine ⟨[frame], rfl, ?_, ?_, fun _ => Or.inr complete⟩
              · rw [Runs.final_cons, step]
                rfl
              · rw [Runs.run_cons, step]
                rintro entry (_ | ⟨_, later⟩)
                · exact ⟨room, incomplete⟩
                · nomatch later
            · rename_i more
              obtain ⟨read, split, reads⟩ := ih (Bool.not_eq_true _ ▸ more)
              refine ⟨frame :: read, by rw [List.cons_append, ← split], ?_, ?_, reads.ended⟩
              · rw [Runs.final_cons, step]
                exact reads.final
              · rw [Runs.run_cons, step]
                rintro entry (_ | ⟨_, later⟩)
                · exact ⟨room, incomplete⟩
                · exact reads.before entry later
      · rename_i full
        exact ⟨[], rfl, rfl, fun _ member => (nomatch member), fun _ => Or.inl (Nat.le_of_not_lt full)⟩

end

/-! ## What is written -/

section

variable {σ ε : Type} {infos : List StreamInfo} {count : Nat}
variable (avRescaleQ : Int64 → Int32 × Int32 → Int32 × Int32 → Int64)

/-- The packets before which the channel is not closed. -/
def untilClosed : List (Poll ε) → List Frame → List Frame
  | _, [] => []
  | [], frames => frames
  | .channelClosed :: _, _ => []
  | _ :: polls, frame :: rest => frame :: untilClosed polls rest

def Call.written : Call ε → Option Written
  | .packet written => some written
  | _ => none

def writtenOf (calls : List (Call ε)) : List Written := calls.filterMap Call.written

/-- What a normalizer makes of packets. -/
def clocked (normalizer : TimelineNormalizer) (frames : List Frame) : List Written :=
  (Runs.run (process avRescaleQ) normalizer frames).filterMap Runs.Transition.result

/-- What the muxers get of a packet as it was read. -/
def source (frame : Frame) : Int32 × Bool × Bytes := (frame.packet.streamIndex, frame.keyFlag, frame.payload)

/-- Every stream has a timeline. -/
structure Full (count : Nat) (normalizer : TimelineNormalizer) : Prop where
  length : normalizer.streams.length = count
  timelines : ∀ index < count, ∃ timeline, normalizer.streams[index]? = some (some timeline)

theorem full_normalizerOf (globalBaseUs : Int64) : Full infos.length (normalizerOf infos globalBaseUs) where
  length := List.length_map ..
  timelines index inside := ⟨_, by rw [normalizerOf, List.getElem?_map, List.getElem?_eq_getElem inside]; rfl⟩

variable {avRescaleQ} {normalizer : TimelineNormalizer}

theorem full_set (full : Full count normalizer) (index : Nat) (timeline : StreamTimeline) :
    Full count { normalizer with streams := normalizer.streams.set index (some timeline) } where
  length := (List.length_set ..).trans full.length
  timelines other inside := by
    by_cases same : index = other
    · subst same
      exact ⟨timeline, List.getElem?_set_self (full.length.symm ▸ inside)⟩
    · rw [List.getElem?_set_ne same]
      exact full.timelines other inside

theorem full_process (full : Full count normalizer) (packet : AVPacket) :
    Full count (normalizer.process avRescaleQ packet).2 := by
  rw [TimelineNormalizer.process]
  split
  · exact full
  · split
    · exact full
    · exact full_set full ..

theorem corrected_streamIndex (timeline : StreamTimeline) (packet : AVPacket) :
    (corrected timeline packet).streamIndex = packet.streamIndex := by
  rw [corrected, StreamTimeline.raisePts]
  split_ifs <;> rfl

theorem step_streamIndex {timeline : StreamTimeline} {packet : AVPacket}
    (valid : Valid count packet) : (timeline.step packet).1.1.streamIndex = packet.streamIndex := by
  have repairs := repair_valid valid timeline.reorderDelay
  cases initialized : timeline.initialized with
  | false => rw [step_first repairs initialized]
  | true =>
      obtain ⟨normalDelta, stepped⟩ := step_later repairs initialized
      rw [stepped]
      exact corrected_streamIndex ..

/-- A packet that is accepted is written. -/
theorem process_valid (full : Full count normalizer) {frame : Frame} (valid : Valid count frame.packet) :
    ∃ written, (process avRescaleQ normalizer frame).1 = some written ∧ source written.frame = source frame := by
  obtain ⟨timeline, held⟩ := full.timelines _ valid.inside
  have found : normalizer.streamOf frame.packet = some timeline := by
    rw [TimelineNormalizer.streamOf, if_neg valid.isIndex, if_neg (Nat.not_le.mpr (full.length.symm ▸ valid.inside)),
      if_neg valid.filled, held]
    rfl
  simp only [process, TimelineNormalizer.process, found, repair_valid valid timeline.reorderDelay]
  exact ⟨_, rfl, by rw [source, step_streamIndex valid, source]⟩

theorem process_next (frame : Frame) :
    (process avRescaleQ normalizer frame).2 = (normalizer.process avRescaleQ frame.packet).2 := by
  rw [process]
  split <;> rename_i same <;> rw [same]

theorem clocked_cons (frame : Frame) (rest : List Frame) :
    clocked avRescaleQ normalizer (frame :: rest) =
      (process avRescaleQ normalizer frame).1.toList ++
        clocked avRescaleQ (process avRescaleQ normalizer frame).2 rest := by
  rw [clocked, Runs.run_cons, clocked]
  cases made : (process avRescaleQ normalizer frame).1 with
  | none => exact List.filterMap_cons_none made
  | some written => exact List.filterMap_cons_some made

/-- Packets that are accepted are all written, in their order. -/
theorem clocked_valid (full : Full count normalizer) {frames : List Frame}
    (valid : ∀ frame ∈ frames, Valid count frame.packet) :
    (clocked avRescaleQ normalizer frames).map (fun written => source written.frame) = frames.map source := by
  induction frames generalizing normalizer with
  | nil => rfl
  | cons frame rest ih =>
      obtain ⟨written, made, same⟩ :=
        @process_valid count avRescaleQ normalizer full frame (valid frame (List.mem_cons_self ..))
      have next : Full count (process avRescaleQ normalizer frame).2 := by
        rw [process_next]
        exact full_process full frame.packet
      have later := ih next fun other member => valid other (List.mem_cons_of_mem _ member)
      rw [clocked_cons, made, Option.toList_some, List.singleton_append, List.map_cons, same, List.map_cons, later]

theorem clocked_append (first second : List Frame) :
    clocked avRescaleQ normalizer (first ++ second) = clocked avRescaleQ normalizer first ++
      clocked avRescaleQ (Runs.final (process avRescaleQ) normalizer first) second := by
  rw [clocked, Runs.run_append, List.filterMap_append, clocked, clocked]

theorem writtenOf_append (first second : List (Call ε)) :
    writtenOf (first ++ second) = writtenOf first ++ writtenOf second := List.filterMap_append ..

theorem writtenOf_handle (poll : Poll ε) : writtenOf poll.handle = [] := by
  cases poll <;> rfl

theorem flush_handle (poll : Poll ε) : Call.flush ∉ poll.handle := by
  cases poll <;> simp [Poll.handle]

theorem flush_packet (written : Option Written) :
    Call.flush ∉ ((written.map Call.packet).toList : List (Call ε)) := by
  cases written <;> simp

theorem writtenOf_packet (written : Option Written) :
    writtenOf ((written.map Call.packet).toList : List (Call ε)) = written.toList := by
  cases written <;> rfl

/-- The channel is closed before one of the packets, or all go through. -/
structure Fed (avRescaleQ : Int64 → Int32 × Int32 → Int32 × Int32 → Int64) (normalizer : TimelineNormalizer)
    (polls : List (Poll ε)) (frames : List Frame)
    (result : List (Call ε) × Option (TimelineNormalizer × List (Poll ε))) : Prop where
  written : writtenOf result.1 = clocked avRescaleQ normalizer (untilClosed polls frames)
  closed : result.2 = none → untilClosed polls frames ≠ frames
  through : ∀ next later, result.2 = some (next, later) → untilClosed polls frames = frames ∧
    next = Runs.final (process avRescaleQ) normalizer frames ∧ later = polls.drop frames.length
  endless : Call.flush ∉ result.1

theorem polls_closed {polls : List (Poll ε)} (closed : polls.head? = some .channelClosed) :
    ∃ behind, polls = .channelClosed :: behind := by
  cases polls with
  | nil => cases closed
  | cons poll behind => exact ⟨behind, congrArg (· :: behind) (Option.some.inj closed)⟩

theorem feed_cons {polls : List (Poll ε)} (opened : polls.head? ≠ some .channelClosed) (frame : Frame)
    (rest : List Frame) :
    feed avRescaleQ normalizer polls (frame :: rest) =
      ((polls.head?.map Poll.handle).getD [] ++
          ((process avRescaleQ normalizer frame).1.map Call.packet).toList ++
          (feed avRescaleQ (process avRescaleQ normalizer frame).2 polls.tail rest).1,
        (feed avRescaleQ (process avRescaleQ normalizer frame).2 polls.tail rest).2) := by
  cases polls with
  | nil => rfl
  | cons poll polls =>
      cases poll with
      | channelClosed => exact absurd rfl opened
      | event happened => rfl
      | nothing => rfl

theorem untilClosed_cons {polls : List (Poll ε)} (opened : polls.head? ≠ some .channelClosed) (frame : Frame)
    (rest : List Frame) : untilClosed polls (frame :: rest) = frame :: untilClosed polls.tail rest := by
  cases polls with
  | nil => cases rest <;> rfl
  | cons poll polls =>
      cases poll with
      | channelClosed => exact absurd rfl opened
      | event happened => rfl
      | nothing => rfl

theorem fed (polls : List (Poll ε)) (frames : List Frame) :
    Fed avRescaleQ normalizer polls frames (feed avRescaleQ normalizer polls frames) := by
  induction frames generalizing normalizer polls with
  | nil =>
      have none' : untilClosed polls [] = [] := by cases polls <;> rfl
      rw [feed]
      refine ⟨by rw [none']; rfl, fun closed => (nomatch closed), fun next later same => ?_, List.not_mem_nil⟩
      cases same
      exact ⟨none', rfl, rfl⟩
  | cons frame rest ih =>
      by_cases opened : polls.head? = some .channelClosed
      · obtain ⟨behind, rfl⟩ := polls_closed opened
        exact ⟨rfl, fun _ same => (nomatch same), fun next later same => (nomatch same), List.not_mem_nil⟩
      · obtain ⟨written, closed, through, endless⟩ :=
          @ih (process avRescaleQ normalizer frame).2 polls.tail
        have quiet : writtenOf ((polls.head?.map Poll.handle).getD []) = [] := by
          cases polls.head? with
          | none => rfl
          | some poll => exact writtenOf_handle poll
        have noFlush : Call.flush ∉ (polls.head?.map Poll.handle).getD [] := by
          cases polls.head? with
          | none => exact List.not_mem_nil
          | some poll => exact flush_handle poll
        rw [feed_cons opened]
        refine ⟨?_, fun same => ?_, fun next later same => ?_, ?_⟩
        · rw [untilClosed_cons opened, clocked_cons, ← written, writtenOf_append, writtenOf_append, quiet,
            writtenOf_packet, List.nil_append]
        · rw [untilClosed_cons opened]
          exact fun equal => closed same (List.cons.inj equal).2
        · obtain ⟨all, isNext, isLater⟩ := through next later same
          refine ⟨by rw [untilClosed_cons opened, all], isNext, ?_⟩
          rw [isLater, List.drop_tail]
          rfl
        · rw [List.mem_append, List.mem_append]
          exact fun flushes => flushes.elim (fun early => early.elim noFlush (flush_packet _)) endless

theorem untilClosed_append {polls : List (Poll ε)} {first : List Frame} (second : List Frame) :
    untilClosed polls (first ++ second) =
      if untilClosed polls first = first then first ++ untilClosed (polls.drop first.length) second
      else untilClosed polls first := by
  induction first generalizing polls with
  | nil =>
      have none' : untilClosed polls [] = [] := by cases polls <;> rfl
      rw [if_pos none']
      rfl
  | cons frame rest ih =>
      by_cases opened : polls.head? = some .channelClosed
      · obtain ⟨behind, rfl⟩ := polls_closed opened
        rfl
      · rw [List.cons_append, untilClosed_cons opened, untilClosed_cons opened, ih, List.drop_tail]
        by_cases all : untilClosed polls.tail rest = rest
        · rw [if_pos all, if_pos (congrArg _ all)]
          rfl
        · rw [if_neg all, if_neg fun same => all (List.cons.inj same).2]

theorem flush_finish (polls : List (Poll ε)) : Call.flush ∈ finish polls ↔ polls.head? ≠ some .channelClosed := by
  cases polls with
  | nil => simp [finish]
  | cons poll polls => cases poll <;> simp [finish]

theorem writtenOf_finish (polls : List (Poll ε)) : writtenOf (finish polls) = [] := by
  cases polls with
  | nil => rfl
  | cons poll polls => cases poll <;> rfl

end

/-! ## A playback -/

section

variable {σ ε : Type} (repairBasicStreamInfo : Nat → Param σ → Frame → Bool × Param σ) (infos : List StreamInfo)
  (avRescaleQ : Int64 → Int32 × Int32 → Int32 × Int32 → Int64)

/-- What a context has cached of the packets that it read at the start. -/
def cachedOf (repair : Nat → σ) (read : List Frame) : List Frame :=
  (Latch.kept (starts infos)
    (acceptedOf (Runs.run (fixStep repairBasicStreamInfo infos) (.first infos repair) read))).map Accepted.frame

/-- What the muxers get, where the first of the packets were cached. -/
structure Plays (cached rest : List Frame) (polls : List (Poll ε)) (calls : List (Call ε))
    (result : Except String Unit) : Prop where
  /-- The cached packets and those behind them go through one normalizer, up to the end of the channel. -/
  written : writtenOf calls =
    if cached = [] then []
    else clocked avRescaleQ (normalizerOf infos (baseOf (leastPts cached))) (untilClosed polls (cached ++ rest))
  /-- None of the cached packets is discarded. -/
  whole : ∃ later, (writtenOf calls).map (fun written => source written.frame) =
    (untilClosed polls cached).map source ++ later
  failed : (∃ error, result = .error error) ↔ untilClosed polls cached ≠ cached
  flushed : Call.flush ∈ calls ↔ cached ≠ [] ∧ untilClosed polls (cached ++ rest) = cached ++ rest ∧
    polls[(cached ++ rest).length]? ≠ some .channelClosed

variable {repairBasicStreamInfo infos avRescaleQ} {cached rest : List Frame} {polls : List (Poll ε)}

theorem plays_nothing : Plays infos avRescaleQ [] rest polls [] (.ok ()) where
  written := rfl
  whole := ⟨[], by cases polls <;> rfl⟩
  failed := ⟨fun ⟨_, same⟩ => (nomatch same), fun differs => absurd (by cases polls <;> rfl) differs⟩
  flushed := ⟨fun member => (nomatch member), fun ⟨some', _⟩ => absurd rfl some'⟩

theorem untilClosed_initial (polls : List (Poll ε)) (frames : List Frame) : untilClosed polls frames <+: frames := by
  induction frames generalizing polls with
  | nil => cases polls <;> exact List.prefix_rfl
  | cons frame rest ih =>
      by_cases opened : polls.head? = some .channelClosed
      · obtain ⟨behind, rfl⟩ := polls_closed opened
        exact List.nil_prefix
      · rw [untilClosed_cons opened]
        exact List.cons_prefix_cons.mpr ⟨rfl, ih polls.tail⟩

/-- The cached packets that go through a normalizer are written, whatever comes behind. -/
theorem clocked_whole (valid : ∀ frame ∈ cached, Valid infos.length frame.packet) (globalBaseUs : Int64) :
    ∃ later, (clocked avRescaleQ (normalizerOf infos globalBaseUs) (untilClosed polls (cached ++ rest))).map
      (fun written => source written.frame) = (untilClosed polls cached).map source ++ later := by
  have alone := @clocked_valid infos.length avRescaleQ _ (full_normalizerOf globalBaseUs) (untilClosed polls cached)
    fun frame member => valid frame ((untilClosed_initial polls cached).subset member)
  rw [untilClosed_append]
  split
  · rename_i all
    rw [all] at alone ⊢
    rw [clocked_append, List.map_append, alone]
    exact ⟨_, rfl⟩
  · exact ⟨[], by rw [alone, List.append_nil]⟩

theorem plays_play (some' : cached ≠ []) (valid : ∀ frame ∈ cached, Valid infos.length frame.packet) :
    Plays infos avRescaleQ cached rest polls
      (play avRescaleQ (normalizerOf infos (baseOf (leastPts cached))) polls cached rest).1
      (play avRescaleQ (normalizerOf infos (baseOf (leastPts cached))) polls cached rest).2 := by
  obtain ⟨written, closed, through, endless⟩ :=
    @fed ε avRescaleQ (normalizerOf infos (baseOf (leastPts cached))) polls cached
  have whole := @clocked_whole ε infos avRescaleQ cached rest polls valid (baseOf (leastPts cached))
  rw [play]
  generalize feed avRescaleQ (normalizerOf infos (baseOf (leastPts cached))) polls cached = outcome
    at written closed through endless
  obtain ⟨calls, _ | ⟨normalizer, later⟩⟩ := outcome
  · have stops := closed rfl
    have all : untilClosed polls (cached ++ rest) = untilClosed polls cached := by
      rw [untilClosed_append, if_neg stops]
    have same : writtenOf calls = clocked avRescaleQ (normalizerOf infos (baseOf (leastPts cached)))
        (untilClosed polls (cached ++ rest)) := by rw [all]; exact written
    refine ⟨same.trans (if_neg some').symm, same ▸ whole, ⟨fun _ => stops, fun _ => ⟨_, rfl⟩⟩,
      fun member => absurd member endless, fun ⟨_, wholly, _⟩ => ?_⟩
    obtain ⟨missed, short⟩ := untilClosed_initial polls cached
    rw [← all, wholly, List.append_assoc, List.append_right_eq_self, List.append_eq_nil_iff] at short
    rw [short.1, List.append_nil] at wholly
    exact absurd wholly stops
  · obtain ⟨wholly, rfl, rfl⟩ := through _ _ rfl
    have next := @fed ε avRescaleQ (Runs.final (process avRescaleQ) (normalizerOf infos (baseOf (leastPts cached))) cached)
      (polls.drop cached.length) rest
    have all : untilClosed polls (cached ++ rest) = cached ++ untilClosed (polls.drop cached.length) rest := by
      rw [untilClosed_append, if_pos wholly]
    have ended : untilClosed polls (cached ++ rest) = cached ++ rest ↔
        untilClosed (polls.drop cached.length) rest = rest := by
      rw [all, List.append_cancel_left_eq]
    have both := @clocked_append avRescaleQ (normalizerOf infos (baseOf (leastPts cached))) cached
      (untilClosed (polls.drop cached.length) rest)
    rw [← all, ← next.written] at both
    rw [wholly] at written
    rw [← written, ← writtenOf_append] at both
    dsimp only
    generalize feed avRescaleQ (Runs.final (process avRescaleQ) (normalizerOf infos (baseOf (leastPts cached))) cached)
      (polls.drop cached.length) rest = outcome at next both
    obtain ⟨more, _ | ⟨last, later⟩⟩ := outcome
    · refine ⟨both.symm.trans (if_neg some').symm, both ▸ whole,
        ⟨fun ⟨_, same⟩ => (nomatch same), fun stops => absurd wholly stops⟩, ?_⟩
      refine ⟨fun member => ?_, fun ⟨_, same, _⟩ => absurd (ended.mp same) (next.closed rfl)⟩
      exact absurd (List.mem_append.mp member) (fun either => either.elim endless next.endless)
    · obtain ⟨through, -, rfl⟩ := next.through _ _ rfl
      have same : writtenOf (calls ++ more ++ finish ((polls.drop cached.length).drop rest.length)) =
          writtenOf (calls ++ more) := by rw [writtenOf_append, writtenOf_finish, List.append_nil]
      refine ⟨(same.trans both.symm).trans (if_neg some').symm, (same.trans both.symm) ▸ whole,
        ⟨fun ⟨_, same⟩ => (nomatch same), fun stops => absurd wholly stops⟩, ?_⟩
      rw [List.mem_append, flush_finish, List.drop_drop, List.head?_drop, ← List.length_append]
      refine ⟨fun either => ⟨some', ended.mpr through, ?_⟩, fun ⟨_, _, last⟩ => Or.inr last⟩
      exact either.elim
        (fun member => absurd (List.mem_append.mp member) fun either => either.elim endless next.endless) id

/-- A playback, in whatever order its events come and whatever the repair makes of the parameters: what is
written are the packets from the first one to start from, cached ones and later ones through one normalizer. -/
theorem playback_from_start (repairBasicStreamInfo : Nat → Param σ → Frame → Bool × Param σ)
    (infos : List StreamInfo) (avRescaleQ : Int64 → Int32 × Int32 → Int32 × Int32 → Int64) (repair : Nat → σ)
    (frames : List Frame) (polls : List (Poll ε)) :
    ∃ read rest done, frames = read ++ rest ∧
      Reads repairBasicStreamInfo infos (.first infos repair) read rest done ∧
      Plays infos avRescaleQ (cachedOf repairBasicStreamInfo infos repair read) rest polls
        (invoke repairBasicStreamInfo infos avRescaleQ repair frames polls).1
        (invoke repairBasicStreamInfo infos avRescaleQ repair frames polls).2 := by
  have incomplete : (Fix.first infos repair).complete infos = false := by
    rw [Fix.complete, Fix.shouldCache]
    cases hasVideo infos <;> rfl
  obtain ⟨read, split, reads⟩ := @fixLoop_reads σ repairBasicStreamInfo infos _ frames incomplete
  have atFirst : Cached infos [] (Fix.first infos repair) := by
    refine ⟨?_, rfl, rfl, rfl, fun _ member => (nomatch member)⟩
    rw [Fix.shouldCache]
    cases hasVideo infos <;> rfl
  have kept : ∀ past fix frame, Cached infos past fix → True →
      Cached infos (past ++ [Runs.transition (fixStep repairBasicStreamInfo infos) fix frame])
        (fixStep repairBasicStreamInfo infos fix frame).2 :=
    fun past fix frame cached _ => cached_step past fix frame cached
  have cached := Runs.history_final (Cached infos) (fun _ _ => True) kept atFirst
    (fun entry (_ : entry ∈ Runs.run (fixStep repairBasicStreamInfo infos) _ read) => True.intro)
  rw [← reads.final, List.nil_append] at cached
  refine ⟨read, _, _, split, reads, ?_⟩
  rw [cachedOf, ← cached.pkts, invoke, fixBasicStreamInfo]
  dsimp only
  by_cases empty : (fixLoop repairBasicStreamInfo infos (.first infos repair) frames).1.pkts = []
  · rw [if_pos (List.isEmpty_iff.mpr empty), empty]
    exact plays_nothing
  · rw [if_neg fun isEmpty => empty (List.isEmpty_iff.mp isEmpty), cached.base]
    exact plays_play empty cached.valid

end

end Gmv.Stream.PlaybackStart
