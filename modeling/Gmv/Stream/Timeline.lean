import Gmv.Library.Overflow
import Gmv.Library.Runs

/-!
# The timeline of a stream

The timestamps of a camera jump forwards and backwards.  A timeline writes over the timestamps of
every packet those that a player can follow: it goes on from the last timestamp that it wrote, by
as much as the packets have been apart, whenever the next one is too far from it or behind it.
-/

namespace Gmv.Stream.Timeline

open Gmv.Library Gmv.Library.Overflow Gmv.Library.Runs

/-! ## Packets -/

inductive AVMediaType where
  | unknown
  | video
  | audio
  | data
  | subtitle
  | attachment
  deriving DecidableEq, Repr

structure AVPacket where
  streamIndex : Int32
  dataIsNull : Bool
  size : Int32
  pts : Int64
  dts : Int64
  deriving DecidableEq, Repr

def avNoptsValue : Int64 := Int64.minValue

/-- A packet that is refused is left as it is. -/
def repairMissingTimestamps (pkt : AVPacket) (reorderDelay : Int32) : Option AVPacket :=
  if pkt.pts = avNoptsValue ∧ pkt.dts = avNoptsValue then none
  else
    let noReorder := reorderDelay ≤ 0
    let pkt :=
      if noReorder ∧ pkt.pts = avNoptsValue then { pkt with pts := pkt.dts }
      else if noReorder ∧ pkt.dts = avNoptsValue then { pkt with dts := pkt.pts }
      else pkt
    if pkt.pts ≠ avNoptsValue ∧ pkt.dts ≠ avNoptsValue then some pkt else none

/-! ## One stream -/

def defaultAudioDelta : Int64 := 1024
def defaultVideoDelta : Int64 := 1
def maxReorderDelay : Int32 := 16
def maxDeltaTicks : Int64 := 500000

inductive ProcessResult where
  | ok
  | discontinuity
  deriving DecidableEq, Repr

structure StreamTimeline where
  lastDts : Int64
  lastPts : Int64
  lastOriginDts : Int64
  normalDelta : Int64
  initialized : Bool
  streamType : AVMediaType
  timeBase : Int32 × Int32
  reorderDelay : Int32
  deriving DecidableEq, Repr

namespace StreamTimeline

def new (streamType : AVMediaType) (timeBase : Int32 × Int32) (reorderDelay : Int32) :
    StreamTimeline where
  lastDts := 0
  lastPts := 0
  lastOriginDts := 0
  normalDelta := 0
  initialized := false
  streamType := streamType
  timeBase := timeBase
  reorderDelay := max 0 (min reorderDelay maxReorderDelay)

def defaultDelta (timeline : StreamTimeline) : Int64 :=
  if timeline.streamType = .audio then defaultAudioDelta else defaultVideoDelta

def getDelta (timeline : StreamTimeline) : Int64 :=
  if timeline.normalDelta > 0 then timeline.normalDelta else timeline.defaultDelta

/-- The timeline behind its first packet. -/
def start (timeline : StreamTimeline) (pkt : AVPacket) : StreamTimeline :=
  { timeline with
    lastDts := pkt.dts, lastPts := pkt.pts, lastOriginDts := pkt.dts, initialized := true }

section

variable {m : Type → Type} [Monad m] (arith : Arith m)

/-- Whether a distance is none that two packets of a stream have. -/
def isJump (diff : Int64) : Bool := diff < 0 || diff > maxDeltaTicks

/-- The packet after the correction of its timestamps, and the delta to learn from. -/
def correct (timeline : StreamTimeline) (pkt : AVPacket) : m (AVPacket × Int64) := do
  let fixDtsDiff ← arith.sub pkt.dts timeline.lastDts
  if isJump fixDtsDiff then do
    let dts ← arith.add timeline.lastDts timeline.getDelta
    pure ({ pkt with pts := dts, dts := dts }, 0)
  else pure (pkt, timeline.normalDelta)

def raisePts (pkt : AVPacket) : AVPacket :=
  if pkt.pts < pkt.dts then { pkt with pts := pkt.dts } else pkt

def learn (normalDelta delta : Int64) : m Int64 :=
  if 0 < delta ∧ delta < maxDeltaTicks then
    if normalDelta = 0 then pure delta
    else do
      let old ← arith.mul normalDelta 7
      let new ← arith.mul delta 3
      let sum ← arith.add old new
      pure (sum / 10)
  else pure normalDelta

def process (timeline : StreamTimeline) (pkt : AVPacket) :
    m ((AVPacket × ProcessResult) × StreamTimeline) :=
  match repairMissingTimestamps pkt timeline.reorderDelay with
  | none => pure ((pkt, .ok), timeline)
  | some pkt =>
      if !timeline.initialized then pure ((pkt, .ok), timeline.start pkt)
      else do
        let disDtsDiff ← arith.sub pkt.dts timeline.lastOriginDts
        let result := if isJump disDtsDiff then .discontinuity else .ok
        let (corrected, normalDelta) ← correct arith timeline pkt
        let corrected := raisePts corrected
        let delta ← arith.sub corrected.dts timeline.lastDts
        let normalDelta ← learn arith normalDelta delta
        pure ((corrected, result), { timeline with
          lastDts := corrected.dts, lastPts := corrected.pts, lastOriginDts := pkt.dts,
          normalDelta := normalDelta })

end

/-- The program adds and subtracts without looking for overflows. -/
def step (timeline : StreamTimeline) (pkt : AVPacket) : (AVPacket × ProcessResult) × StreamTimeline :=
  process wrapping timeline pkt

/-! ## Checked arithmetic -/

theorem correct_agrees (timeline : StreamTimeline) (pkt : AVPacket) :
    Agrees (correct checked timeline pkt) (correct wrapping timeline pkt) := by
  refine (agrees_sub _ _).bind fun fixDtsDiff => ?_
  split
  · exact (agrees_add _ _).bind fun dts => .pure _
  · exact .pure _

theorem learn_agrees (normalDelta delta : Int64) :
    Agrees (learn checked normalDelta delta) (learn wrapping normalDelta delta) := by
  rw [learn, learn]
  split_ifs
  · exact .pure _
  · exact (agrees_mul _ _).bind fun old => (agrees_mul _ _).bind fun new =>
      (agrees_add _ _).bind fun sum => .pure _
  · exact .pure _

/-- Where no operation overflows, it does not matter what an overflow does. -/
theorem process_agrees (timeline : StreamTimeline) (pkt : AVPacket) :
    Agrees (process checked timeline pkt) (process wrapping timeline pkt) := by
  rw [process, process]
  split
  · exact .pure _
  · split_ifs
    · exact .pure _
    · exact (agrees_sub _ _).bind fun disDtsDiff => (correct_agrees _ _).bind fun corrected =>
        (agrees_sub _ _).bind fun delta => (learn_agrees _ _).bind fun normalDelta => .pure _

/-! ## One packet -/

/-- A delta that was learned, or none. -/
def Learned (delta : Int64) : Prop := 0 ≤ delta.toInt ∧ delta.toInt < 500000

instance (delta : Int64) : Decidable (Learned delta) := inferInstanceAs (Decidable (_ ∧ _))

/-- A dts that leaves room for the arithmetic. -/
def Moderate (dts : Int64) : Prop := -2 ^ 61 < dts.toInt ∧ dts.toInt < 2 ^ 61

instance (dts : Int64) : Decidable (Moderate dts) := inferInstanceAs (Decidable (_ ∧ _))

/-- A timeline that has written up to `count` packets whose timestamps were moderate. -/
structure Sound (count : Nat) (timeline : StreamTimeline) : Prop where
  initialized : timeline.initialized = true
  learned : Learned timeline.normalDelta
  origin : Moderate timeline.lastOriginDts
  above : -2 ^ 61 < timeline.lastDts.toInt
  below : timeline.lastDts.toInt < 2 ^ 61 + 500000 * count

/-- A dts that may follow on another. -/
def Follows (dts next : Int64) : Prop :=
  dts.toInt ≤ next.toInt ∧ next.toInt - dts.toInt ≤ maxDeltaTicks.toInt

theorem maxDeltaTicks_toInt : maxDeltaTicks.toInt = 500000 := rfl

theorem isJump_iff (diff : Int64) : isJump diff = true ↔ diff.toInt < 0 ∨ 500000 < diff.toInt := by
  have zero : (0 : Int64).toInt = 0 := rfl
  simp only [isJump, Bool.or_eq_true, decide_eq_true_eq, gt_iff_lt, Int64.lt_iff_toInt_lt, zero,
    maxDeltaTicks_toInt]

theorem getDelta_bounds {timeline : StreamTimeline} (learned : Learned timeline.normalDelta) :
    0 < timeline.getDelta.toInt ∧ timeline.getDelta.toInt < 500000 := by
  rw [getDelta]
  split_ifs with positive
  · rw [gt_iff_lt, Int64.lt_iff_toInt_lt] at positive
    exact ⟨positive, learned.2⟩
  · rw [defaultDelta]
    split_ifs
    · decide
    · decide

theorem correct_spec {count : Nat} {timeline : StreamTimeline} {pkt : AVPacket}
    (sound : Sound count timeline) (moderate : Moderate pkt.dts) (short : count < 2 ^ 40) :
    ∃ corrected normalDelta, correct checked timeline pkt = some (corrected, normalDelta) ∧
      Follows timeline.lastDts corrected.dts ∧ Learned normalDelta ∧
      corrected.dts.toInt < 2 ^ 61 + 500000 * (count + 1 : Nat) := by
  obtain ⟨-, learned, -, above, below⟩ := sound
  obtain ⟨low, high⟩ := moderate
  have delta := getDelta_bounds learned
  obtain ⟨fixes, diff⟩ := @checked_sub pkt.dts timeline.lastDts ⟨by omega, by omega⟩
  obtain ⟨adds, sum⟩ := @checked_add timeline.lastDts timeline.getDelta ⟨by omega, by omega⟩
  rw [correct, fixes]
  by_cases jump : isJump (pkt.dts - timeline.lastDts) = true
  · refine ⟨_, 0, by simp only [Option.bind_eq_bind, Option.bind_some, if_pos jump, adds]; rfl, ?_, ?_, ?_⟩
    · rw [Follows, sum, maxDeltaTicks_toInt]
      omega
    · decide
    · show (timeline.lastDts + timeline.getDelta).toInt < _
      rw [sum]
      push_cast
      omega
  · refine ⟨pkt, timeline.normalDelta, by simp only [Option.bind_eq_bind, Option.bind_some, if_neg jump]; rfl,
      ?_, learned, ?_⟩
    · rw [isJump_iff, diff] at jump
      rw [Follows, maxDeltaTicks_toInt]
      omega
    · push_cast
      omega

theorem learn_spec {normalDelta delta : Int64} (learned : Learned normalDelta)
    (next : 0 ≤ delta.toInt) :
    ∃ result, learn checked normalDelta delta = some result ∧ Learned result := by
  rw [learn]
  split_ifs with small first
  · exact ⟨delta, rfl, next, Int64.lt_iff_toInt_lt.mp small.2⟩
  · obtain ⟨low, high⟩ := learned
    have high' : delta.toInt < 500000 := Int64.lt_iff_toInt_lt.mp small.2
    have seven : (7 : Int64).toInt = 7 := rfl
    have three : (3 : Int64).toInt = 3 := rfl
    have ten : (10 : Int64).toInt = 10 := rfl
    obtain ⟨old, oldIs⟩ := @checked_mul normalDelta 7 (by rw [Fits, seven]; omega)
    obtain ⟨new, newIs⟩ := @checked_mul delta 3 (by rw [Fits, three]; omega)
    rw [seven] at oldIs
    rw [three] at newIs
    obtain ⟨sum, sumIs⟩ := @checked_add (normalDelta * 7) (delta * 3)
      (by rw [Fits, oldIs, newIs]; omega)
    refine ⟨_, by rw [old, new]; simp only [Option.bind_eq_bind, Option.bind_some, sum]; rfl, ?_⟩
    rw [Learned, Int64.toInt_div_of_ne_right _ _ (by decide), sumIs, oldIs, newIs, ten,
      Int.tdiv_eq_ediv_of_nonneg (by omega)]
    omega
  · exact ⟨normalDelta, rfl, learned⟩

/-- A packet without timestamps passes a timeline by. -/
theorem process_refused {m : Type → Type} [Monad m] (arith : Arith m) {timeline : StreamTimeline}
    {pkt : AVPacket} (refused : repairMissingTimestamps pkt timeline.reorderDelay = none) :
    process arith timeline pkt = pure ((pkt, .ok), timeline) := by
  rw [process, refused]

/-- The first packet keeps its timestamps. -/
theorem process_first {m : Type → Type} [Monad m] (arith : Arith m) {timeline : StreamTimeline}
    {pkt repaired : AVPacket}
    (repairs : repairMissingTimestamps pkt timeline.reorderDelay = some repaired)
    (first : timeline.initialized = false) :
    process arith timeline pkt = pure ((repaired, .ok), timeline.start repaired) := by
  rw [process, repairs]
  simp only [first, Bool.not_false, if_true]

theorem le_raisePts (pkt : AVPacket) : (raisePts pkt).dts ≤ (raisePts pkt).pts := by
  rw [raisePts]
  split_ifs with behind
  · exact Int64.le_iff_toInt_le.mpr (Int.le_refl _)
  · rw [Int64.lt_iff_toInt_lt] at behind
    exact Int64.le_iff_toInt_le.mpr (Int.not_lt.mp behind)

theorem raisePts_dts (pkt : AVPacket) : (raisePts pkt).dts = pkt.dts := by
  rw [raisePts]
  split_ifs <;> rfl

/-- What one of the later packets does to a timeline, and what becomes of its timestamps. -/
theorem process_later {count : Nat} {timeline : StreamTimeline} {pkt repaired : AVPacket}
    (sound : Sound count timeline) (short : count < 2 ^ 40)
    (repairs : repairMissingTimestamps pkt timeline.reorderDelay = some repaired)
    (moderate : Moderate repaired.dts) :
    ∃ corrected result after, process checked timeline pkt = some ((corrected, result), after) ∧
      Sound (count + 1) after ∧ after.reorderDelay = timeline.reorderDelay ∧
      after.lastDts = corrected.dts ∧ Follows timeline.lastDts corrected.dts ∧
      corrected.dts ≤ corrected.pts := by
  obtain ⟨corrected, normalDelta, corrects, follows, learned, below⟩ :=
    correct_spec sound moderate short
  obtain ⟨initialized, -, origin, above, last⟩ := sound
  obtain ⟨low, high⟩ := moderate
  obtain ⟨discontinuity, -⟩ := @checked_sub repaired.dts timeline.lastOriginDts
    ⟨by have := origin.2; omega, by have := origin.1; omega⟩
  have apart := follows
  rw [Follows, maxDeltaTicks_toInt] at apart
  obtain ⟨grows, growth⟩ := @checked_sub corrected.dts timeline.lastDts ⟨by omega, by omega⟩
  obtain ⟨next, learns, result⟩ := learn_spec learned
    (show 0 ≤ (corrected.dts - timeline.lastDts).toInt by omega)
  refine ⟨raisePts corrected,
    if isJump (repaired.dts - timeline.lastOriginDts) then .discontinuity else .ok,
    { timeline with
      lastDts := (raisePts corrected).dts, lastPts := (raisePts corrected).pts,
      lastOriginDts := repaired.dts, normalDelta := next },
    ?_, ⟨initialized, result, ⟨low, high⟩, ?_, ?_⟩, rfl, rfl, ?_, le_raisePts _⟩
  · rw [process, repairs]
    simp only [initialized, Bool.not_true, Bool.false_eq_true, if_false, discontinuity, corrects,
      learns, raisePts_dts, grows, Option.bind_eq_bind, Option.bind_some]
    rfl
  · show _ < (raisePts corrected).dts.toInt
    rw [raisePts_dts]
    omega
  · show (raisePts corrected).dts.toInt < _
    rw [raisePts_dts]
    exact below
  · rw [raisePts_dts]
    exact follows

theorem process_checked {timeline : StreamTimeline} {pkt : AVPacket}
    {outcome : (AVPacket × ProcessResult) × StreamTimeline}
    (given : process checked timeline pkt = some outcome) : step timeline pkt = outcome :=
  process_agrees timeline pkt outcome given

end StreamTimeline

/-! ## All packets -/

open StreamTimeline

/-- A packet of a run, with the timeline before and after it. -/
abbrev Entry := Transition StreamTimeline AVPacket (AVPacket × ProcessResult)

def repairedOf (entry : Entry) : Option AVPacket :=
  repairMissingTimestamps entry.action entry.before.reorderDelay

/-- The packets that have their timestamps, as they are written. -/
def written (entries : List Entry) : List AVPacket :=
  (entries.filter fun entry => (repairedOf entry).isSome).map (·.result.1)

/-- No operation overflows, and the delta stays in its range. -/
structure Safe (entry : Entry) : Prop where
  exact : process checked entry.before entry.action = some (entry.result, entry.after)
  learned : Learned entry.after.normalDelta

/-- What holds of all packets of a stream: they are safe, and the timestamps that are written follow
on each other. -/
structure Monotone (entries : List Entry) : Prop where
  safe : ∀ entry ∈ entries, Safe entry
  chain : ((written entries).map AVPacket.dts).IsChain Follows
  pts : ∀ pkt ∈ (written entries).tail, pkt.dts ≤ pkt.pts

/-- The same behind a packet that was written with the given dts. -/
structure Continues (dts : Int64) (entries : List Entry) : Prop where
  safe : ∀ entry ∈ entries, Safe entry
  chain : (dts :: (written entries).map AVPacket.dts).IsChain Follows
  pts : ∀ pkt ∈ written entries, pkt.dts ≤ pkt.pts

/-- The dts is moderate in every packet that has its timestamps. -/
def AllModerate (reorderDelay : Int32) (packets : List AVPacket) : Prop :=
  ∀ pkt ∈ packets, ∀ repaired ∈ repairMissingTimestamps pkt reorderDelay, Moderate repaired.dts

instance (reorderDelay : Int32) (packets : List AVPacket) :
    Decidable (AllModerate reorderDelay packets) :=
  inferInstanceAs (Decidable (∀ pkt ∈ packets, ∀ repaired ∈ repairMissingTimestamps pkt reorderDelay,
    Moderate repaired.dts))

/-- How many of the packets have their timestamps. -/
def keptCount (reorderDelay : Int32) (packets : List AVPacket) : Nat :=
  packets.countP fun pkt => (repairMissingTimestamps pkt reorderDelay).isSome

theorem AllModerate.tail {reorderDelay : Int32} {pkt : AVPacket} {packets : List AVPacket}
    (moderate : AllModerate reorderDelay (pkt :: packets)) : AllModerate reorderDelay packets :=
  fun other member => moderate other (List.mem_cons_of_mem _ member)

section

variable {timeline after : StreamTimeline} {pkt : AVPacket} {result : AVPacket × ProcessResult}

theorem written_refused (refused : repairMissingTimestamps pkt timeline.reorderDelay = none)
    (entries : List Entry) : written (⟨timeline, pkt, result, after⟩ :: entries) = written entries := by
  rw [written, List.filter_cons_of_neg (by simp [repairedOf, refused]), written]

theorem written_kept {repaired : AVPacket}
    (kept : repairMissingTimestamps pkt timeline.reorderDelay = some repaired) (entries : List Entry) :
    written (⟨timeline, pkt, result, after⟩ :: entries) = result.1 :: written entries := by
  rw [written, List.filter_cons_of_pos (by simp [repairedOf, kept]), List.map_cons, written]

theorem keptCount_refused {reorderDelay : Int32}
    (refused : repairMissingTimestamps pkt reorderDelay = none) (packets : List AVPacket) :
    keptCount reorderDelay (pkt :: packets) = keptCount reorderDelay packets := by
  rw [keptCount, List.countP_cons_of_neg (by simp [refused]), keptCount]

theorem keptCount_kept {reorderDelay : Int32} {repaired : AVPacket}
    (kept : repairMissingTimestamps pkt reorderDelay = some repaired) (packets : List AVPacket) :
    keptCount reorderDelay (pkt :: packets) = keptCount reorderDelay packets + 1 := by
  rw [keptCount, List.countP_cons_of_pos (by simp [kept]), keptCount]

theorem run_cons_of_process (given : process checked timeline pkt = some (result, after))
    (packets : List AVPacket) :
    run step timeline (pkt :: packets) =
      (⟨timeline, pkt, result, after⟩ : Entry) :: run step after packets := by
  rw [run_cons, transition, process_checked given]

end

/-- The packets behind one that was written. -/
theorem continues_run {count : Nat} {timeline : StreamTimeline} {packets : List AVPacket}
    (sound : Sound count timeline) (short : count + keptCount timeline.reorderDelay packets ≤ 2 ^ 40)
    (moderate : AllModerate timeline.reorderDelay packets) :
    Continues timeline.lastDts (run step timeline packets) := by
  induction packets generalizing count timeline with
  | nil => exact ⟨by simp, by simp [written], by simp [written]⟩
  | cons pkt packets ih =>
      cases repairs : repairMissingTimestamps pkt timeline.reorderDelay with
      | none =>
          rw [keptCount_refused repairs] at short
          have given := process_refused checked repairs
          obtain ⟨safe, chain, pts⟩ := ih sound short moderate.tail
          rw [run_cons_of_process given]
          refine ⟨List.forall_mem_cons.mpr ⟨⟨given, sound.learned⟩, safe⟩, ?_, ?_⟩
          · rw [written_refused repairs]
            exact chain
          · rw [written_refused repairs]
            exact pts
      | some repaired =>
          rw [keptCount_kept repairs] at short
          obtain ⟨corrected, result, after, given, next, delay, last, follows, raised⟩ :=
            process_later sound (by omega) repairs (moderate pkt (List.mem_cons_self ..) _ repairs)
          obtain ⟨safe, chain, pts⟩ := ih next (by rw [delay]; omega) (delay ▸ moderate.tail)
          rw [run_cons_of_process given]
          refine ⟨List.forall_mem_cons.mpr ⟨⟨given, next.learned⟩, safe⟩, ?_, ?_⟩
          · rw [written_kept repairs]
            exact List.isChain_cons_cons.mpr ⟨follows, last ▸ chain⟩
          · rw [written_kept repairs]
            exact List.forall_mem_cons.mpr ⟨raised, pts⟩

/-- The packets of a stream from its first on. -/
theorem monotone_run {timeline : StreamTimeline} {packets : List AVPacket}
    (fresh : timeline.initialized = false) (unlearned : Learned timeline.normalDelta)
    (short : keptCount timeline.reorderDelay packets < 2 ^ 40)
    (moderate : AllModerate timeline.reorderDelay packets) :
    Monotone (run step timeline packets) := by
  induction packets with
  | nil => exact ⟨by simp, by simp [written], by simp [written]⟩
  | cons pkt packets ih =>
      cases repairs : repairMissingTimestamps pkt timeline.reorderDelay with
      | none =>
          rw [keptCount_refused repairs] at short
          have given := process_refused checked repairs
          obtain ⟨safe, chain, pts⟩ := ih short moderate.tail
          rw [run_cons_of_process given]
          refine ⟨List.forall_mem_cons.mpr ⟨⟨given, unlearned⟩, safe⟩, ?_, ?_⟩
          · rw [written_refused repairs]
            exact chain
          · rw [written_refused repairs]
            exact pts
      | some repaired =>
          rw [keptCount_kept repairs] at short
          have given := process_first checked repairs fresh
          have first := moderate pkt (List.mem_cons_self ..) _ repairs
          have sound : Sound 0 (timeline.start repaired) :=
            ⟨rfl, unlearned, first, first.1, by simpa [start] using first.2⟩
          have left : 0 + keptCount timeline.reorderDelay packets ≤ 2 ^ 40 := by omega
          obtain ⟨safe, chain, pts⟩ := continues_run sound left moderate.tail
          rw [run_cons_of_process given]
          refine ⟨List.forall_mem_cons.mpr ⟨⟨given, unlearned⟩, safe⟩, ?_, ?_⟩
          · rw [written_kept repairs]
            exact chain
          · rw [written_kept repairs]
            exact pts

/-- Whatever a camera does to its timestamps, those that are written go forward. -/
theorem timeline_monotone (streamType : AVMediaType) (timeBase : Int32 × Int32) (reorderDelay : Int32)
    {packets : List AVPacket}
    (short : keptCount (new streamType timeBase reorderDelay).reorderDelay packets < 2 ^ 40)
    (moderate : AllModerate (new streamType timeBase reorderDelay).reorderDelay packets) :
    Monotone (run step (new streamType timeBase reorderDelay) packets) := by
  have unlearned : Learned (0 : Int64) := by decide
  exact monotone_run rfl unlearned short moderate

/-- A stream with B-frames that jumps back, and a packet without timestamps in it. -/
theorem jumpBack_monotone :
    Monotone (run step (new .video (1, 90000) 2)
      [⟨0, false, 9, 10800, 7200⟩, ⟨0, false, 9, 18000, 10800⟩, ⟨0, false, 9, avNoptsValue, 0⟩,
        ⟨0, false, 9, 3600, 0⟩, ⟨0, false, 9, 10800, 3600⟩]) :=
  timeline_monotone .video (1, 90000) 2 (by decide +kernel) (by decide +kernel)

end Gmv.Stream.Timeline
