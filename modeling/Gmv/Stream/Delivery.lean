import Gmv.Stream.ByteConservation
import Gmv.Stream.Packetization
import Gmv.Stream.ReorderRecovery

/-!
# From the sender to the demuxer

What the assembler makes of a packet does not depend on what it has put out before.  So the access units that the calls
of a run push are those that the assembler makes of the packets that are handed out, one after the other, and at the
end of the stream.  Together with the order of the packets and the conservation of the bytes this says what the demuxer
reads: a stream that arrives nearly in order is read as it has been sent.
-/

namespace Gmv.Stream

open Gmv.Library Gmv.Library.Overtaking

namespace AuAssembler

/-- The assembler without what it has put out. -/
def core (a : AuAssembler) : AuAssembler := { a with readyAus := [], remaining := [] }

/-- The assembler behind access units that have been put out earlier. -/
def behind (ready : List Bytes) (left : Bytes) (a : AuAssembler) : AuAssembler :=
  { a with readyAus := ready ++ a.readyAus, remaining := left }

variable {a : AuAssembler} {ready : List Bytes} {left : Bytes}

@[simp] theorem core_behind : (a.behind ready left).core = a.core := rfl

@[simp] theorem core_core : a.core.core = a.core := rfl

@[simp] theorem readyAus_behind : (a.behind ready left).readyAus = ready ++ a.readyAus := rfl

theorem behind_core (a : AuAssembler) : a.core.behind a.readyAus a.remaining = a := by
  simp [behind, core]

/-- Closing an access unit, with the gate in closed form. -/
theorem finishAccessUnit_eq (a : AuAssembler) (marker : Bool) :
    a.finishAccessUnit marker =
      if a.auBuffer.isEmpty then { a with auTimestamp := none, auDamaged := false }
      else if a.auDamaged then
        { a with
          auBuffer := []
          waitKeyframe := a.waitKeyframe || a.isRawVideo
          auTimestamp := none
          auDamaged := false }
      else
        { a with
          auBuffer := []
          readyAus :=
            if !a.isRawVideo || !a.waitKeyframe || accessUnitHasKeyframe a.payloadKind a.auBuffer then
              a.readyAus ++ [a.auBuffer]
            else a.readyAus
          auTimestamp := none
          auDamaged := false
          waitKeyframe :=
            a.waitKeyframe && !(a.isRawVideo && accessUnitHasKeyframe a.payloadKind a.auBuffer) } := by
  simp only [finishAccessUnit, shouldOutputAccessUnit_eq]
  rfl

theorem finishAccessUnit_behind (a : AuAssembler) (marker : Bool) :
    (a.behind ready left).finishAccessUnit marker = (a.finishAccessUnit marker).behind ready left := by
  rw [finishAccessUnit_eq, finishAccessUnit_eq]
  change (if a.auBuffer.isEmpty then _ else if a.auDamaged then _ else _) = _
  split
  · rfl
  · split
    · rfl
    · simp only [behind, apply_ite (ready ++ ·), List.append_assoc]
      rfl

theorem turnTo_behind (a : AuAssembler) (timestamp : UInt32) :
    (a.behind ready left).turnTo timestamp = (a.turnTo timestamp).behind ready left := by
  unfold turnTo
  change (if a.auTimestamp.any (· != timestamp) then _ else _) = _
  split
  · exact finishAccessUnit_behind a false
  · rfl

theorem appendAccessUnit_behind (a : AuAssembler) (timestamp : UInt32) (marker : Bool) (data : Bytes) :
    (a.behind ready left).appendAccessUnit timestamp marker data =
      (a.appendAccessUnit timestamp marker data).behind ready left := by
  have pushed : ((a.behind ready left).turnTo timestamp).push timestamp data =
      ((a.turnTo timestamp).push timestamp data).behind ready left := by
    rw [turnTo_behind]
    rfl
  rw [appendAccessUnit_eq, appendAccessUnit_eq, pushed]
  split
  · exact finishAccessUnit_behind _ true
  · rfl

theorem noteLoss_behind (a : AuAssembler) (timestamp : UInt32) (lostBefore : Bool) :
    (a.behind ready left).noteLoss timestamp lostBefore =
      (a.noteLoss timestamp lostBefore).behind ready left := by
  cases lostBefore with
  | false => rfl
  | true =>
      change (a.behind ready left).markPacketLoss timestamp = (a.markPacketLoss timestamp).behind ready left
      simp only [markPacketLoss]
      rw [apply_ite (behind ready left), apply_ite (behind ready left)]
      rfl

theorem receiveUnpacked_behind (data : Option Bytes) (a : AuAssembler) (timestamp : UInt32) (marker : Bool) :
    receiveUnpacked (data, a.behind ready left) timestamp marker =
      (receiveUnpacked (data, a) timestamp marker).behind ready left := by
  unfold receiveUnpacked
  cases data with
  | some data => exact appendAccessUnit_behind a timestamp marker data
  | none =>
      dsimp only
      split
      · exact finishAccessUnit_behind a true
      · rfl

/-- A packet adds to what has been put out and does not look at it. -/
theorem processPacket_behind (a : AuAssembler) (pkt : RtpPacket) (lostBefore : Bool) :
    (a.behind ready left).processPacket pkt lostBefore = (a.processPacket pkt lostBefore).behind ready left := by
  have same : (a.behind ready left).payloadKind = a.payloadKind := rfl
  unfold processPacket
  rw [noteLoss_behind, same]
  cases kind : a.payloadKind with
  | ps => exact appendAccessUnit_behind _ _ _ _
  | passthrough => exact appendAccessUnit_behind _ _ _ _
  | h264 =>
      have unpacked : ∀ b : AuAssembler, (b.behind ready left).depacketizeH264 pkt.payload =
          ((b.depacketizeH264 pkt.payload).1, (b.depacketizeH264 pkt.payload).2.behind ready left) := fun _ => rfl
      simp only [unpacked, receiveUnpacked_behind]
  | h265 =>
      have unpacked : ∀ b : AuAssembler, (b.behind ready left).depacketizeH265 pkt.payload =
          ((b.depacketizeH265 pkt.payload).1, (b.depacketizeH265 pkt.payload).2.behind ready left) := fun _ => rfl
      simp only [unpacked, receiveUnpacked_behind]
  | aac =>
      have config : (a.behind ready left).aacAdts = a.aacAdts := rfl
      rw [config]
      cases depacketizeAac a.aacAdts pkt.payload with
      | some data => simp [behind]
      | none => rfl
  | g711 => simp [behind]

theorem processAll_behind (a : AuAssembler) (calls : List (RtpPacket × Bool)) :
    (a.behind ready left).processAll calls = (a.processAll calls).behind ready left := by
  induction calls generalizing a with
  | nil => rfl
  | cons call rest ih =>
      change ((a.behind ready left).processPacket call.1 call.2).processAll rest = _
      rw [processPacket_behind, ih]
      rfl

theorem processAll_append (a : AuAssembler) (first second : List (RtpPacket × Bool)) :
    a.processAll (first ++ second) = (a.processAll first).processAll second :=
  Runs.final_append a first second

/-- An access unit that has been closed is not closed again. -/
theorem finishAccessUnit_twice (a : AuAssembler) (marker marker' : Bool) :
    (a.finishAccessUnit marker).finishAccessUnit marker' = a.finishAccessUnit marker := by
  have closed : (a.finishAccessUnit marker).auBuffer = [] ∧ (a.finishAccessUnit marker).auTimestamp = none ∧
      (a.finishAccessUnit marker).auDamaged = false := by
    simp only [finishAccessUnit, shouldOutputAccessUnit_eq]
    split
    · next empty => exact ⟨List.isEmpty_iff.mp empty, rfl, rfl⟩
    · split <;> exact ⟨rfl, rfl, rfl⟩
  obtain ⟨buffer, timestamp, damaged⟩ := closed
  conv_lhs => rw [finishAccessUnit, if_pos (by rw [buffer]; rfl)]
  rw [← timestamp, ← damaged]

theorem consumeRemaining_core (a : AuAssembler) (maxConsumeLen : Nat) :
    (a.consumeRemaining maxConsumeLen).2.core = a.core := by
  unfold consumeRemaining
  split <;> rfl

theorem consumeReadyAu_core (a : AuAssembler) (maxConsumeLen : Nat) :
    (a.consumeReadyAu maxConsumeLen).2.core = a.core := by
  unfold consumeReadyAu
  split
  · rfl
  · exact consumeRemaining_core _ maxConsumeLen

/-! ## What an assembler makes of packets -/

/-- The assembler after some packets, and after the end of the stream. -/
def made (ended : Bool) (calls : List (RtpPacket × Bool)) (a : AuAssembler) : AuAssembler :=
  if ended then (a.processAll calls).finishAccessUnit false else a.processAll calls

theorem made_behind (ended : Bool) (calls : List (RtpPacket × Bool)) (a : AuAssembler) :
    made ended calls (a.behind ready left) = (made ended calls a).behind ready left := by
  rw [made, made, processAll_behind]
  split
  · exact finishAccessUnit_behind _ false
  · rfl

theorem made_append (ended : Bool) (first second : List (RtpPacket × Bool)) (a : AuAssembler) :
    made ended (first ++ second) a = made ended second (a.processAll first) := by
  rw [made, made, processAll_append]

theorem made_eq (ended : Bool) (calls : List (RtpPacket × Bool)) (a : AuAssembler) :
    made ended calls a = (made ended calls a.core).behind a.readyAus a.remaining := by
  rw [← made_behind, behind_core]

/-- The packets make these access units of `a`, and leave it as `after`. -/
structure Makes (a : AuAssembler) (calls : List (RtpPacket × Bool)) (ended : Bool) (units : List Bytes)
    (after : AuAssembler) : Prop where
  units : units = (made ended calls a.core).readyAus
  state : after.core = (made ended calls a.core).core

namespace Makes

variable {middle after : AuAssembler} {first second : List (RtpPacket × Bool)} {units more : List Bytes} {ended : Bool}

theorem nothing (same : after.core = a.core) : Makes a [] false [] after := ⟨rfl, same⟩

theorem trans (early : Makes a first false units middle) (late : Makes middle second ended more after) :
    Makes a (first ++ second) ended (units ++ more) after := by
  have parts : made ended (first ++ second) a.core =
      (made ended second middle.core).behind units (made false first a.core).remaining := by
    rw [made_append, made_eq, early.state, early.units]
    rfl
  refine ⟨?_, ?_⟩
  · rw [parts, readyAus_behind, ← late.units]
  · rw [parts, core_behind]
    exact late.state

/-- Nothing is made after the end of the stream. -/
theorem drained (early : Makes a first true units middle) (late : Makes middle [] ended more after) :
    Makes a first true (units ++ more) after := by
  have again : made ended [] (made true first a.core) = made true first a.core := by
    cases ended with
    | false => rfl
    | true => exact finishAccessUnit_twice _ false false
  rw [made_eq, ← early.state] at again
  have none : more = [] := by
    have ready := congrArg readyAus again
    rw [readyAus_behind, ← late.units] at ready
    simpa using ready
  refine ⟨?_, ?_⟩
  · rw [none, List.append_nil]
    exact early.units
  · rw [late.state, ← early.state]
    have kept := congrArg core again
    rwa [core_behind, ← early.state] at kept

end Makes

end AuAssembler

namespace RtpPacketBuffer

open AuAssembler ReorderQueue

/-- The packets that some rounds hand out. -/
def handed (rounds : List Round) : List (RtpPacket × Bool) := rounds.filterMap Runs.Transition.result

/-- What a call makes of the packets that its rounds are handed. -/
def Plays (b : RtpPacketBuffer) (units : List Bytes) (call : ConsumeCall) : Prop :=
  ∃ ended, Makes b.assembly (handed call.rounds) ended units call.after.assembly ∧
    (ended = true → Exhausted call.after.reorder) ∧ (call.result = none → ended = true)

theorem drain_makes {a : AuAssembler} (empty : a.readyAus = []) (maxConsumeLen : Nat)
    (reorder : ReorderQueue) (round : Round) :
    Makes a [] true (a.pushed (a.finishAccessUnit false)) (drain maxConsumeLen reorder a round).after.assembly := by
  have parts := made_eq true [] a
  refine ⟨?_, ?_⟩
  · have ready := congrArg readyAus parts
    rw [readyAus_behind, empty, List.nil_append] at ready
    rw [← ready, pushed, empty]
    rfl
  · have state := congrArg core parts
    rw [core_behind] at state
    rw [← state]
    exact consumeReadyAu_core _ maxConsumeLen

theorem packet_makes {a : AuAssembler} (empty : a.readyAus = []) (pkt : RtpPacket) (lostBefore : Bool)
    {after : AuAssembler} (same : after.core = (a.processPacket pkt lostBefore).core) :
    Makes a [(pkt, lostBefore)] false (a.pushed (a.processPacket pkt lostBefore)) after := by
  have parts := made_eq false [(pkt, lostBefore)] a
  refine ⟨?_, ?_⟩
  · have ready := congrArg readyAus parts
    rw [readyAus_behind, empty, List.nil_append] at ready
    rw [← ready, pushed, empty]
    rfl
  · have state := congrArg core parts
    rw [core_behind] at state
    rw [← state]
    exact same

/-- The loop makes access units of what it is handed, and closes the last one at the end of the stream. -/
theorem consumeLoop_plays (maxConsumeLen fuel : Nat) {b : RtpPacketBuffer} (valid : WellFormed b.reorder)
    (enough : b.reorder.packetRx.pending.length + b.reorder.queueCount < fuel)
    (idle : b.assembly.remaining = []) (empty : b.assembly.readyAus = []) :
    Plays b (loopPushed maxConsumeLen fuel b) (consumeLoop maxConsumeLen fuel b) := by
  induction fuel generalizing b with
  | zero => omega
  | succ fuel ih =>
      have turn : b.reorder.reducePacket.2.takeNextPacket (!b.reorder.reducePacket.1) = b.reorder.pull () := rfl
      unfold consumeLoop loopPushed
      simp only [turn]
      cases result : (b.reorder.pull ()).1 with
      | none =>
          obtain ⟨closed, none⟩ := pull_eq_none valid result
          simp only [closed, none]
          exact ⟨true, drain_makes empty .., fun _ => ⟨pull_closed closed, none⟩, fun _ => rfl⟩
      | some call =>
          obtain ⟨pkt, lostBefore⟩ := call
          obtain ⟨flows, remaining⟩ := processPacket_flows empty pkt lostBefore
          have first := packet_makes empty pkt lostBefore
            (consumeReadyAu_core (b.assembly.processPacket pkt lostBefore) maxConsumeLen)
          dsimp only
          cases copy : ((b.assembly.processPacket pkt lostBefore).consumeReadyAu maxConsumeLen).1 with
          | some copied =>
              dsimp only
              rw [List.append_nil]
              exact ⟨false, first, fun ended => absurd ended Bool.false_ne_true,
                fun none => absurd none (Option.some_ne_none copied)⟩
          | none =>
              obtain ⟨outIdle, outEmpty⟩ := consumeReadyAu_eq_none (remaining.trans idle) flows copy
              dsimp only
              split
              · next both =>
                  simp only [Bool.and_eq_true, Bool.not_eq_true', beq_iff_eq] at both
                  exact ⟨true, first.trans (drain_makes outEmpty ..), fun _ => ⟨pull_closed both.1, both.2⟩,
                    fun _ => rfl⟩
              · have shrunk := pull_shrinks valid result
                obtain ⟨ended, makes, exhausted, ends⟩ :=
                  ih (b := ⟨(b.reorder.pull ()).2, _⟩) (valid.pull ()) (by dsimp only; omega) outIdle outEmpty
                exact ⟨ended, first.trans makes, exhausted, ends⟩

/-- A call makes access units of what it is handed, and closes the last one at the end of the stream. -/
theorem consumePacket_plays (maxConsumeLen : Nat) {b : RtpPacketBuffer} (valid : WellFormed b.reorder)
    (filled : ∀ unit ∈ b.assembly.readyAus, unit ≠ []) :
    Plays b (b.callPushed maxConsumeLen) (b.consumePacket maxConsumeLen) := by
  have still : ∀ {copied : Bytes} {after : AuAssembler}, after.core = b.assembly.core →
      Plays b [] ⟨some copied, [], ⟨b.reorder, after⟩⟩ := fun same => ⟨false, .nothing same, nofun, nofun⟩
  unfold consumePacket callPushed
  split
  · exact still rfl
  · dsimp only
    cases copy : (b.assembly.consumeRemaining maxConsumeLen).1 with
    | some copied => exact still (consumeRemaining_core b.assembly maxConsumeLen)
    | none =>
        obtain ⟨idle, same⟩ := consumeRemaining_eq_none copy
        rw [same]
        dsimp only
        have core := consumeReadyAu_core b.assembly maxConsumeLen
        cases result : (b.assembly.consumeReadyAu maxConsumeLen).1 with
        | some copied => exact still core
        | none =>
            obtain ⟨outIdle, outEmpty⟩ := consumeReadyAu_eq_none idle (.inl filled) result
            obtain ⟨ended, makes, exhausted, ends⟩ :=
              consumeLoop_plays (b := ⟨b.reorder, (b.assembly.consumeReadyAu maxConsumeLen).2⟩) maxConsumeLen
                (b.reorder.packetRx.pending.length + b.reorder.queueCount + 1) valid (Nat.lt_succ_self _) outIdle
                outEmpty
            exact ⟨ended, (Makes.nothing core).trans makes, exhausted, ends⟩

theorem handedOut_cons (b : RtpPacketBuffer) (maxConsumeLen : Nat) (lengths : List Nat) :
    b.handedOut (maxConsumeLen :: lengths) =
      handed (b.consumePacket maxConsumeLen).rounds ++ (b.consumePacket maxConsumeLen).after.handedOut lengths := by
  simp [handedOut, runRounds, consumeRun, handed]

/-- The run lemma: what a run puts out is what the assembler makes of the packets that it is handed. -/
theorem run_makes {b : RtpPacketBuffer} (reachable : Reachable b.reorder)
    (filled : ∀ unit ∈ b.assembly.readyAus, unit ≠ []) (lengths : List Nat) :
    ∃ ended, Makes b.assembly (b.handedOut lengths) ended (b.runPushed lengths) (b.afterRun lengths).assembly ∧
      (ended = true → Exhausted (b.afterRun lengths).reorder) ∧
      ((∃ call ∈ b.consumeRun lengths, call.result = none) → ended = true) := by
  induction lengths generalizing b with
  | nil => exact ⟨false, .nothing rfl, nofun, fun ⟨_, member, _⟩ => nomatch member⟩
  | cons maxConsumeLen lengths ih =>
      obtain ⟨first, makes, exhausted, ends⟩ := consumePacket_plays maxConsumeLen reachable.wellFormed filled
      obtain ⟨ended, later, laterExhausted, laterEnds⟩ :=
        ih ((consumePacket_rounds b maxConsumeLen).reachable reachable).2
          (consumePacket_accounts maxConsumeLen filled).filled
      rw [handedOut_cons, runPushed, afterRun]
      cases first with
      | false =>
          refine ⟨ended, makes.trans later, laterExhausted, ?_⟩
          rintro ⟨call, member, none⟩
          rcases List.mem_cons.mp member with rfl | member
          · cases ends none
          · exact laterEnds ⟨call, member, none⟩
      | true =>
          -- the stream has ended, so that nothing is handed out any more
          obtain ⟨same, nothing⟩ := (runRounds_rounds _ lengths).exhausted (exhausted rfl)
          rw [handedOut, nothing] at later ⊢
          rw [List.append_nil]
          exact ⟨true, makes.drained later, fun _ => same ▸ exhausted rfl, fun _ => rfl⟩

/-! ## What the demuxer reads -/

theorem consumeRemaining_eq_some {a : AuAssembler} {maxConsumeLen : Nat} (positive : 0 < maxConsumeLen)
    {copied : Bytes} (copy : (a.consumeRemaining maxConsumeLen).1 = some copied) : copied ≠ [] := by
  unfold consumeRemaining at copy
  split at copy
  · cases copy
  · next filled =>
      cases copy
      rw [List.isEmpty_iff] at filled
      simp [filled, Nat.ne_of_gt positive]

theorem consumeReadyAu_eq_some {a : AuAssembler} {maxConsumeLen : Nat} (positive : 0 < maxConsumeLen)
    {copied : Bytes} (copy : (a.consumeReadyAu maxConsumeLen).1 = some copied) : copied ≠ [] := by
  unfold consumeReadyAu at copy
  split at copy
  · cases copy
  · exact consumeRemaining_eq_some positive copy

theorem consumeLoop_eq_some {maxConsumeLen : Nat} (positive : 0 < maxConsumeLen) (fuel : Nat) {b : RtpPacketBuffer}
    {copied : Bytes} (copy : (consumeLoop maxConsumeLen fuel b).result = some copied) : copied ≠ [] := by
  induction fuel generalizing b with
  | zero => cases copy
  | succ fuel ih =>
      unfold consumeLoop at copy
      dsimp only at copy
      generalize b.reorder.reducePacket.2.takeNextPacket (!b.reorder.reducePacket.1) = taken at copy
      rcases taken with ⟨_ | ⟨pkt, lostBefore⟩, reorder⟩
      · dsimp only at copy
        split at copy
        · exact consumeReadyAu_eq_some positive copy
        · cases copy
      · dsimp only at copy
        split at copy
        · next some =>
            cases copy
            exact consumeReadyAu_eq_some positive some
        · split at copy
          · exact consumeReadyAu_eq_some positive copy
          · exact ih copy

/-- A call that is asked for something and returns copies something. -/
theorem consumePacket_eq_some {maxConsumeLen : Nat} (positive : 0 < maxConsumeLen) {b : RtpPacketBuffer}
    {copied : Bytes} (copy : (b.consumePacket maxConsumeLen).result = some copied) : copied ≠ [] := by
  unfold consumePacket at copy
  rw [if_neg (by simpa using Nat.ne_of_gt positive)] at copy
  dsimp only at copy
  split at copy
  · next some =>
      cases copy
      exact consumeRemaining_eq_some positive some
  · split at copy
    · next some =>
        cases copy
        exact consumeReadyAu_eq_some positive some
    · exact consumeLoop_eq_some positive _ copy

/-- As long as calls return, each of them copies a byte. -/
theorem length_le_runCopied (b : RtpPacketBuffer) {lengths : List Nat} (positive : ∀ length ∈ lengths, 0 < length)
    (goesOn : ∀ call ∈ b.consumeRun lengths, call.result ≠ none) :
    lengths.length ≤ (b.runCopied lengths).length := by
  induction lengths generalizing b with
  | nil => exact Nat.le_refl 0
  | cons maxConsumeLen lengths ih =>
      rw [List.forall_mem_cons] at positive
      rw [consumeRun, List.forall_mem_cons] at goesOn
      have later := ih _ positive.2 goesOn.2
      obtain ⟨copied, copy⟩ := Option.ne_none_iff_exists'.mp goesOn.1
      have one := List.length_pos_iff.mpr (consumePacket_eq_some positive.1 copy)
      rw [runCopied] at later
      simp only [runCopied, consumeRun, List.flatMap_cons, List.length_append, List.length_cons,
        ConsumeCall.copied, copy, Option.getD_some]
      omega

/-- What a run has copied when one of its calls has returned `None` is all that has been pushed. -/
theorem runCopied_eq_of_none {b : RtpPacketBuffer} (filled : ∀ unit ∈ b.assembly.readyAus, unit ≠ [])
    {lengths : List Nat} (ends : ∃ call ∈ b.consumeRun lengths, call.result = none) :
    ∃ early, (∃ call ∈ b.consumeRun early, call.result = none) ∧ b.runCopied early <+: b.runCopied lengths ∧
      b.runCopied early = b.assembly.held ++ (b.runPushed early).flatten := by
  induction lengths generalizing b with
  | nil =>
      obtain ⟨call, member, -⟩ := ends
      cases member
  | cons maxConsumeLen lengths ih =>
      have account := consumePacket_accounts maxConsumeLen filled
      obtain ⟨call, member, none⟩ := ends
      rcases List.mem_cons.mp member with rfl | later
      · refine ⟨[maxConsumeLen], ⟨_, List.mem_singleton_self _, none⟩, ?_, ?_⟩
        · simp [runCopied, consumeRun]
        · have bytes := account.bytes
          rw [account.ended none, List.append_nil] at bytes
          simpa [runCopied, consumeRun, runPushed] using bytes
      · obtain ⟨early, ⟨other, inEarly, otherNone⟩, copied, bytes⟩ := ih account.filled ⟨call, later, none⟩
        refine ⟨maxConsumeLen :: early, ⟨other, List.mem_cons_of_mem _ inEarly, otherNone⟩, ?_, ?_⟩
        · simpa [runCopied, consumeRun] using copied
        · have whole := account.bytes
          simp only [runCopied] at bytes
          simp only [runCopied, consumeRun, runPushed, List.flatMap_cons, List.flatten_append, bytes]
          rw [← List.append_assoc, whole, List.append_assoc]

/-- However the demuxer asks, it reads the front of `whole`, and all of it when it asks often enough. -/
structure Delivers (b : RtpPacketBuffer) (whole : Bytes) : Prop where
  front : ∀ lengths : List Nat, b.runCopied lengths <+: whole
  all : ∀ lengths : List Nat, (∀ length ∈ lengths, 0 < length) → whole.length < lengths.length →
    b.runCopied lengths = whole

variable {kind : PayloadKind} {base : BitVec 16} {sent : List RtpPacket} {order : List (Fin sent.length)}

/-- A stream that arrives nearly in order is read as the assembler makes it of the packets in sending order. -/
theorem init_delivers (aacAdts : AacAdtsConfig) (clock : List GapTick) (consecutive : Consecutive base sent)
    (each : ∀ i, i ∈ order) (follows : Follows (reorderWindow kind) seqHalfRange [] order)
    (enough : reorderWindow kind ≤ sent.length) :
    ∃ b, init ⟨order.map sent.get, clock⟩ kind aacAdts = .ok b ∧
      b.Delivers
        (made true (sent.map fun pkt => (pkt, false)) (AuAssembler.new kind aacAdts)).readyAus.flatten := by
  obtain ⟨b, arrived, rest, started, assembly, receiving⟩ :=
    init_receiving aacAdts clock consecutive each follows enough
  have reachable := init_reachable started
  have filled : ∀ unit ∈ b.assembly.readyAus, unit ≠ [] := by simp [assembly, AuAssembler.new]
  have nothing : b.assembly.held = [] := by simp [assembly, AuAssembler.new, held]
  have fresh : b.assembly.core = AuAssembler.new kind aacAdts := by rw [assembly]; rfl
  rw [← fresh]
  have ended : ∀ {lengths : List Nat}, Exhausted (b.afterRun lengths).reorder →
      b.handedOut lengths = sent.map fun pkt => (pkt, false) := handedOut_of_exhausted receiving consecutive
  have pushed : ∀ lengths : List Nat, (b.runPushed lengths).flatten <+:
      (made true (sent.map fun pkt => (pkt, false)) b.assembly.core).readyAus.flatten := by
    intro lengths
    obtain ⟨closed, makes, exhausted, -⟩ := run_makes reachable filled lengths
    rw [makes.units]
    cases closed with
    | true => rw [ended (exhausted rfl)]
    | false =>
        obtain ⟨later, -, -, -, whole⟩ := handedOut_receiving receiving consecutive lengths
        have parts := made_eq true ((sent.drop later).map fun pkt => (pkt, false))
          (b.assembly.core.processAll (b.handedOut lengths))
        rw [← whole, made_append, parts, readyAus_behind, List.flatten_append]
        exact List.prefix_append _ _
  have front : ∀ lengths : List Nat, b.runCopied lengths <+:
      (made true (sent.map fun pkt => (pkt, false)) b.assembly.core).readyAus.flatten := by
    intro lengths
    refine List.IsPrefix.trans ?_ (pushed lengths)
    have account := (run_accounts lengths filled).1
    rw [nothing, List.nil_append] at account
    exact ⟨_, account⟩
  refine ⟨b, started, front, fun lengths positive often => ?_⟩
  -- the calls cannot all return, since each of them copies a byte
  have ends : ∃ call ∈ b.consumeRun lengths, call.result = none := by
    by_contra goesOn
    have many := b.length_le_runCopied positive fun call member none => goesOn ⟨call, member, none⟩
    have few := (front lengths).length_le
    omega
  obtain ⟨early, earlyEnds, copied, bytes⟩ := runCopied_eq_of_none filled ends
  obtain ⟨closed, makes, exhausted, closes⟩ := run_makes reachable filled early
  rw [closes earlyEnds] at makes
  rw [nothing, List.nil_append, makes.units, ended (exhausted (closes earlyEnds))] at bytes
  exact (front lengths).eq_of_length_le (by rw [← bytes]; exact copied.length_le)

/-! ## Streams of payloads -/

/-- What a packet of a stream that is no raw video adds. -/
def content (kind : PayloadKind) (aacAdts : AacAdtsConfig) (pkt : RtpPacket) : Bytes :=
  match kind with
  | .aac => (depacketizeAac aacAdts pkt.payload).getD []
  | _ => pkt.payload

/-- The assembler has put out, or holds, these bytes. -/
structure Flowing (kind : PayloadKind) (aacAdts : AacAdtsConfig) (bytes : Bytes) (a : AuAssembler) : Prop where
  kindEq : a.payloadKind = kind
  adts : a.aacAdts = aacAdts
  undamaged : a.auDamaged = false
  held : assembles kind = false → a.auBuffer = []
  bytes : a.readyAus.flatten ++ a.auBuffer = bytes

namespace Flowing

variable {aacAdts : AacAdtsConfig} {bytes : Bytes} {a : AuAssembler}

theorem finishAccessUnit (plain : kindIsRawVideo kind = false) (flowing : Flowing kind aacAdts bytes a)
    (marker : Bool) :
    Flowing kind aacAdts bytes (a.finishAccessUnit marker) ∧ (a.finishAccessUnit marker).auBuffer = [] := by
  have ungated : a.isRawVideo = false := by rw [isRawVideo, flowing.kindEq, plain]
  rw [finishAccessUnit_eq]
  split
  · next empty => exact ⟨{ flowing with undamaged := rfl }, List.isEmpty_iff.mp empty⟩
  · rw [if_neg (by simp [flowing.undamaged]), ungated]
    have whole : (a.readyAus ++ [a.auBuffer]).flatten ++ [] = bytes := by simpa using flowing.bytes
    exact ⟨⟨flowing.kindEq, flowing.adts, rfl, fun _ => rfl, whole⟩, rfl⟩

theorem appendAccessUnit (plain : kindIsRawVideo kind = false) (gathers : assembles kind = true)
    (flowing : Flowing kind aacAdts bytes a) (timestamp : UInt32) (marker : Bool) (data : Bytes) :
    Flowing kind aacAdts (bytes ++ data) (a.appendAccessUnit timestamp marker data) := by
  have turned : Flowing kind aacAdts bytes (a.turnTo timestamp) := by
    unfold turnTo
    split
    · exact (flowing.finishAccessUnit plain false).1
    · exact flowing
  have pushed : Flowing kind aacAdts (bytes ++ data) ((a.turnTo timestamp).push timestamp data) :=
    ⟨turned.kindEq, turned.adts, turned.undamaged, fun single => by simp [gathers] at single,
      by rw [← turned.bytes, List.append_assoc]; rfl⟩
  rw [appendAccessUnit_eq]
  split
  · exact (pushed.finishAccessUnit plain true).1
  · exact pushed

/-- A payload kind with one access unit a packet puts it out at once. -/
theorem ready (single : assembles kind = false) (flowing : Flowing kind aacAdts bytes a) (data : Bytes) :
    Flowing kind aacAdts (bytes ++ data) { a with readyAus := a.readyAus ++ [data] } := by
  have whole := flowing.bytes
  rw [flowing.held single, List.append_nil] at whole
  refine { flowing with bytes := ?_ }
  simp [flowing.held single, whole]

/-- The step lemma: a packet adds its content. -/
theorem processPacket (plain : kindIsRawVideo kind = false) (flowing : Flowing kind aacAdts bytes a)
    (pkt : RtpPacket) : Flowing kind aacAdts (bytes ++ content kind aacAdts pkt) (a.processPacket pkt false) := by
  have kindEq := flowing.kindEq
  unfold AuAssembler.processPacket
  split <;> rename_i here <;> obtain rfl := here.symm.trans kindEq
  · exact flowing.appendAccessUnit rfl rfl _ _ _
  · exact flowing.appendAccessUnit rfl rfl _ _ _
  · cases plain
  · cases plain
  · rw [flowing.adts, content]
    cases depacketizeAac aacAdts pkt.payload with
    | some data => exact flowing.adts ▸ flowing.ready rfl data
    | none => simpa using flowing
  · exact flowing.ready rfl _

/-- The run lemma: the packets add their contents, one after the other. -/
theorem processAll (plain : kindIsRawVideo kind = false) (flowing : Flowing kind aacAdts bytes a)
    (pkts : List RtpPacket) :
    Flowing kind aacAdts (bytes ++ pkts.flatMap (content kind aacAdts))
      (a.processAll (pkts.map fun pkt => (pkt, false))) := by
  induction pkts generalizing bytes a with
  | nil =>
      rw [List.flatMap_nil, List.append_nil]
      exact flowing
  | cons pkt pkts ih =>
      rw [List.flatMap_cons, ← List.append_assoc]
      exact ih (flowing.processPacket plain pkt)

end Flowing

/-- A stream of payloads that arrives nearly in order is read as it has been sent. -/
theorem payloads_delivered (kind : PayloadKind) (plain : kindIsRawVideo kind = false) (aacAdts : AacAdtsConfig)
    (clock : List GapTick) (base : BitVec 16) (sent : List RtpPacket) (order : List (Fin sent.length))
    (consecutive : Consecutive base sent) (each : ∀ i, i ∈ order)
    (follows : Follows (reorderWindow kind) seqHalfRange [] order) (enough : reorderWindow kind ≤ sent.length) :
    ∃ b, init ⟨order.map sent.get, clock⟩ kind aacAdts = .ok b ∧ b.Delivers (sent.flatMap (content kind aacAdts)) := by
  have fresh : Flowing kind aacAdts [] (AuAssembler.new kind aacAdts) := ⟨rfl, rfl, rfl, fun _ => rfl, rfl⟩
  obtain ⟨ended, empty⟩ := (fresh.processAll plain sent).finishAccessUnit plain false
  obtain ⟨b, started, delivers⟩ := init_delivers aacAdts clock consecutive each follows enough
  refine ⟨b, started, ?_⟩
  have whole := ended.bytes
  rw [empty, List.append_nil, List.nil_append] at whole
  rwa [made, if_pos rfl, whole] at delivers

/-- A talk of ten packets across the end of the number space, two of which overtake others. -/
theorem payloads_delivered_talk :
    let sent : List RtpPacket := (List.range 10).map fun i =>
      ⟨1, UInt32.ofNat i, false, 65532 + BitVec.ofNat 16 i, [UInt8.ofNat i, UInt8.ofNat (2 * i)]⟩
    let order : List (Fin 10) := [1, 0, 2, 7, 3, 4, 6, 5, 9, 8]
    ∃ b, init ⟨order.map sent.get, []⟩ .g711 ⟨8000, 1⟩ = .ok b ∧
      b.Delivers [0, 0, 1, 2, 2, 4, 3, 6, 4, 8, 5, 10, 6, 12, 7, 14, 8, 16, 9, 18] := by
  intro sent order
  have consecutive : Consecutive 65532#16 sent := by decide
  have each : ∀ i, i ∈ order := by decide
  have follows : Follows (reorderWindow .g711) seqHalfRange [] order := by decide
  exact payloads_delivered .g711 rfl ⟨8000, 1⟩ [] 65532#16 sent order consecutive each follows (by decide)

/-! ## Streams of access units -/

open CodedUnit

/-- Nothing is under assembly behind the last packet of a unit. -/
theorem idle_steps_units (raw : kindIsRawVideo kind = true) (units : List CodedUnit)
    (valid : ∀ u ∈ units, u.Valid kind) {s : UnitAssembly.Assembly UInt32 UInt8} (idle : Idle s) :
    Idle ((units.flatMap calls).foldl (fun s call => s.step true (accessUnitHasKeyframe kind)
      (arrival kind call.1 call.2)) s) := by
  induction units generalizing s with
  | nil => exact idle
  | cons u rest ih =>
      have here := valid u List.mem_cons_self
      rw [List.flatMap_cons, List.foldl_append, steps_unit kind true _ here idle, finish_unit_idle raw here idle]
      exact ih (fun other member => valid other (List.mem_cons_of_mem _ member))
        ⟨idle.unit, idle.stamp, idle.damaged, idle.fragment⟩

/-- The end of the stream finds nothing under assembly. -/
theorem made_units (raw : kindIsRawVideo kind = true) (aacAdts : AacAdtsConfig) (units : List CodedUnit)
    (valid : ∀ u ∈ units, u.Valid kind) :
    (made true (units.flatMap calls) (AuAssembler.new kind aacAdts)).readyAus =
      (units.dropWhile fun u => !u.hasKeyframe kind).map fun u => annexB u.nals := by
  have run := processAll_view (new_tidy kind aacAdts) (assembles_of_raw raw) (units.flatMap calls)
  have idle : Idle (AuAssembler.new kind aacAdts).view := ⟨rfl, rfl, rfl, rfl⟩
  rw [raw] at run
  have empty : ((AuAssembler.new kind aacAdts).processAll (units.flatMap calls)).auBuffer = [] :=
    (congrArg UnitAssembly.Assembly.unit run).trans (idle_steps_units raw units valid idle).unit
  have ready := (congrArg UnitAssembly.Assembly.ready run).trans (steps_units raw units valid idle)
  rw [made, if_pos rfl, AuAssembler.finishAccessUnit, if_pos (by rw [empty]; rfl)]
  refine ready.trans ?_
  change [] ++ output kind units (kindIsRawVideo kind) = _
  rw [raw]
  rfl

/-- A stream of access units that arrives nearly in order is read as the byte streams of its access units, from the
first one with a key frame on. -/
theorem units_delivered (kind : PayloadKind) (raw : kindIsRawVideo kind = true) (aacAdts : AacAdtsConfig)
    (clock : List GapTick) (base : BitVec 16) (units : List CodedUnit) (valid : ∀ u ∈ units, u.Valid kind)
    (order : List (Fin (units.flatMap CodedUnit.packets).length))
    (consecutive : Consecutive base (units.flatMap CodedUnit.packets)) (each : ∀ i, i ∈ order)
    (follows : Follows (reorderWindow kind) seqHalfRange [] order)
    (enough : reorderWindow kind ≤ (units.flatMap CodedUnit.packets).length) :
    ∃ b, init ⟨order.map (units.flatMap CodedUnit.packets).get, clock⟩ kind aacAdts = .ok b ∧
      b.Delivers ((units.dropWhile fun u => !u.hasKeyframe kind).flatMap fun u => annexB u.nals) := by
  obtain ⟨b, started, delivers⟩ := init_delivers aacAdts clock consecutive each follows enough
  refine ⟨b, started, ?_⟩
  have calls : (units.flatMap CodedUnit.packets).map (fun pkt => (pkt, false)) = units.flatMap calls :=
    List.map_flatMap
  rwa [calls, made_units raw aacAdts units valid, ← List.flatMap_def] at delivers

/-- A slice before the first key frame is not read, and packets overtake one another within and across units. -/
theorem units_delivered_late_key :
    let unit : Nat → CodedUnit := fun i =>
      let nal : Bytes := if i = 0 then [0x41, 9] else [0x65, 9]
      ⟨UInt32.ofNat i, [nal], [⟨1, UInt32.ofNat i, true, BitVec.ofNat 16 i, nal⟩]⟩
    let units := (List.range 32).map unit
    let order : List (Fin 32) := [1, 0, 5, 2, 4, 3, 6] ++ (List.finRange 32).drop 7
    ∃ b, init ⟨order.map (units.flatMap CodedUnit.packets).get, []⟩ .h264 ⟨0, 0⟩ = .ok b ∧
      b.Delivers ((List.replicate 31 [0, 0, 0, 1, 0x65, 9]).flatten) := by
  intro unit units order
  have valid : ∀ u ∈ units, u.Valid .h264 := by
    intro u member
    obtain ⟨i, -, rfl⟩ := List.mem_map.mp member
    refine ⟨List.cons_ne_nil _ _, ?_, .single _ .nil, by simp [unit], [], _, rfl, nofun, rfl⟩
    intro nal inUnit
    rw [List.mem_singleton.mp inUnit]
    split
    · exact ⟨⟨by decide, by decide⟩, by decide +kernel⟩
    · exact ⟨⟨by decide, by decide⟩, by decide +kernel⟩
  have consecutive : Consecutive 0#16 (units.flatMap CodedUnit.packets) := by decide +kernel
  have each : ∀ i, i ∈ order := by decide +kernel
  have follows : Follows (reorderWindow .h264) seqHalfRange [] order := by decide +kernel
  exact units_delivered .h264 rfl ⟨0, 0⟩ [] 0#16 units valid order consecutive each follows (by decide +kernel)

end RtpPacketBuffer

end Gmv.Stream
