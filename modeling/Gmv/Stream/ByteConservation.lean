import Gmv.Stream.Assembly
import Gmv.Stream.ReorderOrder

/-!
# The bytes that reach the demuxer

The access units go through a queue and a partly consumed remainder before a call
of `consume_packet` copies them out.  The module follows the pushes to that queue
next to the calls: what has been copied and what is still held make up what was
pushed, at every point of a run.
-/

namespace Gmv.Stream

namespace AuAssembler

/-- The bytes that the assembler holds for the demuxer. -/
def held (a : AuAssembler) : Bytes := a.remaining ++ a.readyAus.flatten

/-- What a step of the assembler pushes to `ready_aus`. -/
def pushed (before after : AuAssembler) : List Bytes :=
  after.readyAus.drop before.readyAus.length

/-- A step that only pushes access units, none of them empty. -/
def Pushes (before after : AuAssembler) : Prop :=
  ∃ units, after.readyAus = before.readyAus ++ units ∧ after.remaining = before.remaining ∧
    ∀ unit ∈ units, unit ≠ []

theorem Pushes.of_eq {before after : AuAssembler}
    (sameReady : after.readyAus = before.readyAus)
    (sameRemaining : after.remaining = before.remaining) : Pushes before after :=
  ⟨[], by simp [sameReady], sameRemaining, by simp⟩

theorem Pushes.trans {first middle last : AuAssembler} (early : Pushes first middle)
    (late : Pushes middle last) : Pushes first last := by
  obtain ⟨units, ready, remaining, filled⟩ := early
  obtain ⟨units', ready', remaining', filled'⟩ := late
  refine ⟨units ++ units', ?_, remaining'.trans remaining, fun unit member => ?_⟩
  · rw [ready', ready, List.append_assoc]
  · exact (List.mem_append.mp member).elim (filled unit) (filled' unit)

/-- Only an access unit with data is pushed. -/
theorem finishAccessUnit_pushes (a : AuAssembler) (marker : Bool) :
    Pushes a (a.finishAccessUnit marker) := by
  simp only [finishAccessUnit, shouldOutputAccessUnit_eq]
  split_ifs with empty damaged
  · exact .of_eq rfl rfl
  · exact .of_eq rfl rfl
  · exact ⟨[a.auBuffer], rfl, rfl, by simpa using empty⟩
  · exact .of_eq rfl rfl

theorem turnTo_pushes (a : AuAssembler) (timestamp : UInt32) :
    Pushes a (a.turnTo timestamp) := by
  unfold turnTo
  split
  · exact finishAccessUnit_pushes a false
  · exact .of_eq rfl rfl

theorem appendAccessUnit_pushes (a : AuAssembler) (timestamp : UInt32) (marker : Bool)
    (data : Bytes) : Pushes a (a.appendAccessUnit timestamp marker data) := by
  have appended : Pushes a ((a.turnTo timestamp).push timestamp data) :=
    (turnTo_pushes a timestamp).trans (.of_eq rfl rfl)
  rw [appendAccessUnit_eq]
  split
  · exact appended.trans (finishAccessUnit_pushes _ true)
  · exact appended

theorem noteLoss_pushes (a : AuAssembler) (timestamp : UInt32) (lostBefore : Bool) :
    Pushes a (a.noteLoss timestamp lostBefore) := by
  cases lostBefore with
  | false => exact .of_eq rfl rfl
  | true =>
      change Pushes a (a.markPacketLoss timestamp)
      unfold markPacketLoss
      dsimp only
      split
      · exact .of_eq rfl rfl
      · split <;> exact .of_eq rfl rfl

theorem receiveUnpacked_pushes {a : AuAssembler} {unpacked : Option Bytes × AuAssembler}
    (pushes : Pushes a unpacked.2) (timestamp : UInt32) (marker : Bool) :
    Pushes a (receiveUnpacked unpacked timestamp marker) := by
  unfold receiveUnpacked
  split
  · exact pushes.trans (appendAccessUnit_pushes _ timestamp marker _)
  · split
    · exact pushes.trans (finishAccessUnit_pushes _ true)
    · exact pushes

/-- A queue that one attempt to hand something out cannot stop at: no access unit in
it is empty, or there is only one. -/
def Flows (units : List Bytes) : Prop :=
  (∀ unit ∈ units, unit ≠ []) ∨ units.length ≤ 1

/-- AAC and G.711 push what a packet holds as it is, one access unit a packet. -/
theorem processPacket_flows {a : AuAssembler} (idle : a.readyAus = []) (pkt : RtpPacket)
    (lostBefore : Bool) :
    Flows (a.processPacket pkt lostBefore).readyAus ∧
      (a.processPacket pkt lostBefore).remaining = a.remaining := by
  have assembled {after : AuAssembler} (pushes : Pushes a after) :
      Flows after.readyAus ∧ after.remaining = a.remaining := by
    obtain ⟨units, ready, remaining, filled⟩ := pushes
    exact ⟨.inl (by simpa [ready, idle] using filled), remaining⟩
  have noted := noteLoss_pushes a pkt.timestamp lostBefore
  unfold processPacket
  split
  · exact assembled (noted.trans (appendAccessUnit_pushes _ _ _ _))
  · exact assembled (noted.trans (appendAccessUnit_pushes _ _ _ _))
  · exact assembled (receiveUnpacked_pushes (noted.trans (.of_eq rfl rfl)) _ _)
  · exact assembled (receiveUnpacked_pushes (noted.trans (.of_eq rfl rfl)) _ _)
  · split
    · exact ⟨.inr (by simp [idle]), rfl⟩
    · exact ⟨.inr (by simp [idle]), rfl⟩
  · exact ⟨.inr (by simp [idle]), rfl⟩

/-! ## Handing out -/

/-- A copy takes at most the asked length off the front of what is held. -/
theorem consumeRemaining_held (a : AuAssembler) (maxConsumeLen : Nat) :
    ((a.consumeRemaining maxConsumeLen).1.getD []) ++ (a.consumeRemaining maxConsumeLen).2.held =
        a.held ∧
      ((a.consumeRemaining maxConsumeLen).1.getD []).length ≤ maxConsumeLen ∧
      (a.consumeRemaining maxConsumeLen).2.readyAus = a.readyAus := by
  unfold consumeRemaining
  split
  · exact ⟨rfl, Nat.zero_le _, rfl⟩
  · refine ⟨?_, ?_, rfl⟩
    · simp [held, ← List.append_assoc]
    · simp

theorem consumeRemaining_eq_none {a : AuAssembler} {maxConsumeLen : Nat}
    (nothing : (a.consumeRemaining maxConsumeLen).1 = none) :
    a.remaining = [] ∧ (a.consumeRemaining maxConsumeLen).2 = a := by
  unfold consumeRemaining at nothing ⊢
  split
  · next empty => exact ⟨List.isEmpty_iff.mp empty, rfl⟩
  · next filled =>
      rw [if_neg filled] at nothing
      cases nothing

theorem consumeReadyAu_held {a : AuAssembler} (idle : a.remaining = []) (maxConsumeLen : Nat) :
    ((a.consumeReadyAu maxConsumeLen).1.getD []) ++ (a.consumeReadyAu maxConsumeLen).2.held =
        a.held ∧
      ((a.consumeReadyAu maxConsumeLen).1.getD []).length ≤ maxConsumeLen ∧
      (a.consumeReadyAu maxConsumeLen).2.readyAus = a.readyAus.tail := by
  unfold consumeReadyAu
  split
  · next empty => exact ⟨rfl, Nat.zero_le _, by simp [empty]⟩
  · next data rest queued =>
      obtain ⟨bytes, bounded, ready⟩ :=
        consumeRemaining_held { a with readyAus := rest, remaining := data } maxConsumeLen
      refine ⟨bytes.trans ?_, bounded, ?_⟩
      · simp [held, queued, idle]
      · simp [ready, queued]

/-- Nothing is handed out only where nothing is held. -/
theorem consumeReadyAu_eq_none {a : AuAssembler} {maxConsumeLen : Nat} (idle : a.remaining = [])
    (flows : Flows a.readyAus) (nothing : (a.consumeReadyAu maxConsumeLen).1 = none) :
    (a.consumeReadyAu maxConsumeLen).2.remaining = [] ∧
      (a.consumeReadyAu maxConsumeLen).2.readyAus = [] := by
  unfold consumeReadyAu at nothing ⊢
  split
  · next empty => exact ⟨idle, empty⟩
  · next data rest queued =>
      rw [queued] at flows nothing
      dsimp only at nothing
      unfold consumeRemaining at nothing ⊢
      split
      · next blank =>
          have empty : data = [] := List.isEmpty_iff.mp blank
          rcases flows with filled | single
          · exact absurd empty (filled data (List.mem_cons_self ..))
          · have last : rest = [] := by simpa using single
            exact ⟨empty, last⟩
      · next filled =>
          rw [if_neg filled] at nothing
          cases nothing

/-- What is left in the queue after one attempt has no empty access unit. -/
theorem consumeReadyAu_filled {a : AuAssembler} (idle : a.remaining = []) (maxConsumeLen : Nat)
    (flows : Flows a.readyAus) :
    ∀ unit ∈ (a.consumeReadyAu maxConsumeLen).2.readyAus, unit ≠ [] := by
  rw [(consumeReadyAu_held idle maxConsumeLen).2.2]
  rcases flows with filled | single
  · exact fun unit member => filled unit (List.mem_of_mem_tail member)
  · have last : a.readyAus.tail = [] :=
      List.eq_nil_of_length_eq_zero (by rw [List.length_tail]; omega)
    simp [last]

end AuAssembler

namespace RtpPacketBuffer

open AuAssembler

/-- The access units that the loop of `consume_packet` pushes to `ready_aus`. -/
def loopPushed (maxConsumeLen : Nat) : Nat → RtpPacketBuffer → List Bytes
  | 0, _ => []
  | fuel + 1, b =>
      let reduced := b.reorder.reducePacket
      let inputClosed := !reduced.1
      let taken := reduced.2.takeNextPacket inputClosed
      match taken.1 with
      | none =>
          if inputClosed && taken.2.queueCount == 0 then
            b.assembly.pushed (b.assembly.finishAccessUnit false)
          else []
      | some (pkt, lostBefore) =>
          let processed := b.assembly.processPacket pkt lostBefore
          let out := processed.consumeReadyAu maxConsumeLen
          b.assembly.pushed processed ++
            match out.1 with
            | some _ => []
            | none =>
                if inputClosed && taken.2.queueCount == 0 then
                  out.2.pushed (out.2.finishAccessUnit false)
                else loopPushed maxConsumeLen fuel ⟨taken.2, out.2⟩

/-- The access units that one call pushes: only its loop does. -/
def callPushed (b : RtpPacketBuffer) (maxConsumeLen : Nat) : List Bytes :=
  if maxConsumeLen == 0 then []
  else
    let held := b.assembly.consumeRemaining maxConsumeLen
    match held.1 with
    | some _ => []
    | none =>
        let ready := held.2.consumeReadyAu maxConsumeLen
        match ready.1 with
        | some _ => []
        | none =>
            loopPushed maxConsumeLen
              (b.reorder.packetRx.pending.length + b.reorder.queueCount + 1)
              ⟨b.reorder, ready.2⟩

/-- The access units that the calls of a run push, in order. -/
def runPushed (b : RtpPacketBuffer) : List Nat → List Bytes
  | [] => []
  | maxConsumeLen :: rest =>
      b.callPushed maxConsumeLen ++ (b.consumePacket maxConsumeLen).after.runPushed rest

def ConsumeCall.copied (call : ConsumeCall) : Bytes := call.result.getD []

/-- The bytes that the calls of a run copy to their caller, in order. -/
def runCopied (b : RtpPacketBuffer) (lengths : List Nat) : Bytes :=
  (b.consumeRun lengths).flatMap ConsumeCall.copied

/-- The account of a call that begins with some bytes held and pushes access units. -/
structure Accounts (maxConsumeLen : Nat) (before : Bytes) (units : List Bytes)
    (call : ConsumeCall) : Prop where
  bytes : call.copied ++ call.after.assembly.held = before ++ units.flatten
  bounded : call.copied.length ≤ maxConsumeLen
  ended : call.result = none → call.after.assembly.held = []
  filled : ∀ unit ∈ call.after.assembly.readyAus, unit ≠ []

theorem Accounts.of_consumeReadyAu {a : AuAssembler} (maxConsumeLen : Nat)
    (idle : a.remaining = []) (flows : Flows a.readyAus) (reorder : ReorderQueue)
    (rounds : List Round) :
    Accounts maxConsumeLen [] a.readyAus
      ⟨(a.consumeReadyAu maxConsumeLen).1, rounds,
        ⟨reorder, (a.consumeReadyAu maxConsumeLen).2⟩⟩ := by
  obtain ⟨bytes, bounded, -⟩ := consumeReadyAu_held idle maxConsumeLen
  refine ⟨by simpa [held, idle, ConsumeCall.copied] using bytes, bounded, fun nothing => ?_,
    consumeReadyAu_filled idle maxConsumeLen flows⟩
  obtain ⟨remaining, ready⟩ := consumeReadyAu_eq_none idle flows nothing
  simp [held, remaining, ready]

/-- The end of the stream, with nothing held before it. -/
theorem drain_accounts {a : AuAssembler} (idle : a.remaining = []) (empty : a.readyAus = [])
    (maxConsumeLen : Nat) (reorder : ReorderQueue) (round : Round) :
    Accounts maxConsumeLen [] (a.pushed (a.finishAccessUnit false))
      (drain maxConsumeLen reorder a round) := by
  obtain ⟨units, ready, remaining, filled⟩ := finishAccessUnit_pushes a false
  have pushed : a.pushed (a.finishAccessUnit false) = (a.finishAccessUnit false).readyAus := by
    simp [AuAssembler.pushed, empty]
  rw [pushed]
  exact Accounts.of_consumeReadyAu _ (remaining.trans idle)
    (.inl (by simpa [ready, empty] using filled)) reorder [round]

/-- What a turn pushed when nothing came of it had no bytes. -/
theorem Accounts.after_nothing {maxConsumeLen : Nat} {units more : List Bytes}
    {turn call : ConsumeCall} (early : Accounts maxConsumeLen [] units turn)
    (nothing : turn.result = none) (late : Accounts maxConsumeLen [] more call) :
    Accounts maxConsumeLen [] (units ++ more) call := by
  have blank : units.flatten = [] := by
    have bytes := early.bytes
    rw [early.ended nothing] at bytes
    simpa [ConsumeCall.copied, nothing] using bytes.symm
  exact { late with bytes := by simpa [blank] using late.bytes }

/-- What is queued when a call begins counts as held before it. -/
theorem Accounts.of_queued {maxConsumeLen : Nat} {units more : List Bytes} {call : ConsumeCall}
    (account : Accounts maxConsumeLen [] (units ++ more) call) :
    Accounts maxConsumeLen units.flatten more call :=
  { account with bytes := by simpa using account.bytes }

theorem Accounts.of_idle {a : AuAssembler} (idle : a.remaining = []) (empty : a.readyAus = [])
    (maxConsumeLen : Nat) (reorder : ReorderQueue) (rounds : List Round) :
    Accounts maxConsumeLen [] [] ⟨none, rounds, ⟨reorder, a⟩⟩ where
  bytes := by simp [ConsumeCall.copied, held, idle, empty]
  bounded := Nat.zero_le _
  ended _ := by simp [held, idle, empty]
  filled := by simp [empty]

/-- The loop begins with nothing held, and so does every turn of it. -/
theorem consumeLoop_accounts (maxConsumeLen fuel : Nat) {b : RtpPacketBuffer}
    (idle : b.assembly.remaining = []) (empty : b.assembly.readyAus = []) :
    Accounts maxConsumeLen [] (loopPushed maxConsumeLen fuel b)
      (consumeLoop maxConsumeLen fuel b) := by
  induction fuel generalizing b with
  | zero => exact .of_idle idle empty ..
  | succ fuel ih =>
      unfold consumeLoop loopPushed
      dsimp only
      generalize b.reorder.reducePacket.2.takeNextPacket (!b.reorder.reducePacket.1) = taken
      rcases taken with ⟨_ | ⟨pkt, lostBefore⟩, reorder⟩
      · dsimp only
        split
        · exact drain_accounts idle empty ..
        · exact .of_idle idle empty ..
      · dsimp only
        obtain ⟨flows, remaining⟩ := processPacket_flows empty pkt lostBefore
        generalize b.assembly.processPacket pkt lostBefore = processed at flows remaining
        have processedIdle : processed.remaining = [] := remaining.trans idle
        have pushed : b.assembly.pushed processed = processed.readyAus := by
          simp [AuAssembler.pushed, empty]
        have turn := Accounts.of_consumeReadyAu maxConsumeLen processedIdle
          flows reorder []
        rw [pushed]
        cases result : (processed.consumeReadyAu maxConsumeLen).1 with
        | some copied =>
            rw [result] at turn
            simpa using { turn with }
        | none =>
            obtain ⟨outIdle, outEmpty⟩ := consumeReadyAu_eq_none processedIdle flows result
            apply turn.after_nothing result
            dsimp only
            split
            · exact drain_accounts outIdle outEmpty ..
            · have rest := ih (b := ⟨reorder, _⟩) outIdle outEmpty
              exact { rest with }

theorem consumePacket_accounts {b : RtpPacketBuffer} (maxConsumeLen : Nat)
    (filled : ∀ unit ∈ b.assembly.readyAus, unit ≠ []) :
    Accounts maxConsumeLen b.assembly.held (b.callPushed maxConsumeLen)
      (b.consumePacket maxConsumeLen) := by
  unfold consumePacket callPushed
  split
  · exact ⟨by simp [ConsumeCall.copied], Nat.zero_le _, nofun, filled⟩
  · dsimp only
    cases copy : (b.assembly.consumeRemaining maxConsumeLen).1 with
    | some copied =>
        obtain ⟨bytes, bounded, ready⟩ := consumeRemaining_held b.assembly maxConsumeLen
        rw [copy] at bytes bounded
        exact ⟨by simpa [ConsumeCall.copied] using bytes, bounded, nofun, ready ▸ filled⟩
    | none =>
        obtain ⟨idle, same⟩ := consumeRemaining_eq_none copy
        have turn := Accounts.of_consumeReadyAu maxConsumeLen idle
          (.inl filled) b.reorder []
        have queued : b.assembly.held = b.assembly.readyAus.flatten := by simp [held, idle]
        rw [same, queued]
        dsimp only
        cases result : (b.assembly.consumeReadyAu maxConsumeLen).1 with
        | some copied =>
            rw [result] at turn
            apply Accounts.of_queued
            simpa using { turn with }
        | none =>
            obtain ⟨outIdle, outEmpty⟩ := consumeReadyAu_eq_none idle (.inl filled) result
            apply Accounts.of_queued
            exact turn.after_nothing result (consumeLoop_accounts _ _ outIdle outEmpty)

/-- What a run copied and what is held after it make up what was held and pushed. -/
theorem run_accounts {b : RtpPacketBuffer} (lengths : List Nat)
    (filled : ∀ unit ∈ b.assembly.readyAus, unit ≠ []) :
    b.runCopied lengths ++ (b.afterRun lengths).assembly.held =
        b.assembly.held ++ (b.runPushed lengths).flatten ∧
      ∀ unit ∈ (b.afterRun lengths).assembly.readyAus, unit ≠ [] := by
  induction lengths generalizing b with
  | nil => exact ⟨by simp [runCopied, consumeRun, afterRun, runPushed], filled⟩
  | cons maxConsumeLen rest ih =>
      have account := consumePacket_accounts maxConsumeLen filled
      obtain ⟨bytes, stillFilled⟩ := ih account.filled
      refine ⟨?_, stillFilled⟩
      calc b.runCopied (maxConsumeLen :: rest) ++
            (b.afterRun (maxConsumeLen :: rest)).assembly.held
          = (b.consumePacket maxConsumeLen).copied ++
              ((b.consumePacket maxConsumeLen).after.runCopied rest ++
                ((b.consumePacket maxConsumeLen).after.afterRun rest).assembly.held) := by
            simp [runCopied, consumeRun, afterRun]
        _ = ((b.consumePacket maxConsumeLen).copied ++
              (b.consumePacket maxConsumeLen).after.assembly.held) ++
              ((b.consumePacket maxConsumeLen).after.runPushed rest).flatten := by
            rw [bytes, List.append_assoc]
        _ = b.assembly.held ++ (b.runPushed (maxConsumeLen :: rest)).flatten := by
            rw [account.bytes, runPushed, List.flatten_append, List.append_assoc]

theorem runCopied_concat (b : RtpPacketBuffer) (lengths : List Nat) (maxConsumeLen : Nat) :
    b.runCopied (lengths ++ [maxConsumeLen]) =
      b.runCopied lengths ++ ((b.afterRun lengths).consumePacket maxConsumeLen).copied := by
  induction lengths generalizing b with
  | nil => simp [runCopied, consumeRun, afterRun]
  | cons first rest ih =>
      have later := ih (b.consumePacket first).after
      simp only [runCopied] at later ⊢
      simp [consumeRun, afterRun, later]

theorem runPushed_concat (b : RtpPacketBuffer) (lengths : List Nat) (maxConsumeLen : Nat) :
    b.runPushed (lengths ++ [maxConsumeLen]) =
      b.runPushed lengths ++ (b.afterRun lengths).callPushed maxConsumeLen := by
  induction lengths generalizing b with
  | nil => simp [runPushed, afterRun]
  | cons first rest ih => simp [runPushed, afterRun, ih]

/-- The bytes copied by a run are those of the pushed access units up to what is still
held; a call copies no more than it was asked for, and nothing is held after a call that
returns `None`. -/
theorem bytes_conserved (packetRx : Receiver) (kind : PayloadKind) (aacAdts : AacAdtsConfig)
    (b : RtpPacketBuffer) (started : init packetRx kind aacAdts = .ok b) (lengths : List Nat)
    (maxConsumeLen : Nat) :
    b.runCopied lengths ++ (b.afterRun lengths).assembly.held =
        (b.runPushed lengths).flatten ∧
      ((b.afterRun lengths).consumePacket maxConsumeLen).copied.length ≤ maxConsumeLen ∧
      (((b.afterRun lengths).consumePacket maxConsumeLen).result = none →
        b.runCopied (lengths ++ [maxConsumeLen]) =
          (b.runPushed (lengths ++ [maxConsumeLen])).flatten) := by
  have filled : ∀ unit ∈ b.assembly.readyAus, unit ≠ [] := by
    simp [(init_eq_ok started).2, AuAssembler.new]
  have nothing : b.assembly.held = [] := by
    simp [(init_eq_ok started).2, AuAssembler.new, held]
  obtain ⟨bytes, stillFilled⟩ := run_accounts lengths filled
  rw [nothing, List.nil_append] at bytes
  have account := consumePacket_accounts maxConsumeLen stillFilled
  refine ⟨bytes, account.bounded, fun ended => ?_⟩
  have last := account.bytes
  rw [account.ended ended, List.append_nil] at last
  rw [runCopied_concat, runPushed_concat, last, ← List.append_assoc, bytes,
    List.flatten_append]

/-- Packets of seven, no and three bytes among others, with a buffer of four bytes. -/
theorem bytes_conserved_small_buffer :
    ∃ b, init ⟨(List.range 9).map fun seq => ⟨1, 0, false, BitVec.ofNat 16 seq,
        List.replicate ([7, 0, 3].getD seq 1) (UInt8.ofNat seq)⟩, []⟩ .g711 ⟨8000, 1⟩ = .ok b ∧
      b.runCopied (List.replicate 9 4 ++ [4]) =
        (b.runPushed (List.replicate 9 4 ++ [4])).flatten ∧
      (b.runPushed (List.replicate 9 4 ++ [4])).map List.length = [7, 0, 3, 1, 1, 1, 1, 1, 1] := by
  obtain ⟨b, started, checked⟩ := exists_started
    ⟨(List.range 9).map fun seq => ⟨1, 0, false, BitVec.ofNat 16 seq,
      List.replicate ([7, 0, 3].getD seq 1) (UInt8.ofNat seq)⟩, []⟩ .g711 ⟨8000, 1⟩
    (fun b => decide (((b.afterRun (List.replicate 9 4)).consumePacket 4).result = none ∧
      (b.runPushed (List.replicate 9 4 ++ [4])).map List.length = [7, 0, 3, 1, 1, 1, 1, 1, 1]))
    (by decide +kernel)
  obtain ⟨ends, lengths⟩ := of_decide_eq_true checked
  exact ⟨b, started, (bytes_conserved _ _ _ b started _ 4).2.2 ends, lengths⟩

end RtpPacketBuffer

end Gmv.Stream
