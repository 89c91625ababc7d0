import Gmv.Library.UnitGate
import Gmv.Stream.Assembly
import Gmv.Stream.KeyframeSearch

/-!
# The key frame gate after a loss

When a loss makes the assembler drop received data of a raw video stream, the
next access unit that goes out should contain a key frame.  The gate keeps that
promise in every run without the calls that forget a drop.
-/

namespace Gmv.Stream

open Gmv.Library
open Gmv.Library.UnitAssembly

/-! ## Every access unit starts with a start code -/

theorem lastUnits_framed {out result : Bytes} (framed : out = [] ∨ startCode <+: out)
    (made : (if out.isEmpty then none else some out) = some result) : startCode <+: result := by
  cases out with
  | nil => cases made
  | cons head tail =>
      cases made
      exact framed.resolve_left (List.cons_ne_nil head tail)

theorem aggregatedUnits_framed (fuel : Nat) (data out result : Bytes)
    (framed : out = [] ∨ startCode <+: out)
    (made : aggregatedUnits fuel data out = some result) : startCode <+: result := by
  induction fuel generalizing data out with
  | zero => exact lastUnits_framed framed made
  | succ fuel ih =>
      rcases data with _ | ⟨high, _ | ⟨low, rest⟩⟩
      · exact lastUnits_framed framed made
      · exact lastUnits_framed framed made
      · unfold aggregatedUnits at made
        dsimp only at made
        split at made
        · cases made
        · refine ih _ _ (.inr ?_) made
          rcases framed with rfl | old
          · exact List.prefix_append ..
          · exact old.trans ((List.prefix_append ..).trans (List.prefix_append ..))

theorem depacketizeAggregation_framed {headerLen : Nat} {payload result : Bytes}
    (made : depacketizeAggregation headerLen payload = some result) : startCode <+: result := by
  unfold depacketizeAggregation at made
  split at made
  · cases made
  · exact aggregatedUnits_framed _ _ _ _ (.inl rfl) made

theorem wholeContribution_framed {data : Option Bytes}
    (framed : ∀ result, data = some result → startCode <+: result) :
    (wholeContribution data).Framed (startCode <+: ·) := by
  cases data with
  | none => trivial
  | some result => exact framed result rfl

theorem fragmentContribution_framed (newHeader : Bytes) (fuHeader : UInt8) (fragment : Bytes) :
    (fragmentContribution newHeader fuHeader fragment).Framed (startCode <+: ·) := by
  unfold fragmentContribution
  split
  · trivial
  · split
    · exact (List.prefix_append ..).trans (List.prefix_append ..)
    · split <;> trivial

theorem contribution_framed {kind : PayloadKind} (raw : AuAssembler.kindIsRawVideo kind = true)
    (payload : Bytes) : (contribution kind payload).Framed (startCode <+: ·) := by
  cases kind with
  | h264 =>
      change (h264Contribution payload).Framed _
      unfold h264Contribution
      split
      · trivial
      · split
        · exact List.prefix_append ..
        · split
          · exact wholeContribution_framed fun _ => depacketizeAggregation_framed
          · split
            · unfold h264FuContribution
              split
              · exact fragmentContribution_framed ..
              · trivial
            · trivial
  | h265 =>
      change (h265Contribution payload).Framed _
      unfold h265Contribution
      split
      · dsimp only
        split
        · trivial
        · split
          · trivial
          · split
            · trivial
            · split
              · exact List.prefix_append ..
              · split
                · exact wholeContribution_framed fun _ => depacketizeAggregation_framed
                · split
                  · unfold h265FuContribution
                    split
                    · exact fragmentContribution_framed ..
                    · trivial
                  · trivial
      · trivial
  | ps => cases raw
  | aac => cases raw
  | g711 => cases raw
  | passthrough => cases raw

namespace AuAssembler

/-! ## Calls that forget a drop -/

/-- Whether the payload of a call completes data, seen from the state before it. -/
def yields (a : AuAssembler) (call : RtpPacket × Bool) : Bool :=
  match a.payloadKind with
  | .h264 =>
      ((a.noteLoss call.1.timestamp call.2).depacketizeH264 call.1.payload).1.isSome
  | .h265 =>
      ((a.noteLoss call.1.timestamp call.2).depacketizeH265 call.1.payload).1.isSome
  | _ => true

/-- The call drops data that was already received: a buffered access unit or a
pending fragment. -/
def Discards (a : AuAssembler) (call : RtpPacket × Bool) : Prop :=
  call.2 = true ∧ (a.auBuffer ≠ [] ∨ a.h264Fu ≠ none ∨ a.h265Fu ≠ none)

instance (a : AuAssembler) (call : RtpPacket × Bool) : Decidable (a.Discards call) :=
  inferInstanceAs (Decidable (_ ∧ _))

/-- With the gate open, the call forgets a drop: a loss drops an access unit of
another timestamp, or one that ends without data; a second loss finds a damaged
access unit without data; or a damaged access unit without data ends. -/
def Forgets (a : AuAssembler) (call : RtpPacket × Bool) : Prop :=
  a.waitKeyframe = false ∧
    (call.2 = true ∧ a.auBuffer ≠ [] ∧
        (a.auTimestamp ≠ some call.1.timestamp ∨
          a.yields call = false ∧ call.1.marker = true) ∨
      call.2 = true ∧ a.auBuffer = [] ∧ a.auDamaged = true ∧ a.h264Fu = none ∧ a.h265Fu = none ∨
      call.2 = false ∧ a.auBuffer = [] ∧ a.auDamaged = true ∧
        (a.yields call = true ∧ a.auTimestamp ≠ some call.1.timestamp ∨
          a.yields call = false ∧ call.1.marker = true))

instance (a : AuAssembler) (call : RtpPacket × Bool) : Decidable (a.Forgets call) :=
  inferInstanceAs (Decidable (_ ∧ _))

section Views

variable {kind : PayloadKind} {a : AuAssembler} (tidy : Tidy kind a)

theorem view_fragment_eq_none_iff :
    a.view.fragment = none ↔ a.h264Fu = none ∧ a.h265Fu = none := by
  change (a.h264Fu <|> a.h265Fu) = none ↔ _
  cases a.h264Fu <;> simp

theorem noteLoss_fragments (timestamp : UInt32) (lostBefore : Bool) :
    (a.noteLoss timestamp lostBefore).h264Fu = (if lostBefore then none else a.h264Fu) ∧
      (a.noteLoss timestamp lostBefore).h265Fu = if lostBefore then none else a.h265Fu := by
  cases lostBefore with
  | false => exact ⟨rfl, rfl⟩
  | true =>
      change (a.markPacketLoss timestamp).h264Fu = none ∧ (a.markPacketLoss timestamp).h265Fu = none
      unfold markPacketLoss
      dsimp only
      split
      · exact ⟨rfl, rfl⟩
      · split <;> exact ⟨rfl, rfl⟩

include tidy in
theorem yields_view (raw : kindIsRawVideo kind = true) (call : RtpPacket × Bool) :
    a.view.yields (arrival kind call.1 call.2) = a.yields call := by
  obtain ⟨h264Fu, h265Fu⟩ := noteLoss_fragments (a := a) call.1.timestamp call.2
  unfold yields Assembly.yields
  rw [tidy.kindEq]
  cases kind with
  | h264 =>
      have pending : a.view.fragment = a.h264Fu := by
        simp [view, tidy.h265 (by decide)]
      simp only [depacketizeH264, depacketizeH264_eq, h264Fu, pending]
      rfl
  | h265 =>
      have pending : a.view.fragment = a.h265Fu := by
        simp [view, tidy.h264 (by decide)]
      simp only [depacketizeH265, depacketizeH265_eq, h265Fu, pending]
      rfl
  | ps => cases raw
  | aac => cases raw
  | g711 => cases raw
  | passthrough => cases raw

include tidy in
theorem forgets_view (raw : kindIsRawVideo kind = true) (call : RtpPacket × Bool) :
    a.view.Forgets (arrival kind call.1 call.2) ↔ a.Forgets call := by
  unfold Assembly.Forgets Forgets
  rw [yields_view tidy raw, view_fragment_eq_none_iff]
  rfl

theorem discards_view (call : RtpPacket × Bool) (discards : a.Discards call) :
    a.view.Discards (arrival kind call.1 call.2) := by
  refine ⟨discards.1, discards.2.imp_right fun pending gone => ?_⟩
  obtain ⟨noH264, noH265⟩ := view_fragment_eq_none_iff.mp gone
  rcases pending with h264 | h265
  · exact h264 noH264
  · exact h265 noH265

end Views

/-! ## Runs -/

/-- What every state of a raw video run satisfies. -/
structure Video (kind : PayloadKind) (a : AuAssembler) : Prop where
  tidy : Tidy kind a
  framed : a.view.Framed (startCode <+: ·)

theorem startCode_grows (first second : Bytes) (framed : startCode <+: first) :
    startCode <+: first ++ second :=
  framed.trans (List.prefix_append ..)

section Runs

variable {kind : PayloadKind} (raw : kindIsRawVideo kind = true)

theorem Video.new (kind : PayloadKind) (aacAdts : AacAdtsConfig) :
    Video kind (AuAssembler.new kind aacAdts) :=
  ⟨new_tidy kind aacAdts, ⟨by simp [view, AuAssembler.new], .inl rfl,
    by simp [view, AuAssembler.new]⟩⟩

include raw

theorem Video.processPacket {a : AuAssembler} (video : Video kind a) (pkt : RtpPacket)
    (lostBefore : Bool) : Video kind (a.processPacket pkt lostBefore) := by
  obtain ⟨stepped, tidy⟩ := processPacket_view video.tidy (assembles_of_raw raw) pkt lostBefore
  refine ⟨tidy, ?_⟩
  rw [stepped]
  exact video.framed.step startCode_grows _ _ (contribution_framed raw pkt.payload)

theorem Video.processAll {a : AuAssembler} (video : Video kind a)
    (calls : List (RtpPacket × Bool)) : Video kind (a.processAll calls) :=
  Runs.invariant_final (Video kind) (fun _ _ => True)
    (fun _ call inv _ => inv.processPacket raw call.1 call.2) video (fun _ _ => trivial)

theorem processAll_grows {a : AuAssembler} (video : Video kind a)
    (calls : List (RtpPacket × Bool)) : a.readyAus <+: (a.processAll calls).readyAus := by
  induction calls generalizing a with
  | nil => exact List.prefix_rfl
  | cons call rest ih =>
      refine List.IsPrefix.trans ?_ (ih (video.processPacket raw call.1 call.2))
      obtain ⟨stepped, -⟩ :=
        processPacket_view video.tidy (assembles_of_raw raw) call.1 call.2
      have grown := a.view.step_grows (kindIsRawVideo kind) (accessUnitHasKeyframe kind)
        (arrival kind call.1 call.2)
      rw [← stepped] at grown
      exact grown

/-- The step lemma. -/
theorem processPacket_gated {a : AuAssembler} (video : Video kind a) {call : RtpPacket × Bool}
    (start : a.view.Owes ∨ a.Discards call) (kept : ¬ a.Forgets call) :
    Assembly.Gated (accessUnitHasKeyframe kind) a.view
      (a.processPacket call.1 call.2).view := by
  obtain ⟨stepped, -⟩ := processPacket_view video.tidy (assembles_of_raw raw) call.1 call.2
  rw [stepped, raw]
  refine Assembly.step_gated (start.imp_right (discards_view call))
    (mt (forgets_view video.tidy raw call).mp kept) fun data made => ?_
  have framed := (video.framed.noteLoss true call.1.timestamp call.2).resume
    startCode_grows (contribution_framed raw call.1.payload) (.inl made)
  rintro rfl
  exact absurd (List.prefix_nil.mp framed) (by decide)

/-- The run lemma. -/
theorem processAll_gated {a : AuAssembler} (video : Video kind a) (owes : a.view.Owes)
    {calls : List (RtpPacket × Bool)}
    (kept : ∀ entry ∈ Runs.run processCall a calls, ¬ entry.before.Forgets entry.action) :
    Assembly.Gated (accessUnitHasKeyframe kind) a.view (a.processAll calls).view := by
  induction calls generalizing a with
  | nil => exact .inl ⟨rfl, owes⟩
  | cons call rest ih =>
      have next := video.processPacket raw call.1 call.2
      have here := processPacket_gated raw video (.inl owes) (kept _ (List.mem_cons_self ..))
      exact here.of_prefix (processAll_grows raw next rest) fun still =>
        ih next still fun entry member => kept entry (List.mem_cons_of_mem _ member)

omit raw

/-- In every raw video run without a call that forgets a drop, every access unit
that goes out after a drop contains a key frame or follows one that does. -/
theorem keyframe_first_after_discard (aacAdts : AacAdtsConfig)
    (raw : kindIsRawVideo kind = true) (before after : List (RtpPacket × Bool))
    (call : RtpPacket × Bool)
    (kept : ∀ entry ∈ Runs.run processCall (AuAssembler.new kind aacAdts)
      (before ++ call :: after), ¬ entry.before.Forgets entry.action)
    (discards : ((AuAssembler.new kind aacAdts).processAll before).Discards call) :
    ∃ pushed : List Bytes,
      ((AuAssembler.new kind aacAdts).processAll (before ++ call :: after)).readyAus =
          ((AuAssembler.new kind aacAdts).processAll before).readyAus ++ pushed ∧
        ∀ (i : Nat) (unit : Bytes), pushed[i]? = some unit →
          ∃ (j : Nat) (key : Bytes), j ≤ i ∧ pushed[j]? = some key ∧
            ContainsKeyframe kind key := by
  have video := (Video.new kind aacAdts).processAll raw before
  rw [Runs.run_append] at kept
  have split : (AuAssembler.new kind aacAdts).processAll (before ++ call :: after) =
      (((AuAssembler.new kind aacAdts).processAll before).processPacket call.1 call.2).processAll
        after := Runs.final_append ..
  change ∀ entry ∈ _ ++ Runs.run processCall ((AuAssembler.new kind aacAdts).processAll before)
    (call :: after), _ at kept
  rw [split]
  generalize (AuAssembler.new kind aacAdts).processAll before = a at *
  have next := video.processPacket raw call.1 call.2
  have gate : Assembly.Gated (accessUnitHasKeyframe kind) a.view
      ((a.processPacket call.1 call.2).processAll after).view := by
    have here := processPacket_gated raw video (.inr discards)
      (kept (Runs.transition processCall a call)
        (List.mem_append_right _ (List.mem_cons_self ..)))
    exact here.of_prefix (processAll_grows raw next after) fun owes =>
      processAll_gated raw next owes fun entry member =>
        kept entry (List.mem_append_right _ (List.mem_cons_of_mem _ member))
  rcases gate with ⟨same, -⟩ | ⟨first, rest, pushed, key⟩
  · exact ⟨[], same.trans (List.append_nil _).symm, by simp⟩
  · refine ⟨first :: rest, pushed, fun i unit _ => ⟨0, first, Nat.zero_le i, rfl, ?_⟩⟩
    have framed := (next.processAll raw after).framed.ready first (by rw [pushed]; simp)
    exact containsKeyframe_of_search framed key

end Runs

/-- A loss inside the second access unit closes the gate until the key frame. -/
theorem keyframe_first_after_discard_inside :
    let before := [(videoPacket 1 true [0x65, 7], false), (videoPacket 2 false [0x41, 8], false)]
    let call := (videoPacket 2 true [0x41, 9], true)
    let after := [(videoPacket 3 true [0x41, 10], false), (videoPacket 4 true [0x65, 11], false)]
    ∃ pushed : List Bytes,
      ((AuAssembler.new .h264 ⟨0, 0⟩).processAll (before ++ call :: after)).readyAus =
          ((AuAssembler.new .h264 ⟨0, 0⟩).processAll before).readyAus ++ pushed ∧
        ∀ (i : Nat) (unit : Bytes), pushed[i]? = some unit →
          ∃ (j : Nat) (key : Bytes), j ≤ i ∧ pushed[j]? = some key ∧
            ContainsKeyframe .h264 key := by
  intro before call after
  exact keyframe_first_after_discard ⟨0, 0⟩ rfl before after call (by decide +kernel)
    (by decide +kernel)

/-- A loss drops the buffered access unit of another timestamp without closing
the gate, and the next access unit goes out without a key frame. -/
theorem dropped_unit_leaves_gate_open :
    let before := [(videoPacket 1 true [0x65, 7], false), (videoPacket 2 false [0x41, 8], false)]
    let call := (videoPacket 3 true [0x41, 9], true)
    ((AuAssembler.new .h264 ⟨0, 0⟩).processAll before).Discards call ∧
      ((AuAssembler.new .h264 ⟨0, 0⟩).processAll (before ++ [call])).readyAus =
        ((AuAssembler.new .h264 ⟨0, 0⟩).processAll before).readyAus ++
          [[0, 0, 0, 1, 0x41, 9]] ∧
      ¬ ContainsKeyframe .h264 [0, 0, 0, 1, 0x41, 9] := by
  refine ⟨by decide +kernel, by decide +kernel, ?_⟩
  rintro ⟨before, header, after, same, key⟩
  rcases before with _ | ⟨first, _ | ⟨second, _ | ⟨third, more⟩⟩⟩
  · simp at same
  · simp only [List.cons_append, List.nil_append, List.cons.injEq] at same
    rw [← same.2.2.2.2.1] at key
    cases key
  · simp at same
  · have long := congrArg List.length same
    simp only [List.length_cons, List.length_append, List.length_nil] at long
    omega

end AuAssembler

end Gmv.Stream
