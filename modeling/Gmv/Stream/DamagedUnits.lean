import Gmv.Stream.Assembly

/-!
# Damaged access units stay out of the output

Consecutive packets form groups: a group ends at a marker or before a packet
with another timestamp.  A group is damaged when one of its packets other than
the first follows a loss.  To say which group a byte of the output belongs to,
the assembler runs next to a copy whose bytes carry the number of their group;
forgetting the numbers gives back the assembler.
-/

namespace Gmv.Stream

open Gmv.Library
open Gmv.Library.UnitAssembly

/-! ## Groups of packets -/

structure Groups where
  number : Nat
  /-- The timestamp that continues the group, unless a marker ended it. -/
  current : Option UInt32
  damaged : Bool

namespace Groups

def start : Groups := ⟨0, none, false⟩

/-- Whether a packet with this timestamp belongs to the group of the packet
before it. -/
def continues (g : Groups) (timestamp : UInt32) : Bool := g.current == some timestamp

def next (g : Groups) (pkt : RtpPacket) (lostBefore : Bool) : Groups where
  number := if g.continues pkt.timestamp then g.number else g.number + 1
  current := if pkt.marker then none else some pkt.timestamp
  damaged := g.continues pkt.timestamp && (g.damaged || lostBefore)

end Groups

/-- A byte with the number of the group that it was received in. -/
abbrev Labelled := UInt8 × Nat

/-- The assembler, the groups of its packets, the copy with labelled bytes and
the numbers of the damaged groups. -/
structure Tracked where
  assembler : AuAssembler
  groups : Groups
  labelled : Assembly UInt32 Labelled
  lossy : List Nat

namespace Tracked

open AuAssembler

def start (kind : PayloadKind) (aacAdts : AacAdtsConfig) : Tracked where
  assembler := AuAssembler.new kind aacAdts
  groups := Groups.start
  labelled := ⟨[], [], none, false, kindIsRawVideo kind, none⟩
  lossy := []

/-- The arrival of a packet with every byte labelled. -/
def labelledArrival (kind : PayloadKind) (number : Nat) (call : RtpPacket × Bool) :
    Arrival UInt32 Labelled :=
  (arrival kind call.1 call.2).map fun byte => (byte, number)

def track (kind : PayloadKind) (t : Tracked) (call : RtpPacket × Bool) : Unit × Tracked :=
  let groups := t.groups.next call.1 call.2
  ((),
    { assembler := t.assembler.processPacket call.1 call.2
      groups := groups
      labelled := t.labelled.step (kindIsRawVideo kind)
        (accessUnitHasKeyframe kind ∘ List.map Prod.fst) (labelledArrival kind groups.number call)
      lossy := if groups.damaged then groups.number :: t.lossy else t.lossy })

/-- The labelled copy is the assembler with labels. -/
structure Erases (kind : PayloadKind) (t : Tracked) : Prop where
  tidy : Tidy kind t.assembler
  same : t.assembler.view = t.labelled.map Prod.fst

theorem Erases.start (kind : PayloadKind) (aacAdts : AacAdtsConfig) :
    Erases kind (Tracked.start kind aacAdts) := ⟨new_tidy kind aacAdts, rfl⟩

theorem Erases.track {kind : PayloadKind} (assembled : assembles kind = true) {t : Tracked}
    (erases : Erases kind t) (call : RtpPacket × Bool) : Erases kind (t.track kind call).2 := by
  obtain ⟨stepped, tidy⟩ := processPacket_view erases.tidy assembled call.1 call.2
  refine ⟨tidy, ?_⟩
  have forgotten (number : Nat) :
      (labelledArrival kind number call).map Prod.fst = arrival kind call.1 call.2 := by
    simp only [labelledArrival, Arrival.map, Contribution.map_map]
    rw [show (Prod.fst ∘ fun byte : UInt8 => (byte, number)) = id from rfl, Contribution.map_id]
  change (t.assembler.processPacket call.1 call.2).view = Assembly.map Prod.fst
    (t.labelled.step _ _ (labelledArrival kind _ call))
  rw [← Assembly.step_map, forgotten, stepped, erases.same]

/-! ## The invariant -/

/-- Between two packets, no byte of a damaged group is ready, and a unit that
holds one is flagged. -/
structure Sealed (t : Tracked) : Prop where
  lossyIff : t.groups.number ∈ t.lossy ↔ t.groups.damaged = true
  lossyLe : ∀ number ∈ t.lossy, number ≤ t.groups.number
  ready : ∀ unit ∈ t.labelled.ready, ∀ byte ∈ unit, byte.2 ∉ t.lossy ∧
    (byte.2 < t.groups.number ∨ t.groups.current = none ∧ byte.2 = t.groups.number)
  unit : ∀ byte ∈ t.labelled.unit, byte.2 ≤ t.groups.number ∧
    (byte.2 ∈ t.lossy → t.labelled.damaged = true) ∧
    (byte.2 = t.groups.number → t.labelled.stamp = t.groups.current)
  stamped : t.labelled.stamp = none → t.labelled.unit = []
  damaged : t.groups.damaged = true → ∀ timestamp, t.groups.current = some timestamp →
    t.labelled.damaged = true ∧ t.labelled.stamp = some timestamp
  fragment : ∀ data, t.labelled.fragment = some data → ∀ byte ∈ data,
    byte.2 ≤ t.groups.number ∧ (byte.2 ∈ t.lossy → byte.2 = t.groups.number)

/-- While a packet of group `number` with this timestamp is processed. -/
structure Receiving (number : Nat) (damagedGroup : Bool) (timestamp : UInt32)
    (lossy : List Nat) (s : Assembly UInt32 Labelled) : Prop where
  lossyIff : number ∈ lossy ↔ damagedGroup = true
  ready : ∀ unit ∈ s.ready, ∀ byte ∈ unit, byte.2 ∉ lossy ∧ byte.2 < number
  unit : ∀ byte ∈ s.unit, byte.2 ≤ number ∧ (byte.2 ∈ lossy → s.damaged = true) ∧
    (byte.2 = number → s.stamp = some timestamp)
  stamped : s.stamp = none → s.unit = []
  damaged : damagedGroup = true → s.damaged = true ∧ s.stamp = some timestamp
  fragment : ∀ data, s.fragment = some data → ∀ byte ∈ data,
    byte.2 ≤ number ∧ (byte.2 ∈ lossy → byte.2 = number)

/-- The assembler notices the damage: a loss inside a group finds data of that
timestamp buffered, and no fragment is carried from a damaged group into the
next one. -/
def Recorded (t : Tracked) (call : RtpPacket × Bool) : Prop :=
  (call.2 = true → t.groups.continues call.1.timestamp = true →
    t.assembler.auBuffer ≠ [] ∧ t.assembler.auTimestamp = some call.1.timestamp) ∧
  (call.2 = false → t.groups.continues call.1.timestamp = false → t.groups.damaged = true →
    t.assembler.h264Fu = none ∧ t.assembler.h265Fu = none)

instance (t : Tracked) (call : RtpPacket × Bool) : Decidable (t.Recorded call) :=
  inferInstanceAs (Decidable (_ ∧ _))

/-! ## One packet -/

variable {kind : PayloadKind} {t : Tracked}

theorem mem_lossy_next (groups : Groups) (lossy : List Nat) (number : Nat) :
    number ∈ (if groups.damaged then groups.number :: lossy else lossy) ↔
      groups.damaged = true ∧ number = groups.number ∨ number ∈ lossy := by
  cases damaged : groups.damaged with
  | true => simp
  | false => simp

/-- A packet that continues a group keeps its number. -/
theorem next_of_continues {g : Groups} {pkt : RtpPacket}
    (same : g.continues pkt.timestamp = true) (lostBefore : Bool) :
    (g.next pkt lostBefore).number = g.number ∧ g.current = some pkt.timestamp ∧
      (g.next pkt lostBefore).damaged = (g.damaged || lostBefore) := by
  simp only [Groups.next, same, if_true, Bool.true_and, and_true, true_and]
  simpa [Groups.continues] using same

/-- A packet that opens a group has the next number. -/
theorem next_of_opens {g : Groups} {pkt : RtpPacket}
    (other : g.continues pkt.timestamp = false) (lostBefore : Bool) :
    (g.next pkt lostBefore).number = g.number + 1 ∧
      (g.next pkt lostBefore).damaged = false := by
  simp [Groups.next, other]

/-- The part of the invariant that a loss does not touch. -/
theorem Sealed.ready_next (inv : Sealed t) (call : RtpPacket × Bool) :
    ∀ unit ∈ t.labelled.ready, ∀ byte ∈ unit,
      byte.2 ∉ (t.track kind call).2.lossy ∧ byte.2 < (t.groups.next call.1 call.2).number := by
  intro unit member byte inside
  obtain ⟨clean, place⟩ := inv.ready unit member byte inside
  have below : byte.2 < (t.groups.next call.1 call.2).number := by
    cases same : t.groups.continues call.1.timestamp with
    | true =>
        obtain ⟨number, current, -⟩ := next_of_continues same call.2
        rcases place with before | ⟨closed, -⟩
        · omega
        · rw [closed] at current; cases current
    | false =>
        obtain ⟨number, -⟩ := next_of_opens same call.2
        rcases place with before | ⟨-, last⟩ <;> omega
  refine ⟨?_, below⟩
  intro inLossy
  rcases (mem_lossy_next ..).mp inLossy with ⟨-, here⟩ | old
  · omega
  · exact clean old

theorem Sealed.lossyIff_next (inv : Sealed t) (call : RtpPacket × Bool) :
    (t.groups.next call.1 call.2).number ∈ (t.track kind call).2.lossy ↔
      (t.groups.next call.1 call.2).damaged = true := by
  refine (mem_lossy_next ..).trans ?_
  cases same : t.groups.continues call.1.timestamp with
  | true =>
      obtain ⟨number, -, damaged⟩ := next_of_continues same call.2
      rw [number, damaged, inv.lossyIff]
      cases t.groups.damaged <;> simp
  | false =>
      obtain ⟨number, damaged⟩ := next_of_opens same call.2
      rw [number, damaged]
      have fresh : t.groups.number + 1 ∉ t.lossy := fun old => by
        have bound := inv.lossyLe _ old
        omega
      simp [fresh]

/-- A packet without a loss before it, given that no fragment crosses from a
damaged group. -/
theorem Sealed.receiving_intact (inv : Sealed t) (erases : Erases kind t)
    {call : RtpPacket × Bool} (recorded : t.Recorded call) (intact : call.2 = false) :
    Receiving (t.groups.next call.1 call.2).number (t.groups.next call.1 call.2).damaged
      call.1.timestamp (t.track kind call).2.lossy t.labelled := by
  refine ⟨inv.lossyIff_next call, inv.ready_next call, ?_, inv.stamped, ?_, ?_⟩
  · intro byte member
    obtain ⟨bound, flagged, placed⟩ := inv.unit byte member
    cases same : t.groups.continues call.1.timestamp with
    | true =>
        obtain ⟨number, current, damaged⟩ := next_of_continues same call.2
        rw [number, ← current]
        refine ⟨bound, ?_, placed⟩
        intro inLossy
        rcases (mem_lossy_next ..).mp inLossy with ⟨here, last⟩ | old
        · rw [damaged, intact, Bool.or_false] at here
          exact (inv.damaged here _ current).1
        · exact flagged old
    | false =>
        obtain ⟨number, damaged⟩ := next_of_opens same call.2
        rw [number]
        refine ⟨by omega, ?_, fun last => by omega⟩
        intro inLossy
        rcases (mem_lossy_next ..).mp inLossy with ⟨here, -⟩ | old
        · rw [damaged] at here; cases here
        · exact flagged old
  · intro damagedGroup
    cases same : t.groups.continues call.1.timestamp with
    | true =>
        obtain ⟨-, current, damaged⟩ := next_of_continues same call.2
        rw [damaged, intact, Bool.or_false] at damagedGroup
        exact inv.damaged damagedGroup _ current
    | false =>
        rw [(next_of_opens same call.2).2] at damagedGroup
        cases damagedGroup
  · intro data held byte member
    obtain ⟨bound, last⟩ := inv.fragment data held byte member
    cases same : t.groups.continues call.1.timestamp with
    | true =>
        obtain ⟨number, -, -⟩ := next_of_continues same call.2
        rw [number]
        refine ⟨bound, ?_⟩
        intro inLossy
        rcases (mem_lossy_next ..).mp inLossy with ⟨-, here⟩ | old
        · exact here.trans number
        · exact last old
    | false =>
        obtain ⟨number, damaged⟩ := next_of_opens same call.2
        rw [number]
        refine ⟨by omega, ?_⟩
        intro inLossy
        rcases (mem_lossy_next ..).mp inLossy with ⟨here, -⟩ | old
        · rw [damaged] at here; cases here
        · have lastDamaged := inv.lossyIff.mp (last old ▸ old)
          obtain ⟨noH264, noH265⟩ := recorded.2 intact same lastDamaged
          have sameFragment : (t.assembler.h264Fu <|> t.assembler.h265Fu) =
              t.labelled.fragment.map (List.map Prod.fst) :=
            congrArg Assembly.fragment erases.same
          rw [noH264, noH265, held] at sameFragment
          cases sameFragment

/-- A packet after a loss, given that a loss inside a group finds its data. -/
theorem Sealed.receiving_lost (inv : Sealed t) (erases : Erases kind t)
    {call : RtpPacket × Bool} (recorded : t.Recorded call) (lost : call.2 = true) :
    Receiving (t.groups.next call.1 call.2).number (t.groups.next call.1 call.2).damaged
      call.1.timestamp (t.track kind call).2.lossy
      (t.labelled.lose (kindIsRawVideo kind) call.1.timestamp) := by
  obtain ⟨sameReady, noUnit, noFragment, outcome⟩ :=
    t.labelled.lose_cases (kindIsRawVideo kind) call.1.timestamp
  refine ⟨inv.lossyIff_next call, ?_, ?_, fun _ => noUnit, ?_, ?_⟩
  · rw [sameReady]
    exact inv.ready_next call
  · rw [noUnit]
    intro byte member
    cases member
  · intro damagedGroup
    cases same : t.groups.continues call.1.timestamp with
    | false =>
        rw [(next_of_opens same call.2).2] at damagedGroup
        cases damagedGroup
    | true =>
        obtain ⟨buffered, stamp⟩ := recorded.1 lost same
        have sameUnit : t.assembler.auBuffer = t.labelled.unit.map Prod.fst :=
          congrArg Assembly.unit erases.same
        have sameStamp : t.assembler.auTimestamp = t.labelled.stamp :=
          congrArg Assembly.stamp erases.same
        rw [sameUnit] at buffered
        rw [sameStamp] at stamp
        rcases outcome with ⟨empty, -⟩ | ⟨-, ⟨other, held, different⟩, -⟩ |
          ⟨-, -, stampAfter, flagged, -⟩
        · rw [empty] at buffered; exact absurd rfl buffered
        · rw [held] at stamp; cases stamp; exact absurd rfl different
        · exact ⟨flagged, stampAfter⟩
  · rw [noFragment]
    intro data held
    cases held

namespace Receiving

variable {number : Nat} {damagedGroup : Bool} {timestamp : UInt32} {lossy : List Nat}
  (gated : Bool) (isKey : List Labelled → Bool) {s : Assembly UInt32 Labelled}

/-- Ending the unit of another timestamp puts out closed undamaged groups only. -/
theorem turnTo (inv : Receiving number damagedGroup timestamp lossy s) :
    Receiving number damagedGroup timestamp lossy (s.turnTo gated isKey timestamp) := by
  rcases s.turnTo_cases gated isKey timestamp with
    ⟨⟨other, stamp, different⟩, turned⟩ | ⟨-, turned⟩
  · have elsewhere : s.stamp ≠ some timestamp := by
      rw [stamp]
      intro same
      cases same
      exact different rfl
    rw [turned]
    refine ⟨inv.lossyIff, ?_, by simp, by simp, ?_, by simpa using inv.fragment⟩
    · intro unit member byte inside
      rcases s.finish_ready gated isKey member with old | ⟨rfl, intact⟩
      · exact inv.ready unit old byte inside
      · obtain ⟨bound, flagged, placed⟩ := inv.unit byte inside
        refine ⟨fun inLossy => ?_, ?_⟩
        · rw [flagged inLossy] at intact; cases intact
        · exact Nat.lt_of_le_of_ne bound fun last => elsewhere (placed last)
    · intro damaged
      exact absurd (inv.damaged damaged).2 elsewhere
  · rw [turned]
    exact inv

theorem receive (inv : Receiving number damagedGroup timestamp lossy s)
    {content : Contribution Labelled} (fresh : ∀ byte ∈ content.data, byte.2 = number) :
    Receiving number damagedGroup timestamp lossy
      (s.receive gated isKey timestamp content) := by
  have made : ∀ out, (content.resume s.fragment).1 = some out ∨
      (content.resume s.fragment).2 = some out → ∀ byte ∈ out,
        byte.2 ≤ number ∧ (byte.2 ∈ lossy → byte.2 = number) := by
    intro out cameOut byte member
    rcases Contribution.resume_mem cameOut member with ⟨old, held, inOld⟩ | new
    · exact inv.fragment old held byte inOld
    · exact ⟨Nat.le_of_eq (fresh byte new), fun _ => fresh byte new⟩
  have moved : Receiving number damagedGroup timestamp lossy
      (s.withFragment (content.resume s.fragment).2) :=
    ⟨inv.lossyIff, inv.ready, inv.unit, inv.stamped, inv.damaged,
      fun data held => made data (.inr held)⟩
  rcases s.receive_cases gated isKey timestamp content with
    ⟨-, outcome⟩ | ⟨data, finished, outcome⟩
  · rw [outcome]
    exact moved
  · have turned := moved.turnTo gated isKey
    have stamp := Assembly.extend_stamp gated isKey
      (s.withFragment (content.resume s.fragment).2) timestamp data
    rw [outcome]
    refine ⟨inv.lossyIff, turned.ready, ?_, ?_, ?_, turned.fragment⟩
    · intro byte member
      rcases List.mem_append.mp member with old | new
      · obtain ⟨bound, flagged, -⟩ := turned.unit byte old
        exact ⟨bound, flagged, fun _ => stamp⟩
      · obtain ⟨bound, last⟩ := made data (.inl finished) byte new
        refine ⟨bound, fun inLossy => ?_, fun _ => stamp⟩
        exact (turned.damaged (inv.lossyIff.mp (last inLossy ▸ inLossy))).1
    · intro none
      rw [stamp] at none
      cases none
    · intro damaged
      exact ⟨(turned.damaged damaged).1, stamp⟩

/-- After the packet, a marker has ended the group. -/
theorem sealed (inv : Receiving t.groups.number t.groups.damaged timestamp t.lossy s)
    (lossyLe : ∀ number ∈ t.lossy, number ≤ t.groups.number) {marker : Bool}
    (current : t.groups.current = if marker then none else some timestamp)
    (ended : t.labelled = s.endIf gated isKey marker) : Sealed t := by
  cases marker with
  | false =>
      have same : t.labelled = s := ended
      have stillOpen : t.groups.current = some timestamp := current
      refine ⟨inv.lossyIff, lossyLe, ?_, ?_, ?_, ?_, ?_⟩
      · rw [same]
        intro unit member byte inside
        exact (inv.ready unit member byte inside).imp_right Or.inl
      · rw [same, stillOpen]
        exact inv.unit
      · rw [same]
        exact inv.stamped
      · rw [same, stillOpen]
        intro damaged other sameStamp
        cases sameStamp
        exact inv.damaged damaged
      · rw [same]
        exact inv.fragment
  | true =>
      have same : t.labelled = s.finish gated isKey := ended
      have closed : t.groups.current = none := current
      refine ⟨inv.lossyIff, lossyLe, ?_, ?_, ?_, ?_, ?_⟩
      · rw [same]
        intro unit member byte inside
        rcases s.finish_ready gated isKey member with old | ⟨rfl, intact⟩
        · exact (inv.ready unit old byte inside).imp_right Or.inl
        · obtain ⟨bound, flagged, -⟩ := inv.unit byte inside
          refine ⟨fun inLossy => ?_, ?_⟩
          · rw [flagged inLossy] at intact; cases intact
          · exact (Nat.lt_or_eq_of_le bound).imp_right fun last => ⟨closed, last⟩
      · rw [same, Assembly.finish_unit]
        intro byte member
        cases member
      · rw [same]
        exact fun _ => Assembly.finish_unit gated isKey s
      · rw [closed]
        intro damaged other wrong
        cases wrong
      · rw [same, Assembly.finish_fragment]
        exact inv.fragment

end Receiving

/-- The step lemma. -/
theorem Sealed.track (inv : Sealed t) (erases : Erases kind t) {call : RtpPacket × Bool}
    (recorded : t.Recorded call) : Sealed (t.track kind call).2 := by
  have noted : Receiving (t.groups.next call.1 call.2).number
      (t.groups.next call.1 call.2).damaged call.1.timestamp (t.track kind call).2.lossy
      (t.labelled.noteLoss (kindIsRawVideo kind) call.1.timestamp call.2) := by
    unfold Assembly.noteLoss
    split
    · next lost => exact inv.receiving_lost erases recorded lost
    · next intact => exact inv.receiving_intact erases recorded (by simpa using intact)
  have fresh : ∀ byte ∈ (labelledArrival kind (t.groups.next call.1 call.2).number
      call).content.data, byte.2 = (t.groups.next call.1 call.2).number := by
    intro byte member
    rw [labelledArrival, Arrival.map, Contribution.data_map] at member
    obtain ⟨plain, -, rfl⟩ := List.mem_map.mp member
    rfl
  have received := noted.receive (kindIsRawVideo kind)
    (accessUnitHasKeyframe kind ∘ List.map Prod.fst) fresh
  have lossyLe : ∀ number ∈ (t.track kind call).2.lossy,
      number ≤ (t.groups.next call.1 call.2).number := by
    intro number member
    have grows : t.groups.number ≤ (t.groups.next call.1 call.2).number := by
      simp only [Groups.next]
      split <;> omega
    rcases (mem_lossy_next ..).mp member with ⟨-, here⟩ | old
    · omega
    · have bound := inv.lossyLe number old
      omega
  exact received.sealed _ _ lossyLe rfl rfl

/-! ## Whole runs -/

theorem Sealed.start (kind : PayloadKind) (aacAdts : AacAdtsConfig) :
    Sealed (Tracked.start kind aacAdts) where
  lossyIff := by simp [Tracked.start, Groups.start]
  lossyLe := by simp [Tracked.start]
  ready := by simp [Tracked.start]
  unit := by simp [Tracked.start]
  stamped := by simp [Tracked.start]
  damaged := by simp [Tracked.start, Groups.start]
  fragment := by simp [Tracked.start]

/-- For the kinds without fragments, every packet of an unfinished group is
buffered. -/
structure Direct (t : Tracked) : Prop where
  buffered : ∀ timestamp, t.groups.current = some timestamp →
    t.labelled.unit ≠ [] ∧ t.labelled.stamp = some timestamp

theorem Direct.track (direct : kindIsRawVideo kind = false) (call : RtpPacket × Bool)
    (nonempty : call.1.payload ≠ []) : Direct (t.track kind call).2 := by
  let number := (t.groups.next call.1 call.2).number
  have whole : contribution kind call.1.payload = .whole call.1.payload := by
    cases kind with
    | h264 => cases direct
    | h265 => cases direct
    | _ => rfl
  refine ⟨fun timestamp current => ?_⟩
  change (if call.1.marker then none else some call.1.timestamp) = some timestamp at current
  cases marker : call.1.marker with
  | true => rw [marker] at current; cases current
  | false =>
      rw [marker] at current
      cases current
      let noted := t.labelled.noteLoss (kindIsRawVideo kind) call.1.timestamp call.2
      let labels := call.1.payload.map fun byte => (byte, number)
      have after : (t.track kind call).2.labelled =
          (noted.withFragment noted.fragment).extend (kindIsRawVideo kind)
            (accessUnitHasKeyframe kind ∘ List.map Prod.fst) call.1.timestamp labels := by
        simp only [Tracked.track, Assembly.step, labelledArrival, Arrival.map, arrival, whole,
          marker]
        rfl
      rw [after]
      refine ⟨?_, Assembly.extend_stamp ..⟩
      intro empty
      obtain ⟨-, noLabels⟩ := List.append_eq_nil_iff.mp empty
      exact nonempty (List.map_eq_nil_iff.mp noLabels)

theorem Direct.recorded (direct : kindIsRawVideo kind = false) (erases : Erases kind t)
    (inv : Direct t) (call : RtpPacket × Bool) : t.Recorded call := by
  refine ⟨fun _ same => ?_, fun _ _ _ => ⟨erases.tidy.h264 ?_, erases.tidy.h265 ?_⟩⟩
  · obtain ⟨buffered, stamp⟩ := inv.buffered _ (next_of_continues same call.2).2.1
    have sameUnit : t.assembler.auBuffer = t.labelled.unit.map Prod.fst :=
      congrArg Assembly.unit erases.same
    have sameStamp : t.assembler.auTimestamp = t.labelled.stamp :=
      congrArg Assembly.stamp erases.same
    rw [sameUnit, sameStamp]
    exact ⟨fun empty => buffered (List.map_eq_nil_iff.mp empty), stamp⟩
  · rintro rfl; cases direct
  · rintro rfl; cases direct

/-- Every packet of a kind without fragments records the damage. -/
theorem recorded_of_direct (assembled : assembles kind = true)
    (direct : kindIsRawVideo kind = false) (aacAdts : AacAdtsConfig)
    (calls : List (RtpPacket × Bool)) (nonempty : ∀ call ∈ calls, call.1.payload ≠ []) :
    ∀ entry ∈ Runs.run (track kind) (start kind aacAdts) calls,
      entry.before.Recorded entry.action := by
  intro entry member
  obtain ⟨⟨erases, inv⟩, -⟩ := Runs.invariant_run (fun t => Erases kind t ∧ Direct t)
    (fun _ call => call.1.payload ≠ [])
    (fun _ call inv full => ⟨inv.1.track assembled call, Direct.track direct call full⟩)
    ⟨Erases.start kind aacAdts, ⟨fun _ wrong => by cases wrong⟩⟩
    (fun entry member => nonempty _ (Runs.action_mem member)) entry member
  exact inv.recorded direct erases entry.action

theorem final_assembler (kind : PayloadKind) (t : Tracked) (calls : List (RtpPacket × Bool)) :
    (Runs.final (track kind) t calls).assembler = t.assembler.processAll calls := by
  induction calls generalizing t with
  | nil => rfl
  | cons call rest ih => exact ih (t.track kind call).2

/-- The run lemma: in every run in which the assembler notices the damage, which
it always does for the kinds without fragments, the output holds no byte of a
damaged group. -/
theorem damaged_groups_stay_out (kind : PayloadKind) (aacAdts : AacAdtsConfig)
    (calls : List (RtpPacket × Bool)) (assembled : assembles kind = true)
    (nonempty : ∀ call ∈ calls, call.1.payload ≠ [])
    (recorded : kindIsRawVideo kind = true →
      ∀ entry ∈ Runs.run (track kind) (start kind aacAdts) calls,
        entry.before.Recorded entry.action) :
    (Runs.final (track kind) (start kind aacAdts) calls).labelled.ready.map
        (List.map Prod.fst) = ((AuAssembler.new kind aacAdts).processAll calls).readyAus ∧
      ∀ unit ∈ (Runs.final (track kind) (start kind aacAdts) calls).labelled.ready,
        ∀ byte ∈ unit, byte.2 ∉ (Runs.final (track kind) (start kind aacAdts) calls).lossy := by
  have noticed : ∀ entry ∈ Runs.run (track kind) (start kind aacAdts) calls,
      entry.before.Recorded entry.action := by
    cases raw : kindIsRawVideo kind with
    | true => exact recorded raw
    | false => exact recorded_of_direct assembled raw aacAdts calls nonempty
  obtain ⟨erases, inv⟩ := Runs.invariant_final (fun t => Erases kind t ∧ Sealed t) Recorded
    (fun _ call inv noted => ⟨inv.1.track assembled call, inv.2.track inv.1 noted⟩)
    ⟨Erases.start kind aacAdts, Sealed.start kind aacAdts⟩ noticed
  refine ⟨?_, fun unit member byte inside => (inv.ready unit member byte inside).1⟩
  have sameReady := congrArg Assembly.ready erases.same
  rw [final_assembler] at sameReady
  exact sameReady.symm

/-- The second of three access units loses a packet in the middle and is left out. -/
theorem damaged_groups_stay_out_middle :
    let calls := [(videoPacket 1 true [0x65, 7], false), (videoPacket 2 false [0x41, 8], false),
      (videoPacket 2 true [0x41, 9], true), (videoPacket 3 true [0x65, 10], false)]
    ((AuAssembler.new .h264 ⟨0, 0⟩).processAll calls).readyAus =
        [[0, 0, 0, 1, 0x65, 7], [0, 0, 0, 1, 0x65, 10]] ∧
      ∀ unit ∈ (Runs.final (track .h264) (start .h264 ⟨0, 0⟩) calls).labelled.ready,
        ∀ byte ∈ unit, byte.2 ∉ (Runs.final (track .h264) (start .h264 ⟨0, 0⟩) calls).lossy := by
  intro calls
  exact ⟨by decide +kernel,
    (damaged_groups_stay_out .h264 ⟨0, 0⟩ calls rfl (by decide) (fun _ => by decide +kernel)).2⟩

/-- A first fragment, then a loss, then the last packet of the same access unit:
the loss finds nothing buffered, and the rest of the unit goes out. -/
theorem unbuffered_loss_puts_out_damaged_group :
    let calls := [(videoPacket 1 false [0x7c, 0x85, 7], false),
      (videoPacket 1 true [0x65, 8], true)]
    (∀ call ∈ calls, call.1.payload ≠ []) ∧
      ((AuAssembler.new .h264 ⟨0, 0⟩).processAll calls).readyAus = [[0, 0, 0, 1, 0x65, 8]] ∧
      (Runs.final (track .h264) (start .h264 ⟨0, 0⟩) calls).labelled.ready.map
        (List.map Prod.fst) = [[0, 0, 0, 1, 0x65, 8]] ∧
      ∃ unit ∈ (Runs.final (track .h264) (start .h264 ⟨0, 0⟩) calls).labelled.ready,
        ∃ byte ∈ unit, byte.2 ∈ (Runs.final (track .h264) (start .h264 ⟨0, 0⟩) calls).lossy := by
  decide +kernel

end Tracked

end Gmv.Stream
