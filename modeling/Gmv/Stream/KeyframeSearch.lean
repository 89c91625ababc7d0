import Mathlib.Data.List.Infix
import Gmv.Stream.AccessUnit

/-!
# The key frame search in an access unit

What `access_unit_has_nal` finds is a NAL unit behind a start code.  On a
concatenation of NAL units that contain no start code of their own, it finds
exactly the units that satisfy its predicate.
-/

namespace Gmv.Stream

/-! ## What the search finds -/

/-- The NAL header byte of a key frame. -/
def keyframeHeader (kind : PayloadKind) (header : UInt8) : Bool :=
  match kind with
  | .h264 => header &&& 0x1f == 5
  | .h265 =>
      let nalType := (header >>> 1) &&& 0x3f
      nalType == 19 || nalType == 20 || nalType == 21
  | _ => false

/-- Somewhere in the access unit, a key frame header follows a start code. -/
def ContainsKeyframe (kind : PayloadKind) (unit : Bytes) : Prop :=
  ∃ before header after, unit = before ++ [0, 0, 1] ++ header :: after ∧
    keyframeHeader kind header = true

theorem findStartCodeIn_eq_some {data : Bytes} {pos found len : Nat}
    (result : findStartCodeIn data pos = some (found, len)) :
    ∃ before rest, data = before ++ [0, 0, 1] ++ rest ∧ found + len = pos + before.length + 3 := by
  induction data generalizing pos with
  | nil => cases result
  | cons byte rest ih =>
      unfold findStartCodeIn at result
      split at result
      · next long =>
          cases result
          refine ⟨[0], (byte :: rest).drop 4, ?_, rfl⟩
          conv_lhs => rw [← List.take_append_drop 4 (byte :: rest), long]
          rfl
      · split at result
        · next short =>
            cases result
            refine ⟨[], (byte :: rest).drop 3, ?_, rfl⟩
            conv_lhs => rw [← List.take_append_drop 3 (byte :: rest), short]
            rfl
        · obtain ⟨before, after, same, place⟩ := ih result
          refine ⟨byte :: before, after, by rw [same]; rfl, ?_⟩
          rw [List.length_cons]
          omega

section Predicate

variable {predicate : Bytes → Bool} (keyHeader : UInt8 → Bool)
  (reads : ∀ nal, predicate nal = true → ∃ header rest, nal = header :: rest ∧
    keyHeader header = true)

include reads in
/-- A search that starts behind a start code only finds headers behind one. -/
theorem accessUnitHasNalFrom_true (data : Bytes) (fuel nalStart : Nat)
    (behind : ∃ before, data.take nalStart = before ++ [0, 0, 1])
    (result : accessUnitHasNalFrom data predicate fuel nalStart = true) :
    ∃ before header after, data = before ++ [0, 0, 1] ++ header :: after ∧
      keyHeader header = true := by
  induction fuel generalizing nalStart with
  | zero => cases result
  | succ fuel ih =>
      obtain ⟨before, taken⟩ := behind
      have here {nal more : Bytes} (split : data.drop nalStart = nal ++ more)
          (found : predicate nal = true) : ∃ before header after,
          data = before ++ [0, 0, 1] ++ header :: after ∧ keyHeader header = true := by
        obtain ⟨header, rest, rfl, key⟩ := reads nal found
        refine ⟨before, header, rest ++ more, ?_, key⟩
        rw [← List.take_append_drop nalStart data, taken, split]
        rfl
      unfold accessUnitHasNalFrom at result
      split at result
      · split at result
        · next nextStart nextStartLen next =>
            split at result
            · next both =>
                rw [Bool.and_eq_true] at both
                exact here (List.take_append_drop (nextStart - nalStart) _).symm both.2
            · refine ih (nextStart + nextStartLen) ?_ result
              obtain ⟨skipped, rest, same, place⟩ := findStartCodeIn_eq_some next
              refine ⟨before ++ [0, 0, 1] ++ skipped, ?_⟩
              have codeEnd : skipped.length + 3 = (skipped ++ [0, 0, 1]).length := by simp
              rw [place, Nat.add_assoc, List.take_add, taken, same, codeEnd, List.take_left]
              exact (List.append_assoc ..).symm
        · exact here (List.append_nil _).symm result
      · cases result

include reads in
theorem accessUnitHasNal_true {data : Bytes} (framed : startCode <+: data)
    (result : accessUnitHasNal data predicate = true) :
    ∃ before header after, data = before ++ [0, 0, 1] ++ header :: after ∧
      keyHeader header = true := by
  obtain ⟨rest, rfl⟩ := framed
  have first : findStartCode (startCode ++ rest) 0 = some (0, 4) := rfl
  unfold accessUnitHasNal at result
  rw [first] at result
  exact accessUnitHasNalFrom_true keyHeader reads _ _ _ ⟨[0], rfl⟩ result

end Predicate

/-- An access unit that the gate takes for a key frame contains one. -/
theorem containsKeyframe_of_search {kind : PayloadKind} {unit : Bytes}
    (framed : startCode <+: unit) (found : AuAssembler.accessUnitHasKeyframe kind unit = true) :
    ContainsKeyframe kind unit := by
  cases kind with
  | h264 =>
      refine accessUnitHasNal_true (keyframeHeader .h264) ?_ framed found
      intro nal key
      cases nal with
      | nil => cases key
      | cons header rest => exact ⟨header, rest, rfl, key⟩
  | h265 =>
      refine accessUnitHasNal_true (keyframeHeader .h265) ?_ framed found
      intro nal key
      rcases nal with _ | ⟨header, _ | ⟨second, rest⟩⟩
      · cases key
      · cases key
      · exact ⟨header, second :: rest, rfl, key⟩
  | ps => cases found
  | aac => cases found
  | g711 => cases found
  | passthrough => cases found

/-! ## Concatenated NAL units -/

/-- A NAL unit with emulation prevention: no start code inside and no trailing
zero. -/
structure Escaped (nal : Bytes) : Prop where
  noZeros : ¬ [0, 0, 0] <:+: nal
  noCode : ¬ [0, 0, 1] <:+: nal
  lastByte : nal.getLast? ≠ some 0

instance (nal : Bytes) : Decidable (Escaped nal) :=
  decidable_of_iff (¬ [0, 0, 0] <:+: nal ∧ ¬ [0, 0, 1] <:+: nal ∧ nal.getLast? ≠ some 0)
    ⟨fun h => ⟨h.1, h.2.1, h.2.2⟩, fun h => ⟨h.noZeros, h.noCode, h.lastByte⟩⟩

theorem Escaped.tail {byte : UInt8} {rest : Bytes} (escaped : Escaped (byte :: rest)) :
    Escaped rest where
  noZeros inside := escaped.noZeros (inside.trans (List.suffix_cons byte rest).isInfix)
  noCode inside := escaped.noCode (inside.trans (List.suffix_cons byte rest).isInfix)
  lastByte isLast := by
    cases rest with
    | nil => cases isLast
    | cons next more => exact escaped.lastByte (by rwa [List.getLast?_cons_cons])

/-- No start code begins inside an escaped NAL unit. -/
theorem Escaped.no_start {byte : UInt8} {rest : Bytes} (escaped : Escaped (byte :: rest))
    (after : Bytes) :
    (byte :: rest ++ after).take 4 ≠ [0, 0, 0, 1] ∧
      (byte :: rest ++ after).take 3 ≠ [0, 0, 1] := by
  rcases rest with _ | ⟨second, _ | ⟨third, more⟩⟩
  · have nonzero : byte ≠ 0 := fun zero => escaped.lastByte (congrArg some zero)
    constructor <;> intro same <;> simp [nonzero] at same
  · have nonzero : second ≠ 0 := fun zero => escaped.lastByte (congrArg some zero)
    constructor <;> intro same <;> simp [nonzero] at same
  · have infix' (code : Bytes) (same : [byte, second, third] = code) :
        code <:+: byte :: second :: third :: more :=
      ⟨[], more, by rw [← same]; rfl⟩
    constructor
    · intro same
      have zeros : [byte, second, third] = [0, 0, 0] := by
        simp at same
        simp [same.1, same.2.1, same.2.2.1]
      exact escaped.noZeros (infix' _ zeros)
    · intro same
      have code : [byte, second, third] = [0, 0, 1] := by simpa using same
      exact escaped.noCode (infix' _ code)

/-- The search passes over an escaped NAL unit. -/
theorem findStartCodeIn_skip {nal : Bytes} (escaped : Escaped nal) (after : Bytes) (pos : Nat) :
    findStartCodeIn (nal ++ after) pos = findStartCodeIn after (pos + nal.length) := by
  induction nal generalizing pos with
  | nil => rfl
  | cons byte rest ih =>
      obtain ⟨notLong, notShort⟩ := escaped.no_start after
      rw [List.cons_append] at notLong notShort ⊢
      rw [findStartCodeIn, if_neg notLong, if_neg notShort, ih escaped.tail, List.length_cons]
      congr 1
      omega

/-- The byte stream of some NAL units, each behind a start code. -/
def annexB (nals : List Bytes) : Bytes := nals.flatMap withStartCode

@[simp] theorem annexB_nil : annexB [] = [] := rfl

@[simp] theorem annexB_cons (nal : Bytes) (rest : List Bytes) :
    annexB (nal :: rest) = startCode ++ nal ++ annexB rest := rfl

theorem annexB_append (first second : List Bytes) :
    annexB (first ++ second) = annexB first ++ annexB second := by
  simp [annexB]

theorem accessUnitHasNalFrom_annexB (predicate : Bytes → Bool) (before nal : Bytes)
    (rest : List Bytes) (escaped : ∀ unit ∈ nal :: rest, Escaped unit ∧ unit ≠ [])
    (fuel : Nat) (enough : rest.length < fuel) :
    accessUnitHasNalFrom (before ++ nal ++ annexB rest) predicate fuel before.length =
      (nal :: rest).any predicate := by
  induction rest generalizing before nal fuel with
  | nil =>
      obtain ⟨fuel, rfl⟩ : ∃ more, fuel = more + 1 := ⟨fuel - 1, by simp at enough; omega⟩
      obtain ⟨clean, nonempty⟩ := escaped nal (List.mem_cons_self ..)
      have positive := List.length_pos_iff.mpr nonempty
      have noMore : findStartCode (before ++ nal ++ annexB []) before.length = none := by
        rw [findStartCode, annexB_nil, List.append_nil, List.drop_left]
        have skipped := findStartCodeIn_skip clean [] before.length
        rwa [List.append_nil] at skipped
      unfold accessUnitHasNalFrom
      rw [if_pos (by simp; omega), noMore]
      simp
  | cons next rest ih =>
      obtain ⟨fuel, rfl⟩ : ∃ more, fuel = more + 1 := ⟨fuel - 1, by simp at enough; omega⟩
      obtain ⟨clean, nonempty⟩ := escaped nal (List.mem_cons_self ..)
      have positive := List.length_pos_iff.mpr nonempty
      have found : findStartCode (before ++ nal ++ annexB (next :: rest)) before.length =
          some (before.length + nal.length, 4) := by
        rw [findStartCode, List.append_assoc, List.drop_left, findStartCodeIn_skip clean]
        rfl
      have later := ih (before ++ nal ++ startCode) next
        (fun unit member => escaped unit (List.mem_cons_of_mem _ member)) fuel (by simp at enough; omega)
      unfold accessUnitHasNalFrom
      rw [if_pos (by simp; omega), found]
      dsimp only
      have here : ((before ++ nal ++ annexB (next :: rest)).drop before.length).take
          (before.length + nal.length - before.length) = nal := by
        rw [List.append_assoc, List.drop_left, Nat.add_sub_cancel_left, List.take_left]
      rw [here, List.any_cons]
      have advance : before.length + nal.length + 4 = (before ++ nal ++ startCode).length := by
        rw [List.length_append, List.length_append]
        rfl
      have further : before.length + nal.length > before.length := by omega
      cases found : predicate nal with
      | true => simp [further]
      | false =>
          rw [Bool.and_false, if_neg Bool.false_ne_true, advance, Bool.false_or, ← later]
          simp

/-- On concatenated NAL units the search finds exactly the units that satisfy
its predicate. -/
theorem accessUnitHasNal_annexB (predicate : Bytes → Bool) {nals : List Bytes}
    (nonempty : nals ≠ []) (escaped : ∀ nal ∈ nals, Escaped nal ∧ nal ≠ []) :
    accessUnitHasNal (annexB nals) predicate = nals.any predicate := by
  cases nals with
  | nil => exact absurd rfl nonempty
  | cons nal rest =>
      have first : findStartCode (annexB (nal :: rest)) 0 = some (0, 4) := rfl
      have count (units : List Bytes) : units.length ≤ (annexB units).length := by
        induction units with
        | nil => exact Nat.zero_le _
        | cons unit more ih =>
            simp only [annexB_cons, List.length_append, List.length_cons, startCode]
            omega
      have enough : rest.length < (annexB (nal :: rest)).length := by
        have bound := count (nal :: rest)
        rw [List.length_cons] at bound
        omega
      unfold accessUnitHasNal
      rw [first]
      exact accessUnitHasNalFrom_annexB predicate startCode nal rest escaped _ enough

end Gmv.Stream
