import Gmv.Stream.AnnexB

/-!
# AVCC through the converter

NAL units behind their lengths, given to the converter from Annex B.  It looks for a start code
anywhere, and the only ones that it can find begin in a length: which lengths these are is told
by the length and the first two bytes of its NAL unit.  Where there is one, the converter takes
the pieces between the start codes for the NAL units.
-/

namespace Gmv.Stream.AvccPassthrough

open Gmv.Library.ByteFormat AnnexB

/-- The filter of a caller that wants everything. -/
def acceptAll (_ : Unit) (_ : UInt8) : Bool × Unit := (true, ())

/-- Where the first start code begins in a length and its NAL unit, and where the last of those
that follow each other ends. -/
def codeSpan (nal : Bytes) : Option (Nat × Nat) :=
  if nal.length = 1 then some (0, 4)
  else if 256 ≤ nal.length ∧ nal.length < 512 then
    some (0, if nal.length = 256 ∧ nal.take 2 = [0, 1] then 6 else 3)
  else if nal.length % 2 ^ 24 = 0 ∧ nal.take 1 = [1] then some (1, 5)
  else if nal.length % 2 ^ 24 = 1 then some (1, 4)
  else if nal.length % 2 ^ 16 = 0 ∧ nal.take 2 = [0, 1] then some (2, 6)
  else if nal.length % 2 ^ 16 = 0 ∧ nal.take 1 = [1] then some (2, 5)
  else if nal.length % 256 = 0 ∧ nal.take 2 = [0, 1] then some (3, 6)
  else none

/-- A NAL unit as a packet has it: with emulation prevention, not empty, and shorter than its
length can tell. -/
structure IsNal (nal : Bytes) : Prop where
  escaped : Escaped nal
  nonempty : nal ≠ []
  short : nal.length < 2 ^ 31

/-- No length makes a start code. -/
def NoCode (nals : List Bytes) : Prop := ∀ nal ∈ nals, codeSpan nal = none

/-- Each NAL unit has a start code in its length, which begins where the first argument says, and
is what lies between the end of it and the beginning of the next: itself without its first bytes,
and as many bytes of the next length. -/
def AlignedFrom : Nat → List Bytes → Prop
  | _, [] => False
  | start, [nal] => codeSpan nal = some (start, 4)
  | start, nal :: next :: rest =>
      ∃ shift, codeSpan nal = some (start, 4 + shift) ∧
        nal = nal.drop shift ++ (beBytes 4 next.length).take shift ∧ AlignedFrom shift (next :: rest)

def Aligned (nals : List Bytes) : Prop := ∃ start, AlignedFrom start nals

/-! ## One length -/

theorem beBytes_four (value : Nat) : beBytes 4 value =
    [UInt8.ofNat (value / 2 ^ 24), UInt8.ofNat (value / 2 ^ 16), UInt8.ofNat (value / 2 ^ 8),
      UInt8.ofNat value] := by
  simp [beBytes]

theorem ofNat_eq_zero_iff {value : Nat} : UInt8.ofNat value = 0 ↔ value % 256 = 0 := by
  rw [← UInt8.toNat_inj, UInt8.toNat_ofNat']
  rfl

theorem ofNat_eq_one_iff {value : Nat} : UInt8.ofNat value = 1 ↔ value % 256 = 1 := by
  rw [← UInt8.toNat_inj, UInt8.toNat_ofNat']
  rfl

/-- The search over four bytes and what follows them. -/
theorem findStartCodeIn_four (first second third fourth : UInt8) (rest : Bytes) (pos : Nat) :
    findStartCodeIn (first :: second :: third :: fourth :: rest) pos =
      if first = 0 ∧ second = 0 ∧ third = 0 ∧ fourth = 1 then some (pos, 4)
      else if first = 0 ∧ second = 0 ∧ third = 1 then some (pos, 3)
      else if second = 0 ∧ third = 0 ∧ fourth = 0 ∧ rest.take 1 = [1] then some (pos + 1, 4)
      else if second = 0 ∧ third = 0 ∧ fourth = 1 then some (pos + 1, 3)
      else if third = 0 ∧ fourth = 0 ∧ rest.take 2 = [0, 1] then some (pos + 2, 4)
      else if third = 0 ∧ fourth = 0 ∧ rest.take 1 = [1] then some (pos + 2, 3)
      else if fourth = 0 ∧ rest.take 3 = [0, 0, 1] then some (pos + 3, 4)
      else if fourth = 0 ∧ rest.take 2 = [0, 1] then some (pos + 3, 3)
      else findStartCodeIn rest (pos + 4) := by
  simp only [findStartCodeIn, List.take_succ_cons, List.cons.injEq, List.take_zero, and_true,
    Nat.add_assoc, Nat.reduceAdd]

section Unit

variable {nal : Bytes}

theorem take_one_append (some' : nal ≠ []) (after : Bytes) : (nal ++ after).take 1 = nal.take 1 :=
  List.take_append_of_le_length (List.length_pos_iff.mpr some')

theorem take_two_append (two : 2 ≤ nal.length) (after : Bytes) :
    (nal ++ after).take 2 = nal.take 2 := List.take_append_of_le_length two

/-- No start code begins with two bytes of an escaped NAL unit. -/
theorem take_three_ne (clean : Escaped nal) (two : 2 ≤ nal.length) (after : Bytes) :
    (nal ++ after).take 3 ≠ [0, 0, 1] := by
  obtain ⟨first, rest, rfl⟩ := List.exists_cons_of_length_pos (show 0 < nal.length by omega)
  exact (clean.no_start after).2

/-- The search over a NAL unit and its length. -/
theorem findStartCodeIn_unit (isNal : IsNal nal) (after : Bytes) (pos : Nat) :
    findStartCodeIn (avccUnit nal ++ after) pos =
      match codeSpan nal with
      | none => findStartCodeIn after (pos + (avccUnit nal).length)
      | some (start, stop) =>
          some (pos + start, if start = 0 ∧ stop = 6 then 3 else stop - start) := by
  obtain ⟨clean, some', short⟩ := isNal
  have positive := List.length_pos_iff.mpr some'
  have length : (avccUnit nal).length = 4 + nal.length := by
    rw [avccUnit, List.length_append, length_beBytes]
  rw [length, avccUnit, List.append_assoc, beBytes_four]
  simp only [List.cons_append, List.nil_append]
  rw [findStartCodeIn_four, take_one_append some', codeSpan]
  simp only [ofNat_eq_zero_iff, ofNat_eq_one_iff]
  by_cases one : nal.length = 1
  · rw [if_pos (by omega), if_pos one]
    rfl
  · have two : 2 ≤ nal.length := by omega
    have second : nal.length / 2 ^ 24 % 256 = 0 ∧ nal.length / 2 ^ 16 % 256 = 0 ∧
        nal.length / 2 ^ 8 % 256 = 1 ↔ 256 ≤ nal.length ∧ nal.length < 512 := by omega
    have zeros16 (also : Prop) : nal.length / 2 ^ 8 % 256 = 0 ∧ nal.length % 256 = 0 ∧ also ↔
        nal.length % 2 ^ 16 = 0 ∧ also := by
      rw [← and_assoc]
      exact and_congr_left fun _ => by omega
    have zeros24 (also : Prop) : nal.length / 2 ^ 16 % 256 = 0 ∧ nal.length % 2 ^ 16 = 0 ∧ also ↔
        nal.length % 2 ^ 24 = 0 ∧ also := by
      rw [← and_assoc]
      exact and_congr_left fun _ => by omega
    have one24 : nal.length / 2 ^ 16 % 256 = 0 ∧ nal.length / 2 ^ 8 % 256 = 0 ∧
        nal.length % 256 = 1 ↔ nal.length % 2 ^ 24 = 1 := by omega
    have noThree : ¬(nal.length % 256 = 0 ∧ (nal ++ after).take 3 = [0, 0, 1]) := fun both =>
      take_three_ne clean two after both.2
    rw [if_neg (by omega), if_neg one, take_two_append two, if_neg noThree, findStartCodeIn_skip clean,
      Nat.add_assoc]
    simp only [second, zeros16, zeros24, one24]
    split_ifs <;> rfl

theorem length_avccUnit (nal : Bytes) : (avccUnit nal).length = 4 + nal.length := by
  rw [avccUnit, List.length_append, length_beBytes]

theorem drop_avccUnit (nal : Bytes) (count : Nat) : (avccUnit nal).drop (4 + count) = nal.drop count := by
  rw [← List.drop_drop, avccUnit, List.drop_left' (length_beBytes ..)]

/-- A code is the whole length of a NAL unit of one byte, or begins a length of two bytes, or begins
further on in a longer one. -/
theorem codeSpan_cases (some' : nal ≠ []) {start stop : Nat} (span : codeSpan nal = some (start, stop)) :
    (nal.length = 1 ∧ start = 0 ∧ stop = 4) ∨
      (256 ≤ nal.length ∧ nal.length < 512 ∧ start = 0 ∧
        stop = if nal.length = 256 ∧ nal.take 2 = [0, 1] then 6 else 3) ∨
      (256 ≤ nal.length ∧ 0 < start ∧ start ≤ 3 ∧ start < stop ∧ 4 ≤ stop ∧ stop ≤ 6) := by
  have positive := List.length_pos_iff.mpr some'
  rw [codeSpan] at span
  by_cases one : nal.length = 1
  · rw [if_pos one] at span
    cases span
    exact .inl ⟨one, rfl, rfl⟩
  · rw [if_neg one] at span
    by_cases two : 256 ≤ nal.length ∧ nal.length < 512
    · rw [if_pos two] at span
      cases span
      exact .inr (.inl ⟨two.1, two.2, rfl, rfl⟩)
    · rw [if_neg two] at span
      refine .inr (.inr ?_)
      split_ifs at span <;> cases span <;> omega

theorem codeSpan_bounds (some' : nal ≠ []) {start stop : Nat} (span : codeSpan nal = some (start, stop)) :
    start ≤ 3 ∧ start < stop ∧ 3 ≤ stop ∧ stop < (avccUnit nal).length := by
  rw [length_avccUnit]
  rcases codeSpan_cases some' span with ⟨one, rfl, rfl⟩ | ⟨long, -, rfl, rfl⟩ | further
  · omega
  · split <;> omega
  · omega

/-- Of the codes, only that of the shortest span ends inside the length. -/
theorem codeSpan_three (some' : nal ≠ []) {start : Nat} (span : codeSpan nal = some (start, 3)) :
    2 ≤ nal.length ∧ (nal.length % 256 ≠ 0 ∨ nal.take 2 ≠ [0, 1]) := by
  rcases codeSpan_cases some' span with ⟨-, -, four⟩ | ⟨long, short, -, three⟩ | further
  · cases four
  · refine ⟨by omega, ?_⟩
    by_contra neither
    rw [not_or, not_ne_iff, not_ne_iff] at neither
    rw [if_pos ⟨by omega, neither.2⟩] at three
    cases three
  · omega

theorem codeSpan_six (some' : nal ≠ []) (span : codeSpan nal = some (0, 6)) :
    nal.length = 256 ∧ nal.take 2 = [0, 1] := by
  rcases codeSpan_cases some' span with ⟨-, -, four⟩ | ⟨-, -, -, six⟩ | further
  · cases four
  · by_contra other
    rw [if_neg other] at six
    cases six
  · omega

/-- A search passes over what is left of an escaped NAL unit. -/
theorem escaped_drop (clean : Escaped nal) (count : Nat) : Escaped (nal.drop count) := by
  induction count generalizing nal with
  | zero => exact clean
  | succ count ih =>
      cases nal with
      | nil => exact clean
      | cons byte rest => exact ih clean.tail

/-- A search finds nothing in these bytes, nor on the way out of them. -/
def Skips (bytes : Bytes) : Prop :=
  ∀ after pos, findStartCodeIn (bytes ++ after) pos = findStartCodeIn after (pos + bytes.length)

theorem skips_escaped (clean : Escaped nal) : Skips nal := findStartCodeIn_skip clean

theorem Skips.append {first second : Bytes} (skips : Skips first) (also : Skips second) :
    Skips (first ++ second) := by
  intro after pos
  rw [List.append_assoc, skips, also, List.length_append, Nat.add_assoc]

/-- No code begins behind those that follow each other. -/
theorem skips_behind (isNal : IsNal nal) {start stop : Nat} (span : codeSpan nal = some (start, stop)) :
    Skips ((avccUnit nal).drop stop) := by
  obtain ⟨clean, some', short⟩ := isNal
  obtain ⟨-, -, three, -⟩ := codeSpan_bounds some' span
  rcases Nat.lt_or_eq_of_le three with more | rfl
  · obtain ⟨count, rfl⟩ := Nat.exists_eq_add_of_le (show 4 ≤ stop from more)
    rw [drop_avccUnit]
    exact skips_escaped (escaped_drop clean count)
  · obtain ⟨two, apart⟩ := codeSpan_three some' span
    have last : (avccUnit nal).drop 3 = UInt8.ofNat nal.length :: nal := by
      rw [avccUnit, beBytes_four]
      rfl
    intro after pos
    have notLong : (UInt8.ofNat nal.length :: (nal ++ after)).take 4 ≠ [0, 0, 0, 1] := fun begins => by
      rw [List.take_succ_cons, List.cons.injEq] at begins
      exact take_three_ne clean two after begins.2
    have notShort : (UInt8.ofNat nal.length :: (nal ++ after)).take 3 ≠ [0, 0, 1] := fun begins => by
      rw [List.take_succ_cons, List.cons.injEq, take_two_append two, ofNat_eq_zero_iff] at begins
      exact apart.elim (· begins.1) (· begins.2)
    rw [last, List.cons_append, findStartCodeIn, if_neg notLong, if_neg notShort,
      findStartCodeIn_skip clean, List.length_cons]
    congr 1
    omega

/-- Codes that follow each other have nothing between them. -/
theorem slices_behind (isNal : IsNal nal) {start stop : Nat} (span : codeSpan nal = some (start, stop))
    (after : Bytes) :
    slices ((avccUnit nal ++ after).drop (start + if start = 0 ∧ stop = 6 then 3 else stop - start)) =
      slices ((avccUnit nal).drop stop ++ after) := by
  obtain ⟨-, ordered, -, inside⟩ := codeSpan_bounds isNal.nonempty span
  rw [← List.drop_append_of_le_length (Nat.le_of_lt inside)]
  by_cases double : start = 0 ∧ stop = 6
  · obtain ⟨rfl, rfl⟩ := double
    obtain ⟨length, begins⟩ := codeSpan_six isNal.nonempty span
    have front : (avccUnit nal ++ after).drop (0 + 3) = [0, 0, 1] ++ (nal.drop 2 ++ after) := by
      have split := List.take_append_drop 2 nal
      rw [begins] at split
      rw [avccUnit, beBytes_four, length, ← split]
      rfl
    have found : findStartCodeIn ((avccUnit nal ++ after).drop (0 + 3)) 0 = some (0, 3) := by
      rw [front]
      rfl
    rw [if_pos ⟨rfl, rfl⟩, slices_some found, List.drop_drop]
    rfl
  · rw [if_neg double, Nat.add_sub_cancel' (Nat.le_of_lt ordered)]

end Unit

/-! ## The pieces -/

/-- The pieces that follow a piece that is under way. -/
def piecesFrom : Bytes → List Bytes → List Bytes
  | piece, [] => [piece]
  | piece, nal :: rest =>
      match codeSpan nal with
      | none => piecesFrom (piece ++ avccUnit nal) rest
      | some (start, stop) =>
          (piece ++ (avccUnit nal).take start) :: piecesFrom ((avccUnit nal).drop stop) rest

/-- The pieces between the start codes in lengths, when there is one. -/
def pieces : List Bytes → Option (List Bytes)
  | [] => none
  | nal :: rest =>
      match codeSpan nal with
      | none => pieces rest
      | some (_, stop) => some (piecesFrom ((avccUnit nal).drop stop) rest)

/-- A NAL unit without a code is passed over with its length. -/
theorem skips_unit {nal : Bytes} (isNal : IsNal nal) (none' : codeSpan nal = none) :
    Skips (avccUnit nal) := by
  intro after pos
  rw [findStartCodeIn_unit isNal, none']

theorem behind_ne_nil {nal : Bytes} (isNal : IsNal nal) {start stop : Nat}
    (span : codeSpan nal = some (start, stop)) : (avccUnit nal).drop stop ≠ [] := by
  obtain ⟨-, -, -, inside⟩ := codeSpan_bounds isNal.nonempty span
  rw [ne_eq, List.drop_eq_nil_iff]
  exact Nat.not_le.mpr inside

/-- The slices behind a piece that is under way are its pieces. -/
theorem slices_piece {nals : List Bytes} (isNals : ∀ nal ∈ nals, IsNal nal) {piece : Bytes}
    (some' : piece ≠ []) (skips : Skips piece) : slices (piece ++ avcc nals) = piecesFrom piece nals := by
  induction nals generalizing piece with
  | nil =>
      have noMore : findStartCodeIn (piece ++ []) 0 = none := skips [] 0
      rw [avcc, List.flatMap_nil, List.append_nil] at *
      exact slices_none some' noMore
  | cons nal rest ih =>
      have isNal := isNals nal (List.mem_cons_self ..)
      have later {piece : Bytes} := @ih (fun other member => isNals other (List.mem_cons_of_mem _ member)) piece
      rw [avcc_cons, piecesFrom]
      cases span : codeSpan nal with
      | none =>
          rw [← List.append_assoc]
          exact later (List.append_ne_nil_of_left_ne_nil some' _) (skips.append (skips_unit isNal span))
      | some ends =>
          obtain ⟨start, stop⟩ := ends
          obtain ⟨_, ordered, -, inside⟩ := codeSpan_bounds isNal.nonempty span
          have found : findStartCodeIn (piece ++ (avccUnit nal ++ avcc rest)) 0 =
              some (piece.length + start, if start = 0 ∧ stop = 6 then 3 else stop - start) := by
            rw [skips, findStartCodeIn_unit isNal, span, Nat.zero_add]
          have positive := List.length_pos_iff.mpr some'
          rw [slices_some found, if_pos (by omega), Nat.add_assoc, ← List.drop_drop, List.drop_left,
            slices_behind isNal span, later (behind_ne_nil isNal span) (skips_behind isNal span),
            List.take_length_add_append, List.take_append_of_le_length (by omega)]
          rfl

/-- The first start code, and what lies behind it. -/
theorem find_pieces {nals : List Bytes} (isNals : ∀ nal ∈ nals, IsNal nal) (pos : Nat) :
    match pieces nals with
    | none => findStartCodeIn (avcc nals) pos = none
    | some found => ∃ start len, findStartCodeIn (avcc nals) pos = some (pos + start, len) ∧
        slices ((avcc nals).drop (start + len)) = found := by
  induction nals generalizing pos with
  | nil => rfl
  | cons nal rest ih =>
      have isNal := isNals nal (List.mem_cons_self ..)
      have others : ∀ other ∈ rest, IsNal other := fun other member =>
        isNals other (List.mem_cons_of_mem _ member)
      rw [pieces]
      cases span : codeSpan nal with
      | none =>
          have later := ih others (pos + (avccUnit nal).length)
          rw [avcc_cons, skips_unit isNal span]
          cases found : pieces rest with
          | none =>
              rw [found] at later
              exact later
          | some isPieces =>
              rw [found] at later
              obtain ⟨start, len, at', behind⟩ := later
              refine ⟨(avccUnit nal).length + start, len, by rw [at', Nat.add_assoc], ?_⟩
              rw [Nat.add_assoc, ← List.drop_drop, List.drop_left, behind]
      | some ends =>
          obtain ⟨start, stop⟩ := ends
          refine ⟨start, if start = 0 ∧ stop = 6 then 3 else stop - start, ?_, ?_⟩
          · rw [avcc_cons, findStartCodeIn_unit isNal, span]
          · rw [avcc_cons, slices_behind isNal span,
              slices_piece others (behind_ne_nil isNal span) (skips_behind isNal span)]

/-! ## What comes out -/

theorem filtered_acceptAll (nals : List Bytes) : filtered acceptAll () nals = (nals, ()) := by
  induction nals with
  | nil => rfl
  | cons nal rest ih => simp [filtered, acceptAll, ih]

/-- Bytes that are taken for Annex B come out as their pieces, and others as they came in. -/
theorem annexbToAvccFast_avcc {nals : List Bytes} (isNals : ∀ nal ∈ nals, IsNal nal) :
    (annexbToAvccFast acceptAll () (avcc nals)).1 = avcc ((pieces nals).getD nals) := by
  have short : ∀ nal ∈ nals, nal.length < 2 ^ 32 := fun nal member =>
    Nat.lt_trans (isNals nal member).short (by decide)
  have search := find_pieces isNals 0
  rw [annexbToAvccFast, findAnnexbStartCode_eq, findStartCode, List.drop_zero]
  cases found : pieces nals with
  | none =>
      rw [found] at search
      rw [search]
      simp only
      rw [parseAvcc_avcc short, foldl_appendFilteredNalu acceptAll fun nal member =>
        (isNals nal member).nonempty, filtered_acceptAll]
      rfl
  | some isPieces =>
      rw [found] at search
      obtain ⟨start, len, at', behind⟩ := search
      rw [at']
      simp only
      rw [annexbToAvccFrom_eq acceptAll (Nat.le_add_right ..), Nat.zero_add, behind,
        foldl_appendFilteredNalu acceptAll, filtered_acceptAll]
      · rfl
      · intro piece member
        rw [← behind] at member
        exact slices_ne_nil member

/-- Each piece begins with a code of its own. -/
theorem length_piecesFrom_le (piece : Bytes) (nals : List Bytes) :
    (piecesFrom piece nals).length ≤ nals.length + 1 := by
  induction nals generalizing piece with
  | nil => exact Nat.le_refl 1
  | cons nal rest ih =>
      rw [piecesFrom]
      cases codeSpan nal with
      | none => exact Nat.le_succ_of_le (ih _)
      | some ends => exact Nat.succ_le_succ (ih _)

theorem length_pieces_le {nals found : List Bytes} (isPieces : pieces nals = some found) :
    found.length ≤ nals.length := by
  induction nals with
  | nil => cases isPieces
  | cons nal rest ih =>
      rw [pieces] at isPieces
      cases span : codeSpan nal with
      | none =>
          rw [span] at isPieces
          exact Nat.le_succ_of_le (ih isPieces)
      | some ends =>
          rw [span] at isPieces
          cases isPieces
          exact length_piecesFrom_le ..

/-- The first bytes of a NAL unit behind its length are those of the length. -/
theorem take_avccUnit (nal : Bytes) {count : Nat} (inside : count ≤ 3) :
    (avccUnit nal).take count = (beBytes 4 nal.length).take count :=
  List.take_append_of_le_length (by rw [length_beBytes]; omega)

/-- The pieces that are the NAL units are those of aligned ones. -/
theorem aligned_of_piecesFrom {nal : Bytes} {rest : List Bytes} (isNal : IsNal nal)
    (isNals : ∀ other ∈ rest, IsNal other) {start stop : Nat} (span : codeSpan nal = some (start, stop))
    (same : piecesFrom ((avccUnit nal).drop stop) rest = nal :: rest) :
    AlignedFrom start (nal :: rest) := by
  induction rest generalizing nal start stop with
  | nil =>
      obtain ⟨-, -, -, inside⟩ := codeSpan_bounds isNal.nonempty span
      rw [piecesFrom, List.cons.injEq] at same
      have length := congrArg List.length same.1
      rw [List.length_drop, length_avccUnit] at length
      rw [length_avccUnit] at inside
      obtain rfl : stop = 4 := by omega
      exact span
  | cons next rest ih =>
      obtain ⟨-, -, -, inside⟩ := codeSpan_bounds isNal.nonempty span
      have nextIsNal := isNals next (List.mem_cons_self ..)
      rw [piecesFrom] at same
      cases nextSpan : codeSpan next with
      | none =>
          rw [nextSpan] at same
          have many := length_piecesFrom_le ((avccUnit nal).drop stop ++ avccUnit next) rest
          simp only at same
          rw [same, List.length_cons, List.length_cons] at many
          omega
      | some ends =>
          obtain ⟨shift, nextStop⟩ := ends
          obtain ⟨few, -, -, nextInside⟩ := codeSpan_bounds nextIsNal.nonempty nextSpan
          rw [nextSpan] at same
          simp only [List.cons.injEq] at same
          have length := congrArg List.length same.1
          rw [List.length_append, List.length_drop, List.length_take, length_avccUnit,
            length_avccUnit] at length
          rw [length_avccUnit] at inside nextInside
          obtain rfl : stop = 4 + shift := by omega
          rw [drop_avccUnit, take_avccUnit next few] at same
          exact ⟨shift, span, same.1.symm, ih nextIsNal
            (fun other member => isNals other (List.mem_cons_of_mem _ member)) nextSpan same.2⟩

theorem AlignedFrom.span {start : Nat} {nal : Bytes} {rest : List Bytes}
    (aligned : AlignedFrom start (nal :: rest)) : ∃ stop, codeSpan nal = some (start, stop) := by
  cases rest with
  | nil => exact ⟨4, aligned⟩
  | cons next rest =>
      obtain ⟨shift, span, -, -⟩ := aligned
      exact ⟨4 + shift, span⟩

theorem piecesFrom_of_aligned {nal : Bytes} {rest : List Bytes} {start stop : Nat}
    (nonempty : ∀ other ∈ rest, other ≠ []) (span : codeSpan nal = some (start, stop))
    (aligned : AlignedFrom start (nal :: rest)) :
    piecesFrom ((avccUnit nal).drop stop) rest = nal :: rest := by
  induction rest generalizing nal start stop with
  | nil =>
      have same := span.symm.trans aligned
      cases same
      rw [piecesFrom, drop_avccUnit nal 0, List.drop_zero]
  | cons next rest ih =>
      obtain ⟨shift, span', whole, later⟩ := aligned
      have same := span.symm.trans span'
      cases same
      obtain ⟨nextStop, nextSpan⟩ := later.span
      obtain ⟨few, -⟩ := codeSpan_bounds (nonempty next (List.mem_cons_self ..)) nextSpan
      rw [piecesFrom, nextSpan, drop_avccUnit]
      simp only
      rw [take_avccUnit next few, ← whole,
        ih (fun other member => nonempty other (List.mem_cons_of_mem _ member)) nextSpan later]

/-- The pieces are the NAL units of an aligned list, and of no other. -/
theorem pieces_eq_self_iff {nals : List Bytes} (isNals : ∀ nal ∈ nals, IsNal nal) :
    pieces nals = some nals ↔ Aligned nals := by
  cases nals with
  | nil =>
      constructor
      · intro none'
        cases none'
      · rintro ⟨start, nothing⟩
        cases nothing
  | cons nal rest =>
      have others : ∀ other ∈ rest, IsNal other := fun other member =>
        isNals other (List.mem_cons_of_mem _ member)
      constructor
      · intro same
        cases span : codeSpan nal with
        | none =>
            rw [pieces, span] at same
            have many := length_pieces_le same
            rw [List.length_cons] at many
            omega
        | some ends =>
            obtain ⟨start, stop⟩ := ends
            rw [pieces, span] at same
            exact ⟨start, aligned_of_piecesFrom (isNals nal (List.mem_cons_self ..)) others span
              (Option.some.inj same)⟩
      · rintro ⟨start, aligned⟩
        obtain ⟨stop, span⟩ := aligned.span
        rw [pieces, span]
        exact congrArg some (piecesFrom_of_aligned (fun other member => (others other member).nonempty)
          span aligned)

theorem pieces_eq_none_iff {nals : List Bytes} : pieces nals = none ↔ NoCode nals := by
  induction nals with
  | nil => exact ⟨fun _ => List.forall_mem_nil _, fun _ => rfl⟩
  | cons nal rest ih =>
      rw [pieces, NoCode, List.forall_mem_cons]
      cases codeSpan nal with
      | none => exact ih.trans (and_iff_right rfl).symm
      | some ends => simp

theorem length_le_avcc {nals : List Bytes} {nal : Bytes} (member : nal ∈ nals) :
    nal.length ≤ (avcc nals).length := by
  have inside : (avccUnit nal).length ≤ (avcc nals).length := by
    rw [avcc, List.flatMap_def]
    exact (List.sublist_flatten_of_mem (List.mem_map_of_mem member)).length_le
  rw [length_avccUnit] at inside
  exact Nat.le_of_add_left_le inside

/-- NAL units behind their lengths come out as they came in when no length makes a start code, or
when the list is aligned; in a packet, whose bytes a length can count, only then. -/
theorem avcc_passes_iff {nals : List Bytes} (isNals : ∀ nal ∈ nals, IsNal nal) :
    (NoCode nals ∨ Aligned nals → (annexbToAvccFast acceptAll () (avcc nals)).1 = avcc nals) ∧
      ((avcc nals).length < 2 ^ 32 →
        (annexbToAvccFast acceptAll () (avcc nals)).1 = avcc nals → NoCode nals ∨ Aligned nals) := by
  rw [annexbToAvccFast_avcc isNals]
  constructor
  · rintro (noCode | aligned)
    · rw [pieces_eq_none_iff.mpr noCode, Option.getD_none]
    · rw [(pieces_eq_self_iff isNals).mpr aligned, Option.getD_some]
  · intro small same
    cases found : pieces nals with
    | none => exact Or.inl (pieces_eq_none_iff.mp found)
    | some isPieces =>
        rw [found, Option.getD_some] at same
        have pieceShort : ∀ piece ∈ isPieces, piece.length < 2 ^ 32 := fun piece member =>
          Nat.lt_of_le_of_lt (length_le_avcc member) (by rwa [same])
        have nalShort : ∀ nal ∈ nals, nal.length < 2 ^ 32 := fun nal member =>
          Nat.lt_of_le_of_lt (length_le_avcc member) small
        have equal := congrArg parseAvcc same
        rw [parseAvcc_avcc pieceShort, parseAvcc_avcc nalShort] at equal
        rw [equal] at found
        exact Or.inr ((pieces_eq_self_iff isNals).mp found)

/-- A key frame of two hundred and fifty-six bytes. -/
def keyFrame : Bytes := 0x26 :: List.replicate 255 1

theorem escaped_keyFrame : Escaped keyFrame := by
  refine escaped_of_nonzero fun byte member => ?_
  rcases List.mem_cons.mp member with rfl | isOne
  · decide
  · rw [List.eq_of_mem_replicate isOne]
    decide

/-- Its length makes a start code, and it comes out one byte longer. -/
theorem key_frame_not_passed : (Escaped keyFrame ∧ keyFrame ≠ [] ∧ keyFrame.length < 2 ^ 31) ∧
    (annexbToAvccFast acceptAll () (avcc [keyFrame])).1 = avcc [0 :: keyFrame] ∧
    (annexbToAvccFast acceptAll () (avcc [keyFrame])).1 ≠ avcc [keyFrame] := by
  have longer : (annexbToAvccFast acceptAll () (avcc [keyFrame])).1 = avcc [0 :: keyFrame] := by
    decide +kernel
  refine ⟨⟨escaped_keyFrame, List.cons_ne_nil _ _, by decide +kernel⟩, longer, ?_⟩
  rw [longer]
  intro same
  exact absurd (congrArg List.length same) (by decide +kernel)

/-- Two NAL units of two bytes come out as they came in. -/
theorem avcc_passes_two : NoCode [[0x40, 1], [0x42, 1]] ∧
    (annexbToAvccFast acceptAll () (avcc [[0x40, 1], [0x42, 1]])).1 = avcc [[0x40, 1], [0x42, 1]] := by
  have isNals : ∀ nal ∈ [[0x40, 1], [0x42, 1]], IsNal nal := by
    intro nal member
    rcases List.mem_cons.mp member with rfl | member
    · exact ⟨by decide, by decide, by decide⟩
    · rw [List.mem_singleton.mp member]
      exact ⟨by decide, by decide, by decide⟩
  have noCode : NoCode [[0x40, 1], [0x42, 1]] := pieces_eq_none_iff.mp rfl
  exact ⟨noCode, (avcc_passes_iff isNals).1 (Or.inl noCode)⟩

end Gmv.Stream.AvccPassthrough
