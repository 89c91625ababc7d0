import Gmv.Library.Loops
import Gmv.Stream.AnnexB

/-!
# Three ways to take an access unit apart

The key frame search, the reading of parameter sets and the FLV muxer look for the NAL units of an
access unit with loops of their own.  Each loop is told turn by turn as the source has it, with the
function that it calls and what that function notes.  The loops end within one turn more than there
are bytes, and where there is a start code they call their functions for the same NAL units.
-/

namespace Gmv.Stream.AnnexBSplitters

open Gmv.Library.Loops AnnexB

variable {σ ω : Type}

/-- `data[start..stop]`. -/
def slice (data : Bytes) (start stop : Nat) : Bytes := (data.drop start).take (stop - start)

/-! ## The searches -/

def findStartCodeTurn (data : Bytes) (pos : Nat) : Turn Nat (Option (Nat × Nat)) :=
  if pos + 3 ≤ data.length then
    if pos + 4 ≤ data.length && slice data pos (pos + 4) == [0, 0, 0, 1] then .leave (some (pos, 4))
    else if slice data pos (pos + 3) == [0, 0, 1] then .leave (some (pos, 3))
    else .again (pos + 1)
  else .leave none

/-- `find_start_code`, given a number of turns. -/
def findStartCodeWithin (fuel : Nat) (data : Bytes) (start : Nat) : Option (Option (Nat × Nat)) :=
  run (fun pos => some (findStartCodeTurn data pos)) fuel start

def findAnnexbStartCodeTurn (data : Bytes) (pos : Nat) : Turn Nat (Option (Nat × Nat)) :=
  if pos + 3 ≤ data.length then
    match annexbStartCodeLen data pos with
    | some len => .leave (some (pos, len))
    | none => .again (pos + 1)
  else .leave none

/-- `find_annexb_start_code`, of which the parameter sets and the muxer have a copy each. -/
def findAnnexbStartCodeWithin (fuel : Nat) (data : Bytes) (start : Nat) : Option (Option (Nat × Nat)) :=
  run (fun pos => some (findAnnexbStartCodeTurn data pos)) fuel start

/-! ## The loops over the NAL units -/

/-- A turn of `access_unit_has_nal`.  The predicate may change what it has noted. -/
def accessUnitHasNalTurn (fuel : Nat) (data : Bytes) (predicate : σ → Bytes → Bool × σ) :
    Nat × σ → Option (Turn (Nat × σ) (Bool × σ))
  | (nalStart, noted) =>
      if nalStart < data.length then
        (findStartCodeWithin fuel data nalStart).map fun
          | some (nextStart, nextStartLen) =>
              if nextStart > nalStart then
                let (holds, noted) := predicate noted (slice data nalStart nextStart)
                if holds then .leave (true, noted) else .again (nextStart + nextStartLen, noted)
              else .again (nextStart + nextStartLen, noted)
          | none => .leave (predicate noted (data.drop nalStart))
      else some (.leave (false, noted))

def accessUnitHasNalWithin (fuel : Nat) (data : Bytes) (predicate : σ → Bytes → Bool × σ) (noted : σ) :
    Option (Bool × σ) :=
  (findStartCodeWithin fuel data 0).bind fun
    | none => some (if data.isEmpty then (false, noted) else predicate noted data)
    | some (firstStart, firstStartLen) =>
        run (accessUnitHasNalTurn fuel data predicate) fuel (firstStart + firstStartLen, noted)

/-- A turn of the loop that `for_each_nalu_annexb` and `annexb_to_avcc_fast` have in common, with
what they call for a NAL unit. -/
def naluTurn (fuel : Nat) (data : Bytes) (call : ω → Bytes → ω) : Nat × ω → Option (Turn (Nat × ω) ω)
  | (naluStart, out) =>
      if naluStart < data.length then
        (findAnnexbStartCodeWithin fuel data naluStart).map fun
          | some (nextPos, nextLen) =>
              if nextPos > naluStart then
                .again (nextPos + nextLen, call out (slice data naluStart nextPos))
              else .again (nextPos + nextLen, out)
          | none => .leave (call out (data.drop naluStart))
      else some (.leave out)

def forEachNaluAnnexbWithin (fuel : Nat) (data : Bytes) (f : σ → Bytes → σ) (noted : σ) : Option σ :=
  (findAnnexbStartCodeWithin fuel data 0).bind fun
    | none => some noted
    | some (startPos, startLen) => run (naluTurn fuel data f) fuel (startPos + startLen, noted)

def annexbToAvccFastWithin (fuel : Nat) (data : Bytes) (filter : σ → UInt8 → Bool × σ) (noted : σ) :
    Option (Bytes × σ) :=
  (findAnnexbStartCodeWithin fuel data 0).bind fun
    | none => some ((parseAvcc data).foldl (appendFilteredNalu filter) ([], noted))
    | some (startPos, startLen) =>
        run (naluTurn fuel data (appendFilteredNalu filter)) fuel (startPos + startLen, ([], noted))

/-! ## The searches end -/

/-- Where the slice is the code, the four bytes are there. -/
theorem take_four_iff {data : Bytes} {pos : Nat} :
    (decide (pos + 4 ≤ data.length) && slice data pos (pos + 4) == [0, 0, 0, 1]) = true ↔
      (data.drop pos).take 4 = [0, 0, 0, 1] := by
  rw [Bool.and_eq_true, decide_eq_true_iff, beq_iff_eq, slice, Nat.add_sub_cancel_left]
  constructor
  · exact And.right
  · intro begins
    have := length_of_take_eq (show (data.drop pos).take ([0, 0, 0, 1] : Bytes).length = _ from begins)
    rw [List.length_drop] at this
    simp only [List.length_cons, List.length_nil] at this
    exact ⟨by omega, begins⟩

theorem take_three_iff {data : Bytes} {pos : Nat} :
    (slice data pos (pos + 3) == [0, 0, 1]) = true ↔ (data.drop pos).take 3 = [0, 0, 1] := by
  rw [beq_iff_eq, slice, Nat.add_sub_cancel_left]

theorem findStartCodeTurn_keeps (data : Bytes) (pos : Nat) :
    Keeps (findStartCode data) (fun pos => data.length - pos) pos (findStartCodeTurn data pos) := by
  rw [findStartCodeTurn]
  split_ifs with room long short
  · rw [take_four_iff] at long
    exact .leave (by rw [findStartCode_turn room, if_pos long])
  · rw [take_four_iff] at long
    rw [take_three_iff] at short
    exact .leave (by rw [findStartCode_turn room, if_neg long, if_pos short])
  · rw [take_four_iff] at long
    rw [take_three_iff] at short
    exact .again (by rw [findStartCode_turn room, if_neg long, if_neg short]) (by omega)
  · exact .leave (findStartCode_end (by omega)).symm

theorem findStartCodeWithin_eq {fuel : Nat} {data : Bytes} (enough : data.length < fuel) (start : Nat) :
    findStartCodeWithin fuel data start = some (findStartCode data start) :=
  run_eq_answer (fun pos => ⟨_, rfl, findStartCodeTurn_keeps data pos⟩) (by omega)

theorem findAnnexbStartCodeTurn_keeps (data : Bytes) (pos : Nat) :
    Keeps (findStartCode data) (fun pos => data.length - pos) pos (findAnnexbStartCodeTurn data pos) := by
  rw [findAnnexbStartCodeTurn, annexbStartCodeLen_eq]
  by_cases room : pos + 3 ≤ data.length
  · have here := findStartCode_turn room
    rw [if_pos room]
    split_ifs at here ⊢ with long short
    · exact .leave here.symm
    · exact .leave here.symm
    · exact .again here.symm (by omega)
  · rw [if_neg room]
    exact .leave (findStartCode_end (by omega)).symm

theorem findAnnexbStartCodeWithin_eq {fuel : Nat} {data : Bytes} (enough : data.length < fuel) (start : Nat) :
    findAnnexbStartCodeWithin fuel data start = some (findStartCode data start) :=
  run_eq_answer (fun pos => ⟨_, rfl, findAnnexbStartCodeTurn_keeps data pos⟩) (by omega)

/-! ## The loops go along the slices -/

/-- The predicate is asked about one NAL unit after another until it holds. -/
def ask (predicate : σ → Bytes → Bool × σ) : σ → List Bytes → Bool × σ
  | noted, [] => (false, noted)
  | noted, nal :: rest =>
      let (holds, noted) := predicate noted nal
      if holds then (true, noted) else ask predicate noted rest

theorem ask_singleton (predicate : σ → Bytes → Bool × σ) (noted : σ) (nal : Bytes) :
    ask predicate noted [nal] = predicate noted nal := by
  rw [ask]
  cases answer : predicate noted nal with
  | mk holds next => cases holds <;> rfl

/-- One that never holds is asked about every NAL unit. -/
theorem ask_never {predicate : σ → Bytes → Bool × σ}
    (never : ∀ noted nal, (predicate noted nal).1 = false) (noted : σ) (nals : List Bytes) :
    ask predicate noted nals = (false, nals.foldl (fun noted nal => (predicate noted nal).2) noted) := by
  induction nals generalizing noted with
  | nil => rfl
  | cons nal rest ih =>
      rw [ask, List.foldl_cons, ← ih]
      have here := never noted nal
      cases answer : predicate noted nal with
      | mk holds next =>
          rw [answer] at here
          cases here
          rfl

/-- One that notes nothing. -/
theorem ask_pure (predicate : Bytes → Bool) (nals : List Bytes) :
    ask (fun _ nal => (predicate nal, ())) () nals = (nals.any predicate, ()) := by
  induction nals with
  | nil => rfl
  | cons nal rest ih =>
      rw [ask, List.any_cons]
      cases predicate nal with
      | true => rfl
      | false => exact ih

theorem accessUnitHasNalTurn_keeps {fuel : Nat} {data : Bytes} (enough : data.length < fuel)
    (predicate : σ → Bytes → Bool × σ) (state : Nat × σ) :
    ∃ outcome, accessUnitHasNalTurn fuel data predicate state = some outcome ∧
      Keeps (fun state => ask predicate state.2 (slices (data.drop state.1)))
        (fun state => data.length - state.1) state outcome := by
  obtain ⟨nalStart, noted⟩ := state
  rw [accessUnitHasNalTurn]
  by_cases inside : nalStart < data.length
  · rw [if_pos inside, findStartCodeWithin_eq enough]
    refine ⟨_, rfl, ?_⟩
    cases found : findStartCode data nalStart with
    | none =>
        refine .leave ?_
        rw [slices_drop_none inside found, ask_singleton]
    | some next =>
        obtain ⟨nextStart, nextStartLen⟩ := next
        obtain ⟨forward, three, -⟩ := findStartCode_bounds found
        have here := slices_drop_some found
        simp only
        by_cases some' : nextStart > nalStart
        · rw [if_pos some'] at here ⊢
          cases answer : predicate noted (slice data nalStart nextStart) with
          | mk holds next =>
              have asked : ask predicate noted (slices (data.drop nalStart)) =
                  if holds then (true, next) else
                    ask predicate next (slices (data.drop (nextStart + nextStartLen))) := by
                rw [here, List.singleton_append, ask, ← slice, answer]
              cases holds with
              | true => exact .leave asked.symm
              | false => exact .again asked.symm (by simp only; omega)
        · rw [if_neg some'] at here ⊢
          refine .again ?_ (by simp only; omega)
          simp only
          rw [here, List.nil_append]
  · rw [if_neg inside]
    refine ⟨_, rfl, .leave ?_⟩
    rw [slices_drop_past (by omega), ask]

theorem naluTurn_keeps {fuel : Nat} {data : Bytes} (enough : data.length < fuel) (call : ω → Bytes → ω)
    (state : Nat × ω) :
    ∃ outcome, naluTurn fuel data call state = some outcome ∧
      Keeps (fun state => (slices (data.drop state.1)).foldl call state.2)
        (fun state => data.length - state.1) state outcome := by
  obtain ⟨naluStart, out⟩ := state
  rw [naluTurn]
  by_cases inside : naluStart < data.length
  · rw [if_pos inside, findAnnexbStartCodeWithin_eq enough]
    refine ⟨_, rfl, ?_⟩
    cases found : findStartCode data naluStart with
    | none =>
        refine .leave ?_
        rw [slices_drop_none inside found]
        rfl
    | some next =>
        obtain ⟨nextPos, nextLen⟩ := next
        obtain ⟨forward, three, -⟩ := findStartCode_bounds found
        have here := slices_drop_some found
        simp only
        by_cases some' : nextPos > naluStart
        · rw [if_pos some'] at here ⊢
          refine .again ?_ (by simp only; omega)
          simp only
          rw [here, List.singleton_append, List.foldl_cons, slice]
        · rw [if_neg some'] at here ⊢
          refine .again ?_ (by simp only; omega)
          simp only
          rw [here, List.nil_append]
  · rw [if_neg inside]
    refine ⟨_, rfl, .leave ?_⟩
    rw [slices_drop_past (by omega), List.foldl_nil]

/-! ## The functions end -/

section Ends

variable {fuel : Nat} {data : Bytes} (enough : data.length < fuel)

section Coded

variable {pos len : Nat} (first : findStartCode data 0 = some (pos, len))

include enough first

theorem accessUnitHasNalWithin_coded (predicate : σ → Bytes → Bool × σ) (noted : σ) :
    accessUnitHasNalWithin fuel data predicate noted =
      some (ask predicate noted (slices (data.drop (pos + len)))) := by
  rw [accessUnitHasNalWithin, findStartCodeWithin_eq enough, first]
  exact run_eq_answer (accessUnitHasNalTurn_keeps enough predicate) (by simp only; omega)

theorem forEachNaluAnnexbWithin_coded (f : σ → Bytes → σ) (noted : σ) :
    forEachNaluAnnexbWithin fuel data f noted = some ((slices (data.drop (pos + len))).foldl f noted) := by
  rw [forEachNaluAnnexbWithin, findAnnexbStartCodeWithin_eq enough, first]
  exact run_eq_answer (naluTurn_keeps enough f) (by simp only; omega)

theorem annexbToAvccFastWithin_coded (filter : σ → UInt8 → Bool × σ) (noted : σ) :
    annexbToAvccFastWithin fuel data filter noted =
      some ((slices (data.drop (pos + len))).foldl (appendFilteredNalu filter) ([], noted)) := by
  rw [annexbToAvccFastWithin, findAnnexbStartCodeWithin_eq enough, first]
  exact run_eq_answer (naluTurn_keeps enough (appendFilteredNalu filter)) (by simp only; omega)

end Coded

/-- The key frame search goes along the slices. -/
theorem accessUnitHasNalFrom_eq (predicate : Bytes → Bool) {data : Bytes} {fuel nalStart : Nat}
    (enough : data.length ≤ fuel + nalStart) :
    accessUnitHasNalFrom data predicate fuel nalStart = (slices (data.drop nalStart)).any predicate := by
  induction fuel generalizing nalStart with
  | zero =>
      rw [slices_drop_past (by omega)]
      rfl
  | succ fuel ih =>
      rw [accessUnitHasNalFrom]
      by_cases inside : nalStart < data.length
      · rw [if_pos inside]
        cases found : findStartCode data nalStart with
        | none =>
            rw [slices_drop_none inside found, List.any_cons, List.any_nil, Bool.or_false]
        | some next =>
            obtain ⟨nextStart, nextStartLen⟩ := next
            obtain ⟨forward, three, -⟩ := findStartCode_bounds found
            simp only
            rw [ih (by omega), slices_drop_some found, List.any_append]
            by_cases some' : nextStart > nalStart
            · rw [if_pos some', decide_eq_true some', Bool.true_and]
              cases holds : predicate ((data.drop nalStart).take (nextStart - nalStart)) <;> simp [holds]
            · rw [if_neg some', decide_eq_false some', Bool.false_and]
              simp
      · rw [if_neg inside, slices_drop_past (by omega), List.any_nil]

include enough

/-- With a predicate that notes nothing it is the search that the gate makes. -/
theorem accessUnitHasNalWithin_pure (predicate : Bytes → Bool) :
    accessUnitHasNalWithin fuel data (fun _ nal => (predicate nal, ())) () =
      some (accessUnitHasNal data predicate, ()) := by
  cases first : findStartCode data 0 with
  | none =>
      rw [accessUnitHasNalWithin, findStartCodeWithin_eq enough, accessUnitHasNal, first]
      cases data <;> rfl
  | some found =>
      rw [accessUnitHasNalWithin_coded enough first, ask_pure, accessUnitHasNal, first]
      simp only
      rw [accessUnitHasNalFrom_eq predicate (Nat.le_add_right ..)]

theorem annexbToAvccFastWithin_eq (filter : σ → UInt8 → Bool × σ) (noted : σ) :
    annexbToAvccFastWithin fuel data filter noted = some (annexbToAvccFast filter noted data) := by
  cases first : findStartCode data 0 with
  | none =>
      rw [annexbToAvccFastWithin, findAnnexbStartCodeWithin_eq enough, annexbToAvccFast,
        findAnnexbStartCode_eq, first]
      rfl
  | some found =>
      rw [annexbToAvccFastWithin_coded enough first, annexbToAvccFast, findAnnexbStartCode_eq, first]
      simp only
      rw [annexbToAvccFrom_eq filter (Nat.le_add_right ..)]

end Ends

/-! ## What lies where -/

/-- No start code lies before the one that the search finds. -/
theorem no_code_before {data : Bytes} {pos place len : Nat}
    (found : findStartCodeIn data pos = some (place, len)) : ¬ [0, 0, 1] <:+: data.take (place - pos) := by
  induction data generalizing pos with
  | nil => cases found
  | cons byte rest ih =>
      have here : pos = place → ¬ [0, 0, 1] <:+: (byte :: rest).take (place - pos) := by
        rintro rfl
        rw [Nat.sub_self, List.take_zero]
        decide
      rw [findStartCodeIn] at found
      split_ifs at found with long short
      · exact here (by cases found; rfl)
      · exact here (by cases found; rfl)
      · obtain ⟨further, -, -⟩ := findStartCodeIn_bounds found
        rw [show place - pos = place - (pos + 1) + 1 by omega, List.take_succ_cons, List.infix_cons_iff]
        rintro (begins | later)
        · have whole : [0, 0, 1] <+: byte :: rest := begins.trans (List.take_prefix (_ + 1) (byte :: rest))
          exact short (List.prefix_iff_eq_take.mp whole).symm
        · exact ih found later

/-- Where the search finds nothing there is no start code. -/
theorem no_code_of_none {data : Bytes} {pos : Nat} (nothing : findStartCodeIn data pos = none) :
    ¬ [0, 0, 1] <:+: data := by
  induction data generalizing pos with
  | nil => decide
  | cons byte rest ih =>
      rw [findStartCodeIn] at nothing
      split_ifs at nothing with long short
      rw [List.infix_cons_iff]
      rintro (begins | later)
      · exact short (List.prefix_iff_eq_take.mp begins).symm
      · exact ih nothing later

/-- What the search finds is a start code. -/
theorem take_found {data : Bytes} {pos place len : Nat}
    (found : findStartCodeIn data pos = some (place, len)) :
    (data.drop (place - pos)).take len = [0, 0, 0, 1] ∨ (data.drop (place - pos)).take len = [0, 0, 1] := by
  induction data generalizing pos with
  | nil => cases found
  | cons byte rest ih =>
      rw [findStartCodeIn] at found
      split_ifs at found with long short
      · cases found
        exact .inl (by rw [Nat.sub_self]; exact long)
      · cases found
        exact .inr (by rw [Nat.sub_self]; exact short)
      · obtain ⟨further, -, -⟩ := findStartCodeIn_bounds found
        rw [show place - pos = place - (pos + 1) + 1 by omega, List.drop_succ_cons]
        exact ih found

def withBytes (pieces : List Bytes) : List Bytes := pieces.filter fun piece => !piece.isEmpty

theorem withBytes_cons (piece : Bytes) (rest : List Bytes) :
    withBytes (piece :: rest) = (if piece.length > 0 then [piece] else []) ++ withBytes rest := by
  cases piece <;> rfl

/--
The bytes from `start` on, cut at the start codes that the search finds one behind the other: what
stands before the first of them, and each code with what stands before the next.
-/
inductive Cut (data : Bytes) : Nat → Bytes → List (Bytes × Bytes) → Prop where
  | last {start : Nat} (noMore : findStartCode data start = none) : Cut data start (data.drop start) []
  | code {start pos len : Nat} {nal : Bytes} {parts : List (Bytes × Bytes)}
      (found : findStartCode data start = some (pos, len)) (later : Cut data (pos + len) nal parts) :
      Cut data start (slice data start pos) ((slice data pos (pos + len), nal) :: parts)

namespace Cut

variable {data before : Bytes} {start : Nat} {parts : List (Bytes × Bytes)}

/-- All bytes can be cut. -/
theorem total (data : Bytes) (start : Nat) : ∃ before parts, Cut data start before parts := by
  generalize size : data.length - start = left
  induction left using Nat.strong_induction_on generalizing start with
  | h left ih =>
      cases found : findStartCode data start with
      | none => exact ⟨_, [], .last found⟩
      | some next =>
          obtain ⟨pos, len⟩ := next
          obtain ⟨forward, three, fits⟩ := findStartCode_bounds found
          obtain ⟨nal, parts, later⟩ := ih (data.length - (pos + len)) (by omega) (pos + len) rfl
          exact ⟨_, _, .code found later⟩

/-- The pieces in their order are the bytes. -/
theorem joined (cut : Cut data start before parts) :
    before ++ parts.flatMap (fun part => part.1 ++ part.2) = data.drop start := by
  induction cut with
  | last noMore => exact List.append_nil _
  | @code start pos len nal parts found later ih =>
      obtain ⟨forward, -, -⟩ := findStartCode_bounds found
      have front : slice data start pos ++ data.drop pos = data.drop start := by
        have split := List.take_append_drop (pos - start) (data.drop start)
        rwa [List.drop_drop, Nat.add_sub_cancel' forward] at split
      have code : slice data pos (pos + len) ++ data.drop (pos + len) = data.drop pos := by
        have split := List.take_append_drop len (data.drop pos)
        rw [List.drop_drop] at split
        rw [slice, Nat.add_sub_cancel_left]
        exact split
      rw [List.flatMap_cons, List.append_assoc, ih, code, front]

theorem codes (cut : Cut data start before parts) :
    ∀ part ∈ parts, part.1 = [0, 0, 0, 1] ∨ part.1 = [0, 0, 1] := by
  induction cut with
  | last noMore => exact fun part member => absurd member List.not_mem_nil
  | @code start pos len nal parts found later ih =>
      obtain ⟨forward, -, -⟩ := findStartCode_bounds found
      have here := take_found found
      rw [List.drop_drop, Nat.add_sub_cancel' forward] at here
      rw [List.forall_mem_cons, slice, Nat.add_sub_cancel_left]
      exact ⟨here, ih⟩

/-- No piece between the codes has a start code in it. -/
theorem clean (cut : Cut data start before parts) :
    ∀ piece ∈ before :: parts.map Prod.snd, ¬ [0, 0, 1] <:+: piece := by
  induction cut with
  | last noMore =>
      rw [List.map_nil, List.forall_mem_singleton]
      exact no_code_of_none noMore
  | code found later ih =>
      rw [List.map_cons, List.forall_mem_cons]
      exact ⟨no_code_before found, ih⟩

/-- The slices are the pieces between the codes that have a byte. -/
theorem slices_eq (cut : Cut data start before parts) :
    slices (data.drop start) = withBytes (before :: parts.map Prod.snd) := by
  induction cut with
  | @last start noMore =>
      rw [List.map_nil]
      by_cases inside : start < data.length
      · rw [slices_drop_none inside noMore, withBytes_cons, if_pos (by rw [List.length_drop]; omega)]
        rfl
      · rw [slices_drop_past (by omega), List.drop_eq_nil_of_le (by omega)]
        rfl
  | @code start pos len nal parts found later ih =>
      obtain ⟨-, -, fits⟩ := findStartCode_bounds found
      have length : (slice data start pos).length = pos - start := by
        rw [slice, List.length_take, List.length_drop]
        omega
      rw [slices_drop_some found, ih, List.map_cons, withBytes_cons (slice data start pos), length]
      congr 1
      exact ite_congr (propext (by omega)) (fun _ => rfl) fun _ => rfl

end Cut

/-! ## The splitters agree -/

/-- The pieces behind start codes that have a byte. -/
def nalsOf (parts : List (Bytes × Bytes)) : List Bytes := withBytes (parts.map Prod.snd)

/-- Within a number of turns each of the three ends and has called its function for these NAL
units, one after another and for no others. -/
structure Visit (fuel : Nat) (data : Bytes) (nals : List Bytes) : Prop where
  accessUnitHasNal : ∀ {σ : Type} (predicate : σ → Bytes → Bool × σ),
    (∀ noted nal, (predicate noted nal).1 = false) → ∀ noted,
      accessUnitHasNalWithin fuel data predicate noted =
        some (false, nals.foldl (fun noted nal => (predicate noted nal).2) noted)
  forEachNaluAnnexb : ∀ {σ : Type} (f : σ → Bytes → σ) (noted : σ),
    forEachNaluAnnexbWithin fuel data f noted = some (nals.foldl f noted)
  annexbToAvccFast : ∀ {σ : Type} (filter : σ → UInt8 → Bool × σ) (noted : σ),
    annexbToAvccFastWithin fuel data filter noted =
      some (nals.foldl (appendFilteredNalu filter) ([], noted))
  filterCalls : ∀ {σ : Type} (filter : σ → UInt8 → Bool × σ) (noted : σ),
    (nals.foldl (appendFilteredNalu filter) ([], noted)).2 =
      nals.foldl (fun noted nal => (filter noted (getNalType nal)).2) noted

/-- A function that collects what it is called for has collected the NAL units. -/
theorem Visit.collected {fuel : Nat} {data : Bytes} {nals : List Bytes} (visit : Visit fuel data nals) :
    forEachNaluAnnexbWithin fuel data (fun seen nal => seen ++ [nal]) [] = some nals := by
  rw [visit.forEachNaluAnnexb, List.foldl_append_eq_append, List.nil_append, ← List.flatMap_def,
    List.flatMap_singleton']

/-- For a NAL unit that has a byte the filter is asked once. -/
theorem foldl_appendFilteredNalu_snd (filter : σ → UInt8 → Bool × σ) {nals : List Bytes}
    (nonempty : ∀ nal ∈ nals, nal ≠ []) (out : Bytes × σ) :
    (nals.foldl (appendFilteredNalu filter) out).2 =
      nals.foldl (fun noted nal => (filter noted (getNalType nal)).2) out.2 := by
  induction nals generalizing out with
  | nil => rfl
  | cons nal rest ih =>
      have some' : nal.isEmpty = false := List.isEmpty_eq_false_iff.mpr (nonempty nal (List.mem_cons_self ..))
      have here : (appendFilteredNalu filter out nal).2 = (filter out.2 (getNalType nal)).2 := by
        rw [appendFilteredNalu, some', if_neg Bool.false_ne_true]
        cases answer : filter out.2 (getNalType nal) with
        | mk keep next => cases keep <;> rfl
      rw [List.foldl_cons, List.foldl_cons, ← here]
      exact ih (fun other member => nonempty other (List.mem_cons_of_mem _ member)) _

theorem nalsOf_ne_nil {parts : List (Bytes × Bytes)} : ∀ nal ∈ nalsOf parts, nal ≠ [] := by
  intro nal member empty
  have kept := (List.mem_filter.mp member).2
  rw [empty] at kept
  cases kept

/-- Behind a start code all three visit the pieces that have a byte. -/
theorem Cut.visit {data before : Bytes} {parts : List (Bytes × Bytes)} (cut : Cut data 0 before parts)
    (coded : parts ≠ []) {fuel : Nat} (enough : data.length < fuel) : Visit fuel data (nalsOf parts) := by
  cases cut with
  | last noMore => exact absurd rfl coded
  | @code _ pos len nal parts found later =>
      have visited : nalsOf ((slice data pos (pos + len), nal) :: parts) = slices (data.drop (pos + len)) :=
        later.slices_eq.symm
      exact {
        accessUnitHasNal := fun predicate never noted => by
          rw [accessUnitHasNalWithin_coded enough found, ask_never never, visited]
        forEachNaluAnnexb := fun f noted => by
          rw [forEachNaluAnnexbWithin_coded enough found, visited]
        annexbToAvccFast := fun filter noted => by
          rw [annexbToAvccFastWithin_coded enough found, visited]
        filterCalls := fun filter noted => foldl_appendFilteredNalu_snd filter nalsOf_ne_nil _ }

/-- The gate looks for a key frame among the NAL units that the others see. -/
theorem Cut.accessUnitHasNal_eq {data before : Bytes} {parts : List (Bytes × Bytes)}
    (cut : Cut data 0 before parts) (coded : parts ≠ []) (predicate : Bytes → Bool) :
    accessUnitHasNal data predicate = (nalsOf parts).any predicate := by
  have ended := accessUnitHasNalWithin_pure (Nat.lt_succ_self data.length) predicate
  cases cut with
  | last noMore => exact absurd rfl coded
  | code found later =>
      rw [accessUnitHasNalWithin_coded (Nat.lt_succ_self _) found, ask_pure, later.slices_eq] at ended
      exact (Prod.mk.inj (Option.some.inj ended)).1.symm

/-- The muxer writes those of them that its filter keeps. -/
theorem Cut.annexbToAvccFast_eq {data before : Bytes} {parts : List (Bytes × Bytes)}
    (cut : Cut data 0 before parts) (coded : parts ≠ []) (filter : σ → UInt8 → Bool × σ) (noted : σ) :
    annexbToAvccFast filter noted data =
      (avcc (filtered filter noted (nalsOf parts)).1, (filtered filter noted (nalsOf parts)).2) := by
  have enough := Nat.lt_succ_self data.length
  have ended := annexbToAvccFastWithin_eq enough filter noted
  rw [(cut.visit coded enough).annexbToAvccFast, foldl_appendFilteredNalu filter nalsOf_ne_nil,
    List.nil_append] at ended
  exact (Option.some.inj ended).symm

/-- Where there is a start code the three splitters end and visit the same NAL units, none of which
is empty or has a start code in it; with what stands before the first start code and the codes that
are skipped they are the bytes.  The gate looks among these NAL units, and the muxer writes what it
keeps of them. -/
theorem splitters_agree {data : Bytes} (coded : [0, 0, 1] <:+: data) :
    ∃ before parts, Cut data 0 before parts ∧ parts ≠ [] ∧
      before ++ parts.flatMap (fun part => part.1 ++ part.2) = data ∧
      (∀ part ∈ parts, part.1 = [0, 0, 0, 1] ∨ part.1 = [0, 0, 1]) ∧
      ¬ [0, 0, 1] <:+: before ∧
      (∀ nal ∈ nalsOf parts, nal ≠ [] ∧ ¬ [0, 0, 1] <:+: nal) ∧
      (∀ fuel, data.length < fuel → Visit fuel data (nalsOf parts)) ∧
      (∀ predicate, accessUnitHasNal data predicate = (nalsOf parts).any predicate) ∧
      ∀ {σ : Type} (filter : σ → UInt8 → Bool × σ) (noted : σ), annexbToAvccFast filter noted data =
        (avcc (filtered filter noted (nalsOf parts)).1, (filtered filter noted (nalsOf parts)).2) := by
  obtain ⟨before, parts, cut⟩ := Cut.total data 0
  have clean := List.forall_mem_cons.mp cut.clean
  have some' : parts ≠ [] := by
    rintro rfl
    have whole := cut.joined
    rw [List.flatMap_nil, List.append_nil, List.drop_zero] at whole
    exact clean.1 (whole ▸ coded)
  exact ⟨before, parts, cut, some', cut.joined, cut.codes, clean.1,
    fun nal member => ⟨nalsOf_ne_nil nal member, clean.2 nal (List.mem_filter.mp member).1⟩,
    fun fuel enough => cut.visit some' enough, cut.accessUnitHasNal_eq some', cut.annexbToAvccFast_eq some'⟩

/-- Bytes before the first start code, two codes with nothing between them and one at the end. -/
def adjacentCodes : Bytes :=
  [9] ++ [0, 0, 1] ++ [0x40, 1] ++ [0, 0, 0, 1] ++ [0, 0, 1] ++ [0x26, 1, 0] ++ [0, 0, 0, 1]

theorem splitters_agree_adjacent :
    [0, 0, 1] <:+: adjacentCodes ∧ ∃ before parts, Cut adjacentCodes 0 before parts ∧
      nalsOf parts = [[0x40, 1], [0x26, 1, 0]] ∧ Visit 21 adjacentCodes [[0x40, 1], [0x26, 1, 0]] := by
  have coded : [0, 0, 1] <:+: adjacentCodes := by decide
  obtain ⟨before, parts, cut, -, -, -, -, -, visits, -, -⟩ := splitters_agree coded
  have visit := visits 21 (by decide)
  have seen : forEachNaluAnnexbWithin 21 adjacentCodes (fun seen nal => seen ++ [nal]) [] =
      some [[0x40, 1], [0x26, 1, 0]] := by decide +kernel
  have same : nalsOf parts = [[0x40, 1], [0x26, 1, 0]] :=
    Option.some.inj (visit.collected.symm.trans seen)
  exact ⟨coded, before, parts, cut, same, same ▸ visit⟩

end Gmv.Stream.AnnexBSplitters
