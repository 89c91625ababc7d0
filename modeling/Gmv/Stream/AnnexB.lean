import Gmv.Library.ByteFormat
import Gmv.Stream.KeyframeSearch

/-!
# From Annex B to AVCC

The FLV muxer takes the NAL units of a packet out of their start codes and writes those that a
filter keeps behind their lengths.  A packet without a start code is taken to be in this format
already.  What lies between the start codes is told first, and what becomes of it after that.
-/

namespace Gmv.Stream.AnnexB

open Gmv.Library.ByteFormat

variable {σ : Type}

/-! ## The muxer -/

def getNalType (nalu : Bytes) : UInt8 :=
  match nalu with
  | [] => 0
  | first :: _ => (first >>> 1) &&& 0x3f

def annexbStartCodeLen (data : Bytes) (pos : Nat) : Option Nat :=
  if pos + 4 ≤ data.length && [0, 0, 0, 1].isPrefixOf (data.drop pos) then some 4
  else if pos + 3 ≤ data.length && [0, 0, 1].isPrefixOf (data.drop pos) then some 3
  else none

/-- The loop over the positions.  The fuel is the number of bytes. -/
def findAnnexbStartCodeFrom (data : Bytes) : Nat → Nat → Option (Nat × Nat)
  | 0, _ => none
  | fuel + 1, pos =>
      if pos + 3 ≤ data.length then
        match annexbStartCodeLen data pos with
        | some len => some (pos, len)
        | none => findAnnexbStartCodeFrom data fuel (pos + 1)
      else none

def findAnnexbStartCode (data : Bytes) (start : Nat) : Option (Nat × Nat) :=
  findAnnexbStartCodeFrom data data.length start

/-- The filter sees the type of a NAL unit and may change what it has noted. -/
def appendFilteredNalu (filter : σ → UInt8 → Bool × σ) (out : Bytes × σ) (nal : Bytes) : Bytes × σ :=
  if nal.isEmpty then out
  else
    let (keep, noted) := filter out.2 (getNalType nal)
    if keep then (out.1 ++ beBytes 4 nal.length ++ nal, noted) else (out.1, noted)

/-- The loop over the NAL units that carry their lengths.  The fuel is the number of bytes, which
every turn shortens. -/
def parseAvccFrom : Nat → Bytes → List Bytes
  | 0, _ => []
  | fuel + 1, data =>
      if data.length < 4 then []
      else
        let nalLen := beValue (data.take 4)
        let rest := data.drop 4
        if rest.length < nalLen then []
        else rest.take nalLen :: parseAvccFrom fuel (rest.drop nalLen)

def parseAvcc (data : Bytes) : List Bytes := parseAvccFrom data.length data

/-- The loop from one start code to the next.  The fuel is the number of bytes; every turn moves
`nalStart` past a start code. -/
def annexbToAvccFrom (filter : σ → UInt8 → Bool × σ) (data : Bytes) : Nat → Nat → Bytes × σ → Bytes × σ
  | 0, _, out => out
  | fuel + 1, nalStart, out =>
      if nalStart < data.length then
        match findAnnexbStartCode data nalStart with
        | some (nextPos, nextLen) =>
            let out :=
              if nextPos > nalStart then
                appendFilteredNalu filter out ((data.drop nalStart).take (nextPos - nalStart))
              else out
            annexbToAvccFrom filter data fuel (nextPos + nextLen) out
        | none => appendFilteredNalu filter out (data.drop nalStart)
      else out

def annexbToAvccFast (filter : σ → UInt8 → Bool × σ) (noted : σ) (data : Bytes) : Bytes × σ :=
  match findAnnexbStartCode data 0 with
  | none => (parseAvcc data).foldl (appendFilteredNalu filter) ([], noted)
  | some (startPos, startLen) =>
      annexbToAvccFrom filter data data.length (startPos + startLen) ([], noted)

/-! ## The search -/

/-- A list begins with a code when its first items are the code. -/
theorem isPrefixOf_iff_take {code data : Bytes} :
    code.isPrefixOf data = true ↔ data.take code.length = code := by
  rw [List.isPrefixOf_iff_prefix, List.prefix_iff_eq_take]
  exact eq_comm

/-- What begins with a code is as long as it. -/
theorem length_of_take_eq {code data : Bytes} (begins : data.take code.length = code) :
    code.length ≤ data.length := by
  have := congrArg List.length begins
  rw [List.length_take] at this
  omega

/-- No start code begins in fewer than three bytes. -/
theorem findStartCodeIn_short {data : Bytes} (short : data.length < 3) (pos : Nat) :
    findStartCodeIn data pos = none := by
  induction data generalizing pos with
  | nil => rfl
  | cons byte rest ih =>
      have notLong : (byte :: rest).take 4 ≠ [0, 0, 0, 1] := fun begins =>
        absurd (length_of_take_eq (show (byte :: rest).take ([0, 0, 0, 1] : Bytes).length = _ from begins))
          (Nat.not_le.mpr (Nat.lt_succ_of_lt short))
      have notShort : (byte :: rest).take 3 ≠ [0, 0, 1] := fun begins =>
        absurd (length_of_take_eq (show (byte :: rest).take ([0, 0, 1] : Bytes).length = _ from begins))
          (Nat.not_le.mpr short)
      rw [findStartCodeIn, if_neg notLong, if_neg notShort]
      exact ih (Nat.lt_of_succ_lt short) _

/-- The bytes that are left hold a code that they begin with. -/
theorem startsWith_iff {data code : Bytes} {pos : Nat} (some' : 0 < code.length) :
    (decide (pos + code.length ≤ data.length) && code.isPrefixOf (data.drop pos)) = true ↔
      (data.drop pos).take code.length = code := by
  rw [Bool.and_eq_true, decide_eq_true_iff, isPrefixOf_iff_take]
  constructor
  · exact And.right
  · intro begins
    have := length_of_take_eq begins
    rw [List.length_drop] at this
    exact ⟨by omega, begins⟩

theorem annexbStartCodeLen_eq (data : Bytes) (pos : Nat) :
    annexbStartCodeLen data pos =
      if (data.drop pos).take 4 = [0, 0, 0, 1] then some 4
      else if (data.drop pos).take 3 = [0, 0, 1] then some 3 else none := by
  have long := @startsWith_iff data [0, 0, 0, 1] pos (by decide)
  have short := @startsWith_iff data [0, 0, 1] pos (by decide)
  rw [annexbStartCodeLen]
  exact ite_congr (propext long) (fun _ => rfl) fun _ =>
    ite_congr (propext short) (fun _ => rfl) fun _ => rfl

/-- Where three bytes are left, the search looks at them and goes on one byte further. -/
theorem findStartCode_turn {data : Bytes} {pos : Nat} (room : pos + 3 ≤ data.length) :
    findStartCode data pos =
      if (data.drop pos).take 4 = [0, 0, 0, 1] then some (pos, 4)
      else if (data.drop pos).take 3 = [0, 0, 1] then some (pos, 3)
      else findStartCode data (pos + 1) := by
  obtain ⟨byte, rest, same⟩ := List.exists_cons_of_length_pos
    (show 0 < (data.drop pos).length by rw [List.length_drop]; omega)
  have behind : data.drop (pos + 1) = rest := by rw [← List.drop_drop, same]; rfl
  rw [findStartCode, findStartCode, behind, same, findStartCodeIn]

theorem findStartCode_end {data : Bytes} {pos : Nat} (short : data.length < pos + 3) :
    findStartCode data pos = none := by
  rw [findStartCode, findStartCodeIn_short]
  rw [List.length_drop]
  omega

/-- The search by positions is the search along the bytes. -/
theorem findAnnexbStartCodeFrom_eq {data : Bytes} {fuel pos : Nat} (enough : data.length ≤ fuel + pos) :
    findAnnexbStartCodeFrom data fuel pos = findStartCode data pos := by
  induction fuel generalizing pos with
  | zero => exact (findStartCode_end (by omega)).symm
  | succ fuel ih =>
      rw [findAnnexbStartCodeFrom]
      by_cases room : pos + 3 ≤ data.length
      · rw [if_pos room, ih (by omega), annexbStartCodeLen_eq, findStartCode_turn room]
        split_ifs <;> rfl
      · rw [if_neg room, findStartCode_end (by omega)]

theorem findAnnexbStartCode_eq (data : Bytes) (start : Nat) :
    findAnnexbStartCode data start = findStartCode data start :=
  findAnnexbStartCodeFrom_eq (Nat.le_add_right ..)

/-- What the search finds lies in the bytes. -/
theorem findStartCodeIn_bounds {data : Bytes} {pos found len : Nat}
    (result : findStartCodeIn data pos = some (found, len)) :
    pos ≤ found ∧ 3 ≤ len ∧ found + len ≤ pos + data.length := by
  induction data generalizing pos with
  | nil => cases result
  | cons byte rest ih =>
      rw [findStartCodeIn] at result
      split_ifs at result with long short
      · cases result
        have fits := length_of_take_eq (show (byte :: rest).take ([0, 0, 0, 1] : Bytes).length = _ from long)
        simp only [List.length_cons, List.length_nil] at fits ⊢
        omega
      · cases result
        have fits := length_of_take_eq (show (byte :: rest).take ([0, 0, 1] : Bytes).length = _ from short)
        simp only [List.length_cons, List.length_nil] at fits ⊢
        omega
      · have bounds := ih result
        rw [List.length_cons]
        omega

/-- Where a search begins to count moves what it finds. -/
theorem findStartCodeIn_shift (data : Bytes) (pos : Nat) :
    findStartCodeIn data pos = (findStartCodeIn data 0).map fun found => (pos + found.1, found.2) := by
  induction data generalizing pos with
  | nil => rfl
  | cons byte rest ih =>
      rw [findStartCodeIn, findStartCodeIn]
      split_ifs
      · rfl
      · rfl
      · rw [ih (pos + 1), ih (0 + 1), Option.map_map]
        congr 1
        funext found
        simp only [Function.comp_apply, Prod.mk.injEq, and_true]
        omega

/-! ## What lies between the start codes -/

/-- The bytes up to each start code, without those that are none. -/
def slicesFrom : Nat → Bytes → List Bytes
  | 0, _ => []
  | fuel + 1, data =>
      if data.isEmpty then []
      else
        match findStartCodeIn data 0 with
        | some (pos, len) =>
            (if 0 < pos then [data.take pos] else []) ++ slicesFrom fuel (data.drop (pos + len))
        | none => [data]

def slices (data : Bytes) : List Bytes := slicesFrom data.length data

theorem slicesFrom_enough {fuel : Nat} {data : Bytes} (enough : data.length ≤ fuel) :
    slicesFrom fuel data = slices data := by
  rw [slices]
  generalize size : data.length = least at enough ⊢
  have fits : data.length ≤ least := size.le
  clear size
  induction least generalizing fuel data with
  | zero =>
      rw [List.length_eq_zero_iff.mp (Nat.le_zero.mp fits)]
      cases fuel <;> rfl
  | succ least ih =>
      obtain ⟨fuel, rfl⟩ := Nat.exists_eq_add_of_le' (Nat.le_of_add_left_le enough : 1 ≤ fuel)
      rw [slicesFrom, slicesFrom]
      split_ifs with empty
      · rfl
      · split
        · next pos len found =>
            obtain ⟨-, three, -⟩ := findStartCodeIn_bounds found
            rw [ih (Nat.le_of_succ_le_succ enough) (by rw [List.length_drop]; omega)]
        · rfl

@[simp]
theorem slices_nil : slices [] = [] := rfl

theorem slices_none {data : Bytes} (some' : data ≠ []) (none' : findStartCodeIn data 0 = none) :
    slices data = [data] := by
  obtain ⟨byte, rest, rfl⟩ := List.exists_cons_of_ne_nil some'
  rw [slices, List.length_cons, slicesFrom, if_neg (by simp), none']

theorem slices_some {data : Bytes} {pos len : Nat} (found : findStartCodeIn data 0 = some (pos, len)) :
    slices data = (if 0 < pos then [data.take pos] else []) ++ slices (data.drop (pos + len)) := by
  obtain ⟨-, three, fits⟩ := findStartCodeIn_bounds found
  obtain ⟨byte, rest, rfl⟩ := List.exists_cons_of_length_pos (show 0 < data.length by omega)
  rw [slices, List.length_cons, slicesFrom, if_neg (by simp), found]
  simp only
  rw [slicesFrom_enough]
  rw [List.length_drop, List.length_cons]
  omega

theorem slicesFrom_ne_nil {fuel : Nat} {data slice : Bytes} (member : slice ∈ slicesFrom fuel data) :
    slice ≠ [] := by
  induction fuel generalizing data with
  | zero => cases member
  | succ fuel ih =>
      rw [slicesFrom] at member
      split_ifs at member with empty
      · cases member
      · split at member
        · next pos len found =>
            obtain ⟨-, three, fits⟩ := findStartCodeIn_bounds found
            rcases List.mem_append.mp member with here | later
            · split_ifs at here with some'
              · rw [List.mem_singleton.mp here]
                intro nothing
                have := congrArg List.length nothing
                rw [List.length_take, List.length_nil] at this
                omega
              · cases here
            · exact ih later
        · rw [List.mem_singleton.mp member]
          exact fun nothing => empty (List.isEmpty_iff.mpr nothing)

theorem slices_ne_nil {data slice : Bytes} (member : slice ∈ slices data) : slice ≠ [] :=
  slicesFrom_ne_nil member

/-- What a search from a position finds lies behind the position. -/
theorem findStartCode_bounds {data : Bytes} {start pos len : Nat}
    (found : findStartCode data start = some (pos, len)) :
    start ≤ pos ∧ 3 ≤ len ∧ pos + len ≤ data.length := by
  have bounds := findStartCodeIn_bounds found
  rw [List.length_drop] at bounds
  omega

theorem slices_drop_past {data : Bytes} {start : Nat} (past : data.length ≤ start) :
    slices (data.drop start) = [] := by
  rw [List.drop_eq_nil_of_le past, slices_nil]

theorem slices_drop_none {data : Bytes} {start : Nat} (inside : start < data.length)
    (noMore : findStartCode data start = none) : slices (data.drop start) = [data.drop start] := by
  rw [findStartCode, findStartCodeIn_shift, Option.map_eq_none_iff] at noMore
  refine slices_none ?_ noMore
  rw [ne_eq, List.drop_eq_nil_iff]
  omega

theorem slices_drop_some {data : Bytes} {start pos len : Nat}
    (found : findStartCode data start = some (pos, len)) :
    slices (data.drop start) =
      (if pos > start then [(data.drop start).take (pos - start)] else []) ++
        slices (data.drop (pos + len)) := by
  rw [findStartCode, findStartCodeIn_shift, Option.map_eq_some_iff] at found
  obtain ⟨⟨skipped, width⟩, first, place⟩ := found
  obtain ⟨rfl, rfl⟩ := Prod.mk.inj place
  rw [slices_some first, List.drop_drop, Nat.add_assoc, Nat.add_sub_cancel_left]
  congr 1
  exact ite_congr (propext (by omega)) (fun _ => rfl) fun _ => rfl

/-- The muxer's loop goes along the slices. -/
theorem annexbToAvccFrom_eq (filter : σ → UInt8 → Bool × σ) {data : Bytes} {fuel nalStart : Nat}
    (enough : data.length ≤ fuel + nalStart) (out : Bytes × σ) :
    annexbToAvccFrom filter data fuel nalStart out =
      (slices (data.drop nalStart)).foldl (appendFilteredNalu filter) out := by
  induction fuel generalizing nalStart out with
  | zero =>
      rw [slices_drop_past (by omega)]
      rfl
  | succ fuel ih =>
      rw [annexbToAvccFrom]
      by_cases inside : nalStart < data.length
      · rw [if_pos inside, findAnnexbStartCode_eq]
        cases found : findStartCode data nalStart with
        | none =>
            rw [slices_drop_none inside found]
            rfl
        | some next =>
            obtain ⟨nextPos, nextLen⟩ := next
            obtain ⟨forward, three, -⟩ := findStartCode_bounds found
            simp only
            rw [ih (by omega), slices_drop_some found, List.foldl_append]
            congr 1
            split_ifs <;> rfl
      · rw [if_neg inside, slices_drop_past (by omega)]
        rfl

/-! ## What the filter keeps -/

/-- The NAL units that the filter keeps, asked about each of them once and in order, and what it
has noted then. -/
def filtered (filter : σ → UInt8 → Bool × σ) : σ → List Bytes → List Bytes × σ
  | noted, [] => ([], noted)
  | noted, nal :: rest =>
      let (keep, noted) := filter noted (getNalType nal)
      let (kept, noted) := filtered filter noted rest
      (if keep then nal :: kept else kept, noted)

/-- A NAL unit behind its length. -/
def avccUnit (nal : Bytes) : Bytes := beBytes 4 nal.length ++ nal

def avcc (nals : List Bytes) : Bytes := nals.flatMap avccUnit

@[simp] theorem avcc_cons (nal : Bytes) (rest : List Bytes) :
    avcc (nal :: rest) = avccUnit nal ++ avcc rest := rfl

theorem foldl_appendFilteredNalu (filter : σ → UInt8 → Bool × σ) {nals : List Bytes}
    (nonempty : ∀ nal ∈ nals, nal ≠ []) (out : Bytes) (noted : σ) :
    nals.foldl (appendFilteredNalu filter) (out, noted) =
      (out ++ avcc (filtered filter noted nals).1, (filtered filter noted nals).2) := by
  induction nals generalizing out noted with
  | nil =>
      rw [filtered]
      exact Prod.ext (List.append_nil out).symm rfl
  | cons nal rest ih =>
      have some' : nal.isEmpty = false := List.isEmpty_eq_false_iff.mpr (nonempty nal (List.mem_cons_self ..))
      have later := ih fun other member => nonempty other (List.mem_cons_of_mem _ member)
      rw [List.foldl_cons, appendFilteredNalu, some', if_neg Bool.false_ne_true, filtered]
      cases answer : filter noted (getNalType nal) with
      | mk keep next =>
          cases keep with
          | true => simp [later, avccUnit]
          | false => simp [later]

/-! ## What the lengths say -/

/-- A NAL unit that is shorter than its length can tell is read back. -/
theorem parseAvccFrom_avcc {nals : List Bytes} (short : ∀ nal ∈ nals, nal.length < 2 ^ 32) {fuel : Nat}
    (enough : (avcc nals).length ≤ fuel) : parseAvccFrom fuel (avcc nals) = nals := by
  induction nals generalizing fuel with
  | nil => cases fuel <;> rfl
  | cons nal rest ih =>
      have here : beValue (beBytes 4 nal.length) = nal.length :=
        beValue_beBytes_of_lt (short nal (List.mem_cons_self ..))
      rw [avcc_cons, avccUnit, List.append_assoc] at enough ⊢
      simp only [List.length_append, length_beBytes] at enough
      obtain ⟨fuel, rfl⟩ := Nat.exists_eq_add_of_le' (Nat.le_of_add_right_le enough |>.trans' (by decide : 1 ≤ 4))
      have later : parseAvccFrom fuel (avcc rest) = rest :=
        ih (fun other member => short other (List.mem_cons_of_mem _ member)) (by omega)
      have front : (beBytes 4 nal.length ++ (nal ++ avcc rest)).take 4 = beBytes 4 nal.length :=
        List.take_left' (length_beBytes ..)
      have back : (beBytes 4 nal.length ++ (nal ++ avcc rest)).drop 4 = nal ++ avcc rest :=
        List.drop_left' (length_beBytes ..)
      rw [parseAvccFrom, front, back, here, if_neg (by rw [List.length_append, length_beBytes]; omega)]
      simp only
      rw [if_neg (by rw [List.length_append]; omega), List.take_left, List.drop_left, later]

theorem parseAvcc_avcc {nals : List Bytes} (short : ∀ nal ∈ nals, nal.length < 2 ^ 32) :
    parseAvcc (avcc nals) = nals := parseAvccFrom_avcc short (Nat.le_refl _)

/-- No more is read for a NAL unit than its length can tell. -/
theorem length_parseAvccFrom_lt {fuel : Nat} {data nal : Bytes} (member : nal ∈ parseAvccFrom fuel data) :
    nal.length < 2 ^ 32 := by
  induction fuel generalizing data with
  | zero => cases member
  | succ fuel ih =>
      rw [parseAvccFrom] at member
      split_ifs at member with short
      · cases member
      · simp only at member
        split_ifs at member with partly
        · cases member
        · rcases List.mem_cons.mp member with rfl | later
          · have told := beValue_lt (data.take 4)
            rw [List.length_take, Nat.min_eq_left (by omega)] at told
            rw [List.length_take]
            exact Nat.lt_of_le_of_lt (Nat.min_le_left ..) told
          · exact ih later

/-! ## NAL units behind start codes -/

def codeOf (long : Bool) : Bytes := if long then [0, 0, 0, 1] else [0, 0, 1]

/-- NAL units, each behind a start code of four bytes or of three. -/
def mixed (units : List (Bool × Bytes)) : Bytes := units.flatMap fun unit => codeOf unit.1 ++ unit.2

theorem findStartCodeIn_code (long : Bool) (rest : Bytes) (pos : Nat) :
    findStartCodeIn (codeOf long ++ rest) pos = some (pos, (codeOf long).length) := by
  cases long <;> rfl

/-- A NAL unit ends where the next start code begins. -/
theorem slices_mixed {nal : Bytes} {units : List (Bool × Bytes)} (clean : Escaped nal) (some' : nal ≠ [])
    (escaped : ∀ unit ∈ units, Escaped unit.2 ∧ unit.2 ≠ []) :
    slices (nal ++ mixed units) = nal :: units.map Prod.snd := by
  induction units generalizing nal with
  | nil =>
      have noMore : findStartCodeIn (nal ++ mixed []) 0 = none := findStartCodeIn_skip clean [] 0
      rw [slices_none (by simpa [mixed] using some') noMore, mixed, List.flatMap_nil, List.append_nil]
      rfl
  | cons unit rest ih =>
      obtain ⟨unitClean, unitSome⟩ := escaped unit (List.mem_cons_self ..)
      have next : mixed (unit :: rest) = codeOf unit.1 ++ (unit.2 ++ mixed rest) := by
        rw [mixed, List.flatMap_cons, List.append_assoc, mixed]
      have found : findStartCodeIn (nal ++ mixed (unit :: rest)) 0 =
          some (nal.length, (codeOf unit.1).length) := by
        rw [findStartCodeIn_skip clean, next, findStartCodeIn_code, Nat.zero_add]
      have behind : (nal ++ mixed (unit :: rest)).drop (nal.length + (codeOf unit.1).length) =
          unit.2 ++ mixed rest := by
        rw [← List.drop_drop, List.drop_left, next, List.drop_left]
      rw [slices_some found, if_pos (List.length_pos_iff.mpr some'), List.take_left, behind,
        ih unitClean unitSome fun other member => escaped other (List.mem_cons_of_mem _ member)]
      rfl

/-- What comes out of NAL units behind start codes is those that the filter keeps, behind their
lengths. -/
theorem annexbToAvccFast_mixed {units : List (Bool × Bytes)}
    (escaped : ∀ unit ∈ units, Escaped unit.2 ∧ unit.2 ≠ []) (filter : σ → UInt8 → Bool × σ)
    (noted : σ) :
    annexbToAvccFast filter noted (mixed units) =
      (avcc (filtered filter noted (units.map Prod.snd)).1,
        (filtered filter noted (units.map Prod.snd)).2) := by
  cases units with
  | nil => rfl
  | cons unit rest =>
      obtain ⟨clean, some'⟩ := escaped unit (List.mem_cons_self ..)
      have next : mixed (unit :: rest) = codeOf unit.1 ++ (unit.2 ++ mixed rest) := by
        rw [mixed, List.flatMap_cons, List.append_assoc, mixed]
      have nals : slices (unit.2 ++ mixed rest) = (unit :: rest).map Prod.snd :=
        slices_mixed clean some' fun other member => escaped other (List.mem_cons_of_mem _ member)
      have nonempty : ∀ nal ∈ (unit :: rest).map Prod.snd, nal ≠ [] := by
        intro nal member
        obtain ⟨other, inUnits, rfl⟩ := List.mem_map.mp member
        exact (escaped other inUnits).2
      rw [annexbToAvccFast, findAnnexbStartCode_eq, findStartCode, List.drop_zero, next,
        findStartCodeIn_code]
      simp only
      rw [annexbToAvccFrom_eq filter (Nat.le_add_right ..), Nat.zero_add, List.drop_left, nals,
        foldl_appendFilteredNalu filter nonempty, List.nil_append]

/-- The NAL units that the filter keeps are read back exactly when each is shorter than its length
can tell; the filter is asked about each once. -/
theorem avcc_keeps_wanted {units : List (Bool × Bytes)}
    (escaped : ∀ unit ∈ units, Escaped unit.2 ∧ unit.2 ≠ []) (filter : σ → UInt8 → Bool × σ)
    (noted : σ) :
    (annexbToAvccFast filter noted (mixed units)).2 = (filtered filter noted (units.map Prod.snd)).2 ∧
      (parseAvcc (annexbToAvccFast filter noted (mixed units)).1 =
          (filtered filter noted (units.map Prod.snd)).1 ↔
        ∀ nal ∈ (filtered filter noted (units.map Prod.snd)).1, nal.length < 2 ^ 32) := by
  rw [annexbToAvccFast_mixed escaped]
  refine ⟨rfl, ?_, parseAvcc_avcc⟩
  intro same nal member
  rw [← same] at member
  exact length_parseAvccFrom_lt member

/-- A filter that keeps everything, and notes whether it has seen a key frame. -/
def keepAll (seen : Bool) (nalType : UInt8) : Bool × Bool :=
  (true, seen || nalType == 19 || nalType == 20 || nalType == 21)

theorem avcc_keeps_wanted_short :
    (annexbToAvccFast keepAll false (mixed [(true, [0x40, 1]), (false, [0x26, 1])])).2 = true ∧
      parseAvcc (annexbToAvccFast keepAll false (mixed [(true, [0x40, 1]), (false, [0x26, 1])])).1 =
        [[0x40, 1], [0x26, 1]] :=
  have kept := @avcc_keeps_wanted Bool [(true, [0x40, 1]), (false, [0x26, 1])] (by decide) keepAll false
  ⟨kept.1, kept.2.mpr (by decide)⟩

/-- A NAL unit of which a length of four bytes says nothing. -/
def longNal : Bytes := List.replicate (2 ^ 32) 1

/-- Without a zero there is no start code. -/
theorem escaped_of_nonzero {nal : Bytes} (nonzero : ∀ byte ∈ nal, byte ≠ 0) : Escaped nal where
  noZeros inside := nonzero 0 (inside.subset (by decide)) rfl
  noCode inside := nonzero 0 (inside.subset (by decide)) rfl
  lastByte last := nonzero 0 (List.mem_of_getLast? last) rfl

theorem escaped_longNal : Escaped longNal := by
  refine escaped_of_nonzero fun byte member => ?_
  rw [List.eq_of_mem_replicate member]
  decide

theorem long_nal_not_kept : (Escaped longNal ∧ longNal ≠ []) ∧
    parseAvcc (annexbToAvccFast keepAll false (mixed [(true, longNal)])).1 ≠
      (filtered keepAll false [longNal]).1 := by
  have length : longNal.length = 2 ^ 32 := List.length_replicate
  refine ⟨⟨escaped_longNal, fun empty => ?_⟩, fun same => ?_⟩
  · rw [empty] at length
    cases length
  · have member : longNal ∈ parseAvcc (annexbToAvccFast keepAll false (mixed [(true, longNal)])).1 := by
      rw [same]
      exact List.mem_singleton_self longNal
    have short := length_parseAvccFrom_lt member
    rw [length] at short
    exact Nat.lt_irrefl _ short

end Gmv.Stream.AnnexB
