import Gmv.Library.Decimal
import Mathlib.Algebra.Order.Floor.Ring
import Mathlib.Data.Int.Log
import Mathlib.Data.List.TakeWhile
import Mathlib.Data.Rat.Floor
import Mathlib.Tactic.Linarith
import Mathlib.Tactic.Positivity

/-!
# Binary floating point of sixty-four bits

Numbers of the format as rationals, and beside them the infinities and what is no number.  A
rational is rounded to the nearest number of the format, of two that are as near to the one with
an even significand; the zeros are not told apart.  A decimal text stands for the rounding of its
rational.
-/

namespace Gmv.Library.Binary64

inductive Number where
  | nan
  | infinite (negative : Bool)
  | finite (value : ℚ)
  deriving DecidableEq

/-! ## Rounding -/

/-- The nearest integer, of two the even one. -/
def roundEven (x : ℚ) : ℤ :=
  let below := ⌊x⌋
  let rest := x - below
  if rest < 1 / 2 then below
  else if 1 / 2 < rest then below + 1
  else if below % 2 = 0 then below
  else below + 1

/-- The distance of the numbers of the format around a rational. -/
def quantum (x : ℚ) : ℚ := 2 ^ (max (Int.log 2 |x|) (-1022) - 52)

def round (x : ℚ) : Number :=
  if x = 0 then .finite 0
  else
    let value := roundEven (x / quantum x) * quantum x
    if 2 ^ 1024 ≤ |value| then .infinite (x < 0) else .finite value

theorem roundEven_intCast (number : ℤ) : roundEven number = number := by
  have rest : (number : ℚ) - number < 1 / 2 := by
    rw [sub_self]
    norm_num
  simp only [roundEven, Int.floor_intCast, if_pos rest]

theorem quantum_pos (x : ℚ) : 0 < quantum x := zpow_pos (by norm_num) _

/-- A rational that is a multiple of its distance is a number of the format. -/
theorem round_of_multiple {x : ℚ} {number : ℤ} (multiple : x = number * quantum x)
    (small : |x| < 2 ^ 1024) : round x = .finite x := by
  have whole : x / quantum x = number := by
    rw [div_eq_iff (quantum_pos x).ne']
    exact multiple
  rw [round]
  split_ifs with zero
  · rw [zero]
  · simp only [whole, roundEven_intCast, ← multiple, if_neg (not_le.mpr small)]

/-- The natural numbers of fifty-three bits are numbers of the format. -/
theorem round_natCast {number : ℕ} (small : number < 2 ^ 53) : round (number : ℚ) = .finite number := by
  rcases Nat.eq_zero_or_pos number with rfl | positive
  · rw [round, if_pos Nat.cast_zero]
    rfl
  have log : Int.log 2 |(number : ℚ)| = Nat.log 2 number := by
    rw [Nat.abs_cast, Int.log_natCast]
  have bits : Nat.log 2 number ≤ 52 := Nat.lt_succ_iff.mp (Nat.log_lt_of_lt_pow positive.ne' small)
  obtain ⟨left, total⟩ := Nat.exists_eq_add_of_le bits
  have distance : quantum (number : ℚ) = ((2 : ℚ) ^ left)⁻¹ := by
    rw [quantum, log, max_eq_left (by omega), ← zpow_natCast, ← zpow_neg]
    congr 1
    omega
  have multiple : (number : ℚ) = ((number * 2 ^ left : ℕ) : ℤ) * quantum (number : ℚ) := by
    rw [distance]
    push_cast
    rw [mul_assoc, mul_inv_cancel₀ (by positivity), mul_one]
  refine round_of_multiple multiple ?_
  rw [Nat.abs_cast]
  calc (number : ℚ) < 2 ^ 53 := by exact_mod_cast small
    _ < 2 ^ 1024 := pow_lt_pow_right₀ (by norm_num) (by norm_num)

/-! ## Operations -/

/-- The product, rounded. -/
def mul : Number → Number → Number
  | .nan, _ | _, .nan => .nan
  | .infinite one, .infinite other => .infinite (one != other)
  | .infinite negative, .finite value | .finite value, .infinite negative =>
      if value = 0 then .nan else .infinite (negative != decide (value < 0))
  | .finite one, .finite other => round (one * other)

/-- Nothing is less than what is no number, nor is that less than anything. -/
def lt : Number → Number → Bool
  | .nan, _ | _, .nan => false
  | .infinite one, .infinite other => one && !other
  | .infinite negative, .finite _ => negative
  | .finite _, .infinite negative => !negative
  | .finite one, .finite other => one < other

def le : Number → Number → Bool
  | .nan, _ | _, .nan => false
  | .infinite one, .infinite other => one || !other
  | .infinite negative, .finite _ => negative
  | .finite _, .infinite negative => !negative
  | .finite one, .finite other => one ≤ other

/-- The nearest integer, of two the one away from zero. -/
def roundAway : Number → Number
  | .finite value => .finite (if 0 ≤ value then ⌊value + 1 / 2⌋ else ⌈value - 1 / 2⌉)
  | other => other

/-- The conversion to an unsigned integer of sixty-four bits, which cuts off what is behind the
point and stays inside the type. -/
def toUnsigned : Number → ℕ
  | .nan | .infinite true => 0
  | .infinite false => 2 ^ 64 - 1
  | .finite value => min ⌊value⌋.toNat (2 ^ 64 - 1)

theorem roundAway_natCast (number : ℕ) : roundAway (.finite number) = .finite number := by
  have below : ⌊(number : ℚ) + 1 / 2⌋ = number := by
    rw [Int.floor_eq_iff]
    constructor
    · push_cast
      linarith
    · push_cast
      linarith
  rw [roundAway, if_pos (Nat.cast_nonneg number), below]
  rfl

theorem toUnsigned_natCast {number : ℕ} (small : number < 2 ^ 64) :
    toUnsigned (.finite number) = number := by
  rw [toUnsigned, Int.floor_natCast, Int.toNat_natCast, Nat.min_eq_left (Nat.le_sub_one_of_lt small)]

/-! ## Texts -/

/-- A sign in front of a text: whether it is a minus, and the rest. -/
def signed : List Char → Bool × List Char
  | '-' :: rest => (true, rest)
  | '+' :: rest => (false, rest)
  | text => (false, text)

/-- The exponent at the end of a number. -/
def parseExponent : List Char → Option ℤ
  | [] => some 0
  | first :: rest =>
      if first = 'e' ∨ first = 'E' then
        let (negative, digits) := signed rest
        if digits.isEmpty || !digits.all Char.isDigit then none
        else some (if negative then -Decimal.value digits else Decimal.value digits)
      else none

/-- The rational of a number without its sign: digits, with a point in front of, between or behind
them, and an exponent. -/
def parseNumber (text : List Char) : Option ℚ :=
  let whole := text.takeWhile Char.isDigit
  let behind := text.dropWhile Char.isDigit
  let (fraction, rest) :=
    match behind with
    | '.' :: more => (more.takeWhile Char.isDigit, more.dropWhile Char.isDigit)
    | _ => ([], behind)
  if whole.isEmpty && fraction.isEmpty then none
  else (parseExponent rest).map fun exponent =>
    (Decimal.value (whole ++ fraction) : ℚ) * 10 ^ (exponent - (fraction.length : ℤ))

/-- A number, or one of the words for the infinities and for no number. -/
def parse (text : List Char) : Option Number :=
  let (negative, rest) := signed text
  match parseNumber rest with
  | some value => some (round (if negative then -value else value))
  | none =>
      let lower := rest.map Char.toLower
      if lower = "nan".toList then some .nan
      else if lower = "inf".toList ∨ lower = "infinity".toList then some (.infinite negative)
      else none

theorem parseNumber_digits {text : List Char} (digits : Decimal.Digits text) (some' : text ≠ []) :
    parseNumber text = some (Decimal.value text : ℚ) := by
  have whole : text.takeWhile Char.isDigit = text := List.takeWhile_eq_self_iff.mpr digits
  have behind : text.dropWhile Char.isDigit = [] := List.dropWhile_eq_nil_iff.mpr digits
  have filled : text.isEmpty = false := List.isEmpty_eq_false_iff.mpr some'
  simp [parseNumber, whole, behind, filled, parseExponent]

/-- Digits stand for their number. -/
theorem parse_digits {text : List Char} (digits : Decimal.Digits text) (some' : text ≠ []) :
    parse text = some (round (Decimal.value text)) := by
  have unsigned : signed text = (false, text) := by
    rw [signed.eq_3]
    · intro more same
      exact absurd (digits '-' (same ▸ List.mem_cons_self ..)) (by decide)
    · intro more same
      exact absurd (digits '+' (same ▸ List.mem_cons_self ..)) (by decide)
  simp [parse, unsigned, parseNumber_digits digits some']

end Gmv.Library.Binary64
