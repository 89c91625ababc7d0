import Mathlib.Algebra.Group.Nat.Defs
import Mathlib.Data.List.Induction

/-!
# Decimal texts of a fixed length

A number is written with a given number of digits, zeros in front.  A text of digits is what its
number is written as with as many digits as the text has.
-/

namespace Gmv.Library.Decimal

/-- The number that a text of digits stands for. -/
def value (text : List Char) : Nat := Nat.ofDigitChars 10 text 0

/-- A number with at least as many digits as asked for. -/
def padded (width number : Nat) : List Char := (Nat.toDigits 10 number).leftpad width '0'

def Digits (text : List Char) : Prop := ∀ digit ∈ text, digit.isDigit = true

instance (text : List Char) : Decidable (Digits text) := List.decidableBAll _ _

theorem digits_append {front back : List Char} (digits : Digits front) (more : Digits back) :
    Digits (front ++ back) := fun digit member =>
  (List.mem_append.mp member).elim (digits digit) (more digit)

theorem value_append (front back : List Char) :
    value (front ++ back) = 10 ^ back.length * value front + value back := by
  rw [value, Nat.ofDigitChars_append, Nat.ofDigitChars_eq_ofDigitChars_zero, value, value]

theorem value_singleton (digit : Char) : value [digit] = digit.toNat - 48 := by
  simp [value, Nat.ofDigitChars_cons]

theorem toNat_of_isDigit {digit : Char} (isDigit : digit.isDigit = true) :
    48 ≤ digit.toNat ∧ digit.toNat ≤ 57 := by
  simpa [Char.isDigit, UInt32.le_iff_toNat_le] using isDigit

/-- A digit takes one byte. -/
theorem utf8ByteSize_ofList {text : List Char} (digits : Digits text) :
    (String.ofList text).utf8ByteSize = text.length := by
  induction text with
  | nil => rfl
  | cons digit rest ih =>
      have single : digit.utf8Size = 1 := by
        have bound := (toNat_of_isDigit (digits digit (List.mem_cons_self ..))).2
        exact Char.utf8Size_eq_one_iff.mpr (UInt32.le_iff_toNat_le.mpr (Nat.le_trans bound (by decide)))
      have later := ih fun other member => digits other (List.mem_cons_of_mem _ member)
      rw [String.ofList_cons, String.utf8ByteSize_append, String.utf8ByteSize_singleton, single, later,
        List.length_cons, Nat.add_comm]

theorem value_lt {text : List Char} (digits : Digits text) : value text < 10 ^ text.length := by
  induction text using List.reverseRecOn with
  | nil => exact Nat.one_pos
  | append_singleton front digit ih =>
      have earlier := ih fun other member => digits other (List.mem_append_left _ member)
      have last := toNat_of_isDigit (digits digit (List.mem_append_right _ (List.mem_singleton_self _)))
      rw [value_append, value_singleton, List.length_append, List.length_singleton, Nat.pow_succ]
      omega

/-- Two texts of one length and one number are one text. -/
theorem eq_of_value {one other : List Char} (digits : Digits one) (otherDigits : Digits other)
    (sameLength : one.length = other.length) (same : value one = value other) : one = other := by
  induction one using List.reverseRecOn generalizing other with
  | nil => exact (List.length_eq_zero_iff.mp sameLength.symm).symm
  | append_singleton front digit ih =>
      rcases List.eq_nil_or_concat other with rfl | ⟨back, last, rfl⟩
      · simp at sameLength
      · rw [List.concat_eq_append] at *
        have bound := toNat_of_isDigit (digits digit (List.mem_append_right _ (List.mem_singleton_self _)))
        have otherBound :=
          toNat_of_isDigit (otherDigits last (List.mem_append_right _ (List.mem_singleton_self _)))
        rw [value_append, value_append, value_singleton, value_singleton, List.length_singleton,
          List.length_singleton, Nat.pow_one] at same
        have fronts : front = back := by
          refine ih (fun other member => digits other (List.mem_append_left _ member))
            (fun other member => otherDigits other (List.mem_append_left _ member)) ?_ (by omega)
          simpa using sameLength
        have lasts : digit = last := Char.toNat_inj.mp (by rw [fronts] at same; omega)
        rw [fronts, lasts]

/-! ## Numbers with zeros in front -/

theorem digits_padded (width number : Nat) : Digits (padded width number) := by
  intro digit member
  rcases List.mem_append.mp member with zero | inNumber
  · rw [List.eq_of_mem_replicate zero]
    rfl
  · exact Nat.isDigit_of_mem_toDigits (by decide) (by decide) inNumber

theorem value_padded (width number : Nat) : value (padded width number) = number := by
  have front : value (List.replicate (width - (Nat.toDigits 10 number).length) '0') = 0 := by
    rw [value, Nat.ofDigitChars_replicate_zero, Nat.mul_zero]
  rw [padded, List.leftpad, value_append, front, Nat.mul_zero, Nat.zero_add, value,
    Nat.ofDigitChars_ten_toDigits]

theorem length_padded {width number : Nat} (some' : 0 < width) (small : number < 10 ^ width) :
    (padded width number).length = width := by
  rw [padded, List.length_leftpad]
  exact Nat.max_eq_left ((Nat.length_toDigits_le_iff (by decide) some').mpr small)

/-- Written with as many digits as it had, the number of a text is the text. -/
theorem padded_value {text : List Char} (digits : Digits text) (some' : text ≠ []) :
    padded text.length (value text) = text := by
  refine eq_of_value (digits_padded _ _) digits ?_ (value_padded ..)
  exact length_padded (List.length_pos_iff.mpr some') (value_lt digits)

end Gmv.Library.Decimal
