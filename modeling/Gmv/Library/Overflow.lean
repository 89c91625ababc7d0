import Mathlib.Algebra.Group.Nat.Defs
import Mathlib.Algebra.Ring.Int.Defs

/-!
# Arithmetic on sixty-four bits, checked and wrapping

A computation on signed integers of sixty-four bits is written once for two ways to add, to
subtract and to multiply: the one goes round at the ends of the type, the other has no result where
the integers have none in the type.  What the checked computation gives the wrapping one gives too.
-/

namespace Gmv.Library.Overflow

/-- The operations that may overflow. -/
structure Arith (m : Type → Type) where
  add : Int64 → Int64 → m Int64
  sub : Int64 → Int64 → m Int64
  mul : Int64 → Int64 → m Int64

def wrapping : Arith Id where
  add one other := one + other
  sub one other := one - other
  mul one other := one * other

def Fits (number : Int) : Prop := -2 ^ 63 ≤ number ∧ number < 2 ^ 63

instance (number : Int) : Decidable (Fits number) := inferInstanceAs (Decidable (_ ∧ _))

def exact (number : Int) : Option Int64 := if Fits number then some (Int64.ofInt number) else none

def checked : Arith Option where
  add one other := exact (one.toInt + other.toInt)
  sub one other := exact (one.toInt - other.toInt)
  mul one other := exact (one.toInt * other.toInt)

/-! ## Checked operations -/

theorem exact_eq {number : Int} {result : Int64} (fits : Fits number)
    (rounded : result.toInt = number.bmod (2 ^ 64)) :
    exact number = some result ∧ result.toInt = number := by
  have same : number.bmod (2 ^ 64) = number := by
    rw [Int.bmod_eq_iff (by decide)]
    obtain ⟨low, high⟩ := fits
    omega
  refine ⟨?_, rounded.trans same⟩
  rw [exact, if_pos fits, ← same, ← rounded, Int64.ofInt_toInt]

theorem checked_add {one other : Int64} (fits : Fits (one.toInt + other.toInt)) :
    checked.add one other = some (one + other) ∧ (one + other).toInt = one.toInt + other.toInt :=
  exact_eq fits (Int64.toInt_add one other)

theorem checked_sub {one other : Int64} (fits : Fits (one.toInt - other.toInt)) :
    checked.sub one other = some (one - other) ∧ (one - other).toInt = one.toInt - other.toInt :=
  exact_eq fits (Int64.toInt_sub one other)

theorem checked_mul {one other : Int64} (fits : Fits (one.toInt * other.toInt)) :
    checked.mul one other = some (one * other) ∧ (one * other).toInt = one.toInt * other.toInt :=
  exact_eq fits (Int64.toInt_mul one other)

/-! ## The two ways -/

variable {α β : Type}

/-- What the checked computation gives, if it gives something. -/
def Agrees (result : Option α) (other : Id α) : Prop := ∀ value, result = some value → other = value

theorem Agrees.pure (value : α) : Agrees (pure value : Option α) (pure value : Id α) := by
  intro other same
  exact Option.some.inj same

theorem Agrees.bind {result : Option α} {other : Id α} {next : α → Option β} {nextOther : α → Id β}
    (first : Agrees result other) (later : ∀ value, Agrees (next value) (nextOther value)) :
    Agrees (result >>= next) (other >>= nextOther) := by
  intro value given
  obtain ⟨between, found, rest⟩ := Option.bind_eq_some_iff.mp given
  rw [first between found]
  exact later between value rest

theorem agrees_exact {number : Int} {result : Int64}
    (rounded : result.toInt = number.bmod (2 ^ 64)) : Agrees (exact number) result := by
  intro value given
  by_cases fits : Fits number
  · exact Option.some.inj ((exact_eq fits rounded).1.symm.trans given)
  · rw [exact, if_neg fits] at given
    cases given

theorem agrees_add (one other : Int64) : Agrees (checked.add one other) (wrapping.add one other) :=
  agrees_exact (Int64.toInt_add one other)

theorem agrees_sub (one other : Int64) : Agrees (checked.sub one other) (wrapping.sub one other) :=
  agrees_exact (Int64.toInt_sub one other)

theorem agrees_mul (one other : Int64) : Agrees (checked.mul one other) (wrapping.mul one other) :=
  agrees_exact (Int64.toInt_mul one other)

end Gmv.Library.Overflow
