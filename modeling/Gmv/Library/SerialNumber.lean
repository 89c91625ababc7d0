import Mathlib.Data.Nat.ModEq

/-!
# Serial-number arithmetic

Sequence counters of `w` bits wrap around.  Everything below is stated through
one quantity, the number of increments that lead from one counter value to
another, so that a proof about wrapping counters is a proof about naturals
below `2 ^ w`.
-/

namespace Gmv.Library.SerialNumber

variable {w : Nat}

/-- The number of increments from `base` to `seq`. -/
def distance (base seq : BitVec w) : Nat := (seq - base).toNat

/-- The serial order: `next` lies ahead of `previous` by less than half the
number space. -/
def Precedes (previous next : BitVec w) : Prop :=
  0 < distance previous next ∧ 2 * distance previous next < 2 ^ w

instance (previous next : BitVec w) : Decidable (Precedes previous next) :=
  inferInstanceAs (Decidable (_ ∧ _))

theorem distance_lt (base seq : BitVec w) : distance base seq < 2 ^ w :=
  (seq - base).isLt

@[simp]
theorem distance_self (base : BitVec w) : distance base base = 0 := by
  simp [distance]

theorem distance_eq (base seq : BitVec w) :
    distance base seq = (2 ^ w - base.toNat + seq.toNat) % 2 ^ w :=
  BitVec.toNat_sub seq base

/-- Counting `distance base seq` increments from `base` leads to `seq`. -/
theorem toNat_add_distance (base seq : BitVec w) :
    (base.toNat + distance base seq) % 2 ^ w = seq.toNat := by
  have baseLt := base.isLt
  have seqLt := seq.isLt
  rw [distance_eq, Nat.add_mod_mod]
  have shifted : base.toNat + (2 ^ w - base.toNat + seq.toNat) = seq.toNat + 2 ^ w := by omega
  rw [shifted, Nat.add_mod_right, Nat.mod_eq_of_lt seqLt]

theorem distance_injective {base left right : BitVec w}
    (same : distance base left = distance base right) : left = right := by
  apply BitVec.eq_of_toNat_eq
  rw [← toNat_add_distance base left, ← toNat_add_distance base right, same]

/-- A modulus that divides the number space sees the distance as a plain sum. -/
theorem toNat_mod_eq (base seq : BitVec w) {n : Nat} (divides : n ∣ 2 ^ w) :
    seq.toNat % n = (base.toNat + distance base seq) % n := by
  rw [← toNat_add_distance base seq, Nat.mod_mod_of_dvd _ divides]

theorem toNat_one_of_wide (wide : 1 < 2 ^ w) : (1#w).toNat = 1 := by
  rw [BitVec.toNat_ofNat]
  exact Nat.mod_eq_of_lt wide

/-- Two values that are counted from one base. -/
theorem distance_add_ofNat (base : BitVec w) {low high : Nat} (ordered : low ≤ high) (near : high - low < 2 ^ w) :
    distance (base + BitVec.ofNat w low) (base + BitVec.ofNat w high) = high - low := by
  have parts : BitVec.ofNat w high = BitVec.ofNat w low + BitVec.ofNat w (high - low) := by
    rw [← BitVec.ofNat_add, Nat.add_sub_cancel' ordered]
  have split : base + BitVec.ofNat w high - (base + BitVec.ofNat w low) = BitVec.ofNat w (high - low) := by
    rw [parts]
    grind
  rw [distance, split, BitVec.toNat_ofNat, Nat.mod_eq_of_lt near]

/-- Distances from one base subtract. -/
theorem distance_sub {base taken seq : BitVec w}
    (nearer : distance base taken ≤ distance base seq) :
    distance taken seq = distance base seq - distance base taken := by
  have split : seq - taken = (seq - base) - (taken - base) := by grind
  unfold distance at *
  rw [split, BitVec.toNat_sub_of_le (BitVec.le_def.mpr nearer)]

/-- The distance from the value just before the base is one longer. -/
theorem distance_succ {previous seq : BitVec w}
    (room : distance (previous + 1#w) seq + 1 < 2 ^ w) :
    distance previous seq = distance (previous + 1#w) seq + 1 := by
  have one := toNat_one_of_wide (w := w) (by omega)
  have split : seq - previous = (seq - (previous + 1#w)) + 1#w := by grind
  unfold distance at *
  rw [split, BitVec.toNat_add, one, Nat.mod_eq_of_lt room]

/-- Moving the base just past a nearer value shortens a distance by that
value's own distance and one. -/
theorem distance_advance {base taken seq : BitVec w}
    (nearer : distance base taken < distance base seq) :
    distance (taken + 1#w) seq = distance base seq - distance base taken - 1 := by
  have bound := distance_lt base seq
  have one := toNat_one_of_wide (w := w) (by omega)
  have direct := distance_sub (Nat.le_of_lt nearer)
  have split : seq - (taken + 1#w) = (seq - taken) - 1#w := by grind
  unfold distance at *
  rw [split, BitVec.toNat_sub_of_le (BitVec.le_def.mpr (by omega)), one, direct]

/-- Seen from a base that both values follow closely, being behind in the number
space is being nearer to the base. -/
theorem distance_backwards {base left right : BitVec w}
    (nearer : distance base left < distance base right) :
    distance right left = 2 ^ w - (distance base right - distance base left) := by
  have bound := distance_lt base right
  have forward := distance_sub (Nat.le_of_lt nearer)
  have turn : left - right = -(right - left) := by grind
  unfold distance at *
  rw [turn, BitVec.toNat_neg, forward, Nat.mod_eq_of_lt (by omega)]

end Gmv.Library.SerialNumber
