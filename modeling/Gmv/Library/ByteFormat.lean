import Mathlib.Algebra.Order.Ring.Nat
import Mathlib.Data.List.Basic
import Mathlib.Tactic.Ring

/-!
# Numbers and readers of bytes

Numbers as big-endian bytes of a given width, and readers that take a value off the front of a
sequence of bytes.  A reader reads a piece of bytes as a value when it does so whatever comes
behind the piece; such facts compose along the reader.
-/

namespace Gmv.Library.ByteFormat

/-! ## Numbers -/

/-- The last bytes of a number, the most significant first. -/
def beBytes : Nat → Nat → List UInt8
  | 0, _ => []
  | width + 1, value => UInt8.ofNat (value / 256 ^ width) :: beBytes width value

def beValue : List UInt8 → Nat
  | [] => 0
  | byte :: rest => byte.toNat * 256 ^ rest.length + beValue rest

@[simp]
theorem length_beBytes (width value : Nat) : (beBytes width value).length = width := by
  induction width with
  | zero => rfl
  | succ width ih => rw [beBytes, List.length_cons, ih]

/-- The first of the bytes carries what the others do not. -/
theorem beValue_beBytes (width value : Nat) : beValue (beBytes width value) = value % 256 ^ width := by
  induction width with
  | zero => rw [pow_zero, Nat.mod_one]; rfl
  | succ width ih =>
      rw [beBytes, beValue, ih, length_beBytes, Nat.mod_pow_succ, UInt8.toNat_ofNat']
      ring

theorem beValue_beBytes_of_lt {width value : Nat} (small : value < 256 ^ width) :
    beValue (beBytes width value) = value := by
  rw [beValue_beBytes, Nat.mod_eq_of_lt small]

theorem beValue_lt (bytes : List UInt8) : beValue bytes < 256 ^ bytes.length := by
  induction bytes with
  | nil => exact Nat.one_pos
  | cons byte rest ih =>
      have small : byte.toNat < 256 := byte.toNat_lt
      calc beValue (byte :: rest) < byte.toNat * 256 ^ rest.length + 256 ^ rest.length :=
            Nat.add_lt_add_left ih _
        _ = (byte.toNat + 1) * 256 ^ rest.length := by ring
        _ ≤ 256 * 256 ^ rest.length := Nat.mul_le_mul_right _ small
        _ = 256 ^ (byte :: rest).length := by rw [List.length_cons, pow_succ']

theorem beBytes_one (byte : UInt8) : beBytes 1 byte.toNat = [byte] := by
  rw [beBytes, pow_zero, Nat.div_one, UInt8.ofNat_toNat, beBytes]

/-! ## Readers -/

/-- A reader takes a value off the front of bytes, or finds none there. -/
abbrev Reader := StateT (List UInt8) Option

variable {α β : Type}

/-- The reader reads the bytes as the value, whatever comes behind them. -/
def Reads (reader : Reader α) (bytes : List UInt8) (value : α) : Prop :=
  ∀ rest, reader.run (bytes ++ rest) = some (value, rest)

def readBytes (size : Nat) : Reader (List UInt8) := fun bytes =>
  if bytes.length < size then none else some (bytes.take size, bytes.drop size)

def readUint (width : Nat) : Reader Nat := beValue <$> readBytes width

/-- Values read one after another. -/
def readMany (reader : Reader α) : Nat → Reader (List α)
  | 0 => pure []
  | count + 1 => do
      let first ← reader
      let others ← readMany reader count
      pure (first :: others)

/-- Values until the bytes end.  The fuel is the number of the bytes. -/
def readAllFrom (reader : Reader α) : Nat → List UInt8 → Option (List α)
  | _, [] => some []
  | 0, _ :: _ => none
  | fuel + 1, bytes@(_ :: _) => do
      let (first, rest) ← reader.run bytes
      let others ← readAllFrom reader fuel rest
      pure (first :: others)

def readAll (reader : Reader α) (bytes : List UInt8) : Option (List α) :=
  readAllFrom reader bytes.length bytes

theorem Reads.pure (value : α) : Reads (Pure.pure value : Reader α) [] value := fun _ => rfl

theorem Reads.bind {reader : Reader α} {next : α → Reader β} {first second : List UInt8} {value : α}
    {result : β} (reads : Reads reader first value) (continues : Reads (next value) second result) :
    Reads (reader >>= next) (first ++ second) result := by
  intro rest
  have begun : reader.run (first ++ (second ++ rest)) = some (value, second ++ rest) := reads _
  rw [List.append_assoc, StateT.run_bind, begun]
  exact continues rest

theorem Reads.map {reader : Reader α} {bytes : List UInt8} {value : α} (reads : Reads reader bytes value)
    (f : α → β) : Reads (f <$> reader) bytes (f value) := by
  intro rest
  rw [StateT.run_map, reads rest]
  rfl

theorem reads_bytes (bytes : List UInt8) : Reads (readBytes bytes.length) bytes bytes := by
  intro rest
  have enough : ¬(bytes ++ rest).length < bytes.length := by rw [List.length_append]; omega
  show readBytes bytes.length (bytes ++ rest) = _
  rw [readBytes, if_neg enough, List.take_left, List.drop_left]

/-- A number is read as what its width keeps of it. -/
theorem reads_uint_mod (width value : Nat) :
    Reads (readUint width) (beBytes width value) (value % 256 ^ width) := by
  have reads := (reads_bytes (beBytes width value)).map beValue
  rw [length_beBytes, beValue_beBytes] at reads
  exact reads

theorem reads_uint {width value : Nat} (small : value < 256 ^ width) :
    Reads (readUint width) (beBytes width value) value := by
  have reads := reads_uint_mod width value
  rwa [Nat.mod_eq_of_lt small] at reads

/-- A decision that takes nothing off the bytes. -/
theorem Reads.lift {answer : Option α} {value : α} (found : answer = some value) :
    Reads (StateT.lift answer) [] value := by
  intro rest
  rw [found]
  rfl

theorem reads_many {γ : Type} {reader : Reader α} {encode : γ → List UInt8} {value : γ → α}
    {items : List γ} (reads : ∀ item ∈ items, Reads reader (encode item) (value item)) :
    Reads (readMany reader items.length) (items.flatMap encode) (items.map value) := by
  induction items with
  | nil => exact Reads.pure []
  | cons item others ih =>
      have first := reads item (List.mem_cons_self ..)
      have later := ih fun other member => reads other (List.mem_cons_of_mem _ member)
      have whole : Reads (readMany reader (others.length + 1)) (encode item ++ others.flatMap encode)
          (value item :: others.map value) := first.bind (later.map (value item :: ·))
      exact whole

/-- Items that are written on end are read back when none is written as nothing. -/
theorem readAllFrom_flatMap {γ : Type} {reader : Reader α} {encode : γ → List UInt8} {value : γ → α}
    {items : List γ} {fuel : Nat} (enough : (items.flatMap encode).length ≤ fuel)
    (written : ∀ item ∈ items, encode item ≠ [])
    (reads : ∀ item ∈ items, Reads reader (encode item) (value item)) :
    readAllFrom reader fuel (items.flatMap encode) = some (items.map value) := by
  induction items generalizing fuel with
  | nil => cases fuel <;> rfl
  | cons item others ih =>
      have some' := List.length_pos_iff.mpr (written item (List.mem_cons_self ..))
      rw [List.flatMap_cons, List.length_append] at enough
      obtain ⟨fuel, rfl⟩ := Nat.exists_eq_add_of_le' (Nat.lt_of_lt_of_le some' (Nat.le_of_add_right_le enough))
      have first : reader.run ((item :: others).flatMap encode) =
          some (value item, others.flatMap encode) := reads item (List.mem_cons_self ..) _
      have later : readAllFrom reader fuel (others.flatMap encode) = some (others.map value) :=
        ih (by omega) (fun other member => written other (List.mem_cons_of_mem _ member))
          (fun other member => reads other (List.mem_cons_of_mem _ member))
      have notNil : (item :: others).flatMap encode ≠ [] := by
        rw [List.flatMap_cons]
        exact List.append_ne_nil_of_left_ne_nil (List.length_pos_iff.mp some') _
      obtain ⟨byte, bytes, same⟩ := List.exists_cons_of_ne_nil notNil
      rw [same] at first ⊢
      rw [readAllFrom, first]
      simp only [Option.bind_eq_bind, Option.bind_some, later]
      rfl

theorem readAll_flatMap {γ : Type} {reader : Reader α} {encode : γ → List UInt8} {value : γ → α}
    {items : List γ} (written : ∀ item ∈ items, encode item ≠ [])
    (reads : ∀ item ∈ items, Reads reader (encode item) (value item)) :
    readAll reader (items.flatMap encode) = some (items.map value) :=
  readAllFrom_flatMap (Nat.le_refl _) written reads

end Gmv.Library.ByteFormat
