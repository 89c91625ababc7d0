import Gmv.Library.RowTable
import Mathlib.Data.Option.Basic
import Mathlib.Logic.Function.Basic

/-!
# A map that stands for a table

The rows of a table bear names, and a row is found under the weight of its name,
which names can share.  A map from names to entries stands for the table when under
each name it holds nothing and no row bears the name, or it holds an entry of the row
that does.  The two stay together when an entry and its row are rewritten.
-/

namespace Gmv.Library

variable {ν κ σ ρ : Type} [DecidableEq ν] [DecidableEq κ] {key : ρ → κ}

/-- The row that bears a name. -/
def RowTable.named (weight : ν → κ) (name : ρ → ν) (table : RowTable key) (n : ν) : Option ρ :=
  (table.find (weight n)).filter fun row => decide (name row = n)

def TableMirror (weight : ν → κ) (name : ρ → ν) (holds : σ → ρ → Prop) (storage : ν → Option σ)
    (table : RowTable key) : Prop :=
  ∀ n, Option.Rel holds (storage n) (table.named weight name n)

variable {weight : ν → κ} {name : ρ → ν} {table : RowTable key}

theorem RowTable.named_eq_some {n : ν} {row : ρ} :
    table.named weight name n = some row ↔ table.find (weight n) = some row ∧ name row = n := by
  rw [named, Option.filter_eq_some_iff, decide_eq_true_eq]

namespace TableMirror

variable {holds : σ → ρ → Prop} {storage : ν → Option σ}

theorem cases (mirrors : TableMirror weight name holds storage table) (n : ν) :
    (storage n = none ∧ table.named weight name n = none) ∨
      ∃ entry row, storage n = some entry ∧ table.named weight name n = some row ∧
        holds entry row := by
  have related := mirrors n
  generalize storage n = held, table.named weight name n = found at related ⊢
  cases related with
  | none => exact .inl ⟨rfl, rfl⟩
  | some kept => exact .inr ⟨_, _, rfl, rfl, kept⟩

/-- The entry of a row that was found. -/
theorem of_find (mirrors : TableMirror weight name holds storage table)
    (keyed : ∀ row, key row = weight (name row)) {k : κ} {row : ρ}
    (found : table.find k = some row) :
    ∃ entry, storage (name row) = some entry ∧ holds entry row := by
  have isKey : key row = k := (RowTable.find_eq_some.mp found).2
  rw [← isKey, keyed] at found
  have bears : table.named weight name (name row) = some row :=
    RowTable.named_eq_some.mpr ⟨found, rfl⟩
  rcases mirrors.cases (name row) with ⟨-, absent⟩ | ⟨entry, other, held, borne, isHeld⟩
  · rw [bears] at absent
    cases absent
  · rw [bears, Option.some.injEq] at borne
    exact ⟨entry, held, borne ▸ isHeld⟩

/-- An entry and its row rewritten together. -/
theorem update (mirrors : TableMirror weight name holds storage table) {n : ν}
    {guard : ρ → Bool} (set : ρ → ρ) (keeps : ∀ row, key (set row) = key row)
    (keepsName : ∀ row, name (set row) = name row) {row : ρ} {entry : σ}
    (found : table.find (weight n) = some row) (isNamed : name row = n)
    (matched : guard row = true) (held : holds entry (set row)) :
    TableMirror weight name holds (Function.update storage n (some entry))
      (table.update (weight n) guard set keeps).2 := by
  have written := (table.update_matched (weight n) guard set keeps found matched).2
  intro other
  by_cases same : other = n
  · subst same
    have bears : (table.update (weight other) guard set keeps).2.named weight name other =
        some (set row) :=
      RowTable.named_eq_some.mpr ⟨written, (keepsName row).trans isNamed⟩
    rw [Function.update_self, bears]
    exact .some held
  · rw [Function.update_of_ne same]
    have related := mirrors other
    by_cases sharesWeight : weight other = weight n
    · have before : table.named weight name other = none := by
        simp [RowTable.named, sharesWeight, found, isNamed, Ne.symm same]
      have after : (table.update (weight n) guard set keeps).2.named weight name other = none := by
        simp [RowTable.named, sharesWeight, written, keepsName, isNamed, Ne.symm same]
      rw [after, ← before]
      exact related
    · rw [RowTable.named, table.update_of_other (weight n) guard set keeps sharesWeight]
      exact related

end TableMirror

end Gmv.Library
