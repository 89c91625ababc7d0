import Mathlib.Data.List.Nodup

/-!
# Tables with a unique key

A table is a list of rows whose keys are distinct.  Inserting a row fails when
its key is taken; an update rewrites the row of one key when a guard holds and
reports how many rows it changed.  Both are single atomic steps.
-/

namespace Gmv.Library

variable {κ ρ : Type} [DecidableEq κ] {key : ρ → κ}

/-- The rows of a table, with distinct keys. -/
structure RowTable (key : ρ → κ) where
  rows : List ρ
  unique : (rows.map key).Nodup

namespace RowTable

def empty (key : ρ → κ) : RowTable key := ⟨[], List.nodup_nil⟩

/-- The row of a key. -/
def find (t : RowTable key) (k : κ) : Option ρ := t.rows.find? fun row => key row = k

/-- Add a row unless its key is taken. -/
def insert (t : RowTable key) (row : ρ) : Option (RowTable key) :=
  if free : key row ∈ t.rows.map key then none
  else
    some ⟨row :: t.rows, by
      rw [List.map_cons, List.nodup_cons]
      exact ⟨free, t.unique⟩⟩

/-- Rewrite the rows of a key that satisfy a guard. -/
def update (t : RowTable key) (k : κ) (guard : ρ → Bool) (set : ρ → ρ)
    (keeps : ∀ row, key (set row) = key row) : Nat × RowTable key :=
  (t.rows.countP fun row => decide (key row = k) && guard row,
    ⟨t.rows.map fun row => if decide (key row = k) && guard row then set row else row, by
      rw [List.map_map]
      have same : (key ∘ fun row => if decide (key row = k) && guard row then set row else row) =
          key := by
        funext row
        rw [Function.comp_apply]
        split
        · exact keeps row
        · rfl
      rw [same]
      exact t.unique⟩)

theorem find_eq_some {t : RowTable key} {k : κ} {row : ρ} :
    t.find k = some row ↔ row ∈ t.rows ∧ key row = k := by
  constructor
  · intro found
    exact ⟨List.mem_of_find?_eq_some found, by simpa using List.find?_some found⟩
  · rintro ⟨member, rfl⟩
    cases found : t.find (key row) with
    | none =>
        have absent := List.find?_eq_none.mp found row member
        simp at absent
    | some other =>
        have otherKey : key other = key row := by simpa using List.find?_some found
        rw [List.inj_on_of_nodup_map t.unique (List.mem_of_find?_eq_some found) member otherKey]

theorem find_eq_none {t : RowTable key} {k : κ} :
    t.find k = none ↔ k ∉ t.rows.map key := by
  rw [find, List.find?_eq_none, List.mem_map]
  simp

@[simp] theorem find_empty (k : κ) : (empty key).find k = none := rfl

/-- An insert adds its row and changes nothing else. -/
theorem insert_cases (t : RowTable key) (row : ρ) :
    (t.insert row = none ∧ t.find (key row) ≠ none) ∨
      ∃ next, t.insert row = some next ∧ t.find (key row) = none ∧
        next.find (key row) = some row ∧ ∀ k, k ≠ key row → next.find k = t.find k := by
  unfold insert
  split
  · next taken => exact .inl ⟨rfl, fun absent => find_eq_none.mp absent taken⟩
  · next free =>
      refine .inr ⟨_, rfl, find_eq_none.mpr free, ?_, ?_⟩
      · simp [find]
      · intro k different
        simp [find, Ne.symm different]

section Update

variable (t : RowTable key) (k : κ) (guard : ρ → Bool) (set : ρ → ρ)
  (keeps : ∀ row, key (set row) = key row)

/-- The rows an update leaves under a key. -/
theorem find_update (other : κ) :
    (t.update k guard set keeps).2.find other =
      (t.find other).map fun row => if decide (key row = k) && guard row then set row else row := by
  have sameKey : ∀ row, key (if decide (key row = k) && guard row then set row else row) =
      key row := by
    intro row
    split
    · exact keeps row
    · rfl
  cases found : t.find other with
  | none =>
      rw [find_eq_none] at found
      rw [Option.map_none, find_eq_none, update, List.map_map]
      have sameKeys := funext sameKey
      rw [Function.comp_def, sameKeys]
      exact found
  | some row =>
      obtain ⟨member, keyed⟩ := find_eq_some.mp found
      rw [Option.map_some, find_eq_some]
      exact ⟨List.mem_map_of_mem member, (sameKey row).trans keyed⟩

theorem update_of_other {other : κ} (different : other ≠ k) :
    (t.update k guard set keeps).2.find other = t.find other := by
  rw [find_update]
  cases found : t.find other with
  | none => rfl
  | some row =>
      have keyed := (find_eq_some.mp found).2
      simp [keyed, different]

/-- An update whose guard fails on the row of its key changes nothing. -/
theorem update_unmatched (unmatched : ∀ row, t.find k = some row → guard row = false) :
    t.update k guard set keeps = (0, t) := by
  have fails : ∀ row ∈ t.rows, (decide (key row = k) && guard row) = false := by
    intro row member
    by_cases keyed : key row = k
    · simp [keyed, unmatched row (find_eq_some.mpr ⟨member, keyed⟩)]
    · simp [keyed]
  have counted : (t.rows.countP fun row => decide (key row = k) && guard row) = 0 := by
    rw [List.countP_eq_zero]
    intro row member
    rw [fails row member]
    exact Bool.false_ne_true
  have kept : (t.rows.map fun row =>
      if decide (key row = k) && guard row then set row else row) = t.rows := by
    rw [List.map_congr_left (g := id)]
    · exact List.map_id _
    · intro row member
      simp [fails row member]
  obtain ⟨rows, unique⟩ := t
  simp only [update, Prod.mk.injEq]
  exact ⟨counted, by congr⟩

/-- An update whose guard holds on the row of its key rewrites that row alone. -/
theorem update_matched {row : ρ} (found : t.find k = some row) (matched : guard row = true) :
    (t.update k guard set keeps).1 = 1 ∧
      (t.update k guard set keeps).2.find k = some (set row) := by
  obtain ⟨member, keyed⟩ := find_eq_some.mp found
  constructor
  · have counted : (t.rows.countP fun other => decide (key other = k) && guard other) =
        (t.rows.map key).count k := by
      rw [List.count, List.countP_map]
      apply List.countP_congr
      intro other otherMember
      by_cases otherKeyed : key other = k
      · have same : some other = some row := by
          rw [← found]
          exact (find_eq_some.mpr ⟨otherMember, otherKeyed⟩).symm
        cases same
        simp [keyed, matched]
      · simp [otherKeyed]
    rw [update, counted]
    exact List.count_eq_one_of_mem t.unique (keyed ▸ List.mem_map_of_mem member)
  · rw [find_update, found]
    simp [keyed, matched]

end Update

end RowTable

end Gmv.Library
