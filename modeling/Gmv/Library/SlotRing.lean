import Mathlib.Algebra.Order.Ring.Nat
import Mathlib.Data.List.FinRange
import Mathlib.Data.List.NodupEquivFin
import Mathlib.Logic.Function.Basic

/-!
# A ring of optional slots

A ring is a function from the indices below `n` to optional items.  The module
counts and lists the stored items, says how storing and clearing one slot
changes both, and gives the search for the first occupied slot from a start
index together with its exact specification.
-/

namespace Gmv.Library.SlotRing

variable {α : Type} {n : Nat}

/-- The stored items in index order. -/
def items (slots : Fin n → Option α) : List α :=
  (List.finRange n).filterMap slots

/-- The number of occupied slots. -/
def occupied (slots : Fin n → Option α) : Nat :=
  (List.finRange n).countP fun index => (slots index).isSome

theorem occupied_eq_length (slots : Fin n → Option α) :
    occupied slots = (items slots).length := by
  simp only [occupied, items, List.length_filterMap_eq_countP]

theorem mem_items {slots : Fin n → Option α} {item : α} :
    item ∈ items slots ↔ ∃ index, slots index = some item := by
  simp [items]

theorem items_eq_nil_iff {slots : Fin n → Option α} :
    items slots = [] ↔ ∀ index, slots index = none := by
  simp [items]

theorem items_empty : items (fun _ : Fin n => (none : Option α)) = [] := by
  simp [items]

/-- Listing the items visits one chosen slot and the others untouched by it. -/
theorem filterMap_update_perm (slots : Fin n → Option α)
    (index : Fin n) (content : Option α) (indices : List (Fin n))
    (distinct : indices.Nodup) (member : index ∈ indices) :
    (indices.filterMap (Function.update slots index content)).Perm
      (content.toList ++ (indices.erase index).filterMap slots) := by
  have moved := (List.perm_cons_erase member).filterMap (Function.update slots index content)
  refine moved.trans ?_
  have others : (indices.erase index).filterMap (Function.update slots index content) =
      (indices.erase index).filterMap slots := by
    apply List.filterMap_congr
    intro other inRest
    have different : other ≠ index := fun same =>
      (distinct.not_mem_erase) (same ▸ inRest)
    simp [Function.update_of_ne different]
  cases content with
  | none => simp [others]
  | some item => simp [others]

theorem items_update_perm (slots : Fin n → Option α) (index : Fin n) (content : Option α) :
    (items (Function.update slots index content)).Perm
      (content.toList ++ ((List.finRange n).erase index).filterMap slots) :=
  filterMap_update_perm slots index content _ (List.nodup_finRange n) (List.mem_finRange index)

theorem items_perm (slots : Fin n → Option α) (index : Fin n) :
    (items slots).Perm
      ((slots index).toList ++ ((List.finRange n).erase index).filterMap slots) := by
  simpa using items_update_perm slots index (slots index)

/-- Storing into an empty slot adds exactly that item. -/
theorem items_put {slots : Fin n → Option α} {index : Fin n} (empty : slots index = none)
    (item : α) : (items (Function.update slots index (some item))).Perm (item :: items slots) := by
  refine (items_update_perm slots index (some item)).trans ?_
  have rest := items_perm slots index
  rw [empty] at rest
  exact List.Perm.cons item rest.symm

/-- Clearing an occupied slot removes exactly its item. -/
theorem items_clear {slots : Fin n → Option α} {index : Fin n} {item : α}
    (held : slots index = some item) :
    (items slots).Perm (item :: items (Function.update slots index none)) := by
  have rest := items_perm slots index
  rw [held] at rest
  exact rest.trans (List.Perm.cons item (items_update_perm slots index none).symm)

theorem occupied_put {slots : Fin n → Option α} {index : Fin n} (empty : slots index = none)
    (item : α) : occupied (Function.update slots index (some item)) = occupied slots + 1 := by
  simpa [occupied_eq_length] using (items_put empty item).length_eq

theorem occupied_clear {slots : Fin n → Option α} {index : Fin n} {item : α}
    (held : slots index = some item) :
    occupied slots = occupied (Function.update slots index none) + 1 := by
  simpa [occupied_eq_length] using (items_clear held).length_eq

/-- Overwriting an occupied slot keeps the number of occupied slots. -/
theorem occupied_replace {slots : Fin n → Option α} {index : Fin n} {old : α}
    (held : slots index = some old) (item : α) :
    occupied (Function.update slots index (some item)) = occupied slots := by
  have cleared := occupied_clear held
  have empty : Function.update slots index none index = none := Function.update_self ..
  have again := occupied_put empty item
  rw [Function.update_idem] at again
  omega

section Ring

variable [NeZero n]

/-- The index reached from `start` after `offset` steps round the ring. -/
def shift (start : Fin n) (offset : Nat) : Fin n :=
  ⟨(start.val + offset) % n, Nat.mod_lt _ (Nat.pos_of_neZero n)⟩

/-- The number of steps round the ring from `start` to `index`. -/
def gap (start index : Fin n) : Nat := (index.val + (n - start.val)) % n

theorem gap_lt (start index : Fin n) : gap start index < n :=
  Nat.mod_lt _ (Nat.pos_of_neZero n)

theorem shift_gap (start index : Fin n) : shift start (gap start index) = index := by
  apply Fin.ext
  have startLt := start.isLt
  simp only [shift, gap, Nat.add_mod_mod]
  have round : start.val + (index.val + (n - start.val)) = index.val + n := by omega
  rw [round, Nat.add_mod_right, Nat.mod_eq_of_lt index.isLt]

theorem gap_shift (start : Fin n) {offset : Nat} (small : offset < n) :
    gap start (shift start offset) = offset := by
  have startLt := start.isLt
  simp only [shift, gap, Nat.mod_add_mod]
  have round : start.val + offset + (n - start.val) = offset + n := by omega
  rw [round, Nat.add_mod_right, Nat.mod_eq_of_lt small]

/-- The first occupied slot among the `remaining` slots from `shift start offset`
on, with its offset from `start`. -/
def firstFrom (slots : Fin n → Option α) (start : Fin n) : Nat → Nat → Option (α × Nat)
  | 0, _ => none
  | remaining + 1, offset =>
      match slots (shift start offset) with
      | some item => some (item, offset)
      | none => firstFrom slots start remaining (offset + 1)

theorem firstFrom_eq_some {slots : Fin n → Option α} {start : Fin n} {item : α} {found : Nat}
    (remaining offset : Nat)
    (result : firstFrom slots start remaining offset = some (item, found)) :
    offset ≤ found ∧ found < offset + remaining ∧ slots (shift start found) = some item ∧
      ∀ earlier, offset ≤ earlier → earlier < found → slots (shift start earlier) = none := by
  induction remaining generalizing offset with
  | zero => cases result
  | succ remaining ih =>
      unfold firstFrom at result
      cases here : slots (shift start offset) with
      | some stored =>
          rw [here] at result
          cases result
          exact ⟨Nat.le_refl _, by omega, here, fun earlier low high => by omega⟩
      | none =>
          rw [here] at result
          obtain ⟨low, high, held, before⟩ := ih (offset + 1) result
          refine ⟨by omega, by omega, held, ?_⟩
          intro earlier atLeast below
          rcases Nat.eq_or_lt_of_le atLeast with same | later
          · exact same ▸ here
          · exact before earlier later below

theorem firstFrom_eq_none {slots : Fin n → Option α} {start : Fin n} (remaining offset : Nat)
    (result : firstFrom slots start remaining offset = none) :
    ∀ step, offset ≤ step → step < offset + remaining → slots (shift start step) = none := by
  induction remaining generalizing offset with
  | zero => intro step low high; omega
  | succ remaining ih =>
      unfold firstFrom at result
      cases here : slots (shift start offset) with
      | some stored => rw [here] at result; cases result
      | none =>
          rw [here] at result
          intro step low high
          rcases Nat.eq_or_lt_of_le low with same | later
          · exact same ▸ here
          · exact ih (offset + 1) result step later (by omega)

/-- A full round fails to find an item only in an empty ring. -/
theorem firstFrom_round_eq_none {slots : Fin n → Option α} {start : Fin n}
    (result : firstFrom slots start n 0 = none) (index : Fin n) : slots index = none := by
  have empty := firstFrom_eq_none n 0 result (gap start index) (Nat.zero_le _)
    (by simpa using gap_lt start index)
  rwa [shift_gap] at empty

/-- A full round returns the occupied slot with the least offset. -/
theorem firstFrom_round_eq_some {slots : Fin n → Option α} {start : Fin n} {item : α} {found : Nat}
    (result : firstFrom slots start n 0 = some (item, found)) :
    found < n ∧ slots (shift start found) = some item ∧
      ∀ index, (slots index).isSome → found ≤ gap start index := by
  obtain ⟨-, small, held, before⟩ := firstFrom_eq_some n 0 result
  refine ⟨by simpa using small, held, ?_⟩
  intro index some
  apply Nat.le_of_not_lt
  intro nearer
  have empty := before (gap start index) (Nat.zero_le _) nearer
  rw [shift_gap] at empty
  simp [empty] at some

end Ring

end Gmv.Library.SlotRing
