import Mathlib.Data.List.AList

/-!
# Tables of waiters

A table keeps, under keys of its own, who waits for a reply and the channel the reply goes through.
The channels of a table are listed as they are found: an entry that is taken out gives its channel
up, and one that is put in comes in front, in the place of the entry that had its key.
-/

namespace Gmv.Library.ReplyTable

variable {κ ν : Type} {β : κ → Type} [DecidableEq κ]

/-- The channels of the entries of a table. -/
def channels (channel : (key : κ) → β key → ν) (table : AList β) : List ν :=
  table.entries.map fun entry => channel entry.1 entry.2

variable {channel : (key : κ) → β key → ν} {table : AList β} {key : κ} {entry : β key}

omit [DecidableEq κ] in
@[simp]
theorem channels_empty : channels channel (∅ : AList β) = [] := rfl

theorem mem_channels {value : ν} :
    value ∈ channels channel table ↔ ∃ key entry, table.lookup key = some entry ∧ channel key entry = value := by
  simp only [channels, List.mem_map, Sigma.exists, ← AList.mem_lookup_iff, Option.mem_def]

/-- An entry that is taken out gives up its channel and no other. -/
theorem channels_erase_perm (found : table.lookup key = some entry) :
    (channels channel table).Perm (channel key entry :: channels channel (table.erase key)) := by
  have inKeys : key ∈ table.entries.keys := AList.mem_keys.mp (AList.lookup_isSome.mp (by rw [found]; rfl))
  obtain ⟨other, before, behind, -, split, rest⟩ := List.exists_of_kerase inKeys
  have isEntry : table.lookup key = some other :=
    AList.mem_lookup_iff.mpr (split ▸ List.mem_append_right _ (List.mem_cons_self ..))
  rw [found, Option.some.injEq] at isEntry
  subst isEntry
  change (table.entries.map _).Perm (_ :: (table.entries.kerase key).map _)
  rw [rest, split, List.map_append, List.map_append, List.map_cons]
  exact List.perm_middle

theorem channels_erase_sublist : (channels channel (table.erase key)).Sublist (channels channel table) :=
  (List.kerase_sublist key table.entries).map _

theorem channels_insert :
    channels channel (table.insert key entry) = channel key entry :: channels channel (table.erase key) := by
  change (table.insert key entry).entries.map _ = _
  rw [AList.entries_insert]
  rfl

variable [BEq ν]

theorem count_erase (found : table.lookup key = some entry) (value : ν) :
    (channels channel table).count value =
      [channel key entry].count value + (channels channel (table.erase key)).count value := by
  rw [(channels_erase_perm found).count_eq, ← List.count_append, List.singleton_append]

theorem count_erase_le (value : ν) :
    (channels channel (table.erase key)).count value ≤ (channels channel table).count value :=
  channels_erase_sublist.count_le value

theorem count_insert_le (value : ν) :
    (channels channel (table.insert key entry)).count value ≤
      [channel key entry].count value + (channels channel table).count value := by
  rw [channels_insert, ← List.singleton_append, List.count_append]
  exact Nat.add_le_add_left (count_erase_le value) _

end Gmv.Library.ReplyTable
