import Mathlib

/-!
# Trimming a store that others fill

Workers put keys into a store and then trim it.  A worker measures by how much the store is above its limit,
lists that many keys and removes them one after the other, while others fill the store and trim it.  The store
never holds more than its limit and what has been put in by workers that are not through with trimming.
-/

namespace Gmv.Library.Trimming

variable {κ : Type}

/-- What a worker that has measured the store has still to do. -/
inductive Plan (κ : Type) where
  | list (excess : Nat)
  | remove (listed : List κ)
  deriving DecidableEq, Repr

/-- The number of keys that a plan leaves in the store. -/
def Plan.kept [DecidableEq κ] (keys : List κ) : Plan κ → Nat
  | .list excess => keys.length - excess
  | .remove listed => (keys.filter fun key => key ∉ listed).length

/-- A worker that trims, with the number of keys that it has put in. -/
structure Trimmer (κ : Type) where
  plan : Plan κ
  added : Nat
  deriving DecidableEq, Repr

def added (trimmers : List (Trimmer κ)) : Nat := (trimmers.map Trimmer.added).sum

/-- The workers in the order in which they have measured: what a worker leaves in the store is within the limit
and what has been put in by those that are not through and have not measured before it. -/
def Within [DecidableEq κ] (limit : Nat) (keys : List κ) (owed : Nat) : List (Trimmer κ) → Prop
  | [] => True
  | trimmer :: later =>
      trimmer.plan.kept keys ≤ limit + owed + added later ∧ Within limit keys owed later

/-- A store with what its filling workers have put in and its trimming workers, in any order. -/
def Trimmed [DecidableEq κ] (limit : Nat) (keys : List κ) (owed : Nat) (trimmers : List (Trimmer κ)) : Prop :=
  keys.length ≤ limit + owed + added trimmers ∧
    ∃ order, order.Perm trimmers ∧ Within limit keys owed order

variable {limit owed more : Nat} {keys others : List κ} {key : κ} {plan next : Plan κ}
variable {trimmer : Trimmer κ} {trimmers order earlier later : List (Trimmer κ)}

@[simp]
theorem added_nil : added ([] : List (Trimmer κ)) = 0 := rfl

@[simp]
theorem added_cons : added (trimmer :: trimmers) = trimmer.added + added trimmers := List.sum_cons

@[simp]
theorem added_append : added (earlier ++ later) = added earlier + added later := by
  rw [added, List.map_append, List.sum_append, ← added, ← added]

theorem added_perm (perm : order.Perm trimmers) : added order = added trimmers :=
  (perm.map Trimmer.added).sum_eq

variable [DecidableEq κ]

theorem Plan.kept_le (keys : List κ) (plan : Plan κ) : plan.kept keys ≤ keys.length := by
  cases plan with
  | list excess => exact Nat.sub_le ..
  | remove listed => exact List.length_filter_le ..

theorem Plan.kept_sublist (fewer : others.Sublist keys) (plan : Plan κ) :
    plan.kept others ≤ plan.kept keys := by
  cases plan with
  | list excess => exact Nat.sub_le_sub_right fewer.length_le excess
  | remove listed => exact (fewer.filter _).length_le

theorem Plan.kept_cons (key : κ) (keys : List κ) (plan : Plan κ) :
    plan.kept (key :: keys) ≤ plan.kept keys + 1 := by
  cases plan with
  | list excess =>
      rw [kept, kept, List.length_cons]
      omega
  | remove listed =>
      rw [kept, kept, List.filter_cons]
      split
      · exact Nat.le_of_eq List.length_cons
      · exact Nat.le_succ _

theorem Plan.kept_remove_nil (keys : List κ) : (Plan.remove []).kept keys = keys.length := by
  rw [kept, List.filter_eq_self.mpr fun key _ => decide_eq_true List.not_mem_nil]

/-! ## The workers one after the other -/

theorem Within.mono (within : Within limit keys owed order)
    (fewer : ∀ plan : Plan κ, plan.kept others + owed ≤ plan.kept keys + more) :
    Within limit others more order := by
  induction order with
  | nil => exact True.intro
  | cons trimmer later ih =>
      have here := within.1
      have step := fewer trimmer.plan
      exact ⟨by omega, ih within.2⟩

/-- The last one to measure finds the store above its limit. -/
theorem Within.concat (within : Within limit keys (trimmer.added + owed) order)
    (last : trimmer.plan.kept keys ≤ limit) : Within limit keys owed (order ++ [trimmer]) := by
  induction order with
  | nil => exact ⟨by omega, True.intro⟩
  | cons first later ih =>
      have here := within.1
      rw [List.cons_append, Within, added_append, added_cons, added_nil]
      exact ⟨by omega, ih within.2⟩

theorem Within.replace (within : Within limit keys owed (earlier ++ ⟨plan, more⟩ :: later))
    (fewer : next.kept keys ≤ plan.kept keys) :
    Within limit keys owed (earlier ++ ⟨next, more⟩ :: later) := by
  induction earlier with
  | nil =>
      have here := within.1
      exact ⟨Nat.le_trans fewer here, within.2⟩
  | cons first earlier ih =>
      rw [List.cons_append, Within, added_append, added_cons] at within ⊢
      exact ⟨within.1, ih within.2⟩

theorem Within.at (within : Within limit keys owed (earlier ++ trimmer :: later)) :
    trimmer.plan.kept keys ≤ limit + owed + added later := by
  induction earlier with
  | nil => exact within.1
  | cons first earlier ih => exact ih within.2

/-- A worker that leaves the whole store is through: those before it are within what is behind it. -/
theorem Within.leave (within : Within limit keys owed (earlier ++ trimmer :: later))
    (whole : keys.length ≤ limit + owed + added later) :
    Within limit keys owed (earlier ++ later) := by
  induction earlier with
  | nil => exact within.2
  | cons first earlier ih =>
      have few := first.plan.kept_le keys
      rw [List.cons_append, Within, added_append]
      exact ⟨by omega, ih within.2⟩

theorem within_of_le (few : keys.length ≤ limit) (order : List (Trimmer κ)) :
    Within limit keys owed order := by
  induction order with
  | nil => exact True.intro
  | cons first later ih =>
      have kept := first.plan.kept_le keys
      exact ⟨by omega, ih⟩

/-! ## What the workers do -/

namespace Trimmed

theorem empty (limit : Nat) : Trimmed limit ([] : List κ) 0 [] :=
  ⟨Nat.zero_le _, [], List.Perm.refl _, True.intro⟩

theorem perm (trimmed : Trimmed limit keys owed trimmers) (same : trimmers.Perm later) :
    Trimmed limit keys owed later := by
  obtain ⟨few, order, listed, within⟩ := trimmed
  exact ⟨added_perm same ▸ few, order, listed.trans same, within⟩

/-- Keys leave the store, whoever removes them. -/
theorem shrink (trimmed : Trimmed limit keys owed trimmers) (fewer : others.Sublist keys) :
    Trimmed limit others owed trimmers := by
  obtain ⟨few, order, listed, within⟩ := trimmed
  exact ⟨Nat.le_trans fewer.length_le few, order, listed,
    within.mono fun plan => Nat.add_le_add_right (plan.kept_sublist fewer) owed⟩

/-- A worker puts a key in. -/
theorem fill (trimmed : Trimmed limit keys owed trimmers) (key : κ) (fewer : others.Sublist keys) :
    Trimmed limit (key :: others) (owed + 1) trimmers := by
  obtain ⟨few, order, listed, within⟩ := trimmed
  have length := fewer.length_le
  refine ⟨?_, order, listed, within.mono fun plan => ?_⟩
  · rw [List.length_cons]
    omega
  · have one := plan.kept_cons key others
    have sublist := plan.kept_sublist fewer
    omega

/-- A worker finds nothing to trim. -/
theorem enough (trimmed : Trimmed limit keys owed trimmers) (few : keys.length ≤ limit) :
    Trimmed limit keys more trimmers := by
  obtain ⟨_, order, listed, _⟩ := trimmed
  exact ⟨by omega, order, listed, within_of_le few order⟩

/-- A worker finds the store above its limit. -/
theorem measure (trimmed : Trimmed limit keys (more + owed) trimmers) (above : limit < keys.length) :
    Trimmed limit keys owed (⟨.list (keys.length - limit), more⟩ :: trimmers) := by
  obtain ⟨few, order, listed, within⟩ := trimmed
  refine ⟨?_, order ++ [⟨.list (keys.length - limit), more⟩], ?_, within.concat ?_⟩
  · simp only [added_cons]
    omega
  · exact (List.perm_append_singleton _ order).trans (listed.cons _)
  · rw [Plan.kept]
    omega

theorem replan (trimmed : Trimmed limit keys owed (⟨plan, more⟩ :: trimmers))
    (fewer : next.kept keys ≤ plan.kept keys) :
    Trimmed limit keys owed (⟨next, more⟩ :: trimmers) := by
  obtain ⟨few, order, listed, within⟩ := trimmed
  obtain ⟨earlier, later, rfl⟩ := List.append_of_mem (listed.symm.subset List.mem_cons_self)
  have others : (earlier ++ later).Perm trimmers :=
    (List.perm_middle.symm.trans listed).cons_inv
  refine ⟨?_, earlier ++ ⟨next, more⟩ :: later, ?_, within.replace fewer⟩
  · simpa only [added_cons] using few
  · exact List.perm_middle.trans (others.cons _)

/-- A worker lists what it removes: as many keys of the store as it has found too many. -/
theorem list {listed rest : List κ} {excess : Nat}
    (trimmed : Trimmed limit keys owed (⟨.list excess, more⟩ :: trimmers))
    (parts : keys.Perm (listed ++ rest)) (enough : rest.length ≤ keys.length - excess) :
    Trimmed limit keys owed (⟨.remove listed, more⟩ :: trimmers) := by
  refine trimmed.replan ?_
  have none : listed.filter (fun key => key ∉ listed) = [] := by
    refine List.filter_eq_nil_iff.mpr fun key member => ?_
    simpa using member
  rw [Plan.kept, Plan.kept, (parts.filter _).length_eq, List.filter_append, none, List.nil_append]
  exact Nat.le_trans (List.length_filter_le ..) enough

/-- A worker removes the next key that it has listed. -/
theorem remove {listed : List κ} (trimmed : Trimmed limit keys owed (⟨.remove (key :: listed), more⟩ :: trimmers))
    (distinct : keys.Nodup) :
    Trimmed limit (keys.erase key) owed (⟨.remove listed, more⟩ :: trimmers) := by
  refine (trimmed.shrink List.erase_sublist).replan (Nat.le_of_eq ?_)
  rw [Plan.kept, Plan.kept]
  congr 1
  refine List.filter_congr fun other member => ?_
  have differs : other ≠ key := fun same => distinct.not_mem_erase (same ▸ member)
  simp [differs]

/-- A worker has removed all that it has listed. -/
theorem leave (trimmed : Trimmed limit keys owed (⟨.remove [], more⟩ :: trimmers)) :
    Trimmed limit keys owed trimmers := by
  obtain ⟨_, order, listed, within⟩ := trimmed
  obtain ⟨earlier, later, rfl⟩ := List.append_of_mem (listed.symm.subset List.mem_cons_self)
  have others : (earlier ++ later).Perm trimmers :=
    (List.perm_middle.symm.trans listed).cons_inv
  have whole := within.at
  rw [Plan.kept_remove_nil] at whole
  refine ⟨?_, earlier ++ later, others, within.leave whole⟩
  rw [← added_perm others, added_append]
  omega

end Trimmed

end Gmv.Library.Trimming
