import Mathlib.Data.List.Perm.Basic
import Mathlib.Logic.Function.Basic
import Mathlib.Logic.Relation
import Mathlib.Order.Defs.PartialOrder

/-!
# Locks looked up by key

A map from keys to shared lock objects.  A task looks its lock up, keeps references to
the object, locks it, and lets it go again; the map may drop an object that it holds,
and a later lookup of the key then makes a new one.  While the map keeps every object
that a task refers to, the object of a key stays the same and at most one task holds
it.  The same holds of a map that drops objects in use, as long as nobody looks their keys up.
Tasks that lock the keys in ascending order never wait for each other in a circle.
-/

namespace Gmv.Library.KeyedLocks

variable {K : Type}

/-- The map and its objects.  Objects are numbered as they are made. -/
structure Table (K : Type) where
  find : K → Option Nat
  /-- The references to an object besides the one of the map. -/
  clones : Nat → Nat
  locked : Nat → Bool
  next : Nat

namespace Table

def empty : Table K := ⟨fun _ => none, fun _ => 0, fun _ => false, 0⟩

variable (table : Table K)

/-- The number of references to an object of the map. -/
def strongCount (lock : Nat) : Nat := table.clones lock + 1

/-- A new object for a key. -/
def make [DecidableEq K] (key : K) : Table K :=
  { table with find := Function.update table.find key (some table.next), next := table.next + 1 }

theorem make_find_self [DecidableEq K] (key : K) : (table.make key).find key = some table.next :=
  Function.update_self ..

theorem make_find_of_ne [DecidableEq K] {key other : K} (differs : other ≠ key) :
    (table.make key).find other = table.find other := Function.update_of_ne differs ..

/-- The object of a key, which is made when there is none. -/
def entry [DecidableEq K] (key : K) : Nat × Table K :=
  match table.find key with
  | some lock => (lock, table)
  | none => (table.next, table.make key)

def clone (lock count : Nat) : Table K :=
  { table with clones := Function.update table.clones lock (table.clones lock + count) }

def drop (lock count : Nat) : Table K :=
  { table with clones := Function.update table.clones lock (table.clones lock - count) }

def setLocked (lock : Nat) (value : Bool) : Table K :=
  { table with locked := Function.update table.locked lock value }

/-- Only the keys that are kept stay in the map. -/
def retain (keep : K → Nat → Bool) : Table K :=
  { table with find := fun key => (table.find key).filter (keep key) }

end Table

/-- What a task has to do with one lock: the references it keeps and whether it holds it. -/
structure Claim (K : Type) where
  key : K
  lock : Nat
  arcs : Nat
  held : Bool

section Counts

variable (lock : Nat)

def Claim.arcsOn (claim : Claim K) : Nat := if claim.lock = lock then claim.arcs else 0

def Claim.holds (claim : Claim K) : Bool := claim.held && claim.lock == lock

def arcsOf : List (Claim K) → Nat
  | [] => 0
  | claim :: rest => claim.arcsOn lock + arcsOf rest

theorem arcsOf_perm {claims others : List (Claim K)} (same : claims.Perm others) :
    arcsOf lock claims = arcsOf lock others := by
  induction same with
  | nil => rfl
  | cons claim _ ih => simp only [arcsOf, ih]
  | swap claim other rest => simp only [arcsOf]; omega
  | trans _ _ first second => exact first.trans second

theorem arcs_le_arcsOf {claims : List (Claim K)} {claim : Claim K} (member : claim ∈ claims) :
    claim.arcs ≤ arcsOf claim.lock claims := by
  induction claims with
  | nil => cases member
  | cons first rest ih =>
      rw [arcsOf]
      rcases List.mem_cons.mp member with same | later
      · subst same
        rw [Claim.arcsOn, if_pos rfl]
        exact Nat.le_add_right ..
      · exact Nat.le_trans (ih later) (Nat.le_add_left ..)

end Counts

/-- The books of a table: every object that a task refers to is the one of its key, the
references are counted, and a lock is locked exactly when one task holds it. -/
structure Sound (table : Table K) (claims : List (Claim K)) : Prop where
  used : ∀ {key lock}, table.find key = some lock → lock < table.next
  apart : ∀ {key other lock}, table.find key = some lock → table.find other = some lock → key = other
  current : ∀ claim ∈ claims, table.find claim.key = some claim.lock
  positive : ∀ claim ∈ claims, 0 < claim.arcs
  counted : ∀ lock, table.clones lock = arcsOf lock claims
  single : ∀ lock, claims.countP (Claim.holds lock) = (table.locked lock).toNat

namespace Sound

variable {table : Table K} {claims : List (Claim K)} {claim : Claim K}

theorem empty : Sound (Table.empty : Table K) [] where
  used found := by cases found
  apart found := by cases found
  current _ member := by cases member
  positive _ member := by cases member
  counted _ := rfl
  single _ := rfl

theorem perm {others : List (Claim K)} (sound : Sound table claims) (same : claims.Perm others) :
    Sound table others where
  used := sound.used
  apart := sound.apart
  current other member := sound.current other (same.mem_iff.mpr member)
  positive other member := sound.positive other (same.mem_iff.mpr member)
  counted lock := (sound.counted lock).trans (arcsOf_perm lock same)
  single lock := (same.countP_eq _).symm.trans (sound.single lock)

/-- No two claims hold the lock of one key. -/
theorem exclusive (sound : Sound table claims) :
    claims.Pairwise fun one other => ¬(one.held = true ∧ other.held = true ∧ one.key = other.key) := by
  rw [List.pairwise_iff_forall_sublist]
  rintro one other two ⟨oneHeld, otherHeld, sameKey⟩
  have same : other.lock = one.lock := by
    have first := sound.current one (two.subset (List.mem_cons_self ..))
    have second := sound.current other
      (two.subset (List.mem_cons_of_mem _ (List.mem_singleton_self _)))
    rw [← sameKey, first] at second
    exact (Option.some.inj second).symm
  have both : [one, other].countP (Claim.holds one.lock) = 2 := by
    simp [Claim.holds, oneHeld, otherHeld, same]
  have few : [one, other].countP (Claim.holds one.lock) ≤ claims.countP (Claim.holds one.lock) :=
    two.countP_le
  have small := Bool.toNat_le (table.locked one.lock)
  rw [both, sound.single] at few
  omega

/-- The map gets a new object for a key that has none. -/
theorem make [DecidableEq K] (sound : Sound table claims) {key : K} (absent : table.find key = none) :
    Sound (table.make key) claims where
  used := by
    intro name lock found
    by_cases same : name = key
    · subst same
      rw [Table.make_find_self, Option.some.injEq] at found
      exact found ▸ Nat.lt_succ_self _
    · rw [Table.make_find_of_ne _ same] at found
      exact Nat.lt_succ_of_lt (sound.used found)
  apart := by
    intro one other lock isOne isOther
    have fresh {name : K} (found : table.find name = some table.next) : False :=
      Nat.lt_irrefl _ (sound.used found)
    by_cases oneSame : one = key <;> by_cases otherSame : other = key
    · rw [oneSame, otherSame]
    · subst oneSame
      rw [Table.make_find_self] at isOne
      rw [Table.make_find_of_ne _ otherSame, ← isOne] at isOther
      exact (fresh isOther).elim
    · subst otherSame
      rw [Table.make_find_self] at isOther
      rw [Table.make_find_of_ne _ oneSame, ← isOther] at isOne
      exact (fresh isOne).elim
    · rw [Table.make_find_of_ne _ oneSame] at isOne
      rw [Table.make_find_of_ne _ otherSame] at isOther
      exact sound.apart isOne isOther
  current := by
    intro claim member
    have known := sound.current claim member
    have differs : claim.key ≠ key := by
      intro same
      rw [same, absent] at known
      cases known
    exact (Table.make_find_of_ne _ differs).trans known
  positive := sound.positive
  counted := sound.counted
  single := sound.single

/-- A task keeps references to the object of a key. -/
theorem clone (sound : Sound table claims) {key : K} {lock arcs : Nat}
    (found : table.find key = some lock) (some' : 0 < arcs) :
    Sound (table.clone lock arcs) (⟨key, lock, arcs, false⟩ :: claims) where
  used := sound.used
  apart := sound.apart
  current := List.forall_mem_cons.mpr ⟨found, sound.current⟩
  positive := List.forall_mem_cons.mpr ⟨some', sound.positive⟩
  counted := by
    intro other
    simp only [Table.clone, arcsOf, Claim.arcsOn]
    by_cases same : other = lock
    · subst same
      rw [Function.update_self, if_pos rfl, sound.counted, Nat.add_comm]
    · rw [Function.update_of_ne same, if_neg (Ne.symm same), Nat.zero_add, sound.counted]
  single := by
    intro other
    rw [List.countP_cons_of_neg (by simp [Claim.holds]), sound.single]
    rfl

/-- A task looks the object of a key up and keeps references to it. -/
theorem entry [DecidableEq K] (sound : Sound table claims) (key : K) {arcs : Nat} (some' : 0 < arcs) :
    Sound ((table.entry key).2.clone (table.entry key).1 arcs)
      (⟨key, (table.entry key).1, arcs, false⟩ :: claims) := by
  cases found : table.find key with
  | some lock =>
      simp only [Table.entry, found]
      exact sound.clone found some'
  | none =>
      simp only [Table.entry, found]
      exact (sound.make found).clone (table.make_find_self key) some'

/-- A task locks a lock that is free. -/
theorem lock (sound : Sound table (claim :: claims)) (free : table.locked claim.lock = false)
    (waits : claim.held = false) :
    Sound (table.setLocked claim.lock true) ({ claim with held := true } :: claims) where
  used := sound.used
  apart := sound.apart
  current := by
    obtain ⟨here, others⟩ := List.forall_mem_cons.mp sound.current
    exact List.forall_mem_cons.mpr ⟨here, others⟩
  positive := by
    obtain ⟨here, others⟩ := List.forall_mem_cons.mp sound.positive
    exact List.forall_mem_cons.mpr ⟨here, others⟩
  counted := sound.counted
  single := by
    intro lock
    have before := sound.single lock
    rw [List.countP_cons_of_neg (by simp [Claim.holds, waits])] at before
    simp only [Table.setLocked]
    by_cases same : lock = claim.lock
    · subst same
      rw [List.countP_cons_of_pos (by simp [Claim.holds]), before, free, Function.update_self]
      rfl
    · rw [List.countP_cons_of_neg (by simp [Claim.holds, Ne.symm same]), before,
        Function.update_of_ne same]

/-- A task lets a lock go and drops some of its references. -/
theorem unlock (sound : Sound table (claim :: claims)) (holds : claim.held = true) {dropped : Nat}
    (left : dropped < claim.arcs) :
    Sound ((table.setLocked claim.lock false).drop claim.lock dropped)
      ({ claim with arcs := claim.arcs - dropped, held := false } :: claims) where
  used := sound.used
  apart := sound.apart
  current := by
    obtain ⟨here, others⟩ := List.forall_mem_cons.mp sound.current
    exact List.forall_mem_cons.mpr ⟨here, others⟩
  positive := List.forall_mem_cons.mpr
    ⟨Nat.sub_pos_of_lt left, (List.forall_mem_cons.mp sound.positive).2⟩
  counted := by
    intro lock
    have before := sound.counted lock
    simp only [Table.drop, Table.setLocked, arcsOf, Claim.arcsOn] at before ⊢
    by_cases same : lock = claim.lock
    · subst same
      rw [Function.update_self, before, if_pos rfl, if_pos rfl]
      omega
    · rw [Function.update_of_ne same, before, if_neg (Ne.symm same), if_neg (Ne.symm same)]
  single := by
    intro lock
    have before := sound.single lock
    simp only [Table.drop, Table.setLocked]
    rw [List.countP_cons_of_neg (by simp [Claim.holds])]
    by_cases same : lock = claim.lock
    · subst same
      rw [List.countP_cons_of_pos (by simp [Claim.holds, holds])] at before
      have small := Bool.toNat_le (table.locked claim.lock)
      rw [Function.update_self, Bool.toNat_false]
      omega
    · rw [List.countP_cons_of_neg (by simp [Claim.holds, Ne.symm same])] at before
      rw [before, Function.update_of_ne same]

/-- A task that does not hold its lock drops its last references. -/
theorem drop (sound : Sound table (claim :: claims)) (lets : claim.held = false) :
    Sound (table.drop claim.lock claim.arcs) claims where
  used := sound.used
  apart := sound.apart
  current := (List.forall_mem_cons.mp sound.current).2
  positive := (List.forall_mem_cons.mp sound.positive).2
  counted := by
    intro lock
    have before := sound.counted lock
    simp only [Table.drop, arcsOf, Claim.arcsOn] at before ⊢
    by_cases same : lock = claim.lock
    · subst same
      rw [Function.update_self, before, if_pos rfl, Nat.add_sub_cancel_left]
    · rw [Function.update_of_ne same, before, if_neg (Ne.symm same), Nat.zero_add]
  single := by
    intro lock
    have before := sound.single lock
    rwa [List.countP_cons_of_neg (by simp [Claim.holds, lets])] at before

/-- The map drops objects that no task refers to. -/
theorem retain {keep : K → Nat → Bool} (sound : Sound table claims)
    (keeps : ∀ claim ∈ claims, keep claim.key claim.lock = true) :
    Sound (table.retain keep) claims where
  used found := sound.used (Option.filter_eq_some_iff.mp found).1
  apart one two := sound.apart (Option.filter_eq_some_iff.mp one).1 (Option.filter_eq_some_iff.mp two).1
  current claim member :=
    Option.filter_eq_some_iff.mpr ⟨sound.current claim member, keeps claim member⟩
  positive := sound.positive
  counted := sound.counted
  single := sound.single

/-- An object that a task refers to has more references than the one of the map. -/
theorem strongCount_gt (sound : Sound table claims) (member : claim ∈ claims) :
    1 < table.strongCount claim.lock := by
  have positive := sound.positive claim member
  have some' := arcs_le_arcsOf member
  have counted := sound.counted claim.lock
  rw [Table.strongCount]
  omega

end Sound

/-! ## A map that forgets objects in use -/

/-- The map holds some of the objects that the other one holds, each under its key. -/
structure Forgets (table known : Table K) : Prop where
  find : ∀ key, table.find key = none ∨ table.find key = known.find key
  clones : table.clones = known.clones
  locked : table.locked = known.locked
  next : table.next = known.next

/-- The books are those of a map that holds all objects in use. -/
def Tracked (table : Table K) (claims : List (Claim K)) : Prop :=
  ∃ known, Forgets table known ∧ Sound known claims

namespace Tracked

variable {table : Table K} {claims : List (Claim K)} {claim : Claim K}

theorem empty : Tracked (Table.empty : Table K) [] :=
  ⟨.empty, ⟨fun _ => Or.inl rfl, rfl, rfl, rfl⟩, .empty⟩

theorem perm {others : List (Claim K)} (tracked : Tracked table claims) (same : claims.Perm others) :
    Tracked table others := by
  obtain ⟨known, forgets, sound⟩ := tracked
  exact ⟨known, forgets, sound.perm same⟩

theorem exclusive (tracked : Tracked table claims) :
    claims.Pairwise fun one other => ¬(one.held = true ∧ other.held = true ∧ one.key = other.key) := by
  obtain ⟨known, -, sound⟩ := tracked
  exact sound.exclusive

/-- The map may drop any object. -/
theorem retain (tracked : Tracked table claims) (keep : K → Nat → Bool) :
    Tracked (table.retain keep) claims := by
  obtain ⟨known, forgets, sound⟩ := tracked
  refine ⟨known, ⟨fun key => ?_, forgets.clones, forgets.locked, forgets.next⟩, sound⟩
  cases found : (table.retain keep).find key with
  | none => exact Or.inl rfl
  | some lock =>
      obtain ⟨held, -⟩ := Option.filter_eq_some_iff.mp found
      rcases forgets.find key with isNone | same
      · rw [isNone] at held
        cases held
      · exact Or.inr (held.symm.trans same)

/-- A task looks the object of a key up; whoever refers to an object of the key refers to the one
that the map holds. -/
theorem entry [DecidableEq K] (tracked : Tracked table claims) (key : K) {arcs : Nat} (some' : 0 < arcs)
    (current : ∀ claim ∈ claims, claim.key = key → table.find key = some claim.lock) :
    Tracked ((table.entry key).2.clone (table.entry key).1 arcs)
      (⟨key, (table.entry key).1, arcs, false⟩ :: claims) := by
  obtain ⟨known, forgets, sound⟩ := tracked
  cases found : table.find key with
  | some lock =>
      have isKnown : known.find key = some lock := by
        rcases forgets.find key with isNone | same
        · rw [isNone] at found
          cases found
        · exact same.symm.trans found
      simp only [Table.entry, found]
      refine ⟨known.clone lock arcs, ⟨forgets.find, ?_, forgets.locked, forgets.next⟩,
        sound.clone isKnown some'⟩
      simp only [Table.clone, forgets.clones]
  | none =>
      have others : ∀ claim ∈ claims, decide (claim.key ≠ key) = true := by
        intro claim member
        rw [decide_eq_true_iff]
        intro same
        rw [current claim member same] at found
        cases found
      -- the object that the map dropped is in use no more
      have dropped : Sound (known.retain fun name _ => decide (name ≠ key)) claims := sound.retain others
      have absent : (known.retain fun name _ => decide (name ≠ key)).find key = none := by
        simp [Table.retain]
      simp only [Table.entry, found]
      rw [forgets.next]
      refine ⟨((known.retain fun name _ => decide (name ≠ key)).make key).clone known.next arcs,
        ⟨fun name => ?_, ?_, forgets.locked, ?_⟩,
        (dropped.make absent).clone (Table.make_find_self _ key) some'⟩
      · by_cases same : name = key
        · subst same
          refine Or.inr ?_
          simp only [Table.clone, Table.make_find_self, forgets.next]
          rfl
        · simp only [Table.clone, Table.make_find_of_ne _ same]
          rcases forgets.find name with isNone | isKnown
          · exact Or.inl isNone
          · refine Or.inr (isKnown.trans ?_)
            simp only [Table.retain, same, ne_eq, not_false_eq_true, decide_true]
            cases known.find name <;> rfl
      · simp only [Table.clone, Table.make, Table.retain, forgets.clones]
      · simp only [Table.clone, Table.make, Table.retain, forgets.next]

/-- A task locks a lock that is free. -/
theorem lock (tracked : Tracked table (claim :: claims)) (free : table.locked claim.lock = false)
    (waits : claim.held = false) :
    Tracked (table.setLocked claim.lock true) ({ claim with held := true } :: claims) := by
  obtain ⟨known, forgets, sound⟩ := tracked
  refine ⟨known.setLocked claim.lock true, ⟨forgets.find, forgets.clones, ?_, forgets.next⟩,
    sound.lock (forgets.locked ▸ free) waits⟩
  simp only [Table.setLocked, forgets.locked]

/-- A task lets a lock go and keeps its references. -/
theorem unlock (tracked : Tracked table (claim :: claims)) (holds : claim.held = true) :
    Tracked (table.setLocked claim.lock false) ({ claim with held := false } :: claims) := by
  obtain ⟨known, forgets, sound⟩ := tracked
  have some' : 0 < claim.arcs := sound.positive claim (List.mem_cons_self ..)
  have let' := sound.unlock holds some'
  refine ⟨(known.setLocked claim.lock false).drop claim.lock 0,
    ⟨forgets.find, ?_, ?_, forgets.next⟩, let'⟩
  · simp [Table.drop, Table.setLocked, forgets.clones]
  · simp only [Table.drop, Table.setLocked, forgets.locked]

/-- A task that does not hold its lock drops its last references. -/
theorem drop (tracked : Tracked table (claim :: claims)) (lets : claim.held = false) :
    Tracked (table.drop claim.lock claim.arcs) claims := by
  obtain ⟨known, forgets, sound⟩ := tracked
  refine ⟨known.drop claim.lock claim.arcs, ⟨forgets.find, ?_, forgets.locked, forgets.next⟩,
    sound.drop lets⟩
  simp only [Table.drop, forgets.clones]

end Tracked

/-! ## Waiting in ascending order -/

/-- When whoever waits for a task waits for a smaller key than the task itself does, no
task waits for itself in the end. -/
theorem not_transGen_self {ι : Type} [Preorder K] {waitsFor : ι → ι → Prop} (awaits : ι → Option K)
    (ascends : ∀ one other, waitsFor one other → ∃ key, awaits one = some key ∧
      ∀ later, awaits other = some later → key < later) (one : ι) :
    ¬Relation.TransGen waitsFor one one := by
  have climbs : ∀ other, Relation.TransGen waitsFor one other → ∃ key, awaits one = some key ∧
      ∀ later, awaits other = some later → key < later := by
    intro other path
    induction path with
    | single edge => exact ascends _ _ edge
    | tail _ edge ih =>
        obtain ⟨key, isKey, below⟩ := ih
        obtain ⟨middle, isMiddle, rest⟩ := ascends _ _ edge
        exact ⟨key, isKey, fun later isLater => lt_trans (below middle isMiddle) (rest later isLater)⟩
  intro circle
  obtain ⟨key, isKey, below⟩ := climbs one circle
  exact lt_irrefl key (below key isKey)

end Gmv.Library.KeyedLocks
