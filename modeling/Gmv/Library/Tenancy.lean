import Mathlib.Logic.Function.Basic

/-!
# Tenants and places

Two maps describe who is where: the owner of each place and the place of each
tenant.  They are sound when every owner is at the place it owns, and complete
when every tenant owns the place it is at.  A tenant moves to a place and displaces
its owner, or it leaves.
-/

namespace Gmv.Library.Tenancy

variable {α δ : Type} {owner owner' : α → Option δ} {place place' : δ → Option α}

/-- Every owner is at the place it owns. -/
def Sound (owner : α → Option δ) (place : δ → Option α) : Prop :=
  ∀ location tenant, owner location = some tenant → place tenant = some location

/-- Every tenant owns the place it is at. -/
def Complete (owner : α → Option δ) (place : δ → Option α) : Prop :=
  ∀ location tenant, place tenant = some location → owner location = some tenant

/-- A tenant moves to a place. It gives up what it owned, and the owner of the
place is left without one. -/
structure Occupies [DecidableEq δ] (owner : α → Option δ) (place : δ → Option α) (tenant : δ)
    (location : α) (owner' : α → Option δ) (place' : δ → Option α) : Prop where
  gained : owner' location = some tenant
  moved : ∀ other, other ≠ location →
    owner' other = if owner other = some tenant then none else owner other
  seated : place' tenant = some location
  displaced : ∀ other, other ≠ tenant →
    place' other = if owner location = some other then none else place other

/-- A tenant leaves and no longer owns anything. Owners may lose their places. -/
structure Leaves (owner : α → Option δ) (place : δ → Option α) (tenant : δ)
    (owner' : α → Option δ) (place' : δ → Option α) : Prop where
  shrunk : ∀ location other, owner' location = some other →
    owner location = some other ∧ other ≠ tenant
  gone : place' tenant = none
  stayed : ∀ other, other ≠ tenant → place' other = place other

theorem Sound.occupies [DecidableEq δ] {tenant : δ} {location : α} (sound : Sound owner place)
    (occupies : Occupies owner place tenant location owner' place') : Sound owner' place' := by
  intro other resident owned
  by_cases same : other = location
  · subst same
    rw [occupies.gained] at owned
    cases owned
    exact occupies.seated
  · rw [occupies.moved other same] at owned
    split at owned
    · cases owned
    · next kept =>
        have different : resident ≠ tenant := by
          rintro rfl
          exact kept owned
        rw [occupies.displaced resident different, if_neg]
        · exact sound other resident owned
        · intro displaced
          have here := sound location resident displaced
          rw [sound other resident owned] at here
          exact same (Option.some.inj here)

theorem Complete.occupies [DecidableEq δ] {tenant : δ} {location : α}
    (complete : Complete owner place)
    (occupies : Occupies owner place tenant location owner' place') : Complete owner' place' := by
  intro other resident located
  by_cases same : resident = tenant
  · subst same
    rw [occupies.seated] at located
    cases located
    exact occupies.gained
  · rw [occupies.displaced resident same] at located
    split at located
    · cases located
    · next kept =>
        have owned := complete other resident located
        have elsewhere : other ≠ location := by
          rintro rfl
          exact kept owned
        rw [occupies.moved other elsewhere, if_neg]
        · exact owned
        · rw [owned]
          intro own
          exact same (Option.some.inj own)

/-- A newcomer does not make up for a tenant that had lost its place. -/
theorem Complete.of_occupies [DecidableEq δ] {tenant : δ} {location : α}
    (sound : Sound owner place) (newcomer : place tenant = none)
    (occupies : Occupies owner place tenant location owner' place')
    (complete : Complete owner' place') : Complete owner place := by
  intro other resident located
  have different : resident ≠ tenant := by
    rintro rfl
    rw [newcomer] at located
    cases located
  by_cases displaced : owner location = some resident
  · have here := sound location resident displaced
    rw [located] at here
    cases here
    exact displaced
  · have owned : owner' other = some resident := by
      apply complete
      rw [occupies.displaced resident different, if_neg displaced]
      exact located
    have elsewhere : other ≠ location := by
      rintro rfl
      rw [occupies.gained] at owned
      exact different (Option.some.inj owned).symm
    rw [occupies.moved other elsewhere] at owned
    split at owned
    · cases owned
    · exact owned

theorem Sound.leaves {tenant : δ} (sound : Sound owner place)
    (leaves : Leaves owner place tenant owner' place') : Sound owner' place' := by
  intro location resident owned
  obtain ⟨before, different⟩ := leaves.shrunk location resident owned
  rw [leaves.stayed resident different]
  exact sound location resident before

/-- Completeness survives a departure exactly when no other owner lost its place. -/
theorem Complete.leaves_iff {tenant : δ} (sound : Sound owner place)
    (complete : Complete owner place) (leaves : Leaves owner place tenant owner' place') :
    Complete owner' place' ↔
      ∀ location other, other ≠ tenant → owner location = some other →
        owner' location = some other := by
  constructor
  · intro after location other different owned
    apply after
    rw [leaves.stayed other different]
    exact sound location other owned
  · intro kept location resident located
    have different : resident ≠ tenant := by
      rintro rfl
      rw [leaves.gone] at located
      cases located
    rw [leaves.stayed resident different] at located
    exact kept location resident different (complete location resident located)

end Gmv.Library.Tenancy
