import Mathlib.Data.List.Basic

/-!
# Assembling units from a lossy sequence of arrivals

Units are assembled from arrivals that carry a stamp, an end marker and a loss
flag.  An arrival contributes complete data, or opens, continues or closes a
fragmented piece of data.  A unit ends at a marker or when data with another
stamp arrives; a unit that lost data in the middle is dropped, and a gated
assembly then waits for a key unit.

The content is a list over an arbitrary type.  The machine commutes with every
map on the content, so that items may carry a mark saying where they come from.
-/

namespace Gmv.Library.UnitAssembly

variable {τ β γ : Type}

/-- What the payload of one arrival contributes. -/
inductive Contribution (β : Type) where
  | whole (data : List β)
  | ignored
  | broken
  | opens (data : List β)
  | continues (data : List β)
  | closes (data : List β)

namespace Contribution

/-- The finished data, if any, and the fragment that is pending afterwards. -/
def resume (pending : Option (List β)) :
    Contribution β → Option (List β) × Option (List β)
  | .whole data => (some data, pending)
  | .ignored => (none, pending)
  | .broken => (none, none)
  | .opens data => (none, some data)
  | .continues data => (none, pending.map (· ++ data))
  | .closes data => (pending.map (· ++ data), none)

def map (f : β → γ) : Contribution β → Contribution γ
  | .whole data => .whole (data.map f)
  | .ignored => .ignored
  | .broken => .broken
  | .opens data => .opens (data.map f)
  | .continues data => .continues (data.map f)
  | .closes data => .closes (data.map f)

theorem map_map {δ : Type} (f : β → γ) (g : γ → δ) (content : Contribution β) :
    (content.map f).map g = content.map (g ∘ f) := by
  cases content <;> simp [map]

theorem map_id (content : Contribution β) : content.map id = content := by
  cases content <;> simp [map]

/-- The data that a contribution itself brings. -/
def data : Contribution β → List β
  | .whole data | .opens data | .continues data | .closes data => data
  | .ignored | .broken => []

theorem data_map (f : β → γ) (content : Contribution β) :
    (content.map f).data = content.data.map f := by
  cases content <;> rfl

theorem resume_map (f : β → γ) (pending : Option (List β)) (content : Contribution β) :
    (content.map f).resume (pending.map (List.map f)) =
      ((content.resume pending).1.map (List.map f),
        (content.resume pending).2.map (List.map f)) := by
  cases content <;> cases pending <;> simp [map, resume]

theorem mem_of_extended {pending : Option (List β)} {data out : List β}
    (made : pending.map (· ++ data) = some out) {item : β} (member : item ∈ out) :
    (∃ old, pending = some old ∧ item ∈ old) ∨ item ∈ data := by
  obtain ⟨old, held, rfl⟩ := Option.map_eq_some_iff.mp made
  exact (List.mem_append.mp member).imp_left fun inOld => ⟨old, held, inOld⟩

/-- Everything that comes out was pending or is new. -/
theorem resume_mem {pending : Option (List β)} {content : Contribution β} {out : List β}
    (made : (content.resume pending).1 = some out ∨ (content.resume pending).2 = some out)
    {item : β} (member : item ∈ out) :
    (∃ old, pending = some old ∧ item ∈ old) ∨ item ∈ content.data := by
  cases content with
  | whole data =>
      rcases made with made | made
      · cases made; exact .inr member
      · exact .inl ⟨out, made, member⟩
  | ignored =>
      rcases made with made | made
      · cases made
      · exact .inl ⟨out, made, member⟩
  | broken => rcases made with made | made <;> cases made
  | opens data =>
      rcases made with made | made
      · cases made
      · cases made; exact .inr member
  | continues data =>
      rcases made with made | made
      · cases made
      · exact mem_of_extended made member
  | closes data =>
      rcases made with made | made
      · exact mem_of_extended made member
      · cases made

end Contribution

/-- One arrival: its stamp, whether it ends a unit, whether something was lost
just before it, and what its payload contributes. -/
structure Arrival (τ β : Type) where
  stamp : τ
  marker : Bool
  lost : Bool
  content : Contribution β

def Arrival.map (f : β → γ) (arrival : Arrival τ β) : Arrival τ γ :=
  ⟨arrival.stamp, arrival.marker, arrival.lost, arrival.content.map f⟩

structure Assembly (τ β : Type) where
  ready : List (List β)
  unit : List β
  stamp : Option τ
  damaged : Bool
  waiting : Bool
  fragment : Option (List β)

namespace Assembly

def map (f : β → γ) (s : Assembly τ β) : Assembly τ γ :=
  { ready := s.ready.map (List.map f)
    unit := s.unit.map f
    stamp := s.stamp
    damaged := s.damaged
    waiting := s.waiting
    fragment := s.fragment.map (List.map f) }

/-- Add data to the unit under assembly. -/
def push (s : Assembly τ β) (stamp : τ) (data : List β) : Assembly τ β :=
  { s with stamp := some (s.stamp.getD stamp), unit := s.unit ++ data }

def withFragment (s : Assembly τ β) (fragment : Option (List β)) : Assembly τ β :=
  { s with fragment := fragment }

section Machine

variable [DecidableEq τ] (gated : Bool) (isKey : List β → Bool)

/-- Whether a finished undamaged unit goes out. -/
def outputs (s : Assembly τ β) : Bool := !gated || !s.waiting || isKey s.unit

/-- End the unit under assembly. -/
def finish (s : Assembly τ β) : Assembly τ β :=
  if s.unit.isEmpty then { s with stamp := none, damaged := false }
  else if s.damaged then
    { s with unit := [], waiting := s.waiting || gated, stamp := none, damaged := false }
  else
    { s with
      ready := if s.outputs gated isKey then s.ready ++ [s.unit] else s.ready
      unit := []
      waiting := s.waiting && !(gated && isKey s.unit)
      stamp := none
      damaged := false }

/-- End the unit under assembly when it has another stamp. -/
def turnTo (s : Assembly τ β) (stamp : τ) : Assembly τ β :=
  if s.stamp.any (· != stamp) then s.finish gated isKey else s

/-- Add finished data to the unit of its stamp. -/
def extend (s : Assembly τ β) (stamp : τ) (data : List β) : Assembly τ β :=
  (s.turnTo gated isKey stamp).push stamp data

/-- Drop what a loss makes useless. -/
def lose (s : Assembly τ β) (stamp : τ) : Assembly τ β :=
  if s.unit.isEmpty then
    { s with
      fragment := none
      stamp := none
      damaged := false
      waiting := s.waiting || (s.fragment.isSome && gated) }
  else if s.stamp.any (· != stamp) then
    { s with fragment := none, unit := [], stamp := none, damaged := false }
  else { s with fragment := none, unit := [], stamp := some stamp, damaged := true }

def noteLoss (s : Assembly τ β) (stamp : τ) (lost : Bool) : Assembly τ β :=
  if lost then s.lose gated stamp else s

/-- Take in the payload of an arrival. -/
def receive (s : Assembly τ β) (stamp : τ) (content : Contribution β) : Assembly τ β :=
  match content.resume s.fragment with
  | (some data, fragment) => (s.withFragment fragment).extend gated isKey stamp data
  | (none, fragment) => s.withFragment fragment

def endIf (s : Assembly τ β) (marker : Bool) : Assembly τ β :=
  if marker then s.finish gated isKey else s

/-- One arrival. -/
def step (s : Assembly τ β) (arrival : Arrival τ β) : Assembly τ β :=
  (((s.noteLoss gated arrival.stamp arrival.lost).receive gated isKey arrival.stamp
    arrival.content).endIf gated isKey arrival.marker)

end Machine

/-! ## What the operations do -/

section Operations

variable (gated : Bool) (isKey : List β → Bool) (s : Assembly τ β)

@[simp] theorem finish_unit : (s.finish gated isKey).unit = [] := by
  unfold finish
  split
  · next empty => exact List.isEmpty_iff.mp empty
  · split <;> rfl

@[simp] theorem finish_stamp : (s.finish gated isKey).stamp = none := by
  unfold finish
  split
  · rfl
  · split <;> rfl

@[simp] theorem finish_damaged : (s.finish gated isKey).damaged = false := by
  unfold finish
  split
  · rfl
  · split <;> rfl

@[simp] theorem finish_fragment : (s.finish gated isKey).fragment = s.fragment := by
  unfold finish
  split
  · rfl
  · split <;> rfl

/-- The only new unit is the finished one, and only when it is whole. -/
theorem finish_ready {out : List β} (member : out ∈ (s.finish gated isKey).ready) :
    out ∈ s.ready ∨ out = s.unit ∧ s.damaged = false := by
  unfold finish at member
  split at member
  · exact .inl member
  · split at member
    · exact .inl member
    · next intact =>
        dsimp only at member
        split at member
        · rcases List.mem_append.mp member with old | new
          · exact .inl old
          · exact .inr ⟨List.mem_singleton.mp new, by simpa using intact⟩
        · exact .inl member

variable [DecidableEq τ] (stamp : τ)

/-- Turning to a stamp ends the unit of another stamp and nothing else. -/
theorem turnTo_cases :
    ((∃ other, s.stamp = some other ∧ other ≠ stamp) ∧
        s.turnTo gated isKey stamp = s.finish gated isKey) ∨
      ((s.stamp = none ∨ s.stamp = some stamp) ∧ s.turnTo gated isKey stamp = s) := by
  unfold turnTo
  cases current : s.stamp with
  | none => exact .inr ⟨.inl rfl, by simp⟩
  | some other =>
      by_cases same : other = stamp
      · exact .inr ⟨.inr (congrArg some same), by simp [same]⟩
      · exact .inl ⟨⟨other, rfl, same⟩, by simp [same]⟩

/-- A loss drops the fragment and the unit; the unit counts as damaged when it
goes on with the next stamp. -/
theorem lose_cases :
    (s.lose gated stamp).ready = s.ready ∧ (s.lose gated stamp).unit = [] ∧
      (s.lose gated stamp).fragment = none ∧
      ((s.unit = [] ∧ (s.lose gated stamp).stamp = none ∧
          (s.lose gated stamp).damaged = false ∧
          (s.lose gated stamp).waiting = (s.waiting || (s.fragment.isSome && gated))) ∨
        (s.unit ≠ [] ∧ (∃ other, s.stamp = some other ∧ other ≠ stamp) ∧
          (s.lose gated stamp).stamp = none ∧ (s.lose gated stamp).damaged = false ∧
          (s.lose gated stamp).waiting = s.waiting) ∨
        (s.unit ≠ [] ∧ (s.stamp = none ∨ s.stamp = some stamp) ∧
          (s.lose gated stamp).stamp = some stamp ∧ (s.lose gated stamp).damaged = true ∧
          (s.lose gated stamp).waiting = s.waiting)) := by
  unfold lose
  by_cases empty : s.unit = []
  · simp [empty]
  · have full : s.unit.isEmpty = false := by simpa using empty
    cases current : s.stamp with
    | none => simp [empty, full]
    | some other => by_cases same : other = stamp <;> simp [empty, full, same]

theorem extend_stamp (data : List β) :
    (s.extend gated isKey stamp data).stamp = some stamp := by
  unfold extend push
  rcases s.turnTo_cases gated isKey stamp with
    ⟨-, turned⟩ | ⟨current | current, turned⟩ <;> simp [*]

/-- Taking in a payload either only changes the fragment or extends the unit. -/
theorem receive_cases (content : Contribution β) :
    ((content.resume s.fragment).1 = none ∧
        s.receive gated isKey stamp content = s.withFragment (content.resume s.fragment).2) ∨
      ∃ data, (content.resume s.fragment).1 = some data ∧
        s.receive gated isKey stamp content =
          (s.withFragment (content.resume s.fragment).2).extend gated isKey stamp data := by
  unfold receive
  rcases content.resume s.fragment with ⟨_ | data, fragment⟩
  · exact .inl ⟨rfl, rfl⟩
  · exact .inr ⟨data, rfl, rfl⟩

/-- Completed data of the same stamp joins the unit under assembly. -/
theorem receive_push {content : Contribution β} {data : List β} {fragment : Option (List β)}
    (calm : s.stamp = none ∨ s.stamp = some stamp)
    (made : content.resume s.fragment = (some data, fragment)) :
    s.receive gated isKey stamp content = (s.withFragment fragment).push stamp data := by
  have turned : (s.withFragment fragment).turnTo gated isKey stamp = s.withFragment fragment := by
    rcases (s.withFragment fragment).turnTo_cases gated isKey stamp with
      ⟨⟨other, current, different⟩, -⟩ | ⟨-, same⟩
    · change s.stamp = some other at current
      rw [current] at calm
      rcases calm with wrong | same
      · cases wrong
      · cases same; exact absurd rfl different
    · exact same
  rw [receive, made]
  dsimp only
  rw [extend, turned]

theorem receive_pending {content : Contribution β} {fragment : Option (List β)}
    (made : content.resume s.fragment = (none, fragment)) :
    s.receive gated isKey stamp content = s.withFragment fragment := by
  rw [receive, made]

omit [DecidableEq τ] in
theorem push_push (first second : List β) :
    (s.push stamp first).push stamp second = s.push stamp (first ++ second) := by
  simp [push]

end Operations

/-! ## Mapping the content -/

section Map

variable {gated : Bool} {isKey : List γ → Bool} (f : β → γ)

theorem finish_map (s : Assembly τ β) :
    (s.map f).finish gated isKey = (s.finish gated (isKey ∘ List.map f)).map f := by
  cases s with
  | mk ready unit stamp damaged waiting fragment =>
      cases unit with
      | nil => simp [finish, map]
      | cons head tail =>
          cases damaged with
          | true => simp [finish, map]
          | false =>
              simp only [finish, outputs, map, List.isEmpty_cons, List.map_cons,
                Bool.false_eq_true, if_false, Function.comp]
              split <;> simp

variable [DecidableEq τ]

theorem turnTo_map (s : Assembly τ β) (stamp : τ) :
    (s.map f).turnTo gated isKey stamp =
      (s.turnTo gated (isKey ∘ List.map f) stamp).map f := by
  unfold turnTo
  rw [finish_map]
  change (if s.stamp.any (· != stamp) then _ else _) = _
  split <;> rfl

theorem extend_map (s : Assembly τ β) (stamp : τ) (data : List β) :
    (s.map f).extend gated isKey stamp (data.map f) =
      (s.extend gated (isKey ∘ List.map f) stamp data).map f := by
  unfold extend
  rw [turnTo_map]
  simp [push, map]

theorem lose_map (s : Assembly τ β) (stamp : τ) :
    (s.map f).lose gated stamp = (s.lose gated stamp).map f := by
  cases s with
  | mk ready unit current damaged waiting fragment =>
      unfold lose map
      simp only [List.isEmpty_map, Option.isSome_map]
      split
      · simp
      · split <;> simp

theorem noteLoss_map (s : Assembly τ β) (stamp : τ) (lost : Bool) :
    (s.map f).noteLoss gated stamp lost = (s.noteLoss gated stamp lost).map f := by
  cases lost with
  | true => exact lose_map f s stamp
  | false => rfl

theorem receive_map (s : Assembly τ β) (stamp : τ) (content : Contribution β) :
    (s.map f).receive gated isKey stamp (content.map f) =
      (s.receive gated (isKey ∘ List.map f) stamp content).map f := by
  unfold receive
  change (match (content.map f).resume (s.fragment.map (List.map f)) with
    | (some data, fragment) => _ | (none, fragment) => _) = _
  rw [content.resume_map f s.fragment]
  rcases content.resume s.fragment with ⟨_ | data, fragment⟩
  · rfl
  · exact extend_map f (s.withFragment fragment) stamp data

/-- The machine commutes with a map of the content. -/
theorem step_map (s : Assembly τ β) (arrival : Arrival τ β) :
    (s.map f).step gated isKey (arrival.map f) =
      (s.step gated (isKey ∘ List.map f) arrival).map f := by
  unfold step
  simp only [Arrival.map, noteLoss_map, receive_map]
  unfold endIf
  split
  · rw [finish_map]
  · rfl

end Map

end Assembly

end Gmv.Library.UnitAssembly
