import Gmv.Library.UnitAssembly

/-!
# The key gate of a unit assembly

A gated assembly that dropped data owes a key unit: until one goes out, no other
unit may.  The debt is kept in the waiting flag, or in the damage flag of the
unit that lost data.  The module says which arrivals forget a debt, and proves
that without them the first unit that goes out after a drop is a key unit.
-/

namespace Gmv.Library.UnitAssembly

variable {τ β : Type}

/-! ## Framing -/

/-- Complete and opening data satisfy a framing predicate. -/
def Contribution.Framed (frame : List β → Prop) : Contribution β → Prop
  | .whole data | .opens data => frame data
  | _ => True

namespace Assembly

/-- Everything that is ready, under assembly or pending is framed. -/
structure Framed (frame : List β → Prop) (s : Assembly τ β) : Prop where
  ready : ∀ out ∈ s.ready, frame out
  unit : s.unit = [] ∨ frame s.unit
  fragment : ∀ data, s.fragment = some data → frame data

section Framing

variable {frame : List β → Prop} (grow : ∀ first second, frame first → frame (first ++ second))
  (gated : Bool) (isKey : List β → Bool)
  {s : Assembly τ β}

theorem Framed.finish (framed : Framed frame s) : Framed frame (s.finish gated isKey) := by
  refine ⟨?_, .inl (finish_unit gated isKey s), by simpa using framed.fragment⟩
  intro out member
  by_cases empty : s.unit = []
  · rw [Assembly.finish, if_pos (by simp [empty])] at member
    exact framed.ready out member
  · rcases s.finish_ready gated isKey member with old | ⟨rfl, -⟩
    · exact framed.ready out old
    · exact framed.unit.resolve_left empty

include grow in
/-- What a framed contribution completes or leaves pending is framed. -/
theorem Framed.resume (framed : Framed frame s) {content : Contribution β}
    (contentFramed : content.Framed frame) {out : List β}
    (made : (content.resume s.fragment).1 = some out ∨ (content.resume s.fragment).2 = some out) :
    frame out := by
  have extended {data : List β} (made : s.fragment.map (· ++ data) = some out) : frame out := by
    obtain ⟨old, held, rfl⟩ := Option.map_eq_some_iff.mp made
    exact grow old data (framed.fragment old held)
  cases content with
  | whole data =>
      rcases made with made | made
      · cases made; exact contentFramed
      · exact framed.fragment out made
  | ignored =>
      rcases made with made | made
      · cases made
      · exact framed.fragment out made
  | broken => rcases made with made | made <;> cases made
  | opens data =>
      rcases made with made | made
      · cases made
      · cases made; exact contentFramed
  | continues data =>
      rcases made with made | made
      · cases made
      · exact extended made
  | closes data =>
      rcases made with made | made
      · exact extended made
      · cases made

variable [DecidableEq τ]

theorem Framed.noteLoss (framed : Framed frame s) (stamp : τ) (lost : Bool) :
    Framed frame (s.noteLoss gated stamp lost) := by
  cases lost with
  | false => exact framed
  | true =>
      change Framed frame (s.lose gated stamp)
      obtain ⟨ready, unit, fragment, -⟩ := s.lose_cases gated stamp
      exact ⟨ready ▸ framed.ready, .inl unit, by rw [fragment]; intro data held; cases held⟩

include grow in
theorem Framed.receive (framed : Framed frame s) (stamp : τ) {content : Contribution β}
    (contentFramed : content.Framed frame) :
    Framed frame (s.receive gated isKey stamp content) := by
  have made (out : List β) (isMade : (content.resume s.fragment).1 = some out ∨
      (content.resume s.fragment).2 = some out) : frame out :=
    framed.resume grow contentFramed isMade
  have moved : Framed frame (s.withFragment (content.resume s.fragment).2) :=
    ⟨framed.ready, framed.unit, fun data held => made data (.inr held)⟩
  rcases s.receive_cases gated isKey stamp content with
    ⟨-, outcome⟩ | ⟨data, finished, outcome⟩
  · rw [outcome]
    exact moved
  · rw [outcome]
    have turned : Framed frame ((s.withFragment (content.resume s.fragment).2).turnTo gated isKey
        stamp) := by
      unfold turnTo
      split
      · exact moved.finish gated isKey
      · exact moved
    refine ⟨turned.ready, .inr ?_, turned.fragment⟩
    change frame (Assembly.unit _ ++ data)
    rcases turned.unit with empty | full
    · rw [empty]
      exact made data (.inl finished)
    · exact grow _ data full

include grow in
/-- Framing is kept by every framed arrival. -/
theorem Framed.step (framed : Framed frame s) {arrival : Arrival τ β}
    (contentFramed : arrival.content.Framed frame) :
    Framed frame (s.step gated isKey arrival) := by
  have received := (framed.noteLoss gated arrival.stamp arrival.lost).receive grow gated isKey
    arrival.stamp contentFramed
  unfold Assembly.step endIf
  split
  · exact received.finish gated isKey
  · exact received

end Framing

/-! ## The output only grows -/

section Growth

variable (gated : Bool) (isKey : List β → Bool) (s : Assembly τ β)

theorem finish_grows : s.ready <+: (s.finish gated isKey).ready := by
  unfold finish
  split
  · exact List.prefix_rfl
  · split
    · exact List.prefix_rfl
    · dsimp only
      split
      · exact List.prefix_append ..
      · exact List.prefix_rfl

theorem endIf_grows (marker : Bool) : s.ready <+: (s.endIf gated isKey marker).ready := by
  unfold endIf
  split
  · exact s.finish_grows gated isKey
  · exact List.prefix_rfl

variable [DecidableEq τ]

theorem turnTo_grows (stamp : τ) : s.ready <+: (s.turnTo gated isKey stamp).ready := by
  unfold turnTo
  split
  · exact s.finish_grows gated isKey
  · exact List.prefix_rfl

theorem step_grows (arrival : Arrival τ β) : s.ready <+: (s.step gated isKey arrival).ready := by
  have noted : (s.noteLoss gated arrival.stamp arrival.lost).ready = s.ready := by
    unfold noteLoss
    split
    · exact (s.lose_cases gated arrival.stamp).1
    · rfl
  refine List.IsPrefix.trans ?_ (endIf_grows ..)
  rw [← noted]
  generalize s.noteLoss gated arrival.stamp arrival.lost = next
  rcases next.receive_cases gated isKey arrival.stamp arrival.content with
    ⟨-, outcome⟩ | ⟨data, -, outcome⟩
  · rw [outcome]
    exact List.prefix_rfl
  · rw [outcome]
    exact turnTo_grows gated isKey (next.withFragment (arrival.content.resume next.fragment).2)
      arrival.stamp

end Growth

/-! ## The debt -/

/-- A key unit is owed. -/
def Owes (s : Assembly τ β) : Prop := s.waiting = true ∨ s.damaged = true

/-- Between two states, either nothing goes out and a key unit is still owed, or
the first unit that goes out is a key unit. -/
def Gated (isKey : List β → Bool) (before after : Assembly τ β) : Prop :=
  (after.ready = before.ready ∧ after.Owes) ∨
    ∃ first rest, after.ready = before.ready ++ first :: rest ∧ isKey first = true

theorem Gated.of_prefix {isKey : List β → Bool} {before middle after : Assembly τ β}
    (gate : Gated isKey before middle) (grown : middle.ready <+: after.ready)
    (later : middle.Owes → Gated isKey middle after) : Gated isKey before after := by
  rcases gate with ⟨same, owes⟩ | ⟨first, rest, pushed, key⟩
  · rcases later owes with ⟨again, still⟩ | ⟨first, rest, pushed, key⟩
    · exact .inl ⟨again.trans same, still⟩
    · exact .inr ⟨first, rest, by rw [pushed, same], key⟩
  · obtain ⟨more, ends⟩ := grown
    exact .inr ⟨first, rest ++ more, by rw [← ends, pushed]; simp, key⟩

theorem finish_gated {isKey : List β → Bool} {s : Assembly τ β} (owes : s.Owes)
    (held : s.unit = [] → s.waiting = true) : Gated isKey s (s.finish true isKey) := by
  unfold Assembly.finish
  split
  · next empty => exact .inl ⟨rfl, .inl (held (List.isEmpty_iff.mp empty))⟩
  · split
    · exact .inl ⟨rfl, .inl (by simp)⟩
    · next intact =>
        have waiting : s.waiting = true := owes.resolve_right (by simpa using intact)
        cases key : isKey s.unit with
        | true => exact .inr ⟨s.unit, [], by simp [outputs, key], key⟩
        | false => exact .inl ⟨by simp [outputs, waiting, key], .inl (by simp [waiting])⟩

theorem endIf_gated {isKey : List β → Bool} {s : Assembly τ β} (owes : s.Owes) {marker : Bool}
    (held : marker = true → s.unit = [] → s.waiting = true) :
    Gated isKey s (s.endIf true isKey marker) := by
  cases marker with
  | true => exact finish_gated owes (held rfl)
  | false => exact .inl ⟨rfl, owes⟩

variable [DecidableEq τ]

/-- Whether the arrival completes data. -/
def yields (s : Assembly τ β) (arrival : Arrival τ β) : Bool :=
  (arrival.content.resume (if arrival.lost then none else s.fragment)).1.isSome

/-- The arrival drops data that was already received. -/
def Discards (s : Assembly τ β) (arrival : Arrival τ β) : Prop :=
  arrival.lost = true ∧ (s.unit ≠ [] ∨ s.fragment ≠ none)

/-- The arrival makes an open assembly forget a debt: a loss that drops a unit
of another stamp, a second loss before a damaged unit has data again, or the end
of a damaged unit without data. -/
def Forgets (s : Assembly τ β) (arrival : Arrival τ β) : Prop :=
  s.waiting = false ∧
    (arrival.lost = true ∧ s.unit ≠ [] ∧
        (s.stamp ≠ some arrival.stamp ∨ s.yields arrival = false ∧ arrival.marker = true) ∨
      arrival.lost = true ∧ s.unit = [] ∧ s.damaged = true ∧ s.fragment = none ∨
      arrival.lost = false ∧ s.unit = [] ∧ s.damaged = true ∧
        (s.yields arrival = true ∧ s.stamp ≠ some arrival.stamp ∨
          s.yields arrival = false ∧ arrival.marker = true))

/-- After the loss handling the debt is still there, and a damaged unit without
data is not ended by this arrival. -/
theorem noteLoss_owes {s : Assembly τ β} {arrival : Arrival τ β}
    (start : s.Owes ∨ s.Discards arrival) (kept : ¬ s.Forgets arrival) :
    (s.noteLoss true arrival.stamp arrival.lost).ready = s.ready ∧
      (s.noteLoss true arrival.stamp arrival.lost).Owes ∧
      ((s.noteLoss true arrival.stamp arrival.lost).unit = [] →
        (s.noteLoss true arrival.stamp arrival.lost).waiting = true ∨
          (s.yields arrival = true →
            (s.noteLoss true arrival.stamp arrival.lost).stamp = some arrival.stamp) ∧
          (s.yields arrival = false → arrival.marker = false)) := by
  cases waiting : s.waiting with
  | true =>
      cases lost : arrival.lost with
      | false => exact ⟨rfl, .inl waiting, fun _ => .inl waiting⟩
      | true =>
          obtain ⟨ready, -, -, outcome⟩ := s.lose_cases true arrival.stamp
          have still : (s.lose true arrival.stamp).waiting = true := by
            rcases outcome with ⟨-, -, -, same⟩ | ⟨-, -, -, -, same⟩ | ⟨-, -, -, -, same⟩ <;>
              simp [same, waiting]
          exact ⟨ready, .inl still, fun _ => .inl still⟩
  | false =>
      have noted : ∀ {cause : Prop}, cause → ¬ (s.waiting = false ∧ cause) → False :=
        fun cause refused => refused ⟨waiting, cause⟩
      cases lost : arrival.lost with
      | false =>
          have owes : s.Owes := start.resolve_right fun discards => by
            rw [discards.1] at lost; cases lost
          have damaged : s.damaged = true := owes.resolve_left (by simp [waiting])
          refine ⟨rfl, owes, fun empty => .inr ⟨fun yields => ?_, fun yields => ?_⟩⟩
          · by_contra other
            exact noted (.inr (.inr ⟨lost, empty, damaged, .inl ⟨yields, other⟩⟩)) kept
          · by_contra marker
            exact noted (.inr (.inr ⟨lost, empty, damaged, .inr ⟨yields, by simpa using marker⟩⟩))
              kept
      | true =>
          obtain ⟨ready, noUnit, -, outcome⟩ := s.lose_cases true arrival.stamp
          rcases outcome with ⟨empty, -, -, after⟩ | ⟨full, ⟨other, stamp, different⟩, -⟩ |
            ⟨full, -, stamp, damaged, -⟩
          · have pending : s.fragment ≠ none := by
              intro gone
              rcases start with owes | ⟨-, buffered | fragment⟩
              · have damaged : s.damaged = true := owes.resolve_left (by simp [waiting])
                exact noted (.inr (.inl ⟨lost, empty, damaged, gone⟩)) kept
              · exact buffered empty
              · exact fragment gone
            have raised : (s.lose true arrival.stamp).waiting = true := by
              simp [after, Option.isSome_iff_ne_none.mpr pending]
            exact ⟨ready, .inl raised, fun _ => .inl raised⟩
          · have elsewhere : s.stamp ≠ some arrival.stamp := by
              rw [stamp]
              intro same
              cases same
              exact different rfl
            exact (noted (.inl ⟨lost, full, .inl elsewhere⟩) kept).elim
          · refine ⟨ready, .inr damaged, fun _ => .inr ⟨fun _ => stamp, fun yields => ?_⟩⟩
            by_contra marker
            exact noted (.inl ⟨lost, full, .inr ⟨yields, by simpa using marker⟩⟩) kept

/-- The step lemma: an arrival that forgets nothing keeps the gate. -/
theorem step_gated {isKey : List β → Bool} {s : Assembly τ β} {arrival : Arrival τ β}
    (start : s.Owes ∨ s.Discards arrival) (kept : ¬ s.Forgets arrival)
    (full : ∀ data, (arrival.content.resume
      (s.noteLoss true arrival.stamp arrival.lost).fragment).1 = some data → data ≠ []) :
    Gated isKey s (s.step true isKey arrival) := by
  obtain ⟨ready, owes, ends⟩ := noteLoss_owes start kept
  have fragment : (s.noteLoss true arrival.stamp arrival.lost).fragment =
      if arrival.lost then none else s.fragment := by
    unfold noteLoss
    split
    · exact (s.lose_cases true arrival.stamp).2.2.1
    · rfl
  unfold Assembly.step
  generalize s.noteLoss true arrival.stamp arrival.lost = next at *
  have noted : Gated isKey s next := .inl ⟨ready, owes⟩
  unfold yields at ends
  rw [← fragment] at ends
  let moved := next.withFragment (arrival.content.resume next.fragment).2
  have movedGated : Gated isKey s moved := noted
  rcases next.receive_cases true isKey arrival.stamp arrival.content with
    ⟨nothing, outcome⟩ | ⟨data, finished, outcome⟩
  · rw [outcome]
    refine movedGated.of_prefix (moved.endIf_grows true isKey arrival.marker) fun _ => ?_
    refine endIf_gated (s := moved) owes fun marker empty => ?_
    refine (ends empty).resolve_right fun open' => ?_
    rw [open'.2 (by simp [nothing])] at marker
    cases marker
  · have turned : Gated isKey s (moved.turnTo true isKey arrival.stamp) := by
      refine movedGated.of_prefix (moved.turnTo_grows true isKey arrival.stamp) fun _ => ?_
      rcases moved.turnTo_cases true isKey arrival.stamp with
        ⟨⟨other, stamp, different⟩, after⟩ | ⟨-, after⟩
      · rw [after]
        refine finish_gated owes fun empty => (ends empty).resolve_right fun open' => ?_
        have same : some other = some arrival.stamp :=
          stamp.symm.trans (open'.1 (by simp [finished]))
        cases same
        exact different rfl
      · rw [after]
        exact .inl ⟨rfl, owes⟩
    let pushed := (moved.turnTo true isKey arrival.stamp).push arrival.stamp data
    have pushedGated : Gated isKey s pushed := turned
    rw [outcome]
    refine pushedGated.of_prefix (pushed.endIf_grows true isKey arrival.marker) fun stillOwes => ?_
    refine endIf_gated stillOwes fun _ empty => ?_
    exact absurd (List.append_eq_nil_iff.mp empty).2 (full data finished)

end Assembly

end Gmv.Library.UnitAssembly
