import Mathlib.Data.List.Basic

/-!
# Runs of a step function

A component is a step function from a state and an action to a result and the
next state.  A run lists its transitions, each with the state before and after
it.  The rules below turn facts about one step into facts about every state of
a run: an invariant kept by the steps that meet a guard, and an order kept
between the values that the transitions hand out.
-/

namespace Gmv.Library.Runs

variable {σ α ρ β : Type}

/-- One step of a run. -/
structure Transition (σ α ρ : Type) where
  before : σ
  action : α
  result : ρ
  after : σ

section

variable (step : σ → α → ρ × σ)

/-- The transition that one action causes. -/
def transition (state : σ) (action : α) : Transition σ α ρ :=
  ⟨state, action, (step state action).1, (step state action).2⟩

/-- The transitions of a list of actions. -/
def run (state : σ) : List α → List (Transition σ α ρ)
  | [] => []
  | action :: rest => transition step state action :: run (step state action).2 rest

/-- The state after a list of actions. -/
def final (state : σ) : List α → σ
  | [] => state
  | action :: rest => final (step state action).2 rest

end

variable {step : σ → α → ρ × σ}

@[simp]
theorem run_nil (state : σ) : run step state [] = [] := rfl

@[simp]
theorem run_cons (state : σ) (action : α) (rest : List α) :
    run step state (action :: rest) =
      transition step state action :: run step (step state action).2 rest := rfl

@[simp]
theorem final_nil (state : σ) : final step state [] = state := rfl

@[simp]
theorem final_cons (state : σ) (action : α) (rest : List α) :
    final step state (action :: rest) = final step (step state action).2 rest := rfl

theorem run_append (state : σ) (first second : List α) :
    run step state (first ++ second) =
      run step state first ++ run step (final step state first) second := by
  induction first generalizing state with
  | nil => rfl
  | cons action rest ih => simp [ih]

theorem final_append (state : σ) (first second : List α) :
    final step state (first ++ second) = final step (final step state first) second := by
  induction first generalizing state with
  | nil => rfl
  | cons action rest ih => simp [ih]

/-- What follows a transition of a run is a run from the state after it. -/
theorem run_behind {state : σ} {actions : List α} {first later : List (Transition σ α ρ)}
    {entry : Transition σ α ρ} (split : run step state actions = first ++ entry :: later) :
    ∃ rest, later = run step entry.after rest := by
  induction actions generalizing state first with
  | nil => simp at split
  | cons action rest ih =>
      cases first with
      | nil =>
          rw [run_cons, List.nil_append, List.cons.injEq] at split
          exact ⟨rest, by rw [← split.1, ← split.2]; rfl⟩
      | cons head others =>
          rw [run_cons, List.cons_append, List.cons.injEq] at split
          exact ih split.2

variable (step) in
/-- The final state is the state after the last transition. -/
theorem exists_after_final (state : σ) {actions : List α} (some' : actions ≠ []) :
    ∃ entry ∈ run step state actions, entry.after = final step state actions := by
  induction actions generalizing state with
  | nil => exact absurd rfl some'
  | cons action rest ih =>
      by_cases last : rest = []
      · subst last
        exact ⟨_, List.mem_cons_self .., rfl⟩
      · obtain ⟨entry, member, same⟩ := ih (step state action).2 last
        exact ⟨entry, List.mem_cons_of_mem _ member, same⟩

/-- Every listed transition is a step of the component. -/
theorem mem_run {state : σ} {actions : List α} {entry : Transition σ α ρ}
    (member : entry ∈ run step state actions) :
    entry = transition step entry.before entry.action := by
  induction actions generalizing state with
  | nil => cases member
  | cons action rest ih =>
      rcases List.mem_cons.mp member with same | later
      · subst same; rfl
      · exact ih later

theorem action_mem {state : σ} {actions : List α} {entry : Transition σ α ρ}
    (member : entry ∈ run step state actions) : entry.action ∈ actions := by
  induction actions generalizing state with
  | nil => cases member
  | cons action rest ih =>
      rcases List.mem_cons.mp member with same | later
      · subst same; exact List.mem_cons_self ..
      · exact List.mem_cons_of_mem _ (ih later)

/-- A transition of a run is the step of an action from the state that those before it lead to. -/
theorem exists_split_of_mem {state : σ} {actions : List α} {entry : Transition σ α ρ}
    (member : entry ∈ run step state actions) :
    ∃ first action later, actions = first ++ action :: later ∧
      entry = transition step (final step state first) action := by
  induction actions generalizing state with
  | nil => cases member
  | cons action rest ih =>
      rcases List.mem_cons.mp member with same | inRest
      · exact ⟨[], action, rest, rfl, same⟩
      · obtain ⟨first, other, later, rfl, same⟩ := ih inRest
        exact ⟨action :: first, other, later, rfl, same⟩

variable (step) in
theorem map_action_run (state : σ) (actions : List α) :
    (run step state actions).map Transition.action = actions := by
  induction actions generalizing state with
  | nil => rfl
  | cons action rest ih =>
      rw [run_cons, List.map_cons, ih]
      rfl

variable (step) in
/-- The transitions of a run are counted by their actions. -/
theorem countP_action_run (test : α → Bool) (state : σ) (actions : List α) :
    (run step state actions).countP (fun entry => test entry.action) = actions.countP test := by
  have listed := congrArg (List.countP test) (map_action_run step state actions)
  rw [List.countP_map] at listed
  exact listed

/-- An invariant that guarded steps keep holds before and after every
transition of a run whose transitions all meet the guard. -/
theorem invariant_run (Inv : σ → Prop) (Guard : σ → α → Prop)
    (keep : ∀ state action, Inv state → Guard state action → Inv (step state action).2)
    {state : σ} {actions : List α} (start : Inv state)
    (guarded : ∀ entry ∈ run step state actions, Guard entry.before entry.action) :
    ∀ entry ∈ run step state actions, Inv entry.before ∧ Inv entry.after := by
  induction actions generalizing state with
  | nil => intro entry member; cases member
  | cons action rest ih =>
      have next : Inv (step state action).2 :=
        keep state action start (guarded _ (List.mem_cons_self ..))
      intro entry member
      rcases List.mem_cons.mp member with same | later
      · subst same
        exact ⟨start, next⟩
      · exact ih next (fun other inRest => guarded other (List.mem_cons_of_mem _ inRest))
          entry later

/-- The same invariant holds of the final state. -/
theorem invariant_final (Inv : σ → Prop) (Guard : σ → α → Prop)
    (keep : ∀ state action, Inv state → Guard state action → Inv (step state action).2)
    {state : σ} {actions : List α} (start : Inv state)
    (guarded : ∀ entry ∈ run step state actions, Guard entry.before entry.action) :
    Inv (final step state actions) := by
  induction actions generalizing state with
  | nil => exact start
  | cons action rest ih =>
      exact ih (keep state action start (guarded _ (List.mem_cons_self ..)))
        (fun other inRest => guarded other (List.mem_cons_of_mem _ inRest))

/-- What goes in at one end of a store and out at the other: if a step puts something behind what is
stored and takes something from its front, then what has gone in along a run is what has come out and
what is left, in order. -/
theorem through_run {γ : Type} (stored : σ → List γ) (goesIn comesOut : Transition σ α ρ → List γ)
    (keep : ∀ state action, stored state ++ goesIn (transition step state action) =
      comesOut (transition step state action) ++ stored (step state action).2)
    (state : σ) (actions : List α) :
    stored state ++ (run step state actions).flatMap goesIn =
      (run step state actions).flatMap comesOut ++ stored (final step state actions) := by
  induction actions generalizing state with
  | nil => exact List.append_nil _
  | cons action rest ih =>
      rw [run_cons, final_cons, List.flatMap_cons, List.flatMap_cons, ← List.append_assoc, keep,
        List.append_assoc, List.append_assoc, ih]

/-- What every transition keeps or releases holds until it is released. -/
theorem kept_until_released (Kept : σ → Prop) (Release : Transition σ α ρ → Prop)
    {state : σ} {actions : List α}
    (keep : ∀ entry ∈ run step state actions, Kept entry.before → Kept entry.after ∨ Release entry)
    (start : Kept state) {first later : List (Transition σ α ρ)} {entry : Transition σ α ρ}
    (split : run step state actions = first ++ entry :: later) :
    Kept entry.after ∨ ∃ release ∈ first ++ [entry], Release release := by
  induction actions generalizing state first with
  | nil => simp at split
  | cons action rest ih =>
      have step := keep _ (List.mem_cons_self ..) start
      cases first with
      | nil =>
          rw [run_cons, List.nil_append, List.cons.injEq] at split
          rw [← split.1]
          exact step.imp_right fun released => ⟨_, List.mem_singleton_self _, released⟩
      | cons head others =>
          rw [run_cons, List.cons_append, List.cons.injEq] at split
          obtain ⟨rfl, behind⟩ := split
          rcases step with kept | released
          · have later := ih (fun other member => keep other (List.mem_cons_of_mem _ member)) kept behind
            exact later.imp_right fun ⟨release, member, released⟩ =>
              ⟨release, List.mem_cons_of_mem _ member, released⟩
          · exact Or.inr ⟨_, List.mem_cons_self .., released⟩

/-- When the guard says exactly which steps keep an invariant and pass a check, the two
hold all along a run exactly when every transition meets the guard.  The environment
may promise something about every step. -/
theorem checked_run_iff (Inv : σ → Prop) (Check : Transition σ α ρ → Prop)
    (Promise Guard : σ → α → Prop)
    (keep : ∀ state action, Inv state → Promise state action →
      (Inv (step state action).2 ∧ Check (transition step state action) ↔ Guard state action))
    {state : σ} {actions : List α} (start : Inv state)
    (promised : ∀ entry ∈ run step state actions, Promise entry.before entry.action) :
    (∀ entry ∈ run step state actions, Inv entry.after ∧ Check entry) ↔
      ∀ entry ∈ run step state actions, Guard entry.before entry.action := by
  induction actions generalizing state with
  | nil => simp
  | cons action rest ih =>
      simp only [run_cons, List.forall_mem_cons] at promised ⊢
      have first := keep state action start promised.1
      constructor
      · rintro ⟨next, later⟩
        exact ⟨first.mp next, (ih next.1 promised.2).mp later⟩
      · rintro ⟨guarded, later⟩
        have next := first.mpr guarded
        exact ⟨next, (ih next.1 promised.2).mpr later⟩

/-- Under an invariant that guarded steps keep, a check passes at a step exactly when the step meets
the guard; then it passes all along a run exactly when every transition meets the guard. -/
theorem check_run_iff (Inv : σ → Prop) (Check : Transition σ α ρ → Prop) (Guard : σ → α → Prop)
    (keep : ∀ state action, Inv state → Guard state action → Inv (step state action).2)
    (decides : ∀ state action, Inv state →
      (Check (transition step state action) ↔ Guard state action))
    {state : σ} {actions : List α} (start : Inv state) :
    (∀ entry ∈ run step state actions, Check entry) ↔
      ∀ entry ∈ run step state actions, Guard entry.before entry.action := by
  induction actions generalizing state with
  | nil => simp
  | cons action rest ih =>
      simp only [run_cons, List.forall_mem_cons]
      have first := decides state action start
      constructor
      · rintro ⟨passes, later⟩
        have guarded := first.mp passes
        exact ⟨guarded, (ih (keep state action start guarded)).mp later⟩
      · rintro ⟨guarded, later⟩
        exact ⟨first.mpr guarded, (ih (keep state action start guarded)).mpr later⟩

/-- The same for an invariant alone. -/
theorem invariant_run_iff (Inv : σ → Prop) (Guard : σ → α → Prop)
    (keep : ∀ state action, Inv state → (Inv (step state action).2 ↔ Guard state action))
    {state : σ} {actions : List α} (start : Inv state) :
    (∀ entry ∈ run step state actions, Inv entry.after) ↔
      ∀ entry ∈ run step state actions, Guard entry.before entry.action := by
  have keep' (state : σ) (action : α) (inv : Inv state) (_ : True) :
      Inv (step state action).2 ∧ True ↔ Guard state action := by
    rw [and_true]
    exact keep state action inv
  have checked := checked_run_iff Inv (fun _ => True) (fun _ _ => True) Guard keep' start
    (fun entry (_ : entry ∈ run step state actions) => True.intro)
  simpa only [and_true] using checked

/-- A transition of a history that goes on is an earlier one or the last. -/
theorem exists_mem_concat {Holds : Transition σ α ρ → Prop} {past : List (Transition σ α ρ)}
    {last : Transition σ α ρ} :
    (∃ entry ∈ past ++ [last], Holds entry) ↔ (∃ entry ∈ past, Holds entry) ∨ Holds last := by
  constructor
  · rintro ⟨entry, member, holds⟩
    rcases List.mem_append.mp member with earlier | isLast
    · exact Or.inl ⟨entry, earlier, holds⟩
    · rw [List.mem_singleton.mp isLast] at holds
      exact Or.inr holds
  · rintro (⟨entry, member, holds⟩ | holds)
    · exact ⟨entry, List.mem_append_left _ member, holds⟩
    · exact ⟨last, List.mem_append_right _ (List.mem_singleton_self _), holds⟩

/-- An invariant of a state and the transitions that led to it holds before every
transition of a run whose transitions all meet the guard. -/
theorem history_run (Inv : List (Transition σ α ρ) → σ → Prop) (Guard : σ → α → Prop)
    (keep : ∀ past state action, Inv past state → Guard state action →
      Inv (past ++ [transition step state action]) (step state action).2)
    {past : List (Transition σ α ρ)} {state : σ} {actions : List α} (start : Inv past state)
    (guarded : ∀ entry ∈ run step state actions, Guard entry.before entry.action)
    {first second : List (Transition σ α ρ)} {entry : Transition σ α ρ}
    (split : run step state actions = first ++ entry :: second) :
    Inv (past ++ first) entry.before := by
  induction actions generalizing past state first with
  | nil => simp at split
  | cons action rest ih =>
      have next := keep past state action start (guarded _ (List.mem_cons_self ..))
      cases first with
      | nil =>
          rw [run_cons, List.nil_append, List.cons.injEq] at split
          rw [← split.1, List.append_nil]
          exact start
      | cons head others =>
          rw [run_cons, List.cons_append, List.cons.injEq] at split
          have later := ih next
            (fun other inRest => guarded other (List.mem_cons_of_mem _ inRest)) split.2
          rw [split.1, List.append_assoc] at later
          exact later

/-- The same invariant holds of the whole run and its final state. -/
theorem history_final (Inv : List (Transition σ α ρ) → σ → Prop) (Guard : σ → α → Prop)
    (keep : ∀ past state action, Inv past state → Guard state action →
      Inv (past ++ [transition step state action]) (step state action).2)
    {past : List (Transition σ α ρ)} {state : σ} {actions : List α} (start : Inv past state)
    (guarded : ∀ entry ∈ run step state actions, Guard entry.before entry.action) :
    Inv (past ++ run step state actions) (final step state actions) := by
  induction actions generalizing past state with
  | nil =>
      rw [run_nil, List.append_nil]
      exact start
  | cons action rest ih =>
      have next := keep past state action start (guarded _ (List.mem_cons_self ..))
      have later := ih next (fun other inRest => guarded other (List.mem_cons_of_mem _ inRest))
      rw [List.append_assoc] at later
      exact later

/-- Values handed out along a run are pairwise related when every state
remembers the values handed out before it and relates them to the next one. -/
theorem pairwise_run {Inv : σ → Prop} {Past : σ → β → Prop} {Order : β → β → Prop}
    {extract : Transition σ α ρ → Option β}
    (keep : ∀ state action, Inv state → Inv (step state action).2)
    (remember : ∀ state action value, Past state value → Past (step state action).2 value)
    (record : ∀ state action value, Inv state →
      extract (transition step state action) = some value → Past (step state action).2 value)
    (order : ∀ state action earlier value, Inv state → Past state earlier →
      extract (transition step state action) = some value → Order earlier value)
    {state : σ} {actions : List α} (start : Inv state) :
    ((run step state actions).filterMap extract).Pairwise Order ∧
      ∀ earlier, Past state earlier →
        ∀ value ∈ (run step state actions).filterMap extract, Order earlier value := by
  induction actions generalizing state with
  | nil => simp
  | cons action rest ih =>
      obtain ⟨pairs, later⟩ := ih (keep state action start)
      cases head : extract (transition step state action) with
      | none =>
          simp only [run_cons, List.filterMap_cons, head]
          exact ⟨pairs, fun earlier past => later earlier (remember _ _ _ past)⟩
      | some value =>
          simp only [run_cons, List.filterMap_cons, head]
          refine ⟨List.pairwise_cons.mpr ⟨later value (record _ _ _ start head), pairs⟩, ?_⟩
          intro earlier past other member
          rcases List.mem_cons.mp member with same | inRest
          · exact same ▸ order state action earlier value start past head
          · exact later earlier (remember _ _ _ past) other inRest

end Gmv.Library.Runs
