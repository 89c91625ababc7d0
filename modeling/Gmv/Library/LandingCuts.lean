import Mathlib.Data.List.Basic

/-!
# Records cut out of a stream at its landings

Tokens carry a level.  A reader holds one record open and adds every token to
it.  A token on the floor level that comes from another level is a landing; a
landing closes the open record once that record has a named token, and opens
the next one.  The module says where the cuts fall.
-/

namespace Gmv.Library.LandingCuts

variable {τ : Type} (level : τ → Nat) (named : τ → Bool) (floor : Nat)

/-- The token reaches the floor from another level. -/
def lands (last : Nat) (token : τ) : Bool := level token == floor && last != floor

/-- The records the reader closes, and the one it is left with. -/
def cut (last : Nat) (held : List τ) : List τ → List (List τ)
  | [] => [held]
  | token :: rest =>
      if lands level floor last token && held.any named then
        held :: cut (level token) [token] rest
      else cut (level token) (held ++ [token]) rest

/-- The level after a stretch of tokens. -/
def reached (last : Nat) : List τ → Nat
  | [] => last
  | token :: rest => reached (level token) rest

/-- The tokens before the first landing. -/
def before (last : Nat) : List τ → List τ
  | [] => []
  | token :: rest =>
      if lands level floor last token then [] else token :: before (level token) rest

/-- The tokens from the first landing on. -/
def after (last : Nat) : List τ → List τ
  | [] => []
  | token :: rest =>
      if lands level floor last token then token :: rest else after (level token) rest

/-- The tokens up to the first name. -/
def throughName : List τ → List τ
  | [] => []
  | token :: rest => if named token then [token] else token :: throughName rest

/-- The tokens after the first name. -/
def pastName : List τ → List τ
  | [] => []
  | token :: rest => if named token then rest else pastName rest

variable {level named floor}

variable (named) in
theorem throughName_append_pastName (tokens : List τ) :
    throughName named tokens ++ pastName named tokens = tokens := by
  induction tokens with
  | nil => rfl
  | cons token rest hypothesis =>
      rw [throughName, pastName]
      split
      · rfl
      · rw [List.cons_append, hypothesis]

theorem throughName_any {tokens : List τ} (isNamed : tokens.any named = true) :
    (throughName named tokens).any named = true := by
  induction tokens with
  | nil => cases isNamed
  | cons token rest hypothesis =>
      rw [throughName]
      split
      · rename_i first
        rw [List.any_cons, first, Bool.true_or]
      · rename_i first
        rw [List.any_cons, Bool.eq_false_iff.mpr first, Bool.false_or] at isNamed
        rw [List.any_cons, hypothesis isNamed, Bool.or_true]

/-- Only the last token up to the first name is one. -/
theorem throughName_front {tokens front back : List τ} {token : τ}
    (split : throughName named tokens = front ++ token :: back) : front.any named = false := by
  induction tokens generalizing front with
  | nil => exact absurd split.symm (List.append_ne_nil_of_right_ne_nil _ (List.cons_ne_nil _ _))
  | cons first rest hypothesis =>
      cases front with
      | nil => rfl
      | cons other front =>
          rw [throughName, List.cons_append] at split
          split at split
          · rw [List.cons.injEq] at split
            exact absurd split.2.symm
              (List.append_ne_nil_of_right_ne_nil _ (List.cons_ne_nil _ _))
          · rename_i unnamed
            rw [List.cons.injEq] at split
            rw [List.any_cons, ← split.1, Bool.eq_false_iff.mpr unnamed, hypothesis split.2]
            rfl

theorem pastName_append_unnamed {front : List τ} (unnamed : front.any named = false)
    (tokens : List τ) :
    pastName named (front ++ tokens) = pastName named tokens := by
  induction front with
  | nil => rfl
  | cons token front hypothesis =>
      rw [List.any_cons, Bool.or_eq_false_iff] at unnamed
      rw [List.cons_append, pastName, unnamed.1, if_neg Bool.false_ne_true, hypothesis unnamed.2]

variable (level floor) in
theorem before_append_after (last : Nat) (tokens : List τ) :
    before level floor last tokens ++ after level floor last tokens = tokens := by
  induction tokens generalizing last with
  | nil => rfl
  | cons token rest hypothesis =>
      rw [before, after]
      split
      · rfl
      · rw [List.cons_append, hypothesis]

/-- An open record without a name takes the next token. -/
theorem cut_cons_unnamed {held : List τ} (unnamed : held.any named = false) (last : Nat)
    (token : τ) (rest : List τ) :
    cut level named floor last held (token :: rest) =
      cut level named floor (level token) (held ++ [token]) rest := by
  rw [cut, unnamed, Bool.and_false, if_neg Bool.false_ne_true]

/-- An open record without a name takes a whole stretch without one. -/
theorem cut_append_unnamed {held tokens : List τ} (unnamed : held.any named = false)
    (quiet : tokens.any named = false) (last : Nat) (rest : List τ) :
    cut level named floor last held (tokens ++ rest) =
      cut level named floor (reached level last tokens) (held ++ tokens) rest := by
  induction tokens generalizing held last with
  | nil => rw [List.nil_append, List.append_nil, reached]
  | cons token tokens hypothesis =>
      rw [List.any_cons, Bool.or_eq_false_iff] at quiet
      have extended : (held ++ [token]).any named = false := by
        rw [List.any_append, unnamed, List.any_cons, quiet.1, List.any_nil]
        rfl
      rw [List.cons_append, cut_cons_unnamed unnamed, hypothesis extended quiet.2, reached,
        List.append_assoc, List.singleton_append]

theorem cut_ne_nil (last : Nat) (held tokens : List τ) :
    cut level named floor last held tokens ≠ [] := by
  induction tokens generalizing held last with
  | nil => exact List.cons_ne_nil _ _
  | cons token rest hypothesis =>
      rw [cut]
      split
      · exact List.cons_ne_nil _ _
      · exact hypothesis _ _

/-- An open record without a name takes everything up to the next name. -/
theorem cut_throughName {held tokens : List τ}
    (ground : ∀ token ∈ tokens, named token = true → level token = floor) (unnamed : held.any named = false)
    (isNamed : tokens.any named = true) (last : Nat) (rest : List τ) :
    cut level named floor last held (tokens ++ rest) =
      cut level named floor floor (held ++ throughName named tokens)
        (pastName named tokens ++ rest) := by
  induction tokens generalizing held last with
  | nil => cases isNamed
  | cons token tokens hypothesis =>
      rw [List.cons_append, cut_cons_unnamed unnamed, throughName, pastName]
      split
      · rename_i first
        rw [ground token List.mem_cons_self first]
      · rename_i first
        have quiet := Bool.eq_false_iff.mpr first
        have extended : (held ++ [token]).any named = false := by
          rw [List.any_append, unnamed, List.any_cons, quiet, List.any_nil]
          rfl
        rw [List.any_cons, quiet, Bool.false_or] at isNamed
        rw [hypothesis (fun other member => ground other (List.mem_cons_of_mem _ member)) extended
          isNamed, List.append_assoc, List.singleton_append]

/-- A stretch without a landing stays in the open record. -/
theorem cut_append_flat {tokens : List τ} (last : Nat)
    (flat : after level floor last tokens = []) (held rest : List τ) :
    cut level named floor last held (tokens ++ rest) =
      cut level named floor (reached level last tokens) (held ++ tokens) rest := by
  induction tokens generalizing held last with
  | nil => rw [List.nil_append, List.append_nil, reached]
  | cons token tokens hypothesis =>
      rw [after] at flat
      split at flat
      · cases flat
      · rename_i level_kept
        rw [List.cons_append, cut, Bool.eq_false_iff.mpr level_kept, Bool.false_and,
          if_neg Bool.false_ne_true, hypothesis _ flat, reached, List.append_assoc,
          List.singleton_append]

/-- The first landing of a stretch closes an open record with a name. -/
theorem cut_append_landing {tokens : List τ} {held : List τ} (isNamed : held.any named = true)
    {last : Nat} {token : τ} {moved : List τ}
    (landing : after level floor last tokens = token :: moved) (rest : List τ) :
    cut level named floor last held (tokens ++ rest) =
      (held ++ before level floor last tokens) ::
        cut level named floor (level token) [token] (moved ++ rest) := by
  induction tokens generalizing held last with
  | nil => cases landing
  | cons first tokens hypothesis =>
      rw [after] at landing
      rw [List.cons_append, cut, before]
      split at landing
      · rename_i isLanding
        cases landing
        rw [isLanding, isNamed, Bool.and_self, if_pos rfl, if_pos rfl, List.append_nil]
      · rename_i noLanding
        have extended : (held ++ [first]).any named = true := by
          rw [List.any_append, isNamed, Bool.true_or]
        rw [Bool.eq_false_iff.mpr noLanding, Bool.false_and, if_neg Bool.false_ne_true,
          if_neg Bool.false_ne_true, hypothesis extended landing, List.append_assoc,
          List.singleton_append]

/-- A stretch that never comes to the floor leaves one record. -/
theorem cut_aloft {tokens : List τ} (aloft : ∀ token ∈ tokens, level token ≠ floor)
    (last : Nat) (held : List τ) :
    cut level named floor last held tokens = [held ++ tokens] := by
  induction tokens generalizing held last with
  | nil => rw [cut, List.append_nil]
  | cons token tokens hypothesis =>
      have high : (level token == floor) = false :=
        beq_eq_false_iff_ne.mpr (aloft token List.mem_cons_self)
      rw [cut, lands, high, Bool.false_and, Bool.false_and, if_neg Bool.false_ne_true,
        hypothesis fun other member => aloft other (List.mem_cons_of_mem _ member),
        List.append_assoc, List.singleton_append]

variable (level named floor) in
/-- At most as many records have a name as there are names to give them. -/
theorem countP_cut_le (last : Nat) (held tokens : List τ) :
    (cut level named floor last held tokens).countP (fun record => record.any named) ≤
      (if held.any named then 1 else 0) + tokens.countP named := by
  induction tokens generalizing held last with
  | nil => simp [cut, List.countP_cons]
  | cons token tokens hypothesis =>
      rw [cut]
      split
      · have bound := hypothesis (level token) [token]
        rename_i closes
        rw [Bool.and_eq_true] at closes
        rw [List.countP_cons, List.countP_cons, closes.2]
        cases isNamed : named token <;> simp_all <;> omega
      · have bound := hypothesis (level token) (held ++ [token])
        rw [List.countP_cons]
        cases isNamed : named token <;> cases heldNamed : held.any named <;> simp_all <;> omega

end Gmv.Library.LandingCuts
