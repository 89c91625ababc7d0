import Mathlib.Data.List.Basic

/-!
# Text with tags

A document is a declaration and a row of tags, each with the text behind it.  The tags of a document that is well
formed are nested, and its texts write the characters of the markup as entities.  Splitting such a document at its
markup gives the tags and the texts back.
-/

namespace Gmv.Library.Markup

abbrev Text := List Char

/-- The characters of a text are gone through one by one, not all that there are. -/
scoped instance (priority := high) decidableForallMem (text : Text) (holds : Char → Prop) [DecidablePred holds] :
    Decidable (∀ char ∈ text, holds char) :=
  List.decidableBAll holds text

/-! ## Entities and references -/

/-- How a character is written in a text. -/
def entity : Char → Text
  | '&' => ['&', 'a', 'm', 'p', ';']
  | '<' => ['&', 'l', 't', ';']
  | '>' => ['&', 'g', 't', ';']
  | '"' => ['&', 'q', 'u', 'o', 't', ';']
  | '\'' => ['&', 'a', 'p', 'o', 's', ';']
  | char => [char]

/-- A character by its number. -/
def reference (char : Char) : Text := '&' :: '#' :: (Nat.toDigits 10 char.toNat ++ [';'])

/-- What is meant between an ampersand and a semicolon: one of the five entities, or the character of a number
that is written as numbers are, and is not zero. -/
def meant : Text → Option Char
  | ['a', 'm', 'p'] => some '&'
  | ['l', 't'] => some '<'
  | ['g', 't'] => some '>'
  | ['q', 'u', 'o', 't'] => some '"'
  | ['a', 'p', 'o', 's'] => some '\''
  | '#' :: digits =>
      let char := Char.ofNat (Nat.ofDigitChars 10 digits 0)
      if char.toNat ≠ 0 ∧ Nat.toDigits 10 char.toNat = digits then some char else none
  | _ => none

/-- What a text stands for; behind an ampersand, with what has been read since. -/
def unescapeFrom : Option Text → Text → Option Text
  | none, [] => some []
  | some _, [] => none
  | none, char :: rest =>
      if char = '&' then unescapeFrom (some []) rest else (unescapeFrom none rest).map (char :: ·)
  | some front, char :: rest =>
      if char = ';' then (meant front).bind fun char => (unescapeFrom none rest).map (char :: ·)
      else unescapeFrom (some (front ++ [char])) rest

def unescape (text : Text) : Option Text := unescapeFrom none text

theorem unescape_cons {char : Char} (plain : char ≠ '&') (rest : Text) :
    unescape (char :: rest) = (unescape rest).map (char :: ·) := by
  rw [unescape, unescapeFrom, if_neg plain, unescape]

theorem unescapeFrom_append {back : Text} (open' : ';' ∉ back) (front rest : Text) :
    unescapeFrom (some front) (back ++ ';' :: rest) =
      (meant (front ++ back)).bind fun char => (unescape rest).map (char :: ·) := by
  induction back generalizing front with
  | nil => rw [List.nil_append, unescapeFrom, if_pos rfl, List.append_nil, unescape]
  | cons char back ih =>
      have other : char ≠ ';' := fun same => open' (same ▸ List.mem_cons_self)
      rw [List.cons_append, unescapeFrom, if_neg other, ih fun member => open' (List.mem_cons_of_mem _ member),
        List.append_assoc, List.singleton_append]

theorem unescape_meant {name : Text} {char : Char} (open' : ';' ∉ name) (isChar : meant name = some char)
    (rest : Text) : unescape ('&' :: (name ++ ';' :: rest)) = (unescape rest).map (char :: ·) := by
  rw [unescape, unescapeFrom, if_pos rfl, unescapeFrom_append open', List.nil_append, isChar, Option.bind_some]

theorem unescape_entity (char : Char) (rest : Text) :
    unescape (entity char ++ rest) = (unescape rest).map (char :: ·) := by
  unfold entity
  split
  · exact @unescape_meant ['a', 'm', 'p'] '&' (by decide) rfl rest
  · exact @unescape_meant ['l', 't'] '<' (by decide) rfl rest
  · exact @unescape_meant ['g', 't'] '>' (by decide) rfl rest
  · exact @unescape_meant ['q', 'u', 'o', 't'] '"' (by decide) rfl rest
  · exact @unescape_meant ['a', 'p', 'o', 's'] '\'' (by decide) rfl rest
  · next notAmp _ _ _ _ => exact unescape_cons notAmp rest

theorem isDigit_of_mem_toDigits {number : Nat} {char : Char} (member : char ∈ Nat.toDigits 10 number) :
    char.isDigit = true :=
  Nat.isDigit_of_mem_toDigits (by decide) (by decide) member

theorem meant_reference {char : Char} (some' : char.toNat ≠ 0) :
    meant ('#' :: Nat.toDigits 10 char.toNat) = some char := by
  have same : Char.ofNat (Nat.ofDigitChars 10 (Nat.toDigits 10 char.toNat) 0) = char := by
    rw [Nat.ofDigitChars_ten_toDigits, Char.ofNat_toNat]
  rw [meant, same, if_pos ⟨some', rfl⟩]

theorem unescape_reference {char : Char} (some' : char.toNat ≠ 0) (rest : Text) :
    unescape (reference char ++ rest) = (unescape rest).map (char :: ·) := by
  have open' : ';' ∉ '#' :: Nat.toDigits 10 char.toNat := by
    refine List.not_mem_cons_of_ne_of_not_mem (by decide) fun member => ?_
    have isDigit := isDigit_of_mem_toDigits member
    exact absurd isDigit (by decide)
  have shape : reference char ++ rest = '&' :: (('#' :: Nat.toDigits 10 char.toNat) ++ ';' :: rest) := by
    simp [reference]
  rw [shape, unescape_meant open' (meant_reference some')]

/-- Characters that are each written so that they are read back make a text that is. -/
theorem unescape_flatMap {write : Char → Text} {value : Text}
    (each : ∀ char ∈ value, ∀ rest, unescape (write char ++ rest) = (unescape rest).map (char :: ·)) :
    unescape (value.flatMap write) = some value := by
  induction value with
  | nil => rfl
  | cons char rest ih =>
      rw [List.flatMap_cons, each char List.mem_cons_self,
        ih fun other member => each other (List.mem_cons_of_mem _ member), Option.map_some]

theorem unescape_plain {raw : Text} (plain : '&' ∉ raw) : unescape raw = some raw := by
  induction raw with
  | nil => rfl
  | cons char rest ih =>
      rw [unescape_cons (fun same => plain (same ▸ List.mem_cons_self)),
        ih fun member => plain (List.mem_cons_of_mem _ member), Option.map_some]

theorem not_mem_entity (char : Char) : '<' ∉ entity char := by
  unfold entity
  split
  case h_6 _ isOther _ _ _ => exact fun member => isOther (List.mem_singleton.mp member).symm
  all_goals decide

theorem not_mem_reference (char : Char) : '<' ∉ reference char := by
  refine List.not_mem_cons_of_ne_of_not_mem (by decide) (List.not_mem_cons_of_ne_of_not_mem (by decide) ?_)
  rw [List.mem_append, not_or]
  refine ⟨fun member => ?_, by decide⟩
  have isDigit := isDigit_of_mem_toDigits member
  exact absurd isDigit (by decide)

theorem mem_entity {char part : Char} (member : part ∈ entity char) : part = char ∨ part.toNat < 128 := by
  unfold entity at member
  split at member
  case h_6 => exact Or.inl (List.mem_singleton.mp member)
  all_goals
    right
    revert part
    decide

/-! ## Documents -/

inductive Tag where
  | opening (name : Text)
  | closing (name : Text)
  deriving DecidableEq, Repr

def Tag.inside : Tag → Text
  | .opening name => name
  | .closing name => '/' :: name

/-- A tag and the text behind it. -/
structure Mark where
  tag : Tag
  after : Text
  deriving DecidableEq, Repr

def Mark.segment (mark : Mark) : Text := mark.tag.inside ++ '>' :: mark.after

structure Document where
  declaration : Text
  after : Text
  marks : List Mark
  deriving DecidableEq, Repr

def render (marks : List Mark) : Text := marks.flatMap fun mark => '<' :: mark.segment

def Document.segment (document : Document) : Text :=
  '?' :: (document.declaration ++ '?' :: '>' :: document.after)

def Document.render (document : Document) : Text :=
  '<' :: (document.segment ++ Markup.render document.marks)

def isSpace (char : Char) : Bool := char == ' ' || char == '\t' || char == '\r' || char == '\n'

def isName (name : Text) : Bool := name.head?.any Char.isAlpha && name.all Char.isAlphanum

/-- The elements that are open behind a tag. -/
def Tag.enter (names : List Text) : Tag → Option (List Text)
  | .opening name => if isName name then some (name :: names) else none
  | .closing name =>
      match names with
      | [] => none
      | inner :: outer => if name = inner then some outer else none

/-- A text inside an element, or white space outside. -/
def isText (names : List Text) (text : Text) : Bool :=
  !text.contains '<' && (unescape text).isSome && (!names.isEmpty || text.all isSpace)

/-- Every tag closes the element that was opened last. -/
def nested (names : List Text) : List Mark → Bool
  | [] => names.isEmpty
  | mark :: rest =>
      match mark.tag.enter names with
      | none => false
      | some inner => isText inner mark.after && nested inner rest

structure Document.WellFormed (document : Document) : Prop where
  declaration : ∀ char ∈ document.declaration, char ≠ '<' ∧ char ≠ '>' ∧ char ≠ '?'
  after : document.after.all isSpace = true
  nested : nested [] document.marks = true

section

variable {names inner : List Text} {name : Text} {mark : Mark} {marks rest : List Mark} {document : Document}

theorem isAlphanum_of_isName (isName' : isName name = true) : ∀ char ∈ name, char.isAlphanum = true :=
  List.all_eq_true.mp (Bool.and_eq_true_iff.mp isName').2

theorem not_mem_of_isName {char : Char} (isName' : isName name = true) (other : char.isAlphanum = false) :
    char ∉ name := fun member => by
  rw [isAlphanum_of_isName isName' char member] at other
  cases other

theorem enter_inside (entered : mark.tag.enter names = some inner) (names' : ∀ name ∈ names, isName name = true) :
    '<' ∉ mark.tag.inside ∧ '>' ∉ mark.tag.inside ∧ (∀ name, mark.tag = .opening name → isName name = true) ∧
      ∀ name ∈ inner, isName name = true := by
  cases tag : mark.tag with
  | opening name =>
      rw [tag, Tag.enter] at entered
      split at entered
      case isFalse => cases entered
      case isTrue isName' =>
        cases entered
        exact ⟨not_mem_of_isName isName' (by decide), not_mem_of_isName isName' (by decide),
          fun other same => Tag.opening.inj same ▸ isName', List.forall_mem_cons.mpr ⟨isName', names'⟩⟩
  | closing name =>
      rw [tag, Tag.enter.eq_def] at entered
      dsimp only at entered
      split at entered
      · cases entered
      · rename_i outer
        split at entered
        case isFalse => cases entered
        case isTrue same =>
          cases entered
          have isName' := names' _ List.mem_cons_self
          subst same
          refine ⟨?_, ?_, fun other same => (by cases same),
            fun other member => names' other (List.mem_cons_of_mem _ member)⟩
          · exact List.not_mem_cons_of_ne_of_not_mem (by decide) (not_mem_of_isName isName' (by decide))
          · exact List.not_mem_cons_of_ne_of_not_mem (by decide) (not_mem_of_isName isName' (by decide))

/-- What is between two brackets of a nested row of tags has none itself. -/
theorem segments_of_nested (isNested : nested names marks = true) (names' : ∀ name ∈ names, isName name = true) :
    ∀ mark ∈ marks, '<' ∉ mark.segment ∧ '>' ∉ mark.tag.inside ∧ (unescape mark.after).isSome = true ∧
      ∀ name, mark.tag = .opening name → isName name = true := by
  induction marks generalizing names with
  | nil => exact fun mark member => (List.not_mem_nil member).elim
  | cons first rest ih =>
      rw [nested] at isNested
      split at isNested
      · cases isNested
      · next inner entered =>
          obtain ⟨noOpen, noClose, opened, inner'⟩ := enter_inside entered names'
          obtain ⟨text, later⟩ := Bool.and_eq_true_iff.mp isNested
          simp only [isText, Bool.and_eq_true, Bool.not_eq_true', List.contains_eq_mem, decide_eq_false_iff_not] at text
          refine List.forall_mem_cons.mpr ⟨⟨?_, noClose, text.1.2, opened⟩, ih later inner'⟩
          rw [Mark.segment, List.mem_append, not_or]
          exact ⟨noOpen, List.not_mem_cons_of_ne_of_not_mem (by decide) text.1.1⟩

theorem render_eq_intercalate (before : Text) (marks : List Mark) :
    before ++ render marks = ['<'].intercalate (before :: marks.map Mark.segment) := by
  induction marks generalizing before with
  | nil => simp [render, List.intercalate]
  | cons mark rest ih =>
      have later := ih mark.segment
      rw [List.map_cons, List.intercalate_cons_cons, ← later, render, render, List.flatMap_cons]
      simp

/-- The pieces of a document between the opening brackets. -/
theorem splitOn_render (wellFormed : document.WellFormed) :
    document.render.splitOn '<' = [] :: document.segment :: document.marks.map Mark.segment := by
  have segments := segments_of_nested wellFormed.nested fun name member => (List.not_mem_nil member).elim
  have first : '<' ∉ document.segment := by
    intro member
    rcases List.mem_cons.mp member with none | member
    · cases none
    · rcases List.mem_append.mp member with inside | behind
      · exact (wellFormed.declaration _ inside).1 rfl
      · rcases List.mem_cons.mp behind with none | behind
        · cases none
        · rcases List.mem_cons.mp behind with none | inAfter
          · cases none
          · exact absurd (List.all_eq_true.mp wellFormed.after _ inAfter) (by decide)
  have whole : document.render = ['<'].intercalate ([] :: document.segment :: document.marks.map Mark.segment) := by
    rw [List.intercalate_cons_cons, ← render_eq_intercalate]
    rfl
  rw [whole, List.splitOn_intercalate]
  · intro segment member
    rcases List.mem_cons.mp member with rfl | member
    · exact List.not_mem_nil
    · rcases List.mem_cons.mp member with rfl | member
      · exact first
      · obtain ⟨mark, isMark, rfl⟩ := List.mem_map.mp member
        exact (segments mark isMark).1
  · simp

/-- A segment is cut at its closing bracket. -/
theorem cut_append {inside : Text} (free : '>' ∉ inside) (after : Text) :
    (inside ++ '>' :: after).takeWhile (· != '>') = inside ∧
      ((inside ++ '>' :: after).dropWhile (· != '>')).tail = after := by
  have all : ∀ char ∈ inside, (char != '>') = true := fun char member => by
    rw [bne_iff_ne]
    exact fun same => free (same ▸ member)
  constructor
  · rw [List.takeWhile_append_of_pos all]
    simp
  · rw [List.dropWhile_append_of_pos all]
    simp

end

end Gmv.Library.Markup
