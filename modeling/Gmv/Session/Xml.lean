import Mathlib.Data.List.Basic
import Gmv.Library.LandingCuts

/-!
# Flattening a GB28181 document

`parseItems` walks over the events of a document.  Every text becomes a pair of
its comma-separated path and its value, and a marker with the new depth goes in
front of a text whose depth differs from that of the text before it.
-/

namespace Gmv.Session.Xml

open Gmv.Library

/-- The events that the XML reader delivers; `other` stands for declarations,
comments and the like. -/
inductive Event where
  | start (name : String)
  | text (content : String)
  | stop
  | other
  deriving DecidableEq, Repr

/-- The characters of Unicode's `White_Space` property. -/
def isWhitespace (char : Char) : Bool :=
  let code := char.toNat
  (9 ≤ code && code ≤ 13) || code == 32 || code == 133 || code == 160 || code == 5760 ||
    (8192 ≤ code && code ≤ 8202) || code == 8232 || code == 8233 || code == 8239 ||
    code == 8287 || code == 12288

def trim (text : String) : String :=
  String.ofList ((text.toList.dropWhile isWhitespace).reverse.dropWhile isWhitespace).reverse

/-- `path.join(",")`. -/
def joined (path : List String) : String := ",".intercalate path

def splitClass : String := "?<-0_0->?"

/-- The variables of the loop in `parse_items`. -/
structure Scan where
  path : List String
  items : List (String × String)
  lastDepth : Nat
  deriving DecidableEq, Repr

/-- One event of the loop in `parse_items`. -/
def Scan.step (scan : Scan) : Event → Scan
  | .start name => { scan with path := scan.path ++ [name] }
  | .text content =>
      let value := trim content
      if value = "" then scan
      else
        let depth := scan.path.length
        let marked :=
          if scan.lastDepth = depth then scan.items
          else scan.items ++ [(splitClass, toString depth)]
        { scan with items := marked ++ [(joined scan.path, value)], lastDepth := depth }
  | .stop => { scan with path := scan.path.dropLast }
  | .other => scan

def parseItems (events : List Event) : List (String × String) :=
  (events.foldl Scan.step ⟨[], [], 0⟩).items

/-! ## Texts in document order -/

/-- A text that is not blank, with the path to it. -/
structure Text where
  path : List String
  value : String
  deriving DecidableEq, Repr

def Text.depth (text : Text) : Nat := text.path.length

/-- The pairs of a stretch of texts, with the markers between them. -/
def marked (last : Nat) : List Text → List (String × String)
  | [] => []
  | text :: rest =>
      (if last = text.depth then [] else [(splitClass, toString text.depth)]) ++
        (joined text.path, text.value) :: marked text.depth rest

theorem marked_append (last : Nat) (first second : List Text) :
    marked last (first ++ second) =
      marked last first ++ marked (LandingCuts.reached Text.depth last first) second := by
  induction first generalizing last with
  | nil => rfl
  | cons text rest hypothesis =>
      rw [List.cons_append, marked, marked, hypothesis, LandingCuts.reached, List.append_assoc,
        List.cons_append]

theorem reached_append (last : Nat) (first second : List Text) :
    LandingCuts.reached Text.depth last (first ++ second) =
      LandingCuts.reached Text.depth (LandingCuts.reached Text.depth last first) second := by
  induction first generalizing last with
  | nil => rfl
  | cons text rest hypothesis =>
      rw [List.cons_append, LandingCuts.reached, LandingCuts.reached, hypothesis]

/-- Below a path, the events of a fragment leave exactly the pairs of its texts. -/
def Yields (path : List String) (events : List Event) (texts : List Text) : Prop :=
  ∀ items last, events.foldl Scan.step ⟨path, items, last⟩ =
    ⟨path, items ++ marked last texts, LandingCuts.reached Text.depth last texts⟩

namespace Yields

variable {path : List String} {events : List Event} {texts : List Text}

theorem none (path : List String) : Yields path [] [] := by
  intro items last
  rw [marked, List.append_nil]
  rfl

theorem append {next : List Event} {others : List Text} (first : Yields path events texts)
    (second : Yields path next others) : Yields path (events ++ next) (texts ++ others) := by
  intro items last
  rw [List.foldl_append, first, second, marked_append, reached_append, List.append_assoc]

theorem other (rest : Yields path events texts) : Yields path (.other :: events) texts := by
  intro items last
  exact rest items last

/-- The content of an element lies one step further down. -/
theorem element {name : String} (content : Yields (path ++ [name]) events texts) :
    Yields path (.start name :: events ++ [.stop]) texts := by
  intro items last
  have entered : Scan.step ⟨path, items, last⟩ (.start name) = ⟨path ++ [name], items, last⟩ := rfl
  rw [List.cons_append, List.foldl_cons, entered, List.foldl_append, content, List.foldl_cons,
    List.foldl_nil, Scan.step, List.dropLast_concat]

theorem flatMap {ι : Type} {pieces : ι → List Event} {found : ι → List Text} {parts : List ι}
    (each : ∀ part ∈ parts, Yields path (pieces part) (found part)) :
    Yields path (parts.flatMap pieces) (parts.flatMap found) := by
  induction parts with
  | nil => exact Yields.none path
  | cons part parts hypothesis =>
      rw [List.flatMap_cons, List.flatMap_cons]
      exact (each part List.mem_cons_self).append
        (hypothesis fun other member => each other (List.mem_cons_of_mem _ member))

end Yields

/-- The text of an element's only text node, if it is not blank. -/
def textAt (path : List String) (content : String) : List Text :=
  if trim content = "" then [] else [⟨path, trim content⟩]

theorem yields_text (path : List String) (content : String) :
    Yields path [.text content] (textAt path content) := by
  intro items last
  rw [List.foldl_cons, List.foldl_nil, Scan.step, textAt]
  split
  · rw [marked, List.append_nil, LandingCuts.reached]
  · rw [marked, marked, LandingCuts.reached, LandingCuts.reached]
    change Scan.mk _ _ _ = Scan.mk _ _ _
    split
    · rename_i same
      rw [if_pos (show last = Text.depth ⟨path, trim content⟩ from same), List.nil_append]
      rfl
    · rename_i differs
      rw [if_neg (show ¬ last = Text.depth ⟨path, trim content⟩ from differs), List.append_assoc]
      rfl

theorem parseItems_of_yields {events : List Event} {texts : List Text}
    (whole : Yields [] events texts) : parseItems events = marked 0 texts := by
  rw [parseItems, whole, List.nil_append]

/-! ## Paths can be read off their keys -/

/-- The steps of a path are XML names, which have no comma. -/
def Plain (path : List String) : Prop := ∀ name ∈ path, ',' ∉ name.toList

theorem toList_joined (path : List String) :
    (joined path).toList = [','].intercalate (path.map String.toList) := by
  rw [joined, String.toList_intercalate]
  rfl

/-- Different paths have different keys. -/
theorem joined_injective {first second : List String} (firstPlain : Plain first)
    (secondPlain : Plain second) (firstSteps : first ≠ []) (secondSteps : second ≠ [])
    (same : joined first = joined second) : first = second := by
  have chars := congrArg String.toList same
  rw [toList_joined, toList_joined] at chars
  have steps := congrArg (List.splitOn ',') chars
  rw [List.splitOn_intercalate, List.splitOn_intercalate] at steps
  · exact List.map_injective_iff.mpr (fun _ _ => String.toList_injective) steps
  · rintro chars member
    obtain ⟨name, nameMember, rfl⟩ := List.mem_map.mp member
    exact secondPlain name nameMember
  · exact fun none => secondSteps (List.map_eq_nil_iff.mp none)
  · rintro chars member
    obtain ⟨name, nameMember, rfl⟩ := List.mem_map.mp member
    exact firstPlain name nameMember
  · exact fun none => firstSteps (List.map_eq_nil_iff.mp none)

end Gmv.Session.Xml
