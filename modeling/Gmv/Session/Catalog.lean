import Gmv.Session.DeviceChannel

/-!
# Catalog responses

A catalog response as a tree: some leaves, a `DeviceList` of `Item` elements and
some more leaves.  An item has leaves and `Info` elements in any order.  The
module relates the rows that `build` makes to the texts of the items, and says
when a list of texts gives the same row as another one.
-/

namespace Gmv.Session.Catalog

open Gmv.Library Gmv.Session.Xml Gmv.Session.DeviceChannel

/-- An XML name; it has no comma. -/
structure TagName where
  text : String
  plain : ',' ∉ text.toList

/-- An element with a text. -/
structure Leaf where
  name : TagName
  content : String

def Leaf.events (leaf : Leaf) : List Event :=
  .start leaf.name.text :: [.text leaf.content] ++ [.stop]

def Leaf.texts (path : List String) (leaf : Leaf) : List Text :=
  textAt (path ++ [leaf.name.text]) leaf.content

/-- A child of an item. -/
inductive Child where
  | field (leaf : Leaf)
  | info (leaves : List Leaf)

def itemPath : List String := ["Response", "DeviceList", "Item"]

def Child.events : Child → List Event
  | .field leaf => leaf.events
  | .info leaves => .start "Info" :: leaves.flatMap Leaf.events ++ [.stop]

def Child.texts : Child → List Text
  | .field leaf => leaf.texts itemPath
  | .info leaves => leaves.flatMap (Leaf.texts (itemPath ++ ["Info"]))

end Gmv.Session.Catalog

namespace Gmv.Session.Xml

open Gmv.Session.DeviceChannel

/-- The channel field that a text sets. -/
def Text.field (text : Text) : Option ChannelField := ChannelField.ofKey (joined text.path)

def Text.isId (text : Text) : Bool := text.field == some .deviceId

/-- The value that a text brings to its field. -/
def Text.carries {F : Type} (parseF32 : String → Option F) (text : Text) : Reading F :=
  match text.field with
  | none => .absent
  | some field => field.parsed parseF32 text.value

end Gmv.Session.Xml

namespace Gmv.Session.Catalog

open Gmv.Library Gmv.Session.Xml Gmv.Session.DeviceChannel

/-- No channel field is set twice. -/
def Once (texts : List Text) : Prop :=
  texts.Pairwise fun first second => first.field = none ∨ first.field ≠ second.field

/-- An `Item` element: it has a device identifier that is not blank, and it sets
every other field at most once. -/
structure Item where
  children : List Child
  named : (children.flatMap Child.texts).any Text.isId = true
  once : Once (children.flatMap Child.texts)

def Item.texts (item : Item) : List Text := item.children.flatMap Child.texts

def Item.events (item : Item) : List Event :=
  .start "Item" :: item.children.flatMap Child.events ++ [.stop]

/-- A catalog response. -/
structure Response where
  head : List Leaf
  items : List Item
  tail : List Leaf

def Response.events (response : Response) : List Event :=
  .other :: (.start "Response" ::
    (response.head.flatMap Leaf.events ++
      (.start "DeviceList" :: response.items.flatMap Item.events ++ [.stop]) ++
      response.tail.flatMap Leaf.events) ++ [.stop])

def Response.texts (response : Response) : List Text :=
  response.head.flatMap (Leaf.texts ["Response"]) ++ response.items.flatMap Item.texts ++
    response.tail.flatMap (Leaf.texts ["Response"])

/-! ## The texts of a response -/

theorem Leaf.yields (path : List String) (leaf : Leaf) :
    Yields path leaf.events (leaf.texts path) :=
  Yields.element (yields_text _ leaf.content)

theorem Child.yields (child : Child) : Yields itemPath child.events child.texts := by
  cases child with
  | field leaf => exact leaf.yields itemPath
  | info leaves => exact Yields.element (Yields.flatMap fun leaf _ => leaf.yields _)

theorem Item.yields (item : Item) : Yields ["Response", "DeviceList"] item.events item.texts :=
  Yields.element (Yields.flatMap fun child _ => child.yields)

theorem Response.yields (response : Response) : Yields [] response.events response.texts := by
  refine Yields.other (Yields.element (Yields.append (Yields.append ?_ ?_) ?_))
  · exact Yields.flatMap fun leaf _ => leaf.yields _
  · exact Yields.element (Yields.flatMap fun item _ => item.yields)
  · exact Yields.flatMap fun leaf _ => leaf.yields _

/-- What holds of every text in a response. -/
structure Sound (text : Text) : Prop where
  plain : Plain text.path
  rooted : ∃ rest, text.path = "Response" :: rest
  filled : text.value ≠ ""

theorem Leaf.sound {path : List String} {leaf : Leaf} (plain : Plain path)
    (rooted : ∃ rest, path = "Response" :: rest) {text : Text} (member : text ∈ leaf.texts path) :
    Sound text ∧ text.path = path ++ [leaf.name.text] := by
  rw [Leaf.texts, textAt] at member
  split at member
  · cases member
  · rename_i filled
    rw [List.mem_singleton] at member
    subst member
    obtain ⟨rest, rfl⟩ := rooted
    refine ⟨⟨?_, ⟨rest ++ [leaf.name.text], rfl⟩, filled⟩, rfl⟩
    intro name nameMember
    rcases List.mem_append.mp nameMember with inPath | isLast
    · exact plain name inPath
    · rw [List.mem_singleton.mp isLast]
      exact leaf.name.plain

theorem itemPath_plain : Plain itemPath := by
  unfold Plain
  decide

theorem infoPath_plain : Plain (itemPath ++ ["Info"]) := by
  unfold Plain
  decide

theorem Item.sound (item : Item) : ∀ text ∈ item.texts, Sound text := by
  intro text member
  obtain ⟨child, _, inChild⟩ := List.mem_flatMap.mp member
  cases child with
  | field leaf => exact (Leaf.sound itemPath_plain ⟨_, rfl⟩ inChild).1
  | info leaves =>
      obtain ⟨leaf, _, inLeaf⟩ := List.mem_flatMap.mp inChild
      exact (Leaf.sound infoPath_plain ⟨_, rfl⟩ inLeaf).1

theorem Sound.field_eq {text : Text} (sound : Sound text) (field : ChannelField) :
    text.field = some field ↔ text.path = field.path := by
  obtain ⟨rest, rooted⟩ := sound.rooted
  exact ChannelField.ofKey_joined sound.plain (by rw [rooted]; exact List.cons_ne_nil _ _) field

/-- The leaves around the device list set no field and lie above the items. -/
theorem outer_texts {leaves : List Leaf} {text : Text}
    (member : text ∈ leaves.flatMap (Leaf.texts ["Response"])) :
    Sound text ∧ text.depth = 2 ∧ text.field = none := by
  obtain ⟨leaf, _, inLeaf⟩ := List.mem_flatMap.mp member
  have plain : Plain ["Response"] := by
    unfold Plain
    decide
  obtain ⟨sound, path⟩ := Leaf.sound plain ⟨_, rfl⟩ inLeaf
  refine ⟨sound, by rw [Text.depth, path]; rfl, ?_⟩
  cases found : text.field with
  | none => rfl
  | some field =>
      have same := (sound.field_eq field).mp found
      rw [path] at same
      have lengths := congrArg List.length same
      cases field <;> cases lengths

theorem Response.sound (response : Response) : ∀ text ∈ response.texts, Sound text := by
  intro text member
  rcases List.mem_append.mp member with inFront | inTail
  · rcases List.mem_append.mp inFront with inHead | inItems
    · exact (outer_texts inHead).1
    · obtain ⟨item, _, inItem⟩ := List.mem_flatMap.mp inItems
      exact item.sound text inItem
  · exact (outer_texts inTail).1

theorem Sound.depth_of_isId {text : Text} (sound : Sound text) (isId : text.isId = true) :
    text.depth = 4 := by
  have path := (sound.field_eq .deviceId).mp (beq_iff_eq.mp isId)
  rw [Text.depth, path]
  rfl

/-- No text is taken for a marker. -/
theorem Sound.joined_ne {text : Text} (sound : Sound text) : joined text.path ≠ splitClass := by
  intro same
  obtain ⟨rest, rooted⟩ := sound.rooted
  have marker : joined [splitClass] = splitClass := by decide
  have plain : Plain [splitClass] := by
    unfold Plain
    decide
  rw [← marker] at same
  have paths := joined_injective sound.plain plain (by rw [rooted]; exact List.cons_ne_nil _ _)
    (List.cons_ne_nil _ _) same
  rw [rooted, List.cons.injEq] at paths
  exact absurd paths.1 (by decide)

end Gmv.Session.Catalog
