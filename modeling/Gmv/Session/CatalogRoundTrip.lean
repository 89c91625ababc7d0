import Gmv.Session.CatalogChannels

/-!
# Catalog round trip

`build` has no marker for the end of an item.  It closes a channel where a text
at the depth of the item's leaves follows a text at another depth, once the
channel has an identifier.  The module determines the catalog responses whose
items come back one by one.
-/

namespace Gmv.Session.Catalog

open Gmv.Library Gmv.Session.Xml Gmv.Session.DeviceChannel

variable {F : Type} {parseF32 : String → Option F} {parentDeviceId : String}

/-! ## Where the cuts have to fall -/

/-- The texts of an item from the first place behind its identifier where a leaf
follows an `Info` text. -/
def leftover (texts : List Text) : List Text :=
  LandingCuts.after Text.depth 4 4 (LandingCuts.pastName Text.isId texts)

/-- The depth of the last text of an item, from its identifier on. -/
def endDepth (texts : List Text) : Nat :=
  LandingCuts.reached Text.depth 4 (LandingCuts.pastName Text.isId texts)

/-- The texts of an item that still belong to the item before it, which ended at
the given depth. -/
def overlap (last : Nat) (texts : List Text) : List Text :=
  LandingCuts.before Text.depth 4 last (LandingCuts.throughName Text.isId texts)

/-- The texts of an item, up to its identifier, from the first leaf that follows
a text at another depth. -/
def opening (last : Nat) (texts : List Text) : List Text :=
  LandingCuts.after Text.depth 4 last (LandingCuts.throughName Text.isId texts)

variable (parseF32) in
/-- Two neighbours come apart at the right place, up to texts without a value. -/
def Follows (first second : List Text) : Prop :=
  if leftover first = [] then
    opening (endDepth first) second ≠ [] ∧
      (∀ text ∈ overlap (endDepth first) second, Silent parseF32 text) ∧
      Clear parseF32 (overlap (endDepth first) second) first
  else ∀ text ∈ leftover first, Silent parseF32 text

variable (parseF32) in
/-- Every neighbour comes apart and the last item stays whole. -/
def Separated (first : List Text) : List (List Text) → Prop
  | [] => leftover first = []
  | second :: rest => Follows parseF32 first second ∧ Separated second rest

/-- The texts of one item. -/
structure Entry (texts : List Text) : Prop where
  named : texts.any Text.isId = true
  once : Once texts
  sound : ∀ text ∈ texts, Sound text

theorem Item.entry (item : Item) : Entry item.texts := ⟨item.named, item.once, item.sound⟩

theorem any_isId_eq_false {texts : List Text} (missing : latest .deviceId texts = none) :
    texts.any Text.isId = false := by
  rw [List.any_eq_false]
  intro text member isId
  exact latest_eq_none.mp missing text member (beq_iff_eq.mp isId)

theorem Entry.past_unnamed {texts : List Text} (entry : Entry texts) :
    (LandingCuts.pastName Text.isId texts).any Text.isId = false := by
  have once := entry.once
  rw [← LandingCuts.throughName_append_pastName Text.isId texts] at once
  obtain ⟨text, member, isId⟩ := List.any_eq_true.mp (LandingCuts.throughName_any entry.named)
  exact any_isId_eq_false
    ((latest_none_of_disjoint once).1 text member .deviceId (beq_iff_eq.mp isId))

theorem Once.countP_le {texts : List Text} (once : Once texts) :
    texts.countP Text.isId ≤ 1 := by
  induction texts with
  | nil => exact Nat.zero_le 1
  | cons text rest hypothesis =>
      obtain ⟨alone, onceRest⟩ := List.pairwise_cons.mp once
      rw [List.countP_cons]
      split
      · rename_i isId
        have others : rest.countP Text.isId = 0 := by
          rw [List.countP_eq_zero]
          intro other member otherId
          rcases alone other member with fieldless | differs
          · rw [beq_iff_eq.mp isId] at fieldless
            cases fieldless
          · exact differs ((beq_iff_eq.mp isId).trans (beq_iff_eq.mp otherId).symm)
        exact Nat.le_of_eq (congrArg (· + 1) others)
      · exact hypothesis onceRest

theorem countP_flatten_le {more : List (List Text)} (entries : ∀ texts ∈ more, Entry texts) :
    more.flatten.countP Text.isId ≤ more.length := by
  induction more with
  | nil => exact Nat.le_refl 0
  | cons texts rest hypothesis =>
      have first := (entries texts List.mem_cons_self).once.countP_le
      have others := hypothesis fun other member => entries other (List.mem_cons_of_mem _ member)
      rw [List.flatten_cons, List.countP_append, List.length_cons]
      omega

theorem any_isId_of_fieldless {texts : List Text} (fieldless : ∀ text ∈ texts, text.field = none) :
    texts.any Text.isId = false := by
  refine any_isId_eq_false (latest_eq_none.mpr fun text member => ?_)
  rw [fieldless text member]
  exact (Option.some_ne_none _).symm

/-- Items that run together leave fewer channels than there are items. -/
theorem merged_ne {more : List (List Text)} (entries : ∀ texts ∈ more, Entry texts)
    {first second tail held : List Text} (firstEntry : Entry first) (secondEntry : Entry second)
    (fieldless : ∀ text ∈ tail, text.field = none) (last : Nat) :
    (LandingCuts.cut Text.depth Text.isId 4 last held
        (LandingCuts.pastName Text.isId second ++ (more.flatten ++ tail))).map
        (channelOf parseF32 parentDeviceId) ≠
      channelOf parseF32 parentDeviceId first :: channelOf parseF32 parentDeviceId second ::
        more.map (channelOf parseF32 parentDeviceId) := by
  intro same
  let identified : GmvDeviceChannel F → Bool := fun channel => channel.channelId != ""
  have counts := congrArg (List.countP identified) same
  have full : ∀ texts, Entry texts →
      identified (channelOf parseF32 parentDeviceId texts) = true := by
    intro texts entry
    exact bne_iff_ne.mpr (channelId_ne_empty parseF32 parentDeviceId entry.sound entry.named)
  have expected : (more.map (channelOf parseF32 parentDeviceId)).countP identified =
      more.length := by
    rw [List.countP_map, List.countP_eq_length]
    exact fun texts member => full texts (entries texts member)
  have bound := LandingCuts.countP_cut_le Text.depth Text.isId 4 last held
    (LandingCuts.pastName Text.isId second ++ (more.flatten ++ tail))
  have quiet : (LandingCuts.pastName Text.isId second).countP Text.isId = 0 :=
    List.countP_eq_zero.mpr (List.any_eq_false.mp secondEntry.past_unnamed)
  have tailQuiet : tail.countP Text.isId = 0 :=
    List.countP_eq_zero.mpr (List.any_eq_false.mp (any_isId_of_fieldless fieldless))
  have others := countP_flatten_le entries
  have counted : ∀ records : List (List Text),
      (records.map (channelOf parseF32 parentDeviceId)).countP identified ≤
        records.countP fun record => record.any Text.isId := by
    intro records
    rw [List.countP_map]
    refine List.countP_mono_left fun record _ filled => ?_
    by_contra unnamed
    exact bne_iff_ne.mp filled (channelId_eq_empty (Bool.eq_false_iff.mpr unnamed))
  have cuts := counted (LandingCuts.cut Text.depth Text.isId 4 last held
    (LandingCuts.pastName Text.isId second ++ (more.flatten ++ tail)))
  rw [counts, List.countP_cons, List.countP_cons, full first firstEntry, full second secondEntry,
    expected] at cuts
  rw [List.countP_append, List.countP_append, quiet, tailQuiet] at bound
  split at bound <;> simp only [if_true] at cuts <;> omega

theorem leftover_append {lead : List Text} (unnamed : lead.any Text.isId = false)
    (body : List Text) : leftover (lead ++ body) = leftover body := by
  rw [leftover, leftover, LandingCuts.pastName_append_unnamed unnamed]

theorem endDepth_append {lead : List Text} (unnamed : lead.any Text.isId = false)
    (body : List Text) : endDepth (lead ++ body) = endDepth body := by
  rw [endDepth, endDepth, LandingCuts.pastName_append_unnamed unnamed]

theorem clear_append_iff {extra lead body : List Text}
    (silent : ∀ text ∈ lead, Silent parseF32 text) :
    Clear parseF32 extra (lead ++ body) ↔ Clear parseF32 extra body := by
  constructor
  · intro clear text member other inBody
    exact clear text member other (List.mem_append_right _ inBody)
  · intro clear text member other inBoth same
    rcases List.mem_append.mp inBoth with inLead | inBody
    · exact silent other inLead
    · exact clear text member other inBody same

/-- The texts of an item that stay together behind its identifier. -/
def kept (texts : List Text) : List Text :=
  LandingCuts.throughName Text.isId texts ++
    LandingCuts.before Text.depth 4 4 (LandingCuts.pastName Text.isId texts)

theorem kept_append_leftover (texts : List Text) : kept texts ++ leftover texts = texts := by
  rw [kept, leftover, List.append_assoc, LandingCuts.before_append_after,
    LandingCuts.throughName_append_pastName]

variable (parseF32) in
/-- The texts around and in an item: some without a value that are left over from
before, the part of the item that went to the channel before, and the rest. -/
structure Position (junk lead body : List Text) : Prop where
  entry : Entry (lead ++ body)
  junkSilent : ∀ text ∈ junk, Silent parseF32 text
  junkUnnamed : junk.any Text.isId = false
  leadUnnamed : lead.any Text.isId = false

namespace Position

variable {junk lead body : List Text}

theorem bodyNamed (position : Position parseF32 junk lead body) : body.any Text.isId = true := by
  have named := position.entry.named
  rw [List.any_append, position.leadUnnamed, Bool.false_or] at named
  exact named

theorem pastUnnamed (position : Position parseF32 junk lead body) :
    (LandingCuts.pastName Text.isId body).any Text.isId = false := by
  have unnamed := position.entry.past_unnamed
  rwa [LandingCuts.pastName_append_unnamed position.leadUnnamed] at unnamed

theorem ground (position : Position parseF32 junk lead body) :
    ∀ text ∈ body, text.isId = true → text.depth = 4 := by
  intro text member isId
  exact (position.entry.sound text (List.mem_append_right _ member)).depth_of_isId isId

/-- An item without a place to cut behind its identifier joins the open record. -/
theorem cut_whole (position : Position parseF32 junk lead body) (whole : leftover body = [])
    (last : Nat) (rest : List Text) :
    LandingCuts.cut Text.depth Text.isId 4 last junk (body ++ rest) =
      LandingCuts.cut Text.depth Text.isId 4 (endDepth body) (junk ++ body) rest := by
  rw [LandingCuts.cut_throughName position.ground position.junkUnnamed position.bodyNamed,
    LandingCuts.cut_append_flat 4 whole, List.append_assoc,
    LandingCuts.throughName_append_pastName, endDepth]

/-- An item with such a place is cut there. -/
theorem cut_broken (position : Position parseF32 junk lead body) {text : Text}
    {moved : List Text} (broken : leftover body = text :: moved) (last : Nat)
    (rest : List Text) :
    LandingCuts.cut Text.depth Text.isId 4 last junk (body ++ rest) =
      (junk ++ kept body) ::
        LandingCuts.cut Text.depth Text.isId 4
          (LandingCuts.reached Text.depth text.depth moved) (leftover body) rest := by
  have named : (junk ++ LandingCuts.throughName Text.isId body).any Text.isId = true := by
    rw [List.any_append, LandingCuts.throughName_any position.bodyNamed, Bool.or_true]
  have unnamed := position.pastUnnamed
  have split : LandingCuts.after Text.depth 4 4 (LandingCuts.pastName Text.isId body) =
      text :: moved := broken
  rw [← LandingCuts.before_append_after Text.depth 4 4 (LandingCuts.pastName Text.isId body), List.any_append,
    Bool.or_eq_false_iff, split, List.any_cons, Bool.or_eq_false_iff] at unnamed
  have single : [text].any Text.isId = false := by
    rw [List.any_cons, unnamed.2.1]
    rfl
  rw [LandingCuts.cut_throughName position.ground position.junkUnnamed position.bodyNamed,
    LandingCuts.cut_append_landing named broken, List.append_assoc, ← kept,
    LandingCuts.cut_append_unnamed single unnamed.2.2, broken, List.singleton_append]

theorem leftoverUnnamed (position : Position parseF32 junk lead body) :
    (leftover body).any Text.isId = false := by
  have unnamed := position.pastUnnamed
  rw [← LandingCuts.before_append_after Text.depth 4 4 (LandingCuts.pastName Text.isId body), List.any_append,
    Bool.or_eq_false_iff] at unnamed
  exact unnamed.2

end Position

/-- A whole item gives its channel, with the texts of the next item that run into it. -/
theorem Position.channel_whole {junk lead body extra : List Text}
    (position : Position parseF32 junk lead body)
    (extraSilent : ∀ text ∈ extra, Silent parseF32 text) :
    channelOf parseF32 parentDeviceId (junk ++ body ++ extra) =
        channelOf parseF32 parentDeviceId (lead ++ body) ↔
      (∀ text ∈ lead, Silent parseF32 text) ∧ Clear parseF32 extra (lead ++ body) := by
  have once := position.entry.once
  rw [← List.append_nil body] at once
  have shifted := channelOf_shifted_iff parentDeviceId position.junkSilent extraSilent once
  rw [List.append_nil] at shifted
  rw [shifted]
  constructor
  · rintro ⟨leadSilent, _, clear⟩
    exact ⟨leadSilent, (clear_append_iff leadSilent).mpr clear⟩
  · rintro ⟨leadSilent, clear⟩
    exact ⟨leadSilent, fun text member => absurd member List.not_mem_nil,
      (clear_append_iff leadSilent).mp clear⟩

/-- An item that is cut gives its channel when what it loses has no value. -/
theorem Position.channel_broken {junk lead body : List Text}
    (position : Position parseF32 junk lead body) :
    channelOf parseF32 parentDeviceId (junk ++ kept body) =
        channelOf parseF32 parentDeviceId (lead ++ body) ↔
      (∀ text ∈ lead, Silent parseF32 text) ∧ ∀ text ∈ leftover body, Silent parseF32 text := by
  have once := position.entry.once
  rw [← kept_append_leftover body] at once
  have noExtra : ∀ text ∈ ([] : List Text), Silent parseF32 text :=
    fun text member => absurd member List.not_mem_nil
  have shifted := channelOf_shifted_iff parentDeviceId position.junkSilent noExtra once
  rw [List.append_nil, kept_append_leftover] at shifted
  rw [shifted]
  refine and_congr_right fun _ => ?_
  refine ⟨fun parts => parts.1, fun silent => ⟨silent, fun text member => ?_⟩⟩
  exact absurd member List.not_mem_nil

section Landing

variable {last : Nat} {second moved : List Text} {text : Text}

theorem overlap_append_opening (opened : opening last second = text :: moved) :
    overlap last second ++ text :: moved = LandingCuts.throughName Text.isId second := by
  rw [← opened]
  exact LandingCuts.before_append_after Text.depth 4 _ _

/-- An item that lands is what belongs to the item before it and what it opens with. -/
theorem overlap_append_whole (opened : opening last second = text :: moved) :
    overlap last second ++ (text :: (moved ++ LandingCuts.pastName Text.isId second)) = second := by
  rw [← List.cons_append, ← List.append_assoc, overlap_append_opening opened,
    LandingCuts.throughName_append_pastName]

/-- The next row starts where the item lands. -/
theorem position_of_opening (entry : Entry second) (opened : opening last second = text :: moved) :
    Position parseF32 [] (overlap last second)
      (text :: (moved ++ LandingCuts.pastName Text.isId second)) := by
  refine ⟨?_, fun text member => absurd member List.not_mem_nil, rfl,
    LandingCuts.throughName_front (overlap_append_opening opened).symm⟩
  rw [overlap_append_whole opened]
  exact entry

theorem cut_opening {held : List Text} (named : held.any Text.isId = true)
    (opened : opening last second = text :: moved) (rest : List Text) :
    LandingCuts.cut Text.depth Text.isId 4 last held (second ++ rest) =
      (held ++ overlap last second) ::
        LandingCuts.cut Text.depth Text.isId 4 text.depth [text]
          (moved ++ (LandingCuts.pastName Text.isId second ++ rest)) := by
  have landing := LandingCuts.cut_append_landing named opened
    (LandingCuts.pastName Text.isId second ++ rest)
  rwa [← List.append_assoc, LandingCuts.throughName_append_pastName] at landing

end Landing

variable (parentDeviceId) in
/-- The channels of a position and the items behind it are right exactly when
nothing of value was lost before and the items come apart. -/
theorem cut_eq_iff {tail : List Text} (aloft : ∀ text ∈ tail, text.depth ≠ 4)
    (fieldless : ∀ text ∈ tail, text.field = none) {more : List (List Text)}
    (entries : ∀ texts ∈ more, Entry texts) {junk lead body : List Text}
    (position : Position parseF32 junk lead body) (last : Nat) :
    (LandingCuts.cut Text.depth Text.isId 4 last junk (body ++ (more.flatten ++ tail))).map
          (channelOf parseF32 parentDeviceId) =
        channelOf parseF32 parentDeviceId (lead ++ body) ::
          more.map (channelOf parseF32 parentDeviceId) ↔
      (∀ text ∈ lead, Silent parseF32 text) ∧ Separated parseF32 (lead ++ body) more := by
  induction more generalizing junk lead body last with
  | nil =>
      have tailSilent : ∀ text ∈ tail, Silent parseF32 text :=
        fun text member => silent_of_fieldless (fieldless text member)
      rw [Separated, leftover_append position.leadUnnamed, List.flatten_nil, List.nil_append]
      cases left : leftover body with
      | nil =>
          rw [position.cut_whole left, LandingCuts.cut_aloft aloft, List.map_cons, List.map_nil,
            List.cons.injEq, position.channel_whole tailSilent]
          refine ⟨fun right => ⟨right.1.1, rfl⟩, fun right => ⟨⟨right.1, ?_⟩, rfl⟩⟩
          intro text member other _ same
          exact silent_of_fieldless (same.symm.trans (fieldless text member))
      | cons text moved =>
          rw [position.cut_broken left, List.map_cons, List.cons.injEq]
          refine ⟨fun wrong => ?_, fun wrong => absurd wrong.2 (List.cons_ne_nil _ _)⟩
          exact absurd (List.map_eq_nil_iff.mp wrong.2) (LandingCuts.cut_ne_nil _ _ _)
  | cons second rest hypothesis =>
      have secondEntry := entries second List.mem_cons_self
      have restEntries : ∀ texts ∈ rest, Entry texts :=
        fun texts member => entries texts (List.mem_cons_of_mem _ member)
      rw [Separated, Follows, leftover_append position.leadUnnamed,
        endDepth_append position.leadUnnamed, List.flatten_cons, List.append_assoc, List.map_cons]
      cases left : leftover body with
      | cons text moved =>
          rw [if_neg (List.cons_ne_nil _ _), position.cut_broken left, List.map_cons,
            List.cons.injEq, position.channel_broken, left, and_assoc]
          refine and_congr_right fun _ => ?_
          refine and_congr_right fun movedSilent => ?_
          have unnamed := position.leftoverUnnamed
          rw [left] at unnamed
          have next : Position parseF32 (text :: moved) [] second :=
            ⟨secondEntry, movedSilent, unnamed, rfl⟩
          have later := hypothesis restEntries next
            (LandingCuts.reached Text.depth text.depth moved)
          rw [List.nil_append] at later
          rw [later]
          exact and_iff_right fun text member => absurd member List.not_mem_nil
      | nil =>
          rw [if_pos rfl, position.cut_whole left]
          cases opened : opening (endDepth body) second with
          | nil =>
              have split := LandingCuts.throughName_append_pastName Text.isId second
              refine ⟨fun wrong => ?_, fun wrong => absurd rfl wrong.2.1.1⟩
              rw [← split, List.append_assoc, LandingCuts.cut_append_flat _ opened, split] at wrong
              exact absurd wrong
                (merged_ne restEntries position.entry secondEntry fieldless _)
          | cons text moved =>
              have named : (junk ++ body).any Text.isId = true := by
                rw [List.any_append, position.bodyNamed, Bool.or_true]
              have later := hypothesis restEntries (position_of_opening secondEntry opened) 0
              rw [overlap_append_whole opened, List.cons_append, LandingCuts.cut_cons_unnamed rfl,
                List.nil_append, List.append_assoc] at later
              rw [cut_opening named opened, List.map_cons, List.cons.injEq, later]
              constructor
              · rintro ⟨same, silent, separated⟩
                obtain ⟨leadSilent, clear⟩ := (position.channel_whole silent).mp same
                exact ⟨leadSilent, ⟨List.cons_ne_nil _ _, silent, clear⟩, separated⟩
              · rintro ⟨leadSilent, ⟨_, silent, clear⟩, separated⟩
                exact ⟨(position.channel_whole silent).mpr ⟨leadSilent, clear⟩, silent, separated⟩

/-! ## The round trip -/

variable (parseF32 parentDeviceId) in
/-- A channel of the parent device with exactly the values of an item. -/
structure Holds (item : Item) (channel : GmvDeviceChannel F) : Prop where
  device : channel.deviceId = parentDeviceId
  present : ∀ text ∈ item.texts, ∀ field, text.field = some field →
    channel.read field = field.parsed parseF32 text.value
  missing : ∀ field, (∀ text ∈ item.texts, text.field ≠ some field) → channel.read field = .absent

theorem holds_iff {item : Item} {channel : GmvDeviceChannel F} :
    Holds parseF32 parentDeviceId item channel ↔
      channelOf parseF32 parentDeviceId item.texts = channel := by
  have brought : ∀ text ∈ item.texts, ∀ field, text.field = some field →
      reading parseF32 field item.texts = field.parsed parseF32 text.value := by
    intro text member field found
    have last : latest field item.texts = some text := Once.latest_eq item.once member found
    rw [reading_of_latest last, Text.carries, found]
  constructor
  · intro holds
    refine ext_read ((channelOf_deviceId _).trans holds.device.symm) fun field => ?_
    rw [read_channelOf]
    cases found : latest field item.texts with
    | none => rw [reading_of_none found, holds.missing field (latest_eq_none.mp found)]
    | some text =>
        obtain ⟨member, same⟩ := mem_of_latest found
        rw [brought text member field same, holds.present text member field same]
  · rintro rfl
    refine ⟨channelOf_deviceId _, fun text member field found => ?_, fun field none => ?_⟩
    · rw [read_channelOf, brought text member field found]
    · rw [read_channelOf, reading_of_none (latest_eq_none.mpr none)]

theorem forall₂_holds_iff {items : List Item} {channels : List (GmvDeviceChannel F)} :
    List.Forall₂ (Holds parseF32 parentDeviceId) items channels ↔
      channels = (items.map Item.texts).map (channelOf parseF32 parentDeviceId) := by
  have pointwise : Holds parseF32 parentDeviceId = fun item channel =>
      channelOf parseF32 parentDeviceId item.texts = channel := by
    funext item channel
    exact propext holds_iff
  rw [pointwise, List.map_map, eq_comm, ← List.forall₂_eq_eq_eq, List.forall₂_map_left_iff]
  rfl

variable (parseF32) in
/-- There is an item, neighbouring items come apart and the last one stays whole. -/
def Response.ComesApart (response : Response) : Prop :=
  match response.items.map Item.texts with
  | [] => False
  | first :: rest => Separated parseF32 first rest

/-- The channels built from a response are those of the stretches between the cuts. -/
theorem build_parseItems (response : Response) :
    build parseF32 parentDeviceId (parseItems response.events) =
      (LandingCuts.cut Text.depth Text.isId 4 0 [] response.texts).map
        (channelOf parseF32 parentDeviceId) := by
  rw [parseItems_of_yields response.yields, build]
  exact build_marked response.sound 0 [] fun text member => absurd member List.not_mem_nil

/-- The round trip gives back the items of a response, one channel each and in
order, exactly when the response comes apart. -/
theorem build_parseItems_holds_iff (parseF32 : String → Option F) (parentDeviceId : String)
    (response : Response) :
    List.Forall₂ (Holds parseF32 parentDeviceId) response.items
        (build parseF32 parentDeviceId (parseItems response.events)) ↔
      response.ComesApart parseF32 := by
  rw [forall₂_holds_iff, build_parseItems, Response.ComesApart]
  have entries : ∀ texts ∈ response.items.map Item.texts, Entry texts := by
    intro texts member
    obtain ⟨item, _, rfl⟩ := List.mem_map.mp member
    exact item.entry
  have shape : response.texts = response.head.flatMap (Leaf.texts ["Response"]) ++
      ((response.items.map Item.texts).flatten ++
        response.tail.flatMap (Leaf.texts ["Response"])) := by
    rw [Response.texts, List.append_assoc, ← List.flatMap_def]
  have headFieldless : ∀ text ∈ response.head.flatMap (Leaf.texts ["Response"]),
      text.field = none := fun text member => (outer_texts member).2.2
  have headUnnamed := any_isId_of_fieldless headFieldless
  rw [shape, LandingCuts.cut_append_unnamed rfl headUnnamed, List.nil_append]
  cases items : response.items.map Item.texts with
  | nil =>
      rw [List.map_nil, List.map_eq_nil_iff]
      exact iff_false_intro (LandingCuts.cut_ne_nil _ _ _)
  | cons first rest =>
      rw [items] at entries
      have position : Position parseF32 (response.head.flatMap (Leaf.texts ["Response"])) []
          first :=
        ⟨entries first List.mem_cons_self,
          fun text member => silent_of_fieldless (headFieldless text member), headUnnamed, rfl⟩
      have aloft : ∀ text ∈ response.tail.flatMap (Leaf.texts ["Response"]), text.depth ≠ 4 := by
        intro text member
        rw [(outer_texts member).2.1]
        decide
      have fieldless : ∀ text ∈ response.tail.flatMap (Leaf.texts ["Response"]),
          text.field = none := fun text member => (outer_texts member).2.2
      have separated := cut_eq_iff parentDeviceId aloft fieldless
        (fun texts member => entries texts (List.mem_cons_of_mem _ member)) position
        (LandingCuts.reached Text.depth 0 (response.head.flatMap (Leaf.texts ["Response"])))
      rw [List.nil_append] at separated
      rw [List.flatten_cons, List.append_assoc, List.map_cons, separated]
      exact and_iff_right fun text member => absurd member List.not_mem_nil

/-- Two cameras with an identifier and a name each. -/
def twoCameras : Response where
  head := [⟨⟨"CmdType", by decide⟩, "Catalog"⟩]
  items :=
    [⟨[.field ⟨⟨"DeviceID", by decide⟩, "34020000001320000001"⟩,
        .field ⟨⟨"Name", by decide⟩, "one"⟩],
        by decide +kernel, by unfold Once; decide +kernel⟩,
      ⟨[.field ⟨⟨"DeviceID", by decide⟩, "34020000001320000002"⟩,
        .field ⟨⟨"Name", by decide⟩, "two"⟩],
        by decide +kernel, by unfold Once; decide +kernel⟩]
  tail := []

/-- Items that hold nothing but leaves run together: the second camera takes the
place of the first. -/
theorem twoCameras_not_restored :
    ¬ List.Forall₂ (Holds (fun _ => (none : Option Nat)) "34020000001110000001") twoCameras.items
      (build (fun _ => none) "34020000001110000001" (parseItems twoCameras.events)) := by
  intro restored
  exact absurd restored.length_eq (by decide +kernel)

end Gmv.Session.Catalog
