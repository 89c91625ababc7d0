import Gmv.Session.Catalog

/-!
# The channels of a stretch of texts

`build` turns the texts between two cuts into one channel.  The module reads a
channel field by field, says when two stretches give the same channel, and shows
that `build` cuts at the landings of the flattened document.
-/

namespace Gmv.Session.Catalog

open Gmv.Library Gmv.Session.Xml Gmv.Session.DeviceChannel

variable {F : Type} (parseF32 : String → Option F) (parentDeviceId : String)

/-- The channel of a stretch of texts. -/
def apply (channel : GmvDeviceChannel F) (text : Text) : GmvDeviceChannel F :=
  match text.field with
  | some field => assign parseF32 channel text.value field
  | none => channel

def channelOf (texts : List Text) : GmvDeviceChannel F :=
  texts.foldl (apply parseF32) (blank parentDeviceId)

/-- The last text of a field. -/
def latest (field : ChannelField) : List Text → Option Text
  | [] => none
  | text :: rest => (latest field rest).or (if text.field = some field then some text else none)

/-- A text that brings no value. -/
def Silent (text : Text) : Prop := text.carries parseF32 = .absent

variable {parseF32 parentDeviceId}

/-! ## Reading a channel -/

theorem latest_append (field : ChannelField) (first second : List Text) :
    latest field (first ++ second) = (latest field second).or (latest field first) := by
  induction first with
  | nil => rw [List.nil_append, latest, Option.or_none]
  | cons text rest hypothesis =>
      rw [List.cons_append, latest, latest, hypothesis, Option.or_assoc]

theorem latest_eq_none {field : ChannelField} {texts : List Text} :
    latest field texts = none ↔ ∀ text ∈ texts, text.field ≠ some field := by
  induction texts with
  | nil => simp [latest]
  | cons text rest hypothesis =>
      rw [latest, Option.or_eq_none_iff, hypothesis, List.forall_mem_cons, and_comm]
      refine and_congr_left fun _ => ?_
      split <;> simp_all

theorem mem_of_latest {field : ChannelField} {texts : List Text} {text : Text}
    (found : latest field texts = some text) : text ∈ texts ∧ text.field = some field := by
  induction texts with
  | nil => cases found
  | cons first rest hypothesis =>
      rw [latest] at found
      rcases Option.or_eq_some_iff.mp found with inRest | ⟨_, isFirst⟩
      · obtain ⟨member, same⟩ := hypothesis inRest
        exact ⟨List.mem_cons_of_mem _ member, same⟩
      · split at isFirst
        · cases isFirst
          exact ⟨List.mem_cons_self, ‹_›⟩
        · cases isFirst

/-- A field that is set once has that text as its last one. -/
theorem Once.latest_eq {texts : List Text} (once : Once texts) {text : Text}
    (member : text ∈ texts) {field : ChannelField} (same : text.field = some field) :
    latest field texts = some text := by
  induction texts with
  | nil => cases member
  | cons first rest hypothesis =>
      obtain ⟨alone, onceRest⟩ := List.pairwise_cons.mp once
      rw [latest]
      rcases List.mem_cons.mp member with isFirst | inRest
      · subst isFirst
        have absent : latest field rest = none := by
          rw [latest_eq_none]
          intro other otherMember otherField
          rcases alone other otherMember with none | differs
          · rw [same] at none
            cases none
          · exact differs (same.trans otherField.symm)
        rw [absent, if_pos same, Option.none_or]
      · rw [hypothesis onceRest inRest, Option.some_or]

theorem read_foldl (field : ChannelField) (texts : List Text) (channel : GmvDeviceChannel F) :
    (texts.foldl (apply parseF32) channel).read field =
      ((latest field texts).map (Text.carries parseF32)).getD (channel.read field) := by
  induction texts generalizing channel with
  | nil => rfl
  | cons text rest hypothesis =>
      rw [List.foldl_cons, hypothesis, latest]
      cases latest field rest with
      | some later => rfl
      | none =>
          rw [Option.none_or, Option.map_none, Option.getD_none]
          cases found : text.field with
          | none =>
              rw [apply, found, if_neg (Option.some_ne_none field).symm]
              rfl
          | some other =>
              rw [apply, found]
              by_cases same : other = field
              · subst same
                rw [if_pos rfl, read_assign_same, Option.map_some, Text.carries, found]
                rfl
              · rw [if_neg fun equal => same (Option.some.inj equal),
                  read_assign_other _ _ (Ne.symm same)]
                rfl

variable (parseF32) in
/-- The value that a stretch of texts gives a field. -/
def reading (field : ChannelField) (texts : List Text) : Reading F :=
  ((latest field texts).map (Text.carries parseF32)).getD .absent

theorem read_channelOf (field : ChannelField) (texts : List Text) :
    (channelOf parseF32 parentDeviceId texts).read field = reading parseF32 field texts := by
  rw [channelOf, read_foldl, read_blank, reading]

@[simp]
theorem channelOf_deviceId (texts : List Text) :
    (channelOf parseF32 parentDeviceId texts).deviceId = parentDeviceId := by
  have kept : ∀ channel : GmvDeviceChannel F,
      (texts.foldl (apply parseF32) channel).deviceId = channel.deviceId := by
    induction texts with
    | nil => exact fun _ => rfl
    | cons text rest hypothesis =>
        intro channel
        rw [List.foldl_cons, hypothesis, apply]
        split
        · rw [assign_deviceId]
        · rfl
  exact kept _

theorem channelOf_append (first second : List Text) :
    channelOf parseF32 parentDeviceId (first ++ second) =
      second.foldl (apply parseF32) (channelOf parseF32 parentDeviceId first) := by
  rw [channelOf, List.foldl_append, channelOf]

/-- Two stretches give one channel when every field reads the same. -/
theorem channelOf_eq_iff {first second : List Text} :
    channelOf parseF32 parentDeviceId first = channelOf parseF32 parentDeviceId second ↔
      ∀ field, reading parseF32 field first = reading parseF32 field second := by
  constructor
  · intro same field
    have reads := congrArg (fun channel => channel.read field) same
    rwa [read_channelOf, read_channelOf] at reads
  · intro fields
    refine ext_read (by rw [channelOf_deviceId, channelOf_deviceId]) fun field => ?_
    rw [read_channelOf, read_channelOf, fields field]

theorem reading_of_latest {field : ChannelField} {texts : List Text} {text : Text}
    (found : latest field texts = some text) :
    reading parseF32 field texts = text.carries parseF32 := by
  rw [reading, found]
  rfl

theorem reading_of_none {field : ChannelField} {texts : List Text}
    (missing : latest field texts = none) : reading parseF32 field texts = .absent := by
  rw [reading, missing]
  rfl

theorem reading_append_none {field : ChannelField} {second : List Text}
    (missing : latest field second = none) (first : List Text) :
    reading parseF32 field (first ++ second) = reading parseF32 field first := by
  rw [reading, latest_append, missing, Option.none_or, reading]

theorem reading_append_some {field : ChannelField} {second : List Text} {text : Text}
    (found : latest field second = some text) (first : List Text) :
    reading parseF32 field (first ++ second) = text.carries parseF32 := by
  rw [reading, latest_append, found]
  rfl

/-- Texts without a value leave a field empty that is empty without them. -/
theorem reading_silent_append {field : ChannelField} {first second : List Text}
    (silent : ∀ text ∈ second, Silent parseF32 text)
    (empty : reading parseF32 field first = .absent) :
    reading parseF32 field (first ++ second) = .absent := by
  cases found : latest field second with
  | none => rw [reading_append_none found, empty]
  | some text =>
      rw [reading_append_some found]
      exact silent text (mem_of_latest found).1

theorem reading_silent {field : ChannelField} {texts : List Text}
    (silent : ∀ text ∈ texts, Silent parseF32 text) : reading parseF32 field texts = .absent := by
  cases found : latest field texts with
  | none => exact reading_of_none found
  | some text =>
      rw [reading_of_latest found]
      exact silent text (mem_of_latest found).1

theorem silent_of_fieldless {text : Text} (fieldless : text.field = none) :
    Silent parseF32 text := by
  rw [Silent, Text.carries, fieldless]

/-- Beside a text of a field no other part of the item has one. -/
theorem latest_none_of_disjoint {first second : List Text} (once : Once (first ++ second)) :
    (∀ text ∈ first, ∀ field, text.field = some field → latest field second = none) ∧
      (∀ text ∈ second, ∀ field, text.field = some field → latest field first = none) := by
  obtain ⟨_, _, apart⟩ := List.pairwise_append.mp once
  constructor
  · intro text member field same
    rw [latest_eq_none]
    intro other otherMember otherField
    rcases apart text member other otherMember with none | differs
    · rw [same] at none
      cases none
    · exact differs (same.trans otherField.symm)
  · intro text member field same
    rw [latest_eq_none]
    intro other otherMember otherField
    rcases apart other otherMember text member with none | differs
    · rw [otherField] at none
      cases none
    · exact differs (otherField.trans same.symm)

variable (parseF32) in
/-- No text of the first stretch belongs to a field that has a value in the second. -/
def Clear (extra kept : List Text) : Prop :=
  ∀ text ∈ extra, ∀ other ∈ kept, text.field = other.field → Silent parseF32 other

variable (parentDeviceId) in
/-- What a stretch loses and gains at its ends without changing its channel:
only texts without a value, and none that empties a field. -/
theorem channelOf_shifted_iff {junk lead kept moved extra : List Text}
    (junkSilent : ∀ text ∈ junk, Silent parseF32 text)
    (extraSilent : ∀ text ∈ extra, Silent parseF32 text) (once : Once (lead ++ (kept ++ moved))) :
    channelOf parseF32 parentDeviceId (junk ++ kept ++ extra) =
        channelOf parseF32 parentDeviceId (lead ++ (kept ++ moved)) ↔
      (∀ text ∈ lead, Silent parseF32 text) ∧ (∀ text ∈ moved, Silent parseF32 text) ∧
        Clear parseF32 extra kept := by
  obtain ⟨fromLead, _⟩ := latest_none_of_disjoint once
  obtain ⟨onceLead, onceBody, _⟩ := List.pairwise_append.mp once
  obtain ⟨fromKept, fromMoved⟩ := latest_none_of_disjoint (show Once (kept ++ moved) from onceBody)
  obtain ⟨onceKept, onceMoved, _⟩ := List.pairwise_append.mp onceBody
  -- Without a text in the middle the shifted stretch has no value.
  have empty : ∀ field, latest field kept = none →
      reading parseF32 field (junk ++ kept ++ extra) = .absent := by
    intro field missing
    refine reading_silent_append extraSilent ?_
    rw [reading_append_none missing, reading_silent junkSilent]
  rw [channelOf_eq_iff]
  constructor
  · intro same
    refine ⟨?_, ?_, ?_⟩
    · intro text member
      cases found : text.field with
      | none => exact silent_of_fieldless found
      | some field =>
          have missing := fromLead text member field found
          rw [latest_append, Option.or_eq_none_iff] at missing
          have reads := same field
          rw [empty field missing.2, reading_append_none (fromLead text member field found),
            reading_of_latest (Once.latest_eq onceLead member found)] at reads
          exact reads.symm
    · intro text member
      cases found : text.field with
      | none => exact silent_of_fieldless found
      | some field =>
          have reads := same field
          rw [empty field (fromMoved text member field found), ← List.append_assoc,
            reading_append_some (Once.latest_eq onceMoved member found)] at reads
          exact reads.symm
    · intro text member other otherMember sameField
      cases found : other.field with
      | none => exact silent_of_fieldless found
      | some field =>
          have reads := same field
          rw [← List.append_assoc, reading_append_none (fromKept other otherMember field found),
            reading_append_some (Once.latest_eq onceKept otherMember found)] at reads
          cases last : latest field extra with
          | none =>
              exact absurd (sameField.trans found) (latest_eq_none.mp last text member)
          | some ending =>
              rw [reading_append_some last,
                extraSilent ending (mem_of_latest last).1] at reads
              exact reads.symm
  · rintro ⟨leadSilent, movedSilent, clear⟩ field
    cases found : latest field kept with
    | none =>
        rw [empty field found, ← List.append_assoc]
        refine (reading_silent_append movedSilent ?_).symm
        rw [reading_append_none found, reading_silent leadSilent]
    | some text =>
        obtain ⟨member, sameField⟩ := mem_of_latest found
        rw [← List.append_assoc, reading_append_none (fromKept text member field sameField),
          reading_append_some found]
        cases last : latest field extra with
        | none => rw [reading_append_none last, reading_append_some found]
        | some ending =>
            obtain ⟨endingMember, endingField⟩ := mem_of_latest last
            rw [reading_append_some last, extraSilent ending endingMember]
            exact (clear ending endingMember text member (endingField.trans sameField.symm)).symm

/-! ## From pairs to cuts -/

/-- A channel has an identifier when a text gave it one. -/
theorem channelId_eq_empty {texts : List Text} (unnamed : texts.any Text.isId = false) :
    (channelOf parseF32 parentDeviceId texts).channelId = "" := by
  have missing : latest .deviceId texts = none := by
    rw [latest_eq_none]
    intro text member same
    have named := List.any_eq_false.mp unnamed text member
    exact named (beq_iff_eq.mpr same)
  have reads : (channelOf parseF32 parentDeviceId texts).read .deviceId = _ :=
    read_channelOf .deviceId texts
  rw [reading_of_none missing] at reads
  exact Reading.ofString_injective (reads.trans rfl)

variable (parseF32 parentDeviceId) in
theorem channelId_ne_empty {texts : List Text} (sound : ∀ text ∈ texts, Sound text)
    (named : texts.any Text.isId = true) :
    (channelOf parseF32 parentDeviceId texts).channelId ≠ "" := by
  intro empty
  have reads : (channelOf parseF32 parentDeviceId texts).read .deviceId = _ :=
    read_channelOf .deviceId texts
  cases found : latest .deviceId texts with
  | none =>
      obtain ⟨text, member, isId⟩ := List.any_eq_true.mp named
      exact latest_eq_none.mp found text member (beq_iff_eq.mp isId)
  | some text =>
      obtain ⟨member, same⟩ := mem_of_latest found
      rw [reading_of_latest found, Text.carries, same] at reads
      have value : (channelOf parseF32 parentDeviceId texts).channelId = text.value :=
        Reading.ofString_injective reads
      exact (sound text member).filled (value.symm.trans empty)

theorem step_text (rows : Rows F) {text : Text} (sound : Sound text) :
    Rows.step parseF32 parentDeviceId rows (joined text.path, text.value) =
      { rows with dc := apply parseF32 rows.dc text } := by
  rw [Rows.step, apply]
  change (match text.field with | some field => _ | none => _) = _
  cases text.field with
  | some field => rfl
  | none =>
      change (if _ ∧ _ then _ else _) = _
      rw [if_neg fun marker => sound.joined_ne marker.1]

theorem ofKey_splitClass : ChannelField.ofKey splitClass = none := by
  decide

theorem step_marker (rows : Rows F) (depth : Nat) :
    Rows.step parseF32 parentDeviceId rows (splitClass, toString depth) =
      if depth = 4 ∧ rows.dc.channelId ≠ "" then ⟨rows.dcs ++ [rows.dc], blank parentDeviceId⟩
      else rows := by
  have shown : toString depth = "4" ↔ depth = 4 := by
    constructor
    · intro same
      have digits := congrArg String.toList same
      rw [Nat.toString_eq_repr, Nat.toList_repr] at digits
      have value := congrArg (Nat.ofDigitChars 10 · 0) digits
      rw [Nat.ofDigitChars_ten_toDigits] at value
      exact value
    · rintro rfl
      rfl
  rw [Rows.step, ofKey_splitClass]
  simp only [true_and, shown]

/-- `build` makes one channel of each stretch between two cuts. -/
theorem build_marked {texts : List Text} (sound : ∀ text ∈ texts, Sound text) (last : Nat)
    (dcs : List (GmvDeviceChannel F)) {held : List Text} (heldSound : ∀ text ∈ held, Sound text) :
    let rows := (marked last texts).foldl (Rows.step parseF32 parentDeviceId)
      ⟨dcs, channelOf parseF32 parentDeviceId held⟩
    rows.dcs ++ [rows.dc] = dcs ++
      (LandingCuts.cut Text.depth Text.isId 4 last held texts).map
        (channelOf parseF32 parentDeviceId) := by
  induction texts generalizing last dcs held with
  | nil => rfl
  | cons text rest hypothesis =>
      have textSound := sound text List.mem_cons_self
      have restSound : ∀ other ∈ rest, Sound other :=
        fun other member => sound other (List.mem_cons_of_mem _ member)
      have extendedSound : ∀ other ∈ held ++ [text], Sound other := by
        intro other member
        rcases List.mem_append.mp member with inHeld | isText
        · exact heldSound other inHeld
        · rw [List.mem_singleton.mp isText]
          exact textSound
      have extended : apply parseF32 (channelOf parseF32 parentDeviceId held) text =
          channelOf parseF32 parentDeviceId (held ++ [text]) := by
        rw [channelOf_append]
        rfl
      rw [marked, List.foldl_append, List.foldl_cons, LandingCuts.cut]
      by_cases closes : (LandingCuts.lands Text.depth 4 last text && held.any Text.isId) = true
      · rw [if_pos closes]
        rw [Bool.and_eq_true, LandingCuts.lands, Bool.and_eq_true, beq_iff_eq, bne_iff_ne]
          at closes
        obtain ⟨⟨onFloor, fromElsewhere⟩, named⟩ := closes
        have identified := channelId_ne_empty parseF32 parentDeviceId heldSound named
        rw [if_neg fun same => fromElsewhere (same.trans onFloor), List.foldl_cons, List.foldl_nil,
          step_marker, if_pos ⟨onFloor, identified⟩, step_text _ textSound, List.map_cons]
        have single : ∀ other ∈ [text], Sound other := by
          intro other member
          rw [List.mem_singleton.mp member]
          exact textSound
        have ended := hypothesis restSound text.depth
          (dcs ++ [channelOf parseF32 parentDeviceId held]) single
        rw [List.append_assoc, List.singleton_append] at ended
        exact ended
      · rw [if_neg closes]
        have unmoved : (if last = text.depth then [] else [(splitClass, toString text.depth)]).foldl
            (Rows.step parseF32 parentDeviceId) ⟨dcs, channelOf parseF32 parentDeviceId held⟩ =
            ⟨dcs, channelOf parseF32 parentDeviceId held⟩ := by
          split
          · rfl
          · rename_i differs
            rw [List.foldl_cons, List.foldl_nil, step_marker, if_neg]
            rintro ⟨onFloor, identified⟩
            have named : held.any Text.isId = true := by
              by_contra unnamed
              exact identified (channelId_eq_empty (Bool.eq_false_iff.mpr unnamed))
            refine closes ?_
            rw [Bool.and_eq_true, LandingCuts.lands, Bool.and_eq_true, beq_iff_eq, bne_iff_ne]
            exact ⟨⟨onFloor, fun same => differs (same.trans onFloor.symm)⟩, named⟩
        rw [unmoved, step_text _ textSound, extended]
        exact hypothesis restSound text.depth dcs extendedSound

end Gmv.Session.Catalog
