import Gmv.Session.XmlDocuments

/-!
# Moving a camera

A movement is sent to a device as eight bytes in hexadecimal, inside a document: a head, the directions in the bits
of one byte, the speeds, and the sum of the others.  What is out of range is refused.
-/

namespace Gmv.Session.PtzCommand

open Gmv.Library.Markup Gmv.Session.XmlDocuments
open Gmv.Session.Xml hiding Text

inductive BaseErrorCode where
  | invalidRequest
  deriving DecidableEq, Repr

inductive GlobalError where
  | biz (code : BaseErrorCode) (msg : String)
  deriving DecidableEq, Repr

structure PtzControlModel where
  deviceId : String
  channelId : String
  leftRight : UInt8
  upDown : UInt8
  inOut : UInt8
  horizonSpeed : UInt8
  verticalSpeed : UInt8
  zoomSpeed : UInt8
  deriving DecidableEq, Repr

def hexDigit (digit : Nat) : Char := if digit < 10 then Char.ofNat (48 + digit) else Char.ofNat (55 + digit)

/-- `{value:02X}`. -/
def hexByte (value : UInt8) : Text := [hexDigit (value.toNat / 16), hexDigit (value.toNat % 16)]

/-- One arm of a direction: a bit for 1, another one for 2. -/
def directionBits (direction first second : UInt8) : UInt8 :=
  if direction = 1 then first else if direction = 2 then second else 0

def checksum (bytes : List UInt8) : UInt8 := ((bytes.map UInt8.toUInt16).sum % 256).toUInt8

def buildPtzCommand (model : PtzControlModel) : Except GlobalError Text :=
  if 2 < model.leftRight || 2 < model.upDown || 2 < model.inOut || 15 < model.zoomSpeed then
    .error (.biz .invalidRequest "invalid PTZ control parameter")
  else
    let directions :=
      0 ||| directionBits model.leftRight 0x02 0x01 ||| directionBits model.upDown 0x08 0x04 |||
        directionBits model.inOut 0x20 0x10
    let bytes := [0xA5, 0x0F, 0x01, directions, model.horizonSpeed, model.verticalSpeed, model.zoomSpeed <<< 4]
    .ok ((bytes ++ [checksum (bytes ++ [0])]).flatMap hexByte)

/-- The document of `control_ptz`. -/
def controlPtz (sn : UInt32) (model : PtzControlModel) : Except GlobalError Text :=
  (buildPtzCommand model).map fun command => buildPtzControl sn model.channelId (String.ofList command)

def value (items : List (String × String)) (key : String) : Option String :=
  items.findSome? fun item => if item.1 = key then some item.2 else none

/-! ## What a device reads -/

/-- A movement: the directions and the speeds. -/
structure Movement where
  leftRight : UInt8
  upDown : UInt8
  inOut : UInt8
  horizonSpeed : UInt8
  verticalSpeed : UInt8
  zoomSpeed : UInt8
  deriving DecidableEq, Repr

def PtzControlModel.movement (model : PtzControlModel) : Movement :=
  ⟨model.leftRight, model.upDown, model.inOut, model.horizonSpeed, model.verticalSpeed, model.zoomSpeed⟩

def readDigit (char : Char) : Option Nat :=
  if 48 ≤ char.toNat ∧ char.toNat ≤ 57 then some (char.toNat - 48)
  else if 65 ≤ char.toNat ∧ char.toNat ≤ 70 then some (char.toNat - 55)
  else none

def readBytes : Text → Option (List UInt8)
  | [] => some []
  | [_] => none
  | high :: low :: rest =>
      (readDigit high).bind fun high => (readDigit low).bind fun low =>
        (readBytes rest).map (UInt8.ofNat (16 * high + low) :: ·)

def readDirection (bits first second : UInt8) : UInt8 :=
  if bits &&& first ≠ 0 then 1 else if bits &&& second ≠ 0 then 2 else 0

/-- The movement that a command stands for: its head and its checksum are right. -/
def readCommand (command : Text) : Option Movement :=
  match readBytes command with
  | some [0xA5, 0x0F, 0x01, directions, horizon, vertical, zoom, check] =>
      if check = checksum [0xA5, 0x0F, 0x01, directions, horizon, vertical, zoom] then
        some ⟨readDirection directions 0x02 0x01, readDirection directions 0x08 0x04,
          readDirection directions 0x20 0x10, horizon, vertical, zoom >>> 4⟩
      else none
  | _ => none

/-- What may be asked for. -/
def PtzControlModel.InRange (model : PtzControlModel) : Prop :=
  model.leftRight ≤ 2 ∧ model.upDown ≤ 2 ∧ model.inOut ≤ 2 ∧ model.zoomSpeed ≤ 15

section

variable {model : PtzControlModel}

theorem readDigit_hexDigit {digit : Nat} (small : digit < 16) : readDigit (hexDigit digit) = some digit := by
  have all : ∀ digit : Fin 16, readDigit (hexDigit digit) = some digit.val := by decide
  exact all ⟨digit, small⟩

theorem readBytes_flatMap (bytes : List UInt8) : readBytes (bytes.flatMap hexByte) = some bytes := by
  induction bytes with
  | nil => rfl
  | cons first rest ih =>
      have small := first.toNat_lt
      have whole : UInt8.ofNat (16 * (first.toNat / 16) + first.toNat % 16) = first := by
        rw [Nat.div_add_mod, UInt8.ofNat_toNat]
      rw [List.flatMap_cons, hexByte, List.cons_append, List.cons_append, List.nil_append, readBytes,
        readDigit_hexDigit (by omega), readDigit_hexDigit (by omega), ih, Option.bind_some, Option.bind_some,
        Option.map_some, whole]

theorem eq_of_le_two {direction : UInt8} (small : direction ≤ 2) :
    direction = 0 ∨ direction = 1 ∨ direction = 2 := by
  have bound : direction.toNat ≤ 2 := UInt8.le_iff_toNat_le.mp small
  rw [← UInt8.toNat_inj, ← UInt8.toNat_inj, ← UInt8.toNat_inj]
  simp
  omega

theorem readDirections {leftRight upDown inOut : UInt8} (horizontal : leftRight ≤ 2) (vertical : upDown ≤ 2)
    (depth : inOut ≤ 2) :
    let bits := 0 ||| directionBits leftRight 0x02 0x01 ||| directionBits upDown 0x08 0x04 |||
      directionBits inOut 0x20 0x10
    readDirection bits 0x02 0x01 = leftRight ∧ readDirection bits 0x08 0x04 = upDown ∧
      readDirection bits 0x20 0x10 = inOut := by
  rcases eq_of_le_two horizontal with rfl | rfl | rfl <;> rcases eq_of_le_two vertical with rfl | rfl | rfl <;>
    rcases eq_of_le_two depth with rfl | rfl | rfl <;> decide

theorem shifted_back {speed : UInt8} (small : speed ≤ 15) : speed <<< 4 >>> 4 = speed := by
  have all : ∀ speed : Fin 16, UInt8.ofNat speed <<< 4 >>> 4 = UInt8.ofNat speed := by decide
  have bound : speed.toNat < 16 := Nat.lt_succ_of_le (UInt8.le_iff_toNat_le.mp small)
  have same := all ⟨speed.toNat, bound⟩
  rwa [UInt8.ofNat_toNat] at same

theorem checksum_append_zero (bytes : List UInt8) : checksum (bytes ++ [0]) = checksum bytes := by
  rw [checksum, checksum, List.map_append, List.sum_append]
  simp

/-- A command that is built is read as the movement that has been asked for. -/
theorem readCommand_build {command : Text} (built : buildPtzCommand model = .ok command) :
    model.InRange ∧ readCommand command = some model.movement := by
  rw [buildPtzCommand] at built
  split at built
  · cases built
  · next inRange =>
      simp only [Bool.or_eq_true, decide_eq_true_eq, not_or, UInt8.not_lt] at inRange
      obtain ⟨⟨⟨horizontal, vertical⟩, depth⟩, zoom⟩ := inRange
      obtain ⟨leftRight, upDown, inOut⟩ := readDirections horizontal vertical depth
      refine ⟨⟨horizontal, vertical, depth, zoom⟩, ?_⟩
      cases built
      rw [readCommand, readBytes_flatMap]
      simp only [List.cons_append, List.nil_append]
      split
      · rw [leftRight, upDown, inOut, shifted_back zoom]
        rfl
      · next differs => exact absurd (checksum_append_zero [_, _, _, _, _, _, _]) differs

theorem refused_iff : (∃ error, buildPtzCommand model = .error error) ↔ ¬model.InRange := by
  constructor
  · rintro ⟨error, refused⟩ inRange
    rw [buildPtzCommand, if_neg] at refused
    · cases refused
    · simpa [PtzControlModel.InRange, and_assoc] using inRange
  · intro outside
    cases built : buildPtzCommand model with
    | error error => exact ⟨error, rfl⟩
    | ok command => exact absurd (readCommand_build built).1 outside

end

/-! ## The document -/

/-- A key is looked for among the texts, whatever markers stand between them. -/
theorem value_marked {key : String} (other : splitClass ≠ key) (last : Nat) (texts : List Xml.Text) :
    value (marked last texts) key =
      texts.findSome? fun text => if joined text.path = key then some text.value else none := by
  induction texts generalizing last with
  | nil => rfl
  | cons text rest ih =>
      have later := ih text.depth
      rw [value] at later ⊢
      rw [marked]
      split <;> simp [List.findSome?_cons, other, later]

/-- The value of a key among fields: that of the first one under it that is not blank. -/
theorem value_textsOf {key : String} (other : splitClass ≠ key) (fields : List (List String × String)) :
    value (marked 0 (textsOf fields)) key =
      fields.findSome? fun field =>
        if joined field.1 = key ∧ trim field.2 ≠ "" then some (trim field.2) else none := by
  rw [value_marked other]
  induction fields with
  | nil => rfl
  | cons field rest ih =>
      rw [textsOf, List.flatMap_cons, List.findSome?_append, ← textsOf, ih, List.findSome?_cons, textAt]
      by_cases blank : trim field.2 = ""
      · simp [blank]
      · by_cases same : joined field.1 = key <;> simp [blank, same]

theorem trim_of_not_white {text : Text} (dark : ∀ char ∈ text, Xml.isWhitespace char = false) :
    trim (String.ofList text) = String.ofList text := by
  have stays : ∀ part : Text, (∀ char ∈ part, Xml.isWhitespace char = false) →
      part.dropWhile Xml.isWhitespace = part := by
    intro part each
    cases part with
    | nil => rfl
    | cons char rest => exact List.dropWhile_cons_of_neg (by simp [each char List.mem_cons_self])
  rw [trim, String.toList_ofList, stays text dark, stays _ fun char member => dark char (List.mem_reverse.mp member),
    List.reverse_reverse]

theorem hexByte_not_white (byte : UInt8) : ∀ char ∈ hexByte byte, Xml.isWhitespace char = false := by
  have digits : ∀ digit : Fin 16, Xml.isWhitespace (hexDigit digit) = false := by decide
  have small := byte.toNat_lt
  intro char member
  rcases List.mem_cons.mp member with rfl | member
  · exact digits ⟨byte.toNat / 16, by omega⟩
  · rw [List.mem_singleton.mp member]
    exact digits ⟨byte.toNat % 16, by omega⟩

theorem trim_command {model : PtzControlModel} {command : Text} (built : buildPtzCommand model = .ok command) :
    trim (String.ofList command) = String.ofList command ∧ String.ofList command ≠ "" := by
  rw [buildPtzCommand] at built
  split at built
  · cases built
  · cases built
    refine ⟨trim_of_not_white fun char member => ?_, fun empty => ?_⟩
    · obtain ⟨byte, -, inByte⟩ := List.mem_flatMap.mp member
      exact hexByte_not_white byte char inByte
    · have none := congrArg String.toList empty
      simp [hexByte] at none

theorem value_ptzControl {channelId : String} {sn : UInt32} {command : String} (trimmed : trim command = command)
    (nonempty : command ≠ "") :
    value (marked 0 (textsOf (DeviceMessage.ptzControl channelId sn command).fields)) "Control,PTZCmd" =
      some command := by
  have cmdType : joined ["Control", "CmdType"] ≠ "Control,PTZCmd" := by decide
  have number : joined ["Control", "SN"] ≠ "Control,PTZCmd" := by decide
  have device : joined ["Control", "DeviceID"] ≠ "Control,PTZCmd" := by decide
  have ptzCmd : joined ["Control", "PTZCmd"] = "Control,PTZCmd" := by decide
  rw [value_textsOf (by decide)]
  simp only [DeviceMessage.fields, List.findSome?_cons, cmdType, number, device, ptzCmd, trimmed, nonempty, false_and,
    true_and, ne_eq, not_false_eq_true, if_true, if_false]

theorem ascii_command {model : PtzControlModel} {command : Text} (built : buildPtzCommand model = .ok command) :
    ∀ char ∈ command, char.toNat < 128 := by
  have digits : ∀ digit : Fin 16, (hexDigit digit).toNat < 128 := by decide
  rw [buildPtzCommand] at built
  split at built
  · cases built
  · cases built
    intro char member
    obtain ⟨byte, -, inByte⟩ := List.mem_flatMap.mp member
    have small := byte.toNat_lt
    rcases List.mem_cons.mp inByte with rfl | inByte
    · exact digits ⟨byte.toNat / 16, by omega⟩
    · rw [List.mem_singleton.mp inByte]
      exact digits ⟨byte.toNat % 16, by omega⟩

theorem unchanged_ptzControl {codec : Codec} {fate : XmlEncoding → Char → Fate} (faithful : codec.Faithful fate)
    {encoding : XmlEncoding} {channelId : String} {sn : UInt32} {command : Text}
    (channel : ∀ char ∈ channelId.toList, fate encoding char ≠ .changed) (ascii : ∀ char ∈ command, char.toNat < 128) :
    ∀ field ∈ (DeviceMessage.ptzControl channelId sn (String.ofList command)).fields,
      ∀ char ∈ field.2.toList, fate encoding char ≠ .changed := by
  have plain : ∀ text : Text, (∀ char ∈ text, char.toNat < 128) → ∀ char ∈ text, fate encoding char ≠ .changed := by
    intro text small char member
    rw [faithful.ascii encoding char (small char member)]
    decide
  have number : ∀ char ∈ decimal sn.toNat, char.toNat < 128 := fun char member =>
    toNat_of_isAlphanum (isAlphanum_of_mem_decimal member)
  simp only [DeviceMessage.fields, List.forall_mem_cons]
  refine ⟨plain _ (by decide), plain _ number, channel, plain _ ?_, plain _ (by decide), ?_⟩
  · rwa [String.toList_ofList]
  · exact fun field member => (List.not_mem_nil member).elim

/-- A movement is refused exactly when it is out of range; what is sent otherwise is read by the device as the
movement that has been asked for. -/
theorem control_ptz_read_back {codec : Codec} {fate : XmlEncoding → Char → Fate} {read : Reader}
    (faithful : codec.Faithful fate) (reads : ReadsMarkup read) (model : PtzControlModel) (sn : UInt32)
    (gbVersion : Option String)
    (unchanged : ∀ char ∈ model.channelId.toList, fate (versionEncoding gbVersion) char ≠ .changed) :
    ((∃ error, controlPtz sn model = .error error) ↔ ¬model.InRange) ∧
      ∀ body, controlPtz sn model = .ok body →
        ((readItems codec read (encodeDocument codec body gbVersion)).bind fun items =>
          (value items "Control,PTZCmd").bind fun command => readCommand command.toList) = some model.movement := by
  constructor
  · rw [← refused_iff, controlPtz]
    cases buildPtzCommand model <;> simp [Except.map]
  · intro body sent
    cases built : buildPtzCommand model with
    | error error => simp [controlPtz, built, Except.map] at sent
    | ok command =>
        have isBody : body = buildPtzControl sn model.channelId (String.ofList command) := by
          simpa [controlPtz, built, Except.map, eq_comm] using sent
        obtain ⟨trimmed, nonempty⟩ := trim_command built
        obtain ⟨attributes, root, content, builds⟩ :=
          builds_message (.ptzControl model.channelId sn (String.ofList command))
        have back := builds.readItems faithful reads gbVersion
          (unchanged_ptzControl faithful unchanged (ascii_command built))
        rw [isBody]
        rw [DeviceMessage.body] at back
        rw [back, Option.bind_some, value_ptzControl trimmed nonempty, Option.bind_some, String.toList_ofList,
          (readCommand_build built).2]

theorem control_ptz_read_back_left :
    let model : PtzControlModel := ⟨"34020000001110000001", "34020000001320000101", 1, 0, 2, 120, 0, 9⟩
    ((∃ error, controlPtz 7 model = .error error) ↔ ¬model.InRange) ∧
      ∀ body, controlPtz 7 model = .ok body →
        ((readItems asciiCodec scanRead (encodeDocument asciiCodec body (some "2.0"))).bind fun items =>
          (value items "Control,PTZCmd").bind fun command => readCommand command.toList) = some model.movement :=
  control_ptz_read_back asciiCodec_faithful scanRead_reads _ 7 (some "2.0") (by decide)

end Gmv.Session.PtzCommand
