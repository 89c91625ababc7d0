import Mathlib.Data.List.Nodup
import Gmv.Session.Xml

/-!
# Device channels

The row that a catalog entry becomes, the fields that a catalog document can
set in it, and `build`, which turns the flattened document into rows.  The
value type of `f32` and its parser stay parameters.
-/

namespace Gmv.Session.DeviceChannel

open Gmv.Session.Xml

/-- A row of `GMV_DEVICE_CHANNEL`. -/
structure GmvDeviceChannel (F : Type) where
  deviceId : String := ""
  channelId : String := ""
  name : Option String := none
  manufacturer : Option String := none
  model : Option String := none
  owner : Option String := none
  status : String := ""
  civilCode : Option String := none
  address : Option String := none
  parental : Option Nat := none
  block : Option String := none
  parentId : Option String := none
  ipAddress : Option String := none
  port : Option Nat := none
  password : Option String := none
  longitude : Option F := none
  latitude : Option F := none
  ptzType : Option Nat := none
  supplyLightType : Option Nat := none
  deriving DecidableEq, Repr

/-- The fields that `build` reads from a document. -/
inductive ChannelField where
  | deviceId
  | name
  | manufacturer
  | model
  | owner
  | civilCode
  | block
  | address
  | parental
  | parentId
  | longitude
  | latitude
  | ptzType
  | supplyLightType
  | ipAddress
  | port
  | password
  | status
  deriving DecidableEq, Repr

namespace ChannelField

/-- The constants `RESPONSE_DEVICE_LIST_ITEM_*`. -/
def key : ChannelField → String
  | deviceId => "Response,DeviceList,Item,DeviceID"
  | name => "Response,DeviceList,Item,Name"
  | manufacturer => "Response,DeviceList,Item,Manufacturer"
  | model => "Response,DeviceList,Item,Model"
  | owner => "Response,DeviceList,Item,Owner"
  | civilCode => "Response,DeviceList,Item,CivilCode"
  | block => "Response,DeviceList,Item,Block"
  | address => "Response,DeviceList,Item,Address"
  | parental => "Response,DeviceList,Item,Parental"
  | parentId => "Response,DeviceList,Item,ParentID"
  | longitude => "Response,DeviceList,Item,Longitude"
  | latitude => "Response,DeviceList,Item,Latitude"
  | ptzType => "Response,DeviceList,Item,Info,PTZType"
  | supplyLightType => "Response,DeviceList,Item,SupplyLightType"
  | ipAddress => "Response,DeviceList,Item,IPAddress"
  | port => "Response,DeviceList,Item,Port"
  | password => "Response,DeviceList,Item,Password"
  | status => "Response,DeviceList,Item,Status"

/-- The element of a field, below `Item`. -/
def element : ChannelField → List String
  | deviceId => ["DeviceID"]
  | name => ["Name"]
  | manufacturer => ["Manufacturer"]
  | model => ["Model"]
  | owner => ["Owner"]
  | civilCode => ["CivilCode"]
  | block => ["Block"]
  | address => ["Address"]
  | parental => ["Parental"]
  | parentId => ["ParentID"]
  | longitude => ["Longitude"]
  | latitude => ["Latitude"]
  | ptzType => ["Info", "PTZType"]
  | supplyLightType => ["SupplyLightType"]
  | ipAddress => ["IPAddress"]
  | port => ["Port"]
  | password => ["Password"]
  | status => ["Status"]

def path (field : ChannelField) : List String :=
  ["Response", "DeviceList", "Item"] ++ field.element

def all : List ChannelField :=
  [deviceId, name, manufacturer, model, owner, civilCode, block, address, parental, parentId,
    longitude, latitude, ptzType, supplyLightType, ipAddress, port, password, status]

theorem mem_all (field : ChannelField) : field ∈ all := by
  cases field <;> decide

/-- The field of a key. -/
def ofKey (text : String) : Option ChannelField := all.find? fun field => field.key == text

theorem key_eq_joined (field : ChannelField) : field.key = joined field.path := by
  cases field <;> decide

theorem path_plain (field : ChannelField) : Plain field.path := by
  cases field <;> unfold Plain <;> decide

theorem path_ne_nil (field : ChannelField) : field.path ≠ [] := by
  cases field <;> exact List.cons_ne_nil _ _

theorem path_injective {first second : ChannelField} (same : first.path = second.path) :
    first = second := by
  revert same
  cases first <;> cases second <;> decide

theorem key_of_ofKey {text : String} {field : ChannelField} (found : ofKey text = some field) :
    field.key = text := by
  rw [ofKey] at found
  have matched := List.find?_some found
  exact beq_iff_eq.mp matched

/-- A key names the field whose path it spells. -/
theorem ofKey_joined {steps : List String} (plain : Plain steps) (nonempty : steps ≠ [])
    (field : ChannelField) : ofKey (joined steps) = some field ↔ steps = field.path := by
  have matching : ∀ other : ChannelField, other.key = joined steps ↔ steps = other.path := by
    intro other
    rw [key_eq_joined]
    constructor
    · intro same
      exact (joined_injective other.path_plain plain other.path_ne_nil nonempty same).symm
    · intro same
      rw [same]
  constructor
  · intro found
    exact (matching field).mp (key_of_ofKey found)
  · intro same
    cases found : ofKey (joined steps) with
    | none =>
        have missing := List.find?_eq_none.mp found field (mem_all field)
        exact absurd (beq_iff_eq.mpr ((matching field).mpr same)) missing
    | some other =>
        have otherPath := (matching other).mp (key_of_ofKey found)
        rw [path_injective (otherPath.symm.trans same)]

end ChannelField

/-! ## Values -/

/-- `str::parse` for an unsigned integer type with the given largest value. -/
def parseUnsigned (largest : Nat) (text : String) : Option Nat :=
  let digits := match text.toList with
    | '+' :: rest => rest
    | chars => chars
  if digits.isEmpty || !digits.all Char.isDigit then none
  else
    let value := digits.foldl (fun total digit => 10 * total + (digit.toNat - 48)) 0
    if value ≤ largest then some value else none

section

variable {F : Type} (parseF32 : String → Option F)

/-- The assignment of a text to its field. -/
def assign (channel : GmvDeviceChannel F) (text : String) : ChannelField → GmvDeviceChannel F
  | .deviceId => { channel with channelId := text }
  | .name => { channel with name := some text }
  | .manufacturer => { channel with manufacturer := some text }
  | .model => { channel with model := some text }
  | .owner => { channel with owner := some text }
  | .civilCode => { channel with civilCode := some text }
  | .block => { channel with block := some text }
  | .address => { channel with address := some text }
  | .parental => { channel with parental := parseUnsigned 255 text }
  | .parentId => { channel with parentId := some text }
  | .longitude => { channel with longitude := parseF32 text }
  | .latitude => { channel with latitude := parseF32 text }
  | .ptzType => { channel with ptzType := parseUnsigned 255 text }
  | .supplyLightType => { channel with supplyLightType := parseUnsigned 255 text }
  | .ipAddress => { channel with ipAddress := some text }
  | .port => { channel with port := parseUnsigned 65535 text }
  | .password => { channel with password := some text }
  | .status => { channel with status := text }

/-- The variables of the loop in `build`: the rows pushed and the row under way. -/
structure Rows (F : Type) where
  dcs : List (GmvDeviceChannel F)
  dc : GmvDeviceChannel F

/-- A row with nothing but the parent device. -/
def blank (parentDeviceId : String) : GmvDeviceChannel F := { deviceId := parentDeviceId }

/-- One pair of the loop in `build`. -/
def Rows.step (parentDeviceId : String) (rows : Rows F) (pair : String × String) : Rows F :=
  match ChannelField.ofKey pair.1 with
  | some field => { rows with dc := assign parseF32 rows.dc pair.2 field }
  | none =>
      if pair.1 = splitClass ∧ pair.2 = "4" ∧ rows.dc.channelId ≠ "" then
        ⟨rows.dcs ++ [rows.dc], blank parentDeviceId⟩
      else rows

def build (parentDeviceId : String) (pairs : List (String × String)) :
    List (GmvDeviceChannel F) :=
  let rows := pairs.foldl (Rows.step parseF32 parentDeviceId) ⟨[], blank parentDeviceId⟩
  rows.dcs ++ [rows.dc]

/-- What a channel holds in one of its fields. -/
inductive Reading (F : Type) where
  | absent
  | text (value : String)
  | number (value : Nat)
  | real (value : F)
  deriving DecidableEq, Repr

namespace Reading

def ofString (value : String) : Reading F := if value = "" then absent else text value

def ofText : Option String → Reading F
  | none => absent
  | some value => text value

def ofNumber : Option Nat → Reading F
  | none => absent
  | some value => number value

def ofReal : Option F → Reading F
  | none => absent
  | some value => real value

theorem ofString_injective {first second : String}
    (same : (ofString first : Reading F) = ofString second) : first = second := by
  unfold ofString at same
  split at same <;> split at same <;> simp_all

theorem ofText_injective {first second : Option String}
    (same : (ofText first : Reading F) = ofText second) : first = second := by
  cases first <;> cases second <;> cases same <;> rfl

theorem ofNumber_injective {first second : Option Nat}
    (same : (ofNumber first : Reading F) = ofNumber second) : first = second := by
  cases first <;> cases second <;> cases same <;> rfl

theorem ofReal_injective {first second : Option F}
    (same : ofReal first = ofReal second) : first = second := by
  cases first <;> cases second <;> cases same <;> rfl

end Reading

/-- The content of a field, `absent` where the row has its default. -/
def GmvDeviceChannel.read (channel : GmvDeviceChannel F) : ChannelField → Reading F
  | .deviceId => .ofString channel.channelId
  | .name => .ofText channel.name
  | .manufacturer => .ofText channel.manufacturer
  | .model => .ofText channel.model
  | .owner => .ofText channel.owner
  | .civilCode => .ofText channel.civilCode
  | .block => .ofText channel.block
  | .address => .ofText channel.address
  | .parental => .ofNumber channel.parental
  | .parentId => .ofText channel.parentId
  | .longitude => .ofReal channel.longitude
  | .latitude => .ofReal channel.latitude
  | .ptzType => .ofNumber channel.ptzType
  | .supplyLightType => .ofNumber channel.supplyLightType
  | .ipAddress => .ofText channel.ipAddress
  | .port => .ofNumber channel.port
  | .password => .ofText channel.password
  | .status => .ofString channel.status

/-- What a text means for a field: its string or its number, and nothing when
the number does not parse. -/
def ChannelField.parsed (field : ChannelField) (text : String) : Reading F :=
  match field with
  | .deviceId | .status => .ofString text
  | .parental | .ptzType | .supplyLightType => .ofNumber (parseUnsigned 255 text)
  | .port => .ofNumber (parseUnsigned 65535 text)
  | .longitude | .latitude => .ofReal (parseF32 text)
  | _ => .text text

variable {parseF32}

@[simp]
theorem assign_deviceId (channel : GmvDeviceChannel F) (text : String) (field : ChannelField) :
    (assign parseF32 channel text field).deviceId = channel.deviceId := by
  cases field <;> rfl

/-- An assignment fills its own field. -/
theorem read_assign_same (channel : GmvDeviceChannel F) (text : String) (field : ChannelField) :
    (assign parseF32 channel text field).read field = field.parsed parseF32 text := by
  cases field <;> rfl

/-- An assignment leaves every other field alone. -/
theorem read_assign_other (channel : GmvDeviceChannel F) (text : String)
    {field other : ChannelField} (differs : other ≠ field) :
    (assign parseF32 channel text field).read other = channel.read other := by
  cases field <;> cases other <;> first | rfl | exact absurd rfl differs

theorem read_blank (parentDeviceId : String) (field : ChannelField) :
    (blank parentDeviceId : GmvDeviceChannel F).read field = .absent := by
  cases field <;> rfl

/-- A channel is determined by its device and its fields. -/
theorem ext_read {first second : GmvDeviceChannel F} (device : first.deviceId = second.deviceId)
    (fields : ∀ field, first.read field = second.read field) : first = second := by
  have channelId := Reading.ofString_injective (fields .deviceId)
  have name := Reading.ofText_injective (fields .name)
  have manufacturer := Reading.ofText_injective (fields .manufacturer)
  have model := Reading.ofText_injective (fields .model)
  have owner := Reading.ofText_injective (fields .owner)
  have civilCode := Reading.ofText_injective (fields .civilCode)
  have block := Reading.ofText_injective (fields .block)
  have address := Reading.ofText_injective (fields .address)
  have parental := Reading.ofNumber_injective (fields .parental)
  have parentId := Reading.ofText_injective (fields .parentId)
  have longitude := Reading.ofReal_injective (fields .longitude)
  have latitude := Reading.ofReal_injective (fields .latitude)
  have ptzType := Reading.ofNumber_injective (fields .ptzType)
  have supplyLightType := Reading.ofNumber_injective (fields .supplyLightType)
  have ipAddress := Reading.ofText_injective (fields .ipAddress)
  have port := Reading.ofNumber_injective (fields .port)
  have password := Reading.ofText_injective (fields .password)
  have status := Reading.ofString_injective (fields .status)
  cases first
  cases second
  simp_all

end

end Gmv.Session.DeviceChannel
