import Gmv.Library.Markup
import Gmv.Session.Xml
import Mathlib

/-!
# The documents that are sent to devices

A message to a device is an XML document whose texts are escaped.  Its declaration is rewritten for the encoding
that the device's version asks for, and it is sent in that encoding.  Read back as the node reads what devices
send, it gives the fields that it has been built from, each trimmed and none that is blank, also where the encoding
lacks a character and a reference to it is sent in its place.
-/

namespace Gmv.Session.XmlDocuments

open Gmv.Library Gmv.Library.Markup
open Gmv.Session.Xml hiding Text

/-! ## Building a document -/

/-- `str::replace` of one character. -/
def replace (char : Char) (by' : String) (text : Text) : Text :=
  text.flatMap fun other => if other = char then by'.toList else [other]

def escape (value : String) : Text :=
  replace '\'' "&apos;" (replace '"' "&quot;" (replace '>' "&gt;" (replace '<' "&lt;"
    (replace '&' "&amp;" value.toList))))

/-- A number as it is formatted. -/
def decimal (number : Nat) : Text := (toString number).toList

/-- A line of a document, or lines between two tags. -/
inductive Field where
  | leaf (name : String) (raw : Text)
  | group (name : String) (leaves : List (String × Text))

def leaf (name : String) (raw : Text) : Text :=
  "<".toList ++ name.toList ++ ">".toList ++ raw ++ "</".toList ++ name.toList ++ ">\r\n".toList

def block (name : String) (lines : Text) : Text :=
  "<".toList ++ name.toList ++ ">\r\n".toList ++ lines ++ "</".toList ++ name.toList ++ ">\r\n".toList

def Field.text : Field → Text
  | .leaf name raw => XmlDocuments.leaf name raw
  | .group name leaves => block name (leaves.flatMap fun entry => XmlDocuments.leaf entry.1 entry.2)

/-- The shape that all builders share. -/
def documentText (declaration : Text) (root : String) (fields : List Field) : Text :=
  "<?".toList ++ declaration ++ "?>\r\n".toList ++ block root (fields.flatMap Field.text)

def gb2312Declaration : Text := "xml".toList ++ " version=\"1.0\" encoding=\"GB2312\"".toList

def buildCatalogQuery (sn : UInt32) (deviceId : String) : Text :=
  documentText gb2312Declaration "Query"
    [.leaf "CmdType" "Catalog".toList, .leaf "SN" (decimal sn.toNat), .leaf "DeviceID" (escape deviceId)]

def buildCatalogSubscription (sn : UInt32) (deviceId startTime endTime : String) : Text :=
  documentText gb2312Declaration "Query"
    [.leaf "CmdType" "Catalog".toList, .leaf "SN" (decimal sn.toNat), .leaf "DeviceID" (escape deviceId),
      .leaf "StartTime" (escape startTime), .leaf "EndTime" (escape endTime)]

def buildDeviceInfoQuery (sn : UInt32) (deviceId : String) : Text :=
  documentText gb2312Declaration "Query"
    [.leaf "CmdType" "DeviceInfo".toList, .leaf "SN" (decimal sn.toNat), .leaf "DeviceID" (escape deviceId)]

def buildSimpleQuery (cmdType : String) (sn : UInt32) (deviceId : String) (extra : List Field) : Text :=
  documentText gb2312Declaration "Query"
    ([.leaf "CmdType" (escape cmdType), .leaf "SN" (decimal sn.toNat), .leaf "DeviceID" (escape deviceId)] ++ extra)

def buildDeviceStatusQuery (sn : UInt32) (deviceId : String) : Text :=
  buildSimpleQuery "DeviceStatus" sn deviceId []

def buildConfigDownloadQuery (sn : UInt32) (deviceId configType : String) : Text :=
  buildSimpleQuery "ConfigDownload" sn deviceId [.leaf "ConfigType" (escape configType)]

def buildPtzPositionQuery (sn : UInt32) (deviceId : String) : Text :=
  buildSimpleQuery "PTZPosition" sn deviceId []

def buildCruiseTrackListQuery (sn : UInt32) (deviceId : String) : Text :=
  buildSimpleQuery "CruiseTrackListQuery" sn deviceId []

def buildCruiseTrackQuery (sn : UInt32) (deviceId : String) (number : UInt32) : Text :=
  buildSimpleQuery "CruiseTrackQuery" sn deviceId [.leaf "Number" (decimal number.toNat)]

def buildBroadcastNotify (sn : UInt32) (sourceId targetId : String) : Text :=
  documentText gb2312Declaration "Notify"
    [.leaf "CmdType" "Broadcast".toList, .leaf "SN" (decimal sn.toNat), .leaf "SourceID" (escape sourceId),
      .leaf "TargetID" (escape targetId)]

def buildRecordInfoQuery (sn : UInt32) (deviceId startTime endTime : String) : Text :=
  documentText gb2312Declaration "Query"
    [.leaf "CmdType" "RecordInfo".toList, .leaf "SN" (decimal sn.toNat), .leaf "DeviceID" (escape deviceId),
      .leaf "StartTime" (escape startTime), .leaf "EndTime" (escape endTime), .leaf "Secrecy" "0".toList,
      .leaf "Type" "all".toList]

def buildPtzControl (sn : UInt32) (deviceId command : String) : Text :=
  documentText gb2312Declaration "Control"
    [.leaf "CmdType" "DeviceControl".toList, .leaf "SN" (decimal sn.toNat), .leaf "DeviceID" (escape deviceId),
      .leaf "PTZCmd" (escape command), .group "Info" [("ControlPriority", "5".toList)]]

def buildPresetQueryXml (deviceId : String) : Text :=
  documentText gb2312Declaration "Query"
    [.leaf "CmdType" "PresetQuery".toList, .leaf "SN" "1".toList, .leaf "DeviceID" (escape deviceId)]

def buildSnapshotControlXml (channelId : String) (count interval : UInt8) (url sessionId : String) : Text :=
  documentText ("xml".toList ++ " version=\"1.0\"".toList) "Control"
    [.leaf "CmdType" "DeviceConfig".toList, .leaf "SN" "1".toList, .leaf "DeviceID" (escape channelId),
      .group "SnapShotConfig"
        [("SnapNum", decimal count.toNat), ("Interval", decimal interval.toNat), ("UploadURL", escape url),
          ("SessionID", escape sessionId)]]

/-! ## Sending and reading a document -/

inductive XmlEncoding where
  | utf8
  | gb2312
  | gb18030
  deriving DecidableEq, Repr

/-- What the encodings make of a text, and of bytes. -/
structure Codec where
  encode : XmlEncoding → Text → List UInt8
  decode : XmlEncoding → List UInt8 → Option Text

def gb2022Version : String := "3.0"

def versionEncoding (gbVersion : Option String) : XmlEncoding :=
  if gbVersion.any fun version => trim version == gb2022Version then .gb18030 else .gb2312

def declarationLabel : XmlEncoding → String
  | .gb18030 => "GB18030"
  | _ => "GB2312"

/-- The text behind the first `?>`. -/
def afterDeclaration : Text → Option Text
  | [] => none
  | '?' :: '>' :: rest => some rest
  | _ :: rest => afterDeclaration rest

def withEncodingDeclaration (xml : Text) (encoding : String) : Text :=
  let xml := xml.dropWhile (· == '\uFEFF')
  let body := if "<?xml".toList.isPrefixOf xml then (afterDeclaration xml).getD xml else xml
  "<?xml".toList ++ " version=\"1.0\" encoding=\"".toList ++ encoding.toList ++ "\"?>\r\n".toList ++
    body.dropWhile fun char => char == '\r' || char == '\n'

def encodeDocument (codec : Codec) (xml : Text) (gbVersion : Option String) : List UInt8 :=
  let encoding := versionEncoding gbVersion
  codec.encode encoding (withEncodingDeclaration xml (declarationLabel encoding))

def byte (char : Char) : UInt8 := UInt8.ofNat char.toNat

def upper (byte : UInt8) : UInt8 := if 97 ≤ byte && byte ≤ 122 then byte - 32 else byte

/-- Whether a label stands in the first bytes, as the lossy text of them says: it keeps the bytes of ASCII, and puts
other characters for the others. -/
def declares (label : String) (xml : List UInt8) : Bool :=
  ((xml.take 256).map upper).tails.any fun rest => (label.toList.map byte).isPrefixOf rest

def detectEncoding (xml : List UInt8) : XmlEncoding :=
  if declares "GB18030" xml then .gb18030
  else if declares "GB2312" xml || declares "GBK" xml then .gb2312
  else if ByteArray.validateUTF8 ⟨xml.toArray⟩ then .utf8
  else .gb18030

/-- The XML reader: the events of a text, or an error. -/
abbrev Reader := Text → Option (List Event)

/-- `parse_items`. -/
def readItems (codec : Codec) (read : Reader) (xml : List UInt8) : Option (List (String × String)) :=
  (codec.decode (detectEncoding xml) xml).bind fun decoded => (read decoded).map parseItems

/-! ## What the encodings and the reader do -/

/-- What comes of a character in an encoding. -/
inductive Fate where
  | kept
  /-- The encoding lacks it, and a reference is sent in its place. -/
  | referenced
  /-- It is read back as another character. -/
  | changed
  deriving DecidableEq, Repr

def Fate.put (char : Char) : Fate → Text
  | .referenced => reference char
  | _ => [char]

/-- The encodings keep the bytes of ASCII, and what they have written is read back with the references that they
have put in; GBK reads as GB18030 does. -/
structure Codec.Faithful (codec : Codec) (fate : XmlEncoding → Char → Fate) : Prop where
  ascii : ∀ encoding char, char.toNat < 128 → fate encoding char = .kept
  encode_ascii : ∀ encoding char text, char.toNat < 128 →
    codec.encode encoding (char :: text) = byte char :: codec.encode encoding text
  decode_encode : ∀ encoding text, text.head? = some '<' → (∀ char ∈ text, fate encoding char ≠ .changed) →
    codec.decode encoding (codec.encode encoding text) = some (text.flatMap fun char => (fate encoding char).put char)
  gbk : codec.decode .gb2312 = codec.decode .gb18030

def tagEvent : Tag → Event
  | .opening name => .start (String.ofList name)
  | .closing _ => .stop

/-- The text that is written so. -/
def textOf (raw : Text) : String := String.ofList ((unescape raw).getD [])

/-- The events of a row of tags: a text that is blank may be left out, and any may be trimmed. -/
inductive Delivers : List Mark → List Event → Prop where
  | nil : Delivers [] []
  | blank {mark : Mark} {rest : List Mark} {events : List Event} (blank : trim (textOf mark.after) = "")
      (others : Delivers rest events) : Delivers (mark :: rest) (tagEvent mark.tag :: events)
  | text {mark : Mark} {rest : List Mark} {events : List Event} {content : String}
      (same : trim content = trim (textOf mark.after)) (others : Delivers rest events) :
      Delivers (mark :: rest) (tagEvent mark.tag :: .text content :: events)

/-- The reader reads what is well formed. -/
def ReadsMarkup (read : Reader) : Prop :=
  ∀ document : Document, document.WellFormed →
    ∃ events, read document.render = some (.other :: events) ∧ Delivers document.marks events

/-! ## Reading a row of tags -/

def plainEvents (marks : List Mark) : List Event :=
  marks.flatMap fun mark => [tagEvent mark.tag, .text (textOf mark.after)]

theorem step_text_congr (scan : Scan) {content other : String} (same : trim content = trim other) :
    scan.step (.text content) = scan.step (.text other) := by
  simp only [Scan.step, same]

theorem step_text_blank (scan : Scan) {content : String} (blank : trim content = "") :
    scan.step (.text content) = scan := by
  simp only [Scan.step, blank, if_true]

theorem foldl_of_delivers {marks : List Mark} {events : List Event} (delivers : Delivers marks events) (scan : Scan) :
    events.foldl Scan.step scan = (plainEvents marks).foldl Scan.step scan := by
  induction delivers generalizing scan with
  | nil => rfl
  | @blank mark rest events blank others ih =>
      rw [plainEvents, List.flatMap_cons, List.foldl_append, ← plainEvents, List.foldl_cons, ih]
      simp only [List.foldl_cons, List.foldl_nil, step_text_blank _ blank]
  | @text mark rest events content same others ih =>
      rw [plainEvents, List.flatMap_cons, List.foldl_append, ← plainEvents, List.foldl_cons, List.foldl_cons, ih]
      simp only [List.foldl_cons, List.foldl_nil, step_text_congr _ same]

/-! ## The tags of a document -/

def crlf : Text := ['\r', '\n']

def leafMarks (name : String) (raw : Text) : List Mark :=
  [⟨.opening name.toList, raw⟩, ⟨.closing name.toList, crlf⟩]

def blockMarks (name : String) (marks : List Mark) : List Mark :=
  ⟨.opening name.toList, crlf⟩ :: (marks ++ [⟨.closing name.toList, crlf⟩])

def Field.marks : Field → List Mark
  | .leaf name raw => leafMarks name raw
  | .group name leaves => blockMarks name (leaves.flatMap fun entry => leafMarks entry.1 entry.2)

theorem render_leafMarks (name : String) (raw : Text) : render (leafMarks name raw) = leaf name raw := by
  simp [render, leafMarks, leaf, Mark.segment, Tag.inside, crlf]

theorem render_append (marks others : List Mark) : render (marks ++ others) = render marks ++ render others :=
  List.flatMap_append

theorem render_blockMarks (name : String) (marks : List Mark) :
    render (blockMarks name marks) = block name (render marks) := by
  rw [blockMarks, ← List.singleton_append, render_append, render_append]
  simp [render, block, Mark.segment, Tag.inside, crlf]

theorem render_flatMap {ι : Type} (marks : ι → List Mark) (text : ι → Text) (parts : List ι)
    (same : ∀ part, render (marks part) = text part) : render (parts.flatMap marks) = parts.flatMap text := by
  rw [render, List.flatMap_assoc]
  exact congrArg (parts.flatMap ·) (funext same)

theorem Field.render_marks (field : Field) : render field.marks = field.text := by
  cases field with
  | leaf name raw => exact render_leafMarks name raw
  | group name leaves =>
      rw [marks, render_blockMarks, text]
      exact congrArg (block name) (render_flatMap _ _ leaves fun entry => render_leafMarks entry.1 entry.2)

/-- A line with its texts written anew, character by character. -/
def Field.put (write : Char → Text) : Field → Field
  | .leaf name raw => .leaf name (raw.flatMap write)
  | .group name leaves => .group name (leaves.map fun entry => (entry.1, entry.2.flatMap write))

/-! Every builder writes such texts under such names. -/

def Readable (raw : Text) : Prop := '<' ∉ raw ∧ (unescape raw).isSome = true

/-- The names of elements. -/
def Field.Named : Field → Prop
  | .leaf name _ => isName name.toList = true
  | .group name leaves => isName name.toList = true ∧ ∀ entry ∈ leaves, isName entry.1.toList = true

def Field.Readable : Field → Prop
  | .leaf name raw => isName name.toList = true ∧ XmlDocuments.Readable raw
  | .group name leaves => isName name.toList = true ∧
      ∀ entry ∈ leaves, isName entry.1.toList = true ∧ XmlDocuments.Readable entry.2

theorem isText_of_readable {name : Text} {names : List Text} {raw : Text} (readable : Readable raw) :
    isText (name :: names) raw = true := by
  simp [isText, readable.1, readable.2]

theorem isText_crlf (names : List Text) : isText names crlf = true := by
  simp [isText, crlf, unescape_plain, isSpace]

theorem nested_leafMarks {name : String} {outer : Text} {names : List Text} {raw : Text} {rest : List Mark}
    (isName' : isName name.toList = true) (readable : Readable raw) :
    nested (outer :: names) (leafMarks name raw ++ rest) = nested (outer :: names) rest := by
  simp only [leafMarks, List.cons_append, List.nil_append, nested, Tag.enter, isName', if_true,
    isText_of_readable readable, isText_crlf, Bool.true_and]

theorem nested_flatMap {ι : Type} {marks : ι → List Mark} {parts : List ι} {names : List Text} {rest : List Mark}
    (each : ∀ part ∈ parts, ∀ rest, nested names (marks part ++ rest) = nested names rest) :
    nested names (parts.flatMap marks ++ rest) = nested names rest := by
  induction parts with
  | nil => rfl
  | cons part parts ih =>
      rw [List.flatMap_cons, List.append_assoc, each part List.mem_cons_self,
        ih fun other member => each other (List.mem_cons_of_mem _ member)]

theorem nested_blockMarks {name : String} {names : List Text} {marks rest : List Mark}
    (isName' : isName name.toList = true)
    (inside : ∀ rest, nested (name.toList :: names) (marks ++ rest) = nested (name.toList :: names) rest) :
    nested names (blockMarks name marks ++ rest) = nested names rest := by
  rw [blockMarks, List.cons_append, List.append_assoc, nested]
  simp only [Tag.enter, isName', if_true, isText_crlf, Bool.true_and, inside, List.cons_append, List.nil_append, nested]

theorem Field.nested_marks {field : Field} (readable : field.Readable) {outer : Text} {names : List Text}
    (rest : List Mark) : nested (outer :: names) (field.marks ++ rest) = nested (outer :: names) rest := by
  cases field with
  | leaf name raw => exact nested_leafMarks readable.1 readable.2
  | group name leaves =>
      refine nested_blockMarks readable.1 fun rest => nested_flatMap fun entry member rest => ?_
      exact nested_leafMarks (readable.2 entry member).1 (readable.2 entry member).2

/-! The texts that a document gives back. -/

def Field.found (path : List String) : Field → List Xml.Text
  | .leaf name raw => textAt (path ++ [name]) (textOf raw)
  | .group name leaves => leaves.flatMap fun entry => textAt (path ++ [name] ++ [entry.1]) (textOf entry.2)

theorem yields_crlf (path : List String) : Yields path [.text (textOf crlf)] [] := by
  have blank : trim (textOf crlf) = "" := by decide
  have found := yields_text path (textOf crlf)
  rwa [textAt, if_pos blank] at found

theorem plainEvents_append (marks others : List Mark) :
    plainEvents (marks ++ others) = plainEvents marks ++ plainEvents others := List.flatMap_append

theorem plainEvents_flatMap {ι : Type} (marks : ι → List Mark) (parts : List ι) :
    plainEvents (parts.flatMap marks) = parts.flatMap fun part => plainEvents (marks part) := by
  rw [plainEvents, List.flatMap_assoc]
  rfl

theorem yields_leafMarks (path : List String) (name : String) (raw : Text) :
    Yields path (plainEvents (leafMarks name raw)) (textAt (path ++ [name]) (textOf raw)) := by
  have element : Yields path _ _ := (yields_text (path ++ [name]) (textOf raw)).element
  have both := element.append (yields_crlf path)
  rw [List.append_nil] at both
  simpa [plainEvents, leafMarks, tagEvent] using both

theorem yields_blockMarks {path : List String} {name : String} {marks : List Mark} {texts : List Xml.Text}
    (inside : Yields (path ++ [name]) (plainEvents marks) texts) :
    Yields path (plainEvents (blockMarks name marks)) texts := by
  have element : Yields path _ _ := ((yields_crlf (path ++ [name])).append inside).element
  have both := element.append (yields_crlf path)
  rw [List.append_nil, List.nil_append] at both
  rw [blockMarks, ← List.singleton_append, plainEvents_append, plainEvents_append]
  simpa [plainEvents, tagEvent] using both

theorem Field.yields (path : List String) (field : Field) :
    Yields path (plainEvents field.marks) (field.found path) := by
  cases field with
  | leaf name raw => exact yields_leafMarks path name raw
  | group name leaves =>
      refine yields_blockMarks ?_
      rw [plainEvents_flatMap]
      exact Yields.flatMap fun entry _ => yields_leafMarks (path ++ [name]) entry.1 entry.2

/-! ## A document read back -/

/-- The document that a builder's text is, under a declaration. -/
def documentOf (declaration : Text) (root : String) (fields : List Field) : Document :=
  ⟨declaration, crlf, blockMarks root (fields.flatMap Field.marks)⟩

theorem render_documentOf (declaration : Text) (root : String) (fields : List Field) :
    (documentOf declaration root fields).render = documentText declaration root fields := by
  rw [documentText, ← render_flatMap Field.marks Field.text fields Field.render_marks, ← render_blockMarks]
  simp [documentOf, Document.render, Document.segment, crlf]

theorem wellFormed_documentOf {declaration : Text} {root : String} {fields : List Field}
    (plain : ∀ char ∈ declaration, char ≠ '<' ∧ char ≠ '>' ∧ char ≠ '?') (isName' : isName root.toList = true)
    (readable : ∀ field ∈ fields, field.Readable) : (documentOf declaration root fields).WellFormed where
  declaration := plain
  after := show crlf.all isSpace = true by decide
  nested := by
    have inside : ∀ rest, nested [root.toList] (fields.flatMap Field.marks ++ rest) = nested [root.toList] rest :=
      fun rest => nested_flatMap fun field member rest => Field.nested_marks (readable field member) rest
    have whole : nested [] (blockMarks root (fields.flatMap Field.marks) ++ []) = nested [] [] :=
      nested_blockMarks isName' inside
    rwa [List.append_nil] at whole

theorem parseItems_documentOf {read : Reader} (reads : ReadsMarkup read) {declaration : Text} {root : String}
    {fields : List Field} (wellFormed : (documentOf declaration root fields).WellFormed) :
    (read (documentOf declaration root fields).render).map parseItems =
      some (marked 0 (fields.flatMap (Field.found [root]))) := by
  obtain ⟨events, isRead, delivers⟩ := reads _ wellFormed
  have yields : Yields [] (plainEvents (blockMarks root (fields.flatMap Field.marks)))
      (fields.flatMap (Field.found [root])) := by
    refine yields_blockMarks ?_
    rw [plainEvents_flatMap]
    exact Yields.flatMap fun field _ => field.yields [root]
  have whole := parseItems_of_yields yields
  rw [isRead, Option.map_some, ← whole, parseItems, List.foldl_cons, foldl_of_delivers delivers]
  rfl

/-! ## The declaration and the encoding -/

def labelled (label : String) : Text :=
  "xml".toList ++ " version=\"1.0\" encoding=\"".toList ++ label.toList ++ "\"".toList

theorem afterDeclaration_append {front : Text} (plain : '?' ∉ front) (rest : Text) :
    afterDeclaration (front ++ '?' :: '>' :: rest) = some rest := by
  induction front with
  | nil => rfl
  | cons char front ih =>
      have differs : char ≠ '?' := fun same => plain (same ▸ List.mem_cons_self)
      rw [List.cons_append, afterDeclaration.eq_def]
      split
      · cases ‹_ :: _ = _›
      · next same => exact absurd (List.cons.inj same).1 differs
      · next same =>
          cases same
          exact ih fun member => plain (List.mem_cons_of_mem _ member)

theorem afterDeclaration_cons {char next : Char} (other : char ≠ '?' ∨ next ≠ '>') (rest : Text) :
    afterDeclaration (char :: next :: rest) = afterDeclaration (next :: rest) := by
  rw [afterDeclaration.eq_def]
  split
  · next same => cases same
  · next same =>
      cases same
      simp at other
  · next same => cases same; rfl

/-- A builder's declaration gives way to the one for the encoding. -/
theorem withEncodingDeclaration_documentText {attributes : Text} {root : String} {fields : List Field} (label : String)
    (plain : '?' ∉ attributes) :
    withEncodingDeclaration (documentText ('x' :: 'm' :: 'l' :: attributes) root fields) label =
      documentText (labelled label) root fields := by
  have shape : documentText ('x' :: 'm' :: 'l' :: attributes) root fields =
      '<' :: '?' :: 'x' :: 'm' :: 'l' ::
        (attributes ++ '?' :: '>' :: '\r' :: '\n' :: block root (fields.flatMap Field.text)) := by
    simp [documentText]
  have found : afterDeclaration (documentText ('x' :: 'm' :: 'l' :: attributes) root fields) =
      some ('\r' :: '\n' :: block root (fields.flatMap Field.text)) := by
    have front : '?' ∉ 'x' :: 'm' :: 'l' :: attributes := by simpa using plain
    rw [shape, afterDeclaration_cons (Or.inl (by decide)), afterDeclaration_cons (Or.inr (by decide))]
    exact afterDeclaration_append front _
  have start : (documentText ('x' :: 'm' :: 'l' :: attributes) root fields).dropWhile (· == '\uFEFF') =
      documentText ('x' :: 'm' :: 'l' :: attributes) root fields := by
    rw [shape]
    exact List.dropWhile_cons_of_neg (by decide)
  have isDeclared : "<?xml".toList.isPrefixOf (documentText ('x' :: 'm' :: 'l' :: attributes) root fields) = true := by
    rw [shape]
    simp
  have behind : ∀ xml : Text, xml.dropWhile (· == '\uFEFF') = xml → "<?xml".toList.isPrefixOf xml = true →
      withEncodingDeclaration xml label =
        "<?xml".toList ++ " version=\"1.0\" encoding=\"".toList ++ label.toList ++ "\"?>\r\n".toList ++
          ((afterDeclaration xml).getD xml).dropWhile fun char => char == '\r' || char == '\n' := by
    intro xml same declared
    delta withEncodingDeclaration
    simp only [same, declared, if_true]
  have dropped : ('\r' :: '\n' :: block root (fields.flatMap Field.text)).dropWhile
      (fun char => char == '\r' || char == '\n') = block root (fields.flatMap Field.text) := rfl
  have opening : "<?xml".toList = "<?".toList ++ "xml".toList := by decide
  have closing : "\"?>\r\n".toList = "\"".toList ++ "?>\r\n".toList := by decide
  rw [behind _ start isDeclared, found, Option.getD_some, dropped, opening, closing]
  simp only [documentText, labelled, List.append_assoc]

theorem encode_append {codec : Codec} {fate : XmlEncoding → Char → Fate} (faithful : codec.Faithful fate)
    (encoding : XmlEncoding) {front : Text} (ascii : ∀ char ∈ front, char.toNat < 128) (rest : Text) :
    codec.encode encoding (front ++ rest) = front.map byte ++ codec.encode encoding rest := by
  induction front with
  | nil => rfl
  | cons char front ih =>
      rw [List.cons_append, faithful.encode_ascii encoding char _ (ascii char List.mem_cons_self),
        ih fun other member => ascii other (List.mem_cons_of_mem _ member), List.map_cons, List.cons_append]

theorem declares_append {label : String} {front : List UInt8} (rest : List UInt8)
    (short : front.length + label.toList.length ≤ 256)
    (isUpper : (label.toList.map byte).map upper = label.toList.map byte) :
    declares label (front ++ label.toList.map byte ++ rest) = true := by
  rw [declares, List.any_eq_true]
  refine ⟨label.toList.map byte ++ (rest.take (256 - (front.length + label.toList.length))).map upper, ?_, ?_⟩
  · rw [List.mem_tails]
    refine ⟨front.map upper, ?_⟩
    have whole : (front ++ label.toList.map byte).take 256 = front ++ label.toList.map byte :=
      List.take_of_length_le (by simpa using short)
    rw [List.take_append, whole, List.map_append, List.map_append, isUpper, List.length_append, List.length_map,
      List.append_assoc]
  · rw [List.isPrefixOf_iff_prefix]
    exact List.prefix_append ..

/-- The encoding that is detected reads as the one that has been written does. -/
theorem decode_detectEncoding {codec : Codec} {fate : XmlEncoding → Char → Fate} (faithful : codec.Faithful fate)
    {encoding : XmlEncoding} (notUtf8 : encoding ≠ .utf8) (root : String) (fields : List Field) :
    let xml := codec.encode encoding (documentText (labelled (declarationLabel encoding)) root fields)
    codec.decode (detectEncoding xml) xml = codec.decode encoding xml := by
  intro xml
  have front : ∀ label : String, (∀ char ∈ label.toList, char.toNat < 128) →
      codec.encode encoding (documentText (labelled label) root fields) =
        ("<?".toList ++ "xml".toList ++ " version=\"1.0\" encoding=\"".toList).map byte ++ label.toList.map byte ++
          codec.encode encoding ("\"".toList ++ "?>\r\n".toList ++ block root (fields.flatMap Field.text)) := by
    intro label ascii
    have split : documentText (labelled label) root fields =
        ("<?".toList ++ "xml".toList ++ " version=\"1.0\" encoding=\"".toList ++ label.toList) ++
          ("\"".toList ++ "?>\r\n".toList ++ block root (fields.flatMap Field.text)) := by
      simp only [documentText, labelled, List.append_assoc]
    rw [split, encode_append faithful encoding ?_, List.map_append]
    intro char member
    rcases List.mem_append.mp member with inFront | inLabel
    · have prologue : ∀ char ∈ "<?".toList ++ "xml".toList ++ " version=\"1.0\" encoding=\"".toList,
          char.toNat < 128 := by decide
      exact prologue char inFront
    · exact ascii char inLabel
  have gb18030 : ∀ other, declares "GB18030" other = true → detectEncoding other = .gb18030 :=
    fun other found => if_pos found
  cases encoding with
  | utf8 => exact absurd rfl notUtf8
  | gb18030 =>
      have found : declares "GB18030" xml = true := by
        rw [show xml = _ from front "GB18030" (by decide)]
        exact declares_append _ (by decide) (by decide)
      rw [gb18030 xml found]
  | gb2312 =>
      have found : declares "GB2312" xml = true := by
        rw [show xml = _ from front "GB2312" (by decide)]
        exact declares_append _ (by decide) (by decide)
      by_cases both : declares "GB18030" xml = true
      · rw [gb18030 xml both, faithful.gbk]
      · rw [detectEncoding, if_neg both, found, Bool.true_or, if_pos rfl]

/-! ## What the builders write -/

theorem replace_flatMap {ι : Type} (char : Char) (by' : String) (values : List ι) (text : ι → Text) :
    replace char by' (values.flatMap text) = values.flatMap fun value => replace char by' (text value) :=
  List.flatMap_assoc

theorem replace_singleton (char other : Char) (by' : String) :
    replace char by' [other] = if other = char then by'.toList else [other] :=
  List.flatMap_singleton _ _

theorem escape_singleton (char : Char) : escape (String.singleton char) = entity char := by
  by_cases special : char ∈ ['&', '<', '>', '"', '\'']
  · revert char
    decide
  · simp only [List.mem_cons, List.not_mem_nil, or_false, not_or] at special
    obtain ⟨amp, lt, gt, quot, apos⟩ := special
    simp only [escape, String.toList_singleton, replace_singleton, amp, lt, gt, quot, apos, if_false]
    unfold entity
    split <;> first
      | contradiction
      | rfl

theorem escape_eq (value : String) : escape value = value.toList.flatMap entity := by
  have single : value.toList = value.toList.flatMap fun char => [char] := (List.flatMap_singleton' _).symm
  have each : escape value = value.toList.flatMap fun char => escape (String.singleton char) := by
    simp only [escape, String.toList_singleton, ← replace_flatMap]
    rw [← single]
  rw [each]
  exact List.flatMap_congr fun char _ => escape_singleton char

theorem isDigit_of_mem_decimal {number : Nat} {char : Char} (member : char ∈ decimal number) :
    char.isDigit = true :=
  isDigit_of_mem_toDigits (by simpa [decimal, Nat.repr] using member)

theorem isAlphanum_of_mem_decimal {number : Nat} {char : Char} (member : char ∈ decimal number) :
    char.isAlphanum = true := by
  simp [Char.isAlphanum, isDigit_of_mem_decimal member]

theorem not_mem_decimal {number : Nat} {char : Char} (other : char.isDigit = false) : char ∉ decimal number :=
  fun member => by
    rw [isDigit_of_mem_decimal member] at other
    cases other

/-- A word of the protocol. -/
def Plain (word : String) : Prop := ∀ char ∈ word.toList, char.isAlphanum = true

instance (word : String) : Decidable (Plain word) := inferInstanceAs (Decidable (∀ char ∈ word.toList, _))

theorem Plain.not_mem {word : String} (plain : Plain word) {char : Char} (other : char.isAlphanum = false) :
    char ∉ word.toList := fun member => by
  rw [plain char member] at other
  cases other

theorem toNat_of_isAlphanum {char : Char} (isAlphanum : char.isAlphanum = true) : char.toNat < 128 := by
  simp only [Char.isAlphanum, Char.isAlpha, Char.isUpper, Char.isLower, Char.isDigit, Bool.or_eq_true,
    Bool.and_eq_true, decide_eq_true_eq] at isAlphanum
  rcases isAlphanum with (⟨-, le⟩ | ⟨-, le⟩) | ⟨-, le⟩ <;>
    exact Nat.lt_of_le_of_lt (UInt32.le_iff_toNat_le.mp le) (by decide)

/-! ## The messages -/

/-- What the node asks a device for, or tells it. -/
inductive DeviceMessage where
  | catalogQuery (deviceId : String) (sn : UInt32)
  | catalogSubscription (deviceId : String) (sn : UInt32) (startTime endTime : String)
  | deviceInfoQuery (deviceId : String) (sn : UInt32)
  | deviceStatusQuery (deviceId : String) (sn : UInt32)
  | configDownloadQuery (deviceId : String) (sn : UInt32) (configType : String)
  | ptzPositionQuery (deviceId : String) (sn : UInt32)
  | cruiseTrackListQuery (deviceId : String) (sn : UInt32)
  | cruiseTrackQuery (deviceId : String) (sn number : UInt32)
  | broadcastNotify (targetId : String) (sn : UInt32) (sourceId : String)
  | recordInfoQuery (deviceId : String) (sn : UInt32) (startTime endTime : String)
  | ptzControl (channelId : String) (sn : UInt32) (command : String)
  | presetQuery (deviceId : String)
  | snapshotControl (channelId : String) (count interval : UInt8) (url sessionId : String)
  deriving DecidableEq, Repr

namespace DeviceMessage

def body : DeviceMessage → Text
  | catalogQuery deviceId sn => buildCatalogQuery sn deviceId
  | catalogSubscription deviceId sn startTime endTime => buildCatalogSubscription sn deviceId startTime endTime
  | deviceInfoQuery deviceId sn => buildDeviceInfoQuery sn deviceId
  | deviceStatusQuery deviceId sn => buildDeviceStatusQuery sn deviceId
  | configDownloadQuery deviceId sn configType => buildConfigDownloadQuery sn deviceId configType
  | ptzPositionQuery deviceId sn => buildPtzPositionQuery sn deviceId
  | cruiseTrackListQuery deviceId sn => buildCruiseTrackListQuery sn deviceId
  | cruiseTrackQuery deviceId sn number => buildCruiseTrackQuery sn deviceId number
  | broadcastNotify targetId sn sourceId => buildBroadcastNotify sn sourceId targetId
  | recordInfoQuery deviceId sn startTime endTime => buildRecordInfoQuery sn deviceId startTime endTime
  | ptzControl channelId sn command => buildPtzControl sn channelId command
  | presetQuery deviceId => buildPresetQueryXml deviceId
  | snapshotControl channelId count interval url sessionId =>
      buildSnapshotControlXml channelId count interval url sessionId

/-- The fields of a query. -/
def query (cmdType sn deviceId : String) (others : List (String × String)) : List (List String × String) :=
  ([("CmdType", cmdType), ("SN", sn), ("DeviceID", deviceId)] ++ others).map fun entry => (["Query", entry.1], entry.2)

/-- The fields that a message tells, in order, under their paths. -/
def fields : DeviceMessage → List (List String × String)
  | catalogQuery deviceId sn => query "Catalog" (toString sn.toNat) deviceId []
  | catalogSubscription deviceId sn startTime endTime =>
      query "Catalog" (toString sn.toNat) deviceId [("StartTime", startTime), ("EndTime", endTime)]
  | deviceInfoQuery deviceId sn => query "DeviceInfo" (toString sn.toNat) deviceId []
  | deviceStatusQuery deviceId sn => query "DeviceStatus" (toString sn.toNat) deviceId []
  | configDownloadQuery deviceId sn configType =>
      query "ConfigDownload" (toString sn.toNat) deviceId [("ConfigType", configType)]
  | ptzPositionQuery deviceId sn => query "PTZPosition" (toString sn.toNat) deviceId []
  | cruiseTrackListQuery deviceId sn => query "CruiseTrackListQuery" (toString sn.toNat) deviceId []
  | cruiseTrackQuery deviceId sn number =>
      query "CruiseTrackQuery" (toString sn.toNat) deviceId [("Number", toString number.toNat)]
  | broadcastNotify targetId sn sourceId =>
      [(["Notify", "CmdType"], "Broadcast"), (["Notify", "SN"], toString sn.toNat), (["Notify", "SourceID"], sourceId),
        (["Notify", "TargetID"], targetId)]
  | recordInfoQuery deviceId sn startTime endTime =>
      query "RecordInfo" (toString sn.toNat) deviceId
        [("StartTime", startTime), ("EndTime", endTime), ("Secrecy", "0"), ("Type", "all")]
  | ptzControl channelId sn command =>
      [(["Control", "CmdType"], "DeviceControl"), (["Control", "SN"], toString sn.toNat),
        (["Control", "DeviceID"], channelId), (["Control", "PTZCmd"], command),
        (["Control", "Info", "ControlPriority"], "5")]
  | presetQuery deviceId => query "PresetQuery" "1" deviceId []
  | snapshotControl channelId count interval url sessionId =>
      [(["Control", "CmdType"], "DeviceConfig"), (["Control", "SN"], "1"), (["Control", "DeviceID"], channelId),
        (["Control", "SnapShotConfig", "SnapNum"], toString count.toNat),
        (["Control", "SnapShotConfig", "Interval"], toString interval.toNat),
        (["Control", "SnapShotConfig", "UploadURL"], url), (["Control", "SnapShotConfig", "SessionID"], sessionId)]

end DeviceMessage

/-- The texts that fields leave: a blank one leaves none. -/
def textsOf (fields : List (List String × String)) : List Xml.Text :=
  fields.flatMap fun field => textAt field.1 field.2

/-- A text of a document and the value that it has been written for. -/
inductive Writes : Text → String → Prop where
  | word {word : String} (plain : Plain word) : Writes word.toList word
  | number (number : Nat) : Writes (decimal number) (toString number)
  | given (value : String) : Writes (escape value) value

/-- The lines of a document below a path, and the fields that they tell: each text is for its value. -/
inductive Tells (isFor : Text → String → Prop) : List String → List Field → List (List String × String) → Prop where
  | nil {path : List String} : Tells isFor path [] []
  | leaf {path : List String} {name value : String} {raw : Text} {content : List Field}
      {fields : List (List String × String)} (isName' : isName name.toList = true) (here : isFor raw value)
      (others : Tells isFor path content fields) :
      Tells isFor path (.leaf name raw :: content) ((path ++ [name], value) :: fields)
  | group {path below : List String} {name : String} {leaves : List (String × Text)} {lines content : List Field}
      {inner fields : List (List String × String)} (isName' : isName name.toList = true)
      (inside : Tells isFor below lines inner) (isBelow : below = path ++ [name])
      (areLines : lines = leaves.map fun entry => .leaf entry.1 entry.2) (others : Tells isFor path content fields) :
      Tells isFor path (.group name leaves :: content) (inner ++ fields)

section

variable {path : List String} {content : List Field} {fields : List (List String × String)}

theorem Tells.named {isFor : Text → String → Prop} (tells : Tells isFor path content fields) :
    ∀ field ∈ content, field.Named := by
  induction tells with
  | nil => exact fun field member => (List.not_mem_nil member).elim
  | leaf isName' here others ih => exact List.forall_mem_cons.mpr ⟨isName', ih⟩
  | group isName' inside isBelow areLines others inner ih =>
      refine List.forall_mem_cons.mpr ⟨⟨isName', fun entry member => ?_⟩, ih⟩
      exact inner (.leaf entry.1 entry.2) (areLines ▸ List.mem_map.mpr ⟨entry, member, rfl⟩)

/-- The lines with their texts written anew. -/
theorem Tells.put {isFor isPut : Text → String → Prop} {write : Char → Text}
    (tells : Tells isFor path content fields)
    (each : ∀ raw value, isFor raw value → isPut (raw.flatMap write) value) :
    Tells isPut path (content.map (Field.put write)) fields := by
  induction tells with
  | nil => exact .nil
  | leaf isName' here others ih => exact .leaf isName' (each _ _ here) ih
  | group isName' inside isBelow areLines others inner ih =>
      refine .group isName' inner isBelow ?_ ih
      rw [areLines, List.map_map, List.map_map]
      rfl

/-- A text that is read as a value. -/
def Stands (raw : Text) (value : String) : Prop := '<' ∉ raw ∧ unescape raw = some value.toList

theorem Stands.textOf {raw : Text} {value : String} (stands : Stands raw value) : textOf raw = value := by
  rw [XmlDocuments.textOf, stands.2, Option.getD_some, String.ofList_toList]

theorem Tells.readable (tells : Tells Stands path content fields) : ∀ field ∈ content, field.Readable := by
  have readable {raw : Text} {value : String} (stands : Stands raw value) : Readable raw :=
    ⟨stands.1, by rw [stands.2]; rfl⟩
  induction tells with
  | nil => exact fun field member => (List.not_mem_nil member).elim
  | leaf isName' stands others ih => exact List.forall_mem_cons.mpr ⟨⟨isName', readable stands⟩, ih⟩
  | group isName' inside isBelow areLines others inner ih =>
      refine List.forall_mem_cons.mpr ⟨⟨isName', fun entry member => ?_⟩, ih⟩
      exact inner (.leaf entry.1 entry.2) (areLines ▸ List.mem_map.mpr ⟨entry, member, rfl⟩)

theorem Tells.found (tells : Tells Stands path content fields) :
    content.flatMap (Field.found path) = textsOf fields := by
  induction tells with
  | nil => rfl
  | leaf isName' stands others ih =>
      rw [List.flatMap_cons, ih, Field.found, stands.textOf]
      rfl
  | group isName' inside isBelow areLines others inner ih =>
      rw [areLines, isBelow, List.flatMap_map] at inner
      rw [List.flatMap_cons, ih, textsOf, textsOf, List.flatMap_append]
      exact congrArg (· ++ textsOf _) inner

end

/-! ## What the encodings put in -/

/-- Characters are written as they are, or as references where they are not of ASCII. -/
def Referring (write : Char → Text) : Prop :=
  ∀ char, write char = [char] ∨ 128 ≤ char.toNat ∧ write char = reference char

section

variable {write : Char → Text}

theorem Referring.ascii (referring : Referring write) {text : Text} (ascii : ∀ char ∈ text, char.toNat < 128) :
    text.flatMap write = text := by
  have each : ∀ char ∈ text, write char = [char] := fun char member =>
    (referring char).resolve_right fun large => absurd (ascii char member) (Nat.not_lt.mpr large.1)
  rw [List.flatMap_congr each, List.flatMap_singleton']

theorem Referring.not_mem (referring : Referring write) {text : Text} (free : '<' ∉ text) :
    '<' ∉ text.flatMap write := by
  intro member
  obtain ⟨char, inText, written⟩ := List.mem_flatMap.mp member
  rcases referring char with same | ⟨-, isReference⟩
  · rw [same] at written
    exact free (List.mem_singleton.mp written ▸ inText)
  · rw [isReference] at written
    exact not_mem_reference char written

theorem entity_of_large {char : Char} (large : 128 ≤ char.toNat) : entity char = [char] := by
  unfold entity
  split
  case h_6 => rfl
  all_goals exact absurd large (by decide)

theorem unescape_written (referring : Referring write) (char : Char) (rest : Text) :
    unescape ((entity char).flatMap write ++ rest) = (unescape rest).map (char :: ·) := by
  by_cases large : 128 ≤ char.toNat
  · rw [entity_of_large large, List.flatMap_singleton]
    rcases referring char with same | ⟨-, isReference⟩
    · rw [same, ← entity_of_large large, unescape_entity]
    · rw [isReference, unescape_reference (by omega)]
  · have ascii : ∀ part ∈ entity char, part.toNat < 128 := fun part member =>
      (mem_entity member).elim (fun same => same ▸ Nat.not_le.mp large) id
    rw [referring.ascii ascii, unescape_entity]

theorem Writes.stands {raw : Text} {value : String} (writes : Writes raw value) (referring : Referring write) :
    Stands (raw.flatMap write) value := by
  cases writes with
  | word plain =>
      rw [referring.ascii fun char member => toNat_of_isAlphanum (plain char member)]
      exact ⟨plain.not_mem (by decide), unescape_plain (plain.not_mem (by decide))⟩
  | number number =>
      rw [referring.ascii fun char member => toNat_of_isAlphanum (isAlphanum_of_mem_decimal member)]
      refine ⟨not_mem_decimal (by decide), ?_⟩
      rw [unescape_plain (not_mem_decimal (by decide)), decimal]
  | given value =>
      rw [escape_eq]
      constructor
      · refine referring.not_mem fun member => ?_
        obtain ⟨char, -, inEntity⟩ := List.mem_flatMap.mp member
        exact not_mem_entity char inEntity
      · rw [List.flatMap_assoc]
        exact unescape_flatMap fun char _ => unescape_written referring char

/-! A document keeps its markup. -/

theorem Referring.name (referring : Referring write) {name : String} (isName' : isName name.toList = true) :
    name.toList.flatMap write = name.toList :=
  referring.ascii fun char member => toNat_of_isAlphanum (isAlphanum_of_isName isName' char member)

theorem Referring.leaf (referring : Referring write) {name : String} (isName' : isName name.toList = true)
    (raw : Text) : (leaf name raw).flatMap write = leaf name (raw.flatMap write) := by
  have opening := @Referring.ascii write referring "<".toList (by decide)
  have middle := @Referring.ascii write referring ">".toList (by decide)
  have closing := @Referring.ascii write referring "</".toList (by decide)
  have last := @Referring.ascii write referring ">\r\n".toList (by decide)
  simp only [XmlDocuments.leaf, List.flatMap_append, referring.name isName', opening, middle, closing, last]

theorem Referring.block (referring : Referring write) {name : String} (isName' : isName name.toList = true)
    (lines : Text) : (block name lines).flatMap write = block name (lines.flatMap write) := by
  have opening := @Referring.ascii write referring "<".toList (by decide)
  have closing := @Referring.ascii write referring "</".toList (by decide)
  have last := @Referring.ascii write referring ">\r\n".toList (by decide)
  simp only [XmlDocuments.block, List.flatMap_append, referring.name isName', opening, closing, last]

theorem Referring.field (referring : Referring write) {field : Field} (named : field.Named) :
    field.text.flatMap write = (field.put write).text := by
  cases field with
  | leaf name raw => exact referring.leaf named raw
  | group name leaves =>
      rw [Field.text, referring.block named.1, List.flatMap_assoc, Field.put, Field.text, List.flatMap_map]
      exact congrArg (XmlDocuments.block name)
        (List.flatMap_congr fun entry member => referring.leaf (named.2 entry member) entry.2)

theorem Referring.documentText (referring : Referring write) {declaration : Text} {root : String}
    {content : List Field} (ascii : ∀ char ∈ declaration, char.toNat < 128) (rootName : isName root.toList = true)
    (named : ∀ field ∈ content, field.Named) :
    (documentText declaration root content).flatMap write =
      documentText declaration root (content.map (Field.put write)) := by
  have lines : (content.flatMap Field.text).flatMap write = (content.map (Field.put write)).flatMap Field.text := by
    rw [List.flatMap_assoc, List.flatMap_map]
    exact List.flatMap_congr fun field member => referring.field (named field member)
  simp only [XmlDocuments.documentText, List.flatMap_append, referring.ascii ascii, referring.block rootName, lines]
  rw [referring.ascii (by decide), referring.ascii (by decide)]

end

/-! ## What the builders tell -/

theorem tells_query {cmdType : String} {raw : Text} {sn deviceId : String} {number : Text} {extra : List Field}
    {others : List (String × String)} (cmd : Writes raw cmdType) (numbered : Writes number sn)
    (rest : Tells Writes ["Query"] extra (others.map fun entry => (["Query", entry.1], entry.2))) :
    Tells Writes ["Query"]
      ([.leaf "CmdType" raw, .leaf "SN" number, .leaf "DeviceID" (escape deviceId)] ++ extra)
      (DeviceMessage.query cmdType sn deviceId others) :=
  .leaf (by decide) cmd (.leaf (by decide) numbered (.leaf (by decide) (.given deviceId) rest))

/-- A builder's text as a document. -/
structure Builds (message : DeviceMessage) (attributes : Text) (root : String) (content : List Field) : Prop where
  body : message.body = documentText ('x' :: 'm' :: 'l' :: attributes) root content
  plain : '?' ∉ attributes
  rootName : isName root.toList = true
  tells : Tells Writes [root] content message.fields

theorem builds_gb2312 {message : DeviceMessage} {root : String} {content : List Field}
    (body : message.body = documentText gb2312Declaration root content) (rootName : isName root.toList = true)
    (tells : Tells Writes [root] content message.fields) :
    ∃ attributes root content, Builds message attributes root content :=
  ⟨" version=\"1.0\" encoding=\"GB2312\"".toList, root, content, body, by decide, rootName, tells⟩

theorem builds_message (message : DeviceMessage) :
    ∃ attributes root content, Builds message attributes root content := by
  cases message with
  | catalogQuery deviceId sn =>
      exact builds_gb2312 rfl (by decide) (tells_query (.word (by decide)) (.number _) .nil)
  | catalogSubscription deviceId sn startTime endTime =>
      exact builds_gb2312 rfl (by decide) (tells_query (.word (by decide)) (.number _)
        (.leaf (by decide) (.given _) (.leaf (by decide) (.given _) .nil)))
  | deviceInfoQuery deviceId sn =>
      exact builds_gb2312 rfl (by decide) (tells_query (.word (by decide)) (.number _) .nil)
  | deviceStatusQuery deviceId sn =>
      exact builds_gb2312 rfl (by decide) (tells_query (.given _) (.number _) .nil)
  | configDownloadQuery deviceId sn configType =>
      exact builds_gb2312 rfl (by decide) (tells_query (.given _) (.number _)
        (.leaf (by decide) (.given _) .nil))
  | ptzPositionQuery deviceId sn =>
      exact builds_gb2312 rfl (by decide) (tells_query (.given _) (.number _) .nil)
  | cruiseTrackListQuery deviceId sn =>
      exact builds_gb2312 rfl (by decide) (tells_query (.given _) (.number _) .nil)
  | cruiseTrackQuery deviceId sn number =>
      exact builds_gb2312 rfl (by decide) (tells_query (.given _) (.number _)
        (.leaf (by decide) (.number _) .nil))
  | broadcastNotify targetId sn sourceId =>
      exact builds_gb2312 rfl (by decide) (.leaf (by decide) (.word (by decide)) (.leaf (by decide) (.number _)
        (.leaf (by decide) (.given _) (.leaf (by decide) (.given _) .nil))))
  | recordInfoQuery deviceId sn startTime endTime =>
      exact builds_gb2312 rfl (by decide) (tells_query (.word (by decide)) (.number _)
        (.leaf (by decide) (.given _) (.leaf (by decide) (.given _) (.leaf (by decide) (.word (by decide))
          (.leaf (by decide) (.word (by decide)) .nil)))))
  | ptzControl channelId sn command =>
      have info : Tells Writes ["Control", "Info"] [.leaf "ControlPriority" "5".toList] _ :=
        .leaf (by decide) (.word (by decide)) .nil
      exact builds_gb2312 rfl (by decide) (.leaf (by decide) (.word (by decide)) (.leaf (by decide) (.number _)
        (.leaf (by decide) (.given _) (.leaf (by decide) (.given _)
          (.group (by decide) info rfl rfl .nil)))))
  | presetQuery deviceId =>
      exact builds_gb2312 rfl (by decide) (tells_query (.word (by decide)) (.word (by decide)) .nil)
  | snapshotControl channelId count interval url sessionId =>
      have config : Tells Writes ["Control", "SnapShotConfig"]
          [.leaf "SnapNum" (decimal count.toNat), .leaf "Interval" (decimal interval.toNat),
            .leaf "UploadURL" (escape url), .leaf "SessionID" (escape sessionId)] _ :=
        .leaf (by decide) (.number _) (.leaf (by decide) (.number _) (.leaf (by decide) (.given _)
          (.leaf (by decide) (.given _) .nil)))
      exact ⟨" version=\"1.0\"".toList, "Control", _, rfl, by decide, by decide,
        .leaf (by decide) (.word (by decide)) (.leaf (by decide) (.word (by decide)) (.leaf (by decide) (.given _)
          (.group (by decide) config rfl rfl .nil)))⟩

/-! ## Every document is read back -/

/-- A character of ASCII, or one of the values. -/
def Known (fields : List (List String × String)) (char : Char) : Prop :=
  char.toNat < 128 ∨ ∃ field ∈ fields, char ∈ field.2.toList

theorem known_of_writes {raw : Text} {value : String} (writes : Writes raw value) {char : Char} (member : char ∈ raw) :
    char.toNat < 128 ∨ char ∈ value.toList := by
  cases writes with
  | word plain => exact Or.inr member
  | number number =>
      exact Or.inl (toNat_of_isAlphanum (isAlphanum_of_mem_decimal member))
  | given value =>
      rw [escape_eq] at member
      obtain ⟨part, isPart, inEntity⟩ := List.mem_flatMap.mp member
      rcases mem_entity inEntity with same | ascii
      · exact Or.inr (same ▸ isPart)
      · exact Or.inl ascii

section

variable {fields : List (List String × String)}

theorem known_ascii {text : Text} (ascii : ∀ char ∈ text, char.toNat < 128) : ∀ char ∈ text, Known fields char :=
  fun char member => Or.inl (ascii char member)

theorem known_name {name : String} (isName' : isName name.toList = true) : ∀ char ∈ name.toList, Known fields char :=
  known_ascii fun char member => toNat_of_isAlphanum (isAlphanum_of_isName isName' char member)

theorem known_leaf {path : List String} {name value : String} {raw : Text} (isName' : isName name.toList = true)
    (writes : Writes raw value) (isField : (path, value) ∈ fields) : ∀ char ∈ leaf name raw, Known fields char := by
  have inRaw : ∀ char ∈ raw, Known fields char := fun char member =>
    (known_of_writes writes member).imp_right fun inValue => ⟨(path, value), isField, inValue⟩
  simp only [leaf, List.forall_mem_append]
  exact ⟨⟨⟨⟨⟨⟨known_ascii (by decide), known_name isName'⟩, known_ascii (by decide)⟩, inRaw⟩,
    known_ascii (by decide)⟩, known_name isName'⟩, known_ascii (by decide)⟩

theorem known_block {name : String} {lines : Text} (isName' : isName name.toList = true)
    (inside : ∀ char ∈ lines, Known fields char) : ∀ char ∈ block name lines, Known fields char := by
  simp only [block, List.forall_mem_append]
  exact ⟨⟨⟨⟨⟨⟨known_ascii (by decide), known_name isName'⟩, known_ascii (by decide)⟩, inside⟩,
    known_ascii (by decide)⟩, known_name isName'⟩, known_ascii (by decide)⟩

theorem Known.mono {char : Char} {others : List (List String × String)} (known : Known fields char)
    (more : fields ⊆ others) : Known others char :=
  known.imp_right fun ⟨field, member, inValue⟩ => ⟨field, more member, inValue⟩

theorem Tells.known {path : List String} {content : List Field} (tells : Tells Writes path content fields) :
    ∀ char ∈ content.flatMap Field.text, Known fields char := by
  induction tells with
  | nil => exact fun char member => (List.not_mem_nil member).elim
  | leaf isName' writes others ih =>
      rw [List.flatMap_cons, List.forall_mem_append]
      exact ⟨known_leaf isName' writes List.mem_cons_self, fun char member =>
        (ih char member).mono (List.subset_cons_self ..)⟩
  | group isName' inside isBelow areLines others inner ih =>
      rw [areLines, List.flatMap_map] at inner
      rw [List.flatMap_cons, List.forall_mem_append]
      refine ⟨known_block isName' fun char member => ?_, fun char member => ?_⟩
      · exact (inner char member).mono (List.subset_append_left ..)
      · exact (ih char member).mono (List.subset_append_right ..)

end

theorem known_labelled {fields : List (List String × String)} {label : String}
    (ascii : ∀ char ∈ label.toList, char.toNat < 128) : ∀ char ∈ labelled label, Known fields char := by
  simp only [labelled, List.forall_mem_append]
  exact ⟨⟨⟨known_ascii (by decide), known_ascii (by decide)⟩, known_ascii ascii⟩, known_ascii (by decide)⟩

theorem plain_labelled (encoding : XmlEncoding) :
    ∀ char ∈ labelled (declarationLabel encoding), char ≠ '<' ∧ char ≠ '>' ∧ char ≠ '?' := by
  cases encoding <;> decide

theorem Codec.Faithful.referring {codec : Codec} {fate : XmlEncoding → Char → Fate} (faithful : codec.Faithful fate)
    (encoding : XmlEncoding) : Referring fun char => (fate encoding char).put char := by
  intro char
  dsimp only
  by_cases large : 128 ≤ char.toNat
  · cases isFate : fate encoding char with
    | kept => exact Or.inl rfl
    | referenced => exact Or.inr ⟨large, rfl⟩
    | changed => exact Or.inl rfl
  · rw [faithful.ascii encoding char (Nat.not_le.mp large)]
    exact Or.inl rfl

/-- A document that a builder writes is sent and read back. -/
theorem Builds.readItems {message : DeviceMessage} {attributes : Text} {root : String} {content : List Field}
    (builds : Builds message attributes root content) {codec : Codec} {fate : XmlEncoding → Char → Fate}
    {read : Reader} (faithful : codec.Faithful fate) (reads : ReadsMarkup read) (gbVersion : Option String)
    (unchanged : ∀ field ∈ message.fields, ∀ char ∈ field.2.toList, fate (versionEncoding gbVersion) char ≠ .changed) :
    readItems codec read (encodeDocument codec message.body gbVersion) = some (marked 0 (textsOf message.fields)) := by
  have notUtf8 : versionEncoding gbVersion ≠ .utf8 := by
    rw [versionEncoding]
    split <;> decide
  have label : ∀ char ∈ (declarationLabel (versionEncoding gbVersion)).toList, char.toNat < 128 := by
    cases versionEncoding gbVersion <;> decide
  have declared : ∀ char ∈ labelled (declarationLabel (versionEncoding gbVersion)), char.toNat < 128 := by
    cases versionEncoding gbVersion <;> decide
  -- what is sent is the builder's document under the declaration of its encoding
  have sent : encodeDocument codec message.body gbVersion =
      codec.encode (versionEncoding gbVersion)
        (documentText (labelled (declarationLabel (versionEncoding gbVersion))) root content) := by
    rw [encodeDocument, builds.body, withEncodingDeclaration_documentText _ builds.plain]
  have known : ∀ char ∈ documentText (labelled (declarationLabel (versionEncoding gbVersion))) root content,
      Known message.fields char := by
    simp only [documentText, List.forall_mem_append]
    exact ⟨⟨⟨known_ascii (by decide), known_labelled label⟩, known_ascii (by decide)⟩,
      known_block builds.rootName builds.tells.known⟩
  have decoded := faithful.decode_encode (versionEncoding gbVersion)
    (documentText (labelled (declarationLabel (versionEncoding gbVersion))) root content) (by simp [documentText])
    (fun char member => (known char member).elim (fun ascii => by rw [faithful.ascii _ char ascii]; decide)
      fun ⟨field, isField, inValue⟩ => unchanged field isField char inValue)
  -- what is decoded is that document with references in its texts
  have referring := faithful.referring (versionEncoding gbVersion)
  have tells := builds.tells.put fun raw value writes => Writes.stands writes referring
  rw [referring.documentText declared builds.rootName builds.tells.named] at decoded
  rw [XmlDocuments.readItems, sent, decode_detectEncoding faithful notUtf8, decoded, Option.bind_some,
    ← render_documentOf,
    parseItems_documentOf reads (wellFormed_documentOf (plain_labelled _) builds.rootName tells.readable), tells.found]

/-- Whatever the fields of a message hold that the encoding of the device's version does not read back as something
else, the document that the device gets is read back as these fields, trimmed and without the blank ones: no text
is taken for markup, the references that are put in are resolved, and the encoding is found. -/
theorem documents_read_back {codec : Codec} {fate : XmlEncoding → Char → Fate} {read : Reader}
    (faithful : codec.Faithful fate) (reads : ReadsMarkup read) (message : DeviceMessage) (gbVersion : Option String)
    (unchanged : ∀ field ∈ message.fields, ∀ char ∈ field.2.toList, fate (versionEncoding gbVersion) char ≠ .changed) :
    readItems codec read (encodeDocument codec message.body gbVersion) = some (marked 0 (textsOf message.fields)) := by
  obtain ⟨attributes, root, content, builds⟩ := builds_message message
  exact builds.readItems faithful reads gbVersion unchanged

/-! ## A codec and a reader -/

/-- The bytes of ASCII, and references for all other characters. -/
def asciiFate (_ : XmlEncoding) (char : Char) : Fate := if char.toNat < 128 then .kept else .referenced

def asciiCodec : Codec where
  encode encoding text := (text.flatMap fun char => (asciiFate encoding char).put char).map byte
  decode _ bytes := some (bytes.map fun byte => Char.ofNat byte.toNat)

theorem ofNat_byte {char : Char} (ascii : char.toNat < 128) : Char.ofNat (byte char).toNat = char := by
  rw [byte, UInt8.toNat_ofNat', Nat.mod_eq_of_lt (by omega), Char.ofNat_toNat]

theorem ascii_put (encoding : XmlEncoding) (char : Char) :
    ∀ part ∈ (asciiFate encoding char).put char, part.toNat < 128 := by
  intro part member
  rw [asciiFate] at member
  split at member
  · rename_i ascii
    rwa [List.mem_singleton.mp member]
  · rcases List.mem_cons.mp member with rfl | member
    · decide
    · rcases List.mem_cons.mp member with rfl | member
      · decide
      · rcases List.mem_append.mp member with digit | last
        · exact toNat_of_isAlphanum (by simp [Char.isAlphanum, isDigit_of_mem_toDigits digit])
        · rw [List.mem_singleton.mp last]
          decide

theorem asciiCodec_faithful : asciiCodec.Faithful asciiFate where
  ascii _ _ small := if_pos small
  encode_ascii encoding char text small := by
    simp only [asciiCodec, List.flatMap_cons, asciiFate, if_pos small, Fate.put, List.map_cons, List.cons_append,
      List.nil_append]
  decode_encode encoding text _ _ := by
    have same : ∀ part ∈ text.flatMap fun char => (asciiFate encoding char).put char,
        Char.ofNat (byte part).toNat = part := by
      intro part member
      obtain ⟨char, -, written⟩ := List.mem_flatMap.mp member
      exact ofNat_byte (ascii_put encoding char part written)
    simp only [asciiCodec, List.map_map, Option.some.injEq]
    exact (List.map_congr_left same).trans (List.map_id' _)
  gbk := rfl

def scanTag : Text → Event
  | '?' :: _ => .other
  | '/' :: _ => .stop
  | name => .start (String.ofList name)

/-- The events of what stands between two opening brackets. -/
def scanSegment (segment : Text) : Option (List Event) :=
  (unescape (segment.dropWhile (· != '>')).tail).map fun value =>
    scanTag (segment.takeWhile (· != '>')) ::
      if trim (String.ofList value) = "" then [] else [.text (String.ofList value)]

def scanRead : Reader := fun text => ((text.splitOn '<').tail.mapM scanSegment).map List.flatten

theorem scanSegment_append {inside after value : Text} (free : '>' ∉ inside) (isValue : unescape after = some value) :
    scanSegment (inside ++ '>' :: after) =
      some (scanTag inside :: if trim (String.ofList value) = "" then [] else [.text (String.ofList value)]) := by
  obtain ⟨front, back⟩ := cut_append free after
  rw [scanSegment, front, back, isValue, Option.map_some]

theorem scanTag_inside {tag : Tag} (isName' : ∀ name, tag = .opening name → isName name = true) :
    scanTag tag.inside = tagEvent tag := by
  cases tag with
  | closing name => rfl
  | opening name =>
      have alphanum := isAlphanum_of_isName (isName' name rfl)
      cases name with
      | nil => rfl
      | cons char rest =>
          have first := alphanum char List.mem_cons_self
          rw [Tag.inside, scanTag.eq_def]
          split
          · next same => cases same; exact absurd first (by decide)
          · next same => cases same; exact absurd first (by decide)
          · rfl

theorem delivers_scan {marks : List Mark}
    (each : ∀ mark ∈ marks, scanTag mark.tag.inside = tagEvent mark.tag ∧ '>' ∉ mark.tag.inside ∧
      (unescape mark.after).isSome = true) :
    ∃ events, (marks.map Mark.segment).mapM scanSegment = some events ∧ Delivers marks events.flatten := by
  induction marks with
  | nil => exact ⟨[], rfl, .nil⟩
  | cons mark rest ih =>
      obtain ⟨sameTag, free, isSome⟩ := each mark List.mem_cons_self
      obtain ⟨value, isValue⟩ := Option.isSome_iff_exists.mp isSome
      obtain ⟨events, isRest, delivers⟩ := ih fun other member => each other (List.mem_cons_of_mem _ member)
      have isText : textOf mark.after = String.ofList value := by rw [textOf, isValue, Option.getD_some]
      have here := scanSegment_append free isValue
      rw [sameTag] at here
      refine ⟨_, by rw [List.map_cons, List.mapM_cons, Mark.segment, here, isRest]; rfl, ?_⟩
      rw [List.flatten_cons]
      split
      · next blank => exact .blank (by rw [isText, blank]) delivers
      · exact .text (by rw [isText]) delivers

theorem trim_of_spaces {text : Text} (spaces : text.all isSpace = true) : trim (String.ofList text) = "" := by
  have white : ∀ char ∈ text, Xml.isWhitespace char = true := fun char member => by
    have isOne := List.all_eq_true.mp spaces char member
    simp only [isSpace, Bool.or_eq_true, beq_iff_eq] at isOne
    rcases isOne with ((rfl | rfl) | rfl) | rfl <;> decide
  have dropped : text.dropWhile Xml.isWhitespace = [] := List.dropWhile_eq_nil_iff.mpr white
  simp [trim, dropped]

theorem scanRead_reads : ReadsMarkup scanRead := by
  intro document wellFormed
  have marks := segments_of_nested wellFormed.nested fun name member => (List.not_mem_nil member).elim
  obtain ⟨events, isRest, delivers⟩ := delivers_scan fun mark member => by
    obtain ⟨-, free, isSome, opened⟩ := marks mark member
    exact ⟨scanTag_inside opened, free, isSome⟩
  have first : scanSegment document.segment = some [.other] := by
    have free : '>' ∉ '?' :: document.declaration ++ ['?'] := by
      have inside : '>' ∉ document.declaration := fun member => (wellFormed.declaration _ member).2.1 rfl
      simp [inside]
    have plain : '&' ∉ document.after := fun member => by
      have isOne := List.all_eq_true.mp wellFormed.after _ member
      exact absurd isOne (by decide)
    have cut := scanSegment_append free (unescape_plain plain)
    rw [if_pos (trim_of_spaces wellFormed.after)] at cut
    have parts : document.segment = ('?' :: document.declaration ++ ['?']) ++ '>' :: document.after := by
      simp [Document.segment]
    rw [parts, cut]
    rfl
  refine ⟨events.flatten, ?_, delivers⟩
  rw [scanRead, splitOn_render wellFormed, List.tail_cons, List.mapM_cons, first, isRest]
  rfl

/-- A channel id with the characters of markup, and with one that GBK lacks. -/
theorem documents_read_back_preset :
    readItems asciiCodec scanRead (encodeDocument asciiCodec (DeviceMessage.presetQuery "<1&'2'>😀").body none) =
      some (marked 0 (textsOf (DeviceMessage.presetQuery "<1&'2'>😀").fields)) :=
  documents_read_back asciiCodec_faithful scanRead_reads (.presetQuery "<1&'2'>😀") none (by decide)

end Gmv.Session.XmlDocuments
