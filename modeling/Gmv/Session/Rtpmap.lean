import Gmv.Library.Decimal
import Gmv.Session.SdpText
import Mathlib.Data.List.DropRight

/-!
# The rtpmap lines of a talk

The answer to a talk says with an `a=rtpmap:` line for its payload type which codec and which rate
are to be sent.  The session looks for the line by the text up to the number, and so takes the
beginning of a longer number for the number.
-/

namespace Gmv.Session.Rtpmap

open Gmv.Library
open BroadcastWait (stripPrefix)
open DeviceChannel (parseUnsigned)

section

variable (upper : Char → List Char)

/-! ## The search -/

/-- `str::to_uppercase`: every character is mapped on its own, to one or more. -/
def toUppercase (text : String) : String := String.ofList (text.toList.flatMap upper)

/-- The codec and the rate of the text behind the number. -/
def codecAndRate (rest : String) : Option (String × Nat) :=
  match Sdp.split '/' rest with
  | [] => none
  | codec :: parts =>
      let sampleRate :=
        match parts.head?.bind fun value => parseUnsigned 4294967295 (Xml.trim value) with
        | some rate => rate
        | none => 8000
      some (toUppercase upper (Xml.trim codec), sampleRate)

def numberPrefix (payloadType : UInt8) : String := "a=rtpmap:" ++ toString payloadType.toNat

def trimmedLines (sdp : String) : List String := (Sdp.lines sdp).map Xml.trim

/-- What is behind the prefix, spaces and colons in front apart. -/
def behind (rest : String) : String := Xml.trim (Sdp.trimStartMatches [' ', ':'] rest)

def parseRtpmapFromSdp (sdp : String) (payloadType : UInt8) : Option (String × Nat) :=
  ((trimmedLines sdp).findSome? (stripPrefix (numberPrefix payloadType))).bind fun rest =>
    codecAndRate upper (behind rest)

/-! ## What the lines say -/

/-- A line `a=rtpmap:<n> <codec>/<rate>`: the number, and the text behind it. -/
def readRtpmap (line : String) : Option (Nat × String) :=
  (stripPrefix "a=rtpmap:" line).bind fun text =>
    let start := text.toList.dropWhile Xml.isWhitespace
    let digits := start.takeWhile Char.isDigit
    let rest := start.dropWhile Char.isDigit
    if digits ≠ [] ∧ rest.head?.any Xml.isWhitespace then
      some (Decimal.value digits, Xml.trim (String.ofList rest))
    else none

/-- The text behind the number, in a line for the payload type. -/
def readFor (payloadType : UInt8) (line : String) : Option String :=
  ((readRtpmap line).filter (·.1 = payloadType.toNat)).map Prod.snd

/-- What the first line for the payload type says. -/
def rtpmapFor (sdp : String) (payloadType : UInt8) : Option (String × Nat) :=
  ((trimmedLines sdp).findSome? (readFor payloadType)).bind (codecAndRate upper)

/-! ## Where the search is right -/

/-- The first line that begins with the prefix. -/
def firstPrefixed (sdp : String) (payloadType : UInt8) : Option String :=
  (trimmedLines sdp).find? fun line => (stripPrefix (numberPrefix payloadType) line).isSome

/-- The first line for the payload type. -/
def firstFor (sdp : String) (payloadType : UInt8) : Option String :=
  (trimmedLines sdp).find? fun line => (readFor payloadType line).isSome

/-- The number follows on the colon without zeros in front, a space follows on the number, and no
colon on the space. -/
def Plain (payloadType : UInt8) (line : String) : Prop :=
  ∃ rest, stripPrefix (numberPrefix payloadType) line = some rest ∧
    rest.toList.head?.any Xml.isWhitespace ∧ (Xml.trim rest).toList.head? ≠ some ':'

/-- Nothing to find and nothing that begins like it, or one line that is both the first with the
prefix and the first for the payload type, and ends its number where the search takes it to end. -/
def ReadsRight (sdp : String) (payloadType : UInt8) : Prop :=
  match firstPrefixed sdp payloadType, firstFor sdp payloadType with
  | none, none => True
  | some one, some other => one = other ∧ Plain payloadType one
  | _, _ => False

instance (payloadType : UInt8) (line : String) : Decidable (Plain payloadType line) :=
  decidable_of_iff
    ((stripPrefix (numberPrefix payloadType) line).any fun rest =>
      decide (rest.toList.head?.any Xml.isWhitespace) &&
        decide ((Xml.trim rest).toList.head? ≠ some ':'))
    (by cases found : stripPrefix (numberPrefix payloadType) line <;> simp [Plain, found])

instance (sdp : String) (payloadType : UInt8) : Decidable (ReadsRight sdp payloadType) := by
  unfold ReadsRight
  split <;> infer_instance

end

/-! ## Plain lines -/

theorem findSome?_eq_bind {α β : Type} (f : α → Option β) (list : List α) :
    list.findSome? f = (list.find? fun entry => (f entry).isSome).bind f := by
  induction list with
  | nil => rfl
  | cons entry rest ih =>
      rw [List.findSome?_cons, List.find?_cons]
      cases found : f entry with
      | none => exact ih
      | some value => exact found.symm

/-- Spaces and colons in front of a text whose first character is no colon are spaces. -/
theorem dropWhile_marks {text : List Char}
    (first : (text.dropWhile Xml.isWhitespace).head? ≠ some ':') :
    (text.dropWhile ([' ', ':'].contains ·)).dropWhile Xml.isWhitespace =
      text.dropWhile Xml.isWhitespace := by
  induction text with
  | nil => rfl
  | cons char rest ih =>
      by_cases space : char = ' '
      · subst space
        rw [List.dropWhile_cons_of_pos (by decide)] at first
        rw [List.dropWhile_cons_of_pos (by decide), ih first, List.dropWhile_cons_of_pos (by decide)]
      · have other : char ≠ ':' := by
          rintro rfl
          exact first rfl
        rw [List.dropWhile_cons_of_neg (by simp [space, other])]

theorem head?_trim {text : String} (first : (Xml.trim text).toList.head? ≠ some ':') :
    (text.toList.dropWhile Xml.isWhitespace).head? ≠ some ':' := by
  intro colon
  refine first ?_
  rw [Xml.trim, String.toList_ofList]
  generalize text.toList.dropWhile Xml.isWhitespace = start at colon
  obtain ⟨rest, rfl⟩ := List.head?_eq_some_iff.mp colon
  change (List.rdropWhile Xml.isWhitespace (':' :: rest)).head? = some ':'
  have filled : List.rdropWhile Xml.isWhitespace (':' :: rest) ≠ [] := fun empty =>
    absurd (List.rdropWhile_eq_nil_iff.mp empty ':' (List.mem_cons_self ..)) (by decide)
  obtain ⟨char, more, cons⟩ := List.exists_cons_of_ne_nil filled
  have front := List.rdropWhile_prefix Xml.isWhitespace (l := ':' :: rest)
  rw [cons] at front ⊢
  rw [(List.cons_prefix_cons.mp front).1]
  rfl

theorem behind_plain {rest : String} (first : (Xml.trim rest).toList.head? ≠ some ':') :
    behind rest = Xml.trim rest := by
  rw [behind, Xml.trim, Sdp.trimStartMatches, String.toList_ofList,
    dropWhile_marks (head?_trim first), Xml.trim]

theorem not_isWhitespace_of_isDigit {digit : Char} (isDigit : digit.isDigit = true) :
    Xml.isWhitespace digit = false := by
  have bounds := Decimal.toNat_of_isDigit isDigit
  simp [Xml.isWhitespace]
  omega

/-- A number directly behind the colon, with a space behind it. -/
theorem readRtpmap_digits {line rest : String} {number : List Char} (digits : Decimal.Digits number)
    (filled : number ≠ []) (space : rest.toList.head?.any Xml.isWhitespace)
    (shape : line.toList = "a=rtpmap:".toList ++ (number ++ rest.toList)) :
    readRtpmap line = some (Decimal.value number, Xml.trim rest) := by
  have text : stripPrefix "a=rtpmap:" line = some (String.ofList (number ++ rest.toList)) := by
    rw [Sdp.stripPrefix_eq_some, shape, @String.toList_ofList (number ++ rest.toList)]
  have start : (number ++ rest.toList).dropWhile Xml.isWhitespace = number ++ rest.toList := by
    obtain ⟨digit, others, cons⟩ := List.exists_cons_of_ne_nil filled
    have first := not_isWhitespace_of_isDigit (digits digit (by simp [cons]))
    rw [cons, List.cons_append, List.dropWhile_cons_of_neg (by simp [first])]
  obtain ⟨blank, more, begins⟩ : ∃ blank more, rest.toList = blank :: more := by
    cases shape : rest.toList with
    | nil => simp [shape] at space
    | cons blank more => exact ⟨blank, more, rfl⟩
  have white : Xml.isWhitespace blank = true := by simpa [begins] using space
  have stops : blank.isDigit = false := by
    by_contra isDigit
    rw [not_isWhitespace_of_isDigit (by simpa using isDigit)] at white
    cases white
  have front : (number ++ rest.toList).takeWhile Char.isDigit = number := by
    rw [List.takeWhile_append_of_pos digits, begins, List.takeWhile_cons_of_neg (by simp [stops]),
      List.append_nil]
  have back : (number ++ rest.toList).dropWhile Char.isDigit = rest.toList := by
    rw [List.dropWhile_append_of_pos digits, begins, List.dropWhile_cons_of_neg (by simp [stops])]
  simp only [readRtpmap, text, Option.bind_some, String.toList_ofList, start, front, back,
    if_pos (And.intro filled space), String.ofList_toList]

theorem readFor_plain {payloadType : UInt8} {line rest : String}
    (found : stripPrefix (numberPrefix payloadType) line = some rest)
    (space : rest.toList.head?.any Xml.isWhitespace) :
    readFor payloadType line = some (Xml.trim rest) := by
  have digits : Decimal.Digits (Nat.toDigits 10 payloadType.toNat) := fun digit member =>
    Nat.isDigit_of_mem_toDigits (by decide) (by decide) member
  have shape : line.toList =
      "a=rtpmap:".toList ++ (Nat.toDigits 10 payloadType.toNat ++ rest.toList) := by
    rw [Sdp.stripPrefix_eq_some.mp found, numberPrefix]
    simp
  rw [readFor, readRtpmap_digits digits Nat.toDigits_ne_nil space shape, Decimal.value,
    Nat.ofDigitChars_ten_toDigits]
  simp

theorem codecAndRate_isSome (upper : Char → List Char) (rest : String) :
    (codecAndRate upper rest).isSome := by
  rw [codecAndRate, Sdp.split]
  cases pieces : rest.toList.splitOn '/' with
  | nil => exact absurd pieces (List.splitOn_ne_nil _ _)
  | cons codec parts => rfl

/-! ## What the search finds -/

section

variable {upper : Char → List Char} {sdp line : String} {payloadType : UInt8}

theorem firstPrefixed_some (found : firstPrefixed sdp payloadType = some line) :
    ∃ rest, stripPrefix (numberPrefix payloadType) line = some rest := by
  have begins := List.find?_some found
  exact Option.isSome_iff_exists.mp begins

theorem firstFor_some (found : firstFor sdp payloadType = some line) :
    ∃ text, readFor payloadType line = some text := by
  have reads := List.find?_some found
  exact Option.isSome_iff_exists.mp reads

theorem parseRtpmapFromSdp_eq_bind :
    parseRtpmapFromSdp upper sdp payloadType =
      ((firstPrefixed sdp payloadType).bind (stripPrefix (numberPrefix payloadType))).bind
        fun rest => codecAndRate upper (behind rest) := by
  rw [parseRtpmapFromSdp, findSome?_eq_bind, firstPrefixed]

theorem rtpmapFor_eq_bind :
    rtpmapFor upper sdp payloadType =
      ((firstFor sdp payloadType).bind (readFor payloadType)).bind (codecAndRate upper) := by
  rw [rtpmapFor, findSome?_eq_bind, firstFor]

theorem isSome_parseRtpmapFromSdp :
    (parseRtpmapFromSdp upper sdp payloadType).isSome = (firstPrefixed sdp payloadType).isSome := by
  rw [parseRtpmapFromSdp_eq_bind]
  cases before : firstPrefixed sdp payloadType with
  | none => rfl
  | some line =>
      obtain ⟨rest, found⟩ := firstPrefixed_some before
      simp [found, codecAndRate_isSome]

theorem isSome_rtpmapFor :
    (rtpmapFor upper sdp payloadType).isSome = (firstFor sdp payloadType).isSome := by
  rw [rtpmapFor_eq_bind]
  cases wanted : firstFor sdp payloadType with
  | none => rfl
  | some line =>
      obtain ⟨text, reads⟩ := firstFor_some wanted
      simp [reads, codecAndRate_isSome]

/-- The other way round, the search is right only if some line begins with the prefix exactly where
some line is for the payload type. -/
theorem isSome_firstPrefixed_of_eq
    (right : parseRtpmapFromSdp upper sdp payloadType = rtpmapFor upper sdp payloadType) :
    (firstPrefixed sdp payloadType).isSome = (firstFor sdp payloadType).isSome := by
  rw [← @isSome_parseRtpmapFromSdp upper, right, isSome_rtpmapFor]

end

/-- Where the first line that begins like the one asked for ends its number there and is the first
for the payload type, the search returns what that line says. -/
theorem parseRtpmapFromSdp_eq_of_readsRight (upper : Char → List Char) (sdp : String)
    (payloadType : UInt8) (right : ReadsRight sdp payloadType) :
    parseRtpmapFromSdp upper sdp payloadType = rtpmapFor upper sdp payloadType := by
  rw [parseRtpmapFromSdp_eq_bind, rtpmapFor_eq_bind]
  rw [ReadsRight] at right
  cases before : firstPrefixed sdp payloadType with
  | none =>
      cases wanted : firstFor sdp payloadType with
      | none => simp only [Option.bind_none]
      | some line => simp [before, wanted] at right
  | some line =>
      cases wanted : firstFor sdp payloadType with
      | none => simp [before, wanted] at right
      | some other =>
          simp only [before, wanted] at right
          obtain ⟨rfl, rest, found, space, first⟩ := right
          simp only [Option.bind_some, found, readFor_plain found space, behind_plain first]

theorem parseRtpmapFromSdp_eq_of_readsRight_talk :
    parseRtpmapFromSdp (fun char => [char.toUpper])
        "a=rtpmap:9 G722/8000\r\na=rtpmap:96 PS/90000\r\n" 9 =
      rtpmapFor (fun char => [char.toUpper])
        "a=rtpmap:9 G722/8000\r\na=rtpmap:96 PS/90000\r\n" 9 :=
  parseRtpmapFromSdp_eq_of_readsRight _ _ _ (by decide +kernel)

/-- A line for the payload type 96 in front of the one for 9. -/
theorem longerNumber_read :
    parseRtpmapFromSdp (fun char => [char.toUpper]) "a=rtpmap:96 PS/90000\r\na=rtpmap:9 G722/8000\r\n" 9
        = some ("6 PS", 90000) ∧
      rtpmapFor (fun char => [char.toUpper]) "a=rtpmap:96 PS/90000\r\na=rtpmap:9 G722/8000\r\n" 9
        = some ("G722", 8000) := by
  decide +kernel

end Gmv.Session.Rtpmap
