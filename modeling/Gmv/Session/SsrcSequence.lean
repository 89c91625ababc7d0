import Gmv.Library.CyclicCounter
import Gmv.Library.Decimal
import Gmv.Library.TaskPool
import Gmv.Session.DialogRecovery
import Gmv.Session.MediaRequest

/-!
# The SSRC sequences

Two rows of a table count from 1 to 9999 and round again, one for live media and one for recordings.
An allocation takes the next number of its sequence, which is one transaction, and keeps it unless a
stream or a talk has the SSRC or a dialog of the table does.  Allocations of both kinds and all that
makes SSRCs active and inactive come between each other's steps.
-/

namespace Gmv.Session.SsrcSequence

open Gmv.Library TaskPool
open MediaRequest (parseU32)

/-! ## The table -/

inductive SsrcKind where
  | realtime
  | history
  deriving DecidableEq, Repr

def SsrcKind.marker : SsrcKind → Char
  | .realtime => '0'
  | .history => '1'

inductive ErrorCode where
  | ioBusy
  | invalidRequest
  | invalidState
  deriving DecidableEq, Repr

/-- An error of the module, or a statement that failed. -/
inductive SequenceError where
  | biz (code : ErrorCode) (msg : String)
  | database
  deriving DecidableEq, Repr

def exhausted : SequenceError := .biz .ioBusy "SSRC sequence is exhausted"

def invalidSequence : SequenceError := .biz .invalidState "Invalid SSRC sequence configuration"

/-- `prefix`. -/
def ssrcPrefix (domainId : String) (kind : SsrcKind) : Except SequenceError String :=
  if domainId.utf8ByteSize != 20 || !domainId.toList.all Char.isDigit then
    .error (.biz .invalidRequest "Invalid session domain_id")
  else .ok (String.ofList (kind.marker :: (domainId.toList.drop 3).take 5))

/-- A row of `C_SEQ_CODE`. -/
structure SeqCode where
  seqName : String
  initValue : UInt64
  currentValue : UInt64
  incrementValue : Int32
  prefixCode : Option String
  codeLength : Option Int32
  deriving DecidableEq, Repr

abbrev SeqTable := RowTable SeqCode.seqName

def SeqCode.isIncompatible (row : SeqCode) (seqName : String) : Bool :=
  row.initValue != 1 || !(decide (1 ≤ row.currentValue) && decide (row.currentValue ≤ 9999)) ||
    row.incrementValue != 1 || row.prefixCode != some seqName || row.codeLength != some 4

def validateSequence (table : SeqTable) (seqName : String) : Except SequenceError Unit :=
  match table.find seqName with
  | none => .error invalidSequence
  | some row => if row.isIncompatible seqName then .error invalidSequence else .ok ()

/-- `u16::try_from`. -/
def tryU16 (value : UInt64) : Except SequenceError UInt16 :=
  if value ≤ 65535 then .ok value.toUInt16 else .error invalidSequence

def SeqCode.advance (row : SeqCode) : SeqCode :=
  { row with
    currentValue := if row.currentValue = 9999 then row.initValue else row.currentValue + 1 }

/-- The transaction, which has the row locked from its `SELECT` to its end. -/
def takeNextValue (table : SeqTable) (seqName : String) : Except SequenceError UInt16 × SeqTable :=
  match table.find seqName with
  | none => (.error invalidSequence, table)
  | some row =>
      if row.isIncompatible seqName then (.error invalidSequence, table)
      else
        (tryU16 row.currentValue,
          (table.update seqName (fun _ => true) SeqCode.advance fun _ => rfl).2)

/-- `INSERT IGNORE`. -/
def insertIgnore (table : SeqTable) (seqName : String) : SeqTable :=
  (table.insert ⟨seqName, 1, 1, 1, some seqName, some 4⟩).getD table

/-- `initialize`. -/
def initializeSequences (domainId : String) (table : SeqTable) : Except SequenceError Unit × SeqTable :=
  match ssrcPrefix domainId .realtime, ssrcPrefix domainId .history with
  | .error error, _ | .ok _, .error error => (.error error, table)
  | .ok realtime, .ok history =>
      let first := insertIgnore table realtime
      match validateSequence first realtime with
      | .error error => (.error error, first)
      | .ok _ =>
          let second := insertIgnore first history
          (validateSequence second history, second)

/-! ## Allocations -/

/-- What the checks of an allocation look at, and the texts that the columns of the dialogs
take for one. -/
structure Activity where
  cache : Cache
  dialogs : List SipDialogSessionRow
  sameText : String → String → Bool
  now : NaiveDateTime

def ssrcIsActive (cache : Cache) (ssrc : UInt32) : Bool :=
  cache.streamMap.entries.any (fun entry => entry.2.ssrc == ssrc) ||
    cache.talkMap.entries.any fun entry => entry.2.ssrc == ssrc

def isActive (activity : Activity) (signalNodeId ssrc : String) : Bool :=
  activity.dialogs.any fun row =>
    activity.sameText row.signalNodeId signalNodeId &&
      row.ssrc.any (fun stored => activity.sameText stored ssrc) &&
      (row.state == "INVITING" || row.state == "ESTABLISHED" || row.state == "TERMINATING") &&
      decide (activity.now < row.expireAt)

/-- `format!("{seq_name}{value:04}")`. -/
def ssrcOf (seqName : String) (value : UInt16) : String :=
  seqName ++ String.ofList (Decimal.padded 4 value.toNat)

/-- A round of the loop: the SSRC, how often its sequence had been taken from before, and what the
checks looked at.  The dialog table is not looked at when the SSRC is active in memory. -/
structure Round where
  ssrc : String
  number : Nat
  memory : Activity
  dialogs : Option Activity

/-- A call and what it has done so far. -/
structure Call where
  kind : SsrcKind
  seqName : String
  began : Nat
  rounds : List Round

def Call.push (call : Call) (round : Round) : Call := { call with rounds := call.rounds ++ [round] }

/-- A call that has returned, after so many takes of its sequence. -/
structure Return where
  kind : SsrcKind
  began : Nat
  ended : Nat
  rounds : List Round
  result : Except SequenceError String

/-- Whether a statement is carried out and answered, not carried out, or carried out with the answer
lost. -/
inductive Database where
  | up
  | down
  | cutOff
  deriving DecidableEq, Repr

structure Shared where
  sequences : SeqTable
  activity : Activity
  database : Database
  taken : SsrcKind → Nat
  returns : List Return

def Shared.init (sequences : SeqTable) (activity : Activity) : Shared :=
  ⟨sequences, activity, .up, fun _ => 0, []⟩

/-- Whatever the others do is a turn. -/
inductive Task where
  | allocate (kind : SsrcKind)
  | take (call : Call)
  | checkMemory (call : Call) (number : Nat) (value : UInt16)
  | checkDialogs (call : Call) (number : Nat) (value : UInt16) (memory : Activity)
  | turn (activity : Activity) (database : Database)

def Task.Begins : Task → Prop
  | .allocate _ | .turn _ _ => True
  | .take _ | .checkMemory _ _ _ | .checkDialogs _ _ _ _ => False

namespace Shared

variable (shared : Shared)

def give (kind : SsrcKind) (began : Nat) (rounds : List Round)
    (result : Except SequenceError String) : Shared :=
  { shared with returns := shared.returns ++ [⟨kind, began, shared.taken kind, rounds, result⟩] }

def finish (call : Call) (result : Except SequenceError String) : Shared :=
  shared.give call.kind call.began call.rounds result

/-- The table behind a take that was carried out. -/
def take (kind : SsrcKind) (sequences : SeqTable) : Shared :=
  { shared with
    sequences := sequences
    taken := Function.update shared.taken kind (shared.taken kind + 1) }

end Shared

def work (domainId : String) (shared : Shared) : Task → Option Task × Shared
  | .allocate kind =>
      match ssrcPrefix domainId kind with
      | .error error => (none, shared.give kind (shared.taken kind) [] (.error error))
      | .ok seqName => (some (.take ⟨kind, seqName, shared.taken kind, []⟩), shared)
  | .take call =>
      if 9999 ≤ call.rounds.length then (none, shared.finish call (.error exhausted))
      else
        match shared.database, takeNextValue shared.sequences call.seqName with
        | .down, _ => (none, shared.finish call (.error .database))
        | .up, (.error error, _) => (none, shared.finish call (.error error))
        | .up, (.ok value, sequences) =>
            (some (.checkMemory call (shared.taken call.kind) value), shared.take call.kind sequences)
        | .cutOff, (.error _, _) => (none, shared.finish call (.error .database))
        | .cutOff, (.ok _, sequences) =>
            (none, (shared.take call.kind sequences).finish call (.error .database))
  | .checkMemory call number value =>
      match parseU32 (ssrcOf call.seqName value) with
      | none => (none, shared.finish call (.error invalidSequence))
      | some numericSsrc =>
          if ssrcIsActive shared.activity.cache numericSsrc then
            (some (.take (call.push ⟨ssrcOf call.seqName value, number, shared.activity, none⟩)), shared)
          else (some (.checkDialogs call number value shared.activity), shared)
  | .checkDialogs call number value memory =>
      if shared.database = .up then
        let looked := call.push ⟨ssrcOf call.seqName value, number, memory, some shared.activity⟩
        if isActive shared.activity domainId (ssrcOf call.seqName value) then (some (.take looked), shared)
        else (none, shared.finish looked (.ok (ssrcOf call.seqName value)))
      else (none, shared.finish call (.error .database))
  | .turn activity database => (none, { shared with activity := activity, database := database })

/-! ## The texts of SSRCs -/

section

variable {domainId seqName : String} {kind : SsrcKind}

theorem ssrcPrefix_ok (named : ssrcPrefix domainId kind = .ok seqName) :
    ∃ area, seqName = String.ofList (kind.marker :: area) ∧ area.length = 5 ∧ Decimal.Digits area := by
  rw [ssrcPrefix] at named
  split at named
  · cases named
  · next valid =>
      simp only [Bool.or_eq_true, bne_iff_ne, Bool.not_eq_true', not_or, not_not, Bool.not_eq_false]
        at valid
      have digits : Decimal.Digits domainId.toList := List.all_eq_true.mp valid.2
      have bytes := Decimal.utf8ByteSize_ofList digits
      rw [String.ofList_toList, valid.1] at bytes
      refine ⟨(domainId.toList.drop 3).take 5, (Except.ok.inj named).symm, ?_, fun digit member =>
        digits digit (List.mem_of_mem_drop (List.mem_of_mem_take member))⟩
      rw [List.length_take, List.length_drop, ← bytes]
      rfl

theorem ssrcPrefix_error {error : SequenceError} (refused : ssrcPrefix domainId kind = .error error) :
    error ≠ exhausted := by
  rw [ssrcPrefix] at refused
  split at refused
  · cases refused
    decide
  · cases refused

/-- The number of an SSRC is written with ten digits, the first of which tells its kind. -/
structure WellFormed (ssrc : String) : Prop where
  length : ssrc.length = 10
  digits : Decimal.Digits ssrc.toList
  number : ∃ numericSsrc, parseU32 ssrc = some numericSsrc ∧ numericSsrc < 2000000000 ∧
    numericSsrc % 10000 ≠ 0 ∧ DialogRecovery.ssrcText numericSsrc = ssrc

/-- `str::parse` reads what digits stand for. -/
theorem parseUnsigned_digits {largest : Nat} {text : String} (digits : Decimal.Digits text.toList)
    (some' : text.toList ≠ []) (bounded : Decimal.value text.toList ≤ largest) :
    DeviceChannel.parseUnsigned largest text = some (Decimal.value text.toList) := by
  have isDigits : text.toList.all Char.isDigit = true := List.all_eq_true.mpr digits
  have notEmpty : text.toList.isEmpty = false := List.isEmpty_eq_false_iff.mpr some'
  unfold DeviceChannel.parseUnsigned
  split
  · next rest plus =>
      have wrong := digits '+' (plus ▸ List.mem_cons_self ..)
      cases wrong
  · simp only [notEmpty, isDigits, Bool.not_true, Bool.or_self, Bool.false_eq_true, if_false]
    exact if_pos bounded

theorem toList_ssrcOf (seqName : String) (value : UInt16) :
    (ssrcOf seqName value).toList = seqName.toList ++ Decimal.padded 4 value.toNat := by
  rw [ssrcOf, String.toList_append, String.toList_ofList]

theorem length_padded_of_le {value : UInt16} (bounded : value.toNat ≤ 9999) :
    (Decimal.padded 4 value.toNat).length = 4 :=
  Decimal.length_padded (by decide) (Nat.lt_of_le_of_lt bounded (by decide))

/-- The SSRCs of a sequence are what the media nodes and the dialogs take them for. -/
theorem wellFormed_ssrcOf (named : ssrcPrefix domainId kind = .ok seqName) {value : UInt16}
    (positive : 1 ≤ value.toNat) (bounded : value.toNat ≤ 9999) : WellFormed (ssrcOf seqName value) := by
  obtain ⟨area, rfl, five, digits⟩ := ssrcPrefix_ok named
  have isText : (ssrcOf (String.ofList (kind.marker :: area)) value).toList =
      kind.marker :: (area ++ Decimal.padded 4 value.toNat) := by
    rw [toList_ssrcOf, String.toList_ofList, List.cons_append]
  have four := length_padded_of_le bounded
  have markerDigit : kind.marker.isDigit = true := by cases kind <;> rfl
  have behind : Decimal.Digits (area ++ Decimal.padded 4 value.toNat) :=
    Decimal.digits_append digits (Decimal.digits_padded _ _)
  have isDigits : Decimal.Digits (ssrcOf (String.ofList (kind.marker :: area)) value).toList := by
    rw [isText]
    intro digit member
    rcases List.mem_cons.mp member with rfl | later
    · exact markerDigit
    · exact behind digit later
  have ten : (ssrcOf (String.ofList (kind.marker :: area)) value).toList.length = 10 := by
    rw [isText, List.length_cons, List.length_append, five, four]
  have isNumber : Decimal.value (ssrcOf (String.ofList (kind.marker :: area)) value).toList =
      1000000000 * (kind.marker.toNat - 48) + 10000 * Decimal.value area + value.toNat := by
    have billion : 10 ^ (5 + 4) = 1000000000 := by decide
    have tenThousand : 10 ^ 4 = 10000 := by decide
    rw [isText, ← List.singleton_append, Decimal.value_append, Decimal.value_append, Decimal.value_padded,
      Decimal.value_singleton, List.length_append, five, four, Nat.add_assoc, billion, tenThousand]
  have areaSmall := Decimal.value_lt digits
  rw [five] at areaSmall
  have markerSmall : kind.marker.toNat - 48 ≤ 1 := by cases kind <;> decide
  have small : Decimal.value (ssrcOf (String.ofList (kind.marker :: area)) value).toList < 2000000000 := by
    rw [isNumber]
    omega
  have some' : (ssrcOf (String.ofList (kind.marker :: area)) value).toList ≠ [] := by
    rw [isText]
    exact List.cons_ne_nil _ _
  have isNat : (UInt32.ofNat (Decimal.value (ssrcOf (String.ofList (kind.marker :: area)) value).toList)).toNat =
      Decimal.value (ssrcOf (String.ofList (kind.marker :: area)) value).toList :=
    UInt32.toNat_ofNat_of_lt' (Nat.lt_trans small (by decide))
  refine ⟨by rw [← String.length_toList, ten], isDigits,
    UInt32.ofNat (Decimal.value (ssrcOf (String.ofList (kind.marker :: area)) value).toList), ?_, ?_, ?_, ?_⟩
  · rw [parseU32, parseUnsigned_digits isDigits some' (by omega), Option.map_some]
  · rw [UInt32.lt_iff_toNat_lt, isNat]
    exact small
  · rw [Ne, ← UInt32.toNat_inj, UInt32.toNat_mod, isNat, isNumber]
    change ¬_ % 10000 = 0
    omega
  · have written := Decimal.padded_value isDigits some'
    rw [ten, Decimal.padded] at written
    rw [DialogRecovery.ssrcText, isNat, written, String.ofList_toList]

/-- An SSRC tells its kind and its value. -/
theorem ssrcOf_inj {other : SsrcKind} {otherName : String} (named : ssrcPrefix domainId kind = .ok seqName)
    (otherNamed : ssrcPrefix domainId other = .ok otherName) {one two : UInt16}
    (same : ssrcOf seqName one = ssrcOf otherName two) : kind = other ∧ one = two := by
  obtain ⟨area, rfl, five, -⟩ := ssrcPrefix_ok named
  obtain ⟨otherArea, rfl, otherFive, -⟩ := ssrcPrefix_ok otherNamed
  have texts := congrArg String.toList same
  rw [toList_ssrcOf, toList_ssrcOf, String.toList_ofList, String.toList_ofList, List.cons_append,
    List.cons_append, List.cons.injEq] at texts
  constructor
  · cases kind <;> cases other <;> first | rfl | cases texts.1
  · have padded := (List.append_inj texts.2 (five.trans otherFive.symm)).2
    have values := congrArg Decimal.value padded
    rw [Decimal.value_padded, Decimal.value_padded] at values
    exact UInt16.toNat_inj.mp values

theorem ssrcPrefix_inj {other : SsrcKind} (named : ssrcPrefix domainId kind = .ok seqName)
    (otherNamed : ssrcPrefix domainId other = .ok seqName) : kind = other := by
  have same : ssrcOf seqName 1 = ssrcOf seqName 1 := rfl
  exact (ssrcOf_inj named otherNamed same).1

end

/-! ## Takes -/

section

variable {table : SeqTable} {seqName : String}

theorem validateSequence_ok (valid : validateSequence table seqName = .ok ()) :
    ∃ row, table.find seqName = some row ∧ row.isIncompatible seqName = false := by
  rw [validateSequence] at valid
  split at valid
  · cases valid
  · next row found =>
      split at valid
      · cases valid
      · next compatible => exact ⟨row, found, Bool.eq_false_iff.mpr compatible⟩

theorem SeqCode.bounds {row : SeqCode} (compatible : row.isIncompatible seqName = false) :
    1 ≤ row.currentValue.toNat ∧ row.currentValue.toNat ≤ 9999 := by
  simp only [SeqCode.isIncompatible, Bool.or_eq_false_iff, Bool.not_eq_false', Bool.and_eq_true,
    decide_eq_true_eq] at compatible
  exact ⟨UInt64.le_iff_toNat_le.mp compatible.1.1.1.2.1, UInt64.le_iff_toNat_le.mp compatible.1.1.1.2.2⟩

/-- The value goes round behind 9999, and the rest of the row stays. -/
theorem SeqCode.advance_spec {row : SeqCode} (compatible : row.isIncompatible seqName = false) :
    row.advance.isIncompatible seqName = false ∧
      row.advance.currentValue.toNat = CyclicCounter.next 9999 row.currentValue.toNat := by
  have bounds := SeqCode.bounds compatible
  simp only [SeqCode.isIncompatible, Bool.or_eq_false_iff, bne_eq_false_iff_eq] at compatible
  obtain ⟨⟨⟨⟨first, -⟩, increment⟩, prefixCode⟩, codeLength⟩ := compatible
  have isNext : row.advance.currentValue.toNat = CyclicCounter.next 9999 row.currentValue.toNat := by
    rw [SeqCode.advance, CyclicCounter.next]
    by_cases last : row.currentValue = 9999
    · have isLast : row.currentValue.toNat = 9999 := congrArg UInt64.toNat last
      rw [if_pos last, if_pos isLast, first]
      rfl
    · have before : row.currentValue.toNat ≠ 9999 := fun same => last (UInt64.toNat_inj.mp same)
      rw [if_neg last, if_neg before, UInt64.toNat_add]
      exact Nat.mod_eq_of_lt (Nat.lt_of_le_of_lt (Nat.add_le_add_right bounds.2 1) (by decide))
  have inRange : 1 ≤ row.advance.currentValue.toNat ∧ row.advance.currentValue.toNat ≤ 9999 := by
    rw [isNext, CyclicCounter.next]
    split <;> omega
  refine ⟨?_, isNext⟩
  simp only [SeqCode.isIncompatible, Bool.or_eq_false_iff, bne_eq_false_iff_eq, Bool.not_eq_false',
    Bool.and_eq_true, decide_eq_true_eq]
  exact ⟨⟨⟨⟨first, UInt64.le_iff_toNat_le.mpr inRange.1, UInt64.le_iff_toNat_le.mpr inRange.2⟩, increment⟩,
    prefixCode⟩, codeLength⟩

/-- The row of a sequence is compatible, and its value is that behind so many takes. -/
def Follows (first taken : Nat) (table : SeqTable) (seqName : String) : Prop :=
  ∃ row, table.find seqName = some row ∧ row.isIncompatible seqName = false ∧
    row.currentValue.toNat = CyclicCounter.after 9999 first taken

theorem takeNextValue_error {error : SequenceError} {next : SeqTable}
    (refused : takeNextValue table seqName = (.error error, next)) : error = invalidSequence := by
  rw [takeNextValue] at refused
  split at refused
  · cases refused
    rfl
  · split at refused
    · cases refused
      rfl
    · rw [tryU16] at refused
      split at refused
      · cases refused
      · cases refused
        rfl

variable {first taken : Nat}

/-- A take gives the value, and the next one comes then. -/
theorem takeNextValue_of_follows (follows : Follows first taken table seqName) :
    ∃ value next, takeNextValue table seqName = (.ok value, next) ∧
      value.toNat = CyclicCounter.after 9999 first taken ∧ Follows first (taken + 1) next seqName ∧
      ∀ other, other ≠ seqName → next.find other = table.find other := by
  obtain ⟨row, found, compatible, isValue⟩ := follows
  have bounds := SeqCode.bounds compatible
  have small : row.currentValue ≤ 65535 := UInt64.le_iff_toNat_le.mpr (Nat.le_trans bounds.2 (by decide))
  have isTake : takeNextValue table seqName = (.ok row.currentValue.toUInt16,
      (table.update seqName (fun _ => true) SeqCode.advance fun _ => rfl).2) := by
    rw [takeNextValue, found]
    simp only [compatible, Bool.false_eq_true, if_false, tryU16, small, if_true]
  refine ⟨row.currentValue.toUInt16, _, isTake, ?_, ?_, ?_⟩
  · rw [UInt64.toNat_toUInt16, ← isValue]
    exact Nat.mod_eq_of_lt (Nat.lt_of_le_of_lt bounds.2 (by decide))
  · obtain ⟨still, isNext⟩ := SeqCode.advance_spec compatible
    refine ⟨row.advance, (RowTable.update_matched _ _ _ _ _ found rfl).2, still, ?_⟩
    rw [isNext, isValue, CyclicCounter.after_succ (by decide)]
  · intro other differs
    exact RowTable.update_of_other _ _ _ _ _ differs

end

end Gmv.Session.SsrcSequence
