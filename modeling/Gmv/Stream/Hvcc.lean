import Gmv.Library.ByteFormat
import Gmv.Stream.RtpPacket

/-!
# The decoder configuration of H.265

The record that the FLV muxer puts into the video sequence header: taken over when the stream
brings one, and written from the parameter sets otherwise.  A decoder of the record finds the
parameter sets behind a header of twenty-two bytes, array by array.
-/

namespace Gmv.Stream.Hvcc

open Gmv.Library.ByteFormat

/-! ## The muxer -/

def h265NalVps : UInt8 := 32
def h265NalSps : UInt8 := 33
def h265NalPps : UInt8 := 34

def isHvcc (data : Bytes) : Bool :=
  if data.length < 23 then false
  else data.getD 0 0 == 1 && data.getD 21 0 &&& 0x03 == 3

/-- What every record begins with, from `configurationVersion` to `lengthSizeMinusOne`. -/
def recordHeader : Bytes :=
  [1,
   0x01,
   0, 0, 0, 0,
   0, 0, 0, 0, 0, 0,
   120,
   0xf0, 0x00,
   0xfc,
   0xfc ||| 1,
   0xf8,
   0xf8,
   0x00, 0x00,
   0x03]

def writeArray (buf : Bytes) (nalType : UInt8) (nal : Bytes) : Bytes :=
  if nal.isEmpty then buf
  else buf ++ [0x80 ||| nalType] ++ beBytes 2 1 ++ beBytes 2 nal.length ++ nal

def numArrays (vps sps pps : Bytes) : UInt8 :=
  let num := if !vps.isEmpty then 1 else 0
  let num := if !sps.isEmpty then num + 1 else num
  if !pps.isEmpty then num + 1 else num

def buildHvccFromNalus (vps sps pps : Bytes) : Bytes :=
  let hvcc := recordHeader ++ [numArrays vps sps pps]
  let hvcc := writeArray hvcc h265NalVps vps
  let hvcc := writeArray hvcc h265NalSps sps
  writeArray hvcc h265NalPps pps

def ensureHvcc (extradata vps sps pps : Bytes) : Bytes :=
  if isHvcc extradata then extradata else buildHvccFromNalus vps sps pps

/-! ## The decoder -/

def readNal : Reader Bytes := do
  let length ← readUint 2
  readBytes length

/-- The NAL units of an array, each with the type of the array. -/
def readArray : Reader (List (Nat × Bytes)) := do
  let kind ← readUint 1
  let count ← readUint 2
  let nals ← readMany readNal count
  pure (nals.map (kind % 64, ·))

def readRecord : Reader (List (Nat × Bytes)) := do
  let _ ← readBytes 22
  let numOfArrays ← readUint 1
  let arrays ← readMany readArray numOfArrays
  pure arrays.flatten

/-! ## What is written is read -/

/-- The arrays of a record: the parameter sets that are there. -/
def present (vps sps pps : Bytes) : List (UInt8 × Bytes) :=
  [(h265NalVps, vps), (h265NalSps, sps), (h265NalPps, pps)].filter (!·.2.isEmpty)

def writtenArray (array : UInt8 × Bytes) : Bytes :=
  [0x80 ||| array.1] ++ (beBytes 2 1 ++ (beBytes 2 array.2.length ++ array.2))

/-- An array is written, or left out when there is nothing to write. -/
theorem writeArray_eq (buf : Bytes) (array : UInt8 × Bytes) :
    writeArray buf array.1 array.2 = buf ++ ([array].filter (!·.2.isEmpty)).flatMap writtenArray := by
  rw [writeArray]
  by_cases empty : array.2.isEmpty = true
  · simp [empty]
  · simp [empty, writtenArray]

theorem numArrays_eq (vps sps pps : Bytes) :
    numArrays vps sps pps = UInt8.ofNat (present vps sps pps).length := by
  cases vps <;> cases sps <;> cases pps <;> rfl

theorem buildHvccFromNalus_eq (vps sps pps : Bytes) :
    buildHvccFromNalus vps sps pps =
      recordHeader ++ (beBytes 1 (present vps sps pps).length ++
        ((present vps sps pps).flatMap writtenArray ++ [])) := by
  have arrays : present vps sps pps = [(h265NalVps, vps)].filter (!·.2.isEmpty) ++
      ([(h265NalSps, sps)].filter (!·.2.isEmpty) ++ [(h265NalPps, pps)].filter (!·.2.isEmpty)) := by
    rw [← List.filter_append, ← List.filter_append]
    rfl
  have number : beBytes 1 (present vps sps pps).length = [numArrays vps sps pps] := by
    rw [numArrays_eq, beBytes, pow_zero, Nat.div_one]
    rfl
  rw [number, arrays]
  simp only [buildHvccFromNalus]
  rw [writeArray_eq _ (h265NalVps, vps), writeArray_eq _ (h265NalSps, sps),
    writeArray_eq _ (h265NalPps, pps)]
  simp only [List.flatMap_append, List.append_assoc, List.append_nil]

theorem reads_nal {nal : Bytes} (short : nal.length < 65536) :
    Reads readNal (beBytes 2 nal.length ++ nal) nal :=
  (reads_uint short).bind (reads_bytes nal)

/-- The upper bit of a type byte marks the array as complete. -/
theorem typeByte_eq {nalType : UInt8} (small : nalType.toNat < 64) :
    beBytes 1 (128 + nalType.toNat) = [0x80 ||| nalType] := by
  have joined : 2 ^ 7 + nalType.toNat = 2 ^ 7 ||| nalType.toNat := by
    have := Nat.two_pow_add_eq_or_of_lt (show nalType.toNat < 2 ^ 7 by omega) 1
    rwa [Nat.mul_one] at this
  rw [beBytes, pow_zero, Nat.div_one, beBytes]
  congr 1
  apply UInt8.toNat_inj.mp
  rw [UInt8.toNat_ofNat', UInt8.toNat_or, Nat.mod_eq_of_lt (by omega)]
  exact joined

/-- An array of one NAL unit is read back under its type. -/
theorem reads_array {array : UInt8 × Bytes} (small : array.1.toNat < 64)
    (short : array.2.length < 65536) :
    Reads readArray (writtenArray array) [(array.1.toNat, array.2)] := by
  have kind : Reads (readUint 1) [0x80 ||| array.1] (128 + array.1.toNat) := by
    rw [← typeByte_eq small]
    exact reads_uint (by omega)
  have count : Reads (readUint 2) (beBytes 2 1) 1 := reads_uint (by omega)
  have nals : Reads (readMany readNal 1) (beBytes 2 array.2.length ++ array.2) [array.2] := by
    have one : Reads (readMany readNal 1) (beBytes 2 array.2.length ++ array.2 ++ []) [array.2] :=
      (reads_nal short).bind (Reads.pure [array.2])
    rwa [List.append_nil] at one
  have whole : Reads readArray (writtenArray array) ([array.2].map ((128 + array.1.toNat) % 64, ·)) :=
    kind.bind (count.bind (nals.map (·.map ((128 + array.1.toNat) % 64, ·))))
  rw [List.map_singleton, show (128 + array.1.toNat) % 64 = array.1.toNat by omega] at whole
  exact whole

theorem length_present_le (vps sps pps : Bytes) : (present vps sps pps).length ≤ 3 :=
  List.length_filter_le ..

theorem toNat_present_lt {vps sps pps : Bytes} {array : UInt8 × Bytes}
    (member : array ∈ present vps sps pps) : array.1.toNat < 64 := by
  have isOne := List.mem_of_mem_filter member
  simp only [List.mem_cons, List.not_mem_nil, or_false] at isOne
  obtain rfl | rfl | rfl := isOne
  · exact Nat.le_of_ble_eq_true rfl
  · exact Nat.le_of_ble_eq_true rfl
  · exact Nat.le_of_ble_eq_true rfl

/-- A decoder finds the parameter sets that are there, and nothing behind them. -/
theorem readRecord_build {vps sps pps : Bytes} (vpsShort : vps.length < 65536)
    (spsShort : sps.length < 65536) (ppsShort : pps.length < 65536) :
    readRecord.run (buildHvccFromNalus vps sps pps) =
      some ((present vps sps pps).map fun array => (array.1.toNat, array.2), []) := by
  have short : ∀ array ∈ present vps sps pps, array.2.length < 65536 := by
    intro array member
    have isOne := List.mem_of_mem_filter member
    simp only [List.mem_cons, List.not_mem_nil, or_false] at isOne
    obtain rfl | rfl | rfl := isOne <;> assumption
  have arrays : Reads (readMany readArray (present vps sps pps).length)
      ((present vps sps pps).flatMap writtenArray)
      ((present vps sps pps).map fun array => [(array.1.toNat, array.2)]) :=
    reads_many fun array member => reads_array (toNat_present_lt member) (short array member)
  have header : Reads (readBytes 22) recordHeader recordHeader := reads_bytes recordHeader
  have number : Reads (readUint 1) (beBytes 1 (present vps sps pps).length)
      (present vps sps pps).length :=
    reads_uint (Nat.lt_of_le_of_lt (length_present_le ..) (by omega))
  have whole : Reads readRecord _ _ := header.bind (number.bind (arrays.bind (Reads.pure _)))
  have read := whole []
  rw [List.append_nil, ← buildHvccFromNalus_eq] at read
  rw [read, ← List.flatMap_def]
  exact congrArg (fun arrays => some (arrays, [])) (List.flatMap_pure_eq_map _ _)

theorem isHvcc_append (numOfArrays : UInt8) (arrays : Bytes) :
    isHvcc (recordHeader ++ (numOfArrays :: arrays)) = true := by
  have enough : ¬(recordHeader ++ (numOfArrays :: arrays)).length < 23 := by
    rw [List.length_append, List.length_cons, show recordHeader.length = 22 from rfl]
    omega
  rw [isHvcc, if_neg enough]
  show ((1 : UInt8) == 1 && (0x03 : UInt8) &&& 0x03 == 3) = true
  decide

theorem isHvcc_build (vps sps pps : Bytes) : isHvcc (buildHvccFromNalus vps sps pps) = true := by
  rw [buildHvccFromNalus_eq]
  exact isHvcc_append _ _

/-- A record is taken over, and what is not one is replaced by one. -/
theorem isHvcc_ensure (extradata vps sps pps : Bytes) :
    isHvcc (ensureHvcc extradata vps sps pps) = true := by
  rw [ensureHvcc]
  split
  · assumption
  · exact isHvcc_build ..

/-- The record of the parameter sets is one, is read back as those that are there, and a record
is not touched again. -/
theorem hvcc_record_decodable {vps sps pps : Bytes} (vpsShort : vps.length < 65536)
    (spsShort : sps.length < 65536) (ppsShort : pps.length < 65536) :
    isHvcc (buildHvccFromNalus vps sps pps) = true ∧
      readRecord.run (buildHvccFromNalus vps sps pps) =
        some ([(32, vps), (33, sps), (34, pps)].filter (!·.2.isEmpty), []) ∧
      ∀ extradata, ensureHvcc (ensureHvcc extradata vps sps pps) vps sps pps =
        ensureHvcc extradata vps sps pps := by
  refine ⟨isHvcc_build .., ?_, fun extradata => ?_⟩
  · rw [readRecord_build vpsShort spsShort ppsShort]
    cases vps <;> cases sps <;> cases pps <;> rfl
  · rw [ensureHvcc, if_pos (isHvcc_ensure ..)]

theorem hvcc_record_decodable_short :
    [0x40].length < 65536 ∧
      readRecord.run (buildHvccFromNalus [0x40] [] [0x44, 1]) =
        some ([(32, [0x40]), (34, [0x44, 1])], []) :=
  ⟨by decide, (@hvcc_record_decodable [0x40] [] [0x44, 1] (by decide) (by decide) (by decide)).2.1⟩

end Gmv.Stream.Hvcc
