import Gmv.Stream.AdtsFraming
import Gmv.Stream.AnnexBSplitters
import Gmv.Stream.PlaybackStart

/-!
# Parameter sets

A camera sends its parameter sets among the pictures.  While the parameters of a codec are not known, the
NAL units of each packet are searched; the first of each kind is kept, and once all kinds are there they
are the extradata of the codec, each behind a start code.
-/

namespace Gmv.Stream.ParameterSets

open Gmv.Library AnnexB AnnexBSplitters AdtsFraming Timeline PlaybackStart

/-! ## The NAL units of a packet -/

def forEachNaluAnnexb {σ : Type} (data : Bytes) (f : σ → Bytes → σ) (noted : σ) : σ :=
  (forEachNaluAnnexbWithin (data.length + 1) data f noted).getD noted

/-- The NAL units that it is called for. -/
def nalusOf (data : Bytes) : List Bytes :=
  match findStartCode data 0 with
  | none => []
  | some (pos, len) => slices (data.drop (pos + len))

theorem forEachNaluAnnexb_eq {σ : Type} (data : Bytes) (f : σ → Bytes → σ) (noted : σ) :
    forEachNaluAnnexb data f noted = (nalusOf data).foldl f noted := by
  have enough := Nat.lt_succ_self data.length
  rw [forEachNaluAnnexb, nalusOf]
  cases found : findStartCode data 0 with
  | none =>
      rw [forEachNaluAnnexbWithin, findAnnexbStartCodeWithin_eq enough, found]
      rfl
  | some place =>
      obtain ⟨pos, len⟩ := place
      rw [forEachNaluAnnexbWithin_coded enough found]
      rfl

/-- A NAL unit has a byte and no start code. -/
def IsNalu (nal : Bytes) : Prop := nal ≠ [] ∧ ¬ [0, 0, 1] <:+: nal

theorem isNalu_nalusOf {data : Bytes} : ∀ nal ∈ nalusOf data, IsNalu nal := by
  intro nal member
  rw [nalusOf] at member
  split at member
  · cases member
  · rename_i pos len _
    obtain ⟨before, parts, cut⟩ := Cut.total data (pos + len)
    rw [cut.slices_eq, withBytes, List.mem_filter] at member
    refine ⟨fun empty => ?_, cut.clean nal member.1⟩
    rw [empty] at member
    cases member.2

/-- No start code begins in a NAL unit that a long one follows. -/
theorem findStartCodeIn_long {nal : Bytes} (clean : ¬ [0, 0, 1] <:+: nal) (rest : Bytes) (pos : Nat) :
    findStartCodeIn (nal ++ ([0, 0, 0, 1] ++ rest)) pos = some (pos + nal.length, 4) := by
  induction nal generalizing pos with
  | nil => rfl
  | cons byte nal ih =>
      have later : ¬ [0, 0, 1] <:+: nal := fun inside => clean (List.infix_cons_iff.mpr (Or.inr inside))
      have here : ¬ [0, 0, 1] <+: byte :: nal := fun begins => clean begins.isInfix
      have notLong : ¬ (byte :: (nal ++ ([0, 0, 0, 1] ++ rest))).take 4 = [0, 0, 0, 1] := by
        intro begins
        match nal with
        | [] | [_] | [_, _] => simp at begins
        | first :: second :: third :: more =>
            simp only [List.cons_append, List.take_succ_cons, List.cons.injEq] at begins
            obtain ⟨-, rfl, rfl, rfl, -⟩ := begins
            exact later (List.infix_append [] [0, 0, 1] more)
      have notShort : ¬ (byte :: (nal ++ ([0, 0, 0, 1] ++ rest))).take 3 = [0, 0, 1] := by
        intro begins
        match nal with
        | [] | [_] => simp at begins
        | first :: second :: more =>
            simp only [List.cons_append, List.take_succ_cons, List.cons.injEq] at begins
            obtain ⟨rfl, rfl, rfl, -⟩ := begins
            exact clean (List.infix_append [] [0, 0, 1] more)
      rw [List.cons_append, findStartCodeIn, if_neg notLong, if_neg notShort, ih later, List.length_cons]
      congr 2
      omega

theorem findStartCodeIn_clean {nal : Bytes} (clean : ¬ [0, 0, 1] <:+: nal) : findStartCodeIn nal 0 = none := by
  cases found : findStartCodeIn nal 0 with
  | none => rfl
  | some place =>
      obtain ⟨pos, len⟩ := place
      have inside : (nal.drop (pos - 0)).take len <:+: nal :=
        (List.take_prefix ..).isInfix.trans (List.drop_suffix ..).isInfix
      rcases take_found found with long | short
      · rw [long] at inside
        exact absurd ((List.suffix_cons 0 [0, 0, 1]).isInfix.trans inside) clean
      · rw [short] at inside
        exact absurd inside clean

/-- NAL units behind long start codes. -/
def coded (nals : List Bytes) : Bytes := mixed (nals.map fun nal => (true, nal))

theorem coded_cons (nal : Bytes) (rest : List Bytes) :
    coded (nal :: rest) = [0, 0, 0, 1] ++ (nal ++ coded rest) := by
  rw [coded, mixed, List.map_cons, List.flatMap_cons, List.append_assoc]
  rfl

theorem slices_coded {nal : Bytes} {rest : List Bytes} (isNalu : ∀ other ∈ nal :: rest, IsNalu other) :
    slices (nal ++ coded rest) = nal :: rest := by
  induction rest generalizing nal with
  | nil =>
      obtain ⟨some', clean⟩ := isNalu nal (List.mem_cons_self ..)
      have alone : nal ++ coded [] = nal := List.append_nil nal
      rw [alone, slices_none some' (findStartCodeIn_clean clean)]
  | cons next rest ih =>
      obtain ⟨some', clean⟩ := isNalu nal (List.mem_cons_self ..)
      have found := findStartCodeIn_long clean (next ++ coded rest) 0
      have behind : (nal ++ coded (next :: rest)).drop (0 + nal.length + 4) = next ++ coded rest := by
        rw [Nat.zero_add, coded_cons, ← List.drop_drop, List.drop_left]
        rfl
      rw [← coded_cons] at found
      rw [slices_some found, behind, Nat.zero_add, if_pos (List.length_pos_iff.mpr some'), List.take_left,
        ih fun other member => isNalu other (List.mem_cons_of_mem _ member)]
      rfl

/-- NAL units behind long start codes are read back. -/
theorem nalusOf_mixed {nals : List Bytes} (isNalu : ∀ nal ∈ nals, IsNalu nal) :
    nalusOf (coded nals) = nals := by
  cases nals with
  | nil => rfl
  | cons nal rest =>
      rw [coded_cons, nalusOf, findStartCode, List.drop_zero]
      exact slices_coded isNalu

/-! ## The sets of a codec -/

structure PsCodec where
  nalType : Bytes → UInt8
  /-- In the order in which they are written. -/
  kinds : List UInt8

def h264 : PsCodec := ⟨fun nal => nal.headD 0 &&& 0x1f, [7, 8]⟩

def h265 : PsCodec := ⟨fun nal => (nal.headD 0 >>> 1) &&& 0x3f, [32, 33, 34]⟩

/-- `H264ParameterSets` and `H265ParameterSets`: what is held of each kind. -/
abbrev Sets := List (UInt8 × Option Bytes)

/-- The extradata of sets that are all there. -/
def extradataOf (sets : Sets) : Option Bytes :=
  if sets.all fun set => set.2.isSome then some (coded (sets.filterMap Prod.snd)) else none

namespace PsCodec

variable (codec : PsCodec)

def default : Sets := codec.kinds.map fun kind => (kind, none)

def put (sets : Sets) (nal : Bytes) : Sets :=
  sets.map fun (kind, held) => (kind, if held.isNone && codec.nalType nal == kind then some nal else held)

def extractPs (data : Bytes) (sets : Sets) : Sets := forEachNaluAnnexb data codec.put sets

/-- The first NAL unit of each kind. -/
def firsts (nals : List Bytes) : Sets :=
  codec.kinds.map fun kind => (kind, nals.find? fun nal => codec.nalType nal == kind)

end PsCodec

def extractH264Ps : Bytes → Sets → Sets := h264.extractPs

def extractH265Ps : Bytes → Sets → Sets := h265.extractPs

/-! ## Repairing the parameters of a codec -/

inductive CodecId where
  | h264
  | hevc
  | aac
  | other
  deriving DecidableEq, Repr

/-- Extradata that is not there is empty. -/
structure CodecPar where
  codecType : AVMediaType
  codecId : CodecId
  extradata : Bytes
  deriving DecidableEq, Repr

structure ParamRepairState where
  h264Ps : Option Sets
  h265Ps : Option Sets
  aacAsc : Option (UInt8 × UInt8)
  deriving DecidableEq, Repr

/-- The parameters of a stream and what their repair has found. -/
structure Repair where
  codecpar : CodecPar
  param : ParamRepairState
  deriving DecidableEq, Repr

namespace Repair

variable (repair : Repair)

def withExtradata (extradata : Bytes) : Repair :=
  { repair with codecpar := { repair.codecpar with extradata := extradata } }

/-- The sets behind a packet, and the parameters with their extradata where all are there. -/
def repairPs (codec : PsCodec) (held : Option Sets) (keep : Sets → Repair) (data : Bytes) : Bool × Repair :=
  let sets := codec.extractPs data (held.getD codec.default)
  match extradataOf sets with
  | none => (false, keep sets)
  | some extradata => (true, (keep sets).withExtradata extradata)

def repairCodecpar (data : Bytes) : Bool × Repair :=
  match repair.codecpar.codecId with
  | .h264 =>
      repairPs h264 repair.param.h264Ps
        (fun sets => { repair with param := { repair.param with h264Ps := some sets } }) data
  | .hevc =>
      repairPs h265 repair.param.h265Ps
        (fun sets => { repair with param := { repair.param with h265Ps := some sets } }) data
  | .aac =>
      match repair.param.aacAsc with
      | some _ => (true, repair)
      | none =>
          match parseAacAscFromAdts data with
          | none => (false, repair)
          | some asc =>
              (true, { repair with param := { repair.param with aacAsc := some asc } }.withExtradata [asc.1, asc.2])
  | .other => (true, repair)

/-- `repair_basic_stream_info`: whether the parameters are ready, and their extradata. -/
def repairBasicStreamInfo (data : Bytes) : Bool × Repair :=
  match repair.codecpar.codecType, repair.codecpar.codecId with
  | .video, .h264 => if repair.codecpar.extradata.length < 15 then repair.repairCodecpar data else (true, repair)
  | .video, .hevc => if repair.codecpar.extradata.length < 23 then repair.repairCodecpar data else (true, repair)
  | .audio, .aac => if repair.codecpar.extradata.length < 2 then repair.repairCodecpar data else (true, repair)
  | _, _ => (true, repair)

end Repair

/-- The repair of a stream, for a packet that is read at the start. -/
def repairParam (_ : Nat) (param : Param Repair) (frame : Frame) : Bool × Param Repair :=
  let (ready, repair) := param.repair.repairBasicStreamInfo frame.payload
  (ready, { param with repair := repair })

/-! ## The first of each kind -/

section

variable {codec : PsCodec}

theorem put_firsts (nals : List Bytes) (nal : Bytes) :
    codec.put (codec.firsts nals) nal = codec.firsts (nals ++ [nal]) := by
  rw [PsCodec.put, PsCodec.firsts, List.map_map, PsCodec.firsts]
  refine List.map_congr_left fun kind _ => ?_
  rw [List.find?_append, Function.comp_apply]
  cases nals.find? (fun nal => codec.nalType nal == kind) with
  | some held => rfl
  | none => cases isKind : codec.nalType nal == kind <;> simp [isKind]

theorem extractPs_firsts (nals : List Bytes) (data : Bytes) :
    codec.extractPs data (codec.firsts nals) = codec.firsts (nals ++ nalusOf data) := by
  rw [PsCodec.extractPs, forEachNaluAnnexb_eq]
  induction nalusOf data generalizing nals with
  | nil => rw [List.append_nil]; rfl
  | cons nal rest ih => rw [List.foldl_cons, put_firsts, ih, List.append_assoc]; rfl

theorem extradataOf_eq_some {sets : Sets} {extradata : Bytes} :
    extradataOf sets = some extradata ↔
      (∀ set ∈ sets, set.2.isSome = true) ∧ coded (sets.filterMap Prod.snd) = extradata := by
  rw [extradataOf]
  split
  · rename_i all
    rw [List.all_eq_true] at all
    exact ⟨fun same => ⟨all, Option.some.inj same⟩, fun ⟨_, same⟩ => congrArg some same⟩
  · rename_i missing
    rw [List.all_eq_true] at missing
    exact ⟨fun same => (nomatch same), fun ⟨all, _⟩ => absurd all missing⟩

/-- Sets that are all there stay what they are. -/
theorem firsts_of_known {nals : List Bytes} {extradata : Bytes}
    (known : extradataOf (codec.firsts nals) = some extradata) (more : List Bytes) :
    codec.firsts (nals ++ more) = codec.firsts nals := by
  obtain ⟨all, -⟩ := extradataOf_eq_some.mp known
  refine List.map_congr_left fun kind member => ?_
  have held := all _ (List.mem_map_of_mem member)
  rw [List.find?_append, Option.or_of_isSome held]

theorem extradataOf_firsts_isSome {nals : List Bytes} :
    (extradataOf (codec.firsts nals)).isSome = true ↔
      ∀ kind ∈ codec.kinds, ∃ nal ∈ nals, codec.nalType nal = kind := by
  have each : ∀ kind, (nals.find? fun nal => codec.nalType nal == kind).isSome = true ↔
      ∃ nal ∈ nals, codec.nalType nal = kind := by
    intro kind
    simp only [List.find?_isSome, beq_iff_eq]
  constructor
  · intro isSome
    obtain ⟨extradata, known⟩ := Option.isSome_iff_exists.mp isSome
    exact fun kind member =>
      (each kind).mp ((extradataOf_eq_some.mp known).1 _ (List.mem_map_of_mem member))
  · intro all
    refine Option.isSome_iff_exists.mpr ⟨_, extradataOf_eq_some.mpr ⟨fun set member => ?_, rfl⟩⟩
    obtain ⟨kind, inKinds, rfl⟩ := List.mem_map.mp member
    exact (each kind).mpr (all kind inKinds)

theorem map_snd_of_all {sets : Sets} (all : ∀ set ∈ sets, set.2.isSome = true) :
    sets.map Prod.snd = (sets.filterMap Prod.snd).map some := by
  induction sets with
  | nil => rfl
  | cons set rest ih =>
      obtain ⟨kind, held⟩ := set
      have later := ih fun other member => all other (List.mem_cons_of_mem _ member)
      cases held with
      | none => nomatch all _ (List.mem_cons_self ..)
      | some nal => exact congrArg (some nal :: ·) later

/-- The extradata of the first sets is read back as them. -/
theorem nalusOf_extradata {nals : List Bytes} (isNalu : ∀ nal ∈ nals, IsNalu nal) {extradata : Bytes}
    (known : extradataOf (codec.firsts nals) = some extradata) :
    (codec.firsts nals).map Prod.snd = (nalusOf extradata).map some := by
  obtain ⟨all, rfl⟩ := extradataOf_eq_some.mp known
  have held : ∀ nal ∈ (codec.firsts nals).filterMap Prod.snd, IsNalu nal := by
    intro nal member
    obtain ⟨set, inFirsts, found⟩ := List.mem_filterMap.mp member
    obtain ⟨kind, -, rfl⟩ := List.mem_map.mp inFirsts
    exact isNalu nal (List.mem_of_find?_eq_some found)
  rw [nalusOf_mixed held]
  exact map_snd_of_all all

end

/-! ## One stream -/

/-- The codec of a stream whose sets are searched, while its extradata is too short to hold them. -/
def searched (codecpar : CodecPar) : Option PsCodec :=
  match codecpar.codecType, codecpar.codecId with
  | .video, .h264 => if codecpar.extradata.length < 15 then some h264 else none
  | .video, .hevc => if codecpar.extradata.length < 23 then some h265 else none
  | _, _ => none

namespace Repair

def held (repair : Repair) : Option Sets :=
  match repair.codecpar.codecId with
  | .h264 => repair.param.h264Ps
  | .hevc => repair.param.h265Ps
  | _ => none

end Repair

theorem repairPs_spec (codec : PsCodec) (sets : Option Sets) (keep : Sets → Repair) (data : Bytes) :
    ∃ next, Repair.repairPs codec sets keep data =
        ((extradataOf (codec.extractPs data (sets.getD codec.default))).isSome, next) ∧
      next.param = (keep (codec.extractPs data (sets.getD codec.default))).param ∧
      next.codecpar = { (keep (codec.extractPs data (sets.getD codec.default))).codecpar with
        extradata := (extradataOf (codec.extractPs data (sets.getD codec.default))).getD
          (keep (codec.extractPs data (sets.getD codec.default))).codecpar.extradata } := by
  rw [Repair.repairPs]
  dsimp only
  split
  · rename_i missing
    rw [missing]
    exact ⟨_, rfl, rfl, rfl⟩
  · rename_i extradata known
    rw [known]
    exact ⟨_, rfl, rfl, rfl⟩

theorem repairBasicStreamInfo_searched {repair : Repair} {codec : PsCodec}
    (isCodec : searched repair.codecpar = some codec) (data : Bytes) :
    ∃ next, repair.repairBasicStreamInfo data =
        ((extradataOf (codec.extractPs data (repair.held.getD codec.default))).isSome, next) ∧
      next.held = some (codec.extractPs data (repair.held.getD codec.default)) ∧
      next.codecpar = { repair.codecpar with
        extradata := (extradataOf (codec.extractPs data (repair.held.getD codec.default))).getD
          repair.codecpar.extradata } := by
  obtain ⟨⟨codecType, codecId, extradata⟩, param⟩ := repair
  match codecType, codecId with
  | .video, .h264 =>
      by_cases short : extradata.length < 15
      · cases (if_pos short).symm.trans isCodec
        obtain ⟨next, made, held, codecpar⟩ := repairPs_spec h264 param.h264Ps
          (fun sets => ⟨⟨.video, .h264, extradata⟩, { param with h264Ps := some sets }⟩) data
        refine ⟨next, (if_pos short).trans made, ?_, codecpar⟩
        rw [Repair.held, held, codecpar]
        rfl
      · cases (if_neg short).symm.trans isCodec
  | .video, .hevc =>
      by_cases short : extradata.length < 23
      · cases (if_pos short).symm.trans isCodec
        obtain ⟨next, made, held, codecpar⟩ := repairPs_spec h265 param.h265Ps
          (fun sets => ⟨⟨.video, .hevc, extradata⟩, { param with h265Ps := some sets }⟩) data
        refine ⟨next, (if_pos short).trans made, ?_, codecpar⟩
        rw [Repair.held, held, codecpar]
        rfl
      · cases (if_neg short).symm.trans isCodec

/-- What the repair of a stream has found in the NAL units of its packets. -/
structure Found (codec : PsCodec) (codecpar : CodecPar) (nals : List Bytes) (param : Param Repair) : Prop where
  ready : param.ready = (extradataOf (codec.firsts nals)).isSome
  codecpar : param.repair.codecpar = { codecpar with
    extradata := (extradataOf (codec.firsts nals)).getD codecpar.extradata }
  held : param.ready = false → param.repair.held.getD codec.default = codec.firsts nals

section

variable {codec : PsCodec} {codecpar : CodecPar} (isCodec : searched codecpar = some codec)

include isCodec

theorem extradataOf_firsts_nil : extradataOf (codec.firsts []) = none := by
  rw [searched] at isCodec
  split at isCodec
  · split at isCodec <;> cases isCodec
    rfl
  · split at isCodec <;> cases isCodec
    rfl
  · cases isCodec

theorem found_first (videoDelay : Int32) :
    Found codec codecpar [] ⟨false, videoDelay, ⟨codecpar, none, none, none⟩⟩ := by
  have nothing := extradataOf_firsts_nil isCodec
  refine ⟨by rw [nothing]; rfl, by rw [nothing]; rfl, fun _ => ?_⟩
  have held : (⟨codecpar, none, none, none⟩ : Repair).held = none := by
    rw [Repair.held]
    split <;> rfl
  rw [held]
  rfl

theorem found_step {nals : List Bytes} {param : Param Repair} (found : Found codec codecpar nals param)
    (accepted : Accepted) :
    Found codec codecpar (nals ++ nalusOf accepted.frame.payload) (repairOnce repairParam param accepted) := by
  rw [repairOnce]
  cases ready : param.ready with
  | true =>
      obtain ⟨extradata, known⟩ := Option.isSome_iff_exists.mp (found.ready.symm.trans ready)
      have same := firsts_of_known known (nalusOf accepted.frame.payload)
      rw [if_pos rfl]
      refine ⟨by rw [same]; exact found.ready, by rw [same]; exact found.codecpar, fun waits => ?_⟩
      rw [ready] at waits
      cases waits
  | false =>
      have missing : extradataOf (codec.firsts nals) = none :=
        Option.isNone_iff_eq_none.mp (by rw [← Option.not_isSome, ← found.ready, ready]; rfl)
      have unchanged : param.repair.codecpar = codecpar := by
        rw [found.codecpar, missing]
        rfl
      obtain ⟨next, made, held, repaired⟩ := repairBasicStreamInfo_searched
        (unchanged.symm ▸ isCodec : searched param.repair.codecpar = some codec) accepted.frame.payload
      rw [found.held ready, extractPs_firsts] at made held repaired
      rw [if_neg Bool.false_ne_true, repairParam, made]
      refine ⟨rfl, ?_, fun _ => by rw [held]; rfl⟩
      rw [repaired, unchanged]

theorem found_foldl {nals : List Bytes} {param : Param Repair} (found : Found codec codecpar nals param)
    (accepted : List Accepted) :
    Found codec codecpar (nals ++ accepted.flatMap fun accepted => nalusOf accepted.frame.payload)
      (accepted.foldl (repairOnce repairParam) param) := by
  induction accepted generalizing nals param with
  | nil => rwa [List.flatMap_nil, List.append_nil]
  | cons accepted rest ih =>
      rw [List.flatMap_cons, ← List.append_assoc, List.foldl_cons]
      exact ih (found_step isCodec found accepted)

end

/-! ## The start of a playback -/

def freshRepair (codecpars : Nat → CodecPar) (index : Nat) : Repair := ⟨codecpars index, none, none, none⟩

/-- The NAL units of the packets of a stream that were accepted at the start. -/
def seenOf (infos : List StreamInfo) (codecpars : Nat → CodecPar) (read : List Frame) (index : Nat) : List Bytes :=
  ((acceptedOf (Runs.run (fixStep repairParam infos) (.first infos (freshRepair codecpars)) read)).filter
    fun accepted => accepted.index == index).flatMap fun accepted => nalusOf accepted.frame.payload

/-- The sets of a stream are known when each kind has been seen; then its extradata are the first of each
kind behind long start codes, and no others are read from it. -/
structure Known (codec : PsCodec) (seen : List Bytes) (param : Param Repair) : Prop where
  ready : param.ready = true ↔ ∀ kind ∈ codec.kinds, ∃ nal ∈ seen, codec.nalType nal = kind
  extradata : param.ready = true →
    param.repair.codecpar.extradata = coded (nalusOf param.repair.codecpar.extradata) ∧
      (nalusOf param.repair.codecpar.extradata).map some =
        codec.kinds.map fun kind => seen.find? fun nal => codec.nalType nal == kind

theorem Found.known {codec : PsCodec} {codecpar : CodecPar} {seen : List Bytes} {param : Param Repair}
    (found : Found codec codecpar seen param) (isNalu : ∀ nal ∈ seen, IsNalu nal) : Known codec seen param where
  ready := by rw [found.ready, extradataOf_firsts_isSome]
  extradata := by
    intro ready
    obtain ⟨extradata, known⟩ := Option.isSome_iff_exists.mp (found.ready.symm.trans ready)
    have same : param.repair.codecpar.extradata = extradata := by rw [found.codecpar, known]; rfl
    have firsts := nalusOf_extradata isNalu known
    obtain ⟨all, whole⟩ := extradataOf_eq_some.mp known
    have read := List.map_injective_iff.mpr (Option.some_injective _) ((map_snd_of_all all).symm.trans firsts)
    rw [same, ← read]
    refine ⟨whole.symm, (map_snd_of_all all).symm.trans ?_⟩
    rw [PsCodec.firsts, List.map_map]
    rfl

theorem params_first (infos : List StreamInfo) (codecpars : Nat → CodecPar) {index : Nat}
    (inside : index < infos.length) :
    (Fix.first infos (freshRepair codecpars)).params[index]? =
      some ⟨false, infos[index].videoDelay, freshRepair codecpars index⟩ := by
  rw [Fix.first, paramsOf, List.getElem?_mapIdx, List.getElem?_eq_getElem inside]
  rfl

/-- At every packet of the start of a playback, whichever packets of other streams come in between; the
stream's extradata does not hold the sets when the playback starts. -/
theorem parameter_sets_known (infos : List StreamInfo) (codecpars : Nat → CodecPar) (read : List Frame)
    (index : Nat) (inside : index < infos.length) (codec : PsCodec)
    (isCodec : searched (codecpars index) = some codec) :
    ∃ param, (Runs.final (fixStep repairParam infos) (.first infos (freshRepair codecpars)) read).params[index]? =
        some param ∧ Known codec (seenOf infos codecpars read index) param := by
  have final := @params_final Repair repairParam infos (.first infos (freshRepair codecpars)) read index
  rw [params_first infos codecpars inside, Option.map_some] at final
  have found := found_foldl isCodec (found_first isCodec infos[index].videoDelay)
    ((acceptedOf (Runs.run (fixStep repairParam infos) (.first infos (freshRepair codecpars)) read)).filter
      fun accepted => accepted.index == index)
  rw [List.nil_append] at found
  refine ⟨_, final, found.known fun nal member => ?_⟩
  obtain ⟨accepted, -, inPayload⟩ := List.mem_flatMap.mp member
  exact isNalu_nalusOf nal inPayload

/-- A camera that sends its picture parameter set in a packet of its own. -/
theorem parameter_sets_known_apart :
    let infos : List StreamInfo := [⟨.video, (1, 90000), 0⟩]
    let read : List Frame := [⟨⟨0, false, 6, 0, 0⟩, true, [0, 0, 0, 1, 0x67, 9]⟩,
      ⟨⟨0, false, 5, 1, 1⟩, false, [0, 0, 1, 0x68, 5]⟩]
    seenOf infos (fun _ => ⟨.video, .h264, []⟩) read 0 = [[0x67, 9], [0x68, 5]] ∧
      ∃ param, (Runs.final (fixStep repairParam infos)
          (.first infos (freshRepair fun _ => ⟨.video, .h264, []⟩)) read).params[0]? = some param ∧
        Known h264 (seenOf infos (fun _ => ⟨.video, .h264, []⟩) read 0) param :=
  ⟨by decide +kernel, parameter_sets_known _ _ _ 0 (by decide) h264 rfl⟩

theorem repairBasicStreamInfo_filled {repair : Repair} (isVideo : repair.codecpar.codecType = .video)
    (filled : searched repair.codecpar = none) (data : Bytes) :
    repair.repairBasicStreamInfo data = (true, repair) := by
  obtain ⟨⟨codecType, codecId, extradata⟩, param⟩ := repair
  cases isVideo
  cases codecId with
  | h264 =>
      by_cases short : extradata.length < 15
      · cases (if_pos short).symm.trans filled
      · exact if_neg short
  | hevc =>
      by_cases short : extradata.length < 23
      · cases (if_pos short).symm.trans filled
      · exact if_neg short
  | aac => rfl
  | other => rfl

/-- A video stream whose extradata is long enough from the start is ready with its first packet, and keeps
it. -/
theorem filled_extradata_kept (infos : List StreamInfo) (codecpars : Nat → CodecPar) (read : List Frame)
    (index : Nat) (inside : index < infos.length) (isVideo : (codecpars index).codecType = .video)
    (filled : searched (codecpars index) = none) :
    ∃ param, (Runs.final (fixStep repairParam infos) (.first infos (freshRepair codecpars)) read).params[index]? =
        some param ∧ param.repair.codecpar = codecpars index ∧
      (param.ready = true ↔
        ∃ accepted ∈ acceptedOf (Runs.run (fixStep repairParam infos) (.first infos (freshRepair codecpars)) read),
          accepted.index = index) := by
  have final := @params_final Repair repairParam infos (.first infos (freshRepair codecpars)) read index
  rw [params_first infos codecpars inside, Option.map_some] at final
  refine ⟨_, final, ?_⟩
  generalize acceptedOf (Runs.run (fixStep repairParam infos) (.first infos (freshRepair codecpars)) read) =
    packets
  have once (ready : Bool) (accepted : Accepted) :
      repairOnce repairParam ⟨ready, infos[index].videoDelay, freshRepair codecpars index⟩ accepted =
        ⟨true, infos[index].videoDelay, freshRepair codecpars index⟩ := by
    cases ready with
    | true => rfl
    | false =>
        have repaired : (freshRepair codecpars index).repairBasicStreamInfo accepted.frame.payload =
            (true, freshRepair codecpars index) := repairBasicStreamInfo_filled isVideo filled _
        rw [repairOnce, if_neg Bool.false_ne_true, repairParam, repaired]
  have own (accepted : Accepted) : (accepted ∈ packets.filter fun accepted => accepted.index == index) ↔
      accepted ∈ packets ∧ accepted.index = index := by
    rw [List.mem_filter, beq_iff_eq]
  cases accepted : packets.filter fun accepted => accepted.index == index with
  | nil =>
      refine ⟨rfl, ⟨fun ready => (by cases ready), fun ⟨packet, member, here⟩ => ?_⟩⟩
      have listed := (own packet).mpr ⟨member, here⟩
      rw [accepted] at listed
      cases listed
  | cons packet rest =>
      obtain ⟨member, here⟩ := (own packet).mp (accepted ▸ List.mem_cons_self)
      rw [List.foldl_cons, once, List.foldl_fixed' (once true)]
      exact ⟨rfl, ⟨fun _ => ⟨packet, member, here⟩, fun _ => rfl⟩⟩

end Gmv.Stream.ParameterSets
