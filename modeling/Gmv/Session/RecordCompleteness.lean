import Gmv.Session.MediaRequest
import Gmv.Stream.Mp4Recorder

/-!
# The state of a finished recording

A media node reports the size of a recording and the time of its last packet, in
seconds; `end_record` compares this time with the length of the interval that was to
be recorded and stores a state.  The path of the file, the clock and the answers of the
database are given.
-/

namespace Gmv.Session.RecordCompleteness

open Gmv.Session.MediaRequest (GlobalError)
open Gmv.Stream.Mp4Recorder

structure GmvRecord where
  bizId : String
  deviceId : String
  channelId : String
  st : NaiveDateTime
  et : NaiveDateTime
  state : Nat
  lt : NaiveDateTime
  deriving DecidableEq, Repr

structure GmvFileInfo where
  deviceId : String
  channelId : String
  bizTime : NaiveDateTime
  bizId : String
  fileType : Int
  fileSize : Nat
  fileName : String
  fileFormat : String
  dirPath : String
  absPath : String
  isDel : Int
  createTime : NaiveDateTime
  deriving DecidableEq, Repr

/-- What `get_path` makes of the path of a file. -/
structure RecordPath where
  absPath : String
  dirPath : String
  bizId : String
  extension : String
  deriving DecidableEq, Repr

/-- The clock, the reading of a path, and the answers of the database. -/
structure Env where
  now : NaiveDateTime
  getPath : String → Except GlobalError RecordPath
  query : Except GlobalError Unit
  update : Except GlobalError Unit
  insert : Except GlobalError Unit

/-- The two tables; a record is found by its `biz_id`. -/
structure World where
  records : String → Option GmvRecord
  files : List GmvFileInfo

/-- The value, if it is one of `i64`. -/
def i64 (value : Int) : Option Int :=
  if -2 ^ 63 ≤ value ∧ value < 2 ^ 63 then some value else none

/-- Instants are counted in nanoseconds. -/
def nanosPerSec : Int := 1000000000

/-- `TimeDelta::num_seconds`: the fraction is cut off. -/
def numSeconds (delta : Int) : Int := delta.tdiv nanosPerSec

/-- The state that `end_record` computes; there is none where the product does not fit. -/
def judge (info : StreamRecordInfo) (record : GmvRecord) : Option Nat :=
  if info.fileSize = 0 ∨ info.timestamp = 0 then some 3
  else
    let totalSecs := numSeconds (record.et - record.st)
    if totalSecs ≤ 0 then some 3
    else
      match i64 ((info.timestamp : Int) * 1000) with
      | none => none
      | some product =>
          let per := product.tdiv totalSecs
          if per > 98 then some 1 else some 2

/-- `update GMV_RECORD set state=?,lt=? where biz_id=?`. -/
def updateRecord (record : GmvRecord) (world : World) : World :=
  { world with
    records := fun bizId =>
      if bizId = record.bizId then
        (world.records bizId).map fun row => { row with state := record.state, lt := record.lt }
      else world.records bizId }

def fileInfo (env : Env) (info : StreamRecordInfo) (path : RecordPath) (record : GmvRecord) :
    GmvFileInfo where
  deviceId := record.deviceId
  channelId := record.channelId
  bizTime := env.now
  bizId := path.bizId
  fileType := 1
  fileSize := info.fileSize
  fileName := record.bizId
  fileFormat := path.extension
  dirPath := path.dirPath
  absPath := path.absPath
  isDel := 0
  createTime := env.now

/-- The result is `none` where the arithmetic overflows. -/
def endRecord (env : Env) (info : StreamRecordInfo) (world : World) :
    Option (Except GlobalError Unit × World) :=
  match info.pathFileName with
  | none => some (.ok (), world)
  | some pathFileName =>
      match env.getPath pathFileName with
      | .error error => some (.error error, world)
      | .ok path =>
          match env.query with
          | .error error => some (.error error, world)
          | .ok () =>
              match world.records path.bizId with
              | none => some (.ok (), world)
              | some record =>
                  match judge info record with
                  | none => none
                  | some state =>
                      let record := { record with state := state, lt := env.now }
                      match env.update with
                      | .error error => some (.error error, world)
                      | .ok () =>
                          let world := updateRecord record world
                          match env.insert with
                          | .error error => some (.error error, world)
                          | .ok () =>
                              some (.ok (),
                                { world with files := world.files ++ [fileInfo env info path record] })

/-! ## What the states should mean -/

/-- The recorded time, from the media time at which the recording starts. -/
def duration (start : Nat) (pkts : List MuxPacket) : Int :=
  ((lastTimestamp pkts : Int) - start) * nanosPerSec

/-- At least 98 percent of the interval. -/
def Complete (start : Nat) (pkts : List MuxPacket) (record : GmvRecord) : Prop :=
  98 * (record.et - record.st) ≤ 100 * duration start pkts

instance (start : Nat) (pkts : List MuxPacket) (record : GmvRecord) :
    Decidable (Complete start pkts record) := inferInstanceAs (Decidable (_ ≤ _))

/-- State 1 is for complete recordings only, and something that is incomplete has state 2. -/
def Fits (start : Nat) (pkts : List MuxPacket) (record : GmvRecord) (state : Nat) : Prop :=
  (state = 1 → Complete start pkts record) ∧
    (pkts ≠ [] → ¬Complete start pkts record → state = 2)

/-- The arithmetic goes through and the state that is stored fits. -/
def JudgedRight (env : Env) (start : Nat) (path fileName : String) (pkts : List MuxPacket)
    (record : GmvRecord) (world : World) : Prop :=
  ∃ after state, endRecord env (recordedInfo path fileName pkts) world = some (.ok (), after) ∧
    after.records record.bizId = some { record with state := state, lt := env.now } ∧
    Fits start pkts record state

/-- The path leads to the record, and the database answers. -/
structure Stored (env : Env) (path fileName : String) (record : GmvRecord) (world : World) : Prop
    where
  getPath : ∃ recordPath, env.getPath s!"{path}/mp4/{fileName}.mp4" = .ok recordPath ∧
    recordPath.bizId = record.bizId
  query : env.query = .ok ()
  update : env.update = .ok ()
  insert : env.insert = .ok ()
  found : world.records record.bizId = some record

/-! ## When they mean it -/

/-- The tables after `end_record` has stored a state. -/
def afterEnd (env : Env) (info : StreamRecordInfo) (path : RecordPath) (record : GmvRecord)
    (world : World) (state : Nat) : World :=
  let record := { record with state := state, lt := env.now }
  { updateRecord record world with files := world.files ++ [fileInfo env info path record] }

theorem endRecord_stored {env : Env} {path fileName : String} {record : GmvRecord}
    {world : World} (stored : Stored env path fileName record world) (pkts : List MuxPacket) :
    ∃ recordPath, endRecord env (recordedInfo path fileName pkts) world =
      (judge (recordedInfo path fileName pkts) record).map fun state =>
        (.ok (), afterEnd env (recordedInfo path fileName pkts) recordPath record world state) := by
  obtain ⟨recordPath, named, sameId⟩ := stored.getPath
  refine ⟨recordPath, ?_⟩
  simp only [endRecord, recordedInfo, named, stored.query, sameId, stored.found, stored.update,
    stored.insert]
  cases judge _ record with
  | none => rfl
  | some state => rfl

theorem afterEnd_records (env : Env) (info : StreamRecordInfo) (path : RecordPath)
    {record : GmvRecord} {world : World} (found : world.records record.bizId = some record)
    (state : Nat) :
    (afterEnd env info path record world state).records record.bizId =
      some { record with state := state, lt := env.now } := by
  simp [afterEnd, updateRecord, found]

theorem judgedRight_iff_fits {env : Env} {path fileName : String} {record : GmvRecord}
    {world : World} (stored : Stored env path fileName record world) (start : Nat)
    (pkts : List MuxPacket) :
    JudgedRight env start path fileName pkts record world ↔
      ∃ state, judge (recordedInfo path fileName pkts) record = some state ∧
        Fits start pkts record state := by
  obtain ⟨recordPath, ends⟩ := endRecord_stored stored pkts
  have kept := afterEnd_records env (recordedInfo path fileName pkts) recordPath stored.found
  unfold JudgedRight
  rw [ends]
  constructor
  · rintro ⟨after, state, returned, row, fits⟩
    obtain ⟨judged, same, reached⟩ := Option.map_eq_some_iff.mp returned
    cases reached
    rw [kept judged] at row
    cases row
    exact ⟨_, same, fits⟩
  · rintro ⟨state, judged, fits⟩
    exact ⟨_, state, by rw [judged]; rfl, kept state, fits⟩

/-- A `u32` times 1000 is an `i64`. -/
theorem i64_timestamp {timestamp : Nat} (small : timestamp < 2 ^ 32) :
    i64 ((timestamp : Int) * 1000) = some ((timestamp : Int) * 1000) := by
  rw [i64, if_pos (by omega)]

/-- The threshold is a number of thousandths. -/
theorem per_le_iff {timestamp : Nat} {totalSecs : Int} (positive : 0 < totalSecs) :
    ¬((timestamp : Int) * 1000).tdiv totalSecs > 98 ↔
      (timestamp : Int) * 1000 < 99 * totalSecs := by
  rw [Int.tdiv_eq_ediv_of_nonneg (by omega), gt_iff_lt, not_lt, ← Int.lt_add_one_iff,
    Int.ediv_lt_iff_lt_mul positive]
  rfl

/-- The state that is computed; the product never overflows. -/
theorem judge_cases (info : StreamRecordInfo) (record : GmvRecord)
    (small : info.timestamp < 2 ^ 32) :
    ∃ state, judge info record = some state ∧
      (state = 2 ↔ info.fileSize ≠ 0 ∧ info.timestamp ≠ 0 ∧
        0 < numSeconds (record.et - record.st) ∧
        (info.timestamp : Int) * 1000 < 99 * numSeconds (record.et - record.st)) ∧
      (info.fileSize = 0 → state ≠ 1) := by
  unfold judge
  by_cases nothing : info.fileSize = 0 ∨ info.timestamp = 0
  · rw [if_pos nothing]
    exact ⟨3, rfl, ⟨nofun, fun both => (nothing.elim both.1 both.2.1).elim⟩, nofun⟩
  rw [if_neg nothing]
  obtain ⟨size, time⟩ := not_or.mp nothing
  by_cases noTime : numSeconds (record.et - record.st) ≤ 0
  · rw [if_pos noTime]
    exact ⟨3, rfl, ⟨nofun, fun both => absurd both.2.2.1 (not_lt.mpr noTime)⟩, nofun⟩
  rw [if_neg noTime, i64_timestamp small]
  have below := @per_le_iff info.timestamp _ (not_le.mp noTime)
  by_cases above : ((info.timestamp : Int) * 1000).tdiv (numSeconds (record.et - record.st)) > 98
  · refine ⟨1, if_pos above, ⟨nofun, fun both => ?_⟩, fun empty => absurd empty size⟩
    exact absurd above (below.mpr both.2.2.2)
  · exact ⟨2, if_neg above,
      iff_of_true rfl ⟨size, time, not_le.mp noTime, below.mp above⟩, nofun⟩

/-- Something was recorded, and its time is below 99 thousandths of the interval. -/
def BelowThreshold (pkts : List MuxPacket) (record : GmvRecord) : Prop :=
  totalSize pkts ≠ 0 ∧ lastTimestamp pkts % 2 ^ 32 ≠ 0 ∧
    0 < numSeconds (record.et - record.st) ∧
    ((lastTimestamp pkts % 2 ^ 32 : Nat) : Int) * 1000 < 99 * numSeconds (record.et - record.st)

instance (pkts : List MuxPacket) (record : GmvRecord) :
    Decidable (BelowThreshold pkts record) := inferInstanceAs (Decidable (_ ∧ _))

/-- The stored state fits exactly when nothing was recorded, the recording is complete, or it
is below the threshold of the code. -/
theorem judgedRight_iff (env : Env) (path fileName : String) (record : GmvRecord) (world : World)
    (stored : Stored env path fileName record world) (start : Nat) (pkts : List MuxPacket) :
    JudgedRight env start path fileName pkts record world ↔
      pkts = [] ∨ Complete start pkts record ∨ BelowThreshold pkts record := by
  obtain ⟨state, judged, two, one⟩ :=
    judge_cases (recordedInfo path fileName pkts) record (Nat.mod_lt _ (by decide))
  have below : state = 2 ↔ BelowThreshold pkts record := two
  have fits : JudgedRight env start path fileName pkts record world ↔
      Fits start pkts record state := by
    rw [judgedRight_iff_fits stored, judged]
    simp
  rw [fits, ← below]
  constructor
  · intro fit
    by_cases nothing : pkts = []
    · exact .inl nothing
    by_cases complete : Complete start pkts record
    · exact .inr (.inl complete)
    · exact .inr (.inr (fit.2 nothing complete))
  · rintro (nothing | complete | incomplete)
    · exact ⟨fun first => absurd first (one (by rw [recordedInfo, nothing]; rfl)),
        fun something => absurd nothing something⟩
    · exact ⟨fun _ => complete, fun _ partly => absurd complete partly⟩
    · exact ⟨fun first => absurd (incomplete.symm.trans first) (by decide), fun _ _ => incomplete⟩

/-! ## Two recordings -/

def hundredSeconds : GmvRecord := ⟨"a", "340", "1", 0, 100 * nanosPerSec, 0, 0⟩

def plainEnv : Env :=
  ⟨0, fun _ => .ok ⟨"/store", "/download/b/c", "a", "mp4"⟩, .ok (), .ok (), .ok ()⟩

def plainWorld : World := ⟨fun bizId => if bizId = "a" then some hundredSeconds else none, []⟩

theorem plain_stored : Stored plainEnv "/store" "a" hundredSeconds plainWorld where
  getPath := ⟨_, rfl, rfl⟩
  query := rfl
  update := rfl
  insert := rfl
  found := rfl

/-- All of the interval is recorded. -/
theorem judgedRight_whole :
    JudgedRight plainEnv 0 "/store" "a" [⟨[1], true, 0⟩, ⟨[2], false, 100⟩] hundredSeconds
      plainWorld :=
  (judgedRight_iff plainEnv "/store" "a" hundredSeconds plainWorld plain_stored 0 _).mpr
    (.inr (.inl (by decide)))

/-- Ten of a hundred seconds get the state of a complete recording. -/
theorem judgedRight_tenth :
    ¬JudgedRight plainEnv 0 "/store" "a" [⟨[1], true, 0⟩, ⟨[2], false, 10⟩] hundredSeconds
      plainWorld := by
  rw [judgedRight_iff_fits plain_stored]
  rintro ⟨state, judged, fits⟩
  have one : judge (recordedInfo "/store" "a" [⟨[1], true, 0⟩, ⟨[2], false, 10⟩]) hundredSeconds =
      some 1 := by decide
  rw [one] at judged
  cases judged
  exact absurd (fits.1 rfl) (by decide)

end Gmv.Session.RecordCompleteness
