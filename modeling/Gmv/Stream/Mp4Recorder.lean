import Gmv.Stream.RtpPacket

/-!
# Recording a stream to an MP4 file

The recorder waits for a key frame, writes the file header in front of it, and then
writes every packet that it receives, until the packets end or it is told to close.
The packet channel and the channel of inner events are one list of events, in the
order in which `select!` takes them; the results of the file system and of the header
request are given.  The recorder of the model keeps the events that it has received;
the code keeps no such record.
-/

namespace Gmv.Stream.Mp4Recorder

structure MuxPacket where
  data : Bytes
  isKey : Bool
  timestamp : Nat
  deriving DecidableEq, Repr

structure StreamRecordInfo where
  pathFileName : Option String
  fileSize : Nat
  timestamp : Nat
  state : Nat
  deriving DecidableEq, Repr

/-- A packet, an overflow of the packet channel or its end; a request for the progress, a
request to close, or an error of the event channel. -/
inductive Event where
  | packet (pkt : MuxPacket)
  | lagged
  | closed
  | storeInfo
  | close
  | innerError
  deriving DecidableEq, Repr

inductive Written where
  | header (bytes : Bytes)
  | packet (pkt : MuxPacket)
  deriving DecidableEq, Repr

/-- What the file system and the muxer answer. -/
structure Io where
  createDirAll : Bool
  createFile : Bool
  header : Option Bytes
  accepts : List Written → Written → Bool

/-- `LocalStoreMp4Context`, its file, and the progress reports that it has sent. -/
structure Context where
  fileSize : Nat
  ts : Nat
  state : Nat
  file : List Written
  reports : List StreamRecordInfo
  received : List Event
  deriving DecidableEq, Repr

namespace Context

def new : Context := ⟨0, 0, 0, [], [], []⟩

def receive (c : Context) (event : Event) : Context := { c with received := c.received ++ [event] }

/-- `file.write_all`. -/
def writeAll (io : Io) (c : Context) (written : Written) : Option Context :=
  if io.accepts c.file written then some { c with file := c.file ++ [written] } else none

/-- The progress after a packet. -/
def progress (c : Context) (pkt : MuxPacket) : Context :=
  { c with ts := pkt.timestamp, fileSize := c.fileSize + pkt.data.length }

/-- The answer to `StoreInfo`; the time is cut to a `u32`. -/
def report (c : Context) : Context :=
  { c with reports := c.reports ++ [⟨none, c.fileSize, c.ts % 2 ^ 32, c.state⟩] }

end Context

/-- Where `run` stands when the events are used up, or how it ended. -/
inductive Outcome where
  | pending (c : Context)
  | failed (c : Context)
  | returned (c : Context)
  deriving DecidableEq, Repr

namespace Outcome

def context : Outcome → Context
  | .pending c | .failed c | .returned c => c

def isReturned : Outcome → Bool
  | .returned _ => true
  | _ => false

end Outcome

/-- The loop of `run` behind the first key frame. -/
def storeLoop (io : Io) : Context → List Event → Outcome
  | c, [] => .pending c
  | c, .packet pkt :: rest =>
      let c := c.receive (.packet pkt)
      match c.writeAll io (.packet pkt) with
      | none => .failed c
      | some c => storeLoop io (c.progress pkt) rest
  | c, .lagged :: _ => .returned (c.receive .lagged)
  | c, .closed :: _ => .returned (c.receive .closed)
  | c, .storeInfo :: rest => storeLoop io (c.receive .storeInfo).report rest
  | c, .close :: _ => .returned (c.receive .close)
  | c, .innerError :: rest => storeLoop io (c.receive .innerError) rest

/-- How the first loop leaves. -/
inductive Opening where
  | pending (c : Context)
  | failed (c : Context)
  | done (c : Context) (rest : List Event)

/-- The first loop: every receive error and every request to close ends it as the first
key frame does. -/
def handleFirstKeyFrame (io : Io) : Context → List Event → Opening
  | c, [] => .pending c
  | c, .packet pkt :: rest =>
      let c := c.receive (.packet pkt)
      if pkt.isKey then
        match io.header with
        | none => .failed c
        | some header =>
            match c.writeAll io (.header header) with
            | none => .failed c
            | some c =>
                match c.writeAll io (.packet pkt) with
                | none => .failed c
                | some c => .done (c.progress pkt) rest
      else handleFirstKeyFrame io c rest
  | c, .lagged :: rest => .done (c.receive .lagged) rest
  | c, .closed :: rest => .done (c.receive .closed) rest
  | c, .storeInfo :: rest => handleFirstKeyFrame io (c.receive .storeInfo).report rest
  | c, .close :: rest => .done (c.receive .close) rest
  | c, .innerError :: rest => handleFirstKeyFrame io (c.receive .innerError) rest

/-- Both loops. -/
def runLoops (io : Io) (c : Context) (events : List Event) : Outcome :=
  match handleFirstKeyFrame io c events with
  | .pending c => .pending c
  | .failed c => .failed c
  | .done c rest => storeLoop io c rest

def run (io : Io) (events : List Event) : Outcome :=
  if !io.createDirAll then .failed .new
  else if !io.createFile then .failed .new
  else runLoops io .new events

/-- The `EndRecord` event that `store` sends when `run` has ended. -/
def endRecordInfo (path fileName : String) : Outcome → Option StreamRecordInfo
  | .pending _ => none
  | .returned c => some ⟨some s!"{path}/mp4/{fileName}.mp4", c.fileSize, c.ts % 2 ^ 32, 1⟩
  | .failed _ => some ⟨some s!"{path}/mp4/{fileName}.mp4", 0, 0, 3⟩

/-! ## What a recording should be -/

/-- The packets that the recorder received. -/
def packets (events : List Event) : List MuxPacket :=
  events.filterMap fun
    | .packet pkt => some pkt
    | _ => none

/-- Nothing fails, and the header request brings a header. -/
structure Healthy (io : Io) (header : Bytes) : Prop where
  createDirAll : io.createDirAll = true
  createFile : io.createFile = true
  header : io.header = some header
  accepts : ∀ file written, io.accepts file written = true

/-- The end of the channel or the request to close was received. -/
def Ended (received : List Event) : Prop := .closed ∈ received ∨ .close ∈ received

instance (received : List Event) : Decidable (Ended received) := inferInstanceAs (Decidable (_ ∨ _))

/-- The file is empty, or holds the header, the first key packet and every packet that was
received later; a recorder that has returned was told to or saw the end of the channel. -/
structure WellStored (header : Bytes) (outcome : Outcome) : Prop where
  file : outcome.context.file = [] ∨
    ∃ skipped key later, packets outcome.context.received = skipped ++ key :: later ∧
      (∀ pkt ∈ skipped, pkt.isKey = false) ∧ key.isKey = true ∧
      outcome.context.file = .header header :: .packet key :: later.map .packet
  ended : outcome.isReturned = true → Ended outcome.context.received

/-! ## When it is one -/

/-- No packet comes before the next event that ends a loop. -/
def noPacket : List Event → Bool
  | [] | .lagged :: _ | .closed :: _ | .close :: _ => true
  | .packet _ :: _ => false
  | .storeInfo :: rest | .innerError :: rest => noPacket rest

/-- The next event that ends a loop is not an overflow. -/
def noOverflow : List Event → Bool
  | [] | .closed :: _ | .close :: _ => true
  | .lagged :: _ => false
  | .packet _ :: rest | .storeInfo :: rest | .innerError :: rest => noOverflow rest

/-- An overflow or a request to close before the first key packet is followed by another end
of a loop before any packet, and a loop that returns on its own account does not do so at an
overflow. -/
def harmless : List Event → Bool
  | [] | .closed :: _ => true
  | .packet pkt :: rest => if pkt.isKey then noOverflow rest else harmless rest
  | .lagged :: rest => noPacket rest && noOverflow rest
  | .close :: rest => noPacket rest
  | .storeInfo :: rest | .innerError :: rest => harmless rest

/-- No packet and no overflow. -/
def silent : List Event → Bool
  | [] => true
  | .packet _ :: _ | .lagged :: _ => false
  | .closed :: rest | .storeInfo :: rest | .close :: rest | .innerError :: rest => silent rest

/-- A channel that has ended stays so. -/
def orderly : List Event → Bool
  | [] => true
  | .closed :: rest => silent rest
  | .packet _ :: rest | .lagged :: rest | .storeInfo :: rest | .close :: rest
  | .innerError :: rest => orderly rest

theorem noPacket_of_silent {events : List Event} (quiet : silent events = true) :
    noPacket events = true := by
  induction events with
  | nil => rfl
  | cons event rest ih => cases event <;> simp_all [silent, noPacket]

section

variable {io : Io} {header : Bytes}

theorem Healthy.writeAll (healthy : Healthy io header) (c : Context) (written : Written) :
    c.writeAll io written = some { c with file := c.file ++ [written] } := by
  rw [Context.writeAll, if_pos (healthy.accepts _ _)]

theorem packets_append (first second : List Event) :
    packets (first ++ second) = packets first ++ packets second :=
  List.filterMap_append ..

theorem ended_append (first second : List Event) :
    Ended (first ++ second) ↔ Ended first ∨ Ended second := by
  simp only [Ended, List.mem_append]
  tauto

/-- The second loop writes what it receives; whether it receives packets and how it ends
can be told from the events. -/
structure Stores (c : Context) (events seen : List Event) (outcome : Outcome) : Prop where
  received : outcome.context.received = c.received ++ seen
  file : outcome.context.file = c.file ++ (packets seen).map .packet
  quiet : noPacket events = true ↔ packets seen = []
  ended : noOverflow events = true ↔ (outcome.isReturned = true → Ended seen)

/-- An event that does not end the loop. -/
theorem Stores.cons {c next : Context} {event : Event} {rest seen : List Event}
    {outcome : Outcome} (stores : Stores next rest seen outcome)
    (received : next.received = c.received ++ [event])
    (file : next.file = c.file ++ (packets [event]).map .packet)
    (quiet : noPacket (event :: rest) = true ↔ packets [event] = [] ∧ noPacket rest = true)
    (overflow : noOverflow (event :: rest) = noOverflow rest) (goesOn : ¬Ended [event]) :
    Stores c (event :: rest) (event :: seen) outcome where
  received := by rw [stores.received, received, List.append_assoc, List.singleton_append]
  file := by
    rw [stores.file, file, List.append_assoc, ← List.map_append, ← packets_append,
      List.singleton_append]
  quiet := by
    rw [quiet, stores.quiet, ← List.append_eq_nil_iff, ← packets_append, List.singleton_append]
  ended := by
    have same : Ended (event :: seen) ↔ Ended seen :=
      (ended_append [event] seen).trans (or_iff_right goesOn)
    rw [overflow, stores.ended, same]

theorem storeLoop_stores (healthy : Healthy io header) (c : Context) (events : List Event) :
    ∃ seen, Stores c events seen (storeLoop io c events) := by
  induction events generalizing c with
  | nil => exact ⟨[], by simp [storeLoop, Outcome.context], by simp [storeLoop, Outcome.context, packets],
      by simp [noPacket, packets], by simp [noOverflow, storeLoop, Outcome.isReturned]⟩
  | cons event rest ih =>
      cases event with
      | packet pkt =>
          obtain ⟨seen, stores⟩ :=
            ih (Context.progress { c.receive (.packet pkt) with
              file := c.file ++ [Written.packet pkt] } pkt)
          refine ⟨.packet pkt :: seen, ?_⟩
          rw [storeLoop, healthy.writeAll]
          exact stores.cons rfl rfl (by simp [noPacket, packets]) rfl (by simp [Ended])
      | lagged =>
          exact ⟨[.lagged], by simp [storeLoop, Outcome.context, Context.receive],
            by simp [storeLoop, Outcome.context, Context.receive, packets],
            by simp [noPacket, packets],
            by simp [noOverflow, storeLoop, Outcome.isReturned, Ended]⟩
      | closed =>
          exact ⟨[.closed], by simp [storeLoop, Outcome.context, Context.receive],
            by simp [storeLoop, Outcome.context, Context.receive, packets],
            by simp [noPacket, packets], by simp [noOverflow, Ended]⟩
      | close =>
          exact ⟨[.close], by simp [storeLoop, Outcome.context, Context.receive],
            by simp [storeLoop, Outcome.context, Context.receive, packets],
            by simp [noPacket, packets], by simp [noOverflow, Ended]⟩
      | storeInfo =>
          obtain ⟨seen, stores⟩ := ih (c.receive .storeInfo).report
          refine ⟨.storeInfo :: seen, ?_⟩
          rw [storeLoop]
          exact stores.cons rfl (by simp [Context.report, Context.receive, packets])
            (by simp [noPacket, packets]) rfl (by simp [Ended])
      | innerError =>
          obtain ⟨seen, stores⟩ := ih (c.receive .innerError)
          refine ⟨.innerError :: seen, ?_⟩
          rw [storeLoop]
          exact stores.cons rfl (by simp [Context.receive, packets])
            (by simp [noPacket, packets]) rfl (by simp [Ended])

/-- The events that the first loop passes over. -/
structure Waiting (c : Context) : Prop where
  file : c.file = []
  noKey : ∀ pkt ∈ packets c.received, pkt.isKey = false
  goesOn : ¬Ended c.received

theorem Waiting.receive {c next : Context} {event : Event} (waiting : Waiting c)
    (file : next.file = c.file) (received : next.received = c.received ++ [event])
    (noKey : ∀ pkt ∈ packets [event], pkt.isKey = false) (goesOn : ¬Ended [event]) :
    Waiting next where
  file := file.trans waiting.file
  noKey pkt member := by
    rw [received, packets_append] at member
    exact (List.mem_append.mp member).elim (waiting.noKey pkt) (noKey pkt)
  goesOn := by
    rw [received, ended_append]
    exact fun either => either.elim waiting.goesOn goesOn

/-- A second loop that begins without a header: nothing may be written in it. -/
theorem Stores.wellStored_headless {c : Context} {events seen : List Event} {outcome : Outcome}
    (stores : Stores c events seen outcome) (file : c.file = []) :
    WellStored header outcome ↔
      noPacket events = true ∧ (outcome.isReturned = true → Ended c.received ∨ Ended seen) := by
  rw [stores.quiet, ← ended_append, ← stores.received]
  constructor
  · intro stored
    refine ⟨?_, stored.ended⟩
    have written := stores.file
    rw [file, List.nil_append] at written
    rcases stored.file with empty | ⟨skipped, key, later, -, -, -, begins⟩
    · simpa [empty] using written
    · rw [begins] at written
      cases first : packets seen with
      | nil => simp [first] at written
      | cons pkt more => simp [first] at written
  · rintro ⟨nothing, ended⟩
    exact ⟨.inl (by rw [stores.file, file, nothing]; rfl), ended⟩

/-- A second loop behind the header and the first key packet. -/
theorem Stores.wellStored_headed {c : Context} {events seen : List Event} {outcome : Outcome}
    {skipped : List MuxPacket} {key : MuxPacket} (stores : Stores c events seen outcome)
    (file : c.file = [.header header, .packet key])
    (received : packets c.received = skipped ++ [key])
    (noKey : ∀ pkt ∈ skipped, pkt.isKey = false) (isKey : key.isKey = true)
    (goesOn : ¬Ended c.received) :
    WellStored header outcome ↔ noOverflow events = true := by
  rw [stores.ended]
  have same : Ended outcome.context.received ↔ Ended seen := by
    rw [stores.received, ended_append]
    simp only [goesOn, false_or]
  constructor
  · intro stored returned
    exact same.mp (stored.ended returned)
  · intro ended
    refine ⟨.inr ⟨skipped, key, packets seen, ?_, noKey, isKey, ?_⟩, same.mpr ∘ ended⟩
    · rw [stores.received, packets_append, received, List.append_assoc, List.singleton_append]
    · rw [stores.file, file]
      rfl

theorem runLoops_wellStored_iff (healthy : Healthy io header) {c : Context} (waiting : Waiting c)
    (events : List Event) (stays : orderly events = true) :
    WellStored header (runLoops io c events) ↔ harmless events = true := by
  induction events generalizing c with
  | nil =>
      simp only [harmless, iff_true]
      exact ⟨.inl waiting.file, by simp [runLoops, handleFirstKeyFrame, Outcome.isReturned]⟩
  | cons event rest ih =>
      cases event with
      | packet pkt =>
          by_cases isKey : pkt.isKey = true
          · let begun := Context.progress { c.receive (.packet pkt) with
              file := c.file ++ [Written.header header] ++ [Written.packet pkt] } pkt
            obtain ⟨seen, stores⟩ := storeLoop_stores healthy begun rest
            have run : runLoops io c (.packet pkt :: rest) = storeLoop io begun rest := by
              simp only [runLoops, handleFirstKeyFrame, isKey, if_true, healthy.header,
                healthy.writeAll]
              rfl
            rw [run, harmless, if_pos isKey]
            exact stores.wellStored_headed (by simp [begun, Context.progress, waiting.file])
              (packets_append ..) waiting.noKey isKey
              (by
                change ¬Ended (c.received ++ [_])
                rw [ended_append]
                exact fun either => either.elim waiting.goesOn (by simp [Ended]))
          · have run : runLoops io c (.packet pkt :: rest) =
                runLoops io (c.receive (.packet pkt)) rest := by
              simp only [runLoops, handleFirstKeyFrame, if_neg isKey]
            rw [run, harmless, if_neg isKey]
            exact ih (waiting.receive rfl rfl (by simpa [packets] using isKey)
              (by simp [Ended])) stays
      | lagged =>
          obtain ⟨seen, stores⟩ := storeLoop_stores healthy (c.receive .lagged) rest
          have goesOn : ¬Ended (c.receive .lagged).received := by
            change ¬Ended (c.received ++ [_])
            rw [ended_append]
            exact fun either => either.elim waiting.goesOn (by simp [Ended])
          change WellStored header (storeLoop io (c.receive .lagged) rest) ↔ _
          rw [stores.wellStored_headless waiting.file, harmless, Bool.and_eq_true, stores.ended]
          simp only [goesOn, false_or]
      | closed =>
          obtain ⟨seen, stores⟩ := storeLoop_stores healthy (c.receive .closed) rest
          have ended : Ended (c.receive .closed).received :=
            (ended_append _ _).mpr (.inr (.inl (List.mem_singleton_self _)))
          change WellStored header (storeLoop io (c.receive .closed) rest) ↔ _
          rw [stores.wellStored_headless waiting.file]
          simp [harmless, noPacket_of_silent stays, ended]
      | close =>
          obtain ⟨seen, stores⟩ := storeLoop_stores healthy (c.receive .close) rest
          have ended : Ended (c.receive .close).received :=
            (ended_append _ _).mpr (.inr (.inr (List.mem_singleton_self _)))
          change WellStored header (storeLoop io (c.receive .close) rest) ↔ _
          rw [stores.wellStored_headless waiting.file]
          simp [harmless, ended]
      | storeInfo =>
          exact ih (c := (c.receive .storeInfo).report) (waiting.receive rfl rfl
            (by simp [packets]) (by simp [Ended])) stays
      | innerError =>
          exact ih (c := c.receive .innerError) (waiting.receive rfl rfl
            (by simp [packets]) (by simp [Ended])) stays

/-- A recording is as it should be exactly when the events are harmless. -/
theorem run_wellStored_iff (io : Io) (header : Bytes) (healthy : Healthy io header)
    (events : List Event) (stays : orderly events = true) :
    WellStored header (run io events) ↔ harmless events = true := by
  have loops : run io events = runLoops io .new events := by
    simp [run, healthy.createDirAll, healthy.createFile]
  rw [loops]
  exact runLoops_wellStored_iff healthy
    ⟨rfl, by simp [Context.new, packets], by simp [Context.new, Ended]⟩ events stays

end

/-- Nothing fails and the header is one byte. -/
def plainIo : Io := ⟨true, true, some [9], fun _ _ => true⟩

theorem plainIo_healthy : Healthy plainIo [9] := ⟨rfl, rfl, rfl, fun _ _ => rfl⟩

/-- A packet before the key frame, a progress report, a key frame and a packet. -/
theorem run_wellStored_keyframe :
    WellStored [9] (run plainIo [.packet ⟨[1], false, 0⟩, .storeInfo, .packet ⟨[2], true, 1⟩,
      .packet ⟨[3], false, 2⟩, .closed]) :=
  (run_wellStored_iff plainIo [9] plainIo_healthy _ (by decide)).mpr (by decide)

/-- A request to close, or an overflow, before the first key frame lets packets into a file
without a header; an overflow behind it ends the recording of an open channel. -/
theorem run_headless :
    ¬WellStored [9] (run plainIo [.close, .packet ⟨[1], false, 0⟩, .closed]) ∧
    ¬WellStored [9] (run plainIo [.lagged, .packet ⟨[1], true, 0⟩, .closed]) ∧
    ¬WellStored [9] (run plainIo [.packet ⟨[1], true, 0⟩, .lagged, .packet ⟨[2], false, 1⟩]) := by
  have headless {outcome : Outcome} {pkt : MuxPacket}
      (file : outcome.context.file = [.packet pkt]) : ¬WellStored [9] outcome := by
    intro stored
    rcases stored.file with empty | ⟨skipped, key, later, -, -, -, begins⟩
    · rw [file] at empty
      cases empty
    · rw [file] at begins
      cases begins
  refine ⟨headless rfl, headless rfl, fun stored => ?_⟩
  exact absurd (stored.ended rfl) (by decide)

/-! ## The progress of a recording -/

/-- The packets in a file. -/
def recorded (file : List Written) : List MuxPacket :=
  file.filterMap fun
    | .packet pkt => some pkt
    | .header _ => none

def totalSize (pkts : List MuxPacket) : Nat := (pkts.map fun pkt => pkt.data.length).sum

def lastTimestamp (pkts : List MuxPacket) : Nat := (pkts.getLast?.map MuxPacket.timestamp).getD 0

/-- The `EndRecord` event of a recording that did not fail, from its packets. -/
def recordedInfo (path fileName : String) (pkts : List MuxPacket) : StreamRecordInfo :=
  ⟨some s!"{path}/mp4/{fileName}.mp4", totalSize pkts, lastTimestamp pkts % 2 ^ 32, 1⟩

/-- The progress is that of the packets in the file. -/
def Accounted (c : Context) : Prop :=
  c.fileSize = totalSize (recorded c.file) ∧ c.ts = lastTimestamp (recorded c.file)

namespace Accounted

variable {io : Io} {c next : Context}

theorem receive (accounted : Accounted c) (event : Event) : Accounted (c.receive event) :=
  accounted

theorem report (accounted : Accounted c) : Accounted c.report := accounted

theorem writeHeader {header : Bytes} (accounted : Accounted c)
    (written : c.writeAll io (.header header) = some next) : Accounted next := by
  rw [Context.writeAll] at written
  split at written
  · cases written
    simpa [Accounted, recorded] using accounted
  · cases written

theorem writePacket {pkt : MuxPacket} (accounted : Accounted c)
    (written : c.writeAll io (.packet pkt) = some next) : Accounted (next.progress pkt) := by
  rw [Context.writeAll] at written
  split at written
  · cases written
    simpa [Accounted, Context.progress, recorded, totalSize, lastTimestamp] using accounted.1
  · cases written

/-- A return of the second loop. -/
theorem storeLoop (accounted : Accounted c) {events : List Event}
    (returned : Mp4Recorder.storeLoop io c events = .returned next) : Accounted next := by
  induction events generalizing c with
  | nil => cases returned
  | cons event rest ih =>
      cases event with
      | packet pkt =>
          rw [Mp4Recorder.storeLoop] at returned
          split at returned
          · cases returned
          · next written =>
              exact ih (writePacket (accounted.receive _) written) returned
      | lagged => cases returned; exact accounted.receive _
      | closed => cases returned; exact accounted.receive _
      | close => cases returned; exact accounted.receive _
      | storeInfo => exact ih (accounted.receive .storeInfo).report returned
      | innerError => exact ih (accounted.receive .innerError) returned

theorem handleFirstKeyFrame (accounted : Accounted c) {events rest : List Event}
    (done : Mp4Recorder.handleFirstKeyFrame io c events = .done next rest) : Accounted next := by
  induction events generalizing c with
  | nil => cases done
  | cons event rest ih =>
      cases event with
      | packet pkt =>
          rw [Mp4Recorder.handleFirstKeyFrame] at done
          split at done
          · split at done
            · cases done
            · split at done
              · cases done
              · next headed =>
                  split at done
                  · cases done
                  · next written =>
                      cases done
                      exact writePacket (writeHeader (accounted.receive _) headed) written
          · exact ih (accounted.receive _) done
      | lagged => cases done; exact accounted.receive _
      | closed => cases done; exact accounted.receive _
      | close => cases done; exact accounted.receive _
      | storeInfo => exact ih (accounted.receive .storeInfo).report done
      | innerError => exact ih (accounted.receive .innerError) done

end Accounted

/-- The event at the end of a recording tells of the packets in its file. -/
theorem endRecordInfo_returned {io : Io} {events : List Event} {c : Context}
    (returned : run io events = .returned c) (path fileName : String) :
    endRecordInfo path fileName (run io events) =
      some (recordedInfo path fileName (recorded c.file)) := by
  have accounted : Accounted c := by
    unfold run runLoops at returned
    split at returned
    · cases returned
    split at returned
    · cases returned
    split at returned
    · cases returned
    · cases returned
    · next opened =>
        exact (Accounted.handleFirstKeyFrame (c := .new) ⟨rfl, rfl⟩ opened).storeLoop returned
  rw [returned, endRecordInfo, recordedInfo, accounted.1, accounted.2]

end Gmv.Stream.Mp4Recorder
