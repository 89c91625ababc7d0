import Gmv.Session.DeviceMap
import Gmv.Session.MediaRequest

/-!
# Closing streams and reuse

`enable_invite_stream` finds a stream in `device_map`, reads it from `stream_map`, and asks
its media node whether it is online.  A close marks the stream in `stream_map` and lets the
media node be, which has the stream online until it is told otherwise.  The module runs
looks for a stream, step by step, beside starts, closes, BYEs of the peers and resets, in
any order of their steps, and tells when a stream that is handed out was not closing when it
was read.
-/

namespace Gmv.Session.ClosingReuse

open Gmv.Library Gmv.Library.TaskPool MediaRequest

/-- A `play_live` or a `play_back` behind its checks: the key of the stream, what asking for a
stream comes to, and what `start_invite_stream` enters, if it comes to that, with the address
that the media arrives from. -/
structure Look where
  deviceId : String
  channelId : String
  am : AccessMode
  out : ReuseOutcome
  start : Option (DeviceMap.Plan × Option String)
  deriving DecidableEq

/-- What a look has still to do, and the other calls.  A look keeps the entry that it read: its
node is asked, and its address is part of the reply. -/
inductive Task where
  | find (look : Look)
  | query (look : Look) (streamId ssrc : String)
  | ask (look : Look) (streamId ssrc : String) (stream : StreamTable)
  | closeStale (look : Look) (streamId : String)
  | start (look : Look)
  | handOut (look : Look) (streamId : String) (stream : StreamTable)
  | other (task : DeviceMap.Task)
  deriving DecidableEq

/-- The media node of an entry says that it has the stream online. -/
def saysOnline (conf : StreamConf) (look : Look) (ssrc : String) (stream : StreamTable) : Bool :=
  (conf.nodeMap.lookup stream.streamNodeName).isSome && look.out.client.isOk &&
    (parseU32 ssrc).isSome && look.out.online.toOption == some (some true)

/-- Where a look goes on behind the question to the media node. -/
def asked (conf : StreamConf) (look : Look) (streamId ssrc : String) (stream : StreamTable) :
    Option Task :=
  match conf.nodeMap.lookup stream.streamNodeName with
  | none => some (.closeStale look streamId)
  | some _ =>
      match look.out.client, parseU32 ssrc, look.out.online with
      | .ok _, some _, .ok data =>
          some (if data = some true then .handOut look streamId stream else .closeStale look streamId)
      | _, _, _ => none

def work (conf : StreamConf) (cache : Cache) : Task → Option Task × Cache
  | .find look =>
      match deviceMapGetInviteInfo cache look.deviceId look.channelId look.am with
      | none => (some (.start look), cache)
      | some (streamId, ssrc) => (some (.query look streamId ssrc), cache)
  | .query look streamId ssrc =>
      match cache.streamMap.lookup streamId with
      | none => (some (.closeStale look streamId), cache)
      | some stream => (some (.ask look streamId ssrc stream), cache)
  | .ask look streamId ssrc stream => (asked conf look streamId ssrc stream, cache)
  | .closeStale look streamId => (some (.start look), (cache.streamCloseBegin streamId).2)
  | .start look =>
      (look.start.map fun start => .other (.startInsert start.1 start.2), cache)
  | .handOut _ _ _ => (none, cache)
  | .other task =>
      let (rest, next) := DeviceMap.work cache task
      (rest.map .other, next)

abbrev Entry := Runs.Transition (Pool Cache Task) (Move Task) Unit

/-- The transition is a step of this task. -/
def Takes (entry : Entry) (task : Task) : Prop :=
  ∃ index, entry.action = .advance index ∧ entry.before.tasks[index]? = some task

/-- A look reads a stream from `stream_map`. -/
def Reads (entry : Entry) (look : Look) (streamId : String) (stream : StreamTable) : Prop :=
  (∃ ssrc, Takes entry (.query look streamId ssrc)) ∧
    entry.before.shared.streamMap.lookup streamId = some stream

/-- Every stream that a look hands out was read before, and no close of it had begun then. -/
def HandsOutOpen (run : List Entry) : Prop :=
  ∀ first entry later, run = first ++ entry :: later → ∀ look streamId stream,
    Takes entry (.handOut look streamId stream) →
      (∃ read ∈ first, Reads read look streamId stream) ∧ stream.lifecycle = .playing

/-- The calls; every other task is the rest of one. -/
def Task.isCall : Task → Bool
  | .find _ => true
  | .other task => task.isCall
  | _ => false

/-- A stream that is closing when it is read is not said to be online. -/
def ReadsOpen (conf : StreamConf) (pool : Pool Cache Task) : Task → Prop
  | .query look streamId ssrc => ∀ stream ∈ pool.shared.streamMap.lookup streamId,
      stream.isClosing = true → saysOnline conf look ssrc stream = false
  | _ => True

instance (conf : StreamConf) (pool : Pool Cache Task) : DecidablePred (ReadsOpen conf pool)
  | .query look streamId ssrc => inferInstanceAs (Decidable
      (∀ stream ∈ pool.shared.streamMap.lookup streamId,
        stream.isClosing = true → saysOnline conf look ssrc stream = false))
  | .find _ | .ask .. | .closeStale .. | .start _ | .handOut .. | .other _ => isTrue trivial

section Steps

variable {conf : StreamConf} {look : Look} {streamId ssrc : String} {stream : StreamTable}

theorem lifecycle_of_not_closing (isOpen : stream.isClosing ≠ true) : stream.lifecycle = .playing := by
  rw [StreamTable.isClosing, StreamTable.closingGeneration] at isOpen
  cases lifecycle : stream.lifecycle with
  | playing => rfl
  | closing generation inflightSeq lastError =>
      rw [lifecycle] at isOpen
      exact absurd rfl isOpen

/-- Behind the question the look ends with an error, or it hands the stream out, or it closes
the stream: it hands it out when the media node has it online. -/
theorem asked_cases (conf : StreamConf) (look : Look) (streamId ssrc : String)
    (stream : StreamTable) :
    (saysOnline conf look ssrc stream = true ∧
      asked conf look streamId ssrc stream = some (.handOut look streamId stream)) ∨
    (saysOnline conf look ssrc stream = false ∧
      (asked conf look streamId ssrc stream = none ∨
        asked conf look streamId ssrc stream = some (.closeStale look streamId))) := by
  rw [asked, saysOnline]
  cases conf.nodeMap.lookup stream.streamNodeName with
  | none => exact Or.inr ⟨rfl, Or.inr rfl⟩
  | some node =>
      cases look.out.client with
      | error error => exact Or.inr ⟨rfl, Or.inl rfl⟩
      | ok _ =>
          cases parseU32 ssrc with
          | none => exact Or.inr ⟨rfl, Or.inl rfl⟩
          | some u32ssrc =>
              cases look.out.online with
              | error error => exact Or.inr ⟨rfl, Or.inl rfl⟩
              | ok data =>
                  by_cases isOnline : data = some true
                  · rw [isOnline]
                    exact Or.inl ⟨rfl, rfl⟩
                  · refine Or.inr ⟨?_, Or.inr ?_⟩
                    · simp [Except.toOption, isOnline]
                    · simp [isOnline]

/-- The answer of the media node in `enable_invite_stream`. -/
theorem streamOnline_eq_found (conf : StreamConf) (look : Look) (world : World)
    (listedId ssrc streamId proxyAddr : String) :
    (streamOnline conf listedId ssrc look.out world).1 = .ok (some (streamId, proxyAddr)) ↔
      listedId = streamId ∧ ∃ stream, world.cache.streamMap.lookup listedId = some stream ∧
        saysOnline conf look ssrc stream = true ∧ stream.proxyAddr = proxyAddr := by
  rw [streamOnline, streamMapQueryNode]
  cases held : world.cache.streamMap.lookup listedId with
  | none => simp
  | some stream =>
      simp only [Option.map_some, saysOnline, Option.some.injEq, exists_eq_left']
      cases conf.nodeMap.lookup stream.streamNodeName with
      | none => simp
      | some node =>
          cases look.out.client with
          | error error => simp [Except.isOk, Except.toBool]
          | ok _ =>
              cases parseU32 ssrc with
              | none => simp [invalidSsrc]
              | some u32ssrc =>
                  cases look.out.online with
                  | error error => simp [Except.toOption]
                  | ok data =>
                      by_cases isOnline : data = some true
                      · simp [Except.isOk, Except.toBool, Except.toOption, isOnline]
                      · simp [Except.toOption, isOnline]

/-- The steps of a look that nothing disturbs are `enable_invite_stream`. -/
theorem enableInviteStream_eq_steps (conf : StreamConf) (look : Look) (world : World)
    (streamId proxyAddr : String) :
    (enableInviteStream conf look.deviceId look.channelId look.am look.out world).1 =
        .ok (some (streamId, proxyAddr)) ↔
      ∃ ssrc stream,
        work conf world.cache (.find look) = (some (.query look streamId ssrc), world.cache) ∧
        work conf world.cache (.query look streamId ssrc) =
          (some (.ask look streamId ssrc stream), world.cache) ∧
        work conf world.cache (.ask look streamId ssrc stream) =
          (some (.handOut look streamId stream), world.cache) ∧
        stream.proxyAddr = proxyAddr := by
  have query : ∀ ssrc stream, work conf world.cache (.query look streamId ssrc) =
      (some (.ask look streamId ssrc stream), world.cache) ↔
        world.cache.streamMap.lookup streamId = some stream := by
    intro ssrc stream
    rw [work]
    cases world.cache.streamMap.lookup streamId <;> simp
  have ask : ∀ ssrc stream, work conf world.cache (.ask look streamId ssrc stream) =
      (some (.handOut look streamId stream), world.cache) ↔ saysOnline conf look ssrc stream = true := by
    intro ssrc stream
    rw [work]
    rcases asked_cases conf look streamId ssrc stream with ⟨online, hands⟩ | ⟨offline, ends | stale⟩
    · simp [online, hands]
    · simp [offline, ends]
    · simp [offline, stale]
  simp only [query, ask]
  rw [enableInviteStream, work]
  cases listed : deviceMapGetInviteInfo world.cache look.deviceId look.channelId look.am with
  | none => simp
  | some info =>
      obtain ⟨listedId, listedSsrc⟩ := info
      have online := streamOnline_eq_found conf look world listedId listedSsrc streamId proxyAddr
      have steps : (∃ ssrc stream, (some (Task.query look listedId listedSsrc), world.cache) =
          (some (Task.query look streamId ssrc), world.cache) ∧
          world.cache.streamMap.lookup streamId = some stream ∧
          saysOnline conf look ssrc stream = true ∧ stream.proxyAddr = proxyAddr) ↔
          listedId = streamId ∧ ∃ stream, world.cache.streamMap.lookup listedId = some stream ∧
            saysOnline conf look listedSsrc stream = true ∧ stream.proxyAddr = proxyAddr := by
        constructor
        · rintro ⟨ssrc, stream, isQuery, held, isOnline, proxy⟩
          cases isQuery
          exact ⟨rfl, stream, held, isOnline, proxy⟩
        · rintro ⟨rfl, stream, held, isOnline, proxy⟩
          exact ⟨listedSsrc, stream, rfl, held, isOnline, proxy⟩
      rw [steps, ← online]
      dsimp only
      cases streamOnline conf listedId listedSsrc look.out world with
      | mk result next =>
          cases result with
          | error error => rfl
          | ok found => cases found <;> simp

/-- What a task knows: the entry of a look was read, and it is not closing where the media node
has it online. -/
def Knows (conf : StreamConf) (past : List Entry) : Task → Prop
  | .ask look streamId ssrc stream =>
      (∃ read ∈ past, Reads read look streamId stream) ∧
        (stream.isClosing = true → saysOnline conf look ssrc stream = false)
  | .handOut look streamId stream =>
      (∃ read ∈ past, Reads read look streamId stream) ∧ stream.lifecycle = .playing
  | _ => True

theorem Knows.mono {past : List Entry} {task : Task} (knows : Knows conf past task) (entry : Entry) :
    Knows conf (past ++ [entry]) task := by
  cases task with
  | ask look streamId ssrc stream =>
      obtain ⟨⟨read, member, reads⟩, isOpen⟩ := knows
      exact ⟨⟨read, List.mem_append_left _ member, reads⟩, isOpen⟩
  | handOut look streamId stream =>
      obtain ⟨⟨read, member, reads⟩, isOpen⟩ := knows
      exact ⟨⟨read, List.mem_append_left _ member, reads⟩, isOpen⟩
  | _ => trivial

theorem Knows.advance {past : List Entry} {pool : Pool Cache Task} {index : Nat} {task rest : Task}
    (found : pool.tasks[index]? = some task) (knows : Knows conf past task)
    (isOpen : ReadsOpen conf pool task) (goesOn : (work conf pool.shared task).1 = some rest) :
    Knows conf (past ++ [Runs.transition (step (work conf)) pool (.advance index)]) rest := by
  cases task with
  | find look =>
      rw [work] at goesOn
      cases listed : deviceMapGetInviteInfo pool.shared look.deviceId look.channelId look.am with
      | none =>
          rw [listed] at goesOn
          cases goesOn
          trivial
      | some info =>
          rw [listed] at goesOn
          cases goesOn
          trivial
  | query look streamId ssrc =>
      rw [work] at goesOn
      cases held : pool.shared.streamMap.lookup streamId with
      | none =>
          rw [held] at goesOn
          cases goesOn
          trivial
      | some stream =>
          rw [held] at goesOn
          cases goesOn
          exact ⟨⟨_, List.mem_append_right _ (List.mem_singleton_self _),
            ⟨ssrc, index, rfl, found⟩, held⟩, isOpen stream held⟩
  | ask look streamId ssrc stream =>
      obtain ⟨read, closes⟩ := knows.mono (Runs.transition (step (work conf)) pool (.advance index))
      rw [work] at goesOn
      rcases asked_cases conf look streamId ssrc stream with
        ⟨online, hands⟩ | ⟨_, ends | stale⟩
      · rw [hands] at goesOn
        cases goesOn
        refine ⟨read, lifecycle_of_not_closing fun closing => ?_⟩
        rw [closes closing] at online
        cases online
      · rw [ends] at goesOn
        cases goesOn
      · rw [stale] at goesOn
        cases goesOn
        trivial
  | closeStale look streamId =>
      cases goesOn
      trivial
  | start look =>
      obtain ⟨start, _, rfl⟩ := Option.map_eq_some_iff.mp goesOn
      trivial
  | handOut look streamId stream => cases goesOn
  | other task =>
      obtain ⟨other, _, rfl⟩ := Option.map_eq_some_iff.mp goesOn
      trivial

end Steps

/-- In every interleaving of looks with starts, closes, BYEs and resets: when no stream that is
closing as a look reads it is then said to be online, every stream that is handed out was read
before any close of it had begun. -/
theorem handsOutOpen_of_readsOpen (conf : StreamConf) (cache : Cache) (moves : List (Move Task))
    (readsOpen : ∀ entry ∈ Runs.run (step (work conf)) ⟨cache, []⟩ moves,
      Guarded (fun task => task.isCall = true) (ReadsOpen conf) entry.before entry.action) :
    HandsOutOpen (Runs.run (step (work conf)) ⟨cache, []⟩ moves) := by
  intro first entry later split look streamId stream ⟨index, _, taken⟩
  have begun : ∀ past task, Task.isCall task = true → Knows conf past task := by
    intro past task isCall
    cases task with
    | find look => trivial
    | other task => trivial
    | _ => cases isCall
  have known := history_tasks (Knows conf) (fun past entry task knows => knows.mono entry) begun
    (fun past pool index task rest found knows isOpen goesOn => knows.advance found isOpen goesOn)
    readsOpen split
  exact known _ (List.mem_of_getElem? taken)

/-- A live stream comes up at the one media node. -/
def plan : DeviceMap.Plan := { DeviceMap.livePlan with nodeName := "s1" }

def comesUp : List (Move Task) :=
  [.begin (.other (.startInsert plan (some "10.0.0.9:30000"))), .advance 0, .advance 0, .advance 0]

/-- Another user asks for the same channel, and the media node has the stream online. -/
def secondLook : Look :=
  ⟨plan.deviceId, plan.channelId, .live, ⟨.ok (), .ok (some true), ⟨.scheduled, none⟩⟩, none⟩

def looksOnce : List (Move Task) := [.begin (.find secondLook), .advance 0, .advance 0, .advance 0]

theorem handsOutOpen_of_readsOpen_looksOnce :
    HandsOutOpen (Runs.run (step (work oneNode)) ⟨Cache.init, []⟩
      (comesUp ++ looksOnce ++ [.advance 0])) :=
  handsOutOpen_of_readsOpen oneNode Cache.init (comesUp ++ looksOnce ++ [.advance 0])
    (by decide +kernel)

/-- The idle hook begins a close before the second user asks. -/
def closesFirst : List (Move Task) :=
  comesUp ++ [.begin (.other (.closeBegin "a")), .advance 0] ++ looksOnce

/-- The second user gets the closing stream. -/
theorem closesFirst_handsOut_closing :
    ¬ HandsOutOpen (Runs.run (step (work oneNode)) ⟨Cache.init, []⟩ (closesFirst ++ [.advance 0])) := by
  intro handsOut
  have taken : (Runs.final (step (work oneNode)) ⟨Cache.init, []⟩ closesFirst).tasks[0]? =
      some (.handOut secondLook "a"
        ⟨plan.deviceId, plan.channelId, "10.0.0.9:30000", "s1", "call-a", 1, .live, 200000001, false,
          .closing 1 none none⟩) := by decide +kernel
  have closing := (handsOut _ _ [] (Runs.run_append _ closesFirst [.advance 0]) _ _ _
    ⟨0, rfl, taken⟩).2
  cases closing

end Gmv.Session.ClosingReuse
