import Gmv.Library.TaskPool
import Gmv.Stream.MediaRegister

/-!
# The watch over the inputs

Every registered input is checked by a one-shot timer, and each check either arms the
next timer or queues a `StreamInTimeout` event, whose answer arms the timer again or
closes the stream.  The event loop takes events off a bounded queue and hands them to a
bounded number of workers; an event that waits for a worker is lost when a timer goes off
first, since the loop then gives the waiting up.  Calls run at the same time, one
operation of a map or the scheduler after the other.
-/

namespace Gmv.Stream.InputWatch

open Gmv.Library Gmv.Library.TaskPool Media

def eventCapacity : Nat := 10000
def maxWorkerPool : Nat := 128

inductive Event where
  | out (event : OutEvent)
  | streamRegister (rtpType : UInt8) (streamId : String)
  | active
  deriving DecidableEq, Repr

/-- The registry, the event queue, the event that waits for a worker, and the number of
busy workers. -/
structure State where
  inner : Inner
  queue : List Event
  waiting : Option OutEvent
  workers : Nat

def init (inWaitTimeout : UInt8) : State := ⟨.empty inWaitTimeout, [], none, 0⟩

/-- `try_send`. -/
def State.trySend (state : State) (event : Option Event) : State :=
  if state.queue.length < eventCapacity then { state with queue := state.queue ++ event.toList }
  else state

/-- What the signalling side will answer to an event, and whether the scheduler will take
the timer that the answer may ask for. -/
structure Answer where
  inTimeout : Option (Resp InTimeoutEventRes)
  idle : Option (Resp OutputEventRes)
  accepts : Bool
  deriving DecidableEq, Repr

/-- What a call has still to do, by its next operation. -/
inductive Task where
  | initMedia (config : MediaConfig) (accepts : Bool)
  | insertChannel (config : MediaConfig)
  | insertMetadata (config : MediaConfig)
  | initMediaExt (ssrc : UInt32) (mediaExt : Register.MediaExt)
  | refresh (ssrc : UInt32)
  | send (event : Event)
  | rtpTimeout (ssrc : UInt32) (accepts : Bool)
  | otherTimeout
  | receive (subscribed : Bool) (answer : Answer)
  | acquire (answer : Answer)
  | handOut (event : OutEvent) (answer : Answer)
  | closeByInput (info : BaseStreamInfo)
  | closeByOutput (info : OutputStreamInfo)
  | removeChannel (ssrc : UInt32)
  deriving DecidableEq, Repr

/-- The operation of the event loop on a `StreamRegister` event: a mismatch of the payload
types takes the metadata away, and the channel next. -/
def register (state : State) (rtpType : UInt8) (streamId : String) (subscribed : Bool) :
    Option Task × State :=
  let event := (state.inner.sendStreamConfig rtpType streamId subscribed).1
  let sent := state.trySend (event.map .out)
  match event with
  | some (.streamRegister ⟨info, .invalidState, _⟩) =>
      (some (.removeChannel info.ssrc),
        { sent with inner := state.inner.setMetadata info.streamId none })
  | _ => (none, sent)

/-- The event loop takes the next event, unless one waits for a worker. -/
def receive (state : State) (subscribed : Bool) (answer : Answer) : Option Task × State :=
  match state.waiting, state.queue with
  | some _, _ | none, [] => (none, state)
  | none, .active :: rest => (none, { state with queue := rest })
  | none, .streamRegister rtpType streamId :: rest =>
      register { state with queue := rest } rtpType streamId subscribed
  | none, .out event :: rest =>
      if state.workers < maxWorkerPool then
        (some (.handOut event answer), { state with queue := rest, workers := state.workers + 1 })
      else (none, { state with queue := rest, waiting := some event })

/-- The event that waits gets a worker. -/
def acquire (state : State) (answer : Answer) : Option Task × State :=
  match state.waiting with
  | none => (none, state)
  | some event =>
      if state.workers < maxWorkerPool then
        (some (.handOut event answer),
          { state with waiting := none, workers := state.workers + 1 })
      else (none, state)

/-- A timer goes off.  A check that reaches its limit queues the event, and an event that
waits for a worker is lost. -/
def rtpTimeout (state : State) (ssrc : UInt32) (accepts : Bool) : State :=
  if state.inner.timeSchedule ssrc then
    let (event, inner) := (state.inner.disarm ssrc).handleRtpInTimeout ssrc accepts
    State.trySend { state with inner := inner, waiting := none } (event.map .out)
  else state

def State.release (state : State) : State := { state with workers := state.workers - 1 }

def State.closeChannel (state : State) (info : BaseStreamInfo) : State :=
  State.release { state with inner := state.inner.setChannel info.ssrc none }

/-- A worker has the answer to its event.  To close a stream it takes the metadata away,
and the channel next. -/
def handOut (state : State) (event : OutEvent) (answer : Answer) : Option Task × State :=
  match event with
  | .streamInTimeout info =>
      match inTimeoutRes answer.inTimeout with
      | .keepAlive => (none, State.release { state with inner := state.inner.arm info.ssrc answer.accepts })
      | .closeAll =>
          (some (.closeByInput info),
            { state with inner := state.inner.setMetadata info.streamId none })
  | .streamIdle info =>
      match outputRes info answer.idle with
      | .keepMuxer | .closeMuxer => (none, state.release)
      | .closeAll =>
          (some (.closeByOutput info),
            { state with inner := state.inner.setMetadata info.baseStreamInfo.streamId none })
  | .streamRegister _ | .other => (none, state.release)

def work (state : State) : Task → Option Task × State
  | .initMedia config accepts =>
      if config.isImplemented then
        (some (.insertChannel config), { state with inner := state.inner.arm config.ssrc accepts })
      else (none, state)
  | .insertChannel config =>
      (some (.insertMetadata config), { state with inner := state.inner.insertChannel config })
  | .insertMetadata config =>
      (none, State.trySend { state with inner := state.inner.insertMetadata config }
        (if config.output = .localMp4 then some .active else none))
  | .initMediaExt ssrc mediaExt =>
      (none, { state with inner := state.inner.initMediaExt ssrc mediaExt })
  | .refresh ssrc => (none, { state with inner := state.inner.refresh ssrc })
  | .send event => (none, state.trySend (some event))
  | .rtpTimeout ssrc accepts => (none, rtpTimeout state ssrc accepts)
  | .otherTimeout => (none, { state with waiting := none })
  | .receive subscribed answer => receive state subscribed answer
  | .acquire answer => acquire state answer
  | .handOut event answer => handOut state event answer
  | .closeByInput info => (none, state.closeChannel info)
  | .closeByOutput info => (none, state.closeChannel info.baseStreamInfo)
  | .removeChannel ssrc => (none, { state with inner := state.inner.setChannel ssrc none })

/-- The calls; every other task is the rest of one.  Only a check queues a
`StreamInTimeout`. -/
def Task.isCall : Task → Bool
  | .initMedia _ _ | .initMediaExt _ _ | .refresh _ | .rtpTimeout _ _ | .otherTimeout
  | .receive _ _ | .acquire _ => true
  | .send (.out (.streamInTimeout _)) => false
  | .send _ => true
  | _ => false

/-- The event that a worker is at. -/
def Task.handles : Task → Option OutEvent
  | .handOut event _ => some event
  | .closeByInput info => some (.streamInTimeout info)
  | .closeByOutput info => some (.streamIdle info)
  | _ => none

/-- An event is queued, waits for a worker, or has one. -/
def Pending (pool : Pool State Task) (event : OutEvent) : Prop :=
  .out event ∈ pool.shared.queue ∨ pool.shared.waiting = some event ∨
    ∃ task ∈ pool.tasks, task.handles = some event

/-- A timer of the ssrc is armed, or a `StreamInTimeout` event of it is pending. -/
def Watched (pool : Pool State Task) (ssrc : UInt32) : Prop :=
  pool.shared.inner.timeSchedule ssrc = true ∨
    ∃ streamId, Pending pool (.streamInTimeout ⟨ssrc, streamId⟩)

/-- Every registered input is watched. -/
def EveryInputWatched (pool : Pool State Task) : Prop :=
  ∀ ssrc, (pool.shared.inner.rtpGatewayMap ssrc).isSome → Watched pool ssrc

/-! ## The links of the chain -/

/-- The stream of a `StreamInTimeout` event. -/
def inTimeoutInfo : OutEvent → Option BaseStreamInfo
  | .streamInTimeout info => some info
  | _ => none

/-- No `StreamInTimeout` event waits for a worker. -/
def NoneWaits (state : State) : Prop :=
  state.waiting.bind inTimeoutInfo = none

/-- The check of an input leads on: the metadata of its stream is there and names the
ssrc, and the scheduler takes the next timer, or the queue takes the event. -/
def LeadsOn (state : State) (ssrc : UInt32) (accepts : Bool) : Prop :=
  ∀ channel ∈ state.inner.rtpGatewayMap ssrc,
    ∃ metadata ∈ state.inner.streamMetadataMap channel.streamId, metadata.ssrc = ssrc ∧
      if channel.timeoutCount < metadata.inWaitTimeout then accepts = true
      else state.queue.length < eventCapacity

/-- The ssrc of a stream whose timer is armed and whose channel is still to come. -/
def Task.starts : Task → Option UInt32
  | .insertChannel config => some config.ssrc
  | _ => none

def NoneStarts (pool : Pool State Task) (ssrc : UInt32) : Prop :=
  ∀ task ∈ pool.tasks, task.starts ≠ some ssrc

/-- The steps that break no link: the scheduler takes the timers of new streams and of
answers, and when a timer goes off no `StreamInTimeout` waits for a worker, no stream of
the ssrc is half registered, and the check leads on. -/
def KeepsLinks (pool : Pool State Task) : Task → Prop
  | .initMedia _ accepts => accepts = true
  | .rtpTimeout ssrc accepts =>
      pool.shared.inner.timeSchedule ssrc = true →
        NoneWaits pool.shared ∧ NoneStarts pool ssrc ∧ LeadsOn pool.shared ssrc accepts
  | .otherTimeout => NoneWaits pool.shared
  | .handOut (.streamInTimeout _) answer =>
      inTimeoutRes answer.inTimeout = .keepAlive → answer.accepts = true
  | _ => True

instance (state : State) (ssrc : UInt32) (accepts : Bool) : Decidable (LeadsOn state ssrc accepts) :=
  inferInstanceAs (Decidable (∀ _ ∈ _, ∃ _ ∈ _, _ ∧ _))

instance (state : State) : Decidable (NoneWaits state) :=
  inferInstanceAs (Decidable (_ = none))

instance (pool : Pool State Task) (ssrc : UInt32) : Decidable (NoneStarts pool ssrc) :=
  inferInstanceAs (Decidable (∀ task ∈ pool.tasks, _ ≠ some ssrc))

instance (pool : Pool State Task) (task : Task) : Decidable (KeepsLinks pool task) :=
  match task with
  | .initMedia _ accepts => inferInstanceAs (Decidable (accepts = true))
  | .rtpTimeout ssrc accepts => inferInstanceAs (Decidable
      (pool.shared.inner.timeSchedule ssrc = true →
        NoneWaits pool.shared ∧ NoneStarts pool ssrc ∧ LeadsOn pool.shared ssrc accepts))
  | .otherTimeout => inferInstanceAs (Decidable (NoneWaits pool.shared))
  | .handOut (.streamInTimeout _) answer => inferInstanceAs (Decidable
      (inTimeoutRes answer.inTimeout = .keepAlive → answer.accepts = true))
  | .handOut (.streamRegister _) _ | .handOut (.streamIdle _) _ | .handOut .other _
  | .insertChannel _ | .insertMetadata _ | .initMediaExt .. | .refresh _ | .send _ | .receive ..
  | .acquire _ | .closeByInput _ | .closeByOutput _ | .removeChannel _ => isTrue trivial

/-! ## What an operation keeps of one ssrc -/

section Operations

variable {state next : State} {task : Task} {rest : Option Task} {ssrc : UInt32}
  {event : OutEvent}

/-- The event is with the queue, the event loop or the task. -/
def Carries (state : State) (task : Option Task) (event : OutEvent) : Prop :=
  .out event ∈ state.queue ∨ state.waiting = some event ∨ task.bind Task.handles = some event

/-- A step from a task to its rest that takes nothing from the watch over an ssrc. -/
structure Keeps (state : State) (task : Task) (next : State) (rest : Option Task)
    (ssrc : UInt32) : Prop where
  timer : state.inner.timeSchedule ssrc = true → next.inner.timeSchedule ssrc = true
  event : ∀ streamId, Carries state (some task) (.streamInTimeout ⟨ssrc, streamId⟩) →
    Carries next rest (.streamInTimeout ⟨ssrc, streamId⟩)
  channel : (next.inner.rtpGatewayMap ssrc).isSome → (state.inner.rtpGatewayMap ssrc).isSome
  starts : rest.bind Task.starts ≠ some ssrc

theorem arm_timer (inner : Inner) (other : UInt32) (accepts : Bool)
    (armed : inner.timeSchedule ssrc = true) : (inner.arm other accepts).timeSchedule ssrc = true := by
  rw [Inner.arm]
  split
  · simp only [Function.update_apply]
    split
    · rfl
    · exact armed
  · exact armed

@[simp]
theorem arm_rtpGatewayMap (inner : Inner) (accepts : Bool) :
    (inner.arm ssrc accepts).rtpGatewayMap = inner.rtpGatewayMap := by
  cases accepts <;> rfl

theorem setChannel_isSome (inner : Inner) {other : UInt32} {channel : Option RtpChannel}
    (present : channel.isSome → (inner.rtpGatewayMap other).isSome)
    (registered : ((inner.setChannel other channel).rtpGatewayMap ssrc).isSome) :
    (inner.rtpGatewayMap ssrc).isSome := by
  simp only [Inner.setChannel, Function.update_apply] at registered
  split at registered
  · next same => exact same ▸ present registered
  · exact registered

@[simp]
theorem trySend_inner (event : Option Event) : (state.trySend event).inner = state.inner := by
  rw [State.trySend]
  split <;> rfl

@[simp]
theorem trySend_waiting (event : Option Event) : (state.trySend event).waiting = state.waiting := by
  rw [State.trySend]
  split <;> rfl

theorem mem_trySend (sent : Option Event) {queued : Event} (member : queued ∈ state.queue) :
    queued ∈ (state.trySend sent).queue := by
  rw [State.trySend]
  split
  · exact List.mem_append_left _ member
  · exact member

/-- A step of a task that has no event, at which the queue and the loop keep theirs. -/
theorem Keeps.quiet (idle : task.handles = none)
    (queue : ∀ queued ∈ state.queue, queued ∈ next.queue) (waiting : next.waiting = state.waiting)
    (timer : state.inner.timeSchedule ssrc = true → next.inner.timeSchedule ssrc = true)
    (channel : (next.inner.rtpGatewayMap ssrc).isSome → (state.inner.rtpGatewayMap ssrc).isSome)
    (starts : rest.bind Task.starts ≠ some ssrc) : Keeps state task next rest ssrc where
  timer := timer
  event _ carried := by
    rcases carried with queued | waits | handled
    · exact Or.inl (queue _ queued)
    · exact Or.inr (Or.inl (waiting.trans waits))
    · rw [Option.bind_some, idle] at handled
      cases handled
  channel := channel
  starts := starts

theorem Keeps.refl (idle : task.handles = none) : Keeps state task state none ssrc :=
  .quiet idle (fun _ queued => queued) rfl id id (by simp)

/-- The head of the queue is taken off, and it is no event for a worker. -/
theorem Keeps.behind {inner : Inner} {queue : List Event} {waiting : Option OutEvent} {workers : Nat}
    (head : Event) (silent : ∀ event, head ≠ .out event)
    (keeps : Keeps ⟨inner, queue, waiting, workers⟩ task next rest ssrc) :
    Keeps ⟨inner, head :: queue, waiting, workers⟩ task next rest ssrc where
  timer := keeps.timer
  event streamId carried := by
    apply keeps.event streamId
    rcases carried with queued | others
    · rcases List.mem_cons.mp queued with isHead | behind
      · exact absurd isHead.symm (silent _)
      · exact Or.inl behind
    · exact Or.inr others
  channel := keeps.channel
  starts := keeps.starts

/-- The loop's operation on a `StreamRegister` event. -/
theorem register_keeps (idle : task.handles = none) (rtpType : UInt8) (streamId : String)
    (subscribed : Bool) :
    Keeps state task (register state rtpType streamId subscribed).2
      (register state rtpType streamId subscribed).1 ssrc := by
  rw [register]
  split
  · exact .quiet idle (fun _ => mem_trySend _) (trySend_waiting _) id id (by simp [Task.starts])
  · exact .quiet idle (fun _ => mem_trySend _) (trySend_waiting _) (by simp) (by simp) (by simp)

/-- The loop takes an event and keeps it, or gives it to a worker. -/
theorem receive_keeps (idle : task.handles = none) (subscribed : Bool) (answer : Answer) :
    Keeps state task (receive state subscribed answer).2 (receive state subscribed answer).1 ssrc := by
  obtain ⟨inner, queue, waiting, workers⟩ := state
  cases waiting with
  | some event => exact .refl idle
  | none =>
      match queue with
      | [] => exact .refl idle
      | .active :: rest =>
          have keeps : Keeps ⟨inner, rest, none, workers⟩ task ⟨inner, rest, none, workers⟩ none ssrc :=
            .refl idle
          exact keeps.behind .active (by simp)
      | .streamRegister rtpType streamId :: rest =>
          have keeps : Keeps ⟨inner, rest, none, workers⟩ task
              (register ⟨inner, rest, none, workers⟩ rtpType streamId subscribed).2
              (register ⟨inner, rest, none, workers⟩ rtpType streamId subscribed).1 ssrc :=
            register_keeps idle rtpType streamId subscribed
          exact keeps.behind (.streamRegister rtpType streamId) (by simp)
      | .out taken :: rest =>
          simp only [receive]
          split
          · refine ⟨id, ?_, id, by simp [Task.starts]⟩
            rintro streamId (queued | waits | handled)
            · rcases List.mem_cons.mp queued with isTaken | behind
              · cases isTaken
                exact Or.inr (Or.inr rfl)
              · exact Or.inl behind
            · cases waits
            · rw [Option.bind_some, idle] at handled
              cases handled
          · refine ⟨id, ?_, id, by simp⟩
            rintro streamId (queued | waits | handled)
            · rcases List.mem_cons.mp queued with isTaken | behind
              · cases isTaken
                exact Or.inr (Or.inl rfl)
              · exact Or.inl behind
            · cases waits
            · rw [Option.bind_some, idle] at handled
              cases handled

theorem acquire_keeps (idle : task.handles = none) (answer : Answer) :
    Keeps state task (acquire state answer).2 (acquire state answer).1 ssrc := by
  rw [acquire]
  split
  · exact .refl idle
  · next event waiting =>
      split
      · refine ⟨id, ?_, id, by simp [Task.starts]⟩
        rintro streamId (queued | waits | handled)
        · exact Or.inl queued
        · rw [waiting] at waits
          exact Or.inr (Or.inr waits)
        · rw [Option.bind_some, idle] at handled
          cases handled
      · exact .refl idle

/-- An event that waits for a worker is given up, and it is no `StreamInTimeout`. -/
theorem giveUp_keeps (idle : task.handles = none) (noneWaits : NoneWaits state) :
    Keeps state task { state with waiting := none } none ssrc := by
  refine ⟨id, ?_, id, by simp⟩
  rintro streamId (queued | waits | handled)
  · exact Or.inl queued
  · rw [NoneWaits, waits] at noneWaits
    cases noneWaits
  · rw [Option.bind_some, idle] at handled
    cases handled

/-- A worker that closes a stream keeps its event until the channel is gone. -/
theorem handOut_keeps (answer : Answer)
    (renews : ∀ info, event = .streamInTimeout info → inTimeoutRes answer.inTimeout = .keepAlive →
      info.ssrc ≠ ssrc) :
    Keeps state (.handOut event answer) (handOut state event answer).2
      (handOut state event answer).1 ssrc := by
  cases event with
  | streamInTimeout info =>
      cases verdict : inTimeoutRes answer.inTimeout with
      | keepAlive =>
          simp only [handOut, verdict]
          refine ⟨arm_timer state.inner info.ssrc answer.accepts, ?_, ?_, by simp⟩
          · rintro streamId (queued | waits | handled)
            · exact Or.inl queued
            · exact Or.inr (Or.inl waits)
            · cases handled
              exact absurd rfl (renews _ rfl verdict)
          · simp only [State.release, arm_rtpGatewayMap]
            exact id
      | closeAll =>
          simp only [handOut, verdict]
          exact ⟨id, fun _ => id, id, by simp [Task.starts]⟩
  | streamIdle info =>
      cases verdict : outputRes info answer.idle with
      | keepMuxer | closeMuxer =>
          simp only [handOut, verdict]
          refine ⟨id, ?_, id, by simp⟩
          rintro streamId (queued | waits | handled)
          · exact Or.inl queued
          · exact Or.inr (Or.inl waits)
          · cases handled
      | closeAll =>
          simp only [handOut, verdict]
          exact ⟨id, fun _ => id, id, by simp [Task.starts]⟩
  | streamRegister _ | other =>
      simp only [handOut]
      refine ⟨id, ?_, id, by simp⟩
      rintro streamId (queued | waits | handled)
      · exact Or.inl queued
      · exact Or.inr (Or.inl waits)
      · cases handled

/-- A worker takes a channel away; it may have been at the event of another ssrc. -/
theorem closeChannel_keeps {info : BaseStreamInfo}
    (elsewhere : ∀ streamId, task.handles ≠ some (.streamInTimeout ⟨ssrc, streamId⟩)) :
    Keeps state task (state.closeChannel info) none ssrc := by
  refine ⟨id, ?_, setChannel_isSome state.inner (by simp), by simp⟩
  rintro streamId (queued | waits | handled)
  · exact Or.inl queued
  · exact Or.inr (Or.inl waits)
  · exact absurd handled (elsewhere streamId)

/-- A check takes no timer and no channel from the others. -/
theorem handleRtpInTimeout_timer (inner : Inner) (other : UInt32) (accepts : Bool)
    (armed : inner.timeSchedule ssrc = true) :
    (inner.handleRtpInTimeout other accepts).2.timeSchedule ssrc = true := by
  rw [Inner.handleRtpInTimeout]
  split
  · exact armed
  · split
    · exact armed
    · dsimp only
      split
      · exact arm_timer _ other accepts armed
      · exact armed

theorem handleRtpInTimeout_isSome (inner : Inner) (other : UInt32) (accepts : Bool)
    (registered : ((inner.handleRtpInTimeout other accepts).2.rtpGatewayMap ssrc).isSome) :
    (inner.rtpGatewayMap ssrc).isSome := by
  rw [Inner.handleRtpInTimeout] at registered
  split at registered
  · exact registered
  · next channel present =>
      split at registered
      · exact registered
      · have counted : ((inner.setChannel other (some channel.countTimeout)).rtpGatewayMap ssrc).isSome := by
          dsimp only at registered
          split at registered
          · rwa [arm_rtpGatewayMap] at registered
          · exact registered
        exact setChannel_isSome inner (by simp [present]) counted

/-- A timer of another ssrc goes off. -/
theorem rtpTimeout_keeps {other : UInt32} {accepts : Bool} (idle : task.handles = none)
    (different : ssrc ≠ other)
    (noneWaits : state.inner.timeSchedule other = true → NoneWaits state) :
    Keeps state task (rtpTimeout state other accepts) none ssrc := by
  rw [rtpTimeout]
  split
  · next armed =>
      have given : Keeps state task { state with waiting := none } none ssrc :=
        giveUp_keeps idle (noneWaits armed)
      refine ⟨?_, ?_, ?_, by simp⟩
      · intro mine
        rw [trySend_inner]
        apply handleRtpInTimeout_timer
        simp only [Inner.disarm, Function.update_of_ne different]
        exact mine
      · intro streamId carried
        rcases given.event streamId carried with queued | waits | handled
        · exact Or.inl (mem_trySend _ queued)
        · cases waits
        · cases handled
      · rw [trySend_inner]
        exact handleRtpInTimeout_isSome (state.inner.disarm other) other accepts
  · exact .refl idle

/-- The check of an ssrc that leads on: the ssrc was not registered, or has its next timer,
or its event is queued. -/
theorem rtpTimeout_cases {accepts : Bool} (armed : state.inner.timeSchedule ssrc = true)
    (leadsOn : LeadsOn state ssrc accepts) :
    ((rtpTimeout state ssrc accepts).inner.rtpGatewayMap ssrc).isSome →
      (rtpTimeout state ssrc accepts).inner.timeSchedule ssrc = true ∨
        ∃ streamId, .out (.streamInTimeout ⟨ssrc, streamId⟩) ∈ (rtpTimeout state ssrc accepts).queue := by
  rw [rtpTimeout, if_pos armed]
  simp only [trySend_inner]
  cases registered : state.inner.rtpGatewayMap ssrc with
  | none =>
      intro kept
      have before := handleRtpInTimeout_isSome _ ssrc accepts kept
      rw [Inner.disarm, registered] at before
      cases before
  | some channel =>
      obtain ⟨metadata, present, sameSsrc, next⟩ := leadsOn channel registered
      have present : (state.inner.disarm ssrc).streamMetadataMap channel.streamId = some metadata := present
      have registered : (state.inner.disarm ssrc).rtpGatewayMap ssrc = some channel := registered
      intro _
      simp only [Inner.handleRtpInTimeout, registered, present]
      split at next
      · next below =>
          subst next
          left
          simp [below, Inner.arm]
      · next reached =>
          right
          refine ⟨channel.streamId, ?_⟩
          simp [reached, State.trySend, next, sameSsrc]

end Operations

/-! ## The watch along a run -/

/-- A registered ssrc is watched, and an ssrc whose channel is still to come has its timer. -/
structure Secure (pool : Pool State Task) (ssrc : UInt32) : Prop where
  watched : (pool.shared.inner.rtpGatewayMap ssrc).isSome → Watched pool ssrc
  started : ¬NoneStarts pool ssrc → pool.shared.inner.timeSchedule ssrc = true

section Pools

variable {state next : State} {earlier later : List Task} {task : Task} {rest : Option Task}
  {ssrc : UInt32} {pool : Pool State Task}

theorem Secure.of_armed (armed : pool.shared.inner.timeSchedule ssrc = true) : Secure pool ssrc :=
  ⟨fun _ => Or.inl armed, fun _ => armed⟩

theorem Pending.advanced {event : OutEvent} (pending : Pending ⟨state, earlier ++ task :: later⟩ event)
    (carried : Carries state (some task) event → Carries next rest event) :
    Pending ⟨next, earlier ++ rest.toList ++ later⟩ event := by
  have elsewhere (carries : Carries next rest event) :
      Pending ⟨next, earlier ++ rest.toList ++ later⟩ event := by
    rcases carries with queued | waits | handled
    · exact Or.inl queued
    · exact Or.inr (Or.inl waits)
    · obtain ⟨other, isRest, handles⟩ := Option.bind_eq_some_iff.mp handled
      exact Or.inr (Or.inr ⟨other, mem_advanced_of_rest isRest, handles⟩)
  rcases pending with queued | waits | ⟨other, member, handles⟩
  · exact elsewhere (carried (Or.inl queued))
  · exact elsewhere (carried (Or.inr (Or.inl waits)))
  · by_cases same : other = task
    · subst same
      exact elsewhere (carried (Or.inr (Or.inr handles)))
    · exact Or.inr (Or.inr ⟨other, mem_advanced_of_ne member same, handles⟩)

theorem noneStarts_advanced (noneStarts : NoneStarts ⟨state, earlier ++ task :: later⟩ ssrc)
    (starts : rest.bind Task.starts ≠ some ssrc) :
    NoneStarts ⟨next, earlier ++ rest.toList ++ later⟩ ssrc := by
  intro other member
  rcases mem_advanced task member with isRest | before
  · rw [Option.mem_def.mp isRest] at starts
    exact starts
  · exact noneStarts other before

/-- A step that takes nothing from the watch. -/
theorem Secure.advanced (secure : Secure ⟨state, earlier ++ task :: later⟩ ssrc)
    (keeps : Keeps state task next rest ssrc) :
    Secure ⟨next, earlier ++ rest.toList ++ later⟩ ssrc where
  watched registered := by
    rcases secure.watched (keeps.channel registered) with armed | ⟨streamId, pending⟩
    · exact Or.inl (keeps.timer armed)
    · exact Or.inr ⟨streamId, pending.advanced (keeps.event streamId)⟩
  started starting := by
    apply keeps.timer
    apply secure.started
    exact fun noneStarts => starting (noneStarts_advanced noneStarts keeps.starts)

/-- The timer of the ssrc itself goes off. -/
theorem Secure.checked {accepts : Bool} (secure : Secure ⟨state, earlier ++ task :: later⟩ ssrc)
    (idle : task.handles = none)
    (links : state.inner.timeSchedule ssrc = true → NoneWaits state ∧
      NoneStarts ⟨state, earlier ++ task :: later⟩ ssrc ∧ LeadsOn state ssrc accepts) :
    Secure ⟨rtpTimeout state ssrc accepts, earlier ++ (none : Option Task).toList ++ later⟩ ssrc := by
  by_cases armed : state.inner.timeSchedule ssrc = true
  · obtain ⟨-, noneStarts, leadsOn⟩ := links armed
    constructor
    · intro registered
      rcases rtpTimeout_cases armed leadsOn registered with renewed | ⟨streamId, queued⟩
      · exact Or.inl renewed
      · exact Or.inr ⟨streamId, Or.inl queued⟩
    · intro starting
      exact absurd (noneStarts_advanced noneStarts (by simp)) starting
  · have still : rtpTimeout state ssrc accepts = state := by rw [rtpTimeout, if_neg armed]
    rw [still]
    exact secure.advanced (.refl idle)

theorem secure_begin {tasks : List Task} (calls : task.isCall = true)
    (secure : Secure ⟨state, tasks⟩ ssrc) : Secure ⟨state, tasks ++ [task]⟩ ssrc := by
  have noStart : task.starts ≠ some ssrc := by
    cases task with
    | insertChannel config => cases calls
    | _ => exact fun starts => by cases starts
  constructor
  · intro registered
    rcases secure.watched registered with armed | ⟨streamId, queued | waits | ⟨other, member, handles⟩⟩
    · exact Or.inl armed
    · exact Or.inr ⟨streamId, Or.inl queued⟩
    · exact Or.inr ⟨streamId, Or.inr (Or.inl waits)⟩
    · exact Or.inr ⟨streamId, Or.inr (Or.inr ⟨other, List.mem_append_left _ member, handles⟩)⟩
  · intro starting
    apply secure.started
    intro noneStarts
    apply starting
    intro other member
    rcases List.mem_append.mp member with before | isNew
    · exact noneStarts other before
    · rw [List.mem_singleton.mp isNew]
      exact noStart

/-- The channel of the ssrc is taken away. -/
theorem Secure.closed {info : BaseStreamInfo}
    (secure : Secure ⟨state, earlier ++ task :: later⟩ info.ssrc) :
    Secure ⟨state.closeChannel info, earlier ++ (none : Option Task).toList ++ later⟩ info.ssrc where
  watched registered := by simp [State.closeChannel, State.release, Inner.setChannel] at registered
  started starting := by
    apply secure.started
    exact fun noneStarts => starting (noneStarts_advanced noneStarts (by simp))

/-- An operation of a call that has no event and sends nothing. -/
theorem Secure.moved {inner : Inner} (rest : Option Task)
    (secure : Secure ⟨state, earlier ++ task :: later⟩ ssrc) (idle : task.handles = none)
    (timer : state.inner.timeSchedule ssrc = true → inner.timeSchedule ssrc = true)
    (channel : (inner.rtpGatewayMap ssrc).isSome → (state.inner.rtpGatewayMap ssrc).isSome)
    (starts : rest.bind Task.starts ≠ some ssrc) :
    Secure ⟨{ state with inner := inner }, earlier ++ rest.toList ++ later⟩ ssrc :=
  secure.advanced (.quiet idle (fun _ queued => queued) rfl timer channel starts)

/-- An operation of a call that sends an event. -/
theorem Secure.sent {inner : Inner} (event : Option Event)
    (secure : Secure ⟨state, earlier ++ task :: later⟩ ssrc) (idle : task.handles = none)
    (timer : inner.timeSchedule = state.inner.timeSchedule)
    (channel : inner.rtpGatewayMap = state.inner.rtpGatewayMap) :
    Secure ⟨State.trySend { state with inner := inner } event,
      earlier ++ (none : Option Task).toList ++ later⟩ ssrc := by
  have queue (queued : Event) (member : queued ∈ state.queue) :
      queued ∈ (State.trySend { state with inner := inner } event).queue := mem_trySend event member
  refine secure.advanced (.quiet idle queue (trySend_waiting _) ?_ ?_ (by simp))
  · rw [trySend_inner, timer]
    exact id
  · rw [trySend_inner, channel]
    exact id

/-- Every operation that keeps the links keeps the watch. -/
theorem secure_work (secure : ∀ ssrc, Secure ⟨state, earlier ++ task :: later⟩ ssrc)
    (links : KeepsLinks ⟨state, earlier ++ task :: later⟩ task) (ssrc : UInt32) :
    Secure ⟨(work state task).2, earlier ++ (work state task).1.toList ++ later⟩ ssrc := by
  have here := secure ssrc
  cases task with
  | initMedia config accepts =>
      simp only [work]
      split
      · by_cases same : config.ssrc = ssrc
        · obtain rfl : accepts = true := links
          apply Secure.of_armed
          simp [Inner.arm, same]
        · exact here.moved (some (.insertChannel config)) rfl
            (arm_timer state.inner config.ssrc accepts) (by simp) (by simpa [Task.starts] using same)
      · exact here.advanced (.refl rfl)
  | insertChannel config =>
      by_cases same : config.ssrc = ssrc
      · have starting : ¬NoneStarts ⟨state, earlier ++ .insertChannel config :: later⟩ ssrc := by
          intro noneStarts
          exact noneStarts (.insertChannel config) (by simp) (by rw [Task.starts, same])
        exact Secure.of_armed (here.started starting)
      · refine here.moved (some (.insertMetadata config)) rfl id ?_ (by simp [Task.starts])
        simp only [Inner.insertChannel, Inner.setChannel, Function.update_of_ne (Ne.symm same)]
        exact id
  | insertMetadata config => exact here.sent _ rfl rfl rfl
  | initMediaExt target mediaExt =>
      refine here.moved none rfl ?_ ?_ (by simp)
      · rw [Inner.initMediaExt]
        split
        · exact id
        · split <;> exact id
      · rw [Inner.initMediaExt]
        split
        · exact id
        · split <;> exact id
  | refresh target =>
      refine here.moved none rfl ?_ ?_ (by simp)
      · rw [Inner.refresh]
        split <;> exact id
      · rw [Inner.refresh]
        split
        · exact id
        · next present => exact setChannel_isSome state.inner (by simp [present])
  | send event => exact here.sent (some event) rfl rfl rfl
  | rtpTimeout target accepts =>
      by_cases same : ssrc = target
      · subst same
        exact here.checked rfl links
      · exact here.advanced (rtpTimeout_keeps rfl same fun armed => (links armed).1)
  | otherTimeout => exact here.advanced (giveUp_keeps rfl links)
  | receive subscribed answer => exact here.advanced (receive_keeps rfl subscribed answer)
  | acquire answer => exact here.advanced (acquire_keeps rfl answer)
  | handOut event answer =>
      by_cases renewed : ∃ info, event = .streamInTimeout info ∧
          inTimeoutRes answer.inTimeout = .keepAlive ∧ info.ssrc = ssrc
      · obtain ⟨info, rfl, verdict, rfl⟩ := renewed
        apply Secure.of_armed
        simp [work, handOut, verdict, links verdict, State.release, Inner.arm]
      · refine here.advanced (handOut_keeps answer fun info isInTimeout verdict same => ?_)
        exact renewed ⟨info, isInTimeout, verdict, same⟩
  | closeByInput info =>
      by_cases same : info.ssrc = ssrc
      · subst same
        exact here.closed
      · refine here.advanced (closeChannel_keeps fun streamId handled => ?_)
        cases handled
        exact same rfl
  | closeByOutput info =>
      exact here.advanced (closeChannel_keeps fun streamId handled => by cases handled)
  | removeChannel target =>
      exact here.moved none rfl id (setChannel_isSome state.inner (by simp)) (by simp)

end Pools

theorem init_secure (inWaitTimeout : UInt8) (ssrc : UInt32) : Secure ⟨init inWaitTimeout, []⟩ ssrc :=
  ⟨fun registered => (by cases registered), fun starting => absurd (fun _ member => by cases member) starting⟩

/-- A run whose steps all keep the links of the chain watches every registered input in
every state. -/
theorem every_input_watched (inWaitTimeout : UInt8) (moves : List (Move Task))
    (links : ∀ entry ∈ Runs.run (step work) ⟨init inWaitTimeout, []⟩ moves,
      Guarded (fun task => task.isCall = true) KeepsLinks entry.before entry.action) :
    ∀ entry ∈ Runs.run (step work) ⟨init inWaitTimeout, []⟩ moves, EveryInputWatched entry.after := by
  intro entry member ssrc
  have secure := invariant_run (fun pool => ∀ ssrc, Secure pool ssrc)
    (fun _ _ _ before calls ssrc => secure_begin calls (before ssrc))
    (fun _ _ _ _ before keeps ssrc => secure_work before keeps ssrc)
    (init_secure inWaitTimeout) links entry member
  exact (secure.2 ssrc).watched

/-- A stream is registered, times out, and is kept alive. -/
def timeoutThenKeepAlive : List (Move Task) :=
  [.begin (.initMedia (flvConfig 1 "first") true), .advance 0, .advance 0, .advance 0,
    .begin (.rtpTimeout 1 true), .advance 0,
    .begin (.receive true ⟨some ⟨200, some .keepAlive⟩, none, true⟩), .advance 0, .advance 0]

theorem every_input_watched_timeoutThenKeepAlive :
    timeoutThenKeepAlive.length = 9 ∧
      ∀ entry ∈ Runs.run (step work) ⟨init 4, []⟩ timeoutThenKeepAlive,
        EveryInputWatched entry.after :=
  ⟨rfl, every_input_watched 4 timeoutThenKeepAlive (by decide +kernel)⟩

def noAnswer : Answer := ⟨none, none, true⟩

/-- Events come in, and each is given to a worker that waits for the answer. -/
def busyWorkers (count : Nat) : List (Move Task) :=
  (List.range count).flatMap fun index =>
    [.begin (.send (.out .other)), .advance index, .begin (.receive true noAnswer), .advance index]

theorem final_busyWorkers {count : Nat} (enough : count ≤ maxWorkerPool) :
    Runs.final (step work) ⟨init 4, []⟩ (busyWorkers count) =
      ⟨{ init 4 with workers := count }, List.replicate count (.handOut .other noAnswer)⟩ := by
  induction count with
  | zero => rfl
  | succ count ih =>
      have size : (List.replicate count (Task.handOut .other noAnswer)).length = count := by simp
      have free : count < maxWorkerPool := enough
      rw [busyWorkers, List.range_succ, List.flatMap_append, Runs.final_append, ← busyWorkers,
        ih (Nat.le_of_succ_le enough), List.flatMap_singleton, final_begin_advance _ _ _ _ size]
      simp only [work, State.trySend, init, List.length_nil, eventCapacity, Nat.zero_lt_succ, if_true,
        Option.toList_none, Option.toList_some, List.nil_append, List.append_nil]
      rw [final_begin_advance _ _ _ _ size]
      simp only [work, receive, free, if_true, Runs.final_nil, Option.toList_some, List.replicate_succ']

/-- A stream is registered and times out while all workers are busy: its event waits for
a worker, and the timer of something else goes off. -/
def timeoutUnderLoad : List (Move Task) :=
  busyWorkers maxWorkerPool ++
    [.begin (.initMedia (flvConfig 1 "first") true), .advance 128, .advance 128, .advance 128,
      .begin (.rtpTimeout 1 true), .advance 128, .begin (.receive true noAnswer), .advance 128,
      .begin .otherTimeout, .advance 128]

theorem timeoutUnderLoad_calls (task : Task) (begun : .begin task ∈ timeoutUnderLoad) :
    task.isCall = true := by
  rcases List.mem_append.mp begun with busy | later
  · obtain ⟨index, _, inPair⟩ := List.mem_flatMap.mp busy
    simp only [List.mem_cons, Move.begin.injEq, reduceCtorEq, List.not_mem_nil, or_false,
      false_or] at inPair
    rcases inPair with rfl | rfl <;> rfl
  · simp only [List.mem_cons, Move.begin.injEq, reduceCtorEq, List.not_mem_nil, or_false,
      false_or] at later
    rcases later with rfl | rfl | rfl | rfl <;> rfl

/-- The event is lost with the waiting, and the stream stays without a timer. -/
theorem timeoutUnderLoad_unwatched :
    (∀ task, .begin task ∈ timeoutUnderLoad → task.isCall = true) ∧
      ¬∀ entry ∈ Runs.run (step work) ⟨init 4, []⟩ timeoutUnderLoad,
        EveryInputWatched entry.after := by
  refine ⟨timeoutUnderLoad_calls, fun all => ?_⟩
  obtain ⟨entry, member, isLast⟩ := Runs.exists_after_final (step work) ⟨init 4, []⟩
    (by simp [timeoutUnderLoad] : timeoutUnderLoad ≠ [])
  have watched := all entry member 1
  rw [isLast, timeoutUnderLoad, Runs.final_append, final_busyWorkers (Nat.le_refl _)] at watched
  set last := Runs.final (step work) _ _
  have left : (last.shared.inner.rtpGatewayMap 1).isSome ∧
      last.shared.inner.timeSchedule 1 = false ∧ last.shared.queue = [] ∧
      last.shared.waiting = none ∧ ∀ task ∈ last.tasks, task.handles = some .other := by
    decide +kernel
  obtain ⟨registered, idle, unqueued, unheld, others⟩ := left
  rcases watched registered with armed | ⟨streamId, queued | waits | ⟨task, inTasks, handles⟩⟩
  · rw [idle] at armed
    cases armed
  · rw [unqueued] at queued
    cases queued
  · rw [unheld] at waits
    cases waits
  · rw [others task inTasks] at handles
    cases handles

end Gmv.Stream.InputWatch
