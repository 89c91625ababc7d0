import Gmv.Session.QuietCloses

/-!
# Every close has a deadline

A close is under way in `begin`, has its timer, or waits for its device.  The last is left only by
a registration, which retries the BYE of a closing stream and arms nothing.  So a close is without
a deadline exactly from a registration on that finds a restored stream waiting.
-/

namespace Gmv.Session.CloseTimers

open Gmv.Library Gmv.Library.TaskPool
open DialogRecovery (Kind Conf)
open DeviceMap (Plan)

/-- The close waits for its device: it is one of a restored stream, and the device has no session. -/
def Waits (world : World) (close : Close) : Prop :=
  isRestored world.cache close.id close.kind = true ∧ world.network.session close.deviceId = none

/-- Every close has its timer, or a call is at it, or it waits for its device. -/
def Timed (pool : Pool World Task) : Prop :=
  ∀ close : Close, close.GoesOn pool.shared.cache → Attended pool close ∨ Waits pool.shared close

theorem Timed.deadlines {pool : Pool World Task} (timed : Timed pool) : Deadlines pool := by
  intro close goesOn present
  rcases timed close goesOn with attended | ⟨_, absent⟩
  · exact attended
  · rw [absent] at present
    cases present

/-- What a step leaves of the closes: each that goes on is attended by what the step has armed or
goes on with, or waits; or it went on before, the task was not at it, and the step has kept it. -/
def Kept (world next : World) (task : Task) (rest : Option Task) : Prop :=
  ∀ close : Close, close.GoesOn next.cache →
    Attended ⟨next, rest.toList⟩ close ∨ Waits next close ∨
      (close.GoesOn world.cache ∧
        isRestored next.cache close.id close.kind = isRestored world.cache close.id close.kind ∧
        task.handles world.cache close = false ∧
        (world.armed close.key = true → next.armed close.key = true) ∧
        (world.network.session close.deviceId = none → next.network.session close.deviceId = none))

section Steps

variable {conf : Conf} {world next : World} {task : Task} {rest : Option Task} {close : Close}
  {earlier later : List Task} {cache : Cache}

/-- Being at a close depends on the cache by the origin of the entry alone. -/
theorem handles_congr (same : isRestored cache close.id close.kind =
    isRestored world.cache close.id close.kind) :
    task.handles cache close = task.handles world.cache close := by
  cases task with
  | unregistered other => rw [Task.handles, Task.handles, same]
  | _ => rfl

theorem Timed.begin {shared : World} {tasks : List Task} (timed : Timed ⟨shared, tasks⟩)
    (task : Task) : Timed ⟨shared, tasks ++ [task]⟩ := by
  intro close goesOn
  rcases timed close goesOn with (isArmed | ⟨other, member, handles⟩) | waits
  · exact Or.inl (Or.inl isArmed)
  · exact Or.inl (Or.inr ⟨other, List.mem_append_left _ member, handles⟩)
  · exact Or.inr waits

theorem Timed.advance (timed : Timed ⟨world, earlier ++ task :: later⟩)
    (kept : Kept world next task rest) : Timed ⟨next, earlier ++ rest.toList ++ later⟩ := by
  intro close goesOn
  rcases kept close goesOn with (isArmed | ⟨other, isRest, handles⟩) | waits |
    ⟨before, origin, idle, armed, sessions⟩
  · exact Or.inl (Or.inl isArmed)
  · exact Or.inl (Or.inr ⟨other, List.mem_append_left _ (List.mem_append_right _ isRest), handles⟩)
  · exact Or.inr waits
  · rcases timed close before with (isArmed | ⟨other, member, handles⟩) | ⟨restored, absent⟩
    · exact Or.inl (Or.inl (armed isArmed))
    · have differs : other ≠ task := by
        intro same
        rw [same, idle] at handles
        cases handles
      refine Or.inl (Or.inr ⟨other, mem_advanced_of_ne member differs, ?_⟩)
      rw [handles_congr origin]
      exact handles
    · exact Or.inr ⟨origin.trans restored, sessions absent⟩

/-- A task that is at no close takes a step that begins none. -/
theorem Kept.of_quiet (quiet : Quiet world next) (idle : ∀ close, task.handles world.cache close = false)
    (rest : Option Task) : Kept world next task rest :=
  fun close goesOn => Or.inr (Or.inr ⟨quiet.cache.closes close goesOn,
    quiet.cache.restored close goesOn, idle close, quiet.armed close goesOn,
    quiet.sessions close.deviceId⟩)

/-- A task that is at one close takes a quiet step, and settles what becomes of that one. -/
theorem Kept.of_handled (quiet : Quiet world next)
    (settled : ∀ close : Close, close.GoesOn next.cache → task.handles world.cache close = true →
      Attended ⟨next, rest.toList⟩ close ∨ Waits next close) : Kept world next task rest := by
  intro close goesOn
  cases handles : task.handles world.cache close with
  | true => exact (settled close goesOn handles).imp_right Or.inl
  | false =>
      exact Or.inr (Or.inr ⟨quiet.cache.closes close goesOn, quiet.cache.restored close goesOn,
        rfl, quiet.armed close goesOn, quiet.sessions close.deviceId⟩)

/-! ### One step of one task -/

/-- A task that is at no close, by the world that its step leaves. -/
theorem Kept.of_works (works : (work conf world task).2 = next) (quiet : Quiet world next)
    (idle : ∀ close, task.handles world.cache close = false) :
    Kept world (work conf world task).2 task (work conf world task).1 := by
  rw [works]
  exact Kept.of_quiet quiet idle _

theorem kept_closeBegin (kind : Kind) (id : String) (out : BeginOutcome) :
    Kept world (work conf world (.closeBegin kind id out)).2 (.closeBegin kind id out)
      (work conf world (.closeBegin kind id out)).1 := by
  have cases' := closeBegin_cases world.cache id kind
  rw [work]
  revert cases'
  rcases closeBegin world.cache id kind with ⟨start, begun⟩
  rintro (⟨quiet, again⟩ | ⟨start, rfl, newly, only⟩)
  · cases start <;> exact Kept.of_quiet (Quiet.of_cache quiet) (fun _ => rfl) _
  · simp only [newly, if_true]
    intro close goesOn
    rcases only close goesOn with isNew | ⟨before, origin⟩
    · refine Or.inl (Or.inr ⟨_, List.mem_singleton_self _, ?_⟩)
      rw [isNew]
      exact beq_self_eq_true _
    · exact Or.inr (Or.inr ⟨before, origin, rfl, fun isArmed => isArmed, fun absent => absent⟩)

/-- `begin` has read the session: it forces the close or arms its timer, or it finds no session. -/
theorem kept_begun (other : Close) (out : BeginOutcome) :
    Kept world (work conf world (.begun other out)).2 (.begun other out)
      (work conf world (.begun other out)).1 := by
  rw [work]
  cases held : world.network.session other.deviceId with
  | none =>
      refine Kept.of_handled (Quiet.refl world) fun close _ handles => ?_
      have same : other = close := beq_iff_eq.mp handles
      subst same
      cases restored : isRestored world.cache other.id other.kind with
      | true => exact Or.inr ⟨restored, held⟩
      | false =>
          refine Or.inl (Or.inr ⟨_, List.mem_singleton_self _, ?_⟩)
          simp only [Task.handles, restored, beq_self_eq_true, Bool.not_false, Bool.and_self]
  | some session =>
      dsimp only
      refine Kept.of_handled (Quiet.refl world) fun close _ handles => ?_
      by_cases due : session.reconnectTimeout out.now = 0
      · rw [if_pos due]
        exact Or.inl (Or.inr ⟨_, List.mem_singleton_self _, handles⟩)
      · rw [if_neg due]
        exact Or.inl (Or.inr ⟨_, List.mem_singleton_self _, handles⟩)

theorem kept_unregistered (other : Close) :
    Kept world (work conf world (.unregistered other)).2 (.unregistered other)
      (work conf world (.unregistered other)).1 := by
  rw [work]
  refine Kept.of_handled (Quiet.refl world) fun close _ handles => ?_
  rw [Task.handles, Bool.and_eq_true, Bool.not_eq_true'] at handles
  obtain ⟨same, fresh⟩ := handles
  have isClose : other = close := beq_iff_eq.mp same
  rw [isClose, fresh]
  exact Or.inl (Or.inr ⟨_, List.mem_singleton_self _, beq_self_eq_true _⟩)

theorem armed_arm (world : World) (key : TimerKey) (isArmed : Bool) :
    (world.arm key isArmed).armed key = isArmed := by
  rw [World.arm]
  exact Function.update_self ..

theorem quiet_arm (world : World) (key : TimerKey) : Quiet world (world.arm key true) := by
  refine ⟨QuietCache.refl world.cache, fun close _ isArmed => ?_, fun _ absent => absent⟩
  rw [World.arm]
  dsimp only
  by_cases same : close.key = key
  · rw [same, Function.update_self]
  · rw [Function.update_of_ne same]
    exact isArmed

theorem kept_arming (other : Close) (scheduled : Bool) :
    Kept world (work conf world (.arming other scheduled)).2 (.arming other scheduled)
      (work conf world (.arming other scheduled)).1 := by
  cases scheduled with
  | true =>
      have works : work conf world (.arming other true) =
          (some (.retry other.kind other.id), world.arm other.key true) := rfl
      rw [works]
      refine Kept.of_handled (quiet_arm world other.key) fun close _ handles => ?_
      have same : other = close := beq_iff_eq.mp handles
      rw [← same]
      exact Or.inl (Or.inl (armed_arm world other.key true))
  | false =>
      refine Kept.of_handled (Quiet.refl world) fun close _ handles => ?_
      exact Or.inl (Or.inr ⟨_, List.mem_singleton_self _, handles⟩)

/-- A task that removes the entry of a close is done with it. -/
theorem kept_closeRemove (key : TimerKey) (rest : Option Task)
    (meant : ∀ close, task.handles world.cache close = true → close.key = key) :
    Kept world (world.closeRemove key) task rest := by
  refine Kept.of_handled (quiet_closeRemove world key) fun close goesOn handles => ?_
  rw [← meant close handles] at goesOn
  exact (closeRemove_ends world goesOn).elim

/-- A timer that goes off hands its close on to its handler. -/
theorem kept_expire (key : TimerKey) :
    Kept world (work conf world (.expire key)).2 (.expire key)
      (work conf world (.expire key)).1 := by
  intro close goesOn
  rw [work]
  dsimp only
  by_cases same : close.key = key
  · cases armed : world.armed key with
    | true =>
        refine Or.inl (Or.inr ⟨_, List.mem_singleton_self _, ?_⟩)
        rw [← same]
        exact beq_self_eq_true _
    | false =>
        refine Or.inr (Or.inr ⟨goesOn, rfl, rfl, fun isArmed => ?_, fun absent => absent⟩)
        rw [same, armed] at isArmed
        cases isArmed
  · refine Or.inr (Or.inr ⟨goesOn, rfl, rfl, fun isArmed => ?_, fun absent => absent⟩)
    exact (Function.update_of_ne same false world.armed).trans isArmed

/-- A task that only reads, and goes on or ends. -/
theorem Kept.of_read (idle : ∀ close, task.handles world.cache close = false) (rest : Option Task) :
    Kept world world task rest :=
  Kept.of_quiet (Quiet.refl world) idle rest

theorem Kept.of_cache (quiet : QuietCache world.cache cache)
    (idle : ∀ close, task.handles world.cache close = false) (rest : Option Task) :
    Kept world { world with cache := cache } task rest :=
  Kept.of_quiet (Quiet.of_cache quiet) idle rest

theorem Kept.of_network {network : Network} (sessions : ∀ deviceId,
      world.network.session deviceId = none → network.session deviceId = none)
    (idle : ∀ close, task.handles world.cache close = false) (rest : Option Task) :
    Kept world { world with network := network } task rest :=
  Kept.of_quiet (Quiet.of_network sessions) idle rest

/-- Every step of a task keeps the closes, but for one that enters a session. -/
theorem kept_work (conf : Conf) (world : World) (task : Task) (entersNone : task.enters = none) :
    Kept world (work conf world task).2 task (work conf world task).1 := by
  cases task with
  | startStream plan heard out =>
      refine Kept.of_works ?_ (Quiet.of_cache (quiet_streamMapInsert world.cache plan.streamId
        plan.deviceId plan.channelId plan.u32ssrc "" plan.nodeName plan.callId plan.seq plan.am
        false)) fun _ => rfl
      rw [work, startWork, Cache.streamMapInsertInfo]
      rcases world.cache.streamMapInsert plan.streamId plan.deviceId plan.channelId plan.u32ssrc ""
        plan.nodeName plan.callId plan.seq plan.am false with ⟨_ | _, _⟩
      · rfl
      · cases heard <;> rfl
  | updateSource plan proxyAddr => exact Kept.of_cache (quiet_updateSource ..) (fun _ => rfl) _
  | listStream plan => exact Kept.of_cache (QuietCache.of_maps rfl rfl) (fun _ => rfl) _
  | startTalk plan => exact Kept.of_quiet (quiet_insertTalk ..) (fun _ => rfl) _
  | recover recovery => exact Kept.of_read (fun _ => rfl) _
  | insertTalk recovery ssrc =>
      refine Kept.of_works ?_ (quiet_insertTalk world recovery.run.session.streamId
        recovery.run.session.deviceId recovery.run.session.channelId ssrc
        recovery.run.session.mediaNodeId recovery.run.session.callId
        (DialogRecovery.restoredSeq recovery.run.session) true) fun _ => rfl
      rw [work]
      rcases insertTalk world recovery.run.session.streamId recovery.run.session.deviceId
        recovery.run.session.channelId ssrc recovery.run.session.mediaNodeId
        recovery.run.session.callId (DialogRecovery.restoredSeq recovery.run.session) true with
        ⟨_ | _, _⟩ <;> rfl
  | insertStream recovery ssrc am =>
      refine Kept.of_works ?_ (quiet_insertRestored world recovery ssrc am) fun _ => rfl
      rw [work]
      rcases insertRestored world recovery ssrc am with ⟨_ | _, _⟩ <;> rfl
  | listRestored recovery am => exact Kept.of_cache (QuietCache.of_maps rfl rfl) (fun _ => rfl) _
  | insertClosing recovery ssrc am =>
      refine Kept.of_works ?_ (quiet_insertRestored world recovery ssrc am) fun _ => rfl
      rw [work]
      rcases insertRestored world recovery ssrc am with ⟨_ | _, _⟩ <;> rfl
  | closeBegin kind id out => exact kept_closeBegin kind id out
  | begun close out => exact kept_begun close out
  | unregistered close => exact kept_unregistered close
  | arming close scheduled => exact kept_arming close scheduled
  | forceCleanup close =>
      refine kept_closeRemove close.key _ fun other handles => ?_
      rw [beq_iff_eq.mp handles]
  | retry kind id => exact Kept.of_cache (quiet_closeTakeBye world.cache id kind) (fun _ => rfl) _
  | byeResult key seq failed =>
      cases failed with
      | none => exact Kept.of_quiet (quiet_closeRemove world key) (fun _ => rfl) _
      | some reason =>
          exact Kept.of_cache (quiet_closeMarkFailed world.cache key seq reason) (fun _ => rfl) _
  | terminated callId =>
      rw [work]
      cases world.cache.streamIdByCallId callId <;> exact Kept.of_read (fun _ => rfl) _
  | terminatedStream streamId callId =>
      refine Kept.of_works ?_ (quiet_streamRemoveIf world streamId
        fun stream => stream.callId == callId) fun _ => rfl
      rw [work]
      rcases world.streamRemoveIf streamId fun stream => stream.callId == callId with
        ⟨_ | _, _⟩ <;> rfl
  | terminatedTalk callId => exact Kept.of_read (fun _ => rfl) _
  | terminatedRemove talkId callId => exact Kept.of_quiet (quiet_talkRemoveIf ..) (fun _ => rfl) _
  | expire key => exact kept_expire key
  | expired key => exact kept_closeRemove key _ fun other handles => (beq_iff_eq.mp handles).symm
  | register deviceId session scheduled =>
      rw [work]
      split <;> exact Kept.of_read (fun _ => rfl) _
  | rebindRegistration entering =>
      refine Kept.of_works ?_ (Quiet.of_network fun _ absent =>
        session_none_rebindRegistration _ entering.deviceId entering.session absent) fun _ => rfl
      rw [work]
      rcases world.network.rebindRegistration entering.deviceId entering.session with
        ⟨_ | _, _⟩ <;> rfl
  | removeSession entering =>
      exact Kept.of_network (fun _ absent => session_none_removeDeviceByInner _ _ absent)
        (fun _ => rfl) _
  | enter entering =>
      have unscheduled : entering.scheduled = false := by
        cases isScheduled : entering.scheduled with
        | false => rfl
        | true =>
            rw [Task.enters, isScheduled] at entersNone
            cases entersNone
      rw [work, unscheduled]
      exact Kept.of_read (fun _ => rfl) _
  | deviceHeart deviceId association now scheduled => exact Kept.of_read (fun _ => rfl) _
  | rebind deviceId previous association now scheduled =>
      refine Kept.of_works ?_ (Quiet.of_network fun _ absent =>
        session_none_rebind _ deviceId association now absent) fun _ => rfl
      rw [work]
      rcases world.network.rebind deviceId association now with ⟨_ | _, _⟩ <;> rfl
  | retryDevice deviceId kind => exact Kept.of_read (fun _ => rfl) _
  | retryEach deviceId kind ids =>
      cases ids with
      | nil => exact Kept.of_read (fun _ => rfl) _
      | cons id rest => exact Kept.of_cache (quiet_closeTakeBye world.cache id kind) (fun _ => rfl) _
  | detach association scheduled now =>
      refine Kept.of_works ?_ (Quiet.of_network fun _ absent =>
        session_none_detachAssociation _ association now absent) fun _ => rfl
      rw [work]
      rcases world.network.detachAssociation association now with ⟨_ | _, _⟩ <;> rfl
  | reconnectExpired deviceId generation =>
      refine Kept.of_works ?_ (Quiet.of_network fun _ absent =>
        session_none_removeDisconnected _ deviceId generation absent) fun _ => rfl
      rw [work]
      rcases world.network.removeDisconnected deviceId generation with ⟨_ | _, _⟩ <;> rfl
  | lifetimeExpired deviceId | removeDevice deviceId =>
      exact Kept.of_network (fun _ absent => session_none_removeDeviceByInner _ _ absent)
        (fun _ => rfl) _
  | reset deviceId entering => exact Kept.of_cache (QuietCache.of_maps rfl rfl) (fun _ => rfl) _
  | resetEntries deviceId streamIds entering =>
      cases streamIds with
      | nil => exact Kept.of_read (fun _ => rfl) _
      | cons id rest => exact Kept.of_quiet (quiet_resetRemove world id .stream) (fun _ => rfl) _
  | resetScan deviceId kind entering => exact Kept.of_read (fun _ => rfl) _
  | resetRest deviceId kind ids entering =>
      cases ids with
      | nil => exact Kept.of_read (fun _ => rfl) _
      | cons id rest => exact Kept.of_quiet (quiet_resetRemove world id kind) (fun _ => rfl) _

/-! ### A session is entered -/

theorem enters_eq_some {deviceId : String} (enters : task.enters = some deviceId) :
    ∃ entering, task = .enter entering ∧ entering.scheduled = true ∧
      entering.deviceId = deviceId := by
  cases task with
  | enter entering =>
      rw [Task.enters, Option.ite_none_right_eq_some, Option.some.injEq] at enters
      exact ⟨entering, rfl, enters.1, enters.2⟩
  | _ => cases enters

variable (conf world) in
/-- What a registration goes on with is at no close. -/
theorem work_enter {entering : Entering} (scheduled : entering.scheduled = true) :
    ∃ rest : Option Task,
      work conf world (.enter entering) = (rest, { world with
        network := world.network.insert entering.deviceId entering.session }) ∧
      ∀ other ∈ rest, ∀ close, other.handles world.cache close = false := by
  refine ⟨_, by rw [work, if_pos scheduled], fun other isRest close => ?_⟩
  rw [Option.mem_def, Option.ite_none_left_eq_some, Option.some.injEq] at isRest
  rw [← isRest.2]
  rfl

/-- Entering a session takes no call away from a close, and brings none. -/
theorem attended_enter {entering : Entering} {network : Network}
    (idle : ∀ other ∈ rest, ∀ close, other.handles world.cache close = false) :
    Attended ⟨{ world with network := network }, earlier ++ rest.toList ++ later⟩ close ↔
      Attended ⟨world, earlier ++ .enter entering :: later⟩ close := by
  constructor
  · rintro (isArmed | ⟨other, member, handles⟩)
    · exact Or.inl isArmed
    · rcases mem_advanced (.enter entering) member with isRest | old
      · have unhandled := idle other isRest close
        dsimp only at handles
        rw [unhandled] at handles
        cases handles
      · exact Or.inr ⟨other, old, handles⟩
  · rintro (isArmed | ⟨other, member, handles⟩)
    · exact Or.inl isArmed
    · have differs : other ≠ .enter entering := by
        intro same
        rw [same] at handles
        cases handles
      exact Or.inr ⟨other, mem_advanced_of_ne member differs, handles⟩

/-- A session is entered timely exactly when every close of the device is attended. -/
theorem entersTimely_iff {pool : Pool World Task} {deviceId : String} (timed : Timed pool)
    (enters : task.enters = some deviceId) :
    EntersTimely pool task ↔ ∀ close : Close, close.GoesOn pool.shared.cache →
      close.deviceId = deviceId → Attended pool close := by
  constructor
  · intro timely close goesOn isDevice
    rcases timed close goesOn with attended | ⟨restored, _⟩
    · exact attended
    · obtain ⟨kind, id, generation, owner⟩ := close
      rcases goesOn.entry with ⟨isStream, stream, found, closing, device⟩ | ⟨isTalk, _⟩
      · cases isStream
        cases isDevice
        refine timely owner enters ⟨id, stream⟩ (AList.mem_lookup_iff.mp found) ?_ device
          generation closing
        rw [← isRestored_stream found]
        exact restored
      · cases isTalk
        cases restored
  · intro attended owner isOwner entry member restored device generation closing
    have same : deviceId = owner := Option.some.inj (enters.symm.trans isOwner)
    have found : pool.shared.cache.streamMap.lookup entry.1 = some entry.2 :=
      AList.mem_lookup_iff.mpr member
    exact attended ⟨.stream, entry.1, generation, owner⟩ (goesOn_stream found closing device)
      same.symm

/-- The step that enters a session keeps the closes if it is timely, and only then do they have
their deadlines behind it. -/
theorem Timed.enter {entering : Entering} (scheduled : entering.scheduled = true)
    (timed : Timed ⟨world, earlier ++ .enter entering :: later⟩)
    (idle : ∀ other ∈ rest, ∀ close, other.handles world.cache close = false) :
    (EntersTimely ⟨world, earlier ++ .enter entering :: later⟩ (.enter entering) →
      Timed ⟨{ world with
        network := world.network.insert entering.deviceId entering.session },
        earlier ++ rest.toList ++ later⟩) ∧
    (Deadlines ⟨{ world with
        network := world.network.insert entering.deviceId entering.session },
        earlier ++ rest.toList ++ later⟩ →
      EntersTimely ⟨world, earlier ++ .enter entering :: later⟩ (.enter entering)) := by
  have enters : Task.enters (.enter entering) = some entering.deviceId := by
    rw [Task.enters, if_pos scheduled]
  have timely := entersTimely_iff timed enters
  constructor
  · intro isTimely close goesOn
    rcases timed close goesOn with attended | ⟨restored, absent⟩
    · exact Or.inl ((attended_enter idle).mpr attended)
    · by_cases isDevice : close.deviceId = entering.deviceId
      · exact Or.inl ((attended_enter idle).mpr (timely.mp isTimely close goesOn isDevice))
      · exact Or.inr ⟨restored, session_none_insert world.network entering.session isDevice absent⟩
  · intro deadlines
    refine timely.mpr fun close goesOn isDevice => ?_
    have present : ((world.network.insert entering.deviceId entering.session).session
        close.deviceId).isSome = true := by
      rw [isDevice]
      exact session_insert ..
    exact (attended_enter idle).mp (deadlines close goesOn present)

end Steps

/-! ## Every run -/

theorem timed_init : Timed ⟨World.init, []⟩ := by
  intro close goesOn
  rcases goesOn.entry with ⟨_, stream, found, _⟩ | ⟨_, talk, found, _⟩
  · cases found
  · cases found

/-- The guard of a run: a session is entered timely. -/
abbrev TimelyMove : Pool World Task → Move Task → Prop := Guarded (fun _ => True) EntersTimely

theorem timed_step (conf : Conf) (pool : Pool World Task) (move : Move Task) (timed : Timed pool) :
    (TimelyMove pool move → Timed (step (work conf) pool move).2) ∧
      (Deadlines (step (work conf) pool move).2 → TimelyMove pool move) := by
  obtain ⟨world, tasks⟩ := pool
  cases move with
  | begin task => exact ⟨fun _ => timed.begin task, fun _ => trivial⟩
  | advance index =>
      cases found : tasks[index]? with
      | none =>
          simp only [step, Guarded, found]
          exact ⟨fun _ => timed, fun _ task isTask => by cases isTask⟩
      | some task =>
          have parts := split_of_getElem? found
          rw [parts] at timed
          simp only [step, Guarded, found, Option.some.injEq, forall_eq']
          cases enters : task.enters with
          | none =>
              refine ⟨fun _ => timed.advance (kept_work conf world task enters), fun _ => ?_⟩
              intro deviceId isDevice
              rw [enters] at isDevice
              cases isDevice
          | some deviceId =>
              obtain ⟨entering, rfl, scheduled, rfl⟩ := enters_eq_some enters
              obtain ⟨rest, works, idle⟩ := work_enter conf world scheduled
              rw [works]
              have entered := timed.enter scheduled idle
              rw [← parts] at entered
              exact entered

/-- In every run, every close whose device has a session has a deadline, or a call at it, in every
state exactly when every session is entered timely. -/
theorem deadlines_iff_timely (conf : Conf) (moves : List (Move Task)) :
    (∀ entry ∈ Runs.run (step (work conf)) ⟨World.init, []⟩ moves, Deadlines entry.after) ↔
      ∀ entry ∈ Runs.run (step (work conf)) ⟨World.init, []⟩ moves,
        TimelyMove entry.before entry.action := by
  refine Runs.check_run_iff Timed (fun entry => Deadlines entry.after) TimelyMove ?_ ?_ timed_init
  · intro pool move timed timely
    exact (timed_step conf pool move timed).1 timely
  · intro pool move timed
    obtain ⟨kept, only⟩ := timed_step conf pool move timed
    exact ⟨only, fun timely => (kept timely).deadlines⟩

/-- The node restarts with a dialog of a TCP device, whose media is offline. -/
def tcpRecovery : Recovery :=
  ⟨⟨.startup, ⟨some false, false⟩,
    { SipDialogSessionRepository.playbackDialog with transport := .tcp, state := .established }⟩,
    3000, true, ⟨0, true⟩⟩

/-- The startup restores the stream and closes it, and the device has not come back yet.  Then the
device registers, and the BYE that is retried fails. -/
def deviceComesLater : List (Move Task) :=
  [.begin (.recover tcpRecovery), .advance 0, .advance 0, .advance 0, .advance 0, .advance 0,
    .begin (.register "34020000001320000001" (Network.registrationFrom 40001).session true),
    .advance 0, .advance 0, .advance 0, .advance 0, .advance 0, .advance 0, .advance 0, .advance 0,
    .advance 0, .begin (.byeResult ⟨.stream, "stream-1", 1⟩ 11 (some "timeout")), .advance 0]

/-- The close that began before the registration has no timer, and no call is at it. -/
theorem deviceComesLater_without_deadline :
    ¬ ∀ entry ∈ Runs.run (step (work DialogRecovery.recoveryConf)) ⟨World.init, []⟩ deviceComesLater,
      Deadlines entry.after := by
  intro deadlines
  obtain ⟨entry, member, last⟩ := Runs.exists_after_final
    (step (work DialogRecovery.recoveryConf)) ⟨World.init, []⟩
    (show deviceComesLater ≠ [] from List.cons_ne_nil _ _)
  have holds := deadlines entry member
  rw [last] at holds
  obtain ⟨goesOn, present, unattended⟩ :
      Close.GoesOn ⟨.stream, "stream-1", 1, "34020000001320000001"⟩
        (Runs.final (step (work DialogRecovery.recoveryConf)) ⟨World.init, []⟩
          deviceComesLater).shared.cache ∧
      ((Runs.final (step (work DialogRecovery.recoveryConf)) ⟨World.init, []⟩
        deviceComesLater).shared.network.session "34020000001320000001").isSome = true ∧
      ¬ Attended (Runs.final (step (work DialogRecovery.recoveryConf)) ⟨World.init, []⟩
        deviceComesLater) ⟨.stream, "stream-1", 1, "34020000001320000001"⟩ := by
    decide +kernel
  exact unattended (holds _ goesOn present)

end Gmv.Session.CloseTimers
