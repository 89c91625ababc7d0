import Gmv.Library.TaskPool
import Gmv.Session.CatalogSubscription
import Mathlib.Data.List.Sort

/-!
# Waiting for the INVITE of a broadcast

`talk_start` resolves the voice output of a channel, tells the device that a broadcast is to come, and
waits for the INVITE of the device.  The waiters are kept by the id of the voice output alone,
while `talk_start` excludes calls by device and channel: two channels may have one voice output,
and then one call takes the place of the other.  An INVITE takes the waiter that it is for out of
the map and is handed to it.
-/

namespace Gmv.Session.BroadcastWait

open Gmv.Library Gmv.Library.TaskPool

/-! ## Voice outputs -/

/-- A row of `GMV_DEVICE_CHANNEL`. -/
structure DeviceChannelRow where
  deviceId : String
  channelId : String
  parentId : Option String
  deriving DecidableEq, Repr

/-- `resolve_broadcast_target_id`: the first channel below a channel that is there, or the channel
itself. -/
def resolveBroadcastTargetId (rows : List DeviceChannelRow) (deviceId channelId : String) : String :=
  let parents := rows.filter fun row => row.deviceId == deviceId && row.channelId == channelId
  let children := parents.flatMap fun parent => rows.filter fun row =>
    row.deviceId == parent.deviceId && row.parentId == some parent.channelId
  ((children.map DeviceChannelRow.channelId).insertionSort (· ≤ ·)).headD channelId

/-! ## INVITEs -/

/-- What the session knows of the SIP library and of itself. -/
structure Sip where
  extractUri : String → Option String
  domainId : String

structure GbIncomingInviteEvent where
  callId : String
  fromHeader : String
  toHeader : String
  subject : Option String
  deriving DecidableEq, Repr

def stripPrefix (start text : String) : Option String :=
  if start.toList.isPrefixOf text.toList then some (String.ofList (text.toList.drop start.length))
  else none

def sipUser (sip : Sip) (header : String) : Option String :=
  (sip.extractUri header).bind fun uri =>
    ((stripPrefix "sip:" uri).or (stripPrefix "sips:" uri)).map fun value =>
      String.ofList (value.toList.takeWhile (· != '@'))

def broadcastSubjectIds (subject : String) : List String :=
  let legs := (subject.toList.splitOn ',').map fun leg => Xml.trim (String.ofList leg)
  let ids := legs.filterMap fun leg => (splitOnce ':' leg).map fun parts => Xml.trim parts.1
  ids.filter (· ≠ "")

/-! ## The cache -/

structure BroadcastInviteWaiter where
  deadline : Nat
  sourceId : String
  tx : Nat
  deriving DecidableEq, Repr

/-- `INVITE_WAIT_TIMEOUT`, in milliseconds. -/
def inviteWaitTimeout : Nat := 15000

/-- The waiters of broadcasts and the channels to the calls, numbered as they are made.  An INVITE is
numbered when it is found to be for a waiter. -/
structure Shared where
  now : Nat
  rows : List DeviceChannelRow
  waiters : AList fun _ : String => BroadcastInviteWaiter
  next : Nat
  /-- The receiver of a channel is there. -/
  isOpen : Nat → Bool
  /-- The sender of a channel is there. -/
  alive : Nat → Bool
  arrived : Nat
  /-- The INVITEs that were handed to channels. -/
  delivered : List (Nat × Nat × GbIncomingInviteEvent)
  /-- The INVITEs that were refused, with the status. -/
  responses : List (String × Nat)

namespace Shared

variable (shared : Shared)

def init (rows : List DeviceChannelRow) : Shared :=
  ⟨0, rows, ∅, 0, fun _ => false, fun _ => false, 0, [], []⟩

/-- What lies in a channel. -/
def inbox (tx : Nat) : Option GbIncomingInviteEvent :=
  (shared.delivered.find? fun delivery => delivery.2.1 == tx).map fun delivery => delivery.2.2

def respondInvite (callId : String) (status : Nat) : Shared :=
  { shared with responses := shared.responses ++ [(callId, status)] }

def close (tx : Nat) : Shared := { shared with isOpen := Function.update shared.isOpen tx false }

/-- The sender of a waiter that leaves the map is dropped. -/
def dropSender (target : String) : Nat → Bool :=
  match shared.waiters.lookup target with
  | none => shared.alive
  | some waiter => Function.update shared.alive waiter.tx false

def insertBroadcastInviteWaiter (target sourceId : String) : Shared :=
  { shared with
    waiters := shared.waiters.insert target
      ⟨shared.now + inviteWaitTimeout, sourceId, shared.next⟩
    next := shared.next + 1
    isOpen := Function.update shared.isOpen shared.next true
    alive := Function.update (shared.dropSender target) shared.next true }

def removeBroadcastInviteWaiter (target : String) : Shared :=
  { shared with waiters := shared.waiters.erase target, alive := shared.dropSender target }

/-- The targets of the waiters that an INVITE is for. -/
def matching (sip : Sip) (event : GbIncomingInviteEvent) (sourceId : String) : List String :=
  let fromId := sipUser sip event.fromHeader
  let subjectIds := (event.subject.map broadcastSubjectIds).getD []
  shared.waiters.entries.filterMap fun entry =>
    if entry.2.sourceId = sourceId ∧ (fromId = some entry.1 ∨ entry.1 ∈ subjectIds) then some entry.1
    else none

end Shared

/-! ## Tasks -/

/-- How the device answers the announcement. -/
inductive BroadcastResponse where
  | accepted
  | rejected
  | timeout
  deriving DecidableEq, Repr

/-- A call, with the outcomes of its query, of its message and of the device. -/
structure Call where
  deviceId : String
  channelId : String
  queried : Bool
  sent : Bool
  response : BroadcastResponse
  deriving DecidableEq, Repr

/-- What a call of `talk_start` has still to do in `broadcast_notify_and_wait`, where an INVITE or a
cleanup stands, and what else changes. -/
inductive Task where
  | resolve (call : Call)
  | insertWaiter (call : Call) (target : String)
  | send (call : Call) (target : String) (tx : Nat)
  | recvResponse (call : Call) (target : String) (tx : Nat)
  | rejectBuffered (target : String) (tx : Nat)
  | recvInvite (target : String) (tx : Nat) (deadline : Nat)
  | removeWaiter (target : String) (tx : Nat)
  | incoming (event : GbIncomingInviteEvent) (first : Nat)
  | takeWaiter (number : Nat) (event : GbIncomingInviteEvent) (target : String)
  | deliver (number : Nat) (event : GbIncomingInviteEvent) (tx : Nat)
  | cleanupExpired
  | removeExpired (targets : List String)
  | elapse (time : Nat)
  | updateRows (rows : List DeviceChannelRow)
  deriving DecidableEq

section

variable (sip : Sip) (shared : Shared)

/-- One step of a task. -/
def work : Task → Option Task × Shared
  | .resolve call =>
      if call.queried then
        (some (.insertWaiter call
          (resolveBroadcastTargetId shared.rows call.deviceId call.channelId)), shared)
      else (none, shared)
  | .insertWaiter call target =>
      (some (.send call target shared.next), shared.insertBroadcastInviteWaiter target sip.domainId)
  | .send call target tx =>
      if call.sent then (some (.recvResponse call target tx), shared)
      else (some (.rejectBuffered target tx), shared)
  | .recvResponse call target tx =>
      match call.response with
      | .accepted => (some (.recvInvite target tx (shared.now + inviteWaitTimeout)), shared)
      | .rejected | .timeout => (some (.rejectBuffered target tx), shared)
  | .rejectBuffered target tx =>
      match shared.inbox tx with
      | none => (some (.removeWaiter target tx), shared)
      | some event => (some (.removeWaiter target tx), shared.respondInvite event.callId 503)
  | .recvInvite target tx deadline =>
      match shared.inbox tx with
      | some _ => (none, shared.close tx)
      | none =>
          if shared.alive tx = false ∨ deadline ≤ shared.now then
            (some (.removeWaiter target tx), shared.close tx)
          else (some (.recvInvite target tx deadline), shared)
  | .removeWaiter target tx => (none, (shared.removeBroadcastInviteWaiter target).close tx)
  -- `complete_broadcast_invite`, which walks over the waiters from an entry that the map chooses
  | .incoming event first =>
      match sipUser sip event.toHeader with
      | none => (none, shared.respondInvite event.callId 501)
      | some sourceId =>
          match ((shared.matching sip event sourceId).rotate first).head? with
          | none => (none, shared.respondInvite event.callId 501)
          | some target =>
              (some (.takeWaiter shared.arrived event target),
                { shared with arrived := shared.arrived + 1 })
  | .takeWaiter number event target =>
      match shared.waiters.lookup target with
      | none => (none, shared.respondInvite event.callId 501)
      | some waiter =>
          (some (.deliver number event waiter.tx),
            { shared with waiters := shared.waiters.erase target })
  | .deliver number event tx =>
      if shared.isOpen tx then
        (none, { shared with delivered := shared.delivered ++ [(number, tx, event)] })
      else (none, shared.respondInvite event.callId 501)
  | .cleanupExpired =>
      (some (.removeExpired (shared.waiters.entries.filterMap fun entry =>
        if entry.2.deadline ≤ shared.now then some entry.1 else none)), shared)
  | .removeExpired [] => (none, shared)
  | .removeExpired (target :: rest) =>
      (some (.removeExpired rest), shared.removeBroadcastInviteWaiter target)
  | .elapse time => (none, { shared with now := shared.now + time })
  | .updateRows rows => (none, { shared with rows := rows })

end

/-- The tasks that a server begins. -/
def Task.Begins : Task → Prop
  | .resolve _ | .incoming _ _ | .cleanupExpired | .elapse _ | .updateRows _ => True
  | _ => False

instance : DecidablePred Task.Begins := fun task =>
  match task with
  | .resolve _ | .incoming _ _ | .cleanupExpired | .elapse _ | .updateRows _ =>
      inferInstanceAs (Decidable True)
  | .insertWaiter _ _ | .send _ _ _ | .recvResponse _ _ _ | .rejectBuffered _ _ | .recvInvite _ _ _
  | .removeWaiter _ _ | .takeWaiter _ _ _ | .deliver _ _ _ | .removeExpired _ =>
      inferInstanceAs (Decidable False)

/-! ## Isolation -/

/-- The target under which a call has registered, until it returns. -/
def Task.target : Task → Option String
  | .send _ target _ | .recvResponse _ target _ | .rejectBuffered target _ | .recvInvite target _ _
  | .removeWaiter target _ => some target
  | _ => none

/-- The channel that a call has made. -/
def Task.tx : Task → Option Nat
  | .send _ _ tx | .recvResponse _ _ tx | .rejectBuffered _ tx | .recvInvite _ tx _
  | .removeWaiter _ tx => some tx
  | _ => none

/-- The call waits: it has neither an INVITE nor failed. -/
def Task.waits : Task → Bool
  | .send _ _ _ | .recvResponse _ _ _ | .recvInvite _ _ _ => true
  | _ => false

/-- The channel of the waiter that an INVITE has taken. -/
def Task.carries : Task → Option Nat
  | .deliver _ _ tx => some tx
  | _ => none

/-- The waiter of a call is in the map. -/
def Registered (shared : Shared) (target : String) (tx : Nat) : Prop :=
  (shared.waiters.lookup target).map BroadcastInviteWaiter.tx = some tx

/-- An INVITE has taken the waiter of a call, and was handed to it or will be. -/
def Completed (pool : Pool Shared Task) (tx : Nat) : Prop :=
  (∃ task ∈ pool.tasks, task.carries = some tx) ∨ ∃ delivery ∈ pool.shared.delivered, delivery.2.1 = tx

/-- A call that waits has its own waiter in the map until an INVITE completes it, and no INVITE is
handed to two calls. -/
structure Isolated (pool : Pool Shared Task) : Prop where
  keeps : ∀ task ∈ pool.tasks, task.waits = true → ∀ target ∈ task.target, ∀ tx ∈ task.tx,
    Registered pool.shared target tx ∨ Completed pool tx
  once : (pool.shared.delivered.map Prod.fst).Nodup

/-- A call registers a waiter while no other call of the same target is under way, and the cleanup
takes a waiter while no call waits for it. -/
def Careful (pool : Pool Shared Task) : Task → Prop
  | .insertWaiter _ target => ∀ other ∈ pool.tasks, other.target ≠ some target
  | .removeExpired (target :: _) =>
      ∀ other ∈ pool.tasks, other.waits = true → other.target ≠ some target
  | _ => True

instance (pool : Pool Shared Task) : DecidablePred (Careful pool) := fun task =>
  match task with
  | .insertWaiter _ target =>
      inferInstanceAs (Decidable (∀ other ∈ pool.tasks, other.target ≠ some target))
  | .removeExpired (target :: _) =>
      inferInstanceAs (Decidable (∀ other ∈ pool.tasks, other.waits = true → other.target ≠ some target))
  | .resolve _ | .send _ _ _ | .recvResponse _ _ _ | .rejectBuffered _ _ | .recvInvite _ _ _
  | .removeWaiter _ _ | .incoming _ _ | .takeWaiter _ _ _ | .deliver _ _ _ | .cleanupExpired
  | .removeExpired [] | .elapse _ | .updateRows _ => inferInstanceAs (Decidable True)

/-! ## One step -/

/-- The entry of the map that the next step of a task is about. -/
def Task.touches : Task → Option String
  | .insertWaiter _ target | .removeWaiter target _ | .takeWaiter _ _ target
  | .removeExpired (target :: _) => some target
  | _ => none

/-- The number of the INVITE that a task carries. -/
def Task.number : Task → Option Nat
  | .takeWaiter number _ _ | .deliver number _ _ => some number
  | _ => none

section

variable {sip : Sip} {shared : Shared} {task : Task}

theorem target_work :
    (work sip shared task).1.bind Task.target = task.target ∨
      (work sip shared task).1.bind Task.target = none ∨
      ∃ call target, task = .insertWaiter call target ∧
        (work sip shared task).1.bind Task.target = some target := by
  fun_cases work sip shared task
  all_goals simp_all [Task.target]

theorem tx_work :
    (work sip shared task).2.next = shared.next ∧
        ((work sip shared task).1.bind Task.tx = task.tx ∨ (work sip shared task).1.bind Task.tx = none) ∨
      (work sip shared task).2.next = shared.next + 1 ∧ task.tx = none ∧
        (work sip shared task).1.bind Task.tx = some shared.next := by
  fun_cases work sip shared task
  all_goals simp_all [Task.tx, Shared.insertBroadcastInviteWaiter, Shared.removeBroadcastInviteWaiter,
    Shared.respondInvite, Shared.close]

theorem waiters_frame {name : String} (other : some name ≠ task.touches) :
    (work sip shared task).2.waiters.lookup name = shared.waiters.lookup name := by
  fun_cases work sip shared task
  all_goals simp_all [Task.touches, Shared.insertBroadcastInviteWaiter,
    Shared.removeBroadcastInviteWaiter, Shared.respondInvite, Shared.close, AList.lookup_insert_ne,
    AList.lookup_erase_ne]

theorem delivered_work :
    ∃ more, (work sip shared task).2.delivered = shared.delivered ++ more := by
  fun_cases work sip shared task
  all_goals first
    | exact ⟨[], (List.append_nil _).symm⟩
    | exact ⟨_, rfl⟩

theorem number_work :
    ((work sip shared task).2.arrived = shared.arrived ∧
      ((work sip shared task).2.delivered = shared.delivered ∧
          ((work sip shared task).1.bind Task.number = task.number ∨
            (work sip shared task).1.bind Task.number = none) ∨
        ∃ delivery, task.number = some delivery.1 ∧ (work sip shared task).1 = none ∧
          (work sip shared task).2.delivered = shared.delivered ++ [delivery])) ∨
      (work sip shared task).2.arrived = shared.arrived + 1 ∧
        (work sip shared task).2.delivered = shared.delivered ∧ task.number = none ∧
        (work sip shared task).1.bind Task.number = some shared.arrived := by
  fun_cases work sip shared task
  all_goals simp_all [Task.number, Shared.insertBroadcastInviteWaiter,
    Shared.removeBroadcastInviteWaiter, Shared.respondInvite, Shared.close]

theorem isOpen_work {tx : Nat} (isOpen : shared.isOpen tx = true) (other : some tx ≠ task.tx) :
    (work sip shared task).2.isOpen tx = true := by
  fun_cases work sip shared task
  all_goals simp_all [Task.tx, Shared.insertBroadcastInviteWaiter, Shared.removeBroadcastInviteWaiter,
    Shared.respondInvite, Shared.close, Function.update_apply]

/-- What a call leaves to do that still waits is about the same waiter, or it has just made it. -/
theorem waits_work : ∀ rest ∈ (work sip shared task).1, rest.waits = true →
    (task.waits = true ∧ rest.target = task.target ∧ rest.tx = task.tx ∧ task.touches = none ∧
        task.carries = none ∧ (work sip shared task).2.isOpen = shared.isOpen) ∨
      ∃ call target, task = .insertWaiter call target ∧ rest = .send call target shared.next := by
  fun_cases work sip shared task
  all_goals simp_all [Task.waits, Task.target, Task.tx, Task.touches, Task.carries]

variable {earlier later : List Task}

/-- Unless a call or a cleanup touches it, a waiter stays, and an INVITE that takes it is handed to
the call. -/
theorem kept_work {target : String} {tx : Nat} (isOpen : shared.isOpen tx = true)
    (safe : task.touches = some target → ∃ number event, task = .takeWaiter number event target)
    (kept : Registered shared target tx ∨ Completed ⟨shared, earlier ++ task :: later⟩ tx) :
    Registered (work sip shared task).2 target tx ∨
      Completed ⟨(work sip shared task).2, earlier ++ (work sip shared task).1.toList ++ later⟩ tx := by
  rcases kept with registered | ⟨carrier, member, carries⟩ | ⟨delivery, member, isIts⟩
  · by_cases touched : some target = task.touches
    · obtain ⟨number, event, rfl⟩ := safe touched.symm
      obtain ⟨waiter, found, isIts⟩ := Option.map_eq_some_iff.mp registered
      refine Or.inr (Or.inl ⟨.deliver number event tx, mem_advanced_of_rest ?_, rfl⟩)
      simp only [work, found, isIts]
    · exact Or.inl ((congrArg _ (waiters_frame touched)).trans registered)
  · by_cases same : carrier = task
    · subst same
      cases carrier with
      | deliver number event other =>
          cases carries
          refine Or.inr (Or.inr ⟨(number, tx, event), ?_, rfl⟩)
          simp [work, isOpen]
      | _ => cases carries
    · exact Or.inr (Or.inl ⟨carrier, mem_advanced_of_ne member same, carries⟩)
  · obtain ⟨more, delivered⟩ := @delivered_work sip shared task
    refine Or.inr (Or.inr ⟨delivery, ?_, isIts⟩)
    rw [delivered]
    exact List.mem_append_left _ member

end

/-! ## Every run -/

/-- No two calls have one target or one channel, no two INVITEs have one number, and every call that
waits can be reached. -/
structure Inv (pool : Pool Shared Task) : Prop where
  targets : ∀ target, tally (fun _ => []) Task.target target pool ≤ 1
  txs : ∀ tx, tally (fun _ => []) Task.tx tx pool ≤ (decide (tx < pool.shared.next)).toNat
  numbers : ∀ number, tally (fun shared => shared.delivered.map Prod.fst) Task.number number pool ≤
    (decide (number < pool.shared.arrived)).toNat
  isOpen : ∀ task ∈ pool.tasks, task.waits = true → ∀ tx ∈ task.tx, pool.shared.isOpen tx = true
  keeps : ∀ task ∈ pool.tasks, task.waits = true → ∀ target ∈ task.target, ∀ tx ∈ task.tx,
    Registered pool.shared target tx ∨ Completed pool tx

section

variable {sip : Sip} {shared : Shared} {earlier later : List Task} {task : Task}

theorem Inv.isolated {pool : Pool Shared Task} (inv : Inv pool) : Isolated pool := by
  refine ⟨inv.keeps, List.nodup_iff_count_le_one.mpr fun number => ?_⟩
  have counted := (inv.numbers number).trans (Bool.toNat_le _)
  exact (Nat.le_add_right ..).trans counted

theorem inv_begin {tasks : List Task} (inv : Inv ⟨shared, tasks⟩) (begins : task.Begins) :
    Inv ⟨shared, tasks ++ [task]⟩ := by
  have none' : task.target = none ∧ task.tx = none ∧ task.number = none ∧ task.waits = false := by
    cases task with
    | resolve | incoming | cleanupExpired | elapse | updateRows => exact ⟨rfl, rfl, rfl, rfl⟩
    | _ => exact begins.elim
  obtain ⟨noTarget, noTx, noNumber, notWaits⟩ := none'
  have old {other : Task} (member : other ∈ tasks ++ [task]) (waits : other.waits = true) :
      other ∈ tasks := by
    rcases List.mem_append.mp member with isOld | isNew
    · exact isOld
    · rw [List.mem_singleton.mp isNew, notWaits] at waits
      cases waits
  refine ⟨fun target => ?_, fun tx => ?_, fun number => ?_, fun other member waits => ?_,
    fun other member waits target isTarget tx isTx => ?_⟩
  · exact (tally_begin _ _ _ noTarget).trans_le (inv.targets target)
  · exact (tally_begin _ _ _ noTx).trans_le (inv.txs tx)
  · exact (tally_begin _ _ _ noNumber).trans_le (inv.numbers number)
  · exact inv.isOpen other (old member waits) waits
  · refine (inv.keeps other (old member waits) waits target isTarget tx isTx).imp_right ?_
    exact Or.imp_left fun ⟨carrier, isCarrier, carries⟩ =>
      ⟨carrier, List.mem_append_left _ isCarrier, carries⟩

theorem targets_advance (inv : Inv ⟨shared, earlier ++ task :: later⟩)
    (careful : Careful ⟨shared, earlier ++ task :: later⟩ task) (target : String) :
    tally (fun _ => []) Task.target target
      ⟨(work sip shared task).2, earlier ++ (work sip shared task).1.toList ++ later⟩ ≤ 1 := by
  have before := inv.targets target
  simp only [tally_split, tallyHere, List.count_nil, Nat.zero_add, Option.bind_some] at before
  simp only [tally_advanced, tallyHere, List.count_nil, Nat.zero_add]
  rcases @target_work sip shared task with
    same | none' | ⟨call, name, rfl, isName⟩
  · rwa [same]
  · rw [none', Option.toList_none, List.count_nil]
    omega
  · rw [isName, Option.toList_some, List.count_singleton]
    by_cases same : name = target
    · have others : ((earlier ++ later).filterMap Task.target).count target = 0 := by
        refine List.count_eq_zero.mpr fun member => ?_
        obtain ⟨other, isOther, isTarget⟩ := List.mem_filterMap.mp member
        exact careful other (mem_of_others _ isOther) (same ▸ isTarget)
      rw [others]
      split <;> omega
    · rw [beq_false_of_ne same]
      exact (Nat.add_le_add_right (Nat.zero_le _) _).trans before

theorem txs_advance (inv : Inv ⟨shared, earlier ++ task :: later⟩) (tx : Nat) :
    tally (fun _ => []) Task.tx tx
        ⟨(work sip shared task).2, earlier ++ (work sip shared task).1.toList ++ later⟩ ≤
      (decide (tx < (work sip shared task).2.next)).toNat := by
  have before := inv.txs tx
  simp only [tally_split, tallyHere, List.count_nil, Nat.zero_add, Option.bind_some] at before
  simp only [tally_advanced, tallyHere, List.count_nil, Nat.zero_add]
  rcases @tx_work sip shared task with
    ⟨sameNext, same | none'⟩ | ⟨isNext, noTx, isNew⟩
  · rwa [same, sameNext]
  · rw [none', sameNext, Option.toList_none, List.count_nil]
    omega
  · rw [noTx, Option.toList_none, List.count_nil, Nat.zero_add] at before
    rw [isNew, isNext, Option.toList_some]
    exact count_fresh before

theorem numbers_advance (inv : Inv ⟨shared, earlier ++ task :: later⟩) (number : Nat) :
    tally (fun shared => shared.delivered.map Prod.fst) Task.number number
        ⟨(work sip shared task).2, earlier ++ (work sip shared task).1.toList ++ later⟩ ≤
      (decide (number < (work sip shared task).2.arrived)).toNat := by
  have before := inv.numbers number
  simp only [tally_split, tallyHere, Option.bind_some] at before
  simp only [tally_advanced, tallyHere]
  rcases @number_work sip shared task with
    ⟨sameArrived, ⟨sameDelivered, same | none'⟩ | ⟨delivery, isIts, ends, handed⟩⟩ |
      ⟨isArrived, sameDelivered, noNumber, isNew⟩
  · rwa [sameArrived, sameDelivered, same]
  · rw [sameArrived, sameDelivered, none', Option.toList_none, List.count_nil]
    omega
  · rw [sameArrived, handed, ends, Option.bind_none, Option.toList_none, List.count_nil, List.map_append,
      List.count_append]
    rw [isIts, Option.toList_some] at before
    simp only [List.map_cons, List.map_nil]
    omega
  · rw [noNumber, Option.toList_none, List.count_nil] at before
    rw [isArrived, sameDelivered, isNew, Option.toList_some]
    have fresh := count_fresh before
    omega

/-- Another call has its own target and channel. -/
theorem other_apart (inv : Inv ⟨shared, earlier ++ task :: later⟩) {other : Task}
    (isOther : other ∈ earlier ++ later) :
    (∀ target, task.target = some target → other.target ≠ some target) ∧
      ∀ tx, task.tx = some tx → other.tx ≠ some tx :=
  ⟨fun target isTarget => ne_of_tally _ _ _ (inv.targets target) isTarget isOther,
    fun tx isTx => ne_of_tally _ _ _ ((inv.txs tx).trans (Bool.toNat_le _)) isTx isOther⟩

theorem inv_advance (inv : Inv ⟨shared, earlier ++ task :: later⟩)
    (careful : Careful ⟨shared, earlier ++ task :: later⟩ task) :
    Inv ⟨(work sip shared task).2, earlier ++ (work sip shared task).1.toList ++ later⟩ := by
  have isTask : task ∈ earlier ++ task :: later := List.mem_append_right _ (List.mem_cons_self ..)
  refine ⟨targets_advance inv careful, txs_advance inv, numbers_advance inv,
    fun other member waits tx isTx => ?_, fun other member waits target isTarget tx isTx => ?_⟩
  · rcases mem_rest_or_others member with isRest | isOther
    · rcases waits_work other isRest waits with ⟨waited, -, sameTx, -, -, sameOpen⟩ | ⟨call, name, rfl, rfl⟩
      · rw [sameOpen]
        exact inv.isOpen task isTask waited tx (sameTx ▸ isTx)
      · cases isTx
        exact Function.update_self ..
    · refine isOpen_work (inv.isOpen other (mem_of_others task isOther) waits tx isTx) fun same => ?_
      exact (other_apart inv isOther).2 tx same.symm isTx
  · rcases mem_rest_or_others member with isRest | isOther
    · rcases waits_work other isRest waits with
        ⟨waited, sameTarget, sameTx, untouched, -, -⟩ | ⟨call, name, rfl, rfl⟩
      · have isTx' : tx ∈ task.tx := sameTx ▸ isTx
        refine kept_work (inv.isOpen task isTask waited tx isTx') (fun touched => ?_)
          (inv.keeps task isTask waited target (sameTarget ▸ isTarget) tx isTx')
        rw [untouched] at touched
        cases touched
      · cases isTarget
        cases isTx
        refine Or.inl ?_
        simp [Registered, work, Shared.insertBroadcastInviteWaiter]
    · have isOld := mem_of_others task isOther
      refine kept_work (inv.isOpen other isOld waits tx isTx) (fun touched => ?_)
        (inv.keeps other isOld waits target isTarget tx isTx)
      -- another call has another target, and a cleanup leaves the calls that wait
      cases task with
      | takeWaiter number event name =>
          cases touched
          exact ⟨number, event, rfl⟩
      | insertWaiter call name =>
          cases touched
          exact absurd isTarget (careful other isOld)
      | removeWaiter name channel =>
          cases touched
          exact absurd isTarget ((other_apart inv isOther).1 target rfl)
      | removeExpired names =>
          cases names with
          | nil => cases touched
          | cons name rest =>
              cases touched
              exact absurd isTarget (careful other isOld waits)
      | _ => cases touched

end

def start (rows : List DeviceChannelRow) : Pool Shared Task := ⟨.init rows, []⟩

/-- Every call keeps its own waiter in every run in which no target is registered or cleaned up while
a call of that target is under way, and no INVITE is handed to two calls. -/
theorem isolated_of_careful {sip : Sip} {rows : List DeviceChannelRow} {moves : List (Move Task)}
    (guarded : ∀ entry ∈ Runs.run (step (work sip)) (start rows) moves,
      Guarded Task.Begins Careful entry.before entry.action) :
    ∀ entry ∈ Runs.run (step (work sip)) (start rows) moves,
      Isolated entry.before ∧ Isolated entry.after := by
  have none' {task : Task} (member : task ∈ (start rows).tasks) : False := by cases member
  have first : Inv (start rows) :=
    ⟨fun _ => Nat.zero_le _, fun _ => Nat.zero_le _, fun _ => Nat.zero_le _,
      fun _ member => (none' member).elim, fun _ member => (none' member).elim⟩
  have held := invariant_run Inv (fun _ _ _ inv begins => inv_begin inv begins)
    (fun _ _ _ _ inv careful => inv_advance inv careful) first guarded
  intro entry member
  obtain ⟨before, after⟩ := held entry member
  exact ⟨before.isolated, after.isolated⟩

/-- A URI stands between angle brackets. -/
def bracketed : Sip :=
  ⟨fun header => some (String.ofList (((header.toList.dropWhile (· != '<')).drop 1).takeWhile (· != '>'))),
    "3402"⟩

/-- A channel with a voice output, and a channel without. -/
def voiceOutput : List DeviceChannelRow := [⟨"340", "1", none⟩, ⟨"340", "137", some "1"⟩, ⟨"340", "2", none⟩]

def callTo (channelId : String) : Call := ⟨"340", channelId, true, true, .accepted⟩

/-- Two calls with two voice outputs; an INVITE comes for the first one, and the other one is cleaned
up when it has failed. -/
def twoOutputs : List (Move Task) :=
  [.begin (.resolve (callTo "1")), .begin (.resolve (callTo "2")), .advance 0, .advance 1, .advance 0,
    .advance 1, .advance 0, .advance 0, .advance 1, .advance 1,
    .begin (.incoming ⟨"a", "<sip:137@3402>", "<sip:3402@3402>", none⟩ 0), .advance 2, .advance 2, .advance 2,
    .advance 0, .begin (.elapse 15000), .advance 1, .advance 0, .begin .cleanupExpired, .advance 1,
    .advance 1, .advance 0]

theorem isolated_twoOutputs :
    (Runs.final (step (work bracketed)) (start voiceOutput) twoOutputs).shared.waiters.keys = [] ∧
    ∀ entry ∈ Runs.run (step (work bracketed)) (start voiceOutput) twoOutputs,
      Isolated entry.before ∧ Isolated entry.after :=
  ⟨by decide +kernel, isolated_of_careful (by decide +kernel)⟩

/-- A talk with a channel and a talk with its voice output. -/
def oneOutput : List (Move Task) :=
  [.begin (.resolve (callTo "1")), .advance 0, .advance 0, .begin (.resolve (callTo "137")), .advance 1,
    .advance 1]

theorem isolated_oneOutput :
    (∀ entry ∈ Runs.run (step (work bracketed)) (start voiceOutput) oneOutput,
      Guarded Task.Begins (fun _ _ => True) entry.before entry.action) ∧
    ¬Isolated (Runs.final (step (work bracketed)) (start voiceOutput) oneOutput) := by
  have tasks : (Runs.final (step (work bracketed)) (start voiceOutput) oneOutput).tasks =
      [.send (callTo "1") "137" 0, .send (callTo "137") "137" 1] := by decide +kernel
  have waiter : (Runs.final (step (work bracketed)) (start voiceOutput) oneOutput).shared.waiters.lookup
      "137" = some ⟨15000, "3402", 1⟩ := by decide +kernel
  have none' : (Runs.final (step (work bracketed)) (start voiceOutput) oneOutput).shared.delivered = [] := by
    decide +kernel
  refine ⟨by decide +kernel, fun isolated => ?_⟩
  have kept := isolated.keeps (.send (callTo "1") "137" 0) (tasks ▸ List.mem_cons_self ..) rfl "137" rfl 0 rfl
  simp [Registered, Completed, tasks, waiter, none', Task.carries] at kept

end Gmv.Session.BroadcastWait
