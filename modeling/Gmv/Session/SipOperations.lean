import Gmv.Library.ReplyTable
import Gmv.Library.TaskPool
import Gmv.Session.CatalogRefresh
import Gmv.Session.InviteOutcome

/-!
# Operations of the native SIP runtime

A call that wants an answer of a device takes a number, leaves a waiter under it in one of three maps,
queues a command for the thread that owns the SIP library, and waits for its channel.  Answers come
from the events of the library, from the owner thread where a command fails and from the shutdown;
each names a number, takes the waiter out of its map and sends into the channel.  The clean-up drops
waiters whose time is over.  All of them run at the same time.
-/

namespace Gmv.Session.SipOperations

open Gmv.Library Gmv.Library.TaskPool
open InviteOutcome (DialogSnapshot)
open CatalogRefresh (SipResponseResult)

/-! ## Waiters -/

/-- The three maps of waiters: `native_response_waiters`, `native_subscription_waiters` and
`native_invite_waiters`. -/
inductive WaiterKind where
  | response
  | subscription
  | invite
  deriving DecidableEq, Repr

structure NativeInviteMetadata where
  deviceId : String
  channelId : String
  streamId : String
  ssrc : Option UInt32
  deriving DecidableEq, Repr

structure GbInviteAcceptedEvent where
  callId : String
  deviceId : String
  channelId : String
  streamId : String
  ssrc : Option UInt32
  dialogSnapshot : DialogSnapshot
  remoteSdp : String
  deriving DecidableEq, Repr

structure SipInviteFailure where
  callId : String
  streamId : String
  status : UInt16
  dialogEstablished : Bool
  deriving DecidableEq, Repr

/-- What a waiter remembers beside its deadline and its channel. -/
def Metadata : WaiterKind → Type
  | .response => Unit
  | .subscription => NativeSubscriptionMetadata
  | .invite => NativeInviteMetadata

/-- What goes through the channel of a waiter. -/
def Reply : WaiterKind → Type
  | .response | .subscription => SipResponseResult
  | .invite => Except SipInviteFailure GbInviteAcceptedEvent

structure Waiter (kind : WaiterKind) where
  deadline : Nat
  metadata : Metadata kind
  tx : Nat

/-- A map and the number of an operation in it. -/
abbrev Key := WaiterKind × UInt64

def defaultMetadata : SipResponseMetadata := ⟨none, none, none, none, none, none, none⟩

/-- A call that answers an operation.  `established` is what `establish_native_subscription` finds. -/
inductive Attempt where
  | completeNativeResponse (operationId : UInt64) (status : UInt16) (metadata : SipResponseMetadata)
  | completeNativeSubscription (operationId : UInt64) (status : UInt16)
      (response : SipResponseMetadata) (established : Bool)
  | completeNativeInvite (operationId : UInt64) (callId : String) (status : UInt16)
      (remoteSdp : String) (dialogSnapshot : Option DialogSnapshot)
  | failNativeInvite (operationId : UInt64) (status : UInt16)
  deriving DecidableEq, Repr

def succeeds (status : UInt16) : Bool := 200 ≤ status && status < 300

namespace Attempt

def kind : Attempt → WaiterKind
  | completeNativeResponse .. => .response
  | completeNativeSubscription .. => .subscription
  | completeNativeInvite .. | failNativeInvite .. => .invite

def operationId : Attempt → UInt64
  | completeNativeResponse id .. | completeNativeSubscription id .. | completeNativeInvite id ..
  | failNativeInvite id .. => id

/-- Where the attempt looks for a waiter. -/
def key (attempt : Attempt) : Key := (attempt.kind, attempt.operationId)

/-- The response is provisional and is not looked at. -/
def provisional : Attempt → Bool
  | completeNativeResponse _ status _ | completeNativeSubscription _ status ..
  | completeNativeInvite _ _ status .. => status < 200
  | failNativeInvite .. => false

def reply : (attempt : Attempt) → Metadata attempt.kind → Reply attempt.kind
  | completeNativeResponse _ status metadata, _ => SipResponseResult.mk status metadata
  | completeNativeSubscription _ status response established, _ =>
      SipResponseResult.mk (if succeeds status && !established then 500 else status) response
  | completeNativeInvite _ callId status remoteSdp dialogSnapshot, metadata =>
      let metadata : NativeInviteMetadata := metadata
      let result : Except SipInviteFailure GbInviteAcceptedEvent :=
        if succeeds status then
          match dialogSnapshot with
          | none => .error ⟨callId, metadata.streamId, 500, true⟩
          | some snapshot =>
              .ok ⟨callId, metadata.deviceId, metadata.channelId, metadata.streamId, metadata.ssrc,
                snapshot, remoteSdp⟩
        else .error ⟨callId, metadata.streamId, status, false⟩
      result
  | failNativeInvite _ status, metadata =>
      let metadata : NativeInviteMetadata := metadata
      let failure : Except SipInviteFailure GbInviteAcceptedEvent :=
        .error ⟨"", metadata.streamId, status, false⟩
      failure

end Attempt

/-! ## Events and commands -/

inductive SipRuntimeEventKind where
  | outboundResponse
  | runtimeFault
  | other
  deriving DecidableEq, Repr

/-- An event of the SIP library, as far as it answers operations. -/
structure SipRuntimeEvent where
  kind : SipRuntimeEventKind
  operationId : Option UInt64
  statusCode : Option UInt16
  method : Option String
  callId : Option String
  body : String
  dialogSnapshot : Option DialogSnapshot
  cseq : Option UInt32
  contact : Option String
  fromHeader : Option String
  toHeader : Option String
  expiresSeconds : Option UInt32
  deriving DecidableEq, Repr

/-- `response_metadata`. -/
def responseMetadata (sip : SipReaders) (event : SipRuntimeEvent) : SipResponseMetadata where
  callId := event.callId
  cseq := event.cseq
  contact := event.contact
  fromHeader := event.fromHeader
  toHeader := event.toHeader
  toTag := event.toHeader.bind sip.extractTag
  expires := event.expiresSeconds

/-- The attempts of `run_native_business_events` for an event, until one succeeds. -/
def SipRuntimeEvent.attempts (sip : SipReaders) (event : SipRuntimeEvent) (established : Bool) :
    List Attempt :=
  match event.operationId, event.kind with
  | some id, .outboundResponse =>
      match event.statusCode with
      | none => []
      | some status =>
          if event.method = some "INVITE" then
            [.completeNativeInvite id (event.callId.getD "") status event.body event.dialogSnapshot]
          else if event.method = some "SUBSCRIBE" then
            [.completeNativeSubscription id status (responseMetadata sip event) established,
              .completeNativeResponse id status (responseMetadata sip event)]
          else [.completeNativeResponse id status (responseMetadata sip event)]
  | some id, .runtimeFault =>
      [.failNativeInvite id 503, .completeNativeSubscription id 503 defaultMetadata false,
        .completeNativeResponse id 503 defaultMetadata]
  | _, _ => []

/-- A command of the owner thread. -/
inductive RuntimeCommand where
  | sendMessage (operationId : UInt64)
  | sendInvite (operationId : UInt64)
  | sendDialog (operationId : UInt64)
  | sendRestoredDialog (operationId : UInt64)
  | sendSubscribe (operationId : UInt64)
  /-- `CompleteAuth`, `RespondInvite` and `CloseTransport`. -/
  | other
  deriving DecidableEq, Repr

/-- The attempts of the owner thread where the library does not take a command. -/
def RuntimeCommand.failureAttempts : RuntimeCommand → List Attempt
  | sendMessage id | sendDialog id | sendRestoredDialog id => [.completeNativeResponse id 503 defaultMetadata]
  | sendInvite id => [.failNativeInvite id 503]
  | sendSubscribe id =>
      [.completeNativeSubscription id 503 defaultMetadata false, .completeNativeResponse id 503 defaultMetadata]
  | other => []

/-- `RUNTIME_COMMAND_CAPACITY`. -/
def runtimeCommandCapacity : Nat := 32768

/-! ## Calls -/

/-- `INVITE_WAIT_TIMEOUT`, in milliseconds. -/
def inviteWaitTimeout : Nat := 15000

/-- `REQUEST_WAIT_TIMEOUT`, in milliseconds. -/
def requestWaitTimeout : Nat := 8000

/-- `SUBSCRIBE_WAIT_TIMEOUT`, in milliseconds. -/
def subscribeWaitTimeout : Nat := 8000

/-- The functions that wait for an answer: `send_native_message_on_device_and_wait`,
`send_native_dialog_and_wait`, `send_restored_dialog_and_wait` where `dialog_snapshot_from_session` takes
the row or not, `subscribe_catalog_once`, `refresh_catalog_subscription` and `invite_play_and_wait`. -/
inductive Request where
  | message
  | dialog (timeout : Nat)
  | restoredDialog (timeout : Nat) (restores : Bool)
  | subscribe (metadata : NativeSubscriptionMetadata)
  | refresh
  | invite (metadata : NativeInviteMetadata)
  deriving DecidableEq, Repr

namespace Request

def kind : Request → WaiterKind
  | message | dialog _ | restoredDialog _ _ | refresh => .response
  | subscribe _ => .subscription
  | invite _ => .invite

def metadata : (request : Request) → Metadata request.kind
  | message | dialog _ | restoredDialog _ _ | refresh => ()
  | subscribe metadata => metadata
  | invite metadata => metadata

def timeout : Request → Nat
  | message => requestWaitTimeout
  | dialog timeout | restoredDialog timeout _ => timeout
  | subscribe _ | refresh => subscribeWaitTimeout
  | invite _ => inviteWaitTimeout

/-- The request can be built behind the waiter. -/
def builds : Request → Bool
  | restoredDialog _ restores => restores
  | _ => true

def command (id : UInt64) : Request → RuntimeCommand
  | message => .sendMessage id
  | dialog _ => .sendDialog id
  | restoredDialog _ _ => .sendRestoredDialog id
  | subscribe _ | refresh => .sendSubscribe id
  | invite _ => .sendInvite id

end Request

/-- A call, with what it will find: whether the device's association is known where it is needed, how
often the call looks for the answer before its wait is over, and whether it is dropped instead. -/
structure Call where
  request : Request
  associated : Bool
  polls : Nat
  cancelled : Bool
  deriving DecidableEq, Repr

/-- An answer in a channel. -/
structure Delivery where
  tx : Nat
  attempt : Attempt
  metadata : Metadata attempt.kind

def Delivery.reply (delivery : Delivery) : Reply delivery.attempt.kind :=
  delivery.attempt.reply delivery.metadata

/-- How a call ends. -/
inductive Outcome where
  | unbuilt
  | unsent
  | cancelled
  | closed
  | timeout
  | value (delivery : Delivery)

/-- An operation that has its number, with the map of its waiter when it waits. -/
structure Operation where
  operationId : UInt64
  kind : Option WaiterKind
  deriving DecidableEq, Repr

/-! ## The shared state -/

structure Shared where
  now : Nat
  /-- `next_operation_id`. -/
  nextOperationId : UInt64
  /-- The operations so far; a channel has the place of its operation. -/
  operations : List Operation
  waiters : AList fun key : Key => Waiter key.1
  commands : List RuntimeCommand
  /-- The owner thread takes commands. -/
  running : Bool
  /-- The receiver of a channel is there. -/
  isOpen : Nat → Bool
  /-- The sender of a channel is there. -/
  alive : Nat → Bool
  delivered : List Delivery
  returned : List (Nat × Outcome)

namespace Shared

variable (shared : Shared)

def init : Shared := ⟨0, 1, [], ∅, [], true, fun _ => false, fun _ => false, [], []⟩

/-- `next_operation_id`: `fetch_add` wraps. -/
def takeOperationId (kind : Option WaiterKind) : Shared :=
  { shared with
    nextOperationId := shared.nextOperationId + 1
    operations := shared.operations ++ [⟨shared.nextOperationId, kind⟩] }

def inbox (tx : Nat) : Option Delivery := shared.delivered.find? fun delivery => delivery.tx == tx

/-- The sender of a waiter that leaves its map is dropped. -/
def dropSender (key : Key) : Nat → Bool :=
  match shared.waiters.lookup key with
  | none => shared.alive
  | some waiter => Function.update shared.alive waiter.tx false

/-- `insert_native_response_waiter`, `insert_native_subscription_waiter` and
`insert_native_invite_waiter`. -/
def insertWaiter (key : Key) (metadata : Metadata key.1) (ttl tx : Nat) : Shared :=
  { shared with
    waiters := shared.waiters.insert key ⟨shared.now + ttl, metadata, tx⟩
    isOpen := Function.update shared.isOpen tx true
    alive := Function.update (shared.dropSender key) tx true }

/-- `remove_native_response_waiter`, `remove_native_subscription_waiter` and
`remove_native_invite_waiter`. -/
def removeWaiter (key : Key) : Shared :=
  { shared with waiters := shared.waiters.erase key, alive := shared.dropSender key }

/-- The waiter of an answer leaves its map with its sender. -/
def takeWaiter (key : Key) : Shared := { shared with waiters := shared.waiters.erase key }

/-- The receiver is dropped, and the call returns. -/
def finish (tx : Nat) (outcome : Outcome) : Shared :=
  { shared with
    isOpen := Function.update shared.isOpen tx false
    returned := shared.returned ++ [(tx, outcome)] }

def close (tx : Nat) : Shared := { shared with isOpen := Function.update shared.isOpen tx false }

/-- `try_send` on the queue of commands. -/
def trySend (command : RuntimeCommand) : Option Shared :=
  if shared.running && shared.commands.length < runtimeCommandCapacity then
    some { shared with commands := shared.commands ++ [command] }
  else none

/-- The keys of one map that have a property. -/
def keysOf (kind : WaiterKind) (keep : Nat → Bool) : List Key :=
  (shared.waiters.entries.filter fun entry => entry.1.1 == kind && keep entry.2.deadline).map Sigma.fst

end Shared

/-! ## Tasks -/

/-- What is still to do: of a call, of an INVITE that nobody waits for, of the owner thread, of an event,
of the clean-up and of the shutdown. -/
inductive Task where
  | nextOperationId (call : Call)
  | insertWaiter (call : Call) (tx : Nat) (id : UInt64)
  | build (call : Call) (tx : Nat) (id : UInt64)
  | trySend (call : Call) (tx : Nat) (id : UInt64)
  | dropUnsent (tx : Nat) (key : Key)
  | recv (tx : Nat) (key : Key) (polls : Nat) (cancelled : Bool)
  | giveUp (tx : Nat) (key : Key) (outcome : Outcome)
  | removeWaiter (tx : Nat) (key : Key) (outcome : Outcome)
  | finish (tx : Nat) (outcome : Outcome)
  | invitePlay (associated : Bool)
  | sendInvite (id : UInt64)
  | otherCommand
  | own (sends : Bool)
  | stopOwner
  | event (event : SipRuntimeEvent) (established : Bool)
  /-- `stops` says whether the first success ends the list. -/
  | attempt (stops : Bool) (attempts : List Attempt)
  | deliver (attempt : Attempt) (waiter : Waiter attempt.kind) (stops : Bool) (rest : List Attempt)
  | cleanupExpired
  | expire (now : Nat) (keys : List Key) (kinds : List WaiterKind)
  | failAllNative (status : UInt16) (keys : List Key) (kinds : List WaiterKind)
  | tick (elapsed : Nat)

/-- The answer of `fail_all_native` for one waiter. -/
def failureOf (status : UInt16) : Key → Attempt
  | (.response, id) => .completeNativeResponse id status defaultMetadata
  | (.subscription, id) => .completeNativeSubscription id status defaultMetadata false
  | (.invite, id) => .failNativeInvite id status

section

variable (sip : SipReaders) (shared : Shared)

/-- One step of a task. -/
def work : Task → Option Task × Shared
  | .nextOperationId call =>
      (some (.insertWaiter call shared.operations.length shared.nextOperationId),
        shared.takeOperationId (some call.request.kind))
  | .insertWaiter call tx id =>
      (some (.build call tx id),
        shared.insertWaiter (call.request.kind, id) call.request.metadata call.request.timeout tx)
  | .build call tx id =>
      -- `dialog_snapshot_from_session` fails behind the waiter, and nothing takes the waiter back
      if call.request.builds then (some (.trySend call tx id), shared)
      else (some (.finish tx .unbuilt), shared)
  | .trySend call tx id =>
      if call.associated then
        match shared.trySend (call.request.command id) with
        | some next => (some (.recv tx (call.request.kind, id) call.polls call.cancelled), next)
        | none => (some (.dropUnsent tx (call.request.kind, id)), shared)
      else (some (.dropUnsent tx (call.request.kind, id)), shared)
  | .dropUnsent tx key => (some (.finish tx .unsent), shared.removeWaiter key)
  | .recv tx key polls cancelled =>
      match shared.inbox tx with
      | some delivery => (some (.finish tx (.value delivery)), shared)
      | none =>
          if shared.alive tx then
            match polls with
            | 0 =>
                (some (if cancelled then .finish tx .cancelled else .giveUp tx key .timeout), shared)
            | polls + 1 => (some (.recv tx key polls cancelled), shared)
          else (some (.giveUp tx key .closed), shared)
  | .giveUp tx key outcome => (some (.removeWaiter tx key outcome), shared.close tx)
  | .removeWaiter tx key outcome => (some (.finish tx outcome), shared.removeWaiter key)
  | .finish tx outcome => (none, shared.finish tx outcome)
  | .invitePlay associated =>
      (if associated then some (.sendInvite shared.nextOperationId) else none, shared.takeOperationId none)
  | .sendInvite id => (none, (shared.trySend (.sendInvite id)).getD shared)
  | .otherCommand => (none, (shared.trySend .other).getD shared)
  | .own sends =>
      match shared.running, shared.commands with
      | true, command :: rest =>
          (if sends then none else some (.attempt true command.failureAttempts),
            { shared with commands := rest })
      | _, _ => (none, shared)
  | .stopOwner => (none, { shared with running := false, commands := [] })
  | .event event established => (some (.attempt true (event.attempts sip established)), shared)
  | .attempt _ [] => (none, shared)
  | .attempt stops (attempt :: rest) =>
      if attempt.provisional then (some (.attempt stops rest), shared)
      else
        match shared.waiters.lookup attempt.key with
        | none => (some (.attempt stops rest), shared)
        | some waiter => (some (.deliver attempt waiter stops rest), shared.takeWaiter attempt.key)
  | .deliver attempt waiter stops rest =>
      if shared.isOpen waiter.tx then
        (if stops then none else some (.attempt stops rest),
          { shared with delivered := shared.delivered ++ [⟨waiter.tx, attempt, waiter.metadata⟩] })
      else (some (.attempt stops rest), shared)
  | .cleanupExpired => (some (.expire shared.now [] [.invite, .response, .subscription]), shared)
  | .expire now (key :: keys) kinds => (some (.expire now keys kinds), shared.removeWaiter key)
  | .expire now [] (kind :: kinds) =>
      (some (.expire now (shared.keysOf kind (· ≤ now)) kinds), shared)
  | .expire _ [] [] => (none, shared)
  | .failAllNative status keys (kind :: kinds) =>
      (some (.failAllNative status (keys ++ shared.keysOf kind fun _ => true) kinds), shared)
  | .failAllNative status keys [] => (some (.attempt false (keys.map (failureOf status))), shared)
  | .tick elapsed => (none, { shared with now := shared.now + elapsed })

end

/-- The tasks that begin. -/
def Task.begins : Task → Bool
  | .nextOperationId _ | .invitePlay _ | .otherCommand | .own _ | .stopOwner | .event _ _
  | .cleanupExpired | .tick _ => true
  | .failAllNative _ [] kinds => kinds = [.response, .subscription, .invite]
  | _ => false

/-- Any tasks of the server, from the start on, in any order. -/
def reached (sip : SipReaders) (moves : List (Move Task)) : Pool Shared Task :=
  Runs.final (step (work sip)) ⟨.init, []⟩ moves

variable {sip : SipReaders} {shared : Shared}

/-! ## Numbers of operations -/

/-- The operation at every place has the number of its place. -/
structure Numbered (shared : Shared) : Prop where
  next : shared.nextOperationId = UInt64.ofNat (shared.operations.length + 1)
  each : ∀ place operation, shared.operations[place]? = some operation →
    operation.operationId = UInt64.ofNat (place + 1)

namespace Numbered

theorem init : Numbered .init := ⟨rfl, fun place operation found => by cases found⟩

theorem takeOperationId (numbered : Numbered shared) (kind : Option WaiterKind) :
    Numbered (shared.takeOperationId kind) where
  next := by
    simp only [Shared.takeOperationId, List.length_append, List.length_singleton, numbered.next]
    rw [UInt64.ofNat_add (shared.operations.length + 1)]
    rfl
  each place operation found := by
    simp only [Shared.takeOperationId] at found
    by_cases old : place < shared.operations.length
    · rw [List.getElem?_append_left old] at found
      exact numbered.each place operation found
    · have bound := (List.getElem?_eq_some_iff.mp found).1
      rw [List.length_append, List.length_singleton] at bound
      obtain rfl : place = shared.operations.length := by omega
      rw [List.getElem?_append_right (Nat.le_refl _), Nat.sub_self, List.getElem?_cons_zero,
        Option.some.injEq] at found
      rw [← found]
      exact numbered.next

/-- Before the counter comes back, a number is that of one operation. -/
theorem place_unique (numbered : Numbered shared) (few : shared.operations.length ≤ 18446744073709551616)
    {first second : Nat} {operation other : Operation}
    (atFirst : shared.operations[first]? = some operation)
    (atSecond : shared.operations[second]? = some other)
    (same : operation.operationId = other.operationId) : first = second := by
  have firstBound := (List.getElem?_eq_some_iff.mp atFirst).1
  have secondBound := (List.getElem?_eq_some_iff.mp atSecond).1
  rw [numbered.each first operation atFirst, numbered.each second other atSecond] at same
  have values := congrArg UInt64.toNat same
  simp only [UInt64.toNat_ofNat'] at values
  omega

end Numbered

/-! ## What a step does -/

/-- What most steps leave alone. -/
structure Quiet (shared next : Shared) : Prop where
  nextOperationId : next.nextOperationId = shared.nextOperationId
  operations : next.operations = shared.operations
  waiters : next.waiters = shared.waiters
  delivered : next.delivered = shared.delivered
  returned : next.returned = shared.returned

theorem Quiet.refl (shared : Shared) : Quiet shared shared := ⟨rfl, rfl, rfl, rfl, rfl⟩

theorem quiet_trySend {command : RuntimeCommand} {next : Shared}
    (queued : shared.trySend command = some next) : Quiet shared next := by
  rw [Shared.trySend] at queued
  split at queued
  · rw [← Option.some.inj queued]
    exact ⟨rfl, rfl, rfl, rfl, rfl⟩
  · cases queued

theorem quiet_getD (command : RuntimeCommand) : Quiet shared ((shared.trySend command).getD shared) := by
  cases queued : shared.trySend command with
  | none => exact .refl shared
  | some next => exact quiet_trySend queued

/-- The steps that take numbers, change the waiters, deliver and return. -/
def Task.writes : Task → Bool
  | .nextOperationId _ | .insertWaiter _ _ _ | .dropUnsent _ _ | .removeWaiter _ _ _ | .finish _ _
  | .invitePlay _ | .attempt _ _ | .deliver _ _ _ _ | .expire _ _ _ => true
  | _ => false

theorem quiet_work {task : Task} (plain : task.writes = false) :
    Quiet shared (work sip shared task).2 := by
  cases task with
  | build call tx id =>
      simp only [work]
      split <;> exact .refl shared
  | trySend call tx id =>
      simp only [work]
      split
      · split
        · rename_i queued
          exact quiet_trySend queued
        · exact .refl shared
      · exact .refl shared
  | recv tx key polls cancelled =>
      simp only [work]
      split
      · exact .refl shared
      · split
        · split <;> exact .refl shared
        · exact .refl shared
  | giveUp tx key outcome => exact ⟨rfl, rfl, rfl, rfl, rfl⟩
  | sendInvite id => exact quiet_getD _
  | otherCommand => exact quiet_getD _
  | own sends =>
      simp only [work]
      split <;> exact ⟨rfl, rfl, rfl, rfl, rfl⟩
  | stopOwner => exact ⟨rfl, rfl, rfl, rfl, rfl⟩
  | event event established => exact .refl shared
  | cleanupExpired => exact .refl shared
  | failAllNative status keys kinds => cases kinds <;> exact .refl shared
  | tick elapsed => exact ⟨rfl, rfl, rfl, rfl, rfl⟩
  | _ => cases plain

/-- The call that a task belongs to, where it ends and what it waits for. -/
def Task.caller : Task → Option Nat
  | .insertWaiter _ tx _ | .build _ tx _ | .trySend _ tx _ | .dropUnsent tx _ | .recv tx _ _ _
  | .giveUp tx _ _ | .removeWaiter tx _ _ | .finish tx _ => some tx
  | _ => none

/-- The place of an operation that a task knows, with the key of its waiter. -/
def Task.names : Task → Option (Nat × Key)
  | .insertWaiter call tx id | .build call tx id | .trySend call tx id =>
      some (tx, (call.request.kind, id))
  | .dropUnsent tx key | .recv tx key _ _ | .giveUp tx key _ | .removeWaiter tx key _ => some (tx, key)
  | .deliver answer waiter _ _ => some (waiter.tx, answer.key)
  | _ => none

/-- The sender of a channel that a task has, or is about to make. -/
def Task.sender : Task → Option Nat
  | .insertWaiter _ tx _ => some tx
  | .deliver _ waiter _ _ => some waiter.tx
  | _ => none

/-- How a call is about to end. -/
def Task.ending : Task → Option (Nat × Outcome)
  | .giveUp tx _ outcome | .removeWaiter tx _ outcome | .finish tx outcome => some (tx, outcome)
  | _ => none

/-- A task that begins knows nothing yet. -/
structure Fresh (task : Task) : Prop where
  caller : task.caller = none
  names : task.names = none
  sender : task.sender = none
  ending : task.ending = none

theorem fresh_of_begins {task : Task} (begins : task.begins = true) : Fresh task := by
  cases task <;> first | exact ⟨rfl, rfl, rfl, rfl⟩ | cases begins

/-- The operation at a place has its waiter under this key. -/
def Owns (shared : Shared) (place : Nat) (key : Key) : Prop :=
  shared.operations[place]? = some ⟨key.2, some key.1⟩

theorem Owns.unique {place : Nat} {key other : Key} (first : Owns shared place key)
    (second : Owns shared place other) : key = other := by
  have same := first.symm.trans second
  simp only [Option.some.injEq, Operation.mk.injEq] at same
  exact Prod.ext same.2 same.1

theorem operations_grow (task : Task) :
    ∃ more, (work sip shared task).2.operations = shared.operations ++ more := by
  by_cases plain : task.writes = false
  · exact ⟨[], by rw [(quiet_work plain).operations, List.append_nil]⟩
  · cases task with
    | nextOperationId call => exact ⟨_, rfl⟩
    | invitePlay associated => exact ⟨_, rfl⟩
    | attempt stops attempts =>
        refine ⟨[], ?_⟩
        rw [List.append_nil]
        cases attempts with
        | nil => rfl
        | cons attempt rest =>
            simp only [work]
            split
            · rfl
            · split <;> rfl
    | deliver attempt waiter stops rest =>
        refine ⟨[], ?_⟩
        rw [List.append_nil]
        simp only [work]
        split <;> rfl
    | expire now keys kinds => 
        refine ⟨[], ?_⟩
        rw [List.append_nil]
        cases keys with
        | nil => cases kinds <;> rfl
        | cons key keys => rfl
    | insertWaiter call tx id => exact ⟨[], (List.append_nil _).symm⟩
    | dropUnsent tx key => exact ⟨[], (List.append_nil _).symm⟩
    | removeWaiter tx key outcome => exact ⟨[], (List.append_nil _).symm⟩
    | finish tx outcome => exact ⟨[], (List.append_nil _).symm⟩
    | _ => exact absurd rfl plain

theorem Owns.work {place : Nat} {key : Key} (owns : Owns shared place key) (task : Task) :
    Owns (work sip shared task).2 place key := by
  obtain ⟨more, grown⟩ := @operations_grow sip shared task
  rw [Owns, grown, List.getElem?_append_left (List.getElem?_eq_some_iff.mp owns).1]
  exact owns

/-! ## Every waiter is under the number of its own operation -/

structure Owned (pool : Pool Shared Task) : Prop where
  numbered : Numbered pool.shared
  waiters : ∀ key waiter, pool.shared.waiters.lookup key = some waiter → Owns pool.shared waiter.tx key
  tasks : ∀ task ∈ pool.tasks, ∀ place key, task.names = some (place, key) → Owns pool.shared place key
  delivered : ∀ delivery ∈ pool.shared.delivered, Owns pool.shared delivery.tx delivery.attempt.key

theorem numbered_work (numbered : Numbered shared) (task : Task) : Numbered (work sip shared task).2 := by
  by_cases plain : task.writes = false
  · have quiet := @quiet_work sip shared task plain
    exact ⟨by rw [quiet.nextOperationId, quiet.operations]; exact numbered.next,
      by rw [quiet.operations]; exact numbered.each⟩
  · cases task with
    | nextOperationId call => exact numbered.takeOperationId _
    | invitePlay associated => exact numbered.takeOperationId _
    | attempt stops attempts =>
        cases attempts with
        | nil => exact numbered
        | cons attempt rest =>
            simp only [work]
            split
            · exact numbered
            · split <;> exact ⟨numbered.next, numbered.each⟩
    | deliver attempt waiter stops rest =>
        simp only [work]
        split <;> exact ⟨numbered.next, numbered.each⟩
    | expire now keys kinds =>
        cases keys with
        | nil => cases kinds <;> exact numbered
        | cons key keys => exact ⟨numbered.next, numbered.each⟩
    | insertWaiter call tx id => exact ⟨numbered.next, numbered.each⟩
    | dropUnsent tx key => exact ⟨numbered.next, numbered.each⟩
    | removeWaiter tx key outcome => exact ⟨numbered.next, numbered.each⟩
    | finish tx outcome => exact ⟨numbered.next, numbered.each⟩
    | _ => exact absurd rfl plain

theorem lookup_of_erase {key other : Key} {waiter : Waiter other.1}
    (found : (shared.waiters.erase key).lookup other = some waiter) :
    shared.waiters.lookup other = some waiter := by
  have differs : other ≠ key := by
    rintro rfl
    rw [AList.lookup_erase] at found
    cases found
  rwa [AList.lookup_erase_ne differs] at found

/-- A waiter behind a step was there before, or it is that of the task. -/
theorem waiters_work {task : Task} {key : Key} {waiter : Waiter key.1}
    (found : (work sip shared task).2.waiters.lookup key = some waiter) :
    shared.waiters.lookup key = some waiter ∨
      (task.names = some (waiter.tx, key) ∧ task.caller = some waiter.tx ∧
        ∃ call id, task = .insertWaiter call waiter.tx id) := by
  by_cases plain : task.writes = false
  · rw [(quiet_work plain).waiters] at found
    exact Or.inl found
  · cases task with
    | nextOperationId call => exact Or.inl found
    | invitePlay associated => exact Or.inl found
    | insertWaiter call tx id =>
        simp only [work, Shared.insertWaiter] at found
        by_cases same : key = (call.request.kind, id)
        · subst same
          rw [AList.lookup_insert, Option.some.injEq] at found
          subst found
          exact Or.inr ⟨rfl, rfl, call, id, rfl⟩
        · rw [AList.lookup_insert_ne same] at found
          exact Or.inl found
    | dropUnsent tx other => exact Or.inl (lookup_of_erase found)
    | removeWaiter tx other outcome => exact Or.inl (lookup_of_erase found)
    | finish tx outcome => exact Or.inl found
    | attempt stops attempts =>
        cases attempts with
        | nil => exact Or.inl found
        | cons attempt rest =>
            simp only [work] at found
            split at found
            · exact Or.inl found
            · split at found
              · exact Or.inl found
              · exact Or.inl (lookup_of_erase found)
    | deliver attempt other stops rest =>
        simp only [work] at found
        split at found <;> exact Or.inl found
    | expire now keys kinds =>
        cases keys with
        | nil => cases kinds <;> exact Or.inl found
        | cons other keys => exact Or.inl (lookup_of_erase found)
    | _ => exact absurd rfl plain

/-- What a task knows it knew before, or it took a number or a waiter. -/
theorem names_work {task rest : Task} {place : Nat} {key : Key}
    (isRest : (work sip shared task).1 = some rest) (names : rest.names = some (place, key)) :
    task.names = some (place, key) ∨
      (∃ call, task = .nextOperationId call ∧ place = shared.operations.length ∧
        key = (call.request.kind, shared.nextOperationId)) ∨
      ∃ waiter, shared.waiters.lookup key = some waiter ∧ waiter.tx = place := by
  cases task with
  | nextOperationId call =>
      cases isRest
      cases names
      exact Or.inr (Or.inl ⟨call, rfl, rfl, rfl⟩)
  | insertWaiter call tx id =>
      cases isRest
      exact Or.inl names
  | build call tx id =>
      simp only [work] at isRest
      split at isRest <;> cases isRest
      · exact Or.inl names
      · cases names
  | trySend call tx id =>
      simp only [work] at isRest
      split at isRest
      · split at isRest <;> cases isRest <;> exact Or.inl names
      · cases isRest
        exact Or.inl names
  | dropUnsent tx other =>
      cases isRest
      cases names
  | recv tx other polls cancelled =>
      simp only [work] at isRest
      split at isRest
      · cases isRest
        cases names
      · split at isRest
        · split at isRest
          · cases isRest
            split at names
            · cases names
            · exact Or.inl names
          · cases isRest
            exact Or.inl names
        · cases isRest
          exact Or.inl names
  | giveUp tx other outcome =>
      cases isRest
      exact Or.inl names
  | removeWaiter tx other outcome =>
      cases isRest
      cases names
  | invitePlay associated =>
      simp only [work] at isRest
      split at isRest <;> cases isRest
      cases names
  | own sends =>
      simp only [work] at isRest
      split at isRest
      · split at isRest <;> cases isRest
        cases names
      · cases isRest
  | event event established =>
      cases isRest
      cases names
  | attempt stops attempts =>
      cases attempts with
      | nil => cases isRest
      | cons attempt rest =>
          simp only [work] at isRest
          split at isRest
          · cases isRest
            cases names
          · split at isRest
            · cases isRest
              cases names
            · rename_i waiter found
              cases isRest
              cases names
              exact Or.inr (Or.inr ⟨waiter, found, rfl⟩)
  | deliver attempt waiter stops rest =>
      simp only [work] at isRest
      split at isRest
      · split at isRest <;> cases isRest
        cases names
      · cases isRest
        cases names
  | cleanupExpired =>
      cases isRest
      cases names
  | expire now keys kinds =>
      cases keys with
      | nil => cases kinds <;> cases isRest; cases names
      | cons other keys =>
          cases isRest
          cases names
  | failAllNative status keys kinds =>
      cases kinds <;> cases isRest <;> cases names
  | _ => cases isRest

theorem delivered_work {task : Task} {delivery : Delivery}
    (member : delivery ∈ (work sip shared task).2.delivered) :
    delivery ∈ shared.delivered ∨ task.names = some (delivery.tx, delivery.attempt.key) := by
  by_cases plain : task.writes = false
  · rw [(quiet_work plain).delivered] at member
    exact Or.inl member
  · cases task with
    | attempt stops attempts =>
        cases attempts with
        | nil => exact Or.inl member
        | cons attempt rest =>
            simp only [work] at member
            split at member
            · exact Or.inl member
            · split at member <;> exact Or.inl member
    | deliver attempt waiter stops rest =>
        simp only [work] at member
        split at member
        · rcases List.mem_append.mp member with old | new
          · exact Or.inl old
          · rw [List.mem_singleton.mp new]
            exact Or.inr rfl
        · exact Or.inl member
    | expire now keys kinds =>
        cases keys with
        | nil => cases kinds <;> exact Or.inl member
        | cons other keys => exact Or.inl member
    | _ => first | exact Or.inl member | exact absurd rfl plain

section

variable {earlier later : List Task} {task : Task}

theorem Owned.begun {tasks : List Task} (owned : Owned ⟨shared, tasks⟩) (begins : task.begins = true) :
    Owned ⟨shared, tasks ++ [task]⟩ where
  numbered := owned.numbered
  waiters := owned.waiters
  tasks other member place key names := by
    rcases List.mem_append.mp member with old | new
    · exact owned.tasks other old place key names
    · rw [List.mem_singleton.mp new, (fresh_of_begins begins).names] at names
      cases names
  delivered := owned.delivered

theorem Owned.advanced (owned : Owned ⟨shared, earlier ++ task :: later⟩) :
    Owned ⟨(work sip shared task).2, earlier ++ (work sip shared task).1.toList ++ later⟩ where
  numbered := numbered_work owned.numbered task
  waiters key waiter found := by
    rcases waiters_work found with old | ⟨names, -⟩
    · exact (owned.waiters key waiter old).work task
    · exact (owned.tasks task List.mem_append_cons_self waiter.tx key names).work task
  tasks other member place key names := by
    rcases mem_advanced task member with isRest | old
    · rcases names_work isRest names with known | ⟨call, rfl, rfl, rfl⟩ | ⟨waiter, found, rfl⟩
      · exact (owned.tasks task List.mem_append_cons_self place key known).work task
      · exact List.getElem?_concat_length
      · exact (owned.waiters key waiter found).work task
    · exact (owned.tasks other old place key names).work task
  delivered delivery member := by
    rcases delivered_work member with old | names
    · exact (owned.delivered delivery old).work task
    · exact (owned.tasks task List.mem_append_cons_self delivery.tx _ names).work task

/-! ## A channel is in one place -/

/-- The channels that waiters have and those that were sent into. -/
def Shared.channels (shared : Shared) : List Nat :=
  ReplyTable.channels (fun _ waiter => waiter.tx) shared.waiters ++ shared.delivered.map Delivery.tx

/-- The sender of a channel is made once: it is on its way, with a waiter, or used up. -/
def Once (pool : Pool Shared Task) : Prop :=
  ∀ tx, tally Shared.channels Task.sender tx pool ≤ (decide (tx < pool.shared.operations.length)).toNat

theorem channels_quiet {next : Shared} (quiet : Quiet shared next) : next.channels = shared.channels := by
  rw [Shared.channels, quiet.waiters, quiet.delivered, Shared.channels]

theorem count_removeWaiter (key : Key) (tx : Nat) :
    (shared.removeWaiter key).channels.count tx ≤ shared.channels.count tx := by
  simp only [Shared.channels, List.count_append]
  exact Nat.add_le_add_right (ReplyTable.count_erase_le tx) _

theorem sender_rest {task : Task} (plain : task.writes = false) :
    (work sip shared task).1.bind Task.sender = none := by
  cases task with
  | build call tx id =>
      simp only [work]
      split <;> rfl
  | trySend call tx id =>
      simp only [work]
      split
      · split <;> rfl
      · rfl
  | recv tx key polls cancelled =>
      simp only [work]
      split
      · rfl
      · split
        · split
          · cases cancelled <;> rfl
          · rfl
        · rfl
  | own sends =>
      simp only [work]
      split
      · cases sends <;> rfl
      · rfl
  | failAllNative status keys kinds => cases kinds <;> rfl
  | _ => first | rfl | cases plain

/-- No step but the one that takes a number makes a sender. -/
theorem tallyHere_work {task : Task} (tx : Nat) (old : ∀ call, task ≠ .nextOperationId call) :
    tallyHere Shared.channels Task.sender tx (work sip shared task).2 (work sip shared task).1 ≤
      tallyHere Shared.channels Task.sender tx shared (some task) := by
  by_cases plain : task.writes = false
  · rw [tallyHere, sender_rest plain, channels_quiet (quiet_work plain), tallyHere]
    exact Nat.add_le_add_left (Nat.zero_le _) _
  · cases task with
    | nextOperationId call => exact absurd rfl (old call)
    | invitePlay associated => cases associated <;> exact Nat.le_refl _
    | insertWaiter call other id =>
        have inserted : (shared.insertWaiter (call.request.kind, id) call.request.metadata
            call.request.timeout other).channels.count tx ≤ [other].count tx + shared.channels.count tx := by
          simp only [Shared.channels, List.count_append, ← Nat.add_assoc]
          exact Nat.add_le_add_right (ReplyTable.count_insert_le tx) _
        simp only [tallyHere, work, Option.bind_some, Task.sender, Option.toList_none, Option.toList_some,
          List.count_nil]
        omega
    | dropUnsent other key => exact Nat.add_le_add_right (count_removeWaiter key tx) _
    | removeWaiter other key outcome => exact Nat.add_le_add_right (count_removeWaiter key tx) _
    | finish other outcome => exact Nat.le_refl _
    | attempt stops attempts =>
        cases attempts with
        | nil => exact Nat.le_refl _
        | cons attempt rest =>
            simp only [work]
            split
            · exact Nat.le_refl _
            · split
              · exact Nat.le_refl _
              · rename_i waiter found
                have erased : shared.channels.count tx =
                    [waiter.tx].count tx + (shared.takeWaiter attempt.key).channels.count tx := by
                  simp only [Shared.channels, Shared.takeWaiter, List.count_append]
                  rw [ReplyTable.count_erase found tx, Nat.add_assoc]
                simp only [tallyHere, Option.bind_some, Task.sender, Option.toList_none,
                  Option.toList_some, List.count_nil]
                omega
    | deliver attempt waiter stops rest =>
        simp only [work]
        split
        · have sent : (List.map Delivery.tx (shared.delivered ++ [⟨waiter.tx, attempt, waiter.metadata⟩])).count tx =
              (shared.delivered.map Delivery.tx).count tx + [waiter.tx].count tx := by
            rw [List.map_append, List.count_append]
            rfl
          have done : ((if stops = true then none else some (Task.attempt stops rest)).bind Task.sender) = none := by
            cases stops <;> rfl
          rw [tallyHere, done, tallyHere]
          simp only [Shared.channels, List.count_append, sent, Option.bind_some, Task.sender,
            Option.toList_none, Option.toList_some, List.count_nil]
          omega
        · exact Nat.add_le_add_left (Nat.zero_le _) _
    | expire now keys kinds =>
        cases keys with
        | nil => cases kinds <;> exact Nat.le_refl _
        | cons key keys => exact Nat.add_le_add_right (count_removeWaiter key tx) _
    | _ => exact absurd rfl plain

theorem Once.begun {tasks : List Task} (once : Once ⟨shared, tasks⟩) (begins : task.begins = true) :
    Once ⟨shared, tasks ++ [task]⟩ := by
  intro tx
  rw [tally_begin _ _ _ (fresh_of_begins begins).sender]
  exact once tx

theorem length_grows (task : Task) :
    shared.operations.length ≤ (work sip shared task).2.operations.length := by
  obtain ⟨more, grown⟩ := @operations_grow sip shared task
  rw [grown, List.length_append]
  exact Nat.le_add_right _ _

theorem Once.advanced (once : Once ⟨shared, earlier ++ task :: later⟩) :
    Once ⟨(work sip shared task).2, earlier ++ (work sip shared task).1.toList ++ later⟩ := by
  intro tx
  have before := once tx
  rw [tally_split] at before
  rw [tally_advanced]
  by_cases taking : ∃ call, task = .nextOperationId call
  · obtain ⟨call, rfl⟩ := taking
    have fresh := count_fresh before
    simp only [tallyHere, work, Option.bind_some, Task.sender, Option.toList_none, Option.toList_some,
      List.count_nil, Shared.takeOperationId, List.length_append, List.length_singleton] at fresh ⊢
    exact Nat.le_trans (Nat.le_of_eq (by simp only [Shared.channels]; omega)) fresh
  · have here := @tallyHere_work sip shared task tx fun call same => taking ⟨call, same⟩
    have grows := @length_grows sip shared task
    have bound : (decide (tx < shared.operations.length)).toNat ≤
        (decide (tx < (work sip shared task).2.operations.length)).toNat := by
      by_cases below : tx < shared.operations.length
      · simp only [below, Nat.lt_of_lt_of_le below grows, decide_true, Nat.le_refl]
      · simp only [below, decide_false, Bool.toNat_false, Nat.zero_le]
    dsimp only at before ⊢
    omega

/-! ## A call returns once, with what was sent into its channel -/

/-- A call is under way once, or it has returned once. -/
def ReturnsOnce (pool : Pool Shared Task) : Prop :=
  ∀ tx, tally (fun shared : Shared => shared.returned.map Prod.fst) Task.caller tx pool ≤
    (decide (tx < pool.shared.operations.length)).toNat

theorem returned_work (task : Task) :
    (work sip shared task).2.returned = shared.returned ∨
      ∃ tx outcome, task = .finish tx outcome ∧
        (work sip shared task).2.returned = shared.returned ++ [(tx, outcome)] := by
  by_cases plain : task.writes = false
  · exact Or.inl (quiet_work plain).returned
  · cases task with
    | finish tx outcome => exact Or.inr ⟨tx, outcome, rfl, rfl⟩
    | attempt stops attempts =>
        refine Or.inl ?_
        cases attempts with
        | nil => rfl
        | cons attempt rest =>
            simp only [work]
            split
            · rfl
            · split <;> rfl
    | deliver attempt waiter stops rest =>
        refine Or.inl ?_
        simp only [work]
        split <;> rfl
    | expire now keys kinds =>
        refine Or.inl ?_
        cases keys with
        | nil => cases kinds <;> rfl
        | cons key keys => rfl
    | _ => first | exact Or.inl rfl | exact absurd rfl plain

/-- A call goes on until it returns. -/
theorem caller_rest {task : Task} (old : ∀ call, task ≠ .nextOperationId call)
    (unfinished : ∀ tx outcome, task ≠ .finish tx outcome) :
    (work sip shared task).1.bind Task.caller = task.caller := by
  cases task with
  | nextOperationId call => exact absurd rfl (old call)
  | finish tx outcome => exact absurd rfl (unfinished tx outcome)
  | build call tx id =>
      simp only [work]
      split <;> rfl
  | trySend call tx id =>
      simp only [work]
      split
      · split <;> rfl
      · rfl
  | recv tx key polls cancelled =>
      simp only [work]
      split
      · rfl
      · split
        · split
          · cases cancelled <;> rfl
          · rfl
        · rfl
  | invitePlay associated => cases associated <;> rfl
  | own sends =>
      simp only [work]
      split
      · cases sends <;> rfl
      · rfl
  | attempt stops attempts =>
      cases attempts with
      | nil => rfl
      | cons attempt rest =>
          simp only [work]
          split
          · rfl
          · split <;> rfl
  | deliver attempt waiter stops rest =>
      simp only [work]
      split
      · cases stops <;> rfl
      · rfl
  | expire now keys kinds =>
      cases keys with
      | nil => cases kinds <;> rfl
      | cons key keys => rfl
  | failAllNative status keys kinds => cases kinds <;> rfl
  | _ => rfl

theorem ReturnsOnce.begun {tasks : List Task} (once : ReturnsOnce ⟨shared, tasks⟩)
    (begins : task.begins = true) : ReturnsOnce ⟨shared, tasks ++ [task]⟩ := by
  intro tx
  rw [tally_begin _ _ _ (fresh_of_begins begins).caller]
  exact once tx

theorem ReturnsOnce.advanced (once : ReturnsOnce ⟨shared, earlier ++ task :: later⟩) :
    ReturnsOnce ⟨(work sip shared task).2, earlier ++ (work sip shared task).1.toList ++ later⟩ := by
  intro tx
  have before := once tx
  rw [tally_split] at before
  rw [tally_advanced]
  have grows := @length_grows sip shared task
  by_cases taking : ∃ call, task = .nextOperationId call
  · obtain ⟨call, rfl⟩ := taking
    have fresh := count_fresh before
    simp only [tallyHere, work, Option.bind_some, Task.caller, Option.toList_none, Option.toList_some,
      List.count_nil, Shared.takeOperationId, List.length_append, List.length_singleton] at fresh ⊢
    omega
  · have bound : (decide (tx < shared.operations.length)).toNat ≤
        (decide (tx < (work sip shared task).2.operations.length)).toNat := by
      by_cases below : tx < shared.operations.length
      · simp only [below, Nat.lt_of_lt_of_le below grows, decide_true, Nat.le_refl]
      · simp only [below, decide_false, Bool.toNat_false, Nat.zero_le]
    dsimp only at before ⊢
    refine Nat.le_trans (Nat.le_trans (Nat.add_le_add_right ?_ _) before) bound
    rcases @returned_work sip shared task with same | ⟨place, outcome, rfl, grown⟩
    · by_cases finishing : ∃ place outcome, task = .finish place outcome
      · obtain ⟨place, outcome, rfl⟩ := finishing
        rw [tallyHere, same]
        exact Nat.add_le_add_left (Nat.zero_le _) _
      · rw [tallyHere, same, caller_rest (fun call isTaking => taking ⟨call, isTaking⟩)
          fun place outcome isFinish => finishing ⟨place, outcome, isFinish⟩]
        exact Nat.le_refl _
    · rw [tallyHere, grown, List.map_append, List.count_append, tallyHere]
      exact Nat.le_refl _

/-- A value that a call has, or has returned, was sent into its channel. -/
def Sent (shared : Shared) (tx : Nat) (outcome : Outcome) : Prop :=
  ∀ delivery, outcome = .value delivery → delivery ∈ shared.delivered ∧ delivery.tx = tx

theorem Sent.of_grown {next : Shared} {tx : Nat} {outcome : Outcome} (sent : Sent shared tx outcome)
    (grown : ∀ delivery ∈ shared.delivered, delivery ∈ next.delivered) : Sent next tx outcome :=
  fun delivery isValue => (sent delivery isValue).imp_left (grown delivery)

structure Valued (pool : Pool Shared Task) : Prop where
  tasks : ∀ task ∈ pool.tasks, ∀ tx outcome, task.ending = some (tx, outcome) → Sent pool.shared tx outcome
  returned : ∀ entry ∈ pool.shared.returned, Sent pool.shared entry.1 entry.2

theorem delivered_grows (task : Task) :
    ∀ delivery ∈ shared.delivered, delivery ∈ (work sip shared task).2.delivered := by
  intro delivery member
  by_cases plain : task.writes = false
  · rw [(quiet_work plain).delivered]
    exact member
  · cases task with
    | attempt stops attempts =>
        cases attempts with
        | nil => exact member
        | cons attempt rest =>
            simp only [work]
            split
            · exact member
            · split <;> exact member
    | deliver attempt waiter stops rest =>
        simp only [work]
        split
        · exact List.mem_append_left _ member
        · exact member
    | expire now keys kinds =>
        cases keys with
        | nil => cases kinds <;> exact member
        | cons key keys => exact member
    | _ => first | exact member | exact absurd rfl plain

theorem inbox_sent {tx : Nat} {delivery : Delivery} (found : shared.inbox tx = some delivery) :
    Sent shared tx (.value delivery) := by
  intro other same
  cases same
  have listed := List.find?_some found
  exact ⟨List.mem_of_find?_eq_some found, beq_iff_eq.mp listed⟩

/-- A call ends with what lay in its channel, or without a value. -/
theorem ending_work {task rest : Task} {tx : Nat} {outcome : Outcome}
    (isRest : (work sip shared task).1 = some rest) (ending : rest.ending = some (tx, outcome)) :
    task.ending = some (tx, outcome) ∨ Sent shared tx outcome := by
  cases task with
  | build call place id =>
      simp only [work] at isRest
      split at isRest <;> cases isRest
      · cases ending
      · cases ending
        exact Or.inr fun delivery same => by cases same
  | trySend call place id =>
      simp only [work] at isRest
      split at isRest
      · split at isRest <;> cases isRest <;> cases ending
      · cases isRest
        cases ending
  | dropUnsent place key =>
      cases isRest
      cases ending
      exact Or.inr fun delivery same => by cases same
  | recv place key polls cancelled =>
      simp only [work] at isRest
      split at isRest
      · rename_i delivery found
        cases isRest
        cases ending
        exact Or.inr (inbox_sent found)
      · split at isRest
        · split at isRest
          · cases isRest
            cases cancelled <;> cases ending <;> exact Or.inr fun delivery same => by cases same
          · cases isRest
            cases ending
        · cases isRest
          cases ending
          exact Or.inr fun delivery same => by cases same
  | giveUp place key other =>
      cases isRest
      exact Or.inl ending
  | removeWaiter place key other =>
      cases isRest
      exact Or.inl ending
  | invitePlay associated =>
      simp only [work] at isRest
      split at isRest <;> cases isRest
      cases ending
  | own sends =>
      simp only [work] at isRest
      split at isRest
      · split at isRest <;> cases isRest
        cases ending
      · cases isRest
  | attempt stops attempts =>
      cases attempts with
      | nil => cases isRest
      | cons attempt rest =>
          simp only [work] at isRest
          split at isRest
          · cases isRest
            cases ending
          · split at isRest <;> cases isRest <;> cases ending
  | deliver attempt waiter stops rest =>
      simp only [work] at isRest
      split at isRest
      · split at isRest <;> cases isRest
        cases ending
      · cases isRest
        cases ending
  | expire now keys kinds =>
      cases keys with
      | nil => cases kinds <;> cases isRest; cases ending
      | cons key keys =>
          cases isRest
          cases ending
  | failAllNative status keys kinds => cases kinds <;> cases isRest <;> cases ending
  | _ => cases isRest <;> cases ending

theorem Valued.begun {tasks : List Task} (valued : Valued ⟨shared, tasks⟩) (begins : task.begins = true) :
    Valued ⟨shared, tasks ++ [task]⟩ where
  tasks other member tx outcome ending := by
    rcases List.mem_append.mp member with old | new
    · exact valued.tasks other old tx outcome ending
    · rw [List.mem_singleton.mp new, (fresh_of_begins begins).ending] at ending
      cases ending
  returned := valued.returned

theorem Valued.advanced (valued : Valued ⟨shared, earlier ++ task :: later⟩) :
    Valued ⟨(work sip shared task).2, earlier ++ (work sip shared task).1.toList ++ later⟩ where
  tasks other member tx outcome ending := by
    refine Sent.of_grown ?_ (delivered_grows task)
    rcases mem_advanced task member with isRest | old
    · rcases ending_work isRest ending with known | sent
      · exact valued.tasks task List.mem_append_cons_self tx outcome known
      · exact sent
    · exact valued.tasks other old tx outcome ending
  returned entry member := by
    refine Sent.of_grown ?_ (delivered_grows task)
    rcases @returned_work sip shared task with same | ⟨tx, outcome, rfl, grown⟩
    · exact valued.returned entry (same ▸ member)
    · rcases List.mem_append.mp (grown ▸ member) with old | new
      · exact valued.returned entry old
      · rw [List.mem_singleton.mp new]
        exact valued.tasks _ List.mem_append_cons_self tx outcome rfl

end

/-! ## The answers of a server -/

/-- What holds of the channels in every pool that is reached. -/
structure Sound (pool : Pool Shared Task) : Prop where
  owned : Owned pool
  once : Once pool
  returnsOnce : ReturnsOnce pool
  valued : Valued pool

theorem sound_init : Sound ⟨.init, []⟩ where
  owned :=
    ⟨.init, fun _ _ found => (nomatch found), fun _ member => (nomatch member), fun _ member => (nomatch member)⟩
  once _ := Nat.zero_le _
  returnsOnce _ := Nat.zero_le _
  valued := ⟨fun _ member => (nomatch member), fun _ member => (nomatch member)⟩

theorem sound_begun {tasks : List Task} {task : Task} (sound : Sound ⟨shared, tasks⟩)
    (begins : task.begins = true) : Sound ⟨shared, tasks ++ [task]⟩ :=
  ⟨sound.owned.begun begins, sound.once.begun begins, sound.returnsOnce.begun begins,
    sound.valued.begun begins⟩

theorem sound_advanced {earlier later : List Task} {task : Task}
    (sound : Sound ⟨shared, earlier ++ task :: later⟩) :
    Sound ⟨(work sip shared task).2, earlier ++ (work sip shared task).1.toList ++ later⟩ :=
  ⟨sound.owned.advanced, sound.once.advanced, sound.returnsOnce.advanced, sound.valued.advanced⟩

theorem sound_reached {moves : List (Move Task)}
    (begins : ∀ task, .begin task ∈ moves → task.begins = true) : Sound (reached sip moves) :=
  TaskPool.invariant_final Sound (fun _ _ _ sound begun => sound_begun sound begun)
    (fun _ _ _ _ sound _ => sound_advanced sound) sound_init (guarded_run begins)

/-- How the calls of a server are answered. -/
structure Answered (shared : Shared) : Prop where
  /-- One answer at most goes into a channel. -/
  once : (shared.delivered.map Delivery.tx).Nodup
  /-- Of all operations an answer names the one that hears it. -/
  own : ∀ delivery ∈ shared.delivered, ∀ place operation, shared.operations[place]? = some operation →
    (operation.operationId = delivery.attempt.operationId ↔ place = delivery.tx)
  /-- The answer is of the kind that the operation waits for. -/
  kind : ∀ delivery ∈ shared.delivered, ∃ operation, shared.operations[delivery.tx]? = some operation ∧
    operation.kind = some delivery.attempt.kind
  returnedOnce : (shared.returned.map Prod.fst).Nodup
  value : ∀ tx delivery, (tx, .value delivery) ∈ shared.returned →
    delivery ∈ shared.delivered ∧ delivery.tx = tx

theorem Sound.answered {pool : Pool Shared Task} (sound : Sound pool)
    (few : pool.shared.operations.length ≤ 18446744073709551616) : Answered pool.shared where
  once := by
    refine List.nodup_iff_count_le_one.mpr fun tx => ?_
    have bound := Nat.le_trans (sound.once tx) (Bool.toNat_le _)
    simp only [tally, Shared.channels, List.count_append] at bound
    omega
  own delivery member place operation found := by
    have owns := sound.owned.delivered delivery member
    constructor
    · intro same
      exact sound.owned.numbered.place_unique few found owns same
    · rintro rfl
      have same := found.symm.trans owns
      rw [Option.some.injEq] at same
      rw [same]
      rfl
  kind delivery member := ⟨_, sound.owned.delivered delivery member, rfl⟩
  returnedOnce := by
    refine List.nodup_iff_count_le_one.mpr fun tx => ?_
    have bound := Nat.le_trans (sound.returnsOnce tx) (Bool.toNat_le _)
    simp only [tally] at bound
    omega
  value tx delivery member := sound.valued.returned (tx, .value delivery) member delivery rfl

/-- In any order of the steps of calls, events, the owner thread, the clean-up and the shutdown, a call
hears one answer at most, made for its own operation, and returns once with what it heard. -/
theorem calls_answered_once (sip : SipReaders) (moves : List (Move Task))
    (begins : ∀ task, .begin task ∈ moves → task.begins = true)
    (few : (reached sip moves).shared.operations.length ≤ 18446744073709551616) :
    Answered (reached sip moves).shared :=
  (sound_reached begins).answered few

/-- Readers that find no tags. -/
def noTags : SipReaders := ⟨fun _ => none, fun _ => none⟩

/-- The device answers the first operation. -/
def okEvent : SipRuntimeEvent :=
  ⟨.outboundResponse, some 1, some 200, some "MESSAGE", some "call", "", none, none, none, none, none, none⟩

/-- A message is sent, and answered twice. -/
def answeredTwice : List (Move Task) :=
  [.begin (.nextOperationId ⟨.message, true, 3, false⟩), .advance 0, .advance 0, .advance 0, .advance 0,
    .begin (.own true), .advance 1, .begin (.event okEvent false), .advance 1, .advance 1, .advance 1,
    .advance 0, .advance 0, .begin (.event okEvent false), .advance 0, .advance 0, .advance 0]

theorem calls_answered_once_message :
    Answered (reached noTags answeredTwice).shared ∧
      (reached noTags answeredTwice).shared.returned.map Prod.fst = [0] ∧
      (reached noTags answeredTwice).shared.delivered.map Delivery.tx = [0] := by
  refine ⟨calls_answered_once noTags answeredTwice ?_ (by decide +kernel), by decide +kernel,
    by decide +kernel⟩
  intro task member
  simp only [answeredTwice, List.mem_cons, List.not_mem_nil, or_false, Move.begin.injEq, reduceCtorEq,
    false_or] at member
  rcases member with rfl | rfl | rfl | rfl <;> rfl

end Gmv.Session.SipOperations
