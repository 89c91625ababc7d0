import Gmv.Library.TaskPool
import Gmv.Session.CatalogSubscription

/-!
# What keeps a catalog subscription going

A subscription is refreshed when its timer fires: the event goes through a bounded channel to a
worker, which sends the refresh and waits for its response.  The response, a rejection or a
timeout arms the timer again.  The model runs the stretches between two waits as one step: what
the SIP runtime does with a response, what the scheduler does with a timer, and each part of a
refresh.
-/

namespace Gmv.Session.CatalogRefresh

open Gmv.Library

def maxWorkerPool : Nat := 128
def eventChannel : Nat := 256

/-- `TimeScheduleKey::CatalogSubscription`. -/
structure SubscriptionKey where
  deviceId : String
  generation : UInt64
  deriving DecidableEq, Repr

inductive Event where
  | refreshCatalogSubscription (key : SubscriptionKey)
  | other
  deriving DecidableEq, Repr

def Event.key : Event → Option SubscriptionKey
  | .refreshCatalogSubscription key => some key
  | .other => none

/-- A worker, with an event that it has not begun with or with a refresh that waits for its response. -/
inductive Worker where
  | spawned (event : Event)
  | refreshing (deviceId : String) (command : CatalogSubscriptionCommand)
  deriving DecidableEq, Repr

/-- The key of the refresh that a worker is to begin. -/
def Worker.spawnedKey : Worker → Option SubscriptionKey
  | .spawned event => event.key
  | .refreshing .. => none

/-- The key of the refresh whose response a worker waits for. -/
def Worker.refreshingKey : Worker → Option SubscriptionKey
  | .spawned _ => none
  | .refreshing deviceId command => some ⟨deviceId, command.generation⟩

/-- The subscriptions, their timers with the seconds they were armed for, the channel of events, the
event that waits for a worker and the workers. -/
structure World where
  subscriptions : Subscriptions
  timers : SubscriptionKey → Option Nat
  queue : List Event
  waiting : Option Event
  workers : List Worker

structure SipResponseResult where
  status : UInt16
  metadata : SipResponseMetadata
  deriving DecidableEq, Repr

def SipResponseResult.isSuccess (response : SipResponseResult) : Bool :=
  200 ≤ response.status && response.status < 300

/-- How far a refresh comes. -/
inductive Start where
  | disconnected
  | noRuntime
  | refused
  | sent
  deriving DecidableEq, Repr

def catalogRefreshDelay (expires : UInt32) : Nat :=
  let advance := max 1 (min (expires.toNat / 10) 30)
  max (expires.toNat - advance) 1

def catalogRetryDelay (expires : UInt32) : Nat := max 1 (min expires.toNat 30)

namespace World

def init : World := ⟨Subscriptions.init, fun _ => none, [], none, []⟩

variable (world : World)

def lookup (deviceId : String) : Option CatalogSubscriptionState :=
  world.subscriptions.lookup deviceId

/-- `remove_register` and `insert_register`, which the scheduler may refuse. -/
def schedule (key : SubscriptionKey) (delay : Nat) (taken : Bool) : World :=
  { world with timers := Function.update world.timers key (if taken then some delay else none) }

def scheduleCatalogRefresh (key : SubscriptionKey) (expires : UInt32) (taken : Bool) : World :=
  world.schedule key (catalogRefreshDelay expires) taken

def scheduleCatalogRetry (key : SubscriptionKey) (expires : UInt32) (taken : Bool) : World :=
  world.schedule key (catalogRetryDelay expires) taken

def catalogSubscriptionRemove (deviceId : String) (generation : Option UInt64) : World :=
  match world.subscriptions.catalogSubscriptionRemove deviceId generation with
  | (none, _) => world
  | (some removed, subscriptions) =>
      { world with
        subscriptions := subscriptions
        timers := Function.update world.timers ⟨deviceId, removed.generation⟩ none }

def markFailed (deviceId : String) (generation : UInt64) : World :=
  { world with
    subscriptions := (world.subscriptions.catalogSubscriptionMarkFailed deviceId generation).2 }

/-- `try_send`. -/
def trySend (event : Event) : World :=
  if world.queue.length < eventChannel then { world with queue := world.queue ++ [event] } else world

/-- A worker goes on, or ends. -/
def replaceWorker (index : Nat) (rest : Option Worker) : World :=
  { world with workers := world.workers.take index ++ rest.toList ++ world.workers.drop (index + 1) }

/-- `accept_catalog_notify`. -/
def acceptCatalogNotify (deviceId : String) (event : GbMessageEvent) (taken : Bool) : Bool × World :=
  match world.subscriptions.admitNotify deviceId event with
  | (none, _) => (false, world)
  | (some generation, subscriptions) =>
      let world := { world with subscriptions := subscriptions }
      match event.subscriptionState.map parseSubscriptionState with
      | none => (true, world)
      | some (state, expires) =>
          if eqIgnoreAsciiCase state "terminated" then
            (true, world.catalogSubscriptionRemove deviceId (some generation))
          else
            match expires with
            | none => (true, world)
            | some expires =>
                let expires := max expires 1
                let subscriptions :=
                  (subscriptions.catalogSubscriptionUpdateExpires deviceId generation expires).2
                (true, { world with subscriptions := subscriptions }.scheduleCatalogRefresh
                  ⟨deviceId, generation⟩ expires taken)

/-- The part of `refresh_catalog_subscription` before its wait. -/
def refreshCatalogSubscription (key : SubscriptionKey) (start : Start) : Option Worker × World :=
  match world.subscriptions.catalogSubscriptionTakeRefresh key.deviceId key.generation with
  | (none, _) => (none, world)
  | (some command, subscriptions) =>
      let world := { world with subscriptions := subscriptions }
      match start with
      | .disconnected | .refused => (none, world.markFailed key.deviceId key.generation)
      | .noRuntime => (none, world)
      | .sent => (some (.refreshing key.deviceId command), world)

/-- The timeout of a refresh. -/
def failRefresh (deviceId : String) (command : CatalogSubscriptionCommand) (taken : Bool) : World :=
  (world.markFailed deviceId command.generation).scheduleCatalogRetry
    ⟨deviceId, command.generation⟩ command.expires taken

section

variable (sip : SipReaders)

/-- `establish_native_subscription`. -/
def establish (pending : NativeSubscriptionMetadata) (response : SipResponseMetadata) (taken : Bool) :
    Bool × World :=
  match establishment sip pending response with
  | none => (false, world)
  | some (start, completion) =>
      match world.subscriptions.catalogSubscriptionBegin pending.deviceId start with
      | (none, _) => (true, world)
      | (some generation, subscriptions) =>
          match subscriptions.catalogSubscriptionComplete pending.deviceId generation completion with
          | (false, subscriptions) =>
              (false, { world with subscriptions := subscriptions }.catalogSubscriptionRemove
                pending.deviceId (some generation))
          | (true, subscriptions) =>
              let expires := max (response.expires.getD pending.expires) 1
              let subscriptions := (subscriptions.catalogSubscriptionUpdateExpires pending.deviceId
                generation expires).2
              (true, { world with subscriptions := subscriptions }.scheduleCatalogRefresh
                ⟨pending.deviceId, generation⟩ expires taken)

/-- `complete_native_subscription`. -/
def completeNativeSubscription (pending : NativeSubscriptionMetadata) (response : SipResponseResult)
    (taken : Bool) : World :=
  if response.isSuccess then (world.establish sip pending response.metadata taken).2 else world

/-- `complete_refresh`. -/
def completeRefresh (deviceId : String) (command : CatalogSubscriptionCommand)
    (response : SipResponseResult) (taken : Bool) : World :=
  if response.isSuccess then
    match completeCatalogSubscription sip world.subscriptions deviceId command response.metadata with
    | (some expires, subscriptions) =>
        { world with subscriptions := subscriptions }.scheduleCatalogRefresh
          ⟨deviceId, command.generation⟩ expires taken
    | (none, _) => world.failRefresh deviceId command taken
  else if response.status = 481 then
    world.catalogSubscriptionRemove deviceId (some command.generation)
  else world.failRefresh deviceId command taken

end

end World

/-- A timer that fires: that of a subscription, one whose event goes through the channel as well,
or another one. -/
inductive Fired where
  | catalogSubscription (key : SubscriptionKey)
  | eventful
  | quiet
  deriving DecidableEq, Repr

/-- A step.  `taken` says whether the scheduler takes the timer that the step gives it. -/
inductive Act where
  /-- The response to a SUBSCRIBE. -/
  | subscribed (pending : NativeSubscriptionMetadata) (response : SipResponseResult) (taken : Bool)
  | notify (deviceId : String) (event : GbMessageEvent) (taken : Bool)
  /-- A registration or a reset of the device. -/
  | remove (deviceId : String)
  /-- The loop of `schedule_event` takes a timer; an event that waits for a worker is dropped. -/
  | fire (fired : Fired)
  /-- Another task submits an event. -/
  | submit
  | receive
  | permit
  | start (index : Nat) (start : Start)
  | respond (index : Nat) (response : SipResponseResult) (taken : Bool)
  | timeout (index : Nat) (taken : Bool)
  /-- A worker is done with another event. -/
  | finish (index : Nat)
  deriving DecidableEq, Repr

def step (sip : SipReaders) (world : World) : Act → Unit × World
  | .subscribed pending response taken =>
      ((), world.completeNativeSubscription sip pending response taken)
  | .notify deviceId event taken => ((), (world.acceptCatalogNotify deviceId event taken).2)
  | .remove deviceId => ((), world.catalogSubscriptionRemove deviceId none)
  | .fire fired =>
      let world := { world with waiting := none }
      match fired with
      | .catalogSubscription key =>
          ((), { world with timers := Function.update world.timers key none }.trySend
            (.refreshCatalogSubscription key))
      | .eventful => ((), world.trySend .other)
      | .quiet => ((), world)
  | .submit => ((), world.trySend .other)
  | .receive =>
      match world.waiting, world.queue with
      | none, event :: queue =>
          if world.workers.length < maxWorkerPool then
            ((), { world with queue := queue, workers := world.workers ++ [.spawned event] })
          else ((), { world with queue := queue, waiting := some event })
      | _, _ => ((), world)
  | .permit =>
      match world.waiting with
      | some event =>
          if world.workers.length < maxWorkerPool then
            ((), { world with waiting := none, workers := world.workers ++ [.spawned event] })
          else ((), world)
      | none => ((), world)
  | .start index start =>
      match world.workers[index]? with
      | some (.spawned (.refreshCatalogSubscription key)) =>
          let (rest, world) := world.refreshCatalogSubscription key start
          ((), world.replaceWorker index rest)
      | _ => ((), world)
  | .respond index response taken =>
      match world.workers[index]? with
      | some (.refreshing deviceId command) =>
          ((), (world.completeRefresh sip deviceId command response taken).replaceWorker index none)
      | _ => ((), world)
  | .timeout index taken =>
      match world.workers[index]? with
      | some (.refreshing deviceId command) =>
          ((), (world.failRefresh deviceId command taken).replaceWorker index none)
      | _ => ((), world)
  | .finish index =>
      match world.workers[index]? with
      | some (.spawned .other) => ((), world.replaceWorker index none)
      | _ => ((), world)

/-! ## What a subscription waits for -/

def Refreshing (world : World) (key : SubscriptionKey) : Prop :=
  ∃ command, .refreshing key.deviceId command ∈ world.workers ∧ command.generation = key.generation

def Armed (world : World) (key : SubscriptionKey) : Prop := (world.timers key).isSome

/-- The event of a key is in the channel, waits for a worker or is with one that has not begun. -/
def Queued (world : World) (key : SubscriptionKey) : Prop :=
  .refreshCatalogSubscription key ∈ world.queue ∨
    world.waiting = some (.refreshCatalogSubscription key) ∨
    .spawned (.refreshCatalogSubscription key) ∈ world.workers

/-- Every subscription is in flight with a call of its generation, or it has a timer, or its event
is queued. -/
def Progresses (world : World) : Prop :=
  ∀ deviceId subscription, world.lookup deviceId = some subscription →
    let key : SubscriptionKey := ⟨deviceId, subscription.generation⟩
    (subscription.inflight = true ∧ Refreshing world key) ∨ Armed world key ∨ Queued world key

/-- A key is that of a subscription that is there. -/
def Live (world : World) (key : SubscriptionKey) : Prop :=
  (world.lookup key.deviceId).map CatalogSubscriptionState.generation = some key.generation

instance (world : World) (key : SubscriptionKey) : Decidable (Live world key) :=
  inferInstanceAs (Decidable (_ = _))

/-- No event of a subscription waits for a worker. -/
def NoneWaits (world : World) : Prop := ∀ key ∈ world.waiting.bind Event.key, ¬Live world key

instance (world : World) : Decidable (NoneWaits world) :=
  inferInstanceAs (Decidable (∀ key ∈ world.waiting.bind Event.key, ¬Live world key))

/-- A NOTIFY gives its subscription a new timer. -/
def reschedules (world : World) (deviceId : String) (event : GbMessageEvent) : Bool :=
  (world.subscriptions.admitNotify deviceId event).1.isSome &&
    ((event.subscriptionState.map parseSubscriptionState).any fun (state, expires) =>
      !eqIgnoreAsciiCase state "terminated" && expires.isSome)

/-- The scheduler takes every timer of a subscription, its event finds room in the channel and is
not dropped while it waits for a worker, and every refresh is sent. -/
def Careful (sip : SipReaders) (world : World) : Act → Prop
  | .subscribed pending response taken =>
      response.isSuccess = true → (establishment sip pending response.metadata).isSome →
        world.lookup pending.deviceId = none → taken = true
  | .notify deviceId event taken => reschedules world deviceId event = true → taken = true
  | .fire (.catalogSubscription key) =>
      NoneWaits world ∧ (Live world key → world.queue.length < eventChannel)
  | .fire .eventful | .fire .quiet => NoneWaits world
  | .start index start => ∀ key ∈ world.workers[index]?.bind Worker.spawnedKey,
      (world.subscriptions.catalogSubscriptionTakeRefresh key.deviceId key.generation).1.isSome →
        start = .sent
  | .respond index response taken => ∀ key ∈ world.workers[index]?.bind Worker.refreshingKey,
      Live world key → response.status ≠ 481 → taken = true
  | .timeout index taken => ∀ key ∈ world.workers[index]?.bind Worker.refreshingKey,
      Live world key → taken = true
  | .remove _ | .submit | .receive | .permit | .finish _ => True

instance (sip : SipReaders) (world : World) (act : Act) : Decidable (Careful sip world act) :=
  match act with
  | .subscribed .. => inferInstanceAs (Decidable (_ → _ → _ → _))
  | .notify .. => inferInstanceAs (Decidable (_ → _))
  | .fire (.catalogSubscription _) => inferInstanceAs (Decidable (_ ∧ (_ → _)))
  | .fire .eventful | .fire .quiet => inferInstanceAs (Decidable (NoneWaits world))
  | .start index _ =>
      inferInstanceAs (Decidable (∀ key ∈ world.workers[index]?.bind Worker.spawnedKey, _ → _))
  | .respond index _ _ =>
      inferInstanceAs (Decidable (∀ key ∈ world.workers[index]?.bind Worker.refreshingKey, _ → _ → _))
  | .timeout index _ =>
      inferInstanceAs (Decidable (∀ key ∈ world.workers[index]?.bind Worker.refreshingKey, _ → _))
  | .remove _ | .submit | .receive | .permit | .finish _ => isTrue trivial

end Gmv.Session.CatalogRefresh
