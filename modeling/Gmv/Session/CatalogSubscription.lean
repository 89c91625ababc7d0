import Gmv.Session.Cache
import Gmv.Session.DeviceChannel
import Gmv.Session.Xml

/-!
# Catalog subscriptions

The one subscription that the signalling node keeps for a device: it begins with the
response to a SUBSCRIBE, is completed by that response and by the response to every
refresh, and lets a NOTIFY in when its dialog and its event are those of the subscription.
A begun subscription takes the next generation; later steps name the generation that they
belong to.
-/

namespace Gmv.Session

structure CatalogSubscriptionState where
  generation : UInt64
  callId : String
  seq : UInt32
  event : String
  expires : UInt32
  remoteTarget : String
  routeSet : List String
  fromHeader : String
  toHeader : String
  localTag : String
  remoteTag : String
  inflight : Bool
  deriving DecidableEq, Repr

structure CatalogSubscriptionCommand where
  generation : UInt64
  callId : String
  seq : UInt32
  event : String
  expires : UInt32
  remoteTarget : String
  routeSet : List String
  fromHeader : String
  toHeader : String
  deriving DecidableEq, Repr

/-- What a subscription begins with. -/
structure SubscriptionStart where
  callId : String
  seq : UInt32
  event : String
  expires : UInt32
  remoteTarget : String
  fromHeader : String
  toHeader : String
  localTag : String
  deriving DecidableEq, Repr

def SubscriptionStart.subscription (start : SubscriptionStart) (generation : UInt64) :
    CatalogSubscriptionState where
  generation := generation
  callId := start.callId
  seq := start.seq
  event := start.event
  expires := start.expires
  remoteTarget := start.remoteTarget
  routeSet := []
  fromHeader := start.fromHeader
  toHeader := start.toHeader
  localTag := start.localTag
  remoteTag := ""
  inflight := true

/-- What a response makes of a subscription. -/
structure Completion where
  remoteTarget : String
  routeSet : List String
  fromHeader : String
  toHeader : String
  remoteTag : String
  deriving DecidableEq, Repr

/-- The subscriptions, with the counter that numbers them. -/
structure Subscriptions where
  catalogSubscriptions : AList fun _ : String => CatalogSubscriptionState
  catalogSubscriptionGeneration : UInt64

/-! ## Event headers -/

/-- The parts of a header value, trimmed. -/
def headerParts (value : String) : List String :=
  (value.toList.splitOn ';').map fun part => Xml.trim (String.ofList part)

def splitOnce (separator : Char) (text : String) : Option (String × String) :=
  match text.toList.span (· != separator) with
  | (_, []) => none
  | (key, _ :: value) => some (String.ofList key, String.ofList value)

def eqIgnoreAsciiCase (one other : String) : Bool :=
  one.toList.map Char.toLower == other.toList.map Char.toLower

/-- The package of an event header and its `id`. -/
def eventParts (value : String) : String × Option String :=
  let parts := headerParts value
  (parts.headD "", parts.tail.findSome? fun part =>
    match splitOnce '=' part with
    | some (key, value) => if eqIgnoreAsciiCase (Xml.trim key) "id" then some (Xml.trim value) else none
    | none => none)

def catalogEventMatches (expected actual : String) : Bool :=
  let (expectedPackage, expectedId) := eventParts expected
  let (actualPackage, actualId) := eventParts actual
  eqIgnoreAsciiCase expectedPackage actualPackage && actualId.all fun id => expectedId == some id

theorem catalogEventMatches_self (event : String) : catalogEventMatches event event = true := by
  simp only [catalogEventMatches, eqIgnoreAsciiCase, BEq.rfl, Bool.true_and]
  cases (eventParts event).2 <;> simp

/-- The state of a Subscription-State header and the seconds that are left. -/
def parseSubscriptionState (value : String) : String × Option UInt32 :=
  let parts := headerParts value
  (parts.headD "", parts.tail.findSome? fun part =>
    match splitOnce '=' part with
    | some (key, value) =>
        if eqIgnoreAsciiCase key "expires" then
          (DeviceChannel.parseUnsigned 4294967295 (Xml.trim value)).map UInt32.ofNat
        else none
    | none => none)

namespace Subscriptions

def init : Subscriptions := ⟨∅, 1⟩

variable (subscriptions : Subscriptions)

def lookup (deviceId : String) : Option CatalogSubscriptionState :=
  subscriptions.catalogSubscriptions.lookup deviceId

def insert (deviceId : String) (subscription : CatalogSubscriptionState) : Subscriptions :=
  { subscriptions with
    catalogSubscriptions := subscriptions.catalogSubscriptions.insert deviceId subscription }

def erase (deviceId : String) : Subscriptions :=
  { subscriptions with catalogSubscriptions := subscriptions.catalogSubscriptions.erase deviceId }

@[simp]
theorem lookup_insert (name deviceId : String) (subscription : CatalogSubscriptionState) :
    (subscriptions.insert name subscription).lookup deviceId =
      if deviceId = name then some subscription else subscriptions.lookup deviceId := by
  rw [insert, lookup]
  split
  · next same => rw [same]; exact AList.lookup_insert _
  · next differs => exact AList.lookup_insert_ne differs

@[simp]
theorem lookup_erase (name deviceId : String) :
    (subscriptions.erase name).lookup deviceId =
      if deviceId = name then none else subscriptions.lookup deviceId := by
  rw [erase, lookup]
  split
  · next same => rw [same]; exact AList.lookup_erase ..
  · next differs => exact AList.lookup_erase_ne differs

/-- A subscription begins, unless the device has one. -/
def catalogSubscriptionBegin (deviceId : String) (start : SubscriptionStart) :
    Option UInt64 × Subscriptions :=
  match subscriptions.lookup deviceId with
  | some _ => (none, subscriptions)
  | none =>
      let generation := subscriptions.catalogSubscriptionGeneration
      (some generation,
        { subscriptions.insert deviceId (start.subscription generation) with
          catalogSubscriptionGeneration := generation + 1 })

/-- A subscription begins for a device that has none. -/
theorem begin_of_absent {name : String} (absent : subscriptions.lookup name = none)
    (start : SubscriptionStart) :
    ∃ after, subscriptions.catalogSubscriptionBegin name start =
        (some subscriptions.catalogSubscriptionGeneration, after) ∧
      ∀ deviceId, after.lookup deviceId =
        if deviceId = name then some (start.subscription subscriptions.catalogSubscriptionGeneration)
        else subscriptions.lookup deviceId := by
  rw [catalogSubscriptionBegin, absent]
  exact ⟨_, rfl, fun _ => subscriptions.lookup_insert ..⟩

/-- The change of a subscription that is still of a generation. -/
def changeOf (deviceId : String) (generation : UInt64)
    (change : CatalogSubscriptionState → CatalogSubscriptionState) : Bool × Subscriptions :=
  match subscriptions.lookup deviceId with
  | none => (false, subscriptions)
  | some subscription =>
      if subscription.generation = generation then
        (true, subscriptions.insert deviceId (change subscription))
      else (false, subscriptions)

theorem lookup_changeOf (name deviceId : String) (generation : UInt64)
    (change : CatalogSubscriptionState → CatalogSubscriptionState) :
    (subscriptions.changeOf name generation change).2.lookup deviceId =
      if deviceId = name then
        (subscriptions.lookup name).map fun subscription =>
          if subscription.generation = generation then change subscription else subscription
      else subscriptions.lookup deviceId := by
  rw [changeOf]
  by_cases same : deviceId = name
  · subst same
    cases found : subscriptions.lookup deviceId with
    | none => simp [found]
    | some subscription => by_cases isIts : subscription.generation = generation <;> simp [isIts, found]
  · cases subscriptions.lookup name with
    | none => simp [same]
    | some subscription => by_cases isIts : subscription.generation = generation <;> simp [isIts, same]

theorem changeOf_of_lookup {deviceId : String} {subscription : CatalogSubscriptionState}
    (found : subscriptions.lookup deviceId = some subscription)
    (change : CatalogSubscriptionState → CatalogSubscriptionState) :
    subscriptions.changeOf deviceId subscription.generation change =
      (true, subscriptions.insert deviceId (change subscription)) := by
  rw [changeOf, found]
  exact if_pos rfl

def catalogSubscriptionComplete (deviceId : String) (generation : UInt64) (completion : Completion) :
    Bool × Subscriptions :=
  subscriptions.changeOf deviceId generation fun subscription =>
    { subscription with
      remoteTarget := completion.remoteTarget
      routeSet := completion.routeSet
      fromHeader := completion.fromHeader
      toHeader := completion.toHeader
      remoteTag := completion.remoteTag
      inflight := false }

def catalogSubscriptionMarkFailed (deviceId : String) (generation : UInt64) : Bool × Subscriptions :=
  subscriptions.changeOf deviceId generation fun subscription => { subscription with inflight := false }

def catalogSubscriptionUpdateExpires (deviceId : String) (generation : UInt64) (expires : UInt32) :
    Bool × Subscriptions :=
  subscriptions.changeOf deviceId generation fun subscription => { subscription with expires := expires }

def catalogSubscriptionTakeRefresh (deviceId : String) (generation : UInt64) :
    Option CatalogSubscriptionCommand × Subscriptions :=
  match subscriptions.lookup deviceId with
  | none => (none, subscriptions)
  | some subscription =>
      if subscription.generation ≠ generation ∨ subscription.inflight then (none, subscriptions)
      else
        let seq := saturatingSucc32 subscription.seq
        (some
          { generation := generation
            callId := subscription.callId
            seq := seq
            event := subscription.event
            expires := subscription.expires
            remoteTarget := subscription.remoteTarget
            routeSet := subscription.routeSet
            fromHeader := subscription.fromHeader
            toHeader := subscription.toHeader },
          subscriptions.insert deviceId { subscription with seq := seq, inflight := true })

def catalogSubscriptionExpires (deviceId : String) (generation : UInt64) : Option UInt32 :=
  (subscriptions.lookup deviceId).bind fun subscription =>
    if subscription.generation = generation then some subscription.expires else none

/-- The check of a NOTIFY; the first tag that comes is kept. -/
def catalogSubscriptionValidateNotify (deviceId callId event : String)
    (remoteTag localTag : Option String) : Option UInt64 × Subscriptions :=
  match subscriptions.lookup deviceId with
  | none => (none, subscriptions)
  | some subscription =>
      if subscription.callId ≠ callId ∨ catalogEventMatches subscription.event event = false ∨
          localTag ≠ some subscription.localTag then (none, subscriptions)
      else
        match remoteTag with
        | none => (none, subscriptions)
        | some tag =>
            if subscription.remoteTag.isEmpty then
              (some subscription.generation,
                subscriptions.insert deviceId { subscription with remoteTag := tag })
            else if tag = subscription.remoteTag then (some subscription.generation, subscriptions)
            else (none, subscriptions)

/-- The removal of a subscription, of one generation or of any; its timer goes with it. -/
def catalogSubscriptionRemove (deviceId : String) (generation : Option UInt64) :
    Option CatalogSubscriptionState × Subscriptions :=
  match subscriptions.lookup deviceId with
  | none => (none, subscriptions)
  | some subscription =>
      if generation.all (subscription.generation == ·) then
        (some subscription, subscriptions.erase deviceId)
      else (none, subscriptions)

/-- A refresh is taken from a subscription of its generation that is not in flight, and leaves it in
flight. -/
theorem takeRefresh_cases (deviceId : String) (generation : UInt64) :
    (subscriptions.catalogSubscriptionTakeRefresh deviceId generation = (none, subscriptions) ∧
      ∀ subscription, subscriptions.lookup deviceId = some subscription →
        subscription.generation = generation → subscription.inflight = true) ∨
    ∃ command subscription,
      subscriptions.catalogSubscriptionTakeRefresh deviceId generation =
        (some command, subscriptions.insert deviceId
          { subscription with seq := saturatingSucc32 subscription.seq, inflight := true }) ∧
      subscriptions.lookup deviceId = some subscription ∧ subscription.generation = generation ∧
      command.generation = generation := by
  rw [catalogSubscriptionTakeRefresh]
  cases found : subscriptions.lookup deviceId with
  | none => exact Or.inl ⟨rfl, fun _ same => by cases same⟩
  | some subscription =>
      by_cases refused : subscription.generation ≠ generation ∨ subscription.inflight = true
      · refine Or.inl ⟨if_pos refused, ?_⟩
        rintro other same isOf
        cases same
        exact refused.resolve_left fun differs => differs isOf
      · obtain ⟨isOf, -⟩ := not_or.mp refused
        exact Or.inr ⟨_, subscription, if_neg refused, rfl, not_not.mp isOf, rfl⟩

/-- The removal of a subscription that is there and of the generation, if one is named. -/
theorem remove_cases (deviceId : String) (generation : Option UInt64) :
    (subscriptions.catalogSubscriptionRemove deviceId generation = (none, subscriptions) ∧
      ∀ subscription, subscriptions.lookup deviceId = some subscription →
        ∃ other, generation = some other ∧ subscription.generation ≠ other) ∨
    ∃ removed, subscriptions.catalogSubscriptionRemove deviceId generation =
        (some removed, subscriptions.erase deviceId) ∧
      subscriptions.lookup deviceId = some removed := by
  rw [catalogSubscriptionRemove]
  cases found : subscriptions.lookup deviceId with
  | none => exact Or.inl ⟨rfl, fun _ same => by cases same⟩
  | some subscription =>
      cases generation with
      | none => exact Or.inr ⟨subscription, rfl, rfl⟩
      | some generation =>
          by_cases isOf : subscription.generation = generation
          · exact Or.inr ⟨subscription, by simp [isOf], rfl⟩
          · refine Or.inl ⟨by simp [isOf], ?_⟩
            rintro other same
            cases same
            exact ⟨generation, rfl, isOf⟩

end Subscriptions

/-- The parts of a NOTIFY that its subscription decides on. -/
structure GbMessageEvent where
  callId : Option String
  event : Option String
  fromTag : Option String
  toTag : Option String
  subscriptionState : Option String
  deriving DecidableEq, Repr

/-- The check in `accept_catalog_notify`: the generation of the subscription that lets an event in. -/
def Subscriptions.admitNotify (subscriptions : Subscriptions) (deviceId : String)
    (event : GbMessageEvent) : Option UInt64 × Subscriptions :=
  match event.callId, event.event with
  | some callId, some header =>
      subscriptions.catalogSubscriptionValidateNotify deviceId callId header event.fromTag event.toTag
  | _, _ => (none, subscriptions)

/-- A NOTIFY that comes in does so for the subscription of its device, which changes in its tag only. -/
theorem Subscriptions.admitNotify_cases (subscriptions : Subscriptions) (deviceId : String)
    (event : GbMessageEvent) :
    subscriptions.admitNotify deviceId event = (none, subscriptions) ∨
    ∃ subscription tag, subscriptions.lookup deviceId = some subscription ∧
      event.fromTag = some tag ∧ (subscription.remoteTag ≠ "" → tag = subscription.remoteTag) ∧
      (subscriptions.admitNotify deviceId event).1 = some subscription.generation ∧
      ∀ name, (subscriptions.admitNotify deviceId event).2.lookup name =
        if name = deviceId then some { subscription with remoteTag := tag }
        else subscriptions.lookup name := by
  simp only [admitNotify]
  split
  · next callId header _ _ =>
      simp only [catalogSubscriptionValidateNotify]
      split
      · exact Or.inl rfl
      · next subscription found =>
          split
          · exact Or.inl rfl
          · split
            · exact Or.inl rfl
            · next tag isTag =>
                split
                · next unset =>
                    have empty : subscription.remoteTag = "" := by simpa using unset
                    exact Or.inr ⟨subscription, tag, found, isTag, fun isSet => absurd empty isSet,
                      rfl, fun name => subscriptions.lookup_insert ..⟩
                · split
                  · next same =>
                      refine Or.inr ⟨subscription, tag, found, isTag, fun _ => same, rfl, fun name => ?_⟩
                      split
                      · next isIts => rw [isIts, found, same]
                      · rfl
                  · exact Or.inl rfl
  · exact Or.inl rfl

/-! ## Responses -/

/-- The readers of header fields that the SIP library provides. -/
structure SipReaders where
  extractTag : String → Option String
  extractUri : String → Option String

structure SipResponseMetadata where
  callId : Option String
  cseq : Option UInt32
  contact : Option String
  fromHeader : Option String
  toHeader : Option String
  toTag : Option String
  expires : Option UInt32
  deriving DecidableEq, Repr

structure NativeSubscriptionMetadata where
  deviceId : String
  event : String
  expires : UInt32
  remoteTarget : String
  deriving DecidableEq, Repr

section

variable (sip : SipReaders)

/-- What `establish_native_subscription` begins and completes a subscription with. -/
def establishment (pending : NativeSubscriptionMetadata) (response : SipResponseMetadata) :
    Option (SubscriptionStart × Completion) := do
  let callId ← response.callId
  let cseq ← response.cseq
  let fromHeader ← response.fromHeader
  let toHeader ← response.toHeader
  let localTag ← sip.extractTag fromHeader
  let remoteTarget := (response.contact.bind sip.extractUri).getD pending.remoteTarget
  return ({ callId, seq := cseq, event := pending.event, expires := pending.expires, remoteTarget,
            fromHeader, toHeader, localTag },
          { remoteTarget, routeSet := [], fromHeader, toHeader,
            remoteTag := (sip.extractTag toHeader).getD "" })

/-- What `complete_catalog_subscription` completes a refresh with. -/
def refreshCompletion (command : CatalogSubscriptionCommand) (metadata : SipResponseMetadata) :
    Completion where
  remoteTarget := (metadata.contact.bind sip.extractUri).getD command.remoteTarget
  routeSet := []
  fromHeader := metadata.fromHeader.getD command.fromHeader
  toHeader := metadata.toHeader.getD command.toHeader
  remoteTag := metadata.toTag.getD ""

/-- `complete_catalog_subscription`; the seconds until the subscription expires. -/
def completeCatalogSubscription (subscriptions : Subscriptions) (deviceId : String)
    (command : CatalogSubscriptionCommand) (metadata : SipResponseMetadata) :
    Option UInt32 × Subscriptions :=
  match subscriptions.catalogSubscriptionComplete deviceId command.generation
      (refreshCompletion sip command metadata) with
  | (false, subscriptions) => (none, subscriptions)
  | (true, subscriptions) =>
      let expires := max (metadata.expires.getD command.expires) 1
      (some expires,
        (subscriptions.catalogSubscriptionUpdateExpires deviceId command.generation expires).2)

end

end Gmv.Session
