import Gmv.Library.Runs
import Gmv.Session.CatalogSubscription

/-!
# Which NOTIFYs a catalog subscription lets in

The tag of the remote party comes with a response or with the first NOTIFY.  From then on
only NOTIFYs with that tag come in, as long as every later response has it, too: a response
replaces the tag, also by none.
-/

namespace Gmv.Session.CatalogNotify

open Gmv.Library

/-- An operation on the subscriptions, each under the lock of its entry. -/
inductive Op where
  | begin (deviceId : String) (start : SubscriptionStart)
  | complete (deviceId : String) (generation : UInt64) (completion : Completion)
  | takeRefresh (deviceId : String) (generation : UInt64)
  | markFailed (deviceId : String) (generation : UInt64)
  | updateExpires (deviceId : String) (generation : UInt64) (expires : UInt32)
  | notify (deviceId : String) (event : GbMessageEvent)
  | remove (deviceId : String) (generation : Option UInt64)
  deriving DecidableEq, Repr

/-- One operation, with the generation that it begins or lets a NOTIFY in for. -/
def step (subscriptions : Subscriptions) : Op → Option UInt64 × Subscriptions
  | .begin deviceId start => subscriptions.catalogSubscriptionBegin deviceId start
  | .complete deviceId generation completion =>
      (none, (subscriptions.catalogSubscriptionComplete deviceId generation completion).2)
  | .takeRefresh deviceId generation =>
      (none, (subscriptions.catalogSubscriptionTakeRefresh deviceId generation).2)
  | .markFailed deviceId generation =>
      (none, (subscriptions.catalogSubscriptionMarkFailed deviceId generation).2)
  | .updateExpires deviceId generation expires =>
      (none, (subscriptions.catalogSubscriptionUpdateExpires deviceId generation expires).2)
  | .notify deviceId event => subscriptions.admitNotify deviceId event
  | .remove deviceId generation =>
      (none, (subscriptions.catalogSubscriptionRemove deviceId generation).2)

/-- From when a subscription has the tag of the remote party on, and as long as it is there,
only NOTIFYs with that tag come in. -/
def Pins (ops : List Op) : Prop :=
  ∀ earlier meanwhile later, ops = earlier ++ meanwhile ++ later →
    ∀ deviceId subscription,
      (Runs.final step Subscriptions.init earlier).lookup deviceId = some subscription →
      subscription.remoteTag ≠ "" →
      (∀ entry ∈ Runs.run step (Runs.final step Subscriptions.init earlier) meanwhile,
        (entry.after.lookup deviceId).map CatalogSubscriptionState.generation =
          some subscription.generation) →
      ∀ event, ((Runs.final step Subscriptions.init (earlier ++ meanwhile)).admitNotify deviceId
        event).1.isSome → event.fromTag = some subscription.remoteTag

/-- A response for a subscription that has a tag comes with that tag. -/
def SameTag (subscriptions : Subscriptions) : Op → Prop
  | .complete deviceId generation completion =>
      ∀ subscription ∈ subscriptions.lookup deviceId, subscription.generation = generation →
        subscription.remoteTag ≠ "" → completion.remoteTag = subscription.remoteTag
  | _ => True

section

variable {subscriptions : Subscriptions} {deviceId : String} {subscription : CatalogSubscriptionState}

/-- A subscription with a tag lets in what has its tag only. -/
theorem fromTag_of_admitted (found : subscriptions.lookup deviceId = some subscription)
    (pinned : subscription.remoteTag ≠ "") {event : GbMessageEvent}
    (admitted : (subscriptions.admitNotify deviceId event).1.isSome) :
    event.fromTag = some subscription.remoteTag := by
  rcases subscriptions.admitNotify_cases deviceId event with refused | ⟨other, tag, isIts, isTag, same, -⟩
  · rw [refused] at admitted
    cases admitted
  · obtain rfl := Option.some.inj (found.symm.trans isIts)
    rw [isTag, same pinned]

/-- What belongs to the dialog of a subscription and has its tag comes in. -/
theorem admits_own (found : subscriptions.lookup deviceId = some subscription) :
    (subscriptions.admitNotify deviceId
      ⟨some subscription.callId, some subscription.event, some subscription.remoteTag,
        some subscription.localTag, none⟩).1.isSome := by
  simp only [Subscriptions.admitNotify, Subscriptions.catalogSubscriptionValidateNotify, found,
    catalogEventMatches_self]
  by_cases isSet : subscription.remoteTag.isEmpty <;> simp [isSet]

/-- A subscription that is put in the place of one with the same tag. -/
theorem remoteTag_insert (found : subscriptions.lookup deviceId = some subscription) {name : String}
    {put later : CatalogSubscriptionState}
    (same : name = deviceId → put.remoteTag = subscription.remoteTag)
    (stays : (subscriptions.insert name put).lookup deviceId = some later) :
    later.remoteTag = subscription.remoteTag := by
  rw [Subscriptions.lookup_insert] at stays
  split at stays
  · next isIts => rw [← Option.some.inj stays]; exact same isIts.symm
  · rw [found] at stays
    rw [Option.some.inj stays]

/-- An operation keeps the tag of a subscription that stays. -/
theorem remoteTag_step {op : Op} (found : subscriptions.lookup deviceId = some subscription)
    (pinned : subscription.remoteTag ≠ "") (same : SameTag subscriptions op)
    {later : CatalogSubscriptionState} (stays : (step subscriptions op).2.lookup deviceId = some later) :
    later.remoteTag = subscription.remoteTag := by
  have unchanged (stays : subscriptions.lookup deviceId = some later) :
      later.remoteTag = subscription.remoteTag := by
    rw [found] at stays
    rw [Option.some.inj stays]
  have changed (name : String) (generation : UInt64)
      {change : CatalogSubscriptionState → CatalogSubscriptionState}
      (keeps : name = deviceId → subscription.generation = generation →
        (change subscription).remoteTag = subscription.remoteTag)
      (stays : (subscriptions.changeOf name generation change).2.lookup deviceId = some later) :
      later.remoteTag = subscription.remoteTag := by
    rw [Subscriptions.changeOf] at stays
    cases isThere : subscriptions.lookup name with
    | none => exact unchanged (by simpa [isThere] using stays)
    | some other =>
        by_cases isOf : other.generation = generation
        · simp only [isThere, if_pos isOf] at stays
          refine remoteTag_insert found (fun isIts => ?_) stays
          obtain rfl : other = subscription := by
            rw [isIts, found] at isThere
            exact (Option.some.inj isThere).symm
          exact keeps isIts isOf
        · exact unchanged (by simpa [isThere, isOf] using stays)
  cases op with
  | begin name start =>
      simp only [step, Subscriptions.catalogSubscriptionBegin] at stays
      split at stays
      · exact unchanged stays
      · next absent =>
          refine remoteTag_insert found (fun isIts => ?_) stays
          rw [isIts, found] at absent
          cases absent
  | complete name generation completion =>
      exact changed name generation (fun isIts isOf => same subscription (isIts ▸ found) isOf pinned) stays
  | takeRefresh name generation =>
      rcases subscriptions.takeRefresh_cases name generation with
        ⟨same, -⟩ | ⟨command, other, taken, isIts, -⟩
      · exact unchanged (by simpa only [step, same] using stays)
      · simp only [step, taken] at stays
        refine remoteTag_insert found (fun isHere => ?_) stays
        rw [isHere, found] at isIts
        rw [Option.some.inj isIts]
  | markFailed name generation => exact changed name generation (fun _ _ => rfl) stays
  | updateExpires name generation expires => exact changed name generation (fun _ _ => rfl) stays
  | notify name event =>
      rcases subscriptions.admitNotify_cases name event with
        refused | ⟨other, tag, isIts, -, sameTag, -, after⟩
      · exact unchanged (by simpa only [step, refused] using stays)
      · simp only [step, after] at stays
        split at stays
        · next isHere =>
            obtain rfl := Option.some.inj (found.symm.trans (isHere ▸ isIts))
            rw [← Option.some.inj stays]
            exact sameTag pinned
        · exact unchanged stays
  | remove name generation =>
      rcases subscriptions.remove_cases name generation with ⟨same, -⟩ | ⟨removed, gone, -⟩
      · exact unchanged (by simpa only [step, same] using stays)
      · simp only [step, gone, Subscriptions.lookup_erase] at stays
        split at stays
        · cases stays
        · exact unchanged stays

end

/-- A response with another tag takes its place. -/
theorem remoteTag_of_not_sameTag {subscriptions : Subscriptions} {op : Op}
    (differs : ¬SameTag subscriptions op) :
    ∃ deviceId subscription later, subscriptions.lookup deviceId = some subscription ∧
      subscription.remoteTag ≠ "" ∧ (step subscriptions op).2.lookup deviceId = some later ∧
      later.generation = subscription.generation ∧ later.remoteTag ≠ subscription.remoteTag := by
  cases op with
  | complete deviceId generation completion =>
      simp only [SameTag, Option.mem_def, not_forall] at differs
      obtain ⟨subscription, found, isOf, pinned, other⟩ := differs
      have changed : (step subscriptions (.complete deviceId generation completion)).2.lookup deviceId =
          some { subscription with
            remoteTarget := completion.remoteTarget, routeSet := completion.routeSet,
            fromHeader := completion.fromHeader, toHeader := completion.toHeader,
            remoteTag := completion.remoteTag, inflight := false } := by
        simp only [step, Subscriptions.catalogSubscriptionComplete, Subscriptions.lookup_changeOf,
          if_true, found, Option.map_some, if_pos isOf]
      exact ⟨deviceId, subscription, _, found, pinned, changed, rfl, other⟩
  | _ => exact absurd trivial differs

/-- In any run of operations, a subscription with a tag lets in only NOTIFYs with its tag exactly
when every response for a subscription with a tag comes with that tag. -/
theorem pins_iff_sameTag (ops : List Op) :
    Pins ops ↔ ∀ entry ∈ Runs.run step Subscriptions.init ops, SameTag entry.before entry.action := by
  constructor
  · intro pins entry member
    obtain ⟨earlier, op, later, split, rfl⟩ := Runs.exists_split_of_mem member
    by_contra differs
    simp only [Runs.transition] at differs
    obtain ⟨deviceId, subscription, changed, found, pinned, isThere, sameGeneration, other⟩ :=
      remoteTag_of_not_sameTag differs
    have after : Runs.final step Subscriptions.init (earlier ++ [op]) =
        (step (Runs.final step Subscriptions.init earlier) op).2 := by
      rw [Runs.final_append]
      rfl
    have admitted := admits_own isThere
    rw [← after] at admitted
    have tag := pins earlier [op] later (by rw [split]; simp) deviceId subscription found pinned
      (by simpa [Runs.transition, isThere] using sameGeneration) _ admitted
    exact other (Option.some.inj tag)
  · rintro same earlier meanwhile later rfl deviceId subscription found pinned stays event admitted
    let Inv (subscriptions : Subscriptions) : Prop :=
      ∃ current, subscriptions.lookup deviceId = some current ∧
        current.remoteTag = subscription.remoteTag
    have guarded : ∀ entry ∈ Runs.run step (Runs.final step Subscriptions.init earlier) meanwhile,
        SameTag entry.before entry.action ∧
          ((step entry.before entry.action).2.lookup deviceId).isSome := by
      intro entry member
      have isStep := Runs.mem_run member
      refine ⟨same entry ?_, ?_⟩
      · rw [List.append_assoc, Runs.run_append, Runs.run_append]
        exact List.mem_append_right _ (List.mem_append_left _ member)
      · have isThere := stays entry member
        rw [isStep] at isThere
        exact Option.isSome_map ▸ Option.isSome_iff_exists.mpr ⟨_, isThere⟩
    have keep : ∀ subscriptions op, Inv subscriptions →
        (SameTag subscriptions op ∧ ((step subscriptions op).2.lookup deviceId).isSome) →
        Inv (step subscriptions op).2 := by
      rintro subscriptions op ⟨current, isThere, sameTag⟩ ⟨guard, some'⟩
      obtain ⟨next, isNext⟩ := Option.isSome_iff_exists.mp some'
      refine ⟨next, isNext, ?_⟩
      rw [remoteTag_step isThere (by rw [sameTag]; exact pinned) guard isNext, sameTag]
    obtain ⟨current, isThere, sameTag⟩ :=
      Runs.invariant_final Inv _ keep ⟨subscription, found, rfl⟩ guarded
    rw [← Runs.final_append] at isThere
    rw [← sameTag]
    exact fromTag_of_admitted isThere (by rw [sameTag]; exact pinned) admitted

def subscribedDevice : String := "34020000001110000001"

def firstStart : SubscriptionStart where
  callId := "notify-call-id"
  seq := 30
  event := "Catalog;id=789"
  expires := 3600
  remoteTarget := "sip:device@192.0.2.20:5060"
  fromHeader := "<sip:platform@example.com>;tag=local-tag"
  toHeader := "<sip:device@example.com>"
  localTag := "local-tag"

def firstCompletion : Completion where
  remoteTarget := "sip:device@192.0.2.20:5060"
  routeSet := []
  fromHeader := "<sip:platform@example.com>;tag=local-tag"
  toHeader := "<sip:device@example.com>;tag=remote-tag"
  remoteTag := "remote-tag"

/-- A refresh response without a To header. -/
def bareResponse : SipResponseMetadata := ⟨some "notify-call-id", some 31, none, none, none, none, none⟩

/-- The subscription is refreshed, and the response has no To header. -/
def bareRefresh (sip : SipReaders) : List Op :=
  let refreshed := Runs.final step Subscriptions.init
    [.begin subscribedDevice firstStart, .complete subscribedDevice 1 firstCompletion]
  [.begin subscribedDevice firstStart, .complete subscribedDevice 1 firstCompletion,
    .takeRefresh subscribedDevice 1] ++
    (refreshed.catalogSubscriptionTakeRefresh subscribedDevice 1).1.toList.map fun command =>
      .complete subscribedDevice 1 (refreshCompletion sip command bareResponse)

def noReaders : SipReaders := ⟨fun _ => none, fun _ => none⟩

/-- A NOTIFY of another party. -/
def strangeNotify : GbMessageEvent :=
  ⟨some "notify-call-id", some "Catalog;id=789", some "other-tag", some "local-tag", none⟩

/-- The subscription had the tag, and after the refresh it lets another one in. -/
theorem pins_bareRefresh :
    ((Runs.final step Subscriptions.init ((bareRefresh noReaders).take 2)).lookup
        subscribedDevice).map CatalogSubscriptionState.remoteTag = some "remote-tag" ∧
      ((Runs.final step Subscriptions.init (bareRefresh noReaders)).admitNotify subscribedDevice
        strangeNotify).1 = some 1 ∧ ¬Pins (bareRefresh noReaders) := by
  have admitted : ((Runs.final step Subscriptions.init (bareRefresh noReaders)).admitNotify
      subscribedDevice strangeNotify).1 = some 1 := by decide +kernel
  refine ⟨by decide +kernel, admitted, fun pins => ?_⟩
  have tag := pins ((bareRefresh noReaders).take 2) ((bareRefresh noReaders).drop 2) []
    (by decide +kernel) subscribedDevice
    ⟨1, "notify-call-id", 30, "Catalog;id=789", 3600, "sip:device@192.0.2.20:5060", [],
      "<sip:platform@example.com>;tag=local-tag", "<sip:device@example.com>;tag=remote-tag",
      "local-tag", "remote-tag", false⟩
    (by decide +kernel) (by decide) (by decide +kernel) strangeNotify
    (by rw [List.take_append_drop, admitted]; rfl)
  exact absurd tag (by decide)

end Gmv.Session.CatalogNotify
