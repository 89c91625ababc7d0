import Gmv.Library.Runs
import Gmv.Session.CatalogRefresh

/-!
# Catalog subscriptions go on

A subscription that is in flight has a call of its generation, and one that is not has a timer or
a queued event, as long as no step of the way loses it.
-/

namespace Gmv.Session.CatalogRefresh

open Gmv.Library

/-- A subscription is in flight with a call, or something will begin one. -/
def Covered (world : World) (deviceId : String) (subscription : CatalogSubscriptionState) : Prop :=
  let key : SubscriptionKey := ⟨deviceId, subscription.generation⟩
  (subscription.inflight = true → Refreshing world key) ∧
    (subscription.inflight = true ∨ Armed world key ∨ Queued world key)

def Sound (world : World) : Prop :=
  ∀ deviceId subscription, world.lookup deviceId = some subscription →
    Covered world deviceId subscription

theorem Sound.progresses {world : World} (sound : Sound world) : Progresses world := by
  intro deviceId subscription found
  obtain ⟨runs, covered⟩ := sound deviceId subscription found
  rcases covered with inflight | waits
  · exact Or.inl ⟨inflight, runs inflight⟩
  · exact Or.inr waits

theorem Sound.init : Sound World.init := by
  intro deviceId subscription found
  cases found

/-- What a step leaves of the cover of a key. -/
structure Keeps (before after : World) (key : SubscriptionKey) : Prop where
  refreshing : Refreshing before key → Refreshing after key
  armed : Armed before key → Armed after key
  queued : Queued before key → Queued after key

theorem Covered.keep {before after : World} {deviceId : String}
    {subscription later : CatalogSubscriptionState} (covered : Covered before deviceId subscription)
    (sameGeneration : later.generation = subscription.generation)
    (sameInflight : later.inflight = subscription.inflight)
    (keeps : Keeps before after ⟨deviceId, subscription.generation⟩) :
    Covered after deviceId later := by
  rw [Covered, sameGeneration, sameInflight]
  exact ⟨fun inflight => keeps.refreshing (covered.1 inflight),
    covered.2.imp_right (Or.imp keeps.armed keeps.queued)⟩

section

variable {world : World} {deviceId : String} {subscription : CatalogSubscriptionState}

/-- What has just got a timer. -/
theorem covered_of_armed (rests : subscription.inflight = false)
    (armed : Armed world ⟨deviceId, subscription.generation⟩) : Covered world deviceId subscription := by
  refine ⟨fun inflight => ?_, Or.inr (Or.inl armed)⟩
  rw [rests] at inflight
  cases inflight

theorem armed_schedule (key : SubscriptionKey) (delay : Nat) :
    Armed (world.schedule key delay true) key := by
  simp [Armed, World.schedule]

/-- A timer of one key is no matter of the others. -/
theorem keeps_timers {key other : SubscriptionKey} (differs : other ≠ key) (timer : Option Nat)
    (subscriptions : Subscriptions) :
    Keeps world { world with
      subscriptions := subscriptions, timers := Function.update world.timers key timer } other where
  refreshing := id
  armed armed := by simpa [Armed, Function.update_of_ne differs] using armed
  queued := id

theorem Live.of_lookup (found : world.lookup deviceId = some subscription) :
    Live world ⟨deviceId, subscription.generation⟩ := by
  rw [Live, found, Option.map_some]

theorem Keeps.refl (key : SubscriptionKey) : Keeps world world key := ⟨id, id, id⟩

theorem Keeps.trans {middle after : World} {key : SubscriptionKey} (first : Keeps world middle key)
    (second : Keeps middle after key) : Keeps world after key :=
  ⟨second.refreshing ∘ first.refreshing, second.armed ∘ first.armed, second.queued ∘ first.queued⟩

section

variable {index : Nat} {worker : Worker} (rest : Option Worker)
  (found : world.workers[index]? = some worker) {key : SubscriptionKey}

include found

theorem mem_replaceWorker {other : Worker} (member : other ∈ world.workers) (differs : other ≠ worker) :
    other ∈ (world.replaceWorker index rest).workers := by
  rw [TaskPool.split_of_getElem? found] at member
  exact TaskPool.mem_advanced_of_ne member differs

theorem refreshing_replaceWorker (refreshing : Refreshing world key)
    (other : ∀ command, worker = .refreshing key.deviceId command →
      command.generation ≠ key.generation) :
    Refreshing (world.replaceWorker index rest) key := by
  obtain ⟨command, member, isOf⟩ := refreshing
  exact ⟨command, mem_replaceWorker rest found member fun same => other command same.symm isOf, isOf⟩

theorem queued_replaceWorker (queued : Queued world key)
    (other : worker ≠ .spawned (.refreshCatalogSubscription key)) :
    Queued (world.replaceWorker index rest) key := by
  rcases queued with inQueue | waits | spawned
  · exact Or.inl inQueue
  · exact Or.inr (Or.inl waits)
  · exact Or.inr (Or.inr (mem_replaceWorker rest found spawned other.symm))

end

/-! ## The parts of a refresh -/

/-- The subscriptions have changed in other respects only, and that of the key may have come to rest. -/
def Rested (before after : Subscriptions) (key : SubscriptionKey) : Prop :=
  ∀ deviceId later, after.lookup deviceId = some later →
    ∃ earlier, before.lookup deviceId = some earlier ∧ later.generation = earlier.generation ∧
      (later.inflight = true → earlier.inflight = true) ∧
      (⟨deviceId, earlier.generation⟩ ≠ key → later.inflight = earlier.inflight)

theorem Rested.changeOf {before after : Subscriptions} {key : SubscriptionKey}
    (rested : Rested before after key) {change : CatalogSubscriptionState → CatalogSubscriptionState}
    (sameGeneration : ∀ subscription, (change subscription).generation = subscription.generation)
    (rests : ∀ subscription, (change subscription).inflight = true → subscription.inflight = true) :
    Rested before (after.changeOf key.deviceId key.generation change).2 key := by
  intro deviceId later found
  rw [Subscriptions.lookup_changeOf] at found
  split at found
  · next isHere =>
      obtain ⟨middle, isMiddle, rfl⟩ := Option.map_eq_some_iff.mp found
      obtain ⟨earlier, isEarlier, same, comes, others⟩ := rested deviceId middle (isHere ▸ isMiddle)
      refine ⟨earlier, isEarlier, ?_, ?_, ?_⟩
      · split
        · rw [sameGeneration, same]
        · exact same
      · split
        · exact comes ∘ rests middle
        · exact comes
      · intro differs
        have otherGeneration : middle.generation ≠ key.generation := by
          rintro isOf
          exact differs (by rw [← same, isOf, isHere])
        rw [if_neg otherGeneration]
        exact others differs
  · exact rested deviceId later found

/-- The subscriptions have changed in other respects only. -/
def SameFlight (before after : Subscriptions) : Prop :=
  ∀ deviceId later, after.lookup deviceId = some later →
    ∃ earlier, before.lookup deviceId = some earlier ∧ later.generation = earlier.generation ∧
      later.inflight = earlier.inflight

theorem SameFlight.rested {before after : Subscriptions} (same : SameFlight before after)
    (key : SubscriptionKey) : Rested before after key := by
  intro deviceId later found
  obtain ⟨earlier, isEarlier, sameGeneration, sameInflight⟩ := same deviceId later found
  exact ⟨earlier, isEarlier, sameGeneration, fun inflight => sameInflight ▸ inflight,
    fun _ => sameInflight⟩

theorem SameFlight.refl (subscriptions : Subscriptions) : SameFlight subscriptions subscriptions :=
  fun _ later found => ⟨later, found, rfl, rfl⟩

theorem sameFlight_admitNotify (subscriptions : Subscriptions) (name : String)
    (event : GbMessageEvent) :
    SameFlight subscriptions (subscriptions.admitNotify name event).2 := by
  rcases subscriptions.admitNotify_cases name event with refused | ⟨other, tag, isIts, -, -, -, after⟩
  · rw [refused]
    exact SameFlight.refl subscriptions
  · intro deviceId later found
    rw [after] at found
    split at found
    · next isHere =>
        cases found
        exact ⟨other, isHere ▸ isIts, rfl, rfl⟩
    · exact ⟨later, found, rfl, rfl⟩

theorem Rested.updateExpires {before after : Subscriptions} {name : String} {generation : UInt64}
    (rested : Rested before after ⟨name, generation⟩) (expires : UInt32) :
    Rested before (after.catalogSubscriptionUpdateExpires name generation expires).2
      ⟨name, generation⟩ := by
  refine Rested.changeOf rested ?_ ?_
  · exact fun _ => rfl
  · exact fun _ => id

/-- A change after which a subscription is not in flight. -/
theorem rested_grounded (subscriptions : Subscriptions) (name : String) (generation : UInt64)
    {change : CatalogSubscriptionState → CatalogSubscriptionState}
    (same : ∀ subscription, (change subscription).generation = subscription.generation)
    (grounded : ∀ subscription, (change subscription).inflight = false) :
    Rested subscriptions (subscriptions.changeOf name generation change).2 ⟨name, generation⟩ := by
  refine Rested.changeOf ((SameFlight.refl subscriptions).rested ⟨name, generation⟩) same ?_
  intro subscription inflight
  rw [grounded] at inflight
  cases inflight

theorem rested_markFailed (subscriptions : Subscriptions) (name : String) (generation : UInt64) :
    Rested subscriptions (subscriptions.catalogSubscriptionMarkFailed name generation).2
      ⟨name, generation⟩ :=
  rested_grounded subscriptions name generation (fun _ => rfl) fun _ => rfl

theorem rested_complete (subscriptions : Subscriptions) (name : String) (generation : UInt64)
    (completion : Completion) :
    Rested subscriptions (subscriptions.catalogSubscriptionComplete name generation completion).2
      ⟨name, generation⟩ :=
  rested_grounded subscriptions name generation (fun _ => rfl) fun _ => rfl

section

variable (sound : Sound world)

include sound

theorem sound_sameFlight {subscriptions : Subscriptions}
    (same : SameFlight world.subscriptions subscriptions) :
    Sound { world with subscriptions := subscriptions } := by
  intro deviceId later found
  obtain ⟨earlier, isEarlier, sameGeneration, sameInflight⟩ := same deviceId later found
  exact (sound deviceId earlier isEarlier).keep sameGeneration sameInflight ⟨id, id, id⟩

/-- A subscription may come to rest when its timer is armed. -/
theorem sound_schedule {key : SubscriptionKey} {subscriptions : Subscriptions}
    (rested : Rested world.subscriptions subscriptions key) (delay : Nat) {taken : Bool}
    (takes : Live world key → taken = true) :
    Sound ({ world with subscriptions := subscriptions }.schedule key delay taken) := by
  intro deviceId later found
  obtain ⟨earlier, isEarlier, same, comes, others⟩ := rested deviceId later found
  have covered := sound deviceId earlier isEarlier
  by_cases isKey : (⟨deviceId, earlier.generation⟩ : SubscriptionKey) = key
  · subst isKey
    have took := takes (Live.of_lookup isEarlier)
    subst took
    rw [Covered, same]
    exact ⟨covered.1 ∘ comes, Or.inr (Or.inl (armed_schedule _ delay))⟩
  · exact covered.keep same (others isKey) (keeps_timers isKey _ _)

/-- A removed subscription takes its timer along. -/
theorem sound_remove (name : String) (generation : Option UInt64) :
    Sound (world.catalogSubscriptionRemove name generation) := by
  rcases world.subscriptions.remove_cases name generation with ⟨same, -⟩ | ⟨removed, gone, -⟩
  · rw [World.catalogSubscriptionRemove, same]
    exact sound
  · intro deviceId subscription found
    simp only [World.catalogSubscriptionRemove, gone, World.lookup, Subscriptions.lookup_erase] at found ⊢
    split at found
    · cases found
    · next differs =>
        refine (sound deviceId subscription found).keep rfl rfl (keeps_timers ?_ none _)
        exact fun same => differs (congrArg SubscriptionKey.deviceId same)

theorem sound_acceptCatalogNotify (name : String) (event : GbMessageEvent) {taken : Bool}
    (takes : reschedules world name event = true → taken = true) :
    Sound (world.acceptCatalogNotify name event taken).2 := by
  have same := sameFlight_admitNotify world.subscriptions name event
  rcases world.subscriptions.admitNotify_cases name event with refused | admitted
  · rw [World.acceptCatalogNotify, refused]
    exact sound
  · obtain ⟨subscription, tag, -, -, -, isIn, -⟩ := admitted
    cases notify : world.subscriptions.admitNotify name event with
    | mk generation subscriptions =>
        rw [notify] at same isIn
        subst isIn
        have here := sound_sameFlight sound same
        simp only [World.acceptCatalogNotify, notify]
        split
        · exact here
        · next state expires isState =>
            split
            · exact sound_remove here name _
            · next goesOn =>
                cases expires with
                | none => exact here
                | some expires =>
                    refine sound_schedule sound ((same.rested _).updateExpires (max expires 1)) _
                      fun _ => takes ?_
                    simp [reschedules, notify, isState, goesOn]

/-- A refresh that has failed is tried again. -/
theorem sound_failRefresh (name : String) (command : CatalogSubscriptionCommand) {taken : Bool}
    (takes : Live world ⟨name, command.generation⟩ → taken = true) :
    Sound (world.failRefresh name command taken) :=
  sound_schedule sound (rested_markFailed world.subscriptions name command.generation) _ takes

end

/-- A subscription of a key is at rest. -/
def AtRest (subscriptions : Subscriptions) (key : SubscriptionKey) : Prop :=
  ∀ subscription, subscriptions.lookup key.deviceId = some subscription →
    subscription.generation = key.generation → subscription.inflight = false

theorem atRest_changeOf (subscriptions : Subscriptions) (key : SubscriptionKey)
    {change : CatalogSubscriptionState → CatalogSubscriptionState}
    (rests : ∀ subscription, subscriptions.lookup key.deviceId = some subscription →
      subscription.generation = key.generation → (change subscription).inflight = false) :
    AtRest (subscriptions.changeOf key.deviceId key.generation change).2 key := by
  intro later found isOf
  rw [Subscriptions.lookup_changeOf, if_pos rfl] at found
  obtain ⟨earlier, isEarlier, rfl⟩ := Option.map_eq_some_iff.mp found
  split at isOf
  · next isIts =>
      rw [if_pos isIts]
      exact rests earlier isEarlier isIts
  · next differs => exact absurd isOf differs

variable (sip : SipReaders)

theorem sound_completeRefresh (sound : Sound world) (name : String)
    (command : CatalogSubscriptionCommand) (response : SipResponseResult) {taken : Bool}
    (takes : Live world ⟨name, command.generation⟩ → response.status ≠ 481 → taken = true) :
    Sound (world.completeRefresh sip name command response taken) ∧
      AtRest (world.completeRefresh sip name command response taken).subscriptions
        ⟨name, command.generation⟩ := by
  have failed (isOther : response.status ≠ 481) :
      Sound (world.failRefresh name command taken) ∧
        AtRest (world.failRefresh name command taken).subscriptions ⟨name, command.generation⟩ :=
    ⟨sound_failRefresh sound name command fun live => takes live isOther,
      atRest_changeOf world.subscriptions ⟨name, command.generation⟩ fun _ _ _ => rfl⟩
  rw [World.completeRefresh]
  split
  · next succeeds =>
      have isOther : response.status ≠ 481 := by
        rintro same
        simp [SipResponseResult.isSuccess, same] at succeeds
      have rested := rested_complete world.subscriptions name command.generation
        (refreshCompletion sip command response.metadata)
      have atRest : AtRest (world.subscriptions.catalogSubscriptionComplete name command.generation
          (refreshCompletion sip command response.metadata)).2 ⟨name, command.generation⟩ :=
        atRest_changeOf world.subscriptions ⟨name, command.generation⟩ fun _ _ _ => rfl
      simp only [completeCatalogSubscription]
      cases complete : world.subscriptions.catalogSubscriptionComplete name command.generation
          (refreshCompletion sip command response.metadata) with
      | mk done subscriptions =>
          rw [complete] at rested atRest
          cases done with
          | false => exact failed isOther
          | true =>
              exact ⟨sound_schedule sound (rested.updateExpires _) _ fun live => takes live isOther,
                atRest_changeOf subscriptions ⟨name, command.generation⟩ atRest⟩
  · split
    · refine ⟨sound_remove sound name _, fun later found isOf => ?_⟩
      rcases world.subscriptions.remove_cases name (some command.generation) with
        ⟨same, others⟩ | ⟨removed, gone, -⟩
      · simp only [World.catalogSubscriptionRemove, same] at found
        obtain ⟨generation, isIts, differs⟩ := others later found
        cases isIts
        exact absurd isOf differs
      · simp [World.catalogSubscriptionRemove, gone] at found
    · next isOther => exact failed isOther

/-- A subscription that has begun is completed at once and gets its timer. -/
theorem sound_establish (sound : Sound world) (pending : NativeSubscriptionMetadata)
    (response : SipResponseMetadata) {taken : Bool}
    (takes : (establishment sip pending response).isSome →
      world.lookup pending.deviceId = none → taken = true) :
    Sound (world.establish sip pending response taken).2 := by
  simp only [World.establish]
  cases established : establishment sip pending response with
  | none => exact sound
  | some both =>
      obtain ⟨start, completion⟩ := both
      cases found : world.subscriptions.lookup pending.deviceId with
      | some subscription =>
          simp only [Subscriptions.catalogSubscriptionBegin, found]
          exact sound
      | none =>
          have took := takes (by rw [established]; rfl) found
          subst took
          obtain ⟨after, begins, begun⟩ := world.subscriptions.begin_of_absent found start
          have isHere := begun pending.deviceId
          rw [if_pos rfl] at isHere
          have completes : after.catalogSubscriptionComplete pending.deviceId
              world.subscriptions.catalogSubscriptionGeneration completion = (true, _) :=
            after.changeOf_of_lookup isHere _
          simp only [begins, completes]
          intro deviceId later isLater
          simp only [World.lookup, World.scheduleCatalogRefresh, World.schedule,
            Subscriptions.catalogSubscriptionUpdateExpires, Subscriptions.lookup_changeOf,
            Subscriptions.lookup_insert] at isLater
          split at isLater
          · next isDevice =>
              subst isDevice
              simp [SubscriptionStart.subscription] at isLater
              subst isLater
              exact covered_of_armed rfl (armed_schedule _ _)
          · next differs =>
              rw [begun, if_neg differs] at isLater
              refine (sound deviceId later isLater).keep rfl rfl (keeps_timers ?_ _ _)
              exact fun same => differs (congrArg SubscriptionKey.deviceId same)

/-! ## Every step -/

theorem workers_completeRefresh (name : String) (command : CatalogSubscriptionCommand)
    (response : SipResponseResult) (taken : Bool) :
    (world.completeRefresh sip name command response taken).workers = world.workers := by
  rw [World.completeRefresh]
  split
  · split <;> rfl
  · split
    · rw [World.catalogSubscriptionRemove]
      split <;> rfl
    · rfl

/-- A worker whose refresh is over. -/
theorem sound_endRefresh (sound : Sound world) {index : Nat} {name : String}
    {command : CatalogSubscriptionCommand}
    (found : world.workers[index]? = some (.refreshing name command))
    (atRest : AtRest world.subscriptions ⟨name, command.generation⟩) :
    Sound (world.replaceWorker index none) := by
  intro deviceId subscription isThere
  obtain ⟨runs, covered⟩ := sound deviceId subscription isThere
  refine ⟨fun inflight => refreshing_replaceWorker none found (runs inflight) fun other same => ?_,
    covered.imp_right (Or.imp_right fun queued => queued_replaceWorker none found queued nofun)⟩
  rintro isOf
  cases same
  rw [atRest subscription isThere isOf.symm] at inflight
  cases inflight

/-- A worker begins with the refresh of an event, and the refresh is sent. -/
theorem sound_start (sound : Sound world) {index : Nat} {key : SubscriptionKey}
    (found : world.workers[index]? = some (.spawned (.refreshCatalogSubscription key))) {start : Start}
    (sends : (world.subscriptions.catalogSubscriptionTakeRefresh key.deviceId key.generation).1.isSome →
      start = .sent) :
    Sound ((world.refreshCatalogSubscription key start).2.replaceWorker index
      (world.refreshCatalogSubscription key start).1) := by
  rcases world.subscriptions.takeRefresh_cases key.deviceId key.generation with
    ⟨refused, inflight⟩ | ⟨command, subscription, taken, isIts, isOf, sameGeneration⟩
  · simp only [World.refreshCatalogSubscription, refused]
    intro deviceId subscription isThere
    obtain ⟨runs, covered⟩ := sound deviceId subscription isThere
    refine ⟨fun inflight => refreshing_replaceWorker none found (runs inflight) nofun, ?_⟩
    by_cases isKey : (⟨deviceId, subscription.generation⟩ : SubscriptionKey) = key
    · subst isKey
      exact Or.inl (inflight subscription isThere rfl)
    · refine covered.imp_right (Or.imp_right fun queued => queued_replaceWorker none found queued ?_)
      rintro same
      cases same
      exact isKey rfl
  · have isSent := sends (by rw [taken]; rfl)
    subst isSent
    simp only [World.refreshCatalogSubscription, taken]
    intro deviceId later isThere
    simp only [World.lookup, World.replaceWorker, Subscriptions.lookup_insert] at isThere
    split at isThere
    · next isHere =>
        subst isHere
        cases isThere
        have runs : .refreshing key.deviceId command ∈ world.workers.take index ++
            [.refreshing key.deviceId command] ++ world.workers.drop (index + 1) :=
          List.mem_append_left _ (List.mem_append_right _ (List.mem_singleton_self _))
        exact ⟨fun _ => ⟨command, runs, sameGeneration.trans isOf.symm⟩, Or.inl rfl⟩
    · next differs =>
        refine (sound deviceId later isThere).keep rfl rfl ⟨fun refreshing => ?_, id, fun queued => ?_⟩
        · exact refreshing_replaceWorker _ found refreshing nofun
        · refine queued_replaceWorker _ found queued fun same => ?_
          cases same
          exact differs rfl

/-- A step that leaves the subscriptions and the cover of their keys. -/
theorem sound_keeps (sound : Sound world) {after : World}
    (same : after.subscriptions = world.subscriptions)
    (keeps : ∀ key, Live world key → Keeps world after key) : Sound after := by
  intro deviceId subscription isThere
  rw [World.lookup, same] at isThere
  exact (sound deviceId subscription isThere).keep rfl rfl (keeps _ (Live.of_lookup isThere))

theorem keeps_trySend (event : Event) (key : SubscriptionKey) : Keeps world (world.trySend event) key := by
  rw [World.trySend]
  split
  · refine ⟨id, id, ?_⟩
    rintro (inQueue | others)
    · exact Or.inl (List.mem_append_left _ inQueue)
    · exact Or.inr others
  · exact Keeps.refl key

/-- No event of a subscription is dropped with what waits for a worker. -/
theorem keeps_dropWaiting (noneWaits : NoneWaits world) {key : SubscriptionKey} (live : Live world key) :
    Keeps world { world with waiting := none } key where
  refreshing := id
  armed := id
  queued := by
    rintro (inQueue | waits | spawned)
    · exact Or.inl inQueue
    · exact absurd live (noneWaits key (by rw [waits]; rfl))
    · exact Or.inr (Or.inr spawned)

/-- A timer that fires puts its event into the channel. -/
theorem sound_fire (sound : Sound world) (noneWaits : NoneWaits world) {key : SubscriptionKey}
    (room : Live world key → world.queue.length < eventChannel) :
    Sound ({ world with
      waiting := none, timers := Function.update world.timers key none }.trySend
        (.refreshCatalogSubscription key)) := by
  intro deviceId subscription isThere
  have same : world.lookup deviceId = some subscription := by
    simp only [World.trySend] at isThere
    split at isThere <;> exact isThere
  have live := Live.of_lookup same
  have covered := sound deviceId subscription same
  have dropped := keeps_dropWaiting noneWaits live
  by_cases isKey : (⟨deviceId, subscription.generation⟩ : SubscriptionKey) = key
  · subst isKey
    simp only [World.trySend, if_pos (room live)]
    exact ⟨covered.1, Or.inr (Or.inr (Or.inl (List.mem_append_right _ (List.mem_singleton_self _))))⟩
  · exact covered.keep rfl rfl ((dropped.trans (keeps_timers isKey none _)).trans (keeps_trySend _ _))

/-- The next event of the channel goes to a worker or waits for one. -/
theorem keeps_receive (key : SubscriptionKey) : Keeps world (step sip world .receive).2 key := by
  simp only [step]
  split
  · next event queue waiting isQueue =>
      have hands {after : World} (isHanded : .refreshCatalogSubscription key = event → Queued after key)
          (rest : .refreshCatalogSubscription key ∈ queue → Queued after key)
          (spawned : .spawned (.refreshCatalogSubscription key) ∈ world.workers → Queued after key)
          (queued : Queued world key) : Queued after key := by
        rcases queued with inQueue | waits | isSpawned
        · rw [isQueue] at inQueue
          exact (List.mem_cons.mp inQueue).elim isHanded rest
        · rw [waiting] at waits
          cases waits
        · exact spawned isSpawned
      split
      · refine ⟨?_, id, hands ?_ ?_ ?_⟩
        · rintro ⟨command, member, isOf⟩
          exact ⟨command, List.mem_append_left _ member, isOf⟩
        · rintro rfl
          exact Or.inr (Or.inr (List.mem_append_right _ (List.mem_singleton_self _)))
        · exact Or.inl
        · exact fun member => Or.inr (Or.inr (List.mem_append_left _ member))
      · refine ⟨id, id, hands ?_ ?_ ?_⟩
        · rintro rfl
          exact Or.inr (Or.inl rfl)
        · exact Or.inl
        · exact fun member => Or.inr (Or.inr member)
  · exact Keeps.refl key

/-- The event that has waited goes to a worker. -/
theorem keeps_permit (key : SubscriptionKey) : Keeps world (step sip world .permit).2 key := by
  simp only [step]
  split
  · next event waiting =>
      split
      · refine ⟨?_, id, ?_⟩
        · rintro ⟨command, member, isOf⟩
          exact ⟨command, List.mem_append_left _ member, isOf⟩
        · rintro (inQueue | waits | spawned)
          · exact Or.inl inQueue
          · cases waiting.symm.trans waits
            exact Or.inr (Or.inr (List.mem_append_right _ (List.mem_singleton_self _)))
          · exact Or.inr (Or.inr (List.mem_append_left _ spawned))
      · exact Keeps.refl key
  · exact Keeps.refl key

theorem subscriptions_receive : (step sip world .receive).2.subscriptions = world.subscriptions := by
  simp only [step]
  split
  · split <;> rfl
  · rfl

theorem subscriptions_permit : (step sip world .permit).2.subscriptions = world.subscriptions := by
  simp only [step]
  split
  · split <;> rfl
  · rfl

theorem sound_step (sound : Sound world) (act : Act) (careful : Careful sip world act) :
    Sound (step sip world act).2 := by
  cases act with
  | subscribed pending response taken =>
      simp only [step, World.completeNativeSubscription]
      split
      · next succeeds => exact sound_establish sip sound pending response.metadata (careful succeeds)
      · exact sound
  | notify deviceId event taken => exact sound_acceptCatalogNotify sound deviceId event careful
  | remove deviceId => exact sound_remove sound deviceId none
  | fire fired =>
      cases fired with
      | catalogSubscription key => exact sound_fire sound careful.1 careful.2
      | eventful =>
          exact sound_keeps sound (by simp only [step, World.trySend]; split <;> rfl) fun key live =>
            (keeps_dropWaiting careful live).trans (keeps_trySend .other key)
      | quiet => exact sound_keeps sound rfl fun key live => keeps_dropWaiting careful live
  | submit =>
      exact sound_keeps sound (by simp only [step, World.trySend]; split <;> rfl) fun key _ =>
        keeps_trySend .other key
  | receive =>
      exact sound_keeps sound (subscriptions_receive sip) fun key _ => keeps_receive sip key
  | permit => exact sound_keeps sound (subscriptions_permit sip) fun key _ => keeps_permit sip key
  | start index start =>
      simp only [step]
      split
      · next key found => exact sound_start sound found (careful key (by rw [found]; rfl))
      · exact sound
  | respond index response taken =>
      simp only [step]
      split
      · next deviceId command found =>
          obtain ⟨kept, atRest⟩ := sound_completeRefresh sip sound deviceId command response
            (careful _ (by rw [found]; rfl))
          exact sound_endRefresh kept ((workers_completeRefresh ..).symm ▸ found) atRest
      · exact sound
  | timeout index taken =>
      simp only [step]
      split
      · next deviceId command found =>
          refine sound_endRefresh (sound_failRefresh sound deviceId command
            (careful _ (by rw [found]; rfl))) found ?_
          exact atRest_changeOf world.subscriptions ⟨deviceId, command.generation⟩ fun _ _ _ => rfl
      · exact sound
  | finish index =>
      simp only [step]
      split
      · next found =>
          refine sound_keeps sound rfl fun key _ => ⟨fun refreshing => ?_, id, fun queued => ?_⟩
          · exact refreshing_replaceWorker none found refreshing nofun
          · exact queued_replaceWorker none found queued nofun
      · exact sound

end

/-- In any run whose steps lose no timer, event or refresh of a subscription, every subscription is in
flight with a call, or it has a timer, or its event is queued. -/
theorem progresses_of_careful (sip : SipReaders) (acts : List Act)
    (careful : ∀ entry ∈ Runs.run (step sip) World.init acts,
      Careful sip entry.before entry.action) :
    ∀ entry ∈ Runs.run (step sip) World.init acts, Progresses entry.after := by
  intro entry member
  have sound := Runs.invariant_run Sound (Careful sip)
    (fun _ act sound careful => sound_step sip sound act careful) Sound.init careful entry member
  exact sound.2.progresses

/-- Readers of tags and of bare URIs. -/
def plainReaders : SipReaders where
  extractTag header := (headerParts header).findSome? fun part =>
    match splitOnce '=' part with
    | some (key, value) => if key = "tag" then some value else none
    | none => none
  extractUri contact := some contact

def firstPending : NativeSubscriptionMetadata :=
  ⟨"34020000001110000001", "Catalog", 3600, "sip:34020000001110000001@192.0.2.20:5060"⟩

def firstResponse : SipResponseResult where
  status := 200
  metadata :=
    { callId := some "catalog-call-id"
      cseq := some 20
      contact := none
      fromHeader := some "<sip:platform@example.com>;tag=local-tag"
      toHeader := some "<sip:device@example.com>;tag=remote-tag"
      toTag := some "remote-tag"
      expires := some 3600 }

def firstKey : SubscriptionKey := ⟨"34020000001110000001", 1⟩

/-- A subscription up to the start of its first refresh. -/
def untilRefresh (start : Start) : List Act :=
  [.subscribed firstPending firstResponse true, .fire (.catalogSubscription firstKey), .receive,
    .start 0 start]

theorem progresses_untilRefresh :
    (Runs.final (step plainReaders) World.init
      (untilRefresh .sent ++ [.respond 0 firstResponse true])).lookup firstKey.deviceId ≠ none ∧
    ∀ entry ∈ Runs.run (step plainReaders) World.init
      (untilRefresh .sent ++ [.respond 0 firstResponse true]), Progresses entry.after :=
  ⟨by decide +kernel, progresses_of_careful plainReaders _ (by decide +kernel)⟩

/-- The device is not connected when its refresh begins. -/
theorem progresses_disconnected :
    ((Runs.final (step plainReaders) World.init (untilRefresh .disconnected)).lookup
        firstKey.deviceId).map CatalogSubscriptionState.inflight = some false ∧
      ¬Progresses (Runs.final (step plainReaders) World.init (untilRefresh .disconnected)) := by
  let last := Runs.final (step plainReaders) World.init (untilRefresh .disconnected)
  have inflight : (last.lookup firstKey.deviceId).map CatalogSubscriptionState.inflight = some false := by
    decide +kernel
  have generation : (last.lookup firstKey.deviceId).map CatalogSubscriptionState.generation = some 1 := by
    decide +kernel
  refine ⟨inflight, fun progresses => ?_⟩
  obtain ⟨subscription, found, rests⟩ := Option.map_eq_some_iff.mp inflight
  have isFirst : subscription.generation = 1 := by
    rw [found] at generation
    exact Option.some.inj generation
  have covered := progresses firstKey.deviceId subscription found
  rw [isFirst, rests] at covered
  rcases covered with ⟨inflight, -⟩ | armed | queued
  · cases inflight
  · have timer : (last.timers firstKey).isSome = false := by decide +kernel
    exact absurd (timer.symm.trans armed) (by decide)
  · obtain ⟨empty, noneWaits, idle⟩ :
        last.queue = [] ∧ last.waiting = none ∧ last.workers = [] := by decide +kernel
    rcases queued with inQueue | waits | spawned
    · exact List.not_mem_nil (empty ▸ inQueue)
    · exact nomatch noneWaits.symm.trans waits
    · exact List.not_mem_nil (idle ▸ spawned)

end Gmv.Session.CatalogRefresh
