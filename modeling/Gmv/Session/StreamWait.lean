import Gmv.Library.Runs

/-!
# Waiting for a stream to register

The end of `start_invite_stream`, from the request `stream_init_ext` on, beside
the media node's `stream_register` callback for the same stream and the timer
that expires the wait.  The set-up registers its wait only after the request has
been answered and the stream is in the map; the callback looks the wait up and
then sends to it.
-/

namespace Gmv.Session.StreamWait

open Gmv.Library

/-- The part of a `BaseStreamInfo` that the set-up reads. -/
structure BaseStreamInfo where
  proxyAddr : String
  deriving DecidableEq, Repr

/-- Why a set-up fails. -/
inductive SetupError where
  | streamInitExt
  | streamDialogExists
  | streamNotReceived
  deriving DecidableEq, Repr

/-- Where `start_invite_stream` stands. -/
inductive Setup where
  | streamInitExt
  | streamMapInsert
  | insertStreamWait
  | recv
  | removeState (received : Option BaseStreamInfo)
  | returned (outcome : Except SetupError String)
  deriving DecidableEq

/-- Where `stream_register` stands; `trySend` knows whether the wait was found. -/
inductive Hook where
  | touchDurableDialog
  | lookup
  | trySend (found : Bool)
  | returned
  deriving DecidableEq, Repr

/-- The wait of the stream in the cache, by its deadline, the messages in its
channel, and the two calls. -/
structure State where
  now : Nat
  streamWait : Option Nat
  channel : List (Option BaseStreamInfo)
  setup : Setup
  hook : Hook
  vacant : Bool
  deriving DecidableEq

/-- The seconds that a set-up waits. -/
def expires : Nat := 8

/-- The capacity of the channel. -/
def capacity : Nat := 8

inductive Action where
  | streamInitExt (accepted : Bool)
  | streamMapInsert
  | insertStreamWait
  | recv
  | removeState
  | touchDurableDialog
  | lookup
  | trySend
  | purgeExpiredKeys
  | elapse (seconds : Nat)
  deriving DecidableEq, Repr

/-- `stream_init_ext` has been sent and the callback is on its way. -/
def start (now : Nat) (vacant : Bool) : State :=
  ⟨now, none, [], .streamInitExt, .touchDurableDialog, vacant⟩

/-- `try_send`: a full channel refuses the message. -/
def trySend (channel : List (Option BaseStreamInfo)) (message : Option BaseStreamInfo) :
    List (Option BaseStreamInfo) :=
  if channel.length < capacity then channel ++ [message] else channel

/-- The steps of `start_invite_stream`. -/
def setupStep (state : State) : Action → State
  | .streamInitExt accepted =>
      if state.setup = .streamInitExt then
        { state with
          setup := if accepted then .streamMapInsert else .returned (.error .streamInitExt) }
      else state
  | .streamMapInsert =>
      if state.setup = .streamMapInsert then
        if state.vacant then { state with setup := .insertStreamWait, vacant := false }
        else { state with setup := .returned (.error .streamDialogExists) }
      else state
  | .insertStreamWait =>
      if state.setup = .insertStreamWait then
        { state with streamWait := some (state.now + expires), setup := .recv }
      else state
  | .recv =>
      if state.setup = .recv then
        match state.channel with
        | [] => state
        | message :: rest => { state with channel := rest, setup := .removeState message }
      else state
  | .removeState =>
      match state.setup with
      | .removeState (some info) =>
          { state with streamWait := none, setup := .returned (.ok info.proxyAddr) }
      | .removeState none =>
          { state with streamWait := none, setup := .returned (.error .streamNotReceived) }
      | _ => state
  | _ => state

/-- The steps of `stream_register` with code 200. -/
def hookStep (info : BaseStreamInfo) (state : State) : Action → State
  | .touchDurableDialog =>
      if state.hook = .touchDurableDialog then { state with hook := .lookup } else state
  | .lookup =>
      if state.hook = .lookup then { state with hook := .trySend state.streamWait.isSome }
      else state
  | .trySend =>
      match state.hook with
      | .trySend true =>
          { state with channel := trySend state.channel (some info), hook := .returned }
      | .trySend false => { state with hook := .returned }
      | _ => state
  | _ => state

/-- The timer takes an expired wait and sends `None` to it. -/
def purgeExpiredKeys (state : State) : State :=
  match state.streamWait with
  | some expire =>
      if expire ≤ state.now then
        { state with streamWait := none, channel := trySend state.channel none }
      else state
  | none => state

def step (info : BaseStreamInfo) (state : State) (action : Action) : Unit × State :=
  ((), match action with
  | .touchDurableDialog | .lookup | .trySend => hookStep info state action
  | .purgeExpiredKeys => purgeExpiredKeys state
  | .elapse seconds => { state with now := state.now + seconds }
  | _ => setupStep state action)

/-! ## What the two calls know of each other -/

/-- The callback sends to a wait that is still registered. -/
def Delivers (entry : Runs.Transition State Action Unit) : Prop :=
  entry.action = .trySend ∧ entry.before.hook = .trySend true ∧ entry.before.streamWait.isSome = true

/-- What the set-up can still learn, given whether the callback has been heard. -/
def Expects (info : BaseStreamInfo) (heard : Prop) (state : State) : Setup → Prop
  | .streamInitExt | .streamMapInsert | .insertStreamWait =>
      state.streamWait = none ∧ state.channel = [] ∧ state.hook ≠ .trySend true ∧ ¬ heard
  | .recv =>
      (state.streamWait.isSome = true ∧ state.channel = [] ∧ ¬ heard) ∨
        (state.channel.head? = some (some info) ∧ heard) ∨
        (state.streamWait = none ∧ state.channel.head? = some none ∧ ¬ heard)
  | .removeState (some received) => received = info ∧ heard
  | .returned (.ok proxyAddr) => proxyAddr = info.proxyAddr ∧ heard
  | .removeState none | .returned (.error _) => state.streamWait = none ∧ ¬ heard

/-- The invariant of both calls. -/
structure Knows (info : BaseStreamInfo) (heard : Prop) (state : State) : Prop where
  once : heard → state.hook = .returned
  expects : Expects info heard state state.setup

theorem start_knows (info : BaseStreamInfo) (now : Nat) (vacant : Bool) :
    Knows info False (start now vacant) := by
  refine ⟨False.elim, rfl, rfl, ?_, not_false⟩
  intro same
  cases same

variable {info : BaseStreamInfo} {heard : Prop} {state : State}

theorem trySend_head {channel : List (Option BaseStreamInfo)} {first : Option BaseStreamInfo}
    (head : channel.head? = some first) (message : Option BaseStreamInfo) :
    (trySend channel message).head? = some first := by
  rw [trySend]
  split
  · rw [List.head?_append, head]
    rfl
  · exact head

theorem setupStep_knows (knows : Knows info heard state) (action : Action) :
    Knows info heard (setupStep state action) := by
  obtain ⟨once, expects⟩ := knows
  cases action with
  | streamInitExt accepted =>
      rw [setupStep]
      split
      · rename_i atStart
        rw [atStart] at expects
        obtain ⟨unregistered, empty, unsent, unheard⟩ := expects
        cases accepted with
        | true => exact ⟨once, unregistered, empty, unsent, unheard⟩
        | false => exact ⟨once, unregistered, unheard⟩
      · exact ⟨once, expects⟩
  | streamMapInsert =>
      rw [setupStep]
      split
      · rename_i atInsert
        rw [atInsert] at expects
        obtain ⟨unregistered, empty, unsent, unheard⟩ := expects
        split
        · exact ⟨once, unregistered, empty, unsent, unheard⟩
        · exact ⟨once, unregistered, unheard⟩
      · exact ⟨once, expects⟩
  | insertStreamWait =>
      rw [setupStep]
      split
      · rename_i atWait
        rw [atWait] at expects
        exact ⟨once, Or.inl ⟨rfl, expects.2.1, expects.2.2.2⟩⟩
      · exact ⟨once, expects⟩
  | recv =>
      rw [setupStep]
      split
      · rename_i atRecv
        split
        · exact ⟨once, expects⟩
        · rename_i message rest queued
          rw [atRecv] at expects
          refine ⟨once, ?_⟩
          rcases expects with ⟨_, empty, _⟩ | ⟨head, isHeard⟩ | ⟨purged, head, unheard⟩
          · rw [queued] at empty
            cases empty
          · rw [queued] at head
            cases head
            exact ⟨rfl, isHeard⟩
          · rw [queued] at head
            cases head
            exact ⟨purged, unheard⟩
      · exact ⟨once, expects⟩
  | removeState =>
      rw [setupStep]
      split
      · rename_i received atRemove
        rw [atRemove] at expects
        exact ⟨once, congrArg BaseStreamInfo.proxyAddr expects.1, expects.2⟩
      · rename_i atRemove
        rw [atRemove] at expects
        exact ⟨once, rfl, expects.2⟩
      · exact ⟨once, expects⟩
  | _ => exact ⟨once, expects⟩

/-- The deadline passes: the wait goes and `None` comes behind what is there. -/
theorem purgeExpiredKeys_knows (knows : Knows info heard state) :
    Knows info heard (purgeExpiredKeys state) := by
  obtain ⟨once, expects⟩ := knows
  rw [purgeExpiredKeys]
  split
  · rename_i expire registered
    split
    · refine ⟨once, ?_⟩
      have unpurged : state.streamWait ≠ none := by
        rw [registered]
        exact Option.some_ne_none expire
      dsimp only
      cases phase : state.setup with
      | recv =>
          rw [phase] at expects
          rcases expects with ⟨_, empty, unheard⟩ | ⟨head, isHeard⟩ | ⟨purged, _⟩
          · refine Or.inr (Or.inr ⟨rfl, ?_, unheard⟩)
            change (trySend state.channel none).head? = _
            rw [empty]
            rfl
          · exact Or.inr (Or.inl ⟨trySend_head head none, isHeard⟩)
          · exact absurd purged unpurged
      | removeState received =>
          rw [phase] at expects
          cases received with
          | none => exact absurd expects.1 unpurged
          | some info => exact expects
      | returned outcome =>
          rw [phase] at expects
          cases outcome with
          | error failure => exact absurd expects.1 unpurged
          | ok proxyAddr => exact expects
      | _ =>
          rw [phase] at expects
          exact absurd expects.1 unpurged
    · exact ⟨once, expects⟩
  · exact ⟨once, expects⟩

/-- The callback moves on without sending anything. -/
theorem Knows.hook_moved (knows : Knows info heard state) {hook : Hook}
    (unheard : heard → hook = .returned)
    (idle : state.streamWait = none → hook ≠ .trySend true) :
    Knows info heard { state with hook := hook } := by
  obtain ⟨_, expects⟩ := knows
  refine ⟨unheard, ?_⟩
  dsimp only
  cases phase : state.setup with
  | recv =>
      rw [phase] at expects
      exact expects
  | removeState received =>
      rw [phase] at expects
      cases received with
      | none => exact expects
      | some info => exact expects
  | returned outcome =>
      rw [phase] at expects
      cases outcome with
      | error failure => exact expects
      | ok proxyAddr => exact expects
  | _ =>
      rw [phase] at expects
      exact ⟨expects.1, expects.2.1, idle expects.1, expects.2.2.2⟩

/-- What the callback sends is heard exactly while the wait is registered. -/
theorem Knows.sent (knows : Knows info heard state) (sends : state.hook = .trySend true) :
    Knows info (heard ∨ state.streamWait.isSome = true)
      { state with channel := trySend state.channel (some info), hook := .returned } := by
  obtain ⟨once, expects⟩ := knows
  have unheard : ¬ heard := by
    intro isHeard
    rw [once isHeard] at sends
    cases sends
  have missed : state.streamWait = none → ¬ (heard ∨ state.streamWait.isSome = true) := by
    rintro unregistered (isHeard | registered)
    · exact unheard isHeard
    · rw [unregistered] at registered
      cases registered
  refine ⟨fun _ => rfl, ?_⟩
  dsimp only
  cases phase : state.setup with
  | recv =>
      rw [phase] at expects
      rcases expects with ⟨registered, empty, _⟩ | ⟨_, isHeard⟩ | ⟨purged, head, _⟩
      · refine Or.inr (Or.inl ⟨?_, Or.inr registered⟩)
        change (trySend state.channel (some info)).head? = _
        rw [empty]
        rfl
      · exact absurd isHeard unheard
      · exact Or.inr (Or.inr ⟨purged, trySend_head head _, missed purged⟩)
  | removeState received =>
      rw [phase] at expects
      cases received with
      | none => exact ⟨expects.1, missed expects.1⟩
      | some info => exact absurd expects.2 unheard
  | returned outcome =>
      rw [phase] at expects
      cases outcome with
      | error failure => exact ⟨expects.1, missed expects.1⟩
      | ok proxyAddr => exact absurd expects.2 unheard
  | _ =>
      rw [phase] at expects
      exact absurd sends expects.2.2.1

theorem hookStep_knows (knows : Knows info heard state) (action : Action)
    (delivers : Prop)
    (exact : delivers ↔
      action = .trySend ∧ state.hook = .trySend true ∧ state.streamWait.isSome = true) :
    Knows info (heard ∨ delivers) (hookStep info state action) := by
  have unchanged : action ≠ .trySend → (heard ∨ delivers) = heard := by
    intro differs
    exact propext (or_iff_left fun sent => differs (exact.mp sent).1)
  have silent : state.hook ≠ .trySend true → (heard ∨ delivers) = heard := by
    intro differs
    exact propext (or_iff_left fun sent => differs (exact.mp sent).2.1)
  cases action with
  | touchDurableDialog =>
      rw [unchanged (by decide), hookStep]
      split
      · rename_i called
        refine knows.hook_moved (fun isHeard => ?_) fun _ same => by cases same
        rw [knows.once isHeard] at called
        cases called
      · exact knows
  | lookup =>
      rw [unchanged (by decide), hookStep]
      split
      · rename_i touched
        refine knows.hook_moved (fun isHeard => ?_) fun unregistered => ?_
        · rw [knows.once isHeard] at touched
          cases touched
        · rw [unregistered]
          decide
      · exact knows
  | trySend =>
      rw [hookStep]
      split
      · rename_i sends
        have same : delivers = (state.streamWait.isSome = true) := by
          rw [propext exact, sends]
          simp
        rw [same]
        exact knows.sent sends
      · rename_i missed
        rw [silent (by rw [missed]; decide)]
        exact knows.hook_moved (fun _ => rfl) fun _ same => by cases same
      · rename_i notSending _
        rw [silent notSending]
        exact knows
  | _ =>
      rw [unchanged (by intro same; cases same)]
      exact knows

theorem step_knows (knows : Knows info heard state) (action : Action) :
    Knows info (heard ∨ Delivers (Runs.transition (step info) state action))
      (step info state action).2 := by
  have unchanged : action ≠ .trySend →
      (heard ∨ Delivers (Runs.transition (step info) state action)) = heard := by
    intro differs
    exact propext (or_iff_left fun sent => differs sent.1)
  cases action with
  | touchDurableDialog | lookup | trySend => exact hookStep_knows knows _ _ Iff.rfl
  | purgeExpiredKeys =>
      rw [unchanged (by decide)]
      exact purgeExpiredKeys_knows knows
  | elapse seconds =>
      rw [unchanged (by intro same; cases same)]
      exact ⟨knows.once, knows.expects⟩
  | streamInitExt accepted =>
      rw [unchanged (by intro same; cases same)]
      exact setupStep_knows knows (.streamInitExt accepted)
  | streamMapInsert =>
      rw [unchanged (by decide)]
      exact setupStep_knows knows .streamMapInsert
  | insertStreamWait =>
      rw [unchanged (by decide)]
      exact setupStep_knows knows .insertStreamWait
  | recv =>
      rw [unchanged (by decide)]
      exact setupStep_knows knows .recv
  | removeState =>
      rw [unchanged (by decide)]
      exact setupStep_knows knows .removeState

/-- The callback has been heard in the course of a run. -/
def Heard (run : List (Runs.Transition State Action Unit)) : Prop := ∃ entry ∈ run, Delivers entry

theorem heard_concat (past : List (Runs.Transition State Action Unit))
    (entry : Runs.Transition State Action Unit) :
    Heard (past ++ [entry]) = (Heard past ∨ Delivers entry) := by
  simp only [Heard, List.mem_append, List.mem_singleton, or_and_right, exists_or, exists_eq_left]

/-- The invariant at the end of a run. -/
theorem final_knows (info : BaseStreamInfo) (now : Nat) (vacant : Bool) (actions : List Action) :
    Knows info (Heard (Runs.run (step info) (start now vacant) actions))
      (Runs.final (step info) (start now vacant) actions) := by
  have unheard : Heard [] = False := by
    simp [Heard]
  have begun : Knows info (Heard []) (start now vacant) := by
    rw [unheard]
    exact start_knows info now vacant
  have keep : ∀ past state action, Knows info (Heard past) state → True →
      Knows info (Heard (past ++ [Runs.transition (step info) state action]))
        (step info state action).2 := by
    intro past state action knows _
    rw [heard_concat]
    exact step_knows knows action
  have free : ∀ entry ∈ Runs.run (step info) (start now vacant) actions, True :=
    fun _ _ => trivial
  exact Runs.history_final (fun past state => Knows info (Heard past) state) (fun _ _ => True) keep
    begun free

/-! ## The set-up returns -/

/-- The set-up comes to its end by its own steps and the timer. -/
def Returns (info : BaseStreamInfo) (state : State) : Prop :=
  ∃ more outcome, (Runs.final (step info) state more).setup = .returned outcome

theorem Returns.of_step (action : Action) (next : Returns info (step info state action).2) :
    Returns info state := by
  obtain ⟨more, outcome, returned⟩ := next
  exact ⟨action :: more, outcome, returned⟩

theorem returns_of_removeState {received : Option BaseStreamInfo}
    (phase : state.setup = .removeState received) : Returns info state := by
  refine Returns.of_step .removeState ?_
  cases received with
  | none =>
      refine ⟨[], .error .streamNotReceived, ?_⟩
      change (setupStep state .removeState).setup = _
      rw [setupStep, phase]
  | some received =>
      refine ⟨[], .ok received.proxyAddr, ?_⟩
      change (setupStep state .removeState).setup = _
      rw [setupStep, phase]

theorem returns_of_message {message : Option BaseStreamInfo}
    {rest : List (Option BaseStreamInfo)} (phase : state.setup = .recv)
    (queued : state.channel = message :: rest) : Returns info state := by
  have taken : (step info state .recv).2.setup = .removeState message := by
    change (setupStep state .recv).setup = _
    rw [setupStep, if_pos phase, queued]
  exact Returns.of_step .recv (returns_of_removeState taken)

theorem returns_of_recv (knows : Knows info heard state) (phase : state.setup = .recv) :
    Returns info state := by
  cases queued : state.channel with
  | cons message rest => exact returns_of_message phase queued
  | nil =>
      have expects := knows.expects
      rw [phase] at expects
      rcases expects with ⟨registered, _⟩ | ⟨head, _⟩ | ⟨_, head, _⟩
      · obtain ⟨expire, found⟩ := Option.isSome_iff_exists.mp registered
        refine Returns.of_step (.elapse expire) (Returns.of_step .purgeExpiredKeys ?_)
        have due : expire ≤ state.now + expire := Nat.le_add_left expire state.now
        have purged : (step info (step info state (.elapse expire)).2 .purgeExpiredKeys).2 =
            ⟨state.now + expire, none, [none], state.setup, state.hook, state.vacant⟩ := by
          change purgeExpiredKeys { state with now := state.now + expire } = _
          simp only [purgeExpiredKeys, found, if_pos due, queued]
          rfl
        rw [purged]
        exact returns_of_message phase rfl
      · rw [queued] at head
        cases head
      · rw [queued] at head
        cases head

theorem returns_of_insertStreamWait (knows : Knows info heard state)
    (phase : state.setup = .insertStreamWait) : Returns info state := by
  have waits : (setupStep state .insertStreamWait).setup = .recv := by
    rw [setupStep, if_pos phase]
  exact Returns.of_step .insertStreamWait
    (returns_of_recv (setupStep_knows knows .insertStreamWait) waits)

theorem returns_of_streamMapInsert (knows : Knows info heard state)
    (phase : state.setup = .streamMapInsert) : Returns info state := by
  refine Returns.of_step .streamMapInsert ?_
  cases free : state.vacant with
  | true =>
      have inserted : (setupStep state .streamMapInsert).setup = .insertStreamWait := by
        rw [setupStep, if_pos phase, if_pos free]
      exact returns_of_insertStreamWait (setupStep_knows knows .streamMapInsert) inserted
  | false =>
      refine ⟨[], .error .streamDialogExists, ?_⟩
      change (setupStep state .streamMapInsert).setup = _
      rw [setupStep, if_pos phase, if_neg (by rw [free]; exact Bool.false_ne_true)]

theorem returns_of_knows (knows : Knows info heard state) : Returns info state := by
  cases phase : state.setup with
  | streamInitExt =>
      have accepted : (setupStep state (.streamInitExt true)).setup = .streamMapInsert := by
        rw [setupStep, if_pos phase]
        rfl
      exact Returns.of_step (.streamInitExt true)
        (returns_of_streamMapInsert (setupStep_knows knows (.streamInitExt true)) accepted)
  | streamMapInsert => exact returns_of_streamMapInsert knows phase
  | insertStreamWait => exact returns_of_insertStreamWait knows phase
  | recv => exact returns_of_recv knows phase
  | removeState received => exact returns_of_removeState phase
  | returned outcome => exact ⟨[], outcome, phase⟩

/-- However the calls interleave, the set-up can come to its end, and then it has
the callback's address exactly when the callback found the wait and sent before the
timer took it. -/
theorem returns_ok_iff_heard (info : BaseStreamInfo) (now : Nat) (vacant : Bool)
    (actions : List Action) :
    Returns info (Runs.final (step info) (start now vacant) actions) ∧
      ∀ outcome, (Runs.final (step info) (start now vacant) actions).setup = .returned outcome →
        (outcome = .ok info.proxyAddr ↔
          Heard (Runs.run (step info) (start now vacant) actions)) := by
  have knows := final_knows info now vacant actions
  refine ⟨returns_of_knows knows, fun outcome returned => ?_⟩
  have expects := knows.expects
  rw [returned] at expects
  cases outcome with
  | error failure =>
      refine ⟨fun same => ?_, fun isHeard => absurd isHeard expects.2⟩
      cases same
  | ok proxyAddr =>
      exact ⟨fun _ => expects.2, fun _ => congrArg Except.ok expects.1⟩

/-- The callback comes after the wait. -/
theorem returns_ok_iff_heard_late :
    (Runs.final (step ⟨"10.0.0.1:18570"⟩) (start 0 true)
        [.streamInitExt true, .streamMapInsert, .insertStreamWait, .touchDurableDialog, .lookup,
          .trySend, .recv, .removeState]).setup = .returned (.ok "10.0.0.1:18570") ∧
      Heard (Runs.run (step ⟨"10.0.0.1:18570"⟩) (start 0 true)
        [.streamInitExt true, .streamMapInsert, .insertStreamWait, .touchDurableDialog, .lookup,
          .trySend, .recv, .removeState]) :=
  ⟨by decide, ((returns_ok_iff_heard ⟨"10.0.0.1:18570"⟩ 0 true
    [.streamInitExt true, .streamMapInsert, .insertStreamWait, .touchDurableDialog, .lookup,
      .trySend, .recv, .removeState]).2 _ (by decide)).mp rfl⟩

/-- The callback runs between the answer to `stream_init_ext` and the registration
of the wait, eight seconds before the deadline, and the set-up times out. -/
theorem early_callback_is_lost :
    (Runs.final (step ⟨"10.0.0.1:18570"⟩) (start 0 true)
        [.streamInitExt true, .touchDurableDialog, .lookup, .trySend, .streamMapInsert,
          .insertStreamWait]) = ⟨0, some 8, [], .recv, .returned, false⟩ ∧
      (Runs.final (step ⟨"10.0.0.1:18570"⟩) (start 0 true)
        [.streamInitExt true, .touchDurableDialog, .lookup, .trySend, .streamMapInsert,
          .insertStreamWait, .elapse 8, .purgeExpiredKeys, .recv, .removeState]).setup =
        .returned (.error .streamNotReceived) := by
  decide

end Gmv.Session.StreamWait
