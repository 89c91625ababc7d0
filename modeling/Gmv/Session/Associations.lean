import Gmv.Library.Runs
import Gmv.Library.Since
import Gmv.Session.SocketAddr
import Mathlib.Logic.Function.Basic

/-!
# The associations of the SIP runtime

The runtime gives every TCP connection a number.  The session remembers the number of the connection that an
association was last heard on, sends to it, and forgets it when that connection closes; the news of a
connection that has closed may come when the association has another.  What is sent goes through a queue of
commands that may be full or closed.
-/

namespace Gmv.Session.Associations

open Gmv.Library

/-- `base::net::state::Protocol`. -/
inductive Protocol where
  | udp
  | tcp
  | all
  deriving DecidableEq, Repr

inductive SipTransportProtocol where
  | udp
  | tcp
  | tls
  deriving DecidableEq, Repr

structure Association where
  localAddr : SocketAddr
  remoteAddr : SocketAddr
  protocol : Protocol
  deriving DecidableEq, Repr

/-- What an event says of the connection that it comes from. -/
structure SipRuntimeEvent where
  transportClosed : Bool
  associationId : Option UInt64
  protocol : Option SipTransportProtocol
  localAddr : Option SocketAddr
  remoteAddr : Option SocketAddr
  deriving DecidableEq, Repr

/-- The commands for the runtime, with where they go. -/
inductive RuntimeCommand where
  /-- `SendMessage`, `SendInvite` and `SendSubscribe`. -/
  | send (protocol : SipTransportProtocol) (associationId : UInt64)
  /-- With the addresses of the association in place of those of the snapshot. -/
  | sendRestoredDialog (protocol : SipTransportProtocol) (associationId : UInt64) (addrs : Option (SocketAddr × SocketAddr))
  | closeTransport (associationId : UInt64) (status : Int32)
  deriving DecidableEq, Repr

abbrev AssociationIds := Association → Option UInt64

/-! ## The events -/

def sessionProtocol : SipTransportProtocol → Option Protocol
  | .udp => some .udp
  | .tcp => some .tcp
  | .tls => none

/-- The connection that an event names in full. -/
def SipRuntimeEvent.connection (event : SipRuntimeEvent) : Option (Association × UInt64) := do
  let associationId ← event.associationId
  let protocol ← event.protocol.bind sessionProtocol
  let localAddr ← event.localAddr
  let remoteAddr ← event.remoteAddr
  pure (⟨localAddr, remoteAddr, protocol⟩, associationId)

def rememberEventAssociation (ids : AssociationIds) (event : SipRuntimeEvent) : AssociationIds :=
  match event.connection with
  | none => ids
  | some (association, associationId) => Function.update ids association (some associationId)

/-- The first result is the association of which the devices are detached. -/
def forgetEventAssociation (ids : AssociationIds) (event : SipRuntimeEvent) : Option Association × AssociationIds :=
  match event.connection with
  | none => (none, ids)
  | some (association, associationId) =>
      if ids association = some associationId then (some association, Function.update ids association none)
      else (none, ids)

/-! ## Sending -/

def notRegistered : String := "TCP association is not registered in native SIP runtime"

def nativeProtocol : Protocol → Except String SipTransportProtocol
  | .udp => .ok .udp
  | .tcp => .ok .tcp
  | .all => .error "protocol ALL cannot be injected into native SIP runtime"

/-- The number of the connection of an association; without connections it is 0. -/
def idOf (ids : AssociationIds) (association : Association) : SipTransportProtocol → Except String UInt64
  | .tcp =>
      match ids association with
      | some associationId => .ok associationId
      | none => .error notRegistered
  | _ => .ok 0

/-- What the queue of commands answers. -/
inductive Queue where
  | takes
  | full
  | closed
  deriving DecidableEq, Repr

def trySend (queue : Queue) (command : RuntimeCommand) : Except String RuntimeCommand :=
  match queue with
  | .takes => .ok command
  | .full => .error "native SIP runtime command queue is unavailable: sending on a full channel"
  | .closed => .error "native SIP runtime command queue is unavailable: sending on a closed channel"

/-- `send_message`, `send_invite` and `send_subscribe`. -/
def send (ids : AssociationIds) (association : Association) (queue : Queue) : Except String RuntimeCommand := do
  let protocol ← nativeProtocol association.protocol
  let associationId ← idOf ids association protocol
  trySend queue (.send protocol associationId)

def sendRestoredDialogRequest (ids : AssociationIds) (association : Option Association)
    (protocol : SipTransportProtocol) (queue : Queue) : Except String RuntimeCommand :=
  if protocol = .tcp then
    match association with
    | none => .error "TCP restored dialog requires current device association"
    | some association =>
        match ids association with
        | some associationId =>
            trySend queue
              (.sendRestoredDialog protocol associationId (some (association.localAddr, association.remoteAddr)))
        | none => .error notRegistered
  else trySend queue (.sendRestoredDialog protocol 0 none)

/-! ## Runs -/

inductive Action where
  | event (event : SipRuntimeEvent)
  | send (association : Association) (queue : Queue)
  | sendRestored (association : Option Association) (protocol : SipTransportProtocol) (queue : Queue)
  | closeTransport (association : Association) (status : Int32) (queue : Queue)
  deriving DecidableEq, Repr

/-- What comes of an action: the command for the runtime or why there is none, and whose devices are detached. -/
structure Outcome where
  command : Option (Except String RuntimeCommand)
  detached : Option Association

def step (ids : AssociationIds) : Action → Outcome × AssociationIds
  | .event event =>
      if event.transportClosed then
        let (detached, ids) := forgetEventAssociation ids event
        (⟨none, detached⟩, ids)
      else (⟨none, none⟩, rememberEventAssociation ids event)
  | .send association queue => (⟨some (send ids association queue), none⟩, ids)
  | .sendRestored association protocol queue =>
      (⟨some (sendRestoredDialogRequest ids association protocol queue), none⟩, ids)
  -- the number is forgotten before the queue is asked
  | .closeTransport association status queue =>
      if association.protocol = .tcp then
        match ids association with
        | none => (⟨none, none⟩, ids)
        | some associationId =>
            (⟨some (trySend queue (.closeTransport associationId status)), none⟩,
              Function.update ids association none)
      else (⟨none, none⟩, ids)

abbrev Entry := Runs.Transition AssociationIds Action Outcome

def none' : AssociationIds := fun _ => none

/-! ## The newest connection -/

/-- The connection that an action has heard from. -/
def Action.heard : Action → Option (Association × UInt64)
  | .event told => if told.transportClosed then none else told.connection
  | _ => none

/-- The connection that an action tells the end of. -/
def Action.closed : Action → Option (Association × UInt64)
  | .event told => if told.transportClosed then told.connection else none
  | _ => none

/-- A connection is no longer the one of its association: another one is, it has closed, or the session closes it. -/
def Action.Ends (association : Association) (associationId : UInt64) (action : Action) : Prop :=
  (∃ other, action.heard = some (association, other) ∧ other ≠ associationId) ∨
    action.closed = some (association, associationId) ∨
      association.protocol = .tcp ∧ ∃ status queue, action = .closeTransport association status queue

/-- The association was last heard on this connection, and that has not been closed since. -/
def Current (past : List Entry) (association : Association) (associationId : UInt64) : Prop :=
  Since (fun entry => entry.action.heard = some (association, associationId))
    (fun entry => entry.action.Ends association associationId) past

section

variable {ids : AssociationIds} {association : Association} {associationId : UInt64}

theorem ends_of_other {action : Action} (quiet : action.heard = none) (open' : action.closed = none)
    (stays : ∀ status queue, action ≠ .closeTransport association status queue) :
    ¬action.Ends association associationId := by
  rintro (⟨other, heard, -⟩ | closed | ⟨-, status, queue, same⟩)
  · rw [quiet] at heard
    cases heard
  · rw [open'] at closed
    cases closed
  · exact stays status queue same

/-- A step that leaves the numbers as they are. -/
theorem kept_ids {action : Action} {next : AssociationIds} (quiet : action.heard = none)
    (same : next association = ids association)
    (stays : ids association = some associationId → ¬action.Ends association associationId) :
    next association = some associationId ↔ action.heard = some (association, associationId) ∨
      ids association = some associationId ∧ ¬action.Ends association associationId := by
  rw [same, quiet]
  exact ⟨fun held => Or.inr ⟨held, stays held⟩, fun either => either.elim (fun heard => (nomatch heard)) And.left⟩

theorem heard_ids {event : SipRuntimeEvent} {connected : Association} {number : UInt64}
    (open' : event.transportClosed = false) (found : event.connection = some (connected, number)) :
    (step ids (.event event)).2 association = some associationId ↔
      (Action.event event).heard = some (association, associationId) ∨
        ids association = some associationId ∧ ¬(Action.event event).Ends association associationId := by
  have heard : (Action.event event).heard = some (connected, number) := by
    rw [Action.heard, open', if_neg Bool.false_ne_true, found]
  have next : (step ids (.event event)).2 = Function.update ids connected (some number) := by
    simp only [step, open', Bool.false_eq_true, if_false, rememberEventAssociation, found]
  rw [next, heard]
  by_cases same : association = connected
  · subst same
    rw [Function.update_self]
    constructor
    · intro isNumber
      cases isNumber
      exact Or.inl rfl
    · rintro (isNumber | ⟨-, stays⟩)
      · cases isNumber
        rfl
      · by_contra differs
        exact stays (Or.inl ⟨number, heard, fun same => differs (by rw [same])⟩)
  · rw [Function.update_of_ne same]
    constructor
    · intro held
      refine Or.inr ⟨held, ?_⟩
      rintro (⟨other, named, -⟩ | closed | ⟨-, status, queue, none'⟩)
      · rw [heard] at named
        exact same (Prod.mk.inj (Option.some.inj named)).1.symm
      · rw [Action.closed, open'] at closed
        cases closed
      · cases none'
    · rintro (named | ⟨held, -⟩)
      · exact absurd (Prod.mk.inj (Option.some.inj named)).1.symm same
      · exact held

theorem closed_ids {event : SipRuntimeEvent} {connected : Association} {number : UInt64}
    (closes : event.transportClosed = true) (found : event.connection = some (connected, number)) :
    (step ids (.event event)).2 association = some associationId ↔
      (Action.event event).heard = some (association, associationId) ∨
        ids association = some associationId ∧ ¬(Action.event event).Ends association associationId := by
  have quiet : (Action.event event).heard = none := by rw [Action.heard, closes, if_pos rfl]
  have closed : (Action.event event).closed = some (connected, number) := by
    rw [Action.closed, closes, if_pos rfl, found]
  have next : (step ids (.event event)).2 =
      if ids connected = some number then Function.update ids connected none else ids := by
    simp only [step, closes, if_true, forgetEventAssociation, found]
    split <;> rfl
  have stays : (association, associationId) ≠ (connected, number) →
      ¬(Action.event event).Ends association associationId := by
    rintro differs (⟨other, heard, -⟩ | named | ⟨-, status, queue, none'⟩)
    · rw [quiet] at heard
      cases heard
    · rw [closed] at named
      exact differs (Option.some.inj named).symm
    · cases none'
  by_cases same : association = connected
  · subst same
    by_cases isCurrent : ids association = some number
    · rw [next, if_pos isCurrent, Function.update_self, quiet, isCurrent]
      refine ⟨fun held => (nomatch held), ?_⟩
      rintro (heard | ⟨isNumber, lasts⟩)
      · cases heard
      · cases isNumber
        exact absurd (Or.inr (Or.inl closed)) lasts
    · refine kept_ids quiet (by rw [next, if_neg isCurrent]) fun held => stays fun named => ?_
      cases named
      exact isCurrent held
  · refine kept_ids quiet ?_ fun _ => stays fun named => same (Prod.mk.inj named).1
    rw [next]
    split
    · rw [Function.update_of_ne same]
    · rfl

/-- An event that does not name a connection in full. -/
theorem unnamed_ids {event : SipRuntimeEvent} (nameless : event.connection = none) :
    (step ids (.event event)).2 association = some associationId ↔
      (Action.event event).heard = some (association, associationId) ∨
        ids association = some associationId ∧ ¬(Action.event event).Ends association associationId := by
  have quiet : (Action.event event).heard = none := by
    rw [Action.heard, nameless]
    split <;> rfl
  have open' : (Action.event event).closed = none := by
    rw [Action.closed, nameless]
    split <;> rfl
  refine kept_ids quiet ?_ fun _ => ends_of_other quiet open' fun _ _ => Action.noConfusion
  rw [step]
  split
  · rw [forgetEventAssociation, nameless]
  · rw [rememberEventAssociation, nameless]

theorem closeTransport_ids (other : Association) (status : Int32) (queue : Queue) :
    (step ids (.closeTransport other status queue)).2 association = some associationId ↔
      (Action.closeTransport other status queue).heard = some (association, associationId) ∨
        ids association = some associationId ∧
          ¬(Action.closeTransport other status queue).Ends association associationId := by
  have ends : (Action.closeTransport other status queue).Ends association associationId ↔
      association.protocol = .tcp ∧ association = other := by
    constructor
    · rintro (⟨_, heard, -⟩ | closed | ⟨isTcp, _, _, same⟩)
      · cases heard
      · cases closed
      · cases same
        exact ⟨isTcp, rfl⟩
    · rintro ⟨isTcp, rfl⟩
      exact Or.inr (Or.inr ⟨isTcp, status, queue, rfl⟩)
  by_cases same : association.protocol = .tcp ∧ association = other
  · obtain ⟨isTcp, rfl⟩ := same
    have gone : (step ids (.closeTransport association status queue)).2 association = none := by
      simp only [step, if_pos isTcp]
      split
      · assumption
      · exact Function.update_self ..
    rw [gone]
    refine ⟨fun held => (nomatch held), ?_⟩
    rintro (heard | ⟨-, lasts⟩)
    · cases heard
    · exact absurd (ends.mpr ⟨isTcp, rfl⟩) lasts
  · refine kept_ids rfl ?_ fun _ => same ∘ ends.mp
    rw [step]
    split
    · rename_i isTcp
      have apart : association ≠ other := fun equal => same ⟨equal ▸ isTcp, equal⟩
      split
      · rfl
      · exact Function.update_of_ne apart ..
    · rfl

theorem step_ids (action : Action) :
    (step ids action).2 association = some associationId ↔
      action.heard = some (association, associationId) ∨
        ids association = some associationId ∧ ¬action.Ends association associationId := by
  cases action with
  | event event =>
      cases found : event.connection with
      | none => exact unnamed_ids found
      | some connection =>
          cases closes : event.transportClosed with
          | false => exact heard_ids closes found
          | true => exact closed_ids closes found
  | send other queue => exact kept_ids rfl rfl fun _ => ends_of_other rfl rfl fun _ _ => Action.noConfusion
  | sendRestored other protocol queue =>
      exact kept_ids rfl rfl fun _ => ends_of_other rfl rfl fun _ _ => Action.noConfusion
  | closeTransport other status queue => exact closeTransport_ids other status queue

end

/-! ## What a step tells -/

theorem detached_iff (ids : AssociationIds) (action : Action) (association : Association) :
    (step ids action).1.detached = some association ↔
      ∃ associationId, action.closed = some (association, associationId) ∧ ids association = some associationId := by
  cases action with
  | event event =>
      cases closes : event.transportClosed with
      | false => simp [step, Action.closed, closes]
      | true =>
          simp only [step, Action.closed, closes, if_true, forgetEventAssociation]
          cases event.connection with
          | none => simp
          | some connection =>
              obtain ⟨connected, number⟩ := connection
              dsimp only
              constructor
              · intro detached
                split at detached
                · rename_i isCurrent
                  cases detached
                  exact ⟨number, rfl, isCurrent⟩
                · cases detached
              · rintro ⟨associationId, same, isCurrent⟩
                cases same
                rw [if_pos isCurrent]
  | send other queue => simp [step, Action.closed]
  | sendRestored other protocol queue => simp [step, Action.closed]
  | closeTransport other status queue =>
      simp only [step, Action.closed]
      split
      · split <;> simp
      · simp

theorem trySend_eq_ok {queue : Queue} {command sent : RuntimeCommand} :
    trySend queue command = .ok sent ↔ queue = .takes ∧ command = sent := by
  cases queue <;> simp [trySend]

theorem send_tcp (ids : AssociationIds) {association : Association} (isTcp : association.protocol = .tcp)
    (queue : Queue) (command : RuntimeCommand) : send ids association queue = .ok command ↔
      queue = .takes ∧ ∃ associationId, command = .send .tcp associationId ∧
        ids association = some associationId := by
  simp only [send, nativeProtocol, isTcp, idOf]
  cases ids association with
  | none => exact ⟨fun sent => (nomatch sent), fun ⟨_, _, _, held⟩ => (nomatch held)⟩
  | some number =>
      refine trySend_eq_ok.trans (and_congr_right fun _ => ?_)
      constructor
      · rintro rfl
        exact ⟨number, rfl, rfl⟩
      · rintro ⟨associationId, rfl, held⟩
        cases held
        rfl

theorem sendRestoredDialogRequest_tcp (ids : AssociationIds) (association : Option Association) (queue : Queue)
    (command : RuntimeCommand) : sendRestoredDialogRequest ids association .tcp queue = .ok command ↔
      queue = .takes ∧ ∃ connected associationId, association = some connected ∧
        command = .sendRestoredDialog .tcp associationId (some (connected.localAddr, connected.remoteAddr)) ∧
        ids connected = some associationId := by
  simp only [sendRestoredDialogRequest, if_true]
  cases association with
  | none => exact ⟨fun sent => (nomatch sent), fun ⟨_, _, _, none', _⟩ => (nomatch none')⟩
  | some connected =>
      dsimp only
      cases found : ids connected with
      | none =>
          refine ⟨fun sent => (nomatch sent), ?_⟩
          rintro ⟨-, other, associationId, same, -, held⟩
          cases same
          cases found.symm.trans held
      | some number =>
          refine trySend_eq_ok.trans (and_congr_right fun _ => ?_)
          constructor
          · rintro rfl
            exact ⟨connected, number, rfl, rfl, found⟩
          · rintro ⟨other, associationId, same, rfl, held⟩
            cases same
            cases found.symm.trans held
            rfl

theorem closeTransport_tcp (ids : AssociationIds) {association : Association} (isTcp : association.protocol = .tcp)
    (status : Int32) (queue : Queue) (command : RuntimeCommand) :
    (step ids (.closeTransport association status queue)).1.command = some (.ok command) ↔
      queue = .takes ∧ ∃ associationId, command = .closeTransport associationId status ∧
        ids association = some associationId := by
  simp only [step, isTcp, if_true]
  cases ids association with
  | none => exact ⟨fun sent => (nomatch sent), fun ⟨_, _, _, held⟩ => (nomatch held)⟩
  | some number =>
      refine Option.some_inj.trans (trySend_eq_ok.trans (and_congr_right fun _ => ?_))
      constructor
      · rintro rfl
        exact ⟨number, rfl, rfl⟩
      · rintro ⟨associationId, rfl, held⟩
        cases held
        rfl

/-! ## Runs -/

/-- The session sends to the connections that are current, and detaches the devices of those that close. -/
structure Follows (past : List Entry) (entry : Entry) : Prop where
  ids : ∀ association associationId,
    entry.before association = some associationId ↔ Current past association associationId
  detached : ∀ association, entry.result.detached = some association ↔
    ∃ associationId, entry.action.closed = some (association, associationId) ∧
      Current past association associationId
  sent : ∀ association queue, entry.action = .send association queue → association.protocol = .tcp →
    ∀ command, entry.result.command = some (.ok command) ↔
      queue = .takes ∧ ∃ associationId, command = .send .tcp associationId ∧
        Current past association associationId
  restored : ∀ association queue, entry.action = .sendRestored association .tcp queue →
    ∀ command, entry.result.command = some (.ok command) ↔
      queue = .takes ∧ ∃ connected associationId, association = some connected ∧
        command = .sendRestoredDialog .tcp associationId (some (connected.localAddr, connected.remoteAddr)) ∧
        Current past connected associationId
  closes : ∀ association status queue, entry.action = .closeTransport association status queue →
    association.protocol = .tcp → ∀ command, entry.result.command = some (.ok command) ↔
      queue = .takes ∧ ∃ associationId, command = .closeTransport associationId status ∧
        Current past association associationId

/-- Whatever the order of events, sends and closes. -/
theorem newest_connection_followed (actions : List Action) (first later : List Entry) (entry : Entry)
    (split : Runs.run step none' actions = first ++ entry :: later) : Follows first entry := by
  have atFirst : ∀ association associationId,
      none' association = some associationId ↔ Current [] association associationId :=
    fun _ _ => ⟨fun held => (nomatch held), fun current => absurd current Since.not_nil⟩
  have kept : ∀ past ids action,
      (∀ association associationId,
        ids association = some associationId ↔ Current past association associationId) → True →
      ∀ association associationId, (step ids action).2 association = some associationId ↔
        Current (past ++ [Runs.transition step ids action]) association associationId := by
    intro past ids action current _ association associationId
    rw [step_ids, current, Current, Current, Since.concat_iff]
    rfl
  have ids := Runs.history_run _ (fun _ _ => True) kept atFirst (fun _ _ => True.intro) split
  rw [List.nil_append] at ids
  have member : entry ∈ Runs.run step none' actions := by
    rw [split]
    exact List.mem_append_right _ (List.mem_cons_self ..)
  have isStep := congrArg Runs.Transition.result (Runs.mem_run member)
  have known (association : Association) (command : UInt64 → Prop) :
      (∃ associationId, command associationId ∧ entry.before association = some associationId) ↔
        ∃ associationId, command associationId ∧ Current first association associationId :=
    exists_congr fun associationId => and_congr_right fun _ => ids association associationId
  refine ⟨ids, fun association => ?_, fun association queue sends isTcp command => ?_,
    fun association queue sends command => ?_, fun association status queue sends isTcp command => ?_⟩
  · rw [isStep, Runs.transition, detached_iff]
    exact known association _
  · rw [isStep, Runs.transition, sends]
    refine Option.some_inj.trans ((send_tcp entry.before isTcp queue command).trans ?_)
    exact and_congr_right fun _ => known association _
  · rw [isStep, Runs.transition, sends]
    refine Option.some_inj.trans ((sendRestoredDialogRequest_tcp entry.before association queue command).trans ?_)
    exact and_congr_right fun _ => exists_congr fun connected => exists_congr fun associationId =>
      and_congr_right fun _ => and_congr_right fun _ => ids connected associationId
  · rw [isStep, Runs.transition, sends, closeTransport_tcp entry.before isTcp]
    exact and_congr_right fun _ => known association _

/-- An association that a device uses for one connection after another. -/
def reused (closed : Bool) (number : UInt64) : Action :=
  .event ⟨closed, some number, some .tcp, some (.v4 ⟨10, 0, 0, 1⟩ 5060), some (.v4 ⟨10, 0, 0, 2⟩ 5060)⟩

/-- The news that connection 5 has closed comes when the association has connection 6. -/
theorem newest_connection_followed_late :
    (Runs.run step none' [reused false 5, reused false 6, reused true 5]).map (fun entry => entry.result.detached) =
        [none, none, none] ∧
      Follows ((Runs.run step none' [reused false 5, reused false 6, reused true 5]).take 2)
        (Runs.transition step (Runs.final step none' [reused false 5, reused false 6]) (reused true 5)) :=
  ⟨by decide +kernel, newest_connection_followed [reused false 5, reused false 6, reused true 5] _ [] _ rfl⟩

end Gmv.Session.Associations
