import Gmv.Library.Runs
import Gmv.Session.AuthCache

/-!
# Looking up credentials in batches

The SIP runtime asks for the credentials of devices one lookup after another.  A task takes what has come
within a few milliseconds, asks the cache for all of it at once, and completes the lookups in their order; when
the cache fails it rejects them all.  When the task exits, what it holds and what is in the channel is lost.
-/

namespace Gmv.Session.AuthBatches

open Gmv.Library AuthCache

structure AuthLookup where
  lookupId : UInt64
  deviceId : String
  realm : String
  deriving DecidableEq, Repr

inductive SipAuthLookupResult where
  | notFound
  | reject
  | bypass
  /-- A plain password, for MD5. -/
  | credential (username realm secret : String)
  deriving DecidableEq, Repr

def authResult (deviceId realm : String) : Option GmvOauth → SipAuthLookupResult
  | none => .notFound
  | some oauth =>
      if oauth.status = 0 then .reject
      else if oauth.pwdCheck = 0 then .bypass
      else
        match oauth.pwd.filter fun password => !password.isEmpty with
        | none => .reject
        | some secret => .credential deviceId realm secret

/-! ## The password provider -/

inductive AuthRequirement where
  | forbidden
  | disabled
  | required
  deriving DecidableEq, Repr

def requirementFor (state : State) (username realm : String) : AuthRequirement :=
  match state.get username realm with
  | none => .forbidden
  | some entry =>
      if entry.status = 0 then .forbidden
      else if entry.pwdCheck = 0 then .disabled
      else if entry.pwd.any fun password => !password.isEmpty then .required
      else .forbidden

def passwordFor (state : State) (username realm : String) : Option String :=
  (((state.get username realm).filter fun entry => entry.status != 0 && entry.pwdCheck != 0).bind
    GmvOauth.pwd).filter fun password => !password.isEmpty

/-- The provider and the lookups say the same of what is cached. -/
structure Agrees (state : State) (username realm : String) (result : SipAuthLookupResult) : Prop where
  bypass : result = .bypass ↔ requirementFor state username realm = .disabled
  credential : ∀ secret, result = .credential username realm secret ↔
    requirementFor state username realm = .required ∧ passwordFor state username realm = some secret
  refused : result = .notFound ∨ result = .reject ↔ requirementFor state username realm = .forbidden

theorem authResult_agrees (state : State) (username realm : String) :
    Agrees state username realm (authResult username realm (state.get username realm)) := by
  cases held : state.get username realm with
  | none => constructor <;> simp [authResult, requirementFor, held]
  | some entry =>
      by_cases stopped : entry.status = 0
      · constructor <;> simp [authResult, requirementFor, held, stopped]
      · by_cases open' : entry.pwdCheck = 0
        · constructor <;> simp [authResult, requirementFor, held, stopped, open']
        · cases pwd : entry.pwd with
          | none => constructor <;> simp [authResult, requirementFor, held, stopped, open', pwd]
          | some password =>
              cases empty : password.isEmpty <;> constructor <;>
                simp [authResult, requirementFor, passwordFor, held, stopped, open', pwd, empty, Option.filter]

/-! ## The task -/

/-- A lookup with what the cache has answered; `none` when it failed. -/
abbrev Answered := AuthLookup × Option (Option GmvOauth)

inductive Task where
  | idle
  | collecting (batch : List AuthLookup)
  | loading (batch : List AuthLookup)
  | sending (answered : List Answered)
  | exited

/-- The channel of the lookups, whether the owner thread has its sender, and the task. -/
structure Service where
  lookups : List AuthLookup
  running : Bool
  task : Task

inductive Action where
  | lookup (lookup : AuthLookup)
  | recv
  | tryRecv
  /-- The cache answers for as many keys as it is asked, or fails. -/
  | loaded (oauths : Option (List (Option GmvOauth)))
  /-- The queue of runtime commands takes the next completion, or it is full or closed. -/
  | complete (accepted : Bool)
  | cancel
  /-- The owner thread ends. -/
  | stop
  deriving DecidableEq, Repr

inductive Outcome where
  | quiet
  | taken (lookup : AuthLookup)
  | refused (lookup : AuthLookup)
  | completed (lookup : AuthLookup) (result : SipAuthLookupResult)
  | exited (lost : List AuthLookup)
  deriving DecidableEq, Repr

def resultOf (answered : Answered) : SipAuthLookupResult :=
  match answered.2 with
  | none => .reject
  | some oauth => authResult answered.1.deviceId answered.1.realm oauth

/-- The task returns, and drops its batch and the receiver. -/
def Service.exit (service : Service) (batch : List AuthLookup) : Outcome × Service :=
  (.exited (batch ++ service.lookups), { service with lookups := [], task := .exited })

def step (service : Service) : Action → Outcome × Service
  | .lookup lookup =>
      if service.running then
        match service.task with
        | .exited => (.refused lookup, service)
        | _ => (.taken lookup, { service with lookups := service.lookups ++ [lookup] })
      else (.quiet, service)
  | .recv =>
      match service.task, service.lookups with
      | .idle, first :: rest => (.quiet, { service with lookups := rest, task := .collecting [first] })
      | .idle, [] => if service.running then (.quiet, service) else service.exit []
      | _, _ => (.quiet, service)
  | .tryRecv =>
      match service.task with
      | .collecting batch =>
          if batch.length < authDbBatchLimit then
            match service.lookups with
            | lookup :: rest =>
                (.quiet, { service with lookups := rest, task := .collecting (batch ++ [lookup]) })
            | [] => (.quiet, { service with task := .loading batch })
          else (.quiet, { service with task := .loading batch })
      | _ => (.quiet, service)
  | .loaded oauths =>
      match service.task, oauths with
      | .loading batch, none =>
          (.quiet, { service with task := .sending (batch.map fun lookup => (lookup, none)) })
      | .loading batch, some oauths =>
          if oauths.length = batch.length then
            (.quiet, { service with task := .sending (batch.zip (oauths.map some)) })
          else (.quiet, service)
      | _, _ => (.quiet, service)
  | .complete accepted =>
      match service.task with
      | .sending [] => (.quiet, { service with task := .idle })
      | .sending (answered :: rest) =>
          if accepted then
            (.completed answered.1 (resultOf answered), { service with task := .sending rest })
          else service.exit ((answered :: rest).map Prod.fst)
      | _ => (.quiet, service)
  | .cancel =>
      match service.task with
      | .idle => service.exit []
      | _ => (.quiet, service)
  | .stop => (.quiet, { service with running := false })

abbrev Entry := Runs.Transition Service Action Outcome

def Task.lookups : Task → List AuthLookup
  | .idle => []
  | .collecting batch => batch
  | .loading batch => batch
  | .sending answered => answered.map Prod.fst
  | .exited => []

/-- The lookups that have come and are not completed. -/
def Service.open' (service : Service) : List AuthLookup := service.task.lookups ++ service.lookups

def Outcome.arrived : Outcome → List AuthLookup
  | .taken lookup => [lookup]
  | _ => []

/-- The lookups that are completed, or lost with an exit. -/
def Outcome.departed : Outcome → List AuthLookup
  | .completed lookup _ => [lookup]
  | .exited lost => lost
  | _ => []

/-! ## What a step does -/

/-- What the cache has answered for a lookup of a batch, in its place among the answers. -/
def AnsweredFor (batch : List AuthLookup) (oauths : Option (List (Option GmvOauth))) (answered : Answered) : Prop :=
  ∃ index : Nat, batch[index]? = some answered.1 ∧ answered.2 = oauths.bind fun oauths => oauths[index]?

/-- The ways a step can go. -/
inductive Did (service : Service) : Action → Outcome → Service → Prop
  | quiet {action : Action} : Did service action .quiet service
  | stopped : Did service .stop .quiet { service with running := false }
  | taken {lookup : AuthLookup} (running : service.task ≠ .exited) :
      Did service (.lookup lookup) (.taken lookup) { service with lookups := service.lookups ++ [lookup] }
  | refused {lookup : AuthLookup} : Did service (.lookup lookup) (.refused lookup) service
  | first {lookup : AuthLookup} {rest : List AuthLookup} (idle : service.task = .idle)
      (waits : service.lookups = lookup :: rest) :
      Did service .recv .quiet { service with lookups := rest, task := .collecting [lookup] }
  | more {batch rest : List AuthLookup} {lookup : AuthLookup} (collecting : service.task = .collecting batch)
      (room : batch.length < authDbBatchLimit) (waits : service.lookups = lookup :: rest) :
      Did service .tryRecv .quiet { service with lookups := rest, task := .collecting (batch ++ [lookup]) }
  | full {batch : List AuthLookup} (collecting : service.task = .collecting batch) :
      Did service .tryRecv .quiet { service with task := .loading batch }
  | answered {batch : List AuthLookup} {oauths : Option (List (Option GmvOauth))} {answers : List Answered}
      (loading : service.task = .loading batch) (all : answers.map Prod.fst = batch)
      (each : ∀ answered ∈ answers, AnsweredFor batch oauths answered) :
      Did service (.loaded oauths) .quiet { service with task := .sending answers }
  | completed {answered : Answered} {rest : List Answered} (sending : service.task = .sending (answered :: rest)) :
      Did service (.complete true) (.completed answered.1 (resultOf answered)) { service with task := .sending rest }
  | done {accepted : Bool} (sending : service.task = .sending []) :
      Did service (.complete accepted) .quiet { service with task := .idle }
  | exited {action : Action} (running : service.task ≠ .exited) :
      Did service action (.exited (service.task.lookups ++ service.lookups))
        { service with lookups := [], task := .exited }

theorem answeredFor_failed (batch : List AuthLookup) :
    ∀ answered ∈ batch.map fun lookup => ((lookup, none) : Answered), AnsweredFor batch none answered := by
  intro answered member
  obtain ⟨lookup, inBatch, rfl⟩ := List.mem_map.mp member
  obtain ⟨index, inside, rfl⟩ := List.mem_iff_getElem.mp inBatch
  exact ⟨index, List.getElem?_eq_getElem inside, rfl⟩

theorem answeredFor_zip {batch : List AuthLookup} {oauths : List (Option GmvOauth)}
    (whole : oauths.length = batch.length) :
    ∀ answered ∈ batch.zip (oauths.map some), AnsweredFor batch (some oauths) answered := by
  intro answered member
  obtain ⟨index, inside, rfl⟩ := List.mem_iff_getElem.mp member
  rw [List.length_zip, List.length_map] at inside
  have inBatch : index < batch.length := by omega
  have inOauths : index < oauths.length := by omega
  refine ⟨index, ?_, ?_⟩
  · rw [List.getElem_zip, List.getElem?_eq_getElem inBatch]
  · rw [List.getElem_zip, List.getElem_map, Option.bind_some, List.getElem?_eq_getElem inOauths]

/-- The one place where the branches of a step are looked through. -/
theorem did_step (service : Service) (action : Action) :
    Did service action (step service action).1 (step service action).2 := by
  obtain ⟨lookups, running, task⟩ := service
  cases action with
  | lookup lookup =>
      cases running with
      | false => exact .quiet
      | true =>
          cases task with
          | exited => exact .refused
          | _ => exact .taken nofun
  | recv =>
      cases task with
      | idle =>
          cases lookups with
          | nil =>
              cases running with
              | false => exact .exited nofun
              | true => exact .quiet
          | cons lookup rest => exact .first rfl rfl
      | _ => exact .quiet
  | tryRecv =>
      cases task with
      | collecting batch =>
          simp only [step]
          split
          · rename_i room
            cases lookups with
            | nil => exact .full rfl
            | cons lookup rest => exact .more rfl room rfl
          · exact .full rfl
      | _ => exact .quiet
  | loaded oauths =>
      cases task with
      | loading batch =>
          cases oauths with
          | none => exact .answered rfl (by simp [Function.comp_def]) (answeredFor_failed batch)
          | some oauths =>
              simp only [step]
              split
              · rename_i whole
                exact .answered rfl (List.map_fst_zip (by simp [whole])) (answeredFor_zip whole)
              · exact .quiet
      | _ => exact .quiet
  | complete accepted =>
      cases task with
      | sending answers =>
          cases answers with
          | nil => exact .done rfl
          | cons answered rest =>
              cases accepted with
              | true => exact .completed rfl
              | false => exact .exited nofun
      | _ => exact .quiet
  | cancel =>
      cases task with
      | idle => exact .exited nofun
      | _ => exact .quiet
  | stop => exact .stopped

section

variable {service next : Service} {action : Action} {result : Outcome}

/-! ## Where the lookups are -/

theorem Did.open' (did : Did service action result next) :
    service.open' ++ result.arrived = result.departed ++ next.open' := by
  cases did with
  | quiet | stopped | refused => exact List.append_nil _
  | taken running => exact List.append_assoc ..
  | first idle waits =>
      simp only [Service.open', idle, waits]
      exact List.append_nil _
  | more collecting room waits =>
      simp [Service.open', collecting, waits, Task.lookups, Outcome.arrived, Outcome.departed]
  | full collecting =>
      simp only [Service.open', collecting]
      exact List.append_nil _
  | answered loading all each =>
      simp only [Service.open', loading, Task.lookups, all]
      exact List.append_nil _
  | completed sending | done sending =>
      simp only [Service.open', sending]
      exact List.append_nil _
  | exited running => rfl

/-- Nothing happens behind an exit, and lookups that come are refused. -/
theorem Did.behind_exit (did : Did service action result next) (exited : service.task = .exited) :
    next.task = .exited ∧ (result = .quiet ∨ ∃ lookup, result = .refused lookup) := by
  cases did with
  | quiet => exact ⟨exited, Or.inl rfl⟩
  | stopped => exact ⟨exited, Or.inl rfl⟩
  | refused => exact ⟨exited, Or.inr ⟨_, rfl⟩⟩
  | taken running => exact absurd exited running
  | exited running => exact absurd exited running
  | first idle waits => cases exited.symm.trans idle
  | more collecting room waits => cases exited.symm.trans collecting
  | full collecting => cases exited.symm.trans collecting
  | answered loading all each => cases exited.symm.trans loading
  | completed sending => cases exited.symm.trans sending
  | done sending => cases exited.symm.trans sending

theorem Did.exits {lost : List AuthLookup} (did : Did service action (.exited lost) next) :
    next.task = .exited := by
  cases did with
  | exited running => rfl

end

/-! ## What a lookup is completed with -/

/-- The cache has answered this for a lookup of a batch, in its place among the answers. -/
def AnsweredIn (past : List Entry) (answered : Answered) : Prop :=
  ∃ entry ∈ past, ∃ batch oauths, entry.before.task = .loading batch ∧ entry.action = .loaded oauths ∧
    1 ≤ batch.length ∧ batch.length ≤ authDbBatchLimit ∧
    ∃ index : Nat, batch[index]? = some answered.1 ∧ answered.2 = oauths.bind fun oauths => oauths[index]?

theorem AnsweredIn.later {past : List Entry} {answered : Answered} (told : AnsweredIn past answered) (entry : Entry) :
    AnsweredIn (past ++ [entry]) answered := by
  obtain ⟨other, member, rest⟩ := told
  exact ⟨other, List.mem_append_left _ member, rest⟩

/-- What the task holds: batches that are not too large, and answers that were given. -/
def Task.Holds (past : List Entry) : Task → Prop
  | .collecting batch | .loading batch => 1 ≤ batch.length ∧ batch.length ≤ authDbBatchLimit
  | .sending answered => ∀ one ∈ answered, AnsweredIn past one
  | _ => True

theorem Task.Holds.later {past : List Entry} {task : Task} (holds : task.Holds past) (entry : Entry) :
    task.Holds (past ++ [entry]) := by
  cases task with
  | sending answered => exact fun one member => (holds one member).later entry
  | _ => exact holds

theorem Did.holds {past : List Entry} {service next : Service} {action : Action} {result : Outcome}
    (did : Did service action result next) (holds : service.task.Holds past) :
    next.task.Holds (past ++ [⟨service, action, result, next⟩]) := by
  have kept := holds.later ⟨service, action, result, next⟩
  cases did with
  | quiet | stopped | taken | refused => exact kept
  | first idle waits => exact ⟨Nat.le_refl 1, (by decide : 1 ≤ authDbBatchLimit)⟩
  | more collecting room waits =>
      simp only [Task.Holds, List.length_append, List.length_singleton]
      omega
  | full collecting =>
      rw [collecting] at kept
      exact kept
  | answered loading all each =>
      rw [loading] at holds
      intro one member
      exact ⟨_, List.mem_append_right _ (List.mem_singleton_self _), _, _, loading, rfl, holds.1, holds.2,
        each one member⟩
  | completed sending =>
      rw [sending] at kept
      exact fun one member => kept one (List.mem_cons_of_mem _ member)
  | done sending => exact True.intro
  | exited running => exact True.intro

/-- A lookup of some past is completed with what the cache answered for it, or rejected where the cache failed;
where the cache answered what it holds, the password provider says the same. -/
def CompletedWith (past : List Entry) (lookup : AuthLookup) (result : SipAuthLookupResult) : Prop :=
  ∃ oauth, AnsweredIn past (lookup, oauth) ∧ result = resultOf (lookup, oauth) ∧
    ∀ state : State, oauth = some (state.get lookup.deviceId lookup.realm) →
      Agrees state lookup.deviceId lookup.realm result

theorem completedWith_of_answeredIn {past : List Entry} {answered : Answered} (told : AnsweredIn past answered) :
    CompletedWith past answered.1 (resultOf answered) := by
  refine ⟨answered.2, told, rfl, fun state held => ?_⟩
  rw [resultOf, held]
  exact authResult_agrees state answered.1.deviceId answered.1.realm

/-- What is completed was answered. -/
theorem Did.completes {past : List Entry} {service next : Service} {action : Action} {lookup : AuthLookup}
    {result : SipAuthLookupResult} (did : Did service action (.completed lookup result) next)
    (holds : service.task.Holds past) : CompletedWith past lookup result := by
  cases did with
  | completed sending =>
      rw [sending] at holds
      exact completedWith_of_answeredIn (holds _ (List.mem_cons_self ..))

/-- The task before the first lookup. -/
def init : Service := ⟨[], true, .idle⟩

/-- In every run the lookups are completed in the order in which they came, each once, and each with what the
cache answered for it, or rejected where the cache failed; those that are not completed are still there, unless
the task has exited, which loses them and ends the work. -/
theorem lookups_completed_in_order (actions : List Action) :
    (Runs.run step init actions).flatMap (fun entry => entry.result.arrived) =
        (Runs.run step init actions).flatMap (fun entry => entry.result.departed) ++
          (Runs.final step init actions).open' ∧
      ∀ first entry later, Runs.run step init actions = first ++ entry :: later →
        (∀ lookup result, entry.result = .completed lookup result → CompletedWith first lookup result) ∧
          ∀ lost, entry.result = .exited lost →
            ∀ other ∈ later, other.result = .quiet ∨ ∃ lookup, other.result = .refused lookup := by
  constructor
  · exact Runs.through_run Service.open' (fun entry : Entry => entry.result.arrived)
      (fun entry : Entry => entry.result.departed)
      (fun service action => (did_step service action).open') init actions
  · intro first entry later split
    have member : entry ∈ Runs.run step init actions := by
      rw [split]
      exact List.mem_append_right _ (List.mem_cons_self ..)
    have isStep := Runs.mem_run member
    have did : Did entry.before entry.action entry.result entry.after := by
      rw [isStep]
      exact did_step entry.before entry.action
    constructor
    · intro lookup result completes
      have atFirst : init.task.Holds [] := True.intro
      have holds := Runs.history_run (fun past service => service.task.Holds past) (fun _ _ => True)
        (fun _ service action holds _ => (did_step service action).holds holds) atFirst (fun _ _ => True.intro) split
      rw [List.nil_append] at holds
      rw [completes] at did
      exact did.completes holds
    · intro lost exits other behind
      rw [exits] at did
      have exited := did.exits
      obtain ⟨rest, rfl⟩ := Runs.run_behind split
      have stays := Runs.invariant_run (fun service : Service => service.task = .exited) (fun _ _ => True)
        (fun service action exited _ => ((did_step service action).behind_exit exited).1) exited
        (fun _ _ => True.intro) other behind
      rw [congrArg Runs.Transition.result (Runs.mem_run behind)]
      exact ((did_step other.before other.action).behind_exit stays.1).2

end Gmv.Session.AuthBatches
