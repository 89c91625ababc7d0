import Gmv.Session.DialogLoadable

/-!
# Clients of a dialog row

A client reads the row of a stream and later updates it under the version that it
read.  In between other clients may update the row, and each update raises the
version: an update by a client succeeds only on the row that the client has seen.
-/

namespace Gmv.Session.SipDialogSessionRepository

open Gmv.Library

variable {db : DialogDb}

/-- `DIALOG_EXPIRE_HOURS`. -/
def dialogExpire : NaiveDateTime := millis (8 * 60 * 60 * 1000)

/-- A session that was read from a row, at its version or at an earlier one. -/
structure Seen (session : SipDialogSession) (row : SipDialogSessionRow) : Prop where
  older : session.version.toInt ≤ row.version.toInt
  node : session.signalNodeId = row.signalNodeId
  state : session.version = row.version → row.state = session.state.toText

section

variable {table : DialogTable db} {streamId : String}
  {row next : SipDialogSessionRow} {session : SipDialogSession} {call : Call}

/-- A row that is found and loads. -/
theorem findByStreamId_eq_some (read : findByStreamId streamId table = .ok (some session)) :
    ∃ row, table.find (db.weight streamId) = some row ∧ row = session.toRow row.routeSet ∧
      session.Valid := by
  simp only [findByStreamId, check_bind_eq_ok, check_unit] at read
  obtain ⟨_, read⟩ := read
  cases found : table.find (db.weight streamId) with
  | none =>
      rw [found] at read
      cases read
  | some row =>
      simp only [found, check_bind_eq_ok, check_pure_eq_ok, Option.some.injEq] at read
      obtain ⟨loaded, isLoaded, rfl⟩ := read
      obtain ⟨_, stored, valid⟩ := SipDialogSession.tryFrom_eq_ok.mp isLoaded
      exact ⟨row, rfl, stored, valid⟩

/-- A client that reads the row has seen it. -/
theorem Seen.of_read (found : table.find (db.weight streamId) = some row)
    (read : findByStreamId streamId table = .ok (some session)) : Seen session row := by
  obtain ⟨held, isHeld, stored, _⟩ := findByStreamId_eq_some read
  rw [found] at isHeld
  cases isHeld
  rw [stored]
  exact ⟨Int.le_refl _, rfl, fun _ => rfl⟩

theorem findByStreamId_of_found (named : validateLen streamId 64 "stream_id" = .ok ())
    (found : table.find (db.weight streamId) = some row)
    (loaded : SipDialogSession.tryFrom db.json row = .ok session) :
    findByStreamId streamId table = .ok (some session) := by
  simp only [findByStreamId, named, found, loaded]
  rfl

theorem findByStreamId_ne_none (found : table.find (db.weight streamId) = some row) :
    findByStreamId streamId table ≠ .ok none := by
  intro read
  simp only [findByStreamId, check_bind_eq_ok, found, check_pure_eq_ok, reduceCtorEq, and_false,
    exists_false] at read

theorem Changes.signalNodeId_eq (changes : Changes db row call next) :
    next.signalNodeId = row.signalNodeId := by
  cases changes <;> rfl

/-- An update leaves every version that was read behind. -/
theorem Seen.behind (seen : Seen session row) (addressed : Addressed db row call)
    (changes : Changes db row call next) : session.version ≠ next.version := by
  intro same
  have risen := changes.version_step addressed
  have older := seen.older
  rw [same] at older
  omega

theorem Seen.change (seen : Seen session row) (addressed : Addressed db row call)
    (changes : Changes db row call next) : Seen session next := by
  have risen := changes.version_step addressed
  have older := seen.older
  refine ⟨by omega, seen.node.trans changes.signalNodeId_eq.symm, fun same => ?_⟩
  exact absurd same (seen.behind addressed changes)

theorem refused_cases {result : Except DialogError Bool} (refused : result ≠ .ok true) :
    result = .ok false ∨ ∃ error, result = .error error := by
  cases result with
  | error error => exact Or.inr ⟨error, rfl⟩
  | ok success =>
      cases success with
      | false => exact Or.inl rfl
      | true => exact absurd rfl refused

/-- What a call does to a row that is there. -/
theorem step_row_cases (call : Call) (found : table.find (db.weight call.streamId) = some row) :
    ((step db table call).1 ≠ .ok true ∧ (step db table call).2 = table) ∨
      ∃ next, (step db table call).1 = .ok true ∧ Addressed db row call ∧
        Changes db row call next ∧
        (step db table call).2.find (db.weight call.streamId) = some next := by
  rcases step_cases table call with refuses | succeeds
  · exact Or.inl ⟨refuses.fails, refuses.same⟩
  · cases succeeds with
    | inserted called insertable free stores =>
        rw [called, Call.streamId, free] at found
        cases found
    | @changed old next held addressed changes stores =>
        rw [found] at held
        cases held
        have keyed : db.key next = db.weight call.streamId :=
          changes.key_eq.trans (RowTable.find_eq_some.mp found).2
        refine Or.inr ⟨next, stores.succeeds, addressed, changes, ?_⟩
        rw [← keyed]
        exact stores.found

/-! ## The row that an update writes -/

section Written

variable {signalNodeId : String} {version currentCseq nextCseq : Int64} {time expireAt : NaiveDateTime}

theorem Changes.of_casMarkEstablished {fields : EstablishedDialogFields}
    (changes : Changes db row (.casMarkEstablished streamId signalNodeId version fields) next) :
    row.state = "INVITING" ∧ next.state = "ESTABLISHED" := by
  generalize isCall : Call.casMarkEstablished streamId signalNodeId version fields = call at changes
  cases changes with
  | markEstablished valid stored inviting created updated => exact ⟨inviting, rfl⟩
  | _ => cases isCall

theorem Changes.of_casReserveLocalCseq
    (changes : Changes db row
      (.casReserveLocalCseq streamId signalNodeId version currentCseq nextCseq time) next) :
    next = { row with localCseq := nextCseq, updatedAt := db.datetime time, version := row.version + 1 } := by
  generalize isCall : Call.casReserveLocalCseq streamId signalNodeId version currentCseq nextCseq
    time = call at changes
  cases changes with
  | reserveLocalCseq reserves active updated =>
      rw [Call.casReserveLocalCseq.injEq] at isCall
      obtain ⟨_, _, _, _, rfl, rfl⟩ := isCall
      rfl
  | _ => cases isCall

theorem Changes.of_casBeginTerminating
    (changes : Changes db row
      (.casBeginTerminating streamId signalNodeId version currentCseq nextCseq time) next) :
    next = { row with
      localCseq := nextCseq
      state := "TERMINATING"
      updatedAt := db.datetime time
      version := row.version + 1 } := by
  generalize isCall : Call.casBeginTerminating streamId signalNodeId version currentCseq nextCseq
    time = call at changes
  cases changes with
  | beginTerminating reserves established updated =>
      rw [Call.casBeginTerminating.injEq] at isCall
      obtain ⟨_, _, _, _, rfl, rfl⟩ := isCall
      rfl
  | _ => cases isCall

theorem Changes.of_casTouch
    (changes : Changes db row (.casTouch streamId signalNodeId version time expireAt) next) :
    isActive row = true ∧ row.lastSeenAt ≤ time ∧ row.updatedAt ≤ time ∧ next = { row with
      lastSeenAt := db.datetime time
      expireAt := db.datetime expireAt
      updatedAt := db.datetime time
      version := row.version + 1 } := by
  generalize isCall : Call.casTouch streamId signalNodeId version time expireAt = call at changes
  cases changes with
  | touch lives active seen updated =>
      rw [Call.casTouch.injEq] at isCall
      obtain ⟨_, _, _, rfl, rfl⟩ := isCall
      exact ⟨active, seen, updated, rfl⟩
  | _ => cases isCall

theorem Changes.of_casTransition {expectedState nextState : DialogState}
    (changes : Changes db row
      (.casTransition streamId signalNodeId version expectedState nextState time) next) :
    row.state = expectedState.toText ∧ row.updatedAt ≤ time ∧
      expectedState.canTransitionTo nextState = true ∧ next = { row with
        state := nextState.toText
        updatedAt := db.datetime time
        version := row.version + 1 } := by
  generalize isCall : Call.casTransition streamId signalNodeId version expectedState nextState
    time = call at changes
  cases changes with
  | transition allowed expected updated =>
      rw [Call.casTransition.injEq] at isCall
      obtain ⟨_, _, _, rfl, rfl, rfl⟩ := isCall
      exact ⟨expected, updated, allowed, rfl⟩
  | _ => cases isCall

end Written

end

end Gmv.Session.SipDialogSessionRepository
