import Gmv.Session.DialogProtocol
import Gmv.Session.DialogQueries
import Mathlib.Data.Char
import Mathlib.Data.List.Lex

/-!
# Rows that load

A query fails on any row that its conversion rejects, so every row in the table
has to load.  Each operation checks only the fields it writes, and before its times
are rounded.  The calls that leave a row that does not load are exactly a transition
from `INVITING` to `ESTABLISHED`, which stores neither a remote tag nor the time of
establishment, a reservation after the largest sequence number, which wraps, and one
that stores the time a dialog was last seen and the time it expires as the same time.
-/

namespace Gmv.Session.SipDialogSessionRepository

open Gmv.Library

variable {db : DialogDb}

def Loadable (json : SerdeJson) (row : SipDialogSessionRow) : Prop :=
  ∃ session, SipDialogSession.tryFrom json row = .ok session

/-- No row stands in the way of a query. -/
structure Loads (table : DialogTable db) : Prop where
  rows : ∀ row ∈ table.rows, Loadable db.json row
  find : ∀ streamId, validateLen streamId 64 "stream_id" = .ok () →
    ∃ found, findByStreamId streamId table = .ok found
  page : ∀ signalNodeId states afterStreamId limit,
    validatePage signalNodeId states afterStreamId limit = .ok () →
    ∃ page, pageOwnedByStates signalNodeId states afterStreamId limit table = .ok page

/-- The updates of a row that leave it unloadable. -/
inductive SpoilsRow (db : DialogDb) (row : SipDialogSessionRow) : Call → Prop
  | establishes {streamId signalNodeId : String} {updatedAt : NaiveDateTime}
      (inviting : row.state = "INVITING") (updated : row.updatedAt ≤ updatedAt) :
      SpoilsRow db row
        (.casTransition streamId signalNodeId row.version .inviting .established updatedAt)
  | terminates {streamId signalNodeId : String} {updatedAt : NaiveDateTime}
      (established : row.state = "ESTABLISHED") (last : row.localCseq = Int64.maxValue)
      (updated : row.updatedAt ≤ updatedAt) :
      SpoilsRow db row (.casBeginTerminating streamId signalNodeId row.version
        Int64.maxValue Int64.minValue updatedAt)
  | reserves {streamId signalNodeId : String} {updatedAt : NaiveDateTime}
      (active : isActive row = true) (last : row.localCseq = Int64.maxValue)
      (updated : row.updatedAt ≤ updatedAt) :
      SpoilsRow db row (.casReserveLocalCseq streamId signalNodeId row.version
        Int64.maxValue Int64.minValue updatedAt)
  | marks {streamId signalNodeId : String} {fields : EstablishedDialogFields}
      {routeSet : Option String} (valid : fields.Valid)
      (stored : routeSetToJson db.json fields.routeSet = .ok routeSet)
      (inviting : row.state = "INVITING") (created : row.createdAt ≤ fields.establishedAt)
      (updated : row.updatedAt ≤ fields.updatedAt)
      (together : db.datetime fields.lastSeenAt = db.datetime fields.expireAt) :
      SpoilsRow db row (.casMarkEstablished streamId signalNodeId row.version fields)
  | touches {streamId signalNodeId : String} {lastSeenAt expireAt : NaiveDateTime}
      (lives : lastSeenAt < expireAt) (active : isActive row = true)
      (seen : row.lastSeenAt ≤ lastSeenAt) (updated : row.updatedAt ≤ lastSeenAt)
      (together : db.datetime lastSeenAt = db.datetime expireAt) :
      SpoilsRow db row (.casTouch streamId signalNodeId row.version lastSeenAt expireAt)

/-- A call that leaves the row of its stream unloadable. -/
inductive Spoils (table : DialogTable db) (call : Call) : Prop
  | inserts {session : SipDialogSession} {routeSet : Option String}
      (called : call = .insertInviting session) (insertable : Insertable db.json session routeSet)
      (free : table.find (db.weight session.streamId) = none)
      (together : db.datetime session.lastSeenAt = db.datetime session.expireAt)
  | updates {row : SipDialogSessionRow} (found : table.find (db.weight call.streamId) = some row)
      (addressed : Addressed db row call) (spoils : SpoilsRow db row call)

/-- The times of a row that later ones are compared with are as a column keeps them. -/
structure KeepsTimes (db : DialogDb) (row : SipDialogSessionRow) : Prop where
  lastSeenAt : db.datetime.Keeps row.lastSeenAt
  createdAt : db.datetime.Keeps row.createdAt
  updatedAt : db.datetime.Keeps row.updatedAt

section Rows

variable {json : SerdeJson} {row next : SipDialogSessionRow} {call : Call}

theorem loadable_iff : Loadable json row ↔ ∃ (session : SipDialogSession) (routeSet : Option String),
    row = session.toRow routeSet ∧ routeSetFromJson json routeSet = .ok session.routeSet ∧
      session.Valid := by
  constructor
  · rintro ⟨session, loaded⟩
    obtain ⟨routed, stored, valid⟩ := SipDialogSession.tryFrom_eq_ok.mp loaded
    exact ⟨session, row.routeSet, stored, routed, valid⟩
  · rintro ⟨session, routeSet, rfl, routed, valid⟩
    exact ⟨session, SipDialogSession.tryFrom_eq_ok.mpr ⟨routed, rfl, valid⟩⟩

/-- Times that are stored apart are stored in their order. -/
theorem stored_lt {before after : NaiveDateTime} (earlier : before < after)
    (apart : db.datetime before ≠ db.datetime after) : db.datetime before < db.datetime after :=
  lt_of_le_of_ne (db.datetime.monotone earlier.le) apart

theorem loadable_of_insertable {session : SipDialogSession} {routeSet : Option String}
    (insertable : Insertable db.json session routeSet)
    (apart : db.datetime session.lastSeenAt ≠ db.datetime session.expireAt) :
    Loadable db.json ((session.stored db.datetime).toRow routeSet) :=
  loadable_iff.mpr ⟨session.stored db.datetime, routeSet, rfl,
    routeSetFromJson_toJson insertable.stored,
    insertable.valid.stored (stored_lt insertable.valid.expireAt apart)⟩

theorem Loadable.localCseq_pos (loadable : Loadable json row) : 0 < row.localCseq := by
  obtain ⟨session, routeSet, rfl, -, valid⟩ := loadable_iff.mp loadable
  exact valid.localCseq

theorem Loadable.establishedAt_of_inviting (loadable : Loadable json row)
    (inviting : row.state = "INVITING") : row.establishedAt = none := by
  obtain ⟨session, routeSet, rfl, -, valid⟩ := loadable_iff.mp loadable
  have text : session.state.toText = DialogState.inviting.toText := inviting
  exact valid.inviting (DialogState.toText_injective text)

theorem Loadable.establishedAt_of_established (loadable : Loadable json row)
    (established : row.state = "ESTABLISHED") : row.establishedAt ≠ none := by
  obtain ⟨session, routeSet, rfl, -, valid⟩ := loadable_iff.mp loadable
  have text : session.state.toText = DialogState.established.toText := established
  exact (valid.confirmed (.inl (DialogState.toText_injective text))).2

theorem Loadable.lastSeenAt_lt (loadable : Loadable json row) : row.lastSeenAt < row.expireAt := by
  obtain ⟨session, routeSet, rfl, -, valid⟩ := loadable_iff.mp loadable
  exact valid.expireAt

/-- A successor of a version is a version. -/
theorem Addressed.version_succ (addressed : Addressed db row call) : 0 ≤ row.version + 1 := by
  rw [Int64.le_iff_toInt_le, toInt_succ addressed.successor]
  have version := Int64.le_iff_toInt_le.mp addressed.version
  rw [Int64.toInt_zero] at version ⊢
  omega

/-- A reserved sequence number is positive unless it wrapped. -/
theorem Reserves.positive_next {currentCseq nextCseq : Int64}
    (reserves : Reserves row currentCseq nextCseq) (successor : currentCseq ≠ Int64.maxValue) :
    0 < nextCseq := by
  rw [reserves.next, Int64.lt_iff_toInt_lt, toInt_succ successor]
  have positive := Int64.lt_iff_toInt_lt.mp reserves.positive
  omega

/-- An update that spoils its row is one that the row accepts. -/
theorem SpoilsRow.changes (spoils : SpoilsRow db row call) : ∃ next, Changes db row call next := by
  cases spoils with
  | establishes inviting updated => exact ⟨_, .transition rfl inviting updated⟩
  | terminates established last updated =>
      exact ⟨_, .beginTerminating ⟨last, by decide, by decide, by decide⟩ established updated⟩
  | reserves active last updated =>
      exact ⟨_, .reserveLocalCseq ⟨last, by decide, by decide, by decide⟩ active updated⟩
  | marks valid stored inviting created updated together =>
      exact ⟨_, .markEstablished valid stored inviting created updated⟩
  | touches lives active seen updated together => exact ⟨_, .touch lives active seen updated⟩

/-- An update that spoils its row leaves it unloadable. -/
theorem SpoilsRow.unloadable (spoils : SpoilsRow db row call) (loadable : Loadable db.json row)
    (changes : Changes db row call next) : ¬Loadable db.json next := by
  intro loads
  cases spoils with
  | establishes inviting updated =>
      cases changes with
      | transition allowed expected later =>
          have missing : row.establishedAt = none := loadable.establishedAt_of_inviting inviting
          exact loads.establishedAt_of_established rfl missing
  | terminates established last updated =>
      cases changes with
      | beginTerminating reserves _ _ =>
          have positive : 0 < Int64.minValue := loads.localCseq_pos
          exact absurd positive (by decide)
  | reserves active last updated =>
      cases changes with
      | reserveLocalCseq reserves _ _ =>
          have positive : 0 < Int64.minValue := loads.localCseq_pos
          exact absurd positive (by decide)
  | marks valid stored inviting created updated together =>
      cases changes with
      | markEstablished _ _ _ _ _ => exact absurd together loads.lastSeenAt_lt.ne
  | touches lives active seen updated together =>
      cases changes with
      | touch _ _ _ _ => exact absurd together loads.lastSeenAt_lt.ne

/-- A session stays valid when its version and the time of its update advance. -/
theorem valid_advance {session : SipDialogSession} {updatedAt : NaiveDateTime} {version : Int64}
    (valid : session.Valid) (versioned : 0 ≤ version) (updated : session.updatedAt ≤ updatedAt) :
    SipDialogSession.Valid { session with updatedAt := updatedAt, version := version } :=
  { valid with
    version := versioned
    updatedAt := valid.updatedAt.trans updated
    establishedAt := by
      intro value established
      obtain ⟨created, before⟩ := valid.establishedAt value established
      exact ⟨created, before.trans updated⟩ }

/-- Every other update keeps its row loadable. -/
theorem loadable_of_changes (loadable : Loadable db.json row) (kept : KeepsTimes db row)
    (addressed : Addressed db row call) (changes : Changes db row call next)
    (harmless : ¬SpoilsRow db row call) : Loadable db.json next := by
  have nextVersion := addressed.version_succ
  obtain ⟨session, routeSet, rfl, routed, valid⟩ := loadable_iff.mp loadable
  rw [loadable_iff]
  cases changes with
  | @markEstablished _ _ fields text fieldsValid stored inviting created updated =>
      refine ⟨{ session with
        remoteTag := some fields.remoteTag
        localCseq := fields.localCseq
        remoteCseq := fields.remoteCseq
        contactUri := fields.contactUri
        routeSet := fields.routeSet
        localSipAddr := fields.localSipAddr
        remoteSipAddr := fields.remoteSipAddr
        state := .established
        establishedAt := some (db.datetime fields.establishedAt)
        lastSeenAt := db.datetime fields.lastSeenAt
        expireAt := db.datetime fields.expireAt
        updatedAt := db.datetime fields.updatedAt
        version := session.version + 1 }, text, rfl, routeSetFromJson_toJson stored, ?_⟩
      have apart : db.datetime fields.lastSeenAt ≠ db.datetime fields.expireAt := by
        intro together
        exact harmless (.marks fieldsValid stored inviting created updated together)
      exact { valid with
        remoteTag := fieldsValid.remoteTag
        contactUri := fieldsValid.contactUri
        localSipAddr := fieldsValid.localSipAddr
        remoteSipAddr := fieldsValid.remoteSipAddr
        routeSet := fieldsValid.routeSet
        localCseq := fieldsValid.localCseq
        remoteCseq := fieldsValid.remoteCseq
        version := nextVersion
        updatedAt := valid.updatedAt.trans (kept.updatedAt.le_round updated)
        lastSeenAt := kept.createdAt.le_round (created.trans fieldsValid.lastSeenAt)
        expireAt := stored_lt fieldsValid.expireAt apart
        establishedAt := by
          rintro value ⟨⟩
          exact ⟨kept.createdAt.le_round created, db.datetime.monotone fieldsValid.updatedAt⟩
        inviting := nofun
        confirmed := fun _ => ⟨nofun, nofun⟩ }
  | @beginTerminating _ _ currentCseq nextCseq updatedAt reserves established updated =>
      refine ⟨{ session with
        localCseq := nextCseq
        state := .terminating
        updatedAt := db.datetime updatedAt
        version := session.version + 1 }, routeSet, rfl, routed, ?_⟩
      have successor : currentCseq ≠ Int64.maxValue := by
        rintro rfl
        rw [show nextCseq = Int64.minValue from reserves.next] at harmless
        exact harmless (.terminates established reserves.current updated)
      have text : session.state.toText = DialogState.established.toText := established
      have confirmed := valid.confirmed (.inl (DialogState.toText_injective text))
      exact { valid_advance valid nextVersion (kept.updatedAt.le_round updated) with
        localCseq := reserves.positive_next successor
        inviting := nofun
        confirmed := fun _ => confirmed }
  | @transition _ _ expectedState nextState updatedAt allowed expected updated =>
      refine ⟨{ session with
        state := nextState
        updatedAt := db.datetime updatedAt
        version := session.version + 1 }, routeSet, rfl, routed, ?_⟩
      have stateEq : session.state = expectedState := DialogState.toText_injective expected
      exact { valid_advance valid nextVersion (kept.updatedAt.le_round updated) with
        inviting := by
          rintro rfl
          cases expectedState <;> cases allowed
        confirmed := by
          rintro (rfl | rfl)
          · cases expectedState with
            | inviting => exact absurd (.establishes expected updated) harmless
            | _ => cases allowed
          · cases expectedState with
            | established => exact valid.confirmed (.inl stateEq)
            | _ => cases allowed }
  | @reserveLocalCseq _ _ currentCseq nextCseq updatedAt reserves active updated =>
      refine ⟨{ session with
        localCseq := nextCseq
        updatedAt := db.datetime updatedAt
        version := session.version + 1 }, routeSet, rfl, routed, ?_⟩
      have successor : currentCseq ≠ Int64.maxValue := by
        rintro rfl
        rw [show nextCseq = Int64.minValue from reserves.next] at harmless
        exact harmless (.reserves active reserves.current updated)
      exact { valid_advance valid nextVersion (kept.updatedAt.le_round updated) with
        localCseq := reserves.positive_next successor }
  | @touch _ _ lastSeenAt expireAt lives active seen updated =>
      refine ⟨{ session with
        lastSeenAt := db.datetime lastSeenAt
        expireAt := db.datetime expireAt
        updatedAt := db.datetime lastSeenAt
        version := session.version + 1 }, routeSet, rfl, routed, ?_⟩
      have apart : db.datetime lastSeenAt ≠ db.datetime expireAt := by
        intro together
        exact harmless (.touches lives active seen updated together)
      exact { valid_advance valid nextVersion (kept.updatedAt.le_round updated) with
        lastSeenAt := valid.lastSeenAt.trans (kept.lastSeenAt.le_round seen)
        expireAt := stored_lt lives apart }

/-- An update writes rounded times and leaves the others. -/
theorem keepsTimes_of_changes (kept : KeepsTimes db row) (changes : Changes db row call next) :
    KeepsTimes db next := by
  cases changes with
  | markEstablished =>
      exact ⟨db.datetime.keeps_round _, kept.createdAt, db.datetime.keeps_round _⟩
  | beginTerminating => exact { kept with updatedAt := db.datetime.keeps_round _ }
  | transition => exact { kept with updatedAt := db.datetime.keeps_round _ }
  | reserveLocalCseq => exact { kept with updatedAt := db.datetime.keeps_round _ }
  | touch => exact ⟨db.datetime.keeps_round _, kept.createdAt, db.datetime.keeps_round _⟩

end Rows

section Tables

/-- Queries work exactly when every row loads. -/
theorem loads_iff {table : DialogTable db} :
    Loads table ↔ ∀ stream row, table.find stream = some row → Loadable db.json row := by
  constructor
  · intro loads stream row found
    exact loads.rows row (RowTable.find_eq_some.mp found).1
  · intro loadable
    have rows : ∀ row ∈ table.rows, Loadable db.json row := fun row member =>
      loadable (db.key row) row (RowTable.find_eq_some.mpr ⟨member, rfl⟩)
    constructor
    · exact rows
    · intro streamId valid
      cases found : table.find (db.weight streamId) with
      | none => exact ⟨none, by simp [findByStreamId, valid, found]⟩
      | some row =>
          obtain ⟨session, loaded⟩ := loadable _ row found
          exact ⟨some session, by simp [findByStreamId, valid, found, loaded]⟩
    · intro signalNodeId states afterStreamId limit valid
      obtain ⟨page, collected⟩ := mapM_eq_ok_of_forall fun row selected =>
        rows row (mem_of_mem_selectOwned signalNodeId states afterStreamId limit selected)
      exact ⟨page, by simp [pageOwnedByStates, valid, collected]⟩

/-- The rows of a table that were written by calls. -/
def KeptTable (table : DialogTable db) : Prop :=
  ∀ stream row, table.find stream = some row → KeepsTimes db row

theorem keptTable_step (table : DialogTable db) (call : Call) (kept : KeptTable table) :
    KeptTable (step db table call).2 := by
  intro stream row found
  cases streamStep table call stream with
  | kept idle same =>
      rw [same] at found
      exact kept stream row found
  | inserted called insertable free stored =>
      rw [stored] at found
      cases found
      exact ⟨db.datetime.keeps_round _, db.datetime.keeps_round _, db.datetime.keeps_round _⟩
  | changed wrote held addressed changes stored =>
      rw [stored] at found
      cases found
      exact keepsTimes_of_changes (kept stream _ held) changes

/-- A call keeps every row loadable exactly when it spoils none. -/
theorem loads_step (table : DialogTable db) (call : Call) (loads : Loads table)
    (kept : KeptTable table) : Loads (step db table call).2 ↔ ¬Spoils table call := by
  rw [loads_iff] at loads ⊢
  constructor
  · intro next spoils
    cases spoils with
    | @inserts session routeSet called insertable free together =>
        have stores := step_of_insertable insertable free
        rw [← called] at stores
        exact absurd together (next _ _ stores.found).lastSeenAt_lt.ne
    | @updates row found addressed spoils =>
        obtain ⟨written, changes⟩ := spoils.changes
        have stores := step_of_changes found addressed changes
        exact spoils.unloadable (loads _ row found) changes (next _ written stores.found)
  · intro harmless stream row found
    cases streamStep table call stream with
    | kept idle same =>
        rw [same] at found
        exact loads stream row found
    | @inserted session routeSet called insertable free stored =>
        have keyed : db.weight session.streamId = stream := (RowTable.find_eq_some.mp stored).2
        rw [stored] at found
        cases found
        apply loadable_of_insertable insertable
        intro together
        rw [← keyed] at free
        exact harmless (.inserts called insertable free together)
    | @changed before next wrote held addressed changes stored =>
        rw [stored] at found
        cases found
        apply loadable_of_changes (loads stream before held) (kept stream before held) addressed
          changes
        intro spoils
        rw [writes, Bool.and_eq_true, decide_eq_true_eq] at wrote
        exact harmless (.updates (wrote.1 ▸ held) addressed spoils)

/-- Every row loads after every call exactly when no call spoils one. -/
theorem rows_load_iff_unspoiled (db : DialogDb) (calls : List Call) :
    (∀ entry ∈ Runs.run (step db) (RowTable.empty _) calls, Loads entry.after) ↔
      ∀ entry ∈ Runs.run (step db) (RowTable.empty _) calls,
        ¬Spoils entry.before entry.action := by
  apply Runs.check_run_iff (fun table => Loads table ∧ KeptTable table)
    (fun entry => Loads entry.after) (fun table call => ¬Spoils table call)
  · rintro table call ⟨loads, kept⟩ harmless
    exact ⟨(loads_step table call loads kept).mpr harmless, keptTable_step table call kept⟩
  · rintro table call ⟨loads, kept⟩
    exact loads_step table call loads kept
  · constructor
    · rw [loads_iff]
      intro stream row found
      simp at found
    · intro stream row found
      simp at found

end Tables

/-- A serializer that refuses every route set. A dialog without routes never
reaches it. -/
def withoutRoutes : SerdeJson where
  toText _ := none
  fromStr _ := none
  fromStr_toText := nofun

/-- A database of dialogs without routes, whose collation ignores the case of letters. -/
def plainDb : DialogDb where
  json := withoutRoutes
  Weight := List Char
  weight name := name.toList.map Char.toLower
  datetime := datetime3

def playbackDialog : SipDialogSession where
  streamId := "stream-1"
  deviceId := "34020000001320000001"
  channelId := "34020000001320000101"
  sessionType := .playback
  signalNodeId := "session-1"
  mediaNodeId := "media-1"
  ssrc := some "1100000001"
  callId := "call-stream-1"
  localUri := "sip:platform@127.0.0.1:5060"
  remoteUri := "sip:device@127.0.0.1:15060"
  localTag := "tag-stream-1"
  remoteTag := none
  localCseq := 10
  remoteCseq := none
  contactUri := none
  routeSet := []
  localSipAddr := "127.0.0.1:5060"
  remoteSipAddr := "127.0.0.1:15060"
  transport := .udp
  state := .inviting
  establishedAt := none
  lastSeenAt := millis 1000
  expireAt := millis 28801000
  version := 0
  createdAt := millis 1000
  updatedAt := millis 1000

/-- An insert, and a transition that skips `cas_mark_established`. -/
def establishedByTransition : List Call :=
  [.insertInviting playbackDialog,
    .casTransition "stream-1" "session-1" 0 .inviting .established (millis 2000)]

theorem transition_to_established_is_unloadable :
    (Runs.run (step plainDb) (RowTable.empty _) establishedByTransition).map
        (·.result) = [.ok true, .ok true] ∧
      ¬∀ entry ∈ Runs.run (step plainDb) (RowTable.empty _) establishedByTransition,
        Loads entry.after := by
  constructor
  · decide +kernel
  · intro loads
    have rejected : findByStreamId "stream-1"
        (Runs.final (step plainDb) (RowTable.empty _) establishedByTransition) =
        .error (.invalidData
          "established dialog states require remote_tag and established_at") := by
      decide +kernel
    have last := loads _ (List.mem_cons_of_mem _ List.mem_cons_self)
    obtain ⟨found, read⟩ := last.find "stream-1" (by decide +kernel)
    cases rejected.symm.trans read

end Gmv.Session.SipDialogSessionRepository
