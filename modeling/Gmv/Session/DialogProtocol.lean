import Gmv.Session.DialogCas

/-!
# The compare-and-swap protocol of a dialog

The row of one stream through any interleaving of calls by any number of clients.
Each successful update advances the version by one and follows the state diagram,
so a version is won by at most one client, a terminal row is never written again,
and the sequence numbers that clients reserve strictly increase.
-/

namespace Gmv.Session.SipDialogSessionRepository

open Gmv.Library

variable {db : DialogDb}

/-- One call in a run of the repository. -/
abbrev Entry (db : DialogDb) := Runs.Transition (DialogTable db) Call (Except DialogError Bool)

/-- The version an update expects. -/
def Call.expectedVersion : Call → Option Int64
  | insertInviting _ => none
  | casMarkEstablished _ _ expectedVersion _ => some expectedVersion
  | casBeginTerminating _ _ expectedVersion .. => some expectedVersion
  | casTransition _ _ expectedVersion .. => some expectedVersion
  | casReserveLocalCseq _ _ expectedVersion .. => some expectedVersion
  | casTouch _ _ expectedVersion .. => some expectedVersion

/-- The sequence number a call reserves. -/
def Call.reservedCseq : Call → Option Int64
  | casBeginTerminating _ _ _ _ nextCseq _ => some nextCseq
  | casReserveLocalCseq _ _ _ _ nextCseq _ => some nextCseq
  | _ => none

/-- The updates that leave the state of the dialog alone. -/
def Call.staysInPlace : Call → Bool
  | casReserveLocalCseq .. => true
  | casTouch .. => true
  | _ => false

def succeeded : Except DialogError Bool → Bool
  | .ok true => true
  | _ => false

theorem succeeded_eq_true {result : Except DialogError Bool} :
    succeeded result = true ↔ result = .ok true := by
  constructor
  · intro holds
    unfold succeeded at holds
    split at holds
    · rfl
    · cases holds
  · rintro rfl
    rfl

/-- Whether an entry is a successful call on a stream, however the call spells its id. -/
def writes (stream : db.Weight) (entry : Entry db) : Bool :=
  decide (db.weight entry.action.streamId = stream) && succeeded entry.result

/-- The version that an entry won on a stream. -/
def wonVersion (stream : db.Weight) (entry : Entry db) : Option Int :=
  if writes stream entry then entry.action.expectedVersion.map Int64.toInt else none

/-- The sequence number that an entry obtained on a stream. -/
def wonCseq (stream : db.Weight) (entry : Entry db) : Option Int :=
  if writes stream entry then entry.action.reservedCseq.map Int64.toInt else none

/-- The row of a stream before and after one call. -/
inductive StreamStep (table : DialogTable db) (call : Call) (stream : db.Weight) : Prop
  | kept (idle : writes stream (Runs.transition (step db) table call) = false)
      (same : (step db table call).2.find stream = table.find stream)
  | inserted {session : SipDialogSession} {routeSet : Option String}
      (called : call = .insertInviting session) (insertable : Insertable db.json session routeSet)
      (free : table.find stream = none)
      (stored : (step db table call).2.find stream =
        some ((session.stored db.datetime).toRow routeSet))
  | changed {row next : SipDialogSessionRow}
      (wrote : writes stream (Runs.transition (step db) table call) = true)
      (found : table.find stream = some row) (addressed : Addressed db row call)
      (changes : Changes db row call next)
      (stored : (step db table call).2.find stream = some next)

section Changes

variable {row next : SipDialogSessionRow} {call : Call}

theorem Changes.streamId_eq (changes : Changes db row call next) :
    next.streamId = row.streamId := by
  cases changes <;> rfl

theorem Changes.key_eq (changes : Changes db row call next) : db.key next = db.key row :=
  congrArg db.weight changes.streamId_eq

theorem Changes.version_eq (changes : Changes db row call next) :
    call.expectedVersion = some row.version ∧ next.version = row.version + 1 := by
  cases changes <;> exact ⟨rfl, rfl⟩

theorem toInt_succ {value : Int64} (successor : value ≠ Int64.maxValue) :
    (value + 1).toInt = value.toInt + 1 := by
  have below : value.toInt ≠ 2 ^ 63 - 1 := by
    intro last
    apply successor
    apply Int64.toInt_inj.mp
    rw [last]
    rfl
  have upper := value.toInt_lt
  have lower := value.le_toInt
  have one : (1 : Int64).toInt = 1 := rfl
  rw [Int64.toInt_add, one, Int.bmod_eq_of_le (by omega) (by omega)]

theorem Changes.version_step (changes : Changes db row call next) (addressed : Addressed db row call) :
    next.version.toInt = row.version.toInt + 1 := by
  rw [changes.version_eq.2]
  exact toInt_succ addressed.successor

theorem isActive_toText {state : DialogState} (read : row.state = state.toText) :
    isActive row = true ↔ state = .established ∨ state = .terminating := by
  rw [isActive, read]
  cases state <;> decide

/-- An update stays in place or follows the state diagram, out of a state that is
not terminal. -/
theorem Changes.state_step {state : DialogState} (changes : Changes db row call next)
    (read : row.state = state.toText) :
    state.isTerminal = false ∧ ∃ nextState : DialogState, next.state = nextState.toText ∧
      if call.staysInPlace then nextState = state else state.canTransitionTo nextState = true := by
  cases changes with
  | markEstablished valid stored inviting created updated =>
      have text : state.toText = DialogState.inviting.toText := read.symm.trans inviting
      cases DialogState.toText_injective text
      exact ⟨rfl, .established, rfl, rfl⟩
  | beginTerminating reserves established updated =>
      have text : state.toText = DialogState.established.toText := read.symm.trans established
      cases DialogState.toText_injective text
      exact ⟨rfl, .terminating, rfl, rfl⟩
  | transition allowed expected updated =>
      cases DialogState.toText_injective (read.symm.trans expected)
      exact ⟨DialogState.not_terminal_of_canTransitionTo allowed, _, rfl, allowed⟩
  | reserveLocalCseq reserves active updated =>
      refine ⟨?_, state, read, rfl⟩
      rcases (isActive_toText read).mp active with rfl | rfl <;> rfl
  | touch lives active seen updated =>
      refine ⟨?_, state, read, rfl⟩
      rcases (isActive_toText read).mp active with rfl | rfl <;> rfl

/-- A call that reserves a sequence number moves an active row to it. -/
theorem Changes.reserved {cseq : Int64} (changes : Changes db row call next)
    (reserves : call.reservedCseq = some cseq) :
    Reserves row row.localCseq cseq ∧ next.localCseq = cseq ∧ next.state ≠ "INVITING" := by
  cases changes with
  | beginTerminating reservation established updated =>
      cases reserves
      refine ⟨?_, rfl, by simp⟩
      rw [reservation.current]
      exact reservation
  | reserveLocalCseq reservation active updated =>
      cases reserves
      refine ⟨?_, rfl, ?_⟩
      · rw [reservation.current]
        exact reservation
      · intro inviting
        simp [isActive, show row.state = "INVITING" from inviting] at active
  | _ => cases reserves

/-- A row that has left `INVITING` never returns to it, and only a reservation
moves its sequence number. -/
theorem Changes.after_inviting (changes : Changes db row call next)
    (left : row.state ≠ "INVITING") :
    next.state ≠ "INVITING" ∧ (call.reservedCseq = none → next.localCseq = row.localCseq) := by
  cases changes with
  | markEstablished valid stored inviting created updated => exact absurd inviting left
  | beginTerminating reserves established updated => exact ⟨by simp, nofun⟩
  | @transition _ _ expectedState nextState updatedAt allowed expected updated =>
      refine ⟨?_, fun _ => rfl⟩
      intro inviting
      have back : nextState.toText = DialogState.inviting.toText := inviting
      cases DialogState.toText_injective back
      cases expectedState <;> cases allowed
  | reserveLocalCseq reserves active updated => exact ⟨left, nofun⟩
  | touch lives active seen updated => exact ⟨left, fun _ => rfl⟩

end Changes

theorem streamStep (table : DialogTable db) (call : Call) (stream : db.Weight) :
    StreamStep table call stream := by
  rcases step_cases table call with refuses | succeeds
  · apply StreamStep.kept
    · have failed : succeeded (step db table call).1 = false := by
        cases result : (step db table call).1 with
        | error refusal => rfl
        | ok value =>
            cases value with
            | false => rfl
            | true => exact absurd result refuses.fails
      simp [writes, Runs.transition, failed]
    · rw [refuses.same]
  · cases succeeds with
    | @inserted session routeSet called insertable free stores =>
        by_cases same : db.weight session.streamId = stream
        · subst same
          exact .inserted called insertable free stores.found
        · apply StreamStep.kept
          · simp [writes, Runs.transition, called, Call.streamId, same]
          · exact stores.frame stream (Ne.symm same)
    | @changed row next found addressed changes stores =>
        have keyed : db.key next = db.weight call.streamId :=
          changes.key_eq.trans (RowTable.find_eq_some.mp found).2
        by_cases same : db.weight call.streamId = stream
        · subst same
          apply StreamStep.changed _ found addressed changes
          · rw [← keyed]
            exact stores.found
          · simp [writes, Runs.transition, stores.succeeds, succeeded]
        · apply StreamStep.kept
          · simp [writes, Runs.transition, same]
          · apply stores.frame
            rw [keyed]
            exact Ne.symm same

/-- A call leaves the rows of other streams as they are. -/
theorem find_step_of_ne {table : DialogTable db} {call : Call} {stream : db.Weight}
    (differs : db.weight call.streamId ≠ stream) :
    (step db table call).2.find stream = table.find stream := by
  cases streamStep table call stream with
  | kept idle same => exact same
  | inserted called insertable free stored =>
      rw [called] at differs
      exact absurd (RowTable.find_eq_some.mp stored).2 differs
  | changed wrote found addressed changes stored =>
      rw [writes, Bool.and_eq_true, decide_eq_true_eq] at wrote
      exact absurd wrote.1 differs

section Runs

variable (stream : db.Weight)

/-- Every stored state is the text of a state. -/
def Readable (table : DialogTable db) : Prop :=
  ∀ row, table.find stream = some row → ∃ state : DialogState, row.state = state.toText

theorem readable_step (table : DialogTable db) (call : Call) (readable : Readable stream table) :
    Readable stream (step db table call).2 := by
  intro row found
  cases streamStep table call stream with
  | kept idle same =>
      rw [same] at found
      exact readable row found
  | inserted called insertable free stored =>
      rw [stored] at found
      cases found
      exact ⟨_, rfl⟩
  | @changed before next wrote held addressed changes stored =>
      rw [stored] at found
      cases found
      obtain ⟨state, read⟩ := readable before held
      obtain ⟨-, nextState, text, -⟩ := changes.state_step read
      exact ⟨nextState, text⟩

theorem readable_run {calls : List Call} {entry : Entry db}
    (member : entry ∈ Runs.run (step db) (RowTable.empty _) calls) :
    Readable stream entry.before :=
  (Runs.invariant_run (Readable stream) (fun _ _ => True)
    (fun table call readable _ => readable_step stream table call readable)
    (by intro row found; simp at found) (fun _ _ => trivial) entry member).1

/-- A version that was won lies below the version of the row. -/
def VersionPast (table : DialogTable db) (version : Int) : Prop :=
  ∃ row, table.find stream = some row ∧ version < row.version.toInt

theorem versionPast_step (table : DialogTable db) (call : Call) (version : Int)
    (past : VersionPast stream table version) :
    VersionPast stream (step db table call).2 version := by
  obtain ⟨row, held, below⟩ := past
  cases streamStep table call stream with
  | kept idle same => exact ⟨row, same.trans held, below⟩
  | inserted called insertable free stored =>
      rw [free] at held
      cases held
  | changed wrote found addressed changes stored =>
      rw [found] at held
      cases held
      have advanced := changes.version_step addressed
      exact ⟨_, stored, by omega⟩

/-- A version is won by the call that finds it in the row. -/
theorem wonVersion_spec {table : DialogTable db} {call : Call} {version : Int}
    (won : wonVersion stream (Runs.transition (step db) table call) = some version) :
    ∃ row next, table.find stream = some row ∧ row.version.toInt = version ∧
      (step db table call).2.find stream = some next ∧
        next.version.toInt = row.version.toInt + 1 := by
  cases streamStep table call stream with
  | kept idle same => simp [wonVersion, idle] at won
  | inserted called insertable free stored =>
      simp [wonVersion, Runs.transition, called, Call.expectedVersion] at won
  | @changed row next wrote found addressed changes stored =>
      have expected : call.expectedVersion = some row.version := changes.version_eq.1
      rw [wonVersion, if_pos wrote] at won
      simp only [Runs.transition, expected, Option.map_some, Option.some.injEq] at won
      exact ⟨row, next, found, won, stored, changes.version_step addressed⟩

/-- A version is won at most once. -/
theorem wonVersions_increase (calls : List Call) :
    ((Runs.run (step db) (RowTable.empty _) calls).filterMap
      (wonVersion stream)).Pairwise (· < ·) := by
  have record : ∀ table call version, True →
      wonVersion stream (Runs.transition (step db) table call) = some version →
      VersionPast stream (step db table call).2 version := by
    intro table call version _ won
    obtain ⟨row, next, -, same, stored, advanced⟩ := wonVersion_spec stream won
    exact ⟨next, stored, by omega⟩
  have order : ∀ table call earlier version, True → VersionPast stream table earlier →
      wonVersion stream (Runs.transition (step db) table call) = some version →
      earlier < version := by
    rintro table call earlier version _ ⟨row, held, below⟩ won
    obtain ⟨winner, next, found, same, -⟩ := wonVersion_spec stream won
    rw [found] at held
    cases held
    omega
  exact (Runs.pairwise_run (fun _ _ _ => trivial) (versionPast_step stream) record order
    trivial).1

/-- A sequence number that was obtained is not above that of the row, which has
left `INVITING`. -/
def CseqPast (table : DialogTable db) (cseq : Int) : Prop :=
  ∃ row, table.find stream = some row ∧ row.state ≠ "INVITING" ∧
    cseq ≤ row.localCseq.toInt ∧ row.localCseq.toInt ≤ 2147483647

/-- Below the bound of `CSeq` a reservation is the true successor. -/
theorem Reserves.toInt_next {row : SipDialogSessionRow} {cseq : Int64}
    (reserves : Reserves row row.localCseq cseq) (bounded : row.localCseq.toInt ≤ 2147483647) :
    cseq.toInt = row.localCseq.toInt + 1 := by
  rw [reserves.next]
  apply toInt_succ
  intro last
  rw [last] at bounded
  exact absurd bounded (by decide)

theorem Reserves.toInt_le {row : SipDialogSessionRow} {cseq : Int64}
    (reserves : Reserves row row.localCseq cseq) : cseq.toInt ≤ 2147483647 :=
  Int64.le_iff_toInt_le.mp reserves.bound

theorem cseqPast_step (table : DialogTable db) (call : Call) (cseq : Int)
    (past : CseqPast stream table cseq) :
    CseqPast stream (step db table call).2 cseq := by
  obtain ⟨row, held, left, below, bounded⟩ := past
  cases streamStep table call stream with
  | kept idle same => exact ⟨row, same.trans held, left, below, bounded⟩
  | inserted called insertable free stored =>
      rw [free] at held
      cases held
  | @changed before next wrote found addressed changes stored =>
      rw [found] at held
      cases held
      obtain ⟨stillLeft, kept⟩ := changes.after_inviting left
      cases reserves : call.reservedCseq with
      | none =>
          refine ⟨next, stored, stillLeft, ?_⟩
          rw [kept reserves]
          exact ⟨below, bounded⟩
      | some reserved =>
          obtain ⟨reservation, moved, -⟩ := changes.reserved reserves
          refine ⟨next, stored, stillLeft, ?_⟩
          rw [moved]
          have successor := reservation.toInt_next bounded
          exact ⟨by omega, reservation.toInt_le⟩

/-- A sequence number is obtained by moving the row to it. -/
theorem wonCseq_spec {table : DialogTable db} {call : Call} {cseq : Int}
    (won : wonCseq stream (Runs.transition (step db) table call) = some cseq) :
    ∃ row reserved, table.find stream = some row ∧ reserved.toInt = cseq ∧
      Reserves row row.localCseq reserved ∧ CseqPast stream (step db table call).2 cseq := by
  cases streamStep table call stream with
  | kept idle same => simp [wonCseq, idle] at won
  | inserted called insertable free stored =>
      simp [wonCseq, Runs.transition, called, Call.reservedCseq] at won
  | @changed row next wrote found addressed changes stored =>
      rw [wonCseq, if_pos wrote] at won
      simp only [Runs.transition, Option.map_eq_some_iff] at won
      obtain ⟨reserved, reserves, rfl⟩ := won
      obtain ⟨reservation, moved, left⟩ := changes.reserved reserves
      refine ⟨row, reserved, found, rfl, reservation, next, stored, left, ?_⟩
      rw [moved]
      exact ⟨Int.le_refl _, reservation.toInt_le⟩

/-- The sequence numbers that clients obtain strictly increase. -/
theorem wonCseqs_increase (calls : List Call) :
    ((Runs.run (step db) (RowTable.empty _) calls).filterMap
      (wonCseq stream)).Pairwise (· < ·) := by
  have record : ∀ table call cseq, True →
      wonCseq stream (Runs.transition (step db) table call) = some cseq →
      CseqPast stream (step db table call).2 cseq := by
    intro table call cseq _ won
    obtain ⟨-, -, -, -, -, past⟩ := wonCseq_spec stream won
    exact past
  have order : ∀ table call earlier cseq, True → CseqPast stream table earlier →
      wonCseq stream (Runs.transition (step db) table call) = some cseq →
      earlier < cseq := by
    rintro table call earlier cseq _ ⟨row, held, left, below, bounded⟩ won
    obtain ⟨winner, reserved, found, rfl, reservation, -⟩ := wonCseq_spec stream won
    rw [found] at held
    cases held
    have successor := reservation.toInt_next bounded
    omega
  exact (Runs.pairwise_run (fun _ _ _ => trivial) (cseqPast_step stream) record order
    trivial).1

/-- The protocol that the calls on one stream follow. -/
structure CasProtocol (stream : db.Weight) (entries : List (Entry db)) : Prop where
  /-- A stream starts in `INVITING` at version zero. -/
  starts : ∀ entry ∈ entries, ∀ next, entry.before.find stream = none →
    entry.after.find stream = some next →
    next.state = DialogState.inviting.toText ∧ next.version = 0
  /-- A successful update finds the version it expects and advances it by one. -/
  advances : ∀ entry ∈ entries, ∀ expected, wonVersion stream entry = some expected →
    ∃ row next, entry.before.find stream = some row ∧ row.version.toInt = expected ∧
      entry.after.find stream = some next ∧ next.version.toInt = row.version.toInt + 1
  /-- A row keeps its state or follows the state diagram, and a call that does not
  succeed on the stream leaves it alone. -/
  follows : ∀ entry ∈ entries, ∀ row, entry.before.find stream = some row →
    ∃ (next : SipDialogSessionRow) (state nextState : DialogState),
      entry.after.find stream = some next ∧ row.state = state.toText ∧
        next.state = nextState.toText ∧
        if writes stream entry then
          if entry.action.staysInPlace then nextState = state
          else state.canTransitionTo nextState = true
        else next = row
  /-- No call changes a terminal row or succeeds on it. -/
  absorbs : ∀ entry ∈ entries, ∀ row (state : DialogState),
    entry.before.find stream = some row → row.state = state.toText →
    state.isTerminal = true → writes stream entry = false ∧ entry.after.find stream = some row
  /-- At most one client succeeds for an expected version. -/
  oneWinner : (entries.filterMap (wonVersion stream)).Pairwise (· < ·)
  /-- The sequence numbers that clients obtain strictly increase. -/
  freshCseqs : (entries.filterMap (wonCseq stream)).Pairwise (· < ·)

theorem starts_step {table : DialogTable db} {call : Call} {next : SipDialogSessionRow}
    (absent : table.find stream = none)
    (found : (step db table call).2.find stream = some next) :
    next.state = DialogState.inviting.toText ∧ next.version = 0 := by
  cases streamStep table call stream with
  | kept idle same =>
      rw [same, absent] at found
      cases found
  | inserted called insertable free stored =>
      rw [stored] at found
      cases found
      exact ⟨congrArg DialogState.toText insertable.inviting, insertable.version⟩
  | changed wrote held addressed changes stored =>
      rw [absent] at held
      cases held

theorem follows_step {table : DialogTable db} {call : Call} {row : SipDialogSessionRow}
    (readable : Readable stream table) (held : table.find stream = some row) :
    ∃ (next : SipDialogSessionRow) (state nextState : DialogState),
      (step db table call).2.find stream = some next ∧ row.state = state.toText ∧
        next.state = nextState.toText ∧
        if writes stream (Runs.transition (step db) table call) then
          if call.staysInPlace then nextState = state
          else state.canTransitionTo nextState = true
        else next = row := by
  obtain ⟨state, read⟩ := readable row held
  cases streamStep table call stream with
  | kept idle same =>
      refine ⟨row, state, state, same.trans held, read, read, ?_⟩
      simp [idle]
  | inserted called insertable free stored =>
      rw [held] at free
      cases free
  | @changed before next wrote found addressed changes stored =>
      rw [held] at found
      cases found
      obtain ⟨-, nextState, text, follows⟩ := changes.state_step read
      refine ⟨next, state, nextState, stored, read, text, ?_⟩
      rw [if_pos wrote]
      exact follows

theorem absorbs_step {table : DialogTable db} {call : Call} {row : SipDialogSessionRow}
    {state : DialogState} (held : table.find stream = some row)
    (read : row.state = state.toText) (terminal : state.isTerminal = true) :
    writes stream (Runs.transition (step db) table call) = false ∧
      (step db table call).2.find stream = some row := by
  cases streamStep table call stream with
  | kept idle same => exact ⟨idle, same.trans held⟩
  | inserted called insertable free stored =>
      rw [held] at free
      cases free
  | changed wrote found addressed changes stored =>
      rw [held] at found
      cases found
      have active := (changes.state_step read).1
      rw [terminal] at active
      cases active

/-- Every interleaving of calls on a dialog follows the protocol. -/
theorem calls_follow_casProtocol (calls : List Call) :
    CasProtocol stream (Runs.run (step db) (RowTable.empty _) calls) := by
  constructor
  · intro entry member next absent found
    rw [Runs.mem_run member] at found
    exact starts_step stream absent found
  · intro entry member expected won
    rw [Runs.mem_run member] at won ⊢
    exact wonVersion_spec stream won
  · intro entry member row held
    have readable := readable_run stream member
    rw [Runs.mem_run member]
    exact follows_step stream readable held
  · intro entry member row state held read terminal
    rw [Runs.mem_run member]
    exact absorbs_step stream held read terminal
  · exact wonVersions_increase stream calls
  · exact wonCseqs_increase stream calls

end Runs

end Gmv.Session.SipDialogSessionRepository
