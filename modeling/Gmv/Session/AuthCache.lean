import Gmv.Library.KeyedLocks
import Gmv.Library.TaskPool
import Mathlib.Data.List.AList
import Mathlib.Data.List.Dedup
import Mathlib.Data.List.Sort
import Mathlib.Data.Prod.Lex
import Mathlib.Data.String.Basic

/-!
# The device auth cache

The rows of `GMV_OAUTH` that the signalling node keeps for a while, under the device and
the realm of a lookup.  A batch of lookups locks the keys that it has to load, one after
the other, reads the table, writes what it has found and then answers from the cache.
Batches, the cleanup, invalidations, changes of the table and the clock go on at the
same time, one operation of a map after the other.

A device has at most one row in the table that is enabled and not deleted.  What a read
has found is kept with the number of invalidations of the device before the read; the
program does not keep that number.  Instants are in milliseconds.
-/

namespace Gmv.Session.AuthCache

open Gmv.Library Gmv.Library.TaskPool

def positiveCacheTtl : Nat := 300000
def negativeCacheTtl : Nat := 30000
def defaultCacheCapacity : Nat := 40000
def authDbBatchLimit : Nat := 2000

/-- The part of a row that the cache and its readers look at. -/
structure GmvOauth where
  domain : String
  pwd : Option String
  pwdCheck : UInt8
  status : UInt8
  heartbeatSec : UInt8
  deriving DecidableEq, Repr

structure AuthCacheKey where
  deviceId : String
  realm : String
  deriving DecidableEq, Repr

namespace AuthCacheKey

/-- The derived order: by the device, then by the realm. -/
def toLexPair (key : AuthCacheKey) : String ×ₗ String := toLex (key.deviceId, key.realm)

theorem toLexPair_injective : Function.Injective toLexPair := by
  rintro ⟨deviceId, realm⟩ ⟨otherId, otherRealm⟩ same
  cases toLex_inj.mp same
  rfl

instance : LinearOrder AuthCacheKey := LinearOrder.lift' toLexPair toLexPair_injective

end AuthCacheKey

structure AuthCacheEntry where
  oauth : Option GmvOauth
  expiresAt : Nat
  epoch : Nat
  deriving DecidableEq, Repr

abbrev EntryMap := AList fun _ : AuthCacheKey => AuthCacheEntry

/-- The cache, with the table behind it and the clock. -/
structure State where
  entries : EntryMap
  loadLocks : KeyedLocks.Table AuthCacheKey
  maxEntries : Nat
  oauth : String → Option GmvOauth
  invalidations : String → Nat
  now : Nat

/-- An empty cache in front of a table. -/
def State.init (maxEntries : Nat) (oauth : String → Option GmvOauth) (now : Nat) : State :=
  ⟨∅, .empty, maxEntries, oauth, fun _ => 0, now⟩

/-- What the first look of `cached` finds. -/
inductive Look where
  | valid (oauth : Option GmvOauth)
  | expired
  | absent
  deriving DecidableEq, Repr

namespace State

variable (state : State)

/-- The look of `cached`; what has expired is removed by another operation. -/
def look (key : AuthCacheKey) : Look :=
  match state.entries.lookup key with
  | none => .absent
  | some entry => if state.now < entry.expiresAt then .valid entry.oauth else .expired

/-- `entries.retain`. -/
def retain (keep : AuthCacheKey → AuthCacheEntry → Bool) : State :=
  { state with
    entries := ⟨state.entries.entries.filter fun entry => keep entry.1 entry.2,
      List.NodupKeys.sublist List.filter_sublist state.entries.nodupKeys⟩ }

/-- The second half of `cached`: `remove_if` of an entry that has expired. -/
def removeExpired (key : AuthCacheKey) : State :=
  match state.entries.lookup key with
  | none => state
  | some entry =>
      if entry.expiresAt ≤ state.now then { state with entries := state.entries.erase key } else state

def get (deviceId realm : String) : Option GmvOauth :=
  match state.look ⟨deviceId, realm⟩ with
  | .valid oauth => oauth
  | _ => none

def getByDevice (deviceId : String) : Option GmvOauth :=
  state.entries.entries.findSome? fun entry =>
    if entry.1.deviceId = deviceId ∧ state.now < entry.2.expiresAt then entry.2.oauth else none

/-- What a read of the device's row makes of a key. -/
def oauthOf (key : AuthCacheKey) : Option GmvOauth :=
  (state.oauth key.deviceId).filter fun oauth => oauth.domain == key.realm

def insertEntry (key : AuthCacheKey) (entry : AuthCacheEntry) : State :=
  { state with entries := state.entries.insert key entry }

theorem lookup_retain (keep : AuthCacheKey → AuthCacheEntry → Bool) (key : AuthCacheKey) :
    (state.retain keep).entries.lookup key = (state.entries.lookup key).filter (keep key) := by
  refine Option.ext fun entry => ?_
  rw [← Option.mem_def, AList.mem_lookup_iff, retain, List.mem_filter, ← AList.mem_lookup_iff,
    Option.mem_def, Option.filter_eq_some_iff]

theorem lookup_insertEntry (name key : AuthCacheKey) (entry : AuthCacheEntry) :
    (state.insertEntry name entry).entries.lookup key =
      if key = name then some entry else state.entries.lookup key := by
  rw [insertEntry]
  split
  · next same => rw [same]; exact AList.lookup_insert _
  · next differs => exact AList.lookup_insert_ne differs

theorem lookup_erase (name key : AuthCacheKey) :
    (state.entries.erase name).lookup key = if key = name then none else state.entries.lookup key := by
  split
  · next same => rw [same]; exact AList.lookup_erase ..
  · next differs => exact AList.lookup_erase_ne differs

theorem lookup_removeExpired_of_ne {name key : AuthCacheKey} (differs : key ≠ name) :
    (state.removeExpired name).entries.lookup key = state.entries.lookup key := by
  rw [removeExpired]
  split
  · rfl
  · split
    · exact AList.lookup_erase_ne differs
    · rfl

/-- `cached` removes an entry only when it has expired. -/
theorem lookup_removeExpired_self (key : AuthCacheKey) :
    (state.removeExpired key).entries.lookup key =
      (state.entries.lookup key).filter fun entry => state.now < entry.expiresAt := by
  rw [removeExpired]
  cases found : state.entries.lookup key with
  | none => exact found
  | some entry =>
      by_cases expired : entry.expiresAt ≤ state.now
      · simp [expired, Option.filter, Nat.not_lt.mpr expired]
      · simp [expired, found, Option.filter, Nat.lt_of_not_le expired]

@[simp]
theorem removeExpired_now (key : AuthCacheKey) : (state.removeExpired key).now = state.now := by
  rw [removeExpired]
  split
  · rfl
  · split <;> rfl

@[simp]
theorem removeExpired_oauth (key : AuthCacheKey) : (state.removeExpired key).oauth = state.oauth := by
  rw [removeExpired]
  split
  · rfl
  · split <;> rfl

@[simp]
theorem removeExpired_loadLocks (key : AuthCacheKey) :
    (state.removeExpired key).loadLocks = state.loadLocks := by
  rw [removeExpired]
  split
  · rfl
  · split <;> rfl

end State

/-- What a read has found for a key, and the invalidations of the device before it. -/
structure Row where
  key : AuthCacheKey
  oauth : Option GmvOauth
  epoch : Nat
  deriving DecidableEq, Repr

def Row.entry (row : Row) (now : Nat) : AuthCacheEntry :=
  let ttl := if row.oauth.isSome then positiveCacheTtl else negativeCacheTtl
  ⟨row.oauth, now + ttl, row.epoch⟩

/-- A batch on its way: its lookups, which of its reads succeed, the keys that it has to
load and the locks that it holds. -/
structure Call where
  requested : List AuthCacheKey
  reads : List Bool
  missing : List AuthCacheKey
  held : List (AuthCacheKey × Nat)
  deriving DecidableEq, Repr

def Call.addMissing (call : Call) (key : AuthCacheKey) : Call :=
  { call with missing := call.missing ++ [key] }

@[simp]
theorem Call.addMissing_held (call : Call) (key : AuthCacheKey) :
    (call.addMissing key).held = call.held := rfl

/-- The keys of a set in ascending order. -/
def sortedKeys (keys : List AuthCacheKey) : List AuthCacheKey :=
  keys.dedup.insertionSort (· ≤ ·)

inductive Task where
  /-- `get_or_load_many`. -/
  | getOrLoadMany (lookups : List AuthCacheKey) (reads : List Bool)
  | filterRequested (call : Call) (todo : List AuthCacheKey)
  | acquire (call : Call) (todo : List AuthCacheKey)
  | lockOwned (call : Call) (key : AuthCacheKey) (lock : Nat) (todo : List AuthCacheKey)
  | filterMissing (call : Call) (todo missing : List AuthCacheKey)
  | readOauths (call : Call) (todo : List AuthCacheKey)
  | takeNow (call : Call) (rows : List Row) (todo : List AuthCacheKey)
  | insertRows (call : Call) (now : Nat) (rows : List Row) (todo : List AuthCacheKey)
  /-- `cleanup_expired`, of the cleanup task or of a batch. -/
  | cleanupExpired (after : Option Call)
  | retainEntries (now : Nat) (after : Option Call)
  | retainLocks (after : Option Call)
  /-- The rest of `enforce_capacity`. -/
  | measure (call : Call)
  | listOldest (call : Call) (excess : Nat)
  | evict (call : Call) (oldest : List AuthCacheKey)
  | unlock (call : Call) (loaded : Bool)
  | dropLock (call : Call) (loaded : Bool)
  | removeLocks (call : Call) (todo : List AuthCacheKey)
  | answer (requested todo : List AuthCacheKey) (answers : List (Option GmvOauth))
  | returned (requested : List AuthCacheKey) (answers : List (Option GmvOauth))
  /-- The removal that `cached` still has to do, before its caller goes on. -/
  | removeExpired (key : AuthCacheKey) (next : Task)
  | invalidateDevice (deviceId : String)
  | invalidateLocks (deviceId : String)
  /-- Time passes. -/
  | tick (elapsed : Nat)
  /-- The table changes. -/
  | update (deviceId : String) (oauth : Option GmvOauth)
  deriving DecidableEq, Repr

/-- The calls that a run may begin. -/
def Task.isCall : Task → Bool
  | .getOrLoadMany .. | .cleanupExpired none | .invalidateDevice _ | .tick _ | .update .. => true
  | _ => false

theorem Task.isCall_cases {task : Task} (isCall : task.isCall = true) :
    (∃ lookups reads, task = .getOrLoadMany lookups reads) ∨ task = .cleanupExpired none ∨
      (∃ deviceId, task = .invalidateDevice deviceId) ∨ (∃ elapsed, task = .tick elapsed) ∨
      ∃ deviceId oauth, task = .update deviceId oauth := by
  cases task with
  | getOrLoadMany lookups reads => exact Or.inl ⟨lookups, reads, rfl⟩
  | cleanupExpired after =>
      cases after with
      | none => exact Or.inr (Or.inl rfl)
      | some call => cases isCall
  | invalidateDevice deviceId => exact Or.inr (Or.inr (Or.inl ⟨deviceId, rfl⟩))
  | tick elapsed => exact Or.inr (Or.inr (Or.inr (Or.inl ⟨elapsed, rfl⟩)))
  | update deviceId oauth => exact Or.inr (Or.inr (Or.inr (Or.inr ⟨deviceId, oauth, rfl⟩)))
  | _ => cases isCall

/-- One step of a task. -/
def work (state : State) : Task → Option Task × State
  | .getOrLoadMany lookups reads =>
      if lookups.isEmpty then (some (.returned lookups []), state)
      else (some (.filterRequested ⟨lookups, reads, [], []⟩ lookups), state)
  | .filterRequested call [] =>
      let missing := sortedKeys call.missing
      (some (.acquire { call with missing := missing } missing), state)
  | .filterRequested call (key :: todo) =>
      match state.look key with
      | .valid _ => (some (.filterRequested call todo), state)
      | .absent => (some (.filterRequested (call.addMissing key) todo), state)
      | .expired => (some (.removeExpired key (.filterRequested (call.addMissing key) todo)), state)
  | .acquire call [] => (some (.filterMissing call call.missing []), state)
  | .acquire call (key :: todo) =>
      let (lock, loadLocks) := state.loadLocks.entry key
      (some (.lockOwned call key lock todo), { state with loadLocks := loadLocks.clone lock 2 })
  | .lockOwned call key lock todo =>
      if state.loadLocks.locked lock then (some (.lockOwned call key lock todo), state)
      else
        (some (.acquire { call with held := call.held ++ [(key, lock)] } todo),
          { state with loadLocks := state.loadLocks.setLocked lock true })
  | .filterMissing call [] missing =>
      (some (.readOauths { call with missing := missing } missing), state)
  | .filterMissing call (key :: todo) missing =>
      match state.look key with
      | .valid _ => (some (.filterMissing call todo missing), state)
      | .absent => (some (.filterMissing call todo (missing ++ [key])), state)
      | .expired => (some (.removeExpired key (.filterMissing call todo (missing ++ [key]))), state)
  | .readOauths call [] => (some (.cleanupExpired (some call)), state)
  | .readOauths call (key :: todo) =>
      let chunk := (key :: todo).take authDbBatchLimit
      let rest := (key :: todo).drop authDbBatchLimit
      if call.reads.headD true then
        let rows := chunk.map fun key => ⟨key, state.oauthOf key, state.invalidations key.deviceId⟩
        (some (.takeNow { call with reads := call.reads.tail } rows rest), state)
      else (some (.unlock call false), state)
  | .takeNow call rows todo => (some (.insertRows call state.now rows todo), state)
  | .insertRows call _ [] todo => (some (.readOauths call todo), state)
  | .insertRows call now (row :: rows) todo =>
      (some (.insertRows call now rows todo), state.insertEntry row.key (row.entry now))
  | .cleanupExpired after => (some (.retainEntries state.now after), state)
  | .retainEntries now after =>
      (some (.retainLocks after), state.retain fun _ entry => now < entry.expiresAt)
  | .retainLocks after =>
      (after.map .measure,
        { state with
          loadLocks := state.loadLocks.retain fun _ lock => 1 < state.loadLocks.strongCount lock })
  | .measure call =>
      let excess := state.entries.entries.length - state.maxEntries
      if excess = 0 then (some (.unlock call true), state)
      else (some (.listOldest call excess), state)
  | .listOldest call excess =>
      let oldest := state.entries.entries.insertionSort fun one other =>
        one.2.expiresAt ≤ other.2.expiresAt
      (some (.evict call ((oldest.take excess).map Sigma.fst)), state)
  | .evict call [] => (some (.unlock call true), state)
  | .evict call (key :: oldest) =>
      (some (.evict call oldest), { state with entries := state.entries.erase key })
  | .unlock call loaded =>
      match call.held with
      | [] => (if loaded then some (.removeLocks call call.missing) else none, state)
      | (_, lock) :: _ =>
          (some (.dropLock call loaded),
            { state with loadLocks := (state.loadLocks.setLocked lock false).drop lock 1 })
  | .dropLock call loaded =>
      match call.held with
      | [] => (some (.unlock call loaded), state)
      | (_, lock) :: held =>
          (some (.unlock { call with held := held } loaded),
            { state with loadLocks := state.loadLocks.drop lock 1 })
  | .removeLocks call [] => (some (.answer call.requested call.requested []), state)
  | .removeLocks call (key :: todo) =>
      (some (.removeLocks call todo),
        { state with
          loadLocks := state.loadLocks.retain fun other lock =>
            other != key || state.loadLocks.strongCount lock != 1 })
  | .answer requested [] answers => (some (.returned requested answers), state)
  | .answer requested (key :: todo) answers =>
      match state.look key with
      | .valid oauth => (some (.answer requested todo (answers ++ [oauth])), state)
      | .absent => (some (.answer requested todo (answers ++ [none])), state)
      | .expired =>
          (some (.removeExpired key (.answer requested todo (answers ++ [none]))), state)
  | .returned .. => (none, state)
  | .removeExpired key next => (some next, state.removeExpired key)
  | .invalidateDevice deviceId =>
      let state := state.retain fun key _ => key.deviceId != deviceId
      (some (.invalidateLocks deviceId),
        { state with
          invalidations :=
            Function.update state.invalidations deviceId (state.invalidations deviceId + 1) })
  | .invalidateLocks deviceId =>
      (none,
        { state with loadLocks := state.loadLocks.retain fun key _ => key.deviceId != deviceId })
  | .tick elapsed => (none, { state with now := state.now + elapsed })
  | .update deviceId oauth =>
      (none, { state with oauth := Function.update state.oauth deviceId oauth })

/-- The tasks whose next step changes the entries. -/
def Task.writes : Task → Bool
  | .insertRows .. | .retainEntries .. | .evict .. | .removeExpired .. | .invalidateDevice _ => true
  | _ => false

theorem entries_work (state : State) {task : Task} (reads : task.writes = false) :
    (work state task).2.entries = state.entries := by
  fun_cases work state task
  all_goals first
    | rfl
    | cases reads

/-- The row that a step writes, and the instant that it takes for the write. -/
def Task.written : Task → Option (Nat × Row)
  | .insertRows _ now rows _ => rows.head?.map fun row => (now, row)
  | _ => none

/-- An entry that is there after a step was there before it, or a batch has written it. -/
theorem lookup_work {state : State} {task : Task} {key : AuthCacheKey} {entry : AuthCacheEntry}
    (found : (work state task).2.entries.lookup key = some entry) :
    state.entries.lookup key = some entry ∨
      ∃ now row, task.written = some (now, row) ∧ key = row.key ∧ entry = row.entry now := by
  by_cases reads : task.writes = false
  · rw [entries_work state reads] at found
    exact Or.inl found
  cases task with
  | insertRows call now rows todo =>
      cases rows with
      | nil => exact Or.inl found
      | cons row rows =>
          simp only [work, State.lookup_insertEntry] at found
          split at found
          · next same => exact Or.inr ⟨now, row, rfl, same, (Option.some.inj found).symm⟩
          · exact Or.inl found
  | retainEntries now after =>
      rw [work, State.lookup_retain] at found
      exact Or.inl (Option.filter_eq_some_iff.mp found).1
  | evict call oldest =>
      cases oldest with
      | nil => exact Or.inl found
      | cons name oldest =>
          simp only [work, State.lookup_erase] at found
          split at found
          · cases found
          · exact Or.inl found
  | removeExpired name next =>
      by_cases same : key = name
      · subst same
        rw [work, State.lookup_removeExpired_self] at found
        exact Or.inl (Option.filter_eq_some_iff.mp found).1
      · rw [work, State.lookup_removeExpired_of_ne _ same] at found
        exact Or.inl found
  | invalidateDevice deviceId =>
      rw [work, State.lookup_retain] at found
      exact Or.inl (Option.filter_eq_some_iff.mp found).1
  | _ => exact absurd rfl reads

end Gmv.Session.AuthCache
