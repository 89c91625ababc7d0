import Gmv.Library.TaskPool
import Gmv.Session.RecordCompleteness

/-!
# The quota of a snapshot session

A snapshot session lets a device upload a number of pictures.  An upload first takes a
slot off the counter of its token, and only then are its headers, its body, the storage
and the picture looked at.  The answers of everything outside are part of a request;
what the requests of all devices do to the cache is interleaved step by step.  The model
keeps the uploads that have asked for a slot, which the code does not.
-/

namespace Gmv.Session.SnapshotQuota

open Gmv.Library Gmv.Library.TaskPool
open RecordCompleteness (GmvFileInfo)

inductive BaseErrorCode where
  | invalidRequest
  | unauthorized
  | unsupported
  deriving DecidableEq, Repr

inductive GlobalError where
  | biz (code : BaseErrorCode) (msg : String)
  | sys (msg : String)
  | outside (msg : String)
  deriving DecidableEq, Repr

/-! ## Uploads -/

/-- One field of a form; the bytes may fail to arrive. -/
structure Field where
  contentType : Option String
  fileName : Option String
  bytes : Except String (List UInt8)

/-- What the file system, the image decoder and the database answer to one upload. -/
structure Storage where
  now : NaiveDateTime
  dig62De : String → Except GlobalError String
  buildFileName : String → String → Except GlobalError String
  fileStem : String → Option String
  storageFormat : String
  createDirAll : Except GlobalError Unit
  canonicalize : Except GlobalError (Option String)
  finalDir : Option String
  loadFromMemory : List UInt8 → Except GlobalError Unit
  save : Except GlobalError Unit
  metadataLen : Except GlobalError Nat
  insertGmvFileInfo : GmvFileInfo → Except GlobalError Unit

/-- A request: its token and parameters, its content type with the result of reading it as
a text, its body as a form and as one piece, and what the storage answers to it. -/
structure UploadRequest where
  token : String
  params : List (String × String)
  contentType : Option (Option String)
  multipart : Except String (List (Except String Field))
  binary : Except String (List UInt8)
  storage : Storage

def startsWith (text start : String) : Bool := start.toList.isPrefixOf text.toList

def getParam (params : List (String × String)) (key : String) : Except GlobalError String :=
  match params.lookup key with
  | some value => .ok value
  | none => .error (.biz .invalidRequest s!"Missing `{key}`")

/-- The parameter whose name ends in `fileid`. -/
def fileIdOpt (params : List (String × String)) : Option String :=
  (params.find? fun param => "fileid".toList.isSuffixOf (param.1.toList.map Char.toLower)).map Prod.snd

/-- `edge_token::check`; the digest is given. -/
def edgeTokenCheck (generateToken : String → String) (sessionId token : String) :
    Except GlobalError Unit :=
  if generateToken ("GMV:SESSION v1.0@" ++ sessionId) = token then .ok ()
  else .error (.biz .unauthorized "Invalid token")

/-- `edge_token::split_dc`, on characters: identifiers have no others than one-byte ones. -/
def splitDc (storage : Storage) (sessionId : String) : Except GlobalError (String × String) := do
  let dcs ← storage.dig62De sessionId
  if dcs.toList.length < 40 then .error (.biz .invalidRequest "Invalid session id")
  else .ok (String.ofList (dcs.toList.take 20), String.ofList ((dcs.toList.drop 20).take 20))

/-- `edge_serv::upload`. -/
def upload (storage : Storage) (bytes : List UInt8) (sessionId : String)
    (fileIdOpt : Option String) : Except GlobalError Unit := do
  let (deviceId, channelId) ← splitDc storage sessionId
  let fileName ← match fileIdOpt with
    | none => storage.buildFileName deviceId channelId
    | some id => .ok id
  storage.createDirAll
  let absFinalDir ← storage.canonicalize
  let absPath ← match absFinalDir with
    | some absPath => .ok absPath
    | none => .error (.sys "文件存储路径错误")
  let dirPath ← match storage.finalDir with
    | some dirPath => .ok dirPath
    | none => .error (.sys "文件存储路径错误")
  storage.loadFromMemory bytes
  storage.save
  let size ← storage.metadataLen
  storage.insertGmvFileInfo
    { deviceId := deviceId
      channelId := channelId
      bizTime := storage.now
      bizId := sessionId
      fileType := 0
      fileSize := size
      fileName := (storage.fileStem fileName).getD ""
      fileFormat := String.ofList (storage.storageFormat.toList.map Char.toLower)
      dirPath := dirPath
      absPath := absPath
      isDel := 0
      createTime := storage.now }

/-- The loop over the fields of a form: the first image with a file name is stored. -/
def handleFields (req : UploadRequest) (sessionId : String) :
    List (Except String Field) → Except GlobalError String
  | [] => .error (.biz .invalidRequest "No valid image file found in multipart form")
  | .error e :: _ => .error (.biz .invalidRequest s!"Failed to get next field: {e}")
  | .ok field :: rest =>
      if field.contentType.any (startsWith · "image/") && field.fileName.isSome then
        match field.bytes with
        | .error e => .error (.biz .invalidRequest s!"Failed to get field bytes: {e}")
        | .ok data => do
            upload req.storage data sessionId (fileIdOpt req.params)
            .ok "File uploaded successfully as form-data"
      else handleFields req sessionId rest

def handleMultipartUpload (req : UploadRequest) (sessionId : String) :
    Except GlobalError String :=
  match req.multipart with
  | .error e => .error (.biz .invalidRequest s!"Failed to parse multipart: {e}")
  | .ok fields => handleFields req sessionId fields

def handleBinaryUpload (req : UploadRequest) (sessionId : String) : Except GlobalError String :=
  match req.binary with
  | .error e => .error (.biz .invalidRequest s!"Failed to get request body: {e}")
  | .ok data => do
      upload req.storage data sessionId (fileIdOpt req.params)
      .ok "File uploaded successfully as binary"

/-- What `upload_picture_inner` does between the check of the token and the refresh. -/
def handleContent (req : UploadRequest) (sessionId : String) : Except GlobalError String :=
  match req.contentType with
  | none => .error (.biz .invalidRequest "Missing Content-Type header")
  | some none => .error (.biz .invalidRequest "Invalid Content-Type header")
  | some (some contentType) =>
      if startsWith contentType "multipart/form-data" then handleMultipartUpload req sessionId
      else if startsWith contentType "image/" then handleBinaryUpload req sessionId
      else .error (.biz .unsupported
        s!"Unsupported Content-Type: {contentType}. Use multipart/form-data or image/*")

/-! ## The cache -/

inductive StateValue where
  | empty
  | counter (count : Nat)
  deriving DecidableEq, Repr

structure StateEntry where
  value : StateValue
  expire : Option Nat
  deriving DecidableEq, Repr

/-- The entries of the cache and the clock, the uploads that have asked for a slot with
what they were told, and the responses. -/
structure Shared where
  entities : String → Option StateEntry
  now : Nat
  asked : List (UploadRequest × Bool)
  responses : List (UploadRequest × Except GlobalError String)

def rebuildPicToken (token : String) : String := "SNAPSHOT:" ++ token

def rebuildSnapshotWaitKey (sessionId : String) : String := "KEY_SNAPSHOT_IMAGE:" ++ sessionId

def snapshotIdleTimeout : Nat := 20000

namespace Shared

variable (shared : Shared)

def setEntry (key : String) (entry : Option StateEntry) : Shared :=
  { shared with entities := Function.update shared.entities key entry }

/-- `State::decrement_counter`, with whether there was an entry. -/
def decrementCounter (key : String) : Bool × Shared :=
  match shared.entities key with
  | none => (false, shared)
  | some entry =>
      match entry.value with
      | .counter val =>
          if val ≤ 1 then (true, shared.setEntry key none)
          else (true, shared.setEntry key (some { entry with value := .counter (val - 1) }))
      | .empty => (true, shared.setEntry key none)

def refreshState (key : String) : Shared :=
  match shared.entities key with
  | none => shared
  | some entry =>
      shared.setEntry key (some { entry with expire := some (shared.now + snapshotIdleTimeout) })

def expired (key : String) : Bool :=
  ((shared.entities key).bind StateEntry.expire).any (· ≤ shared.now)

/-- `purge_expired_keys`. -/
def purgeExpiredKeys : List String → Shared → Shared
  | [], shared => shared
  | key :: keys, shared =>
      purgeExpiredKeys keys (if shared.expired key then shared.setEntry key none else shared)

def ask (req : UploadRequest) (granted : Bool) : Shared :=
  { shared with asked := shared.asked ++ [(req, granted)] }

def respond (req : UploadRequest) (response : Except GlobalError String) : Shared :=
  { shared with responses := shared.responses ++ [(req, response)] }

end Shared

/-! ## Requests as tasks -/

/-- What an upload has still to do, and what else happens to the cache: a snapshot session
opens or is given up, entries expire, and time goes by. -/
inductive Task where
  | arrive (req : UploadRequest)
  | handle (req : UploadRequest) (sessionId : String)
  | refreshWait (req : UploadRequest) (sessionId message : String)
  | refreshToken (req : UploadRequest) (message : String)
  | insertSnapshotWait (sessionId : String)
  | insertCounter (token : String) (count : Nat)
  | removeState (key : String)
  | purge (keys : List String)
  | elapse (time : Nat)

/-- What an upload checks before it asks for a slot: the session that it belongs to. -/
def checkToken (generateToken : String → String) (req : UploadRequest) :
    Except GlobalError String := do
  let sessionId ← getParam req.params "SessionID"
  edgeTokenCheck generateToken sessionId req.token
  .ok sessionId

/-- One step of a task. -/
def work (generateToken : String → String) (shared : Shared) : Task → Option Task × Shared
  | .arrive req =>
      match checkToken generateToken req with
      | .error error => (none, shared.respond req (.error error))
      | .ok sessionId =>
          let checked := shared.decrementCounter (rebuildPicToken req.token)
          let asked := checked.2.ask req checked.1
          if checked.1 then (some (.handle req sessionId), asked)
          else (none, asked.respond req (.error (.biz .unauthorized "Invalid token")))
  | .handle req sessionId =>
      match handleContent req sessionId with
      | .error error => (none, shared.respond req (.error error))
      | .ok message => (some (.refreshWait req sessionId message), shared)
  | .refreshWait req sessionId message =>
      (some (.refreshToken req message), shared.refreshState (rebuildSnapshotWaitKey sessionId))
  | .refreshToken req message =>
      (none, (shared.refreshState (rebuildPicToken req.token)).respond req (.ok message))
  | .insertSnapshotWait sessionId =>
      (none, shared.setEntry (rebuildSnapshotWaitKey sessionId)
        (some ⟨.empty, some (shared.now + snapshotIdleTimeout)⟩))
  | .insertCounter token count =>
      (none, shared.setEntry (rebuildPicToken token)
        (some ⟨.counter count, some (shared.now + snapshotIdleTimeout)⟩))
  | .removeState key => (none, shared.setEntry key none)
  | .purge keys => (none, Shared.purgeExpiredKeys keys shared)
  | .elapse time => (none, { shared with now := shared.now + time })

/-- The tasks that the server begins. -/
def Task.Begins : Task → Prop
  | .handle _ _ | .refreshWait _ _ _ | .refreshToken _ _ => False
  | _ => True

instance : DecidablePred Task.Begins := fun task =>
  match task with
  | .handle _ _ | .refreshWait _ _ _ | .refreshToken _ _ => inferInstanceAs (Decidable False)
  | .arrive _ | .insertSnapshotWait _ | .insertCounter _ _ | .removeState _ | .purge _
  | .elapse _ => inferInstanceAs (Decidable True)

/-! ## The account of one token -/

section

variable (generateToken : String → String) (token : String)

/-- An upload that nothing but the quota can refuse. -/
def succeeds (req : UploadRequest) : Bool :=
  match checkToken generateToken req with
  | .error _ => false
  | .ok sessionId => (handleContent req sessionId).isOk

/-- The uploads of a token that a list keeps with a mark, those with the mark in order. -/
def marked {α : Type} (holds : α → Bool) (kept : List (UploadRequest × α)) : List UploadRequest :=
  (kept.filter fun entry => entry.1.token == token && holds entry.2).map Prod.fst

/-- The slots left for a token, and its uploads that have asked for one, that have got one,
and that were accepted. -/
structure Account where
  value : Option StateValue
  asked : List UploadRequest
  granted : List UploadRequest
  accepted : List UploadRequest

def account (shared : Shared) : Account where
  value := (shared.entities (rebuildPicToken token)).map StateEntry.value
  asked := marked token (fun _ => true) shared.asked
  granted := marked token id shared.asked
  accepted := marked token Except.isOk shared.responses

/-- An upload that has got a slot and is not answered yet. -/
def Task.inFlight : Task → Option UploadRequest
  | .handle req _ | .refreshWait req _ _ | .refreshToken req _ =>
      if req.token = token then some req else none
  | _ => none

def Account.remaining (account : Account) : Nat :=
  match account.value with
  | some (.counter count) => count
  | _ => 0

/-- The slots go to the first `n` uploads that succeed, these and no others are or will be
accepted, and nothing but they has taken a slot. -/
structure QuotaKept (n : Nat) (pool : Pool Shared Task) : Prop where
  granted : (account token pool.shared).granted =
    ((account token pool.shared).asked.filter (succeeds generateToken)).take n
  settled : ((account token pool.shared).accepted ++
    pool.tasks.filterMap (Task.inFlight token)).Perm (account token pool.shared).granted
  remaining : (account token pool.shared).remaining +
    ((account token pool.shared).accepted.length +
      (pool.tasks.filterMap (Task.inFlight token)).length) = n

/-- The session has just been opened with `n` slots. -/
structure Opened (n : Nat) (pool : Pool Shared Task) : Prop where
  value : (account token pool.shared).value = some (.counter n)
  asked : ∀ entry ∈ pool.shared.asked, entry.1.token ≠ token
  responses : ∀ entry ∈ pool.shared.responses, entry.1.token ≠ token
  inFlight : ∀ task ∈ pool.tasks, task.inFlight token = none

/-- The session goes on: nobody opens it again or gives it up, and it does not expire. -/
def Alive (pool : Pool Shared Task) : Task → Prop
  | .insertCounter other _ => other ≠ token
  | .removeState key => key ≠ rebuildPicToken token
  | .purge keys => rebuildPicToken token ∈ keys → ¬pool.shared.expired (rebuildPicToken token)
  | _ => True

instance (pool : Pool Shared Task) : DecidablePred (Alive token pool) := fun task =>
  match task with
  | .insertCounter other _ => inferInstanceAs (Decidable (other ≠ token))
  | .removeState key => inferInstanceAs (Decidable (key ≠ rebuildPicToken token))
  | .purge keys => inferInstanceAs (Decidable (rebuildPicToken token ∈ keys →
      ¬pool.shared.expired (rebuildPicToken token)))
  | .arrive _ | .handle _ _ | .refreshWait _ _ _ | .refreshToken _ _ | .insertSnapshotWait _
  | .elapse _ => inferInstanceAs (Decidable True)

/-- An upload that finds a slot succeeds. -/
def Careful (pool : Pool Shared Task) : Task → Prop
  | .arrive req => req.token = token → (account token pool.shared).value ≠ none →
      (checkToken generateToken req).isOk → succeeds generateToken req
  | _ => True

instance (pool : Pool Shared Task) : DecidablePred (Careful generateToken token pool) := fun task =>
  match task with
  | .arrive req => inferInstanceAs (Decidable (req.token = token →
      (account token pool.shared).value ≠ none → (checkToken generateToken req).isOk →
        succeeds generateToken req))
  | .handle _ _ | .refreshWait _ _ _ | .refreshToken _ _ | .insertSnapshotWait _
  | .insertCounter _ _ | .removeState _ | .purge _ | .elapse _ => inferInstanceAs (Decidable True)

end

/-! ## Keeping the account -/

/-- The invariant: as long as there are slots, whoever asked has got one. -/
structure Balanced (good : UploadRequest → Bool) (n : Nat) (account : Account)
    (flight : List UploadRequest) : Prop where
  value : account.granted.length < n ∧
      account.value = some (.counter (n - account.granted.length)) ∧
      account.asked = account.granted ∨
    account.granted.length = n ∧ account.value = none
  granted : account.granted = (account.asked.filter good).take n
  settled : (account.accepted ++ flight).Perm account.granted

namespace Balanced

variable {good : UploadRequest → Bool} {n : Nat} {account : Account}
  {flight : List UploadRequest} {req : UploadRequest}

theorem of_perm {other : List UploadRequest} (balanced : Balanced good n account flight)
    (same : other.Perm flight) : Balanced good n account other :=
  { balanced with settled := (same.append_left _).trans balanced.settled }

theorem remaining (balanced : Balanced good n account flight) :
    account.remaining + (account.accepted.length + flight.length) = n := by
  have lengths : account.accepted.length + flight.length = account.granted.length := by
    rw [← List.length_append]
    exact balanced.settled.length_eq
  rw [lengths, Account.remaining]
  rcases balanced.value with ⟨few, value, -⟩ | ⟨all, value⟩
  · rw [value]
    dsimp only
    omega
  · rw [value, all]
    exact Nat.zero_add n

/-- Whoever asked was granted a slot, so all of them succeed. -/
theorem asked_good (balanced : Balanced good n account flight)
    (asked : account.asked = account.granted) : ∀ other ∈ account.asked, good other := by
  have granted := balanced.granted
  rw [← asked] at granted
  have short : account.asked.length ≤ (account.asked.filter good).length := by
    have lengths := congrArg List.length granted
    rw [List.length_take] at lengths
    omega
  have whole := List.filter_eq_self.mp
    (List.filter_sublist.eq_of_length_le short)
  exact whole

/-- An upload that succeeds takes a slot. -/
theorem grant (balanced : Balanced good n account flight) {count : Nat}
    (value : account.value = some (.counter count)) (isGood : good req = true) :
    Balanced good n
      { account with
        value := if count ≤ 1 then none else some (.counter (count - 1))
        asked := account.asked ++ [req]
        granted := account.granted ++ [req] } (req :: flight) := by
  rcases balanced.value with ⟨few, held, asked⟩ | ⟨-, gone⟩
  · rw [value] at held
    cases held
    have goods := balanced.asked_good asked
    refine ⟨?_, ?_, ?_⟩
    · simp only [List.length_append, List.length_singleton, asked, and_true]
      split
      · right
        exact ⟨by omega, rfl⟩
      · left
        exact ⟨by omega, by congr 2⟩
    · dsimp only
      rw [List.filter_append, List.filter_eq_self.mpr goods, asked, List.filter_cons, isGood,
        List.filter_nil, if_pos rfl, List.take_of_length_le]
      rw [List.length_append, List.length_singleton]
      omega
    · exact List.perm_middle.trans ((balanced.settled.cons req).trans
        (List.perm_append_singleton req account.granted).symm)
  · rw [value] at gone
    cases gone

/-- An upload that finds no slot. -/
theorem refuse (balanced : Balanced good n account flight) (value : account.value = none) :
    Balanced good n { account with asked := account.asked ++ [req] } flight := by
  rcases balanced.value with ⟨-, held, -⟩ | ⟨all, -⟩
  · rw [value] at held
    cases held
  · refine ⟨.inr ⟨all, value⟩, ?_, balanced.settled⟩
    have granted := balanced.granted
    have enough : n ≤ (account.asked.filter good).length := by
      have lengths := congrArg List.length granted
      rw [List.length_take] at lengths
      omega
    dsimp only
    rw [List.filter_append, List.take_append_of_le_length enough]
    exact granted

theorem accept (balanced : Balanced good n account (req :: flight)) :
    Balanced good n { account with accepted := account.accepted ++ [req] } flight :=
  { balanced with
    settled := by
      dsimp only
      rw [List.append_assoc, List.singleton_append]
      exact balanced.settled }

end Balanced

/-! ## What the operations do to the account -/

section

variable {token : String} {shared : Shared} {req : UploadRequest}

theorem account_setEntry {key : String} (other : key ≠ rebuildPicToken token)
    (entry : Option StateEntry) : account token (shared.setEntry key entry) = account token shared := by
  simp only [account, Shared.setEntry, Function.update_of_ne other.symm]

/-- A refresh moves the expiry only. -/
theorem account_refreshState (key : String) :
    account token (shared.refreshState key) = account token shared := by
  unfold Shared.refreshState
  split
  · rfl
  · next entry found =>
      by_cases same : key = rebuildPicToken token
      · subst same
        simp [account, Shared.setEntry, found]
      · exact account_setEntry same _

theorem marked_append {α : Type} (holds : α → Bool) (kept : List (UploadRequest × α))
    (req : UploadRequest) (value : α) :
    marked token holds (kept ++ [(req, value)]) =
      marked token holds kept ++ (if req.token = token ∧ holds value then [req] else []) := by
  by_cases same : req.token = token <;> cases result : holds value <;> simp [marked, same, result]

theorem account_respond_error (error : GlobalError) :
    account token (shared.respond req (.error error)) = account token shared := by
  simp [account, Shared.respond, marked_append, Except.isOk, Except.toBool]

theorem account_respond_ok (message : String) :
    account token (shared.respond req (.ok message)) =
      { account token shared with
        accepted := (account token shared).accepted ++ (if req.token = token then [req] else []) } := by
  simp [account, Shared.respond, marked_append, Except.isOk, Except.toBool]

theorem account_ask_other (other : req.token ≠ token) (granted : Bool) :
    account token (shared.ask req granted) = account token shared := by
  simp [account, Shared.ask, marked_append, other]

theorem account_ask (same : req.token = token) (granted : Bool) :
    account token (shared.ask req granted) =
      { account token shared with
        asked := (account token shared).asked ++ [req]
        granted := (account token shared).granted ++ (if granted then [req] else []) } := by
  simp [account, Shared.ask, marked_append, same]

theorem rebuildPicToken_ne {other : String} (differs : other ≠ token) :
    rebuildPicToken other ≠ rebuildPicToken token := by
  intro same
  have texts := congrArg String.toList same
  unfold rebuildPicToken at texts
  rw [String.toList_append, String.toList_append] at texts
  exact differs (String.toList_inj.mp (List.append_cancel_left texts))

theorem rebuildSnapshotWaitKey_ne (sessionId : String) :
    rebuildSnapshotWaitKey sessionId ≠ rebuildPicToken token := by
  intro same
  have wait : (rebuildSnapshotWaitKey sessionId).toList.head? = some 'K' := by
    unfold rebuildSnapshotWaitKey
    rw [String.toList_append, List.head?_append,
      show "KEY_SNAPSHOT_IMAGE:".toList.head? = some 'K' by decide, Option.some_or]
  have counter : (rebuildPicToken token).toList.head? = some 'S' := by
    unfold rebuildPicToken
    rw [String.toList_append, List.head?_append,
      show "SNAPSHOT:".toList.head? = some 'S' by decide, Option.some_or]
  rw [same, counter] at wait
  exact absurd wait (by decide)

theorem account_decrementCounter_other (other : req.token ≠ token) :
    account token (shared.decrementCounter (rebuildPicToken req.token)).2 = account token shared := by
  unfold Shared.decrementCounter
  have differs := rebuildPicToken_ne other
  split
  · rfl
  · split
    · split
      · exact account_setEntry differs _
      · exact account_setEntry differs _
    · exact account_setEntry differs _

/-- The entry of the token is a counter, or there is none. -/
theorem decrementCounter_cases {good : UploadRequest → Bool} {n : Nat}
    {flight : List UploadRequest} (balanced : Balanced good n (account token shared) flight) :
    ((account token shared).value = none ∧
      shared.decrementCounter (rebuildPicToken token) = (false, shared)) ∨
    ∃ count, (account token shared).value = some (.counter count) ∧
      (shared.decrementCounter (rebuildPicToken token)).1 = true ∧
      account token (shared.decrementCounter (rebuildPicToken token)).2 =
        { account token shared with
          value := if count ≤ 1 then none else some (.counter (count - 1)) } := by
  unfold Shared.decrementCounter
  cases found : shared.entities (rebuildPicToken token) with
  | none => exact .inl ⟨by simp [account, found], rfl⟩
  | some entry =>
      right
      have held : (account token shared).value = some entry.value := by simp [account, found]
      rcases balanced.value with ⟨-, value, -⟩ | ⟨-, value⟩
      · rw [held] at value
        have isCounter := Option.some.inj value
        refine ⟨_, held.trans value, ?_⟩
        dsimp only
        rw [isCounter]
        dsimp only
        split
        · exact ⟨rfl, by simp [account, Shared.setEntry]⟩
        · exact ⟨rfl, by simp [account, Shared.setEntry]⟩
      · rw [held] at value
        cases value

theorem expired_setEntry {key other : String} (differs : other ≠ key) (entry : Option StateEntry) :
    (shared.setEntry key entry).expired other = shared.expired other := by
  change ((Function.update shared.entities key entry other).bind _).any (· ≤ shared.now) = _
  rw [Function.update_of_ne differs]
  rfl

/-- A purge that does not find the entry expired leaves it. -/
theorem account_purge (keys : List String)
    (fresh : rebuildPicToken token ∈ keys → ¬shared.expired (rebuildPicToken token)) :
    account token (Shared.purgeExpiredKeys keys shared) = account token shared := by
  induction keys generalizing shared with
  | nil => rfl
  | cons key keys ih =>
      rw [Shared.purgeExpiredKeys]
      split
      · next expired =>
          have differs : key ≠ rebuildPicToken token := by
            rintro rfl
            exact fresh (List.mem_cons_self ..) expired
          rw [ih, account_setEntry differs]
          intro member
          rw [expired_setEntry differs.symm]
          exact fresh (List.mem_cons_of_mem _ member)
      · exact ih fun member => fresh (List.mem_cons_of_mem _ member)

end

/-! ## Every run -/

section

variable {generateToken : String → String} {token : String} {n : Nat}

/-- An upload that has got a slot succeeds. -/
def Task.Sound (token : String) : Task → Prop
  | .handle req sessionId => req.token = token → (handleContent req sessionId).isOk
  | _ => True

structure Inv (generateToken : String → String) (token : String) (n : Nat)
    (pool : Pool Shared Task) : Prop where
  balanced : Balanced (succeeds generateToken) n (account token pool.shared)
    (pool.tasks.filterMap (Task.inFlight token))
  sound : ∀ task ∈ pool.tasks, task.Sound token

theorem Inv.quotaKept {pool : Pool Shared Task} (inv : Inv generateToken token n pool) :
    QuotaKept generateToken token n pool :=
  ⟨inv.balanced.granted, inv.balanced.settled, inv.balanced.remaining⟩

theorem marked_eq_nil {α : Type} (holds : α → Bool) {kept : List (UploadRequest × α)}
    (others : ∀ entry ∈ kept, entry.1.token ≠ token) : marked token holds kept = [] := by
  simp only [marked, List.map_eq_nil_iff, List.filter_eq_nil_iff, Bool.and_eq_true, beq_iff_eq]
  exact fun entry member both => others entry member both.1

theorem Opened.inv {pool : Pool Shared Task} (opened : Opened token n pool) (positive : 0 < n) :
    Inv generateToken token n pool := by
  have asked : (account token pool.shared).asked = [] :=
    marked_eq_nil (fun _ => true) opened.asked
  have granted : (account token pool.shared).granted = [] :=
    marked_eq_nil id opened.asked
  have accepted : (account token pool.shared).accepted = [] :=
    marked_eq_nil Except.isOk opened.responses
  have flight : pool.tasks.filterMap (Task.inFlight token) = [] :=
    List.filterMap_eq_nil_iff.mpr opened.inFlight
  refine ⟨⟨.inl ⟨?_, ?_, ?_⟩, ?_, ?_⟩, fun task member => ?_⟩
  · rw [granted]
    exact positive
  · rw [granted]
    exact opened.value
  · rw [asked, granted]
  · rw [asked, granted, List.filter_nil, List.take_nil]
  · rw [accepted, granted, flight]
    exact List.Perm.nil
  · have idle := opened.inFlight task member
    cases task with
    | handle req sessionId =>
        intro same
        simp [Task.inFlight, same] at idle
    | _ => trivial

theorem inv_begin {shared : Shared} {tasks : List Task} {task : Task}
    (inv : Inv generateToken token n ⟨shared, tasks⟩) (begins : task.Begins) :
    Inv generateToken token n ⟨shared, tasks ++ [task]⟩ := by
  have idle : task.inFlight token = none ∧ task.Sound token := by
    cases task <;> first | exact ⟨rfl, trivial⟩ | exact begins.elim
  constructor
  · have same : (tasks ++ [task]).filterMap (Task.inFlight token) =
        tasks.filterMap (Task.inFlight token) := by
      rw [List.filterMap_append, List.filterMap_cons_none idle.1, List.filterMap_nil,
        List.append_nil]
    change Balanced _ _ _ ((tasks ++ [task]).filterMap (Task.inFlight token))
    rw [same]
    exact inv.balanced
  · intro other member
    rcases List.mem_append.mp member with old | new
    · exact inv.sound other old
    · rw [List.mem_singleton.mp new]
      exact idle.2

/-- An upload that arrives is refused, or it is on its way with one of the grants. -/
theorem arrive_balanced {pool : Pool Shared Task} {req : UploadRequest} {others : List UploadRequest}
    (balanced : Balanced (succeeds generateToken) n (account token pool.shared) others)
    (careful : Careful generateToken token pool (.arrive req)) :
    Balanced (succeeds generateToken) n
        (account token (work generateToken pool.shared (.arrive req)).2)
        ((((work generateToken pool.shared (.arrive req)).1).bind (Task.inFlight token)).toList ++
          others) ∧
      ∀ rest ∈ (work generateToken pool.shared (.arrive req)).1, rest.Sound token := by
  have noRest {Rest : Task → Prop} : ∀ rest ∈ (none : Option Task), Rest rest :=
    fun _ member => (by cases member)
  dsimp only [work]
  cases checked : checkToken generateToken req with
  | error error =>
      refine ⟨?_, noRest⟩
      rw [account_respond_error]
      exact balanced
  | ok sessionId =>
      by_cases same : req.token = token
      · subst same
        rcases decrementCounter_cases balanced with ⟨gone, refused⟩ | ⟨count, value, granted, less⟩
        · rw [refused]
          refine ⟨?_, noRest⟩
          dsimp only
          rw [if_neg Bool.false_ne_true, account_respond_error, account_ask rfl]
          simpa [Task.inFlight] using balanced.refuse gone
        · have good := careful rfl (by simp [value]) (by simp [checked, Except.isOk, Except.toBool])
          rw [granted]
          dsimp only
          rw [if_pos rfl]
          refine ⟨?_, ?_⟩
          · rw [account_ask rfl, less]
            simpa [Task.inFlight] using balanced.grant value good
          · rintro rest ⟨rfl⟩ -
            simpa [succeeds, checked] using good
      · have kept := @account_decrementCounter_other token pool.shared req same
        generalize pool.shared.decrementCounter (rebuildPicToken req.token) = checked' at kept
        obtain ⟨granted, after⟩ := checked'
        have asked : account token (after.ask req granted) = account token pool.shared :=
          (account_ask_other same granted).trans kept
        cases granted with
        | true =>
            refine ⟨?_, ?_⟩
            · dsimp only
              rw [if_pos rfl, asked]
              simpa [Task.inFlight, same] using balanced
            · rintro rest ⟨rfl⟩ own
              exact absurd own same
        | false =>
            refine ⟨?_, noRest⟩
            dsimp only
            rw [if_neg Bool.false_ne_true, account_respond_error, asked]
            exact balanced

/-- What one step of a task does to the account, with the uploads that the other tasks
have on their way. -/
theorem work_balanced {shared : Shared} {task : Task} {others : List UploadRequest}
    (balanced : Balanced (succeeds generateToken) n (account token shared)
      ((task.inFlight token).toList ++ others))
    (sound : task.Sound token) {pool : Pool Shared Task} (here : pool.shared = shared)
    (alive : Alive token pool task) (careful : Careful generateToken token pool task) :
    Balanced (succeeds generateToken) n (account token (work generateToken shared task).2)
        ((((work generateToken shared task).1).bind (Task.inFlight token)).toList ++ others) ∧
      ∀ rest ∈ (work generateToken shared task).1, rest.Sound token := by
  subst here
  have noRest {Rest : Task → Prop} : ∀ rest ∈ (none : Option Task), Rest rest :=
    fun _ member => (by cases member)
  cases task with
  | arrive req => exact arrive_balanced balanced careful
  | handle req sessionId =>
      dsimp only [work]
      cases result : handleContent req sessionId with
      | error error =>
          have other : req.token ≠ token := by
            intro same
            have good := sound same
            simp [result, Except.isOk, Except.toBool] at good
          refine ⟨?_, noRest⟩
          rw [account_respond_error]
          simpa [Task.inFlight, other] using balanced
      | ok message =>
          refine ⟨balanced, ?_⟩
          rintro rest ⟨rfl⟩
          trivial
  | refreshWait req sessionId message =>
      refine ⟨?_, ?_⟩
      · dsimp only [work]
        rw [account_refreshState]
        exact balanced
      · rintro rest ⟨rfl⟩
        trivial
  | refreshToken req message =>
      refine ⟨?_, noRest⟩
      dsimp only [work]
      rw [account_respond_ok, account_refreshState]
      by_cases same : req.token = token
      · simp only [Task.inFlight, if_pos same] at balanced ⊢
        exact balanced.accept
      · simpa [Task.inFlight, same] using balanced
  | insertSnapshotWait sessionId =>
      refine ⟨?_, noRest⟩
      dsimp only [work]
      rw [account_setEntry (rebuildSnapshotWaitKey_ne sessionId)]
      exact balanced
  | insertCounter other count =>
      refine ⟨?_, noRest⟩
      dsimp only [work]
      rw [account_setEntry (rebuildPicToken_ne alive)]
      exact balanced
  | removeState key =>
      refine ⟨?_, noRest⟩
      dsimp only [work]
      rw [account_setEntry alive]
      exact balanced
  | purge keys =>
      refine ⟨?_, noRest⟩
      dsimp only [work]
      rw [account_purge keys alive]
      exact balanced
  | elapse time => exact ⟨balanced, noRest⟩

theorem inv_advance {shared : Shared} {earlier later : List Task} {task : Task}
    (inv : Inv generateToken token n ⟨shared, earlier ++ task :: later⟩)
    (alive : Alive token ⟨shared, earlier ++ task :: later⟩ task)
    (careful : Careful generateToken token ⟨shared, earlier ++ task :: later⟩ task) :
    Inv generateToken token n ⟨(work generateToken shared task).2,
      earlier ++ (work generateToken shared task).1.toList ++ later⟩ := by
  have sound : task.Sound token := inv.sound task (List.mem_append_right _ (List.mem_cons_self ..))
  obtain ⟨balanced, restSound⟩ :=
    work_balanced (inv.balanced.of_perm (held_perm (Task.inFlight token)).symm) sound rfl alive
      careful
  refine ⟨balanced.of_perm (held_advanced_perm (Task.inFlight token)), fun other member => ?_⟩
  rcases mem_advanced task member with isRest | old
  · exact restSound other isRest
  · exact inv.sound other old

end

/-- In every run in which each upload that finds a slot succeeds, the slots go to the first
uploads that succeed, and no upload that fails costs one. -/
theorem quotaKept_of_careful (generateToken : String → String) (token : String) (n : Nat)
    (positive : 1 ≤ n) (pool : Pool Shared Task) (opened : Opened token n pool)
    (moves : List (Move Task))
    (guarded : ∀ entry ∈ Runs.run (step (work generateToken)) pool moves,
      Guarded Task.Begins
        (fun pool task => Alive token pool task ∧ Careful generateToken token pool task)
        entry.before entry.action) :
    ∀ entry ∈ Runs.run (step (work generateToken)) pool moves,
      QuotaKept generateToken token n entry.before ∧ QuotaKept generateToken token n entry.after := by
  have held := invariant_run (Inv generateToken token n)
    (fun _ _ _ inv begins => inv_begin inv begins)
    (fun _ _ _ _ inv both => inv_advance inv both.1 both.2) (opened.inv positive) guarded
  intro entry member
  obtain ⟨before, after⟩ := held entry member
  exact ⟨before.quotaKept, after.quotaKept⟩

/-! ## Two sessions -/

def plainStorage : Storage where
  now := 0
  dig62De _ := .ok (String.ofList (List.replicate 40 '0'))
  buildFileName _ _ := .ok "a.jpg"
  fileStem _ := some "a"
  storageFormat := "JPG"
  createDirAll := .ok ()
  canonicalize := .ok (some "/pics/20240101")
  finalDir := some "pics/20240101"
  loadFromMemory _ := .ok ()
  save := .ok ()
  metadataLen := .ok 1
  insertGmvFileInfo _ := .ok ()

def plainToken : String := "GMV:SESSION v1.0@S"

def picture : UploadRequest :=
  ⟨plainToken, [("SessionID", "S")], some (some "image/jpeg"), .error "no form", .ok [1],
    plainStorage⟩

def withoutContentType : UploadRequest := { picture with contentType := none }

def opened (count : Nat) : Pool Shared Task :=
  ⟨⟨fun key => if key = rebuildPicToken plainToken then some ⟨.counter count, some 20000⟩ else none,
    0, [], []⟩, []⟩

theorem opened_opened (count : Nat) : Opened plainToken count (opened count) where
  value := by simp [account, opened]
  asked _ member := by cases member
  responses _ member := by cases member
  inFlight _ member := by cases member

/-- Two pictures at the same time, and a request without a content type that comes too late. -/
def twoPictures : List (Move Task) :=
  [.begin (.arrive picture), .begin (.arrive picture), .advance 0, .advance 1, .advance 0,
    .begin (.purge [rebuildPicToken plainToken]), .advance 2, .begin (.arrive withoutContentType),
    .advance 2, .advance 1, .advance 0, .advance 0, .advance 0, .advance 0]

theorem quotaKept_twoPictures :
    (Runs.final (step (work id)) (opened 2) twoPictures).shared.responses.length = 3 ∧
    ∀ entry ∈ Runs.run (step (work id)) (opened 2) twoPictures,
      QuotaKept id plainToken 2 entry.before ∧ QuotaKept id plainToken 2 entry.after :=
  ⟨by decide +kernel, quotaKept_of_careful id plainToken 2 (by decide) (opened 2) (opened_opened 2)
    twoPictures (by decide +kernel)⟩

/-- A request without a content type takes the only slot; the picture after it is refused. -/
def lostSlot : List (Move Task) :=
  [.begin (.arrive withoutContentType), .advance 0, .advance 0, .begin (.arrive picture), .advance 0]

theorem quotaKept_lostSlot :
    (∀ entry ∈ Runs.run (step (work id)) (opened 1) lostSlot,
      Guarded Task.Begins (Alive plainToken) entry.before entry.action) ∧
    succeeds id picture = true ∧
    ¬QuotaKept id plainToken 1 (Runs.final (step (work id)) (opened 1) lostSlot) := by
  refine ⟨by decide +kernel, by decide +kernel, fun kept => ?_⟩
  have left : (account plainToken (Runs.final (step (work id)) (opened 1) lostSlot).shared).remaining +
      ((account plainToken (Runs.final (step (work id)) (opened 1) lostSlot).shared).accepted.length +
        ((Runs.final (step (work id)) (opened 1) lostSlot).tasks.filterMap
          (Task.inFlight plainToken)).length) = 0 := by decide +kernel
  exact absurd (left.symm.trans kept.remaining) (by decide)

end Gmv.Session.SnapshotQuota
