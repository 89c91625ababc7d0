import Gmv.Library.Checks
import Gmv.Library.Rounding
import Gmv.Session.SocketAddr
import Mathlib.Tactic.MkIffOfInductiveProp

/-!
# SIP dialog sessions

The durable record of one SIP dialog, its validation, and the table row it is
stored in.  Timestamps are instants on one time line, in nanoseconds; the columns of
the row round them.  The route set is stored as a JSON text; the serializer is a
parameter that reads back what it wrote.
-/

namespace Gmv.Session

open Gmv.Library

abbrev NaiveDateTime := Int

def millis (count : Int) : NaiveDateTime := count * 1000000

inductive DialogError where
  | invalidData (message : String)
  | database
  deriving DecidableEq, Repr

inductive DialogSessionType where
  | live
  | playback
  | download
  | talk
  deriving DecidableEq, Repr

inductive DialogTransport where
  | udp
  | tcp
  | tls
  deriving DecidableEq, Repr

inductive DialogState where
  | inviting
  | established
  | terminating
  | terminated
  | orphan
  deriving DecidableEq, Repr

namespace DialogSessionType

def toText : DialogSessionType → String
  | live => "LIVE"
  | playback => "PLAYBACK"
  | download => "DOWNLOAD"
  | talk => "TALK"

def fromStr (value : String) : Except DialogError DialogSessionType :=
  match value with
  | "LIVE" => .ok live
  | "PLAYBACK" => .ok playback
  | "DOWNLOAD" => .ok download
  | "TALK" => .ok talk
  | _ => .error (.invalidData "invalid dialog session type")

@[simp]
theorem fromStr_toText (value : DialogSessionType) : fromStr value.toText = .ok value := by
  cases value <;> rfl

theorem fromStr_eq_ok {text : String} {value : DialogSessionType} :
    fromStr text = .ok value ↔ text = value.toText := by
  constructor
  · intro read
    unfold fromStr at read
    split at read <;> cases read <;> rfl
  · rintro rfl
    exact fromStr_toText value

end DialogSessionType

namespace DialogTransport

def toText : DialogTransport → String
  | udp => "UDP"
  | tcp => "TCP"
  | tls => "TLS"

def fromStr (value : String) : Except DialogError DialogTransport :=
  match value with
  | "UDP" => .ok udp
  | "TCP" => .ok tcp
  | "TLS" => .ok tls
  | _ => .error (.invalidData "invalid dialog transport")

@[simp]
theorem fromStr_toText (value : DialogTransport) : fromStr value.toText = .ok value := by
  cases value <;> rfl

theorem fromStr_eq_ok {text : String} {value : DialogTransport} :
    fromStr text = .ok value ↔ text = value.toText := by
  constructor
  · intro read
    unfold fromStr at read
    split at read <;> cases read <;> rfl
  · rintro rfl
    exact fromStr_toText value

end DialogTransport

namespace DialogState

def isTerminal : DialogState → Bool
  | terminated | orphan => true
  | _ => false

def canTransitionTo : DialogState → DialogState → Bool
  | inviting, established | inviting, terminated | inviting, orphan => true
  | established, terminating | established, terminated | established, orphan => true
  | terminating, terminated | terminating, orphan => true
  | _, _ => false

theorem not_terminal_of_canTransitionTo {state next : DialogState}
    (allowed : state.canTransitionTo next = true) : state.isTerminal = false := by
  cases state <;> simp_all [canTransitionTo, isTerminal]

def toText : DialogState → String
  | inviting => "INVITING"
  | established => "ESTABLISHED"
  | terminating => "TERMINATING"
  | terminated => "TERMINATED"
  | orphan => "ORPHAN"

def fromStr (value : String) : Except DialogError DialogState :=
  match value with
  | "INVITING" => .ok inviting
  | "ESTABLISHED" => .ok established
  | "TERMINATING" => .ok terminating
  | "TERMINATED" => .ok terminated
  | "ORPHAN" => .ok orphan
  | _ => .error (.invalidData "invalid dialog state")

@[simp]
theorem fromStr_toText (value : DialogState) : fromStr value.toText = .ok value := by
  cases value <;> rfl

theorem fromStr_eq_ok {text : String} {value : DialogState} :
    fromStr text = .ok value ↔ text = value.toText := by
  constructor
  · intro read
    unfold fromStr at read
    split at read <;> cases read <;> rfl
  · rintro rfl
    exact fromStr_toText value

theorem toText_injective {first second : DialogState} (same : first.toText = second.toText) :
    first = second := by
  have read := congrArg fromStr same
  rw [fromStr_toText, fromStr_toText] at read
  exact Except.ok.inj read

end DialogState

/-- `char::is_whitespace`. -/
def isWhitespace (char : Char) : Bool :=
  let code := char.toNat
  (9 ≤ code && code ≤ 13) || code = 0x20 || code = 0x85 || code = 0xA0 || code = 0x1680 ||
    (0x2000 ≤ code && code ≤ 0x200A) || code = 0x2028 || code = 0x2029 || code = 0x202F ||
    code = 0x205F || code = 0x3000

/-- A text without the leading and the trailing characters of two kinds. -/
def trimMatches (leading trailing : Char → Bool) (text : List Char) : List Char :=
  ((text.dropWhile leading).reverse.dropWhile trailing).reverse

def validateLen (value : String) (maxLen : Nat) (field : String) : Except DialogError Unit :=
  rejectIf (value.isEmpty || decide (maxLen < value.utf8ByteSize) ||
      value.toList.any fun char => char = '\x00' || char = '\r' || char = '\n')
    (.invalidData ("invalid " ++ field))

def validateOptionalLen (value : Option String) (maxLen : Nat) (field : String) :
    Except DialogError Unit :=
  match value with
  | some value => validateLen value maxLen field
  | none => .ok ()

def validateSipUri (value : String) (maxLen : Nat) (field : String) :
    Except DialogError Unit := do
  validateLen value maxLen field
  let uri := trimMatches (· = '<') (· = '>') (trimMatches isWhitespace isWhitespace value.toList)
  rejectIf (!"sip:".toList.isPrefixOf uri && !"sips:".toList.isPrefixOf uri)
    (.invalidData "invalid SIP URI")

def validateOptionalSipUri (value : Option String) (maxLen : Nat) (field : String) :
    Except DialogError Unit :=
  match value with
  | some value => validateSipUri value maxLen field
  | none => .ok ()

def validateAddr (value : String) (field : String) : Except DialogError Unit := do
  validateLen value 64 field
  rejectIf (SocketAddr.parse value).isNone (.invalidData "invalid SIP socket address")

def validateRouteSet (routeSet : List String) : Except DialogError Unit :=
  routeSet.forM fun route => validateSipUri route 1024 "route"

/-- The JSON serializer of route sets. -/
structure SerdeJson where
  toText : List String → Option String
  fromStr : String → Option (List String)
  fromStr_toText : ∀ {routes text}, toText routes = some text → fromStr text = some routes

def routeSetToJson (json : SerdeJson) (routeSet : List String) :
    Except DialogError (Option String) := do
  validateRouteSet routeSet
  if routeSet.isEmpty then
    return none
  match json.toText routeSet with
  | none => .error (.invalidData "failed to serialize dialog route set")
  | some text =>
      rejectIf (65535 < text.utf8ByteSize)
        (.invalidData "dialog route set exceeds TEXT capacity")
      return some text

def routeSetFromJson (json : SerdeJson) (value : Option String) :
    Except DialogError (List String) :=
  match value with
  | none => .ok []
  | some text =>
      match json.fromStr text with
      | none => .error (.invalidData "invalid dialog route set JSON")
      | some routeSet => do
          rejectIf (65535 < text.utf8ByteSize)
            (.invalidData "dialog route set exceeds TEXT capacity")
          validateRouteSet routeSet
          return routeSet

structure SipDialogSession where
  streamId : String
  deviceId : String
  channelId : String
  sessionType : DialogSessionType
  signalNodeId : String
  mediaNodeId : String
  ssrc : Option String
  callId : String
  localUri : String
  remoteUri : String
  localTag : String
  remoteTag : Option String
  localCseq : Int64
  remoteCseq : Option Int64
  contactUri : Option String
  routeSet : List String
  localSipAddr : String
  remoteSipAddr : String
  transport : DialogTransport
  state : DialogState
  establishedAt : Option NaiveDateTime
  lastSeenAt : NaiveDateTime
  expireAt : NaiveDateTime
  version : Int64
  createdAt : NaiveDateTime
  updatedAt : NaiveDateTime
  deriving DecidableEq, Repr

def SipDialogSession.validate (session : SipDialogSession) : Except DialogError Unit := do
  validateLen session.streamId 64 "stream_id"
  validateLen session.deviceId 32 "device_id"
  validateLen session.channelId 32 "channel_id"
  validateLen session.signalNodeId 64 "signal_node_id"
  validateLen session.mediaNodeId 64 "media_node_id"
  validateOptionalLen session.ssrc 16 "ssrc"
  validateLen session.callId 128 "call_id"
  validateSipUri session.localUri 256 "local_uri"
  validateSipUri session.remoteUri 256 "remote_uri"
  validateLen session.localTag 128 "local_tag"
  validateOptionalLen session.remoteTag 128 "remote_tag"
  validateOptionalSipUri session.contactUri 256 "contact_uri"
  validateAddr session.localSipAddr "local_sip_addr"
  validateAddr session.remoteSipAddr "remote_sip_addr"
  validateRouteSet session.routeSet
  rejectIf (decide (session.localCseq ≤ 0) || session.remoteCseq.any (· ≤ 0))
    (.invalidData "dialog CSeq must be positive")
  rejectIf (decide (session.version < 0) || decide (session.updatedAt < session.createdAt) ||
      decide (session.lastSeenAt < session.createdAt) ||
      decide (session.expireAt ≤ session.lastSeenAt) ||
      session.establishedAt.any fun value =>
        decide (value < session.createdAt) || decide (session.updatedAt < value))
    (.invalidData "invalid dialog version or timestamps")
  match session.state with
  | .inviting =>
      rejectIf session.establishedAt.isSome (.invalidData "INVITING must not have established_at")
  | .established | .terminating =>
      rejectIf (session.remoteTag.isNone || session.establishedAt.isNone)
        (.invalidData "established dialog states require remote_tag and established_at")
  | _ => .ok ()

structure EstablishedDialogFields where
  remoteTag : String
  localCseq : Int64
  remoteCseq : Option Int64
  contactUri : Option String
  routeSet : List String
  localSipAddr : String
  remoteSipAddr : String
  establishedAt : NaiveDateTime
  lastSeenAt : NaiveDateTime
  expireAt : NaiveDateTime
  updatedAt : NaiveDateTime
  deriving DecidableEq, Repr

def EstablishedDialogFields.validate (fields : EstablishedDialogFields) :
    Except DialogError Unit := do
  validateLen fields.remoteTag 128 "remote_tag"
  validateOptionalSipUri fields.contactUri 256 "contact_uri"
  validateAddr fields.localSipAddr "local_sip_addr"
  validateAddr fields.remoteSipAddr "remote_sip_addr"
  validateRouteSet fields.routeSet
  rejectIf (decide (fields.localCseq ≤ 0) || fields.remoteCseq.any (· ≤ 0) ||
      decide (fields.lastSeenAt < fields.establishedAt) ||
      decide (fields.updatedAt < fields.establishedAt) ||
      decide (fields.expireAt ≤ fields.lastSeenAt))
    (.invalidData "invalid established dialog fields")

structure SipDialogSessionRow where
  streamId : String
  deviceId : String
  channelId : String
  sessionType : String
  signalNodeId : String
  mediaNodeId : String
  ssrc : Option String
  callId : String
  localUri : String
  remoteUri : String
  localTag : String
  remoteTag : Option String
  localCseq : Int64
  remoteCseq : Option Int64
  contactUri : Option String
  routeSet : Option String
  localSipAddr : String
  remoteSipAddr : String
  transport : String
  state : String
  establishedAt : Option NaiveDateTime
  lastSeenAt : NaiveDateTime
  expireAt : NaiveDateTime
  version : Int64
  createdAt : NaiveDateTime
  updatedAt : NaiveDateTime
  deriving DecidableEq, Repr

/-- `TryFrom<SipDialogSessionRow>`. -/
def SipDialogSession.tryFrom (json : SerdeJson) (row : SipDialogSessionRow) :
    Except DialogError SipDialogSession := do
  let sessionType ← DialogSessionType.fromStr row.sessionType
  let routeSet ← routeSetFromJson json row.routeSet
  let transport ← DialogTransport.fromStr row.transport
  let state ← DialogState.fromStr row.state
  let session : SipDialogSession :=
    { streamId := row.streamId
      deviceId := row.deviceId
      channelId := row.channelId
      sessionType := sessionType
      signalNodeId := row.signalNodeId
      mediaNodeId := row.mediaNodeId
      ssrc := row.ssrc
      callId := row.callId
      localUri := row.localUri
      remoteUri := row.remoteUri
      localTag := row.localTag
      remoteTag := row.remoteTag
      localCseq := row.localCseq
      remoteCseq := row.remoteCseq
      contactUri := row.contactUri
      routeSet := routeSet
      localSipAddr := row.localSipAddr
      remoteSipAddr := row.remoteSipAddr
      transport := transport
      state := state
      establishedAt := row.establishedAt
      lastSeenAt := row.lastSeenAt
      expireAt := row.expireAt
      version := row.version
      createdAt := row.createdAt
      updatedAt := row.updatedAt }
  session.validate
  return session

/-- The values an insert binds, with the route set as its JSON text. -/
def SipDialogSession.toRow (session : SipDialogSession) (routeSet : Option String) :
    SipDialogSessionRow :=
  { streamId := session.streamId
    deviceId := session.deviceId
    channelId := session.channelId
    sessionType := session.sessionType.toText
    signalNodeId := session.signalNodeId
    mediaNodeId := session.mediaNodeId
    ssrc := session.ssrc
    callId := session.callId
    localUri := session.localUri
    remoteUri := session.remoteUri
    localTag := session.localTag
    remoteTag := session.remoteTag
    localCseq := session.localCseq
    remoteCseq := session.remoteCseq
    contactUri := session.contactUri
    routeSet := routeSet
    localSipAddr := session.localSipAddr
    remoteSipAddr := session.remoteSipAddr
    transport := session.transport.toText
    state := session.state.toText
    establishedAt := session.establishedAt
    lastSeenAt := session.lastSeenAt
    expireAt := session.expireAt
    version := session.version
    createdAt := session.createdAt
    updatedAt := session.updatedAt }

/-- A session with its times as the columns keep them. -/
def SipDialogSession.stored (datetime : Rounding NaiveDateTime) (session : SipDialogSession) :
    SipDialogSession :=
  { session with
    establishedAt := session.establishedAt.map datetime
    lastSeenAt := datetime session.lastSeenAt
    expireAt := datetime session.expireAt
    createdAt := datetime session.createdAt
    updatedAt := datetime session.updatedAt }

/-- What `validate` accepts. -/
@[mk_iff valid_iff]
structure SipDialogSession.Valid (session : SipDialogSession) : Prop where
  streamId : validateLen session.streamId 64 "stream_id" = .ok ()
  deviceId : validateLen session.deviceId 32 "device_id" = .ok ()
  channelId : validateLen session.channelId 32 "channel_id" = .ok ()
  signalNodeId : validateLen session.signalNodeId 64 "signal_node_id" = .ok ()
  mediaNodeId : validateLen session.mediaNodeId 64 "media_node_id" = .ok ()
  ssrc : validateOptionalLen session.ssrc 16 "ssrc" = .ok ()
  callId : validateLen session.callId 128 "call_id" = .ok ()
  localUri : validateSipUri session.localUri 256 "local_uri" = .ok ()
  remoteUri : validateSipUri session.remoteUri 256 "remote_uri" = .ok ()
  localTag : validateLen session.localTag 128 "local_tag" = .ok ()
  remoteTag : validateOptionalLen session.remoteTag 128 "remote_tag" = .ok ()
  contactUri : validateOptionalSipUri session.contactUri 256 "contact_uri" = .ok ()
  localSipAddr : validateAddr session.localSipAddr "local_sip_addr" = .ok ()
  remoteSipAddr : validateAddr session.remoteSipAddr "remote_sip_addr" = .ok ()
  routeSet : validateRouteSet session.routeSet = .ok ()
  localCseq : 0 < session.localCseq
  remoteCseq : ∀ value, session.remoteCseq = some value → 0 < value
  version : 0 ≤ session.version
  updatedAt : session.createdAt ≤ session.updatedAt
  lastSeenAt : session.createdAt ≤ session.lastSeenAt
  expireAt : session.lastSeenAt < session.expireAt
  establishedAt : ∀ value, session.establishedAt = some value →
    session.createdAt ≤ value ∧ value ≤ session.updatedAt
  inviting : session.state = .inviting → session.establishedAt = none
  confirmed : session.state = .established ∨ session.state = .terminating →
    session.remoteTag ≠ none ∧ session.establishedAt ≠ none

theorem SipDialogSession.validate_eq_ok {session : SipDialogSession} :
    session.validate = .ok () ↔ session.Valid := by
  have stateRule : (match session.state with
      | .inviting =>
          rejectIf session.establishedAt.isSome
            (DialogError.invalidData "INVITING must not have established_at")
      | .established | .terminating =>
          rejectIf (session.remoteTag.isNone || session.establishedAt.isNone)
            (.invalidData "established dialog states require remote_tag and established_at")
      | _ => .ok ()) = .ok () ↔
      (session.state = .inviting → session.establishedAt = none) ∧
        (session.state = .established ∨ session.state = .terminating →
          session.remoteTag ≠ none ∧ session.establishedAt ≠ none) := by
    cases session.state <;> simp [Option.isSome_iff_ne_none]
  rw [valid_iff, validate]
  simp only [check_bind_eq_ok, check_unit, rejectIf_eq_ok, stateRule, Bool.or_eq_false_iff,
    decide_eq_false_iff_not, Option.any_eq_false, Int64.not_le, Int64.not_lt, Int.not_lt,
    Int.not_le, and_assoc]

/-- Stored, a session stays valid unless its last two times come together. -/
theorem SipDialogSession.Valid.stored {session : SipDialogSession} (valid : session.Valid)
    {datetime : Rounding NaiveDateTime}
    (apart : datetime session.lastSeenAt < datetime session.expireAt) :
    (session.stored datetime).Valid :=
  { valid with
    updatedAt := datetime.monotone valid.updatedAt
    lastSeenAt := datetime.monotone valid.lastSeenAt
    expireAt := apart
    establishedAt := by
      intro value isStored
      obtain ⟨given, isGiven, rfl⟩ := Option.map_eq_some_iff.mp isStored
      obtain ⟨created, before⟩ := valid.establishedAt given isGiven
      exact ⟨datetime.monotone created, datetime.monotone before⟩
    inviting := by
      intro inviting
      exact Option.map_eq_none_iff.mpr (valid.inviting inviting)
    confirmed := by
      intro confirmed
      obtain ⟨tagged, established⟩ := valid.confirmed confirmed
      exact ⟨tagged, fun absent => established (Option.map_eq_none_iff.mp absent)⟩ }

/-- What the validation of established fields accepts. -/
@[mk_iff valid_iff]
structure EstablishedDialogFields.Valid (fields : EstablishedDialogFields) : Prop where
  remoteTag : validateLen fields.remoteTag 128 "remote_tag" = .ok ()
  contactUri : validateOptionalSipUri fields.contactUri 256 "contact_uri" = .ok ()
  localSipAddr : validateAddr fields.localSipAddr "local_sip_addr" = .ok ()
  remoteSipAddr : validateAddr fields.remoteSipAddr "remote_sip_addr" = .ok ()
  routeSet : validateRouteSet fields.routeSet = .ok ()
  localCseq : 0 < fields.localCseq
  remoteCseq : ∀ value, fields.remoteCseq = some value → 0 < value
  lastSeenAt : fields.establishedAt ≤ fields.lastSeenAt
  updatedAt : fields.establishedAt ≤ fields.updatedAt
  expireAt : fields.lastSeenAt < fields.expireAt

theorem EstablishedDialogFields.validate_eq_ok {fields : EstablishedDialogFields} :
    fields.validate = .ok () ↔ fields.Valid := by
  rw [valid_iff, validate]
  simp only [check_bind_eq_ok, check_unit, rejectIf_eq_ok, Bool.or_eq_false_iff,
    decide_eq_false_iff_not, Option.any_eq_false, Int64.not_le, Int.not_lt, Int.not_le, and_assoc]

/-- A stored route set reads back. -/
theorem routeSetFromJson_toJson {json : SerdeJson} {routeSet : List String}
    {text : Option String} (stored : routeSetToJson json routeSet = .ok text) :
    routeSetFromJson json text = .ok routeSet := by
  simp only [routeSetToJson, check_bind_eq_ok, check_unit] at stored
  obtain ⟨valid, stored⟩ := stored
  cases routeSet with
  | nil =>
      cases stored
      rfl
  | cons route rest =>
      simp only [List.isEmpty_cons, Bool.false_eq_true, if_false] at stored
      cases written : json.toText (route :: rest) with
      | none => simp [written] at stored
      | some written' =>
          simp only [written, check_bind_eq_ok, check_unit, rejectIf_eq_ok,
            check_pure_eq_ok] at stored
          obtain ⟨fits, rfl⟩ := stored
          simp [routeSetFromJson, json.fromStr_toText written, fits, valid]

/-- A row loads exactly when it stores a valid session. -/
theorem SipDialogSession.tryFrom_eq_ok {json : SerdeJson} {row : SipDialogSessionRow}
    {session : SipDialogSession} :
    tryFrom json row = .ok session ↔
      routeSetFromJson json row.routeSet = .ok session.routeSet ∧
        row = session.toRow row.routeSet ∧ session.Valid := by
  simp only [tryFrom, check_bind_eq_ok, check_unit, check_pure_eq_ok, validate_eq_ok,
    DialogSessionType.fromStr_eq_ok, DialogTransport.fromStr_eq_ok, DialogState.fromStr_eq_ok]
  constructor
  · rintro ⟨sessionType, typed, routeSet, routed, transport, carried, state, stated, valid, rfl⟩
    refine ⟨routed, ?_, valid⟩
    simp [toRow, ← typed, ← carried, ← stated]
  · rintro ⟨routed, stored, valid⟩
    rw [stored]
    exact ⟨_, rfl, _, routed, _, rfl, _, rfl, valid, rfl⟩

end Gmv.Session
