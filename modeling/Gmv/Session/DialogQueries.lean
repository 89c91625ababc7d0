import Gmv.Session.DialogCas
import Mathlib.Data.List.Sort

/-!
# Reading the dialog table

A query checks its arguments, selects rows and converts each of them.  One row
that does not convert fails the whole query.  The ids of a query are compared, and
the rows of a page are ordered, by the collation of their columns.
-/

namespace Gmv.Session.SipDialogSessionRepository

open Gmv.Library

variable {db : DialogDb}

def maxPageSize : UInt32 := 1000

def findByStreamId (streamId : String) (table : DialogTable db) :
    Except DialogError (Option SipDialogSession) := do
  validateLen streamId 64 "stream_id"
  match table.find (db.weight streamId) with
  | none => return none
  | some row =>
      let session ← SipDialogSession.tryFrom db.json row
      return some session

/-- The rows of a page, in the order of their streams. -/
def selectOwned (signalNodeId : String) (states : List DialogState)
    (afterStreamId : Option String) (limit : UInt32) (table : DialogTable db) :
    List SipDialogSessionRow :=
  let owned := table.rows.filter fun row =>
    decide (db.weight row.signalNodeId = db.weight signalNodeId) &&
      (states.map DialogState.toText).contains row.state &&
      afterStreamId.all fun cursor => decide (db.weight cursor < db.key row)
  (owned.insertionSort fun first second => db.key first ≤ db.key second).take limit.toNat

def validatePage (signalNodeId : String) (states : List DialogState)
    (afterStreamId : Option String) (limit : UInt32) : Except DialogError Unit := do
  validateLen signalNodeId 64 "signal_node_id"
  validateOptionalLen afterStreamId 64 "after_stream_id"
  rejectIf (states.isEmpty || limit == 0 || decide (maxPageSize < limit))
    (.invalidData "invalid owner page states or limit")

def pageOwnedByStates (signalNodeId : String) (states : List DialogState)
    (afterStreamId : Option String) (limit : UInt32) (table : DialogTable db) :
    Except DialogError (List SipDialogSession) := do
  validatePage signalNodeId states afterStreamId limit
  (selectOwned signalNodeId states afterStreamId limit table).mapM
    (SipDialogSession.tryFrom db.json)

/-- The active rows of media with an SSRC that are older than a moment, the youngest
first. -/
def selectActiveByMediaSsrcBefore (signalNodeId mediaNodeId ssrc : String)
    (firstSeenAt now : NaiveDateTime) (table : DialogTable db) : List SipDialogSessionRow :=
  let active := table.rows.filter fun row =>
    decide (db.weight row.signalNodeId = db.weight signalNodeId) &&
      decide (db.weight row.mediaNodeId = db.weight mediaNodeId) &&
      decide (row.ssrc.map db.weight = some (db.weight ssrc)) &&
      ["LIVE", "PLAYBACK", "DOWNLOAD"].contains row.sessionType && isActive row &&
      decide (row.createdAt ≤ firstSeenAt) && decide (now < row.expireAt)
  (active.insertionSort fun first second => second.createdAt ≤ first.createdAt).take 2

def findActiveByMediaSsrcBefore (signalNodeId mediaNodeId ssrc : String)
    (firstSeenAt now : NaiveDateTime) (table : DialogTable db) :
    Except DialogError (List SipDialogSession) := do
  validateLen signalNodeId 64 "signal_node_id"
  validateLen mediaNodeId 64 "media_node_id"
  validateOptionalLen (some ssrc) 16 "ssrc"
  (selectActiveByMediaSsrcBefore signalNodeId mediaNodeId ssrc firstSeenAt now table).mapM
    (SipDialogSession.tryFrom db.json)

theorem mem_of_mem_selectOwned (signalNodeId : String) (states : List DialogState)
    (afterStreamId : Option String) (limit : UInt32) {table : DialogTable db}
    {row : SipDialogSessionRow}
    (selected : row ∈ selectOwned signalNodeId states afterStreamId limit table) :
    row ∈ table.rows := by
  have sorted := List.mem_of_mem_take selected
  rw [List.mem_insertionSort] at sorted
  exact (List.mem_filter.mp sorted).1

end Gmv.Session.SipDialogSessionRepository
