import Gmv.Session.BroadcastWait

/-!
# The lines of a session description

A session description as text: its lines, and the first of them that something is read from.
-/

namespace Gmv.Session.Sdp

/-- A line without the carriage return in front of its line feed. -/
def withoutReturn (line : List Char) : List Char :=
  if line.getLast? = some '\r' then line.dropLast else line

/-- `str::lines`: a last line without a line feed is one when there is something in it. -/
def lines (text : String) : List String :=
  let pieces := text.toList.splitOn '\n'
  (pieces.dropLast.map withoutReturn ++ (pieces.getLast?.toList.filter (· ≠ []))).map String.ofList

/-- `str::trim_start_matches` for some characters. -/
def trimStartMatches (chars : List Char) (text : String) : String :=
  String.ofList (text.toList.dropWhile (chars.contains ·))

/-- `str::split` at a character. -/
def split (separator : Char) (text : String) : List String :=
  (text.toList.splitOn separator).map String.ofList

theorem stripPrefix_eq_some {start text rest : String} :
    BroadcastWait.stripPrefix start text = some rest ↔ text.toList = start.toList ++ rest.toList := by
  rw [BroadcastWait.stripPrefix]
  split_ifs with begins
  · obtain ⟨more, shape⟩ := List.isPrefixOf_iff_prefix.mp begins
    rw [← shape, ← String.length_toList, List.drop_left, List.append_cancel_left_eq, Option.some_inj]
    exact ⟨fun same => by rw [← same, String.toList_ofList], fun same => by rw [same, String.ofList_toList]⟩
  · refine ⟨nofun, fun shape => absurd ?_ begins⟩
    exact List.isPrefixOf_iff_prefix.mpr ⟨rest.toList, shape.symm⟩

end Gmv.Session.Sdp
