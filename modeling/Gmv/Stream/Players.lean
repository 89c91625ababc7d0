import Gmv.Library.BroadcastLog
import Gmv.Library.Latch
import Gmv.Stream.FragmentMuxers

/-!
# Players of a stream

A player subscribes to what a muxer broadcasts, asks for the header, waits for a packet with a key frame and
then passes on every packet that it hears.  The FLV player sends the header ahead and gives up when no key
frame comes in time; the fMP4 player sends the header with the first key packet.
-/

namespace Gmv.Stream.Players

open Gmv.Library Gmv.Library.BroadcastLog
open FragmentMuxers (MuxPacket FragmentContext)

/-! ## The player -/

inductive PlayerState where
  | absent
  | header
  /-- Waiting for a key packet, with what goes out ahead of it. -/
  | firstKey (ahead : Bytes)
  | live
  | ended
  deriving DecidableEq, Repr

structure PlayerKind where
  /-- The header goes out with the first key packet. -/
  joins : Bool
  /-- The wait for a key packet has an end. -/
  expires : Bool
  deriving DecidableEq, Repr

/-- `fmp4_stream`. -/
def fmp4Stream : PlayerKind := ⟨true, false⟩

/-- `flv_stream`. -/
def flvStream : PlayerKind := ⟨false, true⟩

/-- A broadcast, and one player of it with what it has heard and sent. -/
structure Play where
  channel : Channel MuxPacket
  state : PlayerState
  /-- The first packet behind the subscription, and the next one. -/
  start : Nat
  next : Nat
  heard : List MuxPacket
  lags : Bool
  chunks : List Bytes

inductive PlayerAction where
  | subscribe
  /-- The muxer answers with its header, or there is none. -/
  | answerHeader (answered : Bool)
  | recv
  | timeOut
  deriving DecidableEq, Repr

def init (capacity : Nat) : Play := ⟨⟨capacity, [], false⟩, .absent, 0, 0, [], false, []⟩

section

variable (kind : PlayerKind) (header : Bytes) (play : Play)

/-- A packet that the player hears. -/
def hear (packet : MuxPacket) : Play :=
  let play := { play with heard := play.heard ++ [packet] }
  match play.state with
  | .firstKey ahead =>
      if packet.isKey then { play with state := .live, chunks := play.chunks ++ [ahead ++ packet.data] }
      else play
  | .live => { play with chunks := play.chunks ++ [packet.data] }
  | _ => play

def PlayerState.listens : PlayerState → Bool
  | .firstKey _ | .live => true
  | _ => false

def step : PlayerAction → Play
  | .subscribe =>
      if play.state = .absent then
        { play with
          state := .header
          start := play.channel.sent.length
          next := play.channel.sent.length
          lags := false }
      else play
  | .answerHeader answered =>
      if play.state = .header then
        if answered then
          if kind.joins then { play with state := .firstKey header }
          else { play with state := .firstKey [], chunks := play.chunks ++ [header] }
        else { play with state := .ended }
      else play
  | .recv =>
      if play.state.listens then
        match play.channel.recv play.next with
        | (.value packet, next) => { hear play packet with next := next }
        | (.lagged, next) => { play with next := next, lags := true }
        | (.closed, _) => { play with state := .ended }
        | (.pending, _) => play
      else play
  | .timeOut =>
      match play.state, kind.expires with
      | .firstKey _, true => { play with state := .ended }
      | _, _ => play

end

/-! ## What a player sends -/

/-- The packets from the first key packet on. -/
def shown (heard : List MuxPacket) : List MuxPacket := Latch.kept MuxPacket.isKey heard

def dataOf (packets : List MuxPacket) : Bytes := (packets.map MuxPacket.data).flatten

theorem shown_append_of_nil {heard : List MuxPacket} (empty : shown heard = []) (packet : MuxPacket) :
    shown (heard ++ [packet]) = if packet.isKey then [packet] else [] := by
  rw [shown, Latch.kept_concat, Latch.kept_eq_nil_iff.mp empty, Bool.false_or]
  exact congrArg (fun ahead => if packet.isKey then ahead ++ [packet] else []) empty

theorem shown_append_of_ne {heard : List MuxPacket} (some' : shown heard ≠ []) (packet : MuxPacket) :
    shown (heard ++ [packet]) = shown heard ++ [packet] := by
  have opened : heard.any MuxPacket.isKey = true := by
    cases any : heard.any MuxPacket.isKey with
    | true => rfl
    | false => exact absurd (Latch.kept_eq_nil_iff.mpr any) some'
  rw [shown, Latch.kept_concat, opened, Bool.true_or, if_pos rfl]
  rfl

theorem dataOf_append (first second : List MuxPacket) :
    dataOf (first ++ second) = dataOf first ++ dataOf second := by
  rw [dataOf, List.map_append, List.flatten_append, dataOf, dataOf]

theorem flatten_concat (chunks : List Bytes) (chunk : Bytes) :
    (chunks ++ [chunk]).flatten = chunks.flatten ++ chunk := by
  rw [List.flatten_append, List.flatten_singleton]

/-- A body is empty, or it is the header and the packets from the first key packet on. -/
def Body (header : Bytes) (play : Play) : Prop :=
  (shown play.heard = [] ∧ play.chunks.flatten = []) ∨
    play.chunks.flatten = header ++ dataOf (shown play.heard)

/-- What a player has sent, by its state. -/
def Sent (header : Bytes) (play : Play) : Prop :=
  match play.state with
  | .absent | .header => play.heard = [] ∧ play.chunks = []
  | .firstKey ahead => shown play.heard = [] ∧ play.chunks.flatten ++ ahead = header ∧
      (ahead = [] ∨ play.chunks = [])
  | .live => shown play.heard ≠ [] ∧ play.chunks.flatten = header ++ dataOf (shown play.heard)
  | .ended => Body header play

theorem Sent.body {header : Bytes} {play : Play} (sent : Sent header play) : Body header play := by
  rw [Sent] at sent
  split at sent
  · obtain ⟨heard, chunks⟩ := sent
    exact Or.inl ⟨by rw [heard]; rfl, by rw [chunks]; rfl⟩
  · obtain ⟨heard, chunks⟩ := sent
    exact Or.inl ⟨by rw [heard]; rfl, by rw [chunks]; rfl⟩
  · obtain ⟨empty, whole, rfl | chunks⟩ := sent
    · rw [List.append_nil] at whole
      exact Or.inr (by rw [empty, whole, dataOf]; exact (List.append_nil _).symm)
    · exact Or.inl ⟨empty, by rw [chunks]; rfl⟩
  · exact Or.inr sent.2
  · exact sent

/-- A player is sound when it has heard what lies between its places, and has sent accordingly. -/
structure Sound (header : Bytes) (play : Play) : Prop where
  heard : play.state ≠ .absent → Heard play.channel play.start play.next play.heard play.lags
  sent : Sent header play

section

variable {kind : PlayerKind} {header : Bytes} {play : Play}

theorem sound_init (capacity : Nat) : Sound header (init capacity) :=
  ⟨fun present => absurd rfl present, rfl, rfl⟩

theorem sent_hear (sent : Sent header play) (listens : play.state.listens = true) (packet : MuxPacket) :
    Sent header (hear play packet) := by
  rw [Sent] at sent
  cases state : play.state with
  | absent => rw [state] at listens; cases listens
  | header => rw [state] at listens; cases listens
  | ended => rw [state] at listens; cases listens
  | firstKey ahead =>
      rw [state] at sent
      obtain ⟨empty, whole, either⟩ := sent
      have next := shown_append_of_nil empty packet
      simp only [hear, state]
      cases isKey : packet.isKey with
      | true =>
          rw [isKey, if_pos rfl] at next
          rw [if_pos rfl, Sent]
          dsimp only
          rw [next, flatten_concat, ← List.append_assoc, whole]
          exact ⟨List.cons_ne_nil _ _, by rw [dataOf, List.map_singleton, List.flatten_singleton]⟩
      | false =>
          rw [isKey, if_neg Bool.false_ne_true] at next
          rw [if_neg Bool.false_ne_true, Sent]
          dsimp only
          exact ⟨next, whole, either⟩
  | live =>
      rw [state] at sent
      obtain ⟨filled, whole⟩ := sent
      simp only [hear, state]
      rw [Sent]
      dsimp only
      rw [shown_append_of_ne filled, dataOf_append, flatten_concat, whole, List.append_assoc]
      exact ⟨fun empty => filled (List.append_eq_nil_iff.mp empty).1,
        by rw [dataOf, dataOf, List.map_singleton, List.flatten_singleton]⟩

/-- What a player hears changes what it has heard and sent, and its state. -/
theorem hear_same (packet : MuxPacket) :
    (hear play packet).heard = play.heard ++ [packet] ∧ (hear play packet).channel = play.channel ∧
      (hear play packet).start = play.start ∧ (hear play packet).lags = play.lags := by
  rw [hear]
  cases play.state with
  | firstKey ahead => dsimp only; split <;> exact ⟨rfl, rfl, rfl, rfl⟩
  | _ => exact ⟨rfl, rfl, rfl, rfl⟩

theorem present_of_listens (listens : play.state.listens = true) : play.state ≠ .absent := by
  intro absent
  rw [absent] at listens
  cases listens

theorem sound_recv (sound : Sound header play) (listens : play.state.listens = true) :
    Sound header (step kind header play .recv) := by
  have known := sound.heard (present_of_listens listens)
  simp only [step, if_pos listens]
  split
  · rename_i packet next found
    obtain ⟨heard, channel, start, lags⟩ := @hear_same play packet
    exact ⟨fun _ => by rw [heard, channel, start, lags]; exact known.value found, sent_hear sound.sent listens packet⟩
  · rename_i next found
    exact ⟨fun _ => known.lagged found, sound.sent⟩
  · exact ⟨fun _ => known, sound.sent.body⟩
  · exact sound

theorem sound_step (sound : Sound header play) (action : PlayerAction) :
    Sound header (step kind header play action) := by
  cases action with
  | subscribe =>
      simp only [step]
      split
      · rename_i absent
        have sent := sound.sent
        rw [Sent, absent] at sent
        obtain ⟨heard, chunks⟩ := sent
        refine ⟨fun _ => ?_, heard, chunks⟩
        dsimp only
        rw [heard]
        exact .fresh play.channel
      · exact sound
  | answerHeader answered =>
      simp only [step]
      split
      · rename_i waits
        have known := sound.heard (by rw [waits]; exact PlayerState.noConfusion)
        have sent := sound.sent
        rw [Sent, waits] at sent
        obtain ⟨heard, chunks⟩ := sent
        split
        · split
          · exact ⟨fun _ => known, by rw [heard]; rfl, by rw [chunks]; rfl, Or.inr chunks⟩
          · exact ⟨fun _ => known, by rw [heard]; rfl,
              by rw [chunks, List.append_nil]; exact List.flatten_singleton, Or.inl rfl⟩
        · exact ⟨fun _ => known, Or.inl ⟨by rw [heard]; rfl, by rw [chunks]; rfl⟩⟩
      · exact sound
  | recv =>
      by_cases listens : play.state.listens = true
      · exact sound_recv sound listens
      · simp only [step, if_neg listens]
        exact sound
  | timeOut =>
      simp only [step]
      split
      · rename_i state _
        exact ⟨fun _ => sound.heard (by rw [state]; exact PlayerState.noConfusion), sound.sent.body⟩
      · exact sound

end

/-! ## A muxer and a player -/

section Stages

variable {μ ι : Type}

/-- A muxer, what it broadcasts, and one player. -/
structure Stage (μ : Type) where
  muxer : μ
  play : Play

inductive Action (ι : Type) where
  | mux (input : ι)
  /-- The muxer goes, and the broadcast ends. -/
  | drop
  | player (action : PlayerAction)
  deriving DecidableEq, Repr

variable (muxStep : μ → ι → Option MuxPacket × μ) (kind : PlayerKind) (header : Bytes)

/-- A step of either; the result is the packet that is broadcast. -/
def stageStep (stage : Stage μ) : Action ι → Option MuxPacket × Stage μ
  | .mux input =>
      let (packet, muxer) := muxStep stage.muxer input
      (packet, ⟨muxer, { stage.play with channel := stage.play.channel.send packet.toList }⟩)
  | .drop => (none, { stage with play := { stage.play with channel := { stage.play.channel with closed := true } } })
  | .player action => (none, { stage with play := step kind header stage.play action })

abbrev Entry (μ ι : Type) := Runs.Transition (Stage μ) (Action ι) (Option MuxPacket)

/-- The packets that are broadcast in a run. -/
def broadcast (entries : List (Entry μ ι)) : List MuxPacket := entries.filterMap Runs.Transition.result

variable {muxStep kind header}

theorem step_channel (play : Play) (action : PlayerAction) :
    (step kind header play action).channel = play.channel := by
  cases action with
  | subscribe => simp only [step]; split <;> rfl
  | answerHeader answered =>
      simp only [step]
      split
      · split
        · split <;> rfl
        · rfl
      · rfl
  | recv =>
      simp only [step]
      split
      · split
        · exact hear_same _ |>.2.1
        · rfl
        · rfl
        · rfl
      · rfl
  | timeOut => simp only [step]; split <;> rfl

/-- Behind any past the player is sound, and the channel holds what was broadcast. -/
structure Broadcasts (header : Bytes) (past : List (Entry μ ι)) (stage : Stage μ) : Prop where
  sent : stage.play.channel.sent = broadcast past
  sound : Sound header stage.play

theorem broadcast_concat (past : List (Entry μ ι)) (entry : Entry μ ι) :
    broadcast (past ++ [entry]) = broadcast past ++ entry.result.toList := by
  rw [broadcast, List.filterMap_append, broadcast]
  cases found : entry.result with
  | none => rw [List.filterMap_cons_none found]; rfl
  | some packet => rw [List.filterMap_cons_some found]; rfl

theorem broadcasts_step (past : List (Entry μ ι)) (stage : Stage μ) (action : Action ι)
    (known : Broadcasts header past stage) :
    Broadcasts header (past ++ [Runs.transition (stageStep muxStep kind header) stage action])
      (stageStep muxStep kind header stage action).2 := by
  refine ⟨?_, ?_⟩
  · rw [broadcast_concat, ← known.sent]
    cases action with
    | mux input => rfl
    | drop => exact (List.append_nil _).symm
    | player action =>
        simp only [stageStep, Runs.transition, step_channel]
        exact (List.append_nil _).symm
  · cases action with
    | mux input => exact ⟨fun present => (known.sound.heard present).send _, known.sound.sent⟩
    | drop => exact ⟨fun present => (known.sound.heard present).close, known.sound.sent⟩
    | player action => exact sound_step known.sound action

theorem broadcasts_run (muxer : μ) (capacity : Nat) (actions : List (Action ι)) :
    Broadcasts header (Runs.run (stageStep muxStep kind header) ⟨muxer, init capacity⟩ actions)
      (Runs.final (stageStep muxStep kind header) ⟨muxer, init capacity⟩ actions) := by
  have atFirst : Broadcasts header ([] : List (Entry μ ι)) ⟨muxer, init capacity⟩ := ⟨rfl, sound_init capacity⟩
  have kept : ∀ past stage action, Broadcasts header past stage → True →
      Broadcasts header (past ++ [Runs.transition (stageStep muxStep kind header) stage action])
        (stageStep muxStep kind header stage action).2 :=
    fun past stage action known _ => broadcasts_step past stage action known
  have behind := Runs.history_final (Broadcasts header) (fun _ _ => True) kept atFirst
    (fun entry (_ : entry ∈ Runs.run (stageStep muxStep kind header) _ actions) => True.intro)
  rwa [List.nil_append] at behind

/-- What a player has shown of a broadcast. -/
structure Shows (header : Bytes) (sent : List MuxPacket) (play : Play) : Prop where
  /-- Its body is empty, or the header and the packets from the first key packet that it heard. -/
  body : Body header play
  key : ∀ packet ∈ (shown play.heard).head?, packet.isKey = true
  /-- It hears the packets behind its subscription in their order, none twice. -/
  order : play.heard.Sublist (sent.drop play.start)
  /-- A player that keeps up misses none: behind packets without key frames it shows all. -/
  all : play.lags = false → ∃ passed rest, sent.drop play.start = passed ++ shown play.heard ++ rest ∧
    ∀ packet ∈ passed, packet.isKey = false

theorem Sound.shows {play : Play} (sound : Sound header play) : Shows header play.channel.sent play where
  body := sound.sent.body
  key := Latch.head_kept
  order := by
    by_cases absent : play.state = .absent
    · have sent := sound.sent
      rw [Sent, absent] at sent
      rw [sent.1]
      exact List.nil_sublist _
    · exact (sound.heard absent).sublist.trans (window_initial ..).sublist
  all never := by
    obtain ⟨passed, split, keyless⟩ := Latch.split_kept MuxPacket.isKey play.heard
    by_cases absent : play.state = .absent
    · have sent := sound.sent
      rw [Sent, absent] at sent
      rw [sent.1]
      exact ⟨[], play.channel.sent.drop play.start, rfl, fun _ member => (nomatch member)⟩
    · obtain ⟨rest, whole⟩ := window_initial play.channel.sent play.start play.next
      rw [← (sound.heard absent).all never] at whole
      exact ⟨passed, rest, by rw [shown, ← split, whole], keyless⟩

/-- A player of any broadcast, in any order of its steps and the muxer's: it sends nothing, or the header
and then every packet that it hears from the first key packet on. -/
theorem player_shows_from_key (muxStep : μ → ι → Option MuxPacket × μ) (kind : PlayerKind) (header : Bytes)
    (muxer : μ) (capacity : Nat) (actions : List (Action ι)) :
    Shows header (broadcast (Runs.run (stageStep muxStep kind header) ⟨muxer, init capacity⟩ actions))
      (Runs.final (stageStep muxStep kind header) ⟨muxer, init capacity⟩ actions).play := by
  have known := @broadcasts_run μ ι muxStep kind header muxer capacity actions
  rw [← known.sent]
  exact known.sound.shows

end Stages

/-! ## From FFmpeg to a viewer -/

section Viewer

variable {header : Bytes} {kind : PlayerKind}

abbrev FragmentEntry := Entry FragmentContext FragmentMuxers.Action

abbrev fragmentStep (kind : PlayerKind) (header : Bytes) :=
  stageStep FragmentContext.step kind header

/-- What FFmpeg writes in a step of a stage. -/
def writtenAt (entry : FragmentEntry) : Bytes :=
  match entry.action with
  | .mux action => FragmentMuxers.Entry.written (Runs.transition FragmentContext.step entry.before.muxer action)
  | _ => []

def broadcastAt (entry : FragmentEntry) : Bytes := (entry.result.map MuxPacket.data).getD []

theorem stage_bytes_step (stage : Stage FragmentContext) (action : Action FragmentMuxers.Action) :
    stage.muxer.outBuf ++ writtenAt (Runs.transition (fragmentStep kind header) stage action) =
      broadcastAt (Runs.transition (fragmentStep kind header) stage action) ++
        (fragmentStep kind header stage action).2.muxer.outBuf := by
  cases action with
  | mux action => exact FragmentMuxers.bytes_step stage.muxer action
  | drop => exact List.append_nil _
  | player action => exact List.append_nil _

theorem dataOf_broadcast (entries : List FragmentEntry) :
    dataOf (broadcast entries) = entries.flatMap broadcastAt := by
  induction entries with
  | nil => rfl
  | cons entry rest ih =>
      rw [List.flatMap_cons, ← ih, broadcast]
      cases found : entry.result with
      | none => rw [List.filterMap_cons_none found, broadcastAt, found]; rfl
      | some packet => rw [List.filterMap_cons_some found, broadcastAt, found]; rfl

/-- What a viewer has of all that FFmpeg wrote, with what is still in the muxer. -/
structure Piece (header written held : Bytes) (missed : List MuxPacket) (play : Play) : Prop where
  piece : play.chunks.flatten = [] ∨ ∃ passed seen behind, play.chunks.flatten = header ++ dataOf seen ∧
    written = dataOf missed ++ dataOf passed ++ dataOf seen ++ dataOf behind ++ held ∧
    (∀ packet ∈ passed, packet.isKey = false) ∧ ∀ packet ∈ seen.head?, packet.isKey = true

/-- The fMP4 muxer behind its header, and no player. -/
def viewerStart (initSegment : Bytes) (streams : List Nat) (videoIndex : Option Nat) (now capacity : Nat) :
    Stage FragmentContext :=
  ⟨FragmentMuxers.cmafFmp4Context initSegment streams videoIndex now, init capacity⟩

def viewerRun (initSegment : Bytes) (streams : List Nat) (videoIndex : Option Nat) (now capacity : Nat)
    (actions : List (Action FragmentMuxers.Action)) : List FragmentEntry :=
  Runs.run (fragmentStep fmp4Stream initSegment) (viewerStart initSegment streams videoIndex now capacity) actions

def viewerStage (initSegment : Bytes) (streams : List Nat) (videoIndex : Option Nat) (now capacity : Nat)
    (actions : List (Action FragmentMuxers.Action)) : Stage FragmentContext :=
  Runs.final (fragmentStep fmp4Stream initSegment) (viewerStart initSegment streams videoIndex now capacity) actions

/-- A viewer of fragments that keeps up gets nothing, or the init segment and then one piece of what FFmpeg
wrote: from the first key fragment behind its subscription, with nothing left out and nothing twice. -/
theorem viewer_gets_piece (initSegment : Bytes) (streams : List Nat) (videoIndex : Option Nat)
    (now capacity : Nat) (actions : List (Action FragmentMuxers.Action))
    (keepsUp : (viewerStage initSegment streams videoIndex now capacity actions).play.lags = false) :
    Piece initSegment ((viewerRun initSegment streams videoIndex now capacity actions).flatMap writtenAt)
      (viewerStage initSegment streams videoIndex now capacity actions).muxer.outBuf
      ((broadcast (viewerRun initSegment streams videoIndex now capacity actions)).take
        (viewerStage initSegment streams videoIndex now capacity actions).play.start)
      (viewerStage initSegment streams videoIndex now capacity actions).play := by
  have known : Broadcasts initSegment (viewerRun initSegment streams videoIndex now capacity actions)
      (viewerStage initSegment streams videoIndex now capacity actions) := broadcasts_run ..
  have through := Runs.through_run (fun stage : Stage FragmentContext => stage.muxer.outBuf) writtenAt broadcastAt
    (@stage_bytes_step initSegment fmp4Stream) (viewerStart initSegment streams videoIndex now capacity) actions
  have shows := known.sound.shows
  rw [known.sent] at shows
  refine ⟨shows.body.imp And.right fun body => ?_⟩
  obtain ⟨passed, behind, heard, keyless⟩ := shows.all keepsUp
  refine ⟨passed, _, behind, body, ?_, keyless, shows.key⟩
  have whole := List.take_append_drop (viewerStage initSegment streams videoIndex now capacity actions).play.start
    (broadcast (viewerRun initSegment streams videoIndex now capacity actions))
  rw [heard] at whole
  refine through.trans (congrArg (· ++ _) ?_)
  rw [← dataOf_broadcast, ← dataOf_append, ← dataOf_append, ← dataOf_append]
  exact congrArg dataOf (whole.symm.trans (by simp only [List.append_assoc]))

/-- A viewer that comes before the second of three fragments and waits for the key frame of the third. -/
theorem viewer_gets_piece_third :
    let actions : List (Action FragmentMuxers.Action) :=
      [.mux (.writePacket ⟨1, 0, false, 40, [1, 2], true⟩), .player .subscribe, .player (.answerHeader true),
        .mux (.writePacket ⟨1, 0, true, 80, [3], true⟩), .player .recv,
        .mux (.writePacket ⟨1, 0, false, 120, [4, 5], true⟩), .player .recv]
    (viewerStage [9] [0] (some 0) 0 8 actions).play.chunks = [[9, 4, 5]] ∧
      Piece [9] ((viewerRun [9] [0] (some 0) 0 8 actions).flatMap writtenAt)
        (viewerStage [9] [0] (some 0) 0 8 actions).muxer.outBuf
        ((broadcast (viewerRun [9] [0] (some 0) 0 8 actions)).take
          (viewerStage [9] [0] (some 0) 0 8 actions).play.start)
        (viewerStage [9] [0] (some 0) 0 8 actions).play :=
  ⟨by decide +kernel, viewer_gets_piece [9] [0] (some 0) 0 8 _ (by decide +kernel)⟩

end Viewer

end Gmv.Stream.Players
