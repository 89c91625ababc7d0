import Gmv.Library.Framing
import Gmv.Stream.Nal

/-!
# RTP over TCP

A TCP connection carries RTP packets behind two bytes of length each.  The reader
appends what it receives to a buffer and splits complete packets off the front.
-/

namespace Gmv.Stream.TcpFraming

open Gmv.Library.Framing

variable {σ : Type}

inductive BaseErrorCode where
  | invalidState
  deriving DecidableEq, Repr

/-- The error of the splitter itself, and one that the callback returns. -/
inductive GlobalError where
  | biz (code : BaseErrorCode) (msg : String)
  | callback (msg : String)
  deriving DecidableEq, Repr

def tcpRtpHeaderLen : Nat := 2

def minRtpHeaderLen : Nat := 12

def tcpDataBaseLen : Nat := tcpRtpHeaderLen + minRtpHeaderLen

def maxLimitRtpPacketSize : Nat := 1024 * 16

def sizeError : GlobalError := .biz .invalidState "rtp pkt size out of max limit"

/-- `u16::from_be_bytes([buffer[0], buffer[1]])`. -/
def lengthField (buffer : Bytes) : Nat := be16 (buffer.getD 0 0) (buffer.getD 1 0)

/-- The loop of `feed_tcp_packets`, with the state of the callback.  The result is
`none` where the fuel does not last. -/
def feedTcpPackets (f : σ → Bytes → Except GlobalError Unit × σ) :
    Nat → Bytes → σ → Option (Except GlobalError Unit × Bytes × σ)
  | 0, _, _ => none
  | fuel + 1, buffer, state =>
      if buffer.length < tcpDataBaseLen then some (.ok (), buffer, state)
      else
        let len := lengthField buffer
        if len > maxLimitRtpPacketSize then some (.error sizeError, [], state)
        else
          let splitLen := len + tcpRtpHeaderLen
          if buffer.length < splitLen then some (.ok (), buffer, state)
          else
            match f state ((buffer.take splitLen).drop tcpRtpHeaderLen) with
            | (.error error, state) => some (.error error, buffer.drop splitLen, state)
            | (.ok (), state) => feedTcpPackets f fuel (buffer.drop splitLen) state

/-- One call of `feed_owned`. -/
def feedOwned (f : σ → Bytes → Except GlobalError Unit × σ) (buffer : Bytes) (state : σ) :
    Option (Except GlobalError Unit × Bytes × σ) :=
  feedTcpPackets f (buffer.length + 1) buffer state

/-- A connection: every chunk is appended to the buffer before a call. -/
def feedChunks (f : σ → Bytes → Except GlobalError Unit × σ) :
    List Bytes → Bytes → σ → Option (Except GlobalError Unit × Bytes × σ)
  | [], buffer, state => some (.ok (), buffer, state)
  | chunk :: chunks, buffer, state =>
      match feedOwned f (buffer ++ chunk) state with
      | some (.ok (), left, state) => feedChunks f chunks left state
      | stopped => stopped

/-- A callback that succeeds and keeps what it is given. -/
def record (packets : List Bytes) (packet : Bytes) : Except GlobalError Unit × List Bytes :=
  (.ok (), packets ++ [packet])

/-- The length fields that the loop reads. -/
def lengthsRead : Nat → Bytes → List Nat
  | 0, _ => []
  | fuel + 1, buffer =>
      if buffer.length < tcpDataBaseLen then []
      else
        let len := lengthField buffer
        if len > maxLimitRtpPacketSize then [len]
        else if buffer.length < len + tcpRtpHeaderLen then [len]
        else len :: lengthsRead fuel (buffer.drop (len + tcpRtpHeaderLen))

/-- A payload on the wire: its length in two bytes, the higher one first. -/
def frame (payload : Bytes) : Bytes :=
  [UInt8.ofNat (payload.length / 256), UInt8.ofNat (payload.length % 256)] ++ payload

/-! ## The loop as a splitter -/

/-- What one turn of the loop does with the buffer. -/
def verdict (buffer : Bytes) : Verdict GlobalError :=
  if buffer.length < tcpDataBaseLen then .wait
  else if lengthField buffer > maxLimitRtpPacketSize then .reject sizeError
  else if buffer.length < lengthField buffer + tcpRtpHeaderLen then .wait
  else .cut (lengthField buffer + tcpRtpHeaderLen)

theorem feedTcpPackets_succ (f : σ → Bytes → Except GlobalError Unit × σ) (fuel : Nat)
    (buffer : Bytes) (state : σ) :
    feedTcpPackets f (fuel + 1) buffer state =
      match verdict buffer with
      | .wait => some (.ok (), buffer, state)
      | .reject error => some (.error error, [], state)
      | .cut size =>
          match f state ((buffer.take size).drop tcpRtpHeaderLen) with
          | (.error error, state) => some (.error error, buffer.drop size, state)
          | (.ok (), state) => feedTcpPackets f fuel (buffer.drop size) state := by
  simp only [feedTcpPackets, verdict]
  split_ifs <;> rfl

theorem lengthsRead_succ (fuel : Nat) (buffer : Bytes) :
    (∀ error, verdict buffer = .reject error →
      ∃ len ∈ lengthsRead (fuel + 1) buffer, len > maxLimitRtpPacketSize) ∧
    ∀ size, verdict buffer = .cut size →
      ∀ len ∈ lengthsRead fuel (buffer.drop size), len ∈ lengthsRead (fuel + 1) buffer := by
  simp only [lengthsRead, verdict]
  split_ifs with short large partly
  · simp
  · simpa using large
  · simp
  · constructor
    · simp
    · rintro size ⟨rfl⟩ len member
      exact List.mem_cons_of_mem _ member

/-- A cut is longer than the length field and no longer than the buffer. -/
theorem cut_bounds {buffer : Bytes} {size : Nat} (cut : verdict buffer = .cut size) :
    0 < size ∧ size ≤ buffer.length := by
  simp only [verdict] at cut
  split_ifs at cut with short large partly
  cases cut
  simp only [tcpRtpHeaderLen] at *
  omega

/-- The length field is in the first two bytes, and no verdict is given without it. -/
theorem lengthField_append {buffer : Bytes} (more : Bytes)
    (enough : ¬ buffer.length < tcpDataBaseLen) :
    lengthField (buffer ++ more) = lengthField buffer := by
  match buffer with
  | high :: low :: rest => rfl
  | [] | [_] => simp [tcpDataBaseLen, tcpRtpHeaderLen, minRtpHeaderLen] at enough

theorem verdict_append {buffer : Bytes} (more : Bytes)
    (decided : verdict buffer ≠ .wait) : verdict (buffer ++ more) = verdict buffer :=
  lengthPrefixed_append (· > maxLimitRtpPacketSize) sizeError (· + tcpRtpHeaderLen) more
    (lengthField_append more) decided

/-- The splitter of the reader. -/
def rtpSplitter : Splitter UInt8 GlobalError where
  verdict := verdict
  cut_fits := cut_bounds
  cut_append more cut := by rw [verdict_append more (by simp [cut]), cut]
  reject_append more reject := by rw [verdict_append more (by simp [reject]), reject]

/-! ## The loop ends -/

/-- Every packet takes its length field along, so the buffer gets shorter. -/
theorem feedTcpPackets_returns (f : σ → Bytes → Except GlobalError Unit × σ) (fuel : Nat)
    (buffer : Bytes) (state : σ) (enough : buffer.length < fuel) :
    ∃ result, ∀ more, feedTcpPackets f (fuel + more) buffer state = some result := by
  induction fuel generalizing buffer state with
  | zero => omega
  | succ fuel ih =>
      simp only [Nat.succ_add, feedTcpPackets_succ]
      cases turn : verdict buffer with
      | wait => exact ⟨_, fun _ => rfl⟩
      | reject error => exact ⟨_, fun _ => rfl⟩
      | cut size =>
          dsimp only
          rcases f state ((buffer.take size).drop tcpRtpHeaderLen) with ⟨error | _, state'⟩
          · exact ⟨_, fun _ => rfl⟩
          · apply ih
            have bounds := cut_bounds turn
            rw [List.length_drop]
            omega

/-! ## Packets of a stream -/

/-- What the callback gets of a frame. -/
def payload (frame : Bytes) : Bytes := frame.drop tcpRtpHeaderLen

theorem feedTcpPackets_of_splits {buffer left : Bytes} {frames : List Bytes}
    (splits : Splits rtpSplitter buffer frames left) (fuel : Nat) (packets : List Bytes)
    (enough : buffer.length < fuel) :
    feedTcpPackets record fuel buffer packets =
      some (.ok (), left, packets ++ frames.map payload) := by
  induction splits generalizing fuel packets with
  | @waits buffer asks =>
      obtain ⟨fuel, rfl⟩ := Nat.exists_eq_add_of_lt enough
      rw [feedTcpPackets_succ, show verdict buffer = .wait from asks]
      simp
  | @frame buffer size frames left cut rest ih =>
      obtain ⟨fuel, rfl⟩ := Nat.exists_eq_add_one_of_ne_zero (Nat.ne_zero_of_lt enough)
      have bounds := cut_bounds cut
      have rest := ih fuel (packets ++ [payload (buffer.take size)])
        (by rw [List.length_drop]; omega)
      rw [feedTcpPackets_succ, show verdict buffer = .cut size from cut]
      simpa [record, payload] using rest

theorem feedOwned_of_splits {buffer left : Bytes} {frames : List Bytes}
    (splits : Splits rtpSplitter buffer frames left) (packets : List Bytes) :
    feedOwned record buffer packets = some (.ok (), left, packets ++ frames.map payload) :=
  feedTcpPackets_of_splits splits _ packets (Nat.lt_succ_self _)

theorem feedChunks_of_feeds {buffer last : Bytes} {chunks frames : List Bytes}
    (feeds : Feeds rtpSplitter buffer chunks frames last) (packets : List Bytes) :
    feedChunks record chunks buffer packets =
      some (.ok (), last, packets ++ frames.map payload) := by
  induction feeds generalizing packets with
  | done => simp [feedChunks]
  | piece splits rest ih =>
      rw [feedChunks, feedOwned_of_splits splits]
      simp [ih]

/-- Without an excessive length field the loop splits the buffer to its end. -/
theorem splits_of_lengthsRead (fuel : Nat) (buffer : Bytes) (enough : buffer.length ≤ fuel)
    (moderate : ∀ len ∈ lengthsRead fuel buffer, len ≤ maxLimitRtpPacketSize) :
    ∃ frames left, Splits rtpSplitter buffer frames left := by
  induction fuel generalizing buffer with
  | zero =>
      obtain rfl := List.eq_nil_of_length_eq_zero (Nat.le_zero.mp enough)
      exact ⟨[], [], .waits rfl⟩
  | succ fuel ih =>
      obtain ⟨excessive, later⟩ := lengthsRead_succ fuel buffer
      cases turn : verdict buffer with
      | wait => exact ⟨[], buffer, .waits turn⟩
      | reject error =>
          obtain ⟨len, member, large⟩ := excessive error turn
          exact absurd (moderate len member) (Nat.not_le.mpr large)
      | cut size =>
          have bounds := cut_bounds turn
          obtain ⟨frames, left, rest⟩ := ih (buffer.drop size)
            (by rw [List.length_drop]; omega)
            fun len member => moderate len (later size turn len member)
          exact ⟨_, left, .frame turn rest⟩

/-- A frame is recognised whatever follows it. -/
theorem verdict_frame {packet : Bytes} (large : minRtpHeaderLen ≤ packet.length)
    (small : packet.length ≤ maxLimitRtpPacketSize) (more : Bytes) :
    verdict (frame packet ++ more) = .cut (frame packet).length := by
  have field : lengthField (frame packet ++ more) = packet.length := by
    simp only [maxLimitRtpPacketSize] at small
    simp only [lengthField, frame, be16, List.cons_append, List.getD_cons_zero,
      List.getD_cons_succ, UInt8.toNat_ofNat']
    omega
  simp only [verdict, field, frame, tcpDataBaseLen, tcpRtpHeaderLen, minRtpHeaderLen] at *
  rw [if_neg (by simp; omega), if_neg (by omega), if_neg (by simp)]
  rfl

theorem payload_frame (packet : Bytes) : payload (frame packet) = packet := rfl

/-- The packets and the rest do not depend on how a stream is cut into chunks, framed
payloads come out as they were sent, and every call returns. -/
theorem feedTcpPackets_segmentation :
    (∀ chunks : List Bytes,
      (∀ len ∈ lengthsRead chunks.flatten.length chunks.flatten,
        len ≤ maxLimitRtpPacketSize) →
      ∃ packets left,
        feedOwned record chunks.flatten [] = some (.ok (), left, packets) ∧
        feedChunks record chunks [] [] = some (.ok (), left, packets)) ∧
    (∀ payloads : List Bytes,
      (∀ packet ∈ payloads,
        minRtpHeaderLen ≤ packet.length ∧ packet.length ≤ maxLimitRtpPacketSize) →
      feedOwned record (payloads.flatMap frame) [] = some (.ok (), [], payloads)) ∧
    (∀ (σ : Type) (f : σ → Bytes → Except GlobalError Unit × σ) (buffer : Bytes) (state : σ),
      ∃ result, ∀ fuel, buffer.length < fuel →
        feedTcpPackets f fuel buffer state = some result) := by
  refine ⟨fun chunks moderate => ?_, fun payloads sizes => ?_, fun σ f buffer state => ?_⟩
  · obtain ⟨frames, left, splits⟩ := splits_of_lengthsRead _ _ le_rfl moderate
    have feeds : Feeds rtpSplitter [] chunks frames left := Splits.feeds rfl splits
    exact ⟨frames.map payload, left, feedOwned_of_splits splits [],
      feedChunks_of_feeds feeds []⟩
  · have known : ∀ bytes ∈ payloads.map frame, ∀ more,
        rtpSplitter.verdict (bytes ++ more) = .cut bytes.length := by
      intro bytes member more
      obtain ⟨packet, listed, rfl⟩ := List.mem_map.mp member
      exact verdict_frame (sizes packet listed).1 (sizes packet listed).2 more
    have splits := splits_flatten [] known rfl
    simpa [payload_frame, Function.comp_def, List.flatMap_def] using
      feedOwned_of_splits splits []
  · obtain ⟨result, returns⟩ := feedTcpPackets_returns f _ buffer state (Nat.lt_succ_self _)
    refine ⟨result, fun fuel enough => ?_⟩
    obtain ⟨more, rfl⟩ := Nat.exists_eq_add_of_le enough
    exact returns more

/-- A packet of twelve bytes that arrives in three chunks, one of which ends inside the
length field, and the first byte of another packet. -/
theorem feedTcpPackets_segmentation_cut :
    (∃ packets left,
      feedOwned record ([[0], 12 :: List.replicate 5 7, List.replicate 7 7 ++ [0]] :
        List Bytes).flatten [] = some (.ok (), left, packets) ∧
      feedChunks record [[0], 12 :: List.replicate 5 7, List.replicate 7 7 ++ [0]] [] [] =
        some (.ok (), left, packets)) ∧
    feedOwned record ([List.replicate 12 7, List.replicate 300 9].flatMap frame) [] =
      some (.ok (), [], [List.replicate 12 7, List.replicate 300 9]) :=
  ⟨feedTcpPackets_segmentation.1 _ (by decide +kernel),
    feedTcpPackets_segmentation.2.1 _ (by decide +kernel)⟩

end Gmv.Stream.TcpFraming
