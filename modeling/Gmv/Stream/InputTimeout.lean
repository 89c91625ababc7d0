import Gmv.Library.CyclicCounter
import Gmv.Library.Runs
import Gmv.Stream.MediaRegister

/-!
# The checks of one input

A stream that is registered, whose input is checked again and again: each check counts one
more on an eight-bit counter, each packet sets the counter to zero, and a check that finds
enough counted tells the signalling side, whose `KeepAlive` arms the next check without
touching the counter.  The counter goes round after 256 checks, so that an input kept alive
without packets is then taken for a fresh one.
-/

namespace Gmv.Stream.InputTimeout

open Gmv.Library Gmv.Library.Runs Media

/-- The timer of an input goes off, if it is armed. -/
def goOff (inner : Inner) (ssrc : UInt32) (accepts : Bool) : Option OutEvent × Inner :=
  if inner.timeSchedule ssrc then (inner.disarm ssrc).handleRtpInTimeout ssrc accepts
  else (none, inner)

/-- What happens to one stream: a packet is accepted, the timer goes off, or the answer to a
`StreamInTimeout` keeps it alive.  The scheduler takes the timer that is asked for, or not. -/
inductive Action where
  | packet
  | check (accepts : Bool)
  | keepAlive (accepts : Bool)
  deriving DecidableEq, Repr

def step (info : BaseStreamInfo) (inner : Inner) : Action → Option OutEvent × Inner
  | .packet => (none, inner.refresh info.ssrc)
  | .check accepts => goOff inner info.ssrc accepts
  | .keepAlive accepts => (none, inner.closeStreamByInput info .keepAlive accepts)

/-- The checks that a history has since its last packet. -/
def count (ssrc : UInt32) (made : Nat) (entry : Transition Inner Action (Option OutEvent)) : Nat :=
  match entry.action with
  | .packet => 0
  | .check _ => if entry.before.timeSchedule ssrc then made + 1 else made
  | .keepAlive _ => made

def checksSince (ssrc : UInt32) (past : List (Transition Inner Action (Option OutEvent))) : Nat :=
  past.foldl (count ssrc) 0

/-- The stream that a configuration registers. -/
def infoOf (config : MediaConfig) : BaseStreamInfo := ⟨config.ssrc, config.streamId⟩

/-! ## What a run keeps of its stream -/

/-- The stream is in both maps, and its counter is what the checks since the last packet make
of it. -/
def Counts (info : BaseStreamInfo) (wait : UInt8) (made : Nat) (inner : Inner) : Prop :=
  ∃ channel metadata, inner.rtpGatewayMap info.ssrc = some channel ∧
    channel.streamId = info.streamId ∧ inner.streamMetadataMap info.streamId = some metadata ∧
    metadata.ssrc = info.ssrc ∧ metadata.inWaitTimeout = wait ∧
    channel.inHasTimeout.toNat + 1 = CyclicCounter.after 256 1 made

section

variable {info : BaseStreamInfo} {wait : UInt8} {made : Nat} {inner : Inner}

theorem Counts.congr {other : Inner} (counts : Counts info wait made inner)
    (channels : other.rtpGatewayMap = inner.rtpGatewayMap)
    (metadata : other.streamMetadataMap = inner.streamMetadataMap) : Counts info wait made other := by
  rw [Counts, channels, metadata]
  exact counts

theorem arm_rtpGatewayMap (ssrc : UInt32) (accepts : Bool) :
    (inner.arm ssrc accepts).rtpGatewayMap = inner.rtpGatewayMap := by
  rw [Inner.arm]
  split <;> rfl

theorem arm_streamMetadataMap (ssrc : UInt32) (accepts : Bool) :
    (inner.arm ssrc accepts).streamMetadataMap = inner.streamMetadataMap := by
  rw [Inner.arm]
  split <;> rfl

/-- A stream begins with no check made. -/
theorem Counts.init (config : MediaConfig) (accepts : Bool) (implemented : config.isImplemented) :
    Counts (infoOf config) (config.inWaitTimeout.getD inner.inWaitTimeout) 0
      (inner.initMedia config accepts) := by
  rw [Inner.initMedia, if_pos implemented]
  refine ⟨.new config.streamId, inner.metadataOf config, ?_, rfl, ?_, rfl, rfl, rfl⟩
  · exact Function.update_self ..
  · have same : (inner.arm config.ssrc accepts).inWaitTimeout = inner.inWaitTimeout := by
      rw [Inner.arm]
      split <;> rfl
    have entry : Function.update ((inner.arm config.ssrc accepts).insertChannel config).streamMetadataMap
        config.streamId (some (((inner.arm config.ssrc accepts).insertChannel config).metadataOf config))
        config.streamId = _ := Function.update_self ..
    refine entry.trans (congrArg some ?_)
    simp only [Inner.metadataOf, Inner.insertChannel, Inner.setChannel, same]

/-- A packet takes the counter back. -/
theorem Counts.refresh (counts : Counts info wait made inner) :
    Counts info wait 0 (inner.refresh info.ssrc) := by
  obtain ⟨channel, metadata, atSsrc, sameId, atId, sameSsrc, waits, -⟩ := counts
  rw [Inner.refresh, atSsrc]
  exact ⟨{ channel with inHasTimeout := 0 }, metadata, Function.update_self .., sameId, atId,
    sameSsrc, waits, rfl⟩

theorem Counts.keepAlive (counts : Counts info wait made inner) (accepts : Bool) :
    Counts info wait made (inner.closeStreamByInput info .keepAlive accepts) :=
  counts.congr (arm_rtpGatewayMap ..) (arm_streamMetadataMap ..)

/-- One more check is one more on the counter, or the next round of it. -/
theorem succ_count {counter : UInt8} (counts : counter.toNat + 1 = CyclicCounter.after 256 1 made) :
    (counter + 1).toNat + 1 = CyclicCounter.after 256 1 (made + 1) := by
  have small : counter.toNat < 256 := counter.toNat_lt
  rw [CyclicCounter.after_succ (by decide), ← counts, CyclicCounter.next, UInt8.toNat_add]
  split <;> simp <;> omega

/-- What is read of the counter reaches a limit of eight bits when the counter does. -/
theorem le_timeoutCount_iff {channel : RtpChannel} :
    wait ≤ channel.timeoutCount ↔ wait.toNat ≤ channel.inHasTimeout.toNat + 1 := by
  have small : wait.toNat < 256 := wait.toNat_lt
  have counted : channel.inHasTimeout.toNat < 256 := channel.inHasTimeout.toNat_lt
  rw [RtpChannel.timeoutCount, UInt8.le_iff_toNat_le]
  split
  · next full =>
      rw [full]
      have : (255 : UInt8).toNat = 255 := rfl
      omega
  · next room =>
      have notFull : channel.inHasTimeout.toNat ≠ 255 := fun same => room (UInt8.toNat_inj.mp same)
      rw [UInt8.toNat_add]
      simp
      omega

/-- A check that goes off raises its event, or arms the next timer. -/
theorem goOff_eq (counts : Counts info wait made inner) (armed : inner.timeSchedule info.ssrc = true)
    (accepts : Bool) : ∃ counted, Counts info wait (made + 1) counted ∧
      counted.timeSchedule info.ssrc = false ∧
      goOff inner info.ssrc accepts =
        if wait.toNat ≤ CyclicCounter.after 256 1 made then (some (.streamInTimeout info), counted)
        else (none, counted.arm info.ssrc accepts) := by
  obtain ⟨channel, metadata, atSsrc, sameId, atId, sameSsrc, waits, counter⟩ := counts
  refine ⟨(inner.disarm info.ssrc).setChannel info.ssrc (some channel.countTimeout),
    ⟨channel.countTimeout, metadata, Function.update_self .., sameId, atId, sameSsrc, waits,
      succ_count counter⟩, Function.update_self .., ?_⟩
  rw [goOff, if_pos armed, Inner.handleRtpInTimeout]
  have found : (inner.disarm info.ssrc).rtpGatewayMap info.ssrc = some channel := atSsrc
  have described : (inner.disarm info.ssrc).streamMetadataMap info.streamId = some metadata := atId
  simp only [found, sameId, described, waits, sameSsrc, ← counter, ← le_timeoutCount_iff,
    ← UInt8.not_lt, ite_not]

/-- An unarmed timer is armed when the scheduler takes it. -/
theorem arm_timeSchedule {ssrc : UInt32} (unarmed : inner.timeSchedule ssrc = false) (accepts : Bool) :
    (inner.arm ssrc accepts).timeSchedule ssrc = accepts := by
  cases accepts with
  | true => exact Function.update_self ..
  | false => exact unarmed

theorem Counts.goOff (counts : Counts info wait made inner)
    (armed : inner.timeSchedule info.ssrc = true) (accepts : Bool) :
    Counts info wait (made + 1) (goOff inner info.ssrc accepts).2 := by
  obtain ⟨counted, next, -, same⟩ := goOff_eq counts armed accepts
  rw [same]
  split
  · exact next
  · exact next.congr (arm_rtpGatewayMap ..) (arm_streamMetadataMap ..)

/-- Every step keeps the count of the checks since the last packet. -/
theorem Counts.step (counts : Counts info wait made inner) (action : Action) :
    Counts info wait (count info.ssrc made (transition (step info) inner action))
      (InputTimeout.step info inner action).2 := by
  cases action with
  | packet => exact counts.refresh
  | check accepts =>
      show Counts info wait (if inner.timeSchedule info.ssrc then made + 1 else made)
        (InputTimeout.goOff inner info.ssrc accepts).2
      by_cases armed : inner.timeSchedule info.ssrc = true
      · rw [if_pos armed]
        exact counts.goOff armed accepts
      · rw [if_neg armed, InputTimeout.goOff, if_neg armed]
        exact counts
  | keepAlive accepts => exact counts.keepAlive accepts

end

/-- Along a run the counter is told by the checks since the last packet. -/
theorem counts_run {inner : Inner} {config : MediaConfig} {accepts : Bool} {actions : List Action}
    (implemented : config.isImplemented) {past later : List (Transition Inner Action (Option OutEvent))}
    {entry : Transition Inner Action (Option OutEvent)}
    (split : run (step (infoOf config)) (inner.initMedia config accepts) actions =
      past ++ entry :: later) :
    Counts (infoOf config) (config.inWaitTimeout.getD inner.inWaitTimeout)
      (checksSince config.ssrc past) entry.before := by
  let holds := fun past inner' => Counts (infoOf config)
    (config.inWaitTimeout.getD inner.inWaitTimeout) (checksSince config.ssrc past) inner'
  have kept : ∀ past inner' action, holds past inner' → True →
      holds (past ++ [transition (step (infoOf config)) inner' action])
        (step (infoOf config) inner' action).2 := by
    intro past inner' action counts _
    show Counts _ _ (checksSince config.ssrc (past ++ [_])) _
    rw [checksSince, List.foldl_append]
    exact counts.step action
  have start : holds [] (inner.initMedia config accepts) := Counts.init config accepts implemented
  exact history_run holds (fun _ _ => True) kept start (fun _ _ => trivial) split

/-! ## The checks of a run -/

/-- A check of a run raises the event exactly from the limit on, and arms the timer otherwise. -/
def IsExact (info : BaseStreamInfo) (wait : UInt8) (made : Nat) (accepts : Bool)
    (entry : Transition Inner Action (Option OutEvent)) : Prop :=
  (entry.result = some (.streamInTimeout info) ↔ wait.toNat ≤ made) ∧
    (entry.result ≠ some (.streamInTimeout info) → entry.after.timeSchedule info.ssrc = accepts)

instance (info : BaseStreamInfo) (wait : UInt8) (made : Nat) (accepts : Bool)
    (entry : Transition Inner Action (Option OutEvent)) :
    Decidable (IsExact info wait made accepts entry) :=
  inferInstanceAs (Decidable (_ ∧ _))

/-- The counter of a round, read against a limit, is as good as the number of checks when no
round is over yet, or when it has reached the limit in its round. -/
theorem limit_iff {limit made : Nat} (small : limit < 256) :
    (limit ≤ CyclicCounter.after 256 1 made ↔ limit ≤ made + 1) ↔
      made + 1 ≤ 256 ∨ limit ≤ made % 256 + 1 := by
  rw [CyclicCounter.after]
  omega

/-- The timer that goes off is exact exactly when the counter has not gone round since the last
packet, or has reached the limit again in its round. -/
theorem goOff_exact_iff {info : BaseStreamInfo} {wait : UInt8} {made : Nat} {inner : Inner}
    (counts : Counts info wait made inner) (armed : inner.timeSchedule info.ssrc = true)
    (accepts : Bool) :
    (((goOff inner info.ssrc accepts).1 = some (.streamInTimeout info) ↔ wait.toNat ≤ made + 1) ∧
        ((goOff inner info.ssrc accepts).1 ≠ some (.streamInTimeout info) →
          (goOff inner info.ssrc accepts).2.timeSchedule info.ssrc = accepts)) ↔
      made + 1 ≤ 256 ∨ wait.toNat ≤ made % 256 + 1 := by
  obtain ⟨counted, -, unarmed, same⟩ := goOff_eq counts armed accepts
  rw [same, ← limit_iff wait.toNat_lt]
  by_cases reached : wait.toNat ≤ CyclicCounter.after 256 1 made
  · rw [if_pos reached]
    simp [reached]
  · rw [if_neg reached]
    simp [reached, arm_timeSchedule unarmed]

/-- The checks that are exact are those of the first round since the last packet and those that
reach the limit in a later round. -/
theorem check_exact_iff {inner : Inner} {config : MediaConfig} {accepts : Bool} {actions : List Action}
    (implemented : config.isImplemented) {past later : List (Transition Inner Action (Option OutEvent))}
    {entry : Transition Inner Action (Option OutEvent)}
    (split : run (step (infoOf config)) (inner.initMedia config accepts) actions =
      past ++ entry :: later) {again : Bool} (isCheck : entry.action = .check again)
    (armed : entry.before.timeSchedule config.ssrc = true) :
    IsExact (infoOf config) (config.inWaitTimeout.getD inner.inWaitTimeout)
        (checksSince config.ssrc past + 1) again entry ↔
      checksSince config.ssrc past + 1 ≤ 256 ∨
        (config.inWaitTimeout.getD inner.inWaitTimeout).toNat ≤
          checksSince config.ssrc past % 256 + 1 := by
  have counts := counts_run implemented split
  have member : entry ∈ run (step (infoOf config)) (inner.initMedia config accepts) actions := by
    rw [split]
    exact List.mem_append_right _ (List.mem_cons_self ..)
  have isStep := mem_run member
  have result : entry.result = (goOff entry.before config.ssrc again).1 := by
    rw [isStep, isCheck]; rfl
  have after : entry.after = (goOff entry.before config.ssrc again).2 := by
    rw [isStep, isCheck]; rfl
  rw [IsExact, result, after]
  exact goOff_exact_iff counts armed again

/-- A stream that waits for two checks. -/
def camera : MediaConfig := ⟨7, "camera", some 2, false, .httpFlv⟩

/-- The stream is kept alive without input through the two hundred and fifty-five checks that raise, and
checked once more. -/
def keptAlive : List (Transition Inner Action (Option OutEvent)) :=
  run (step (infoOf camera)) ((Inner.empty 4).initMedia camera true)
    (.check true :: (List.replicate 255 [Action.check true, .keepAlive true]).flatten ++ [.check true])

/-- The last check finds no input since the start, and raises nothing. -/
theorem kept_alive_not_raised : ∃ entry ∈ keptAlive.getLast?, entry.action = .check true ∧
    entry.before.timeSchedule 7 = true ∧ checksSince 7 keptAlive.dropLast + 1 = 257 ∧
    entry.result = none ∧
    ¬IsExact ⟨7, "camera"⟩ 2 (checksSince 7 keptAlive.dropLast + 1) true entry := by
  decide +kernel

/-- The stream is kept alive once, and hears a packet before the last two checks. -/
def heardAgain : List (Transition Inner Action (Option OutEvent)) :=
  run (step (infoOf camera)) ((Inner.empty 4).initMedia camera true)
    [.check true, .check true, .keepAlive true, .check true, .keepAlive true, .packet, .check true, .check true]

theorem check_exact_iff_heardAgain :
    (IsExact (infoOf camera) 2 (checksSince 7 heardAgain.dropLast + 1) true (heardAgain.getLast (by decide)) ↔
      checksSince 7 heardAgain.dropLast + 1 ≤ 256 ∨
        (2 : UInt8).toNat ≤ checksSince 7 heardAgain.dropLast % 256 + 1) ∧
      heardAgain.map Transition.result =
        [none, some (.streamInTimeout ⟨7, "camera"⟩), none, some (.streamInTimeout ⟨7, "camera"⟩), none, none,
          none, some (.streamInTimeout ⟨7, "camera"⟩)] :=
  ⟨@check_exact_iff (.empty 4) camera true _ (by decide) heardAgain.dropLast [] _
    (List.dropLast_append_getLast _).symm true rfl (by decide), by decide⟩

end Gmv.Stream.InputTimeout
