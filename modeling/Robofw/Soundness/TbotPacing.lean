import Robofw.Soundness.MotionLimit
import Robofw.Soundness.TbotOverflow
import Robofw.Soundness.TbotPipeline
import Robofw.Soundness.TbotStandstill

/-! # The wheel targets under remote control

An SBUS channel cannot ask for more than 786 rpm. When no frame commands the wheels, all targets of a run
stay within that, far from the ends of `int16_t`. There the limiter does what it is for: it paces the
targets, and motions of zero bring them down to zero.
-/

namespace Robofw.Model.Motion

open Robofw.Core

/-- Both targets turn with at most this many rpm. -/
def WithinRpm (limit : ℕ) (rpm : DesiredRpm) : Prop :=
  rpm.left.toInt.natAbs ≤ limit ∧ rpm.right.toInt.natAbs ≤ limit

theorem within_standstill {limit : ℕ} : WithinRpm limit ⟨0, 0⟩ := ⟨Nat.zero_le limit, Nat.zero_le limit⟩

/-- The next targets of the wheels that turn are gradual. -/
def Paced (prev next : DesiredRpm) : Prop :=
  (prev.left.toInt ≠ 0 → Gradual prev.left.toInt next.left.toInt) ∧
    (prev.right.toInt ≠ 0 → Gradual prev.right.toInt next.right.toInt)

/-- What the limiter publishes for messages from a saved target. -/
def published (prevTargetRpm : DesiredRpm) (messages : List FittingMotion) : List DesiredRpm :=
  machine.observedFrom (fun state event => (machine.step state event).2) prevTargetRpm messages

section Limiter

variable {limit : ℕ} (small : limit ≤ 16000)

include small

/-- Away from the ends of the range, a step of the limiter goes no further than its two speeds, and it is
gradual unless the wheel starts. -/
theorem limited_within {prev value : ℤ} (prevWithin : prev.natAbs ≤ limit)
    (valueWithin : value.natAbs ≤ limit) :
    (limited 3 8 prev value).natAbs ≤ limit ∧ (prev ≠ 0 → Gradual prev (limited 3 8 prev value)) := by
  have prevFits : FitsInt16 prev := by unfold FitsInt16; omega
  have valueFits : FitsInt16 value := by unfold FitsInt16; omega
  constructor
  · have measurable : Measurable 3 prev value := .inl (by unfold FitsInt16; omega)
    have step := @limited_of_measurable 3 8 prev value (by omega) (by omega) prevFits valueFits measurable
    rcases step with arrived | ⟨low, high, -⟩
    · rw [arrived]
      exact valueWithin
    · omega
  · intro turns
    exact (gradual_limited_iff prevFits valueFits).mpr
      ⟨fun still => absurd still turns, fun top => by omega, fun bottom => by omega⟩

/-- On a target of zero, a step of the limiter takes eight rpm off, or all that are left. -/
theorem limited_zero {prev : ℤ} (prevWithin : prev.natAbs ≤ limit) :
    (limited 3 8 prev 0).natAbs ≤ prev.natAbs - 8 := by
  have way := limited_cases 3 8 prev 0
  have diff := @narrow_cases (0 - prev) (by omega) (by omega)
  generalize limited 3 8 prev 0 = next at way ⊢
  generalize narrow (0 - prev) = wrapped at diff way
  cases way with
  | accelUp up above => omega
  | accelDown down below => omega
  | decelUp down notBelow above =>
    have sum := @narrow_cases (prev + 8) (by omega) (by omega)
    omega
  | decelDown up notAbove below =>
    have sum := @narrow_cases (prev - 8) (by omega) (by omega)
    omega
  | target up down => omega

/-- One message within the limit keeps the saved target within it, and is published paced. -/
theorem motionStep_within {prevTargetRpm : DesiredRpm} (within : WithinRpm limit prevTargetRpm)
    {message : FittingMotion} (asks : WithinRpm limit message.target) :
    WithinRpm limit (motionStep prevTargetRpm message).1 ∧
      Paced prevTargetRpm (motionStep prevTargetRpm message).1 := by
  have wheel {prev value : Int16} (prevWithin : prev.toInt.natAbs ≤ limit)
      (valueWithin : value.toInt.natAbs ≤ limit) :
      (applyMotionLimit rpmLimit prev value).toInt.natAbs ≤ limit ∧
        (prev.toInt ≠ 0 → Gradual prev.toInt (applyMotionLimit rpmLimit prev value).toInt) := by
    rw [toInt_applyMotionLimit]
    exact limited_within small prevWithin valueWithin
  obtain ⟨left, leftPaced⟩ := wheel within.1 asks.1
  obtain ⟨right, rightPaced⟩ := wheel within.2 asks.2
  exact ⟨⟨left, right⟩, ⟨leftPaced, rightPaced⟩⟩

/-- On messages within the limit, everything published is within it, and paced one by one. -/
theorem published_within {messages : List FittingMotion}
    (asks : ∀ message ∈ messages, WithinRpm limit message.target) {prevTargetRpm : DesiredRpm}
    (within : WithinRpm limit prevTargetRpm) :
    (∀ rpm ∈ published prevTargetRpm messages, WithinRpm limit rpm) ∧
      (prevTargetRpm :: published prevTargetRpm messages).IsChain Paced := by
  induction messages generalizing prevTargetRpm with
  | nil => exact ⟨fun _ member => absurd member List.not_mem_nil, .singleton _⟩
  | cons message rest ih =>
    obtain ⟨first, later⟩ := List.forall_mem_cons.mp asks
    obtain ⟨next, paced⟩ := motionStep_within small within first
    obtain ⟨bounded, chain⟩ := ih later next
    exact ⟨List.forall_mem_cons.mpr ⟨next, bounded⟩, .cons_cons paced chain⟩

/-- On messages within the limit, the saved target is within it. -/
theorem runFrom_within {messages : List FittingMotion}
    (asks : ∀ message ∈ messages, WithinRpm limit message.target) {prevTargetRpm : DesiredRpm}
    (within : WithinRpm limit prevTargetRpm) : WithinRpm limit (machine.runFrom prevTargetRpm messages) := by
  induction messages generalizing prevTargetRpm with
  | nil => exact within
  | cons message rest ih =>
    obtain ⟨first, later⟩ := List.forall_mem_cons.mp asks
    exact ih later (motionStep_within small within first).1

end Limiter

/-- A motion of zero has targets of zero. -/
theorem target_zero {message : FittingMotion} (still : message.motion = .zero) :
    message.target = ⟨0, 0⟩ := by
  have zero : targetRpm .zero = some ⟨0, 0⟩ := by decide +kernel
  have fits := message.fits
  rw [still, zero] at fits
  exact (Option.some.inj fits).symm

/-- Messages of zero motion take eight rpm each off the saved target, until none are left. -/
theorem runFrom_zero {limit : ℕ} (small : limit ≤ 16000) {messages : List FittingMotion}
    (still : ∀ message ∈ messages, message.motion = .zero) {prevTargetRpm : DesiredRpm}
    (within : WithinRpm limit prevTargetRpm) :
    WithinRpm (limit - 8 * messages.length) (machine.runFrom prevTargetRpm messages) := by
  induction messages generalizing prevTargetRpm limit with
  | nil => exact within
  | cons message rest ih =>
    obtain ⟨first, later⟩ := List.forall_mem_cons.mp still
    have wheel {prev : Int16} (prevWithin : prev.toInt.natAbs ≤ limit) :
        (applyMotionLimit rpmLimit prev 0).toInt.natAbs ≤ limit - 8 := by
      have slower := limited_zero small prevWithin
      rw [toInt_applyMotionLimit]
      exact slower.trans (Nat.sub_le_sub_right prevWithin 8)
    have next : WithinRpm (limit - 8) (machine.step prevTargetRpm message).1 := by
      change WithinRpm _ (motionStep prevTargetRpm message).1
      rw [motionStep, target_zero first]
      exact ⟨wheel within.1, wheel within.2⟩
    have length : limit - 8 * (message :: rest).length = limit - 8 - 8 * rest.length := by
      rw [List.length_cons]
      omega
    rw [length]
    exact ih (by omega) later next

end Robofw.Model.Motion

namespace Robofw.Model.Tbot

open Robofw.Core
open Robofw.Model.Motion (FittingMotion WithinRpm Paced targetRpm)
open Robofw.Model.TbotActuators (Pins TbotActuatorConf)

/-- A motion that SBUS data can ask for. -/
structure InRcRange (motion : DesiredMotion) : Prop where
  linear : -1023 / 783 ≤ motion.linear ∧ motion.linear ≤ 1024 / 784
  angular : -1024 / 784 ≤ motion.angular ∧ motion.angular ≤ 1023 / 783

theorem inRcRange_rcMotion {data : ReceiverData} (received : FromSbus data) :
    InRcRange (Coordinator.rcMotion data) := by
  refine ⟨received.range 2, ?_⟩
  obtain ⟨low, high⟩ := received.range 0
  change -1024 / 784 ≤ -data.channels.get 0 ∧ -data.channels.get 0 ≤ 1023 / 783
  constructor <;> linarith

/-- Truncation drops the fraction of the absolute value. -/
theorem natAbs_truncate_le {value : ℚ} {limit : ℕ} (below : |value| < limit + 1) :
    (truncate value).natAbs ≤ limit := by
  have positive : 0 < value.den := value.den_pos
  have scaled : |(value.num : ℚ)| < (limit + 1) * value.den := by
    rw [← Rat.mul_den_eq_num value, abs_mul, Nat.abs_cast]
    exact mul_lt_mul_of_pos_right below (by exact_mod_cast positive)
  have whole : value.num.natAbs < (limit + 1) * value.den := by
    rw [← Int.cast_abs, Int.abs_eq_natAbs] at scaled
    exact_mod_cast scaled
  rw [truncate, Int.natAbs_tdiv, Int.natAbs_natCast]
  exact Nat.le_of_lt_succ ((Nat.div_lt_iff_lt_mul positive).mpr whole)

/-- The targets of a motion that SBUS data can ask for. -/
theorem target_within {motion : DesiredMotion} (range : InRcRange motion) :
    ∃ target, targetRpm motion = some target ∧ WithinRpm 786 target := by
  obtain ⟨⟨linearLow, linearHigh⟩, angularLow, angularHigh⟩ := range
  have left : |Motion.leftWheelRpm motion| ≤ 1549 / 1000 * 508 := by
    apply abs_wheelRpm_le
    rw [Motion.wheelTrack, abs_le]
    constructor <;> linarith
  have right : |Motion.rightWheelRpm motion| ≤ 1549 / 1000 * 508 := by
    apply abs_wheelRpm_le
    rw [Motion.wheelTrack, abs_le]
    constructor <;> linarith
  obtain ⟨leftLow, leftHigh⟩ := abs_le.mp left
  obtain ⟨rightLow, rightHigh⟩ := abs_le.mp right
  have fits : WheelsFit motion := by
    apply wheelsFit_of_rpmFits
    · exact ⟨by linarith, by linarith⟩
    · exact ⟨by linarith, by linarith⟩
    · exact ⟨by linarith, by linarith⟩
  obtain ⟨target, same, leftSame, rightSame⟩ := fits.targets
  refine ⟨target, same, ?_, ?_⟩
  · rw [leftSame]
    apply natAbs_truncate_le
    push_cast
    linarith
  · rw [rightSame, Int.natAbs_neg]
    apply natAbs_truncate_le
    push_cast
    linarith

/-- The remote control alone commands the wheels: the receiver decodes SBUS data, and no frame asks for
wheel speeds or a motion. -/
structure RcOnly (events : List SystemEvent) : Prop where
  received : ∀ data, .rcMessage data ∈ events → FromSbus data
  frames : ∀ frame, .canFrame frame ∈ events → frame.id ≠ motorCmdCanId ∧ frame.id ≠ motionCmdCanId

/-- The job of a frame leaves the wheel targets alone. -/
def RxJob.SparesWheels : RxJob → Prop
  | .desiredRpm _ => False
  | .desiredMotion _ => False
  | _ => True

theorem sparesWheels {frame : ZcanFrame} (other : frame.id ≠ motorCmdCanId ∧ frame.id ≠ motionCmdCanId)
    {job : RxJob} (decoded : rxJob? frame = some job) : job.SparesWheels := by
  unfold rxJob? decodeCanMessage at decoded
  dsimp only at decoded
  rw [if_neg other.1, if_neg other.2] at decoded
  split at decoded
  · obtain rfl := Option.some.inj decoded
    trivial
  · split at decoded
    · obtain rfl := Option.some.inj decoded
      trivial
    · contradiction

section Runs

variable {conf : TbotActuatorConf} {uplink : Uplink} {before : Pins} {events : List SystemEvent}
  (rcOnly : RcOnly events)

include rcOnly

/-- What the services put is in the range of SBUS data, or leaves the wheel targets alone. -/
theorem puts_inRcRange :
    ∀ output ∈ (system conf uplink before).observed (servicesShown conf uplink) events,
      output.Allowed RxJob.SparesWheels InRcRange :=
  puts_allowed FromSbus RxJob.SparesWheels InRcRange conf uplink before
    ⟨by norm_num [DesiredMotion.zero], by norm_num [DesiredMotion.zero]⟩
    (fun _ received => .inr (inRcRange_rcMotion received)) (fun _ asks => asks.elim) rcOnly.received
    (fun _ came _ decoded => sparesWheels (rcOnly.frames _ came) decoded)

/-- What the motion control takes is in the range of SBUS data. -/
theorem motions_inRcRange :
    ∀ motion ∈ ((system conf uplink before).observed System.taken events).filterMap Taken.motion?,
      InRcRange motion := by
  intro motion taken
  obtain ⟨output, emitted, shown⟩ :=
    mem_shown_iff.mp ((motions_delivered conf uplink before events).subset taken)
  cases output with
  | services output =>
    have allowed := puts_inRcRange rcOnly _ (services_shown emitted)
    cases output with
    | motion sent => exact Option.some.inj shown ▸ allowed
    | _ => contradiction
  | _ => contradiction

/-- Every motion that the motion control takes fits the wheels. -/
theorem fittings_eq_motions :
    (((system conf uplink before).observed System.taken events).filterMap Taken.fitting?).map (·.motion) =
      ((system conf uplink before).observed System.taken events).filterMap Taken.motion? := by
  rw [List.map_filterMap]
  refine List.filterMap_congr fun taken member => ?_
  cases taken with
  | motion motion =>
    have range := motions_inRcRange rcOnly motion (List.mem_filterMap.mpr ⟨_, member, rfl⟩)
    obtain ⟨target, fits, -⟩ := target_within range
    simp only [Taken.fitting?, Taken.motion?]
    split
    · rfl
    case h_2 undefined => exact absurd (undefined.symm.trans fits) (by simp)
  | _ => rfl

/-- What the limiter works on stays within 786 rpm. -/
theorem fittings_within :
    ∀ message ∈ ((system conf uplink before).observed System.taken events).filterMap Taken.fitting?,
      WithinRpm 786 message.target := by
  intro message member
  obtain ⟨taken, own, fits⟩ := List.mem_filterMap.mp member
  have range := motions_inRcRange rcOnly message.motion
    (List.mem_filterMap.mpr ⟨_, own, motion?_of_fitting fits⟩)
  obtain ⟨target, same, within⟩ := target_within range
  rw [message.fits] at same
  exact Option.some.inj same ▸ within

/-- The targets of the motion control are within 786 rpm, and paced. -/
theorem ownTargets_within :
    (∀ rpm ∈ (system conf uplink before).observed (System.shown conf uplink SystemOutput.ownTarget?) events,
        WithinRpm 786 rpm) ∧
      (⟨0, 0⟩ :: (system conf uplink before).observed (System.shown conf uplink SystemOutput.ownTarget?)
        events).IsChain Paced := by
  have run := ownTargets_run conf uplink before events
  obtain ⟨bounded, chain⟩ :=
    Motion.published_within (by decide) (fittings_within rcOnly) Motion.within_standstill
  have split : Motion.published ⟨0, 0⟩ _ = _ := run.symm
  rw [split] at bounded chain
  rw [← List.cons_append] at chain
  exact ⟨fun rpm put => bounded rpm (List.mem_append_left _ put), chain.left_of_append⟩

/-- Only the motion control puts targets. -/
theorem targets_within : ∀ rpm ∈
    (system conf uplink before).observed (System.shown conf uplink SystemOutput.target?) events,
      WithinRpm 786 rpm := by
  intro rpm put
  obtain ⟨output, emitted, target⟩ := mem_shown_iff.mp put
  cases output with
  | services output =>
    have allowed := puts_inRcRange rcOnly _ (services_shown emitted)
    cases output with
    | desiredRpm sent => exact allowed.elim
    | _ => contradiction
  | target own => exact (ownTargets_within rcOnly).1 rpm (mem_shown_iff.mpr ⟨_, emitted, target⟩)
  | _ => contradiction

end Runs

/-- Only a motion whose targets are undefined ends what a run says. -/
theorem undefined_step {conf : TbotActuatorConf} {uplink : Uplink} {s : System} {event : SystemEvent}
    (undefined : (s.step conf uplink event).1.undefined = true) :
    s.undefined = true ∨ ∃ motion, .undefinedTarget motion ∈ (s.step conf uplink event).2 := by
  unfold System.step at undefined ⊢
  split
  case isTrue already => exact .inl already
  case isFalse running =>
    rw [if_neg running] at undefined
    cases event with
    | motionControl =>
      have move := motionControlStep_move s
      simp only [System.act] at undefined ⊢
      generalize s.motionControlStep = answer at move undefined ⊢
      cases move with
      | undefined motion => exact .inr ⟨motion, List.mem_singleton_self _⟩
      | _ => exact .inl undefined
    | messengerRx =>
      obtain ⟨source, same⟩ := messengerRxStep_eq s
      simp only [System.act] at undefined
      rw [same] at undefined
      exact .inl undefined
    | estimate estimate =>
      simp only [System.act] at undefined
      split at undefined <;> exact .inl undefined
    | encoder =>
      simp only [System.act, System.encoderStep] at undefined
      split at undefined <;> [skip; split at undefined] <;> exact .inl undefined
    | actuator =>
      have move := actuatorStep_move conf s
      simp only [System.act] at undefined
      generalize s.actuatorStep conf = answer at move undefined
      cases move <;> exact .inl undefined
    | _ => exact .inl undefined

section Runs

variable (conf : TbotActuatorConf) (uplink : Uplink) (before : Pins)

/-- Under remote control no wheel target is undefined. -/
theorem defined_run {events : List SystemEvent} (rcOnly : RcOnly events) :
    ((system conf uplink before).run events).undefined = false := by
  induction events using List.reverseRecOn with
  | nil => rfl
  | append_singleton events last ih =>
    have earlier : RcOnly events := ⟨fun data came => rcOnly.received data (List.mem_append_left _ came),
      fun frame came => rcOnly.frames frame (List.mem_append_left _ came)⟩
    rw [Machine.run_concat]
    refine Bool.eq_false_of_not_eq_true fun undefined => ?_
    rcases undefined_step undefined with already | ⟨motion, emitted⟩
    · rw [ih earlier] at already
      contradiction
    · obtain ⟨waiting, unfit⟩ := undefinedTarget_mem_step conf uplink emitted
      rcases waiting_fits conf uplink before earlier.received motion waiting with fits | ⟨frame, came, asks⟩
      · rw [unfit] at fits
        contradiction
      · exact (earlier.frames frame came).2 (eq_frameMotion asks).1

/-- In every run in which the remote control alone commands the wheels, no target is undefined, all targets
are within 786 rpm, and each target that the motion control puts is gradual from the one before, but for
wheels that start. -/
theorem targets_paced {events : List SystemEvent} (rcOnly : RcOnly events) :
    ((system conf uplink before).run events).undefined = false ∧
      (∀ rpm ∈ (system conf uplink before).observed (System.shown conf uplink SystemOutput.target?) events,
        WithinRpm 786 rpm) ∧
      (⟨0, 0⟩ :: (system conf uplink before).observed (System.shown conf uplink SystemOutput.ownTarget?)
        events).IsChain Paced :=
  ⟨defined_run conf uplink before rcOnly, targets_within rcOnly, (ownTargets_within rcOnly).2⟩

/-- The stick forward, in RC mode. -/
private def forwardFrame : SbusBytes :=
  #v[0xf, 0xff, 0xfb, 0xdf, 0xc3, 0xff, 0xf7, 0xbf, 0xff, 0xc1, 0xe3, 0x7f, 0xff, 0xfb, 0xdf, 0xff, 0xfe,
    0xf7, 0xbf, 0xff, 0xfd, 0xef, 0x7f, 0, 0]

/-- The stick reaches the wheel targets, next to a frame for the actuators. -/
private def forwardStick : List SystemEvent :=
  [.rcMessage (scaleMessage (sbusBuildMessage forwardFrame)), .receiver, .coordinator,
    .canFrame ⟨0x101, .standard, .dataFrame, 2, Vector.replicate 8 0⟩, .messengerRx, .coordinator,
    .coordinator, .coordinator, .motionControl, .motionControl]

private theorem forwardStick_rcOnly : RcOnly forwardStick := by
  constructor
  · intro data came
    simp only [forwardStick, List.mem_cons, SystemEvent.rcMessage.injEq, reduceCtorEq, List.not_mem_nil,
      or_false] at came
    exact ⟨_, came⟩
  · intro frame came
    simp only [forwardStick, List.mem_cons, SystemEvent.canFrame.injEq, reduceCtorEq, List.not_mem_nil,
      or_false, false_or] at came
    rw [came]
    decide

/-- A robot driven forward. -/
theorem targets_paced_forward :
    ((system TbotActuators.robotConf ⟨⟨true⟩, fun _ => 0, walkFrame, walkFrame⟩
        TbotActuators.restingPins).run forwardStick).undefined = false ∧
      (∀ rpm ∈ (system TbotActuators.robotConf ⟨⟨true⟩, fun _ => 0, walkFrame, walkFrame⟩
          TbotActuators.restingPins).observed (System.shown TbotActuators.robotConf
            ⟨⟨true⟩, fun _ => 0, walkFrame, walkFrame⟩ SystemOutput.target?) forwardStick, WithinRpm 786 rpm) ∧
      (⟨0, 0⟩ :: (system TbotActuators.robotConf ⟨⟨true⟩, fun _ => 0, walkFrame, walkFrame⟩
          TbotActuators.restingPins).observed (System.shown TbotActuators.robotConf
            ⟨⟨true⟩, fun _ => 0, walkFrame, walkFrame⟩ SystemOutput.ownTarget?) forwardStick).IsChain Paced :=
  targets_paced TbotActuators.robotConf ⟨⟨true⟩, fun _ => 0, walkFrame, walkFrame⟩
    TbotActuators.restingPins forwardStick_rcOnly

/-- In every run in which the remote control alone commands the wheels, each motion of zero that the motion
control takes last takes eight rpm off the targets it saves, so that ninety-nine of them stop the wheels. -/
theorem zeroMotions_stop {events : List SystemEvent} (rcOnly : RcOnly events) {earlier : List DesiredMotion}
    {count : ℕ} (taken : ((system conf uplink before).observed System.taken events).filterMap Taken.motion? =
      earlier ++ List.replicate count .zero) :
    WithinRpm (786 - 8 * count) ((system conf uplink before).run events).motionControl.prevTargetRpm := by
  have saved := Machine.stage_state (system conf uplink before) Motion.machine
    (fun s => s.motionControl.prevTargetRpm) (fun s event => (s.taken event).filterMap Taken.fitting?) rfl
    (fun s event => (motionStage_step conf uplink s event).computed) events
  rw [← Machine.filterMap_observed] at saved
  have within := @fittings_within conf uplink before events rcOnly
  rw [← fittings_eq_motions rcOnly] at taken
  obtain ⟨first, last, split, -, zeros⟩ := List.map_eq_append_iff.mp taken
  obtain ⟨length, still⟩ := List.eq_replicate_iff.mp zeros
  rw [List.length_map] at length
  rw [split] at within saved
  have reached := Motion.runFrom_within (by decide)
    (fun message member => within message (List.mem_append_left _ member)) Motion.within_standstill
  have stopped := Motion.runFrom_zero (by decide)
    (fun message member => still _ (List.mem_map_of_mem member)) reached
  rw [length, ← Machine.runFrom_append] at stopped
  exact saved ▸ stopped

/-- The stick still forward, under the e-stop. -/
private def estopFrame : SbusBytes :=
  #v[0xf, 0xff, 0xfb, 0xdf, 0xc3, 0xff, 0xf7, 0xbf, 0xff, 0x3d, 0xfc, 0x7f, 0xff, 0xfb, 0xdf, 0xff, 0xfe,
    0xf7, 0xbf, 0xff, 0xfd, 0xef, 0x7f, 0, 0]

/-- The motion control takes the motion of an iteration of the coordinator and puts its target, and both purge
what waits in their queues. -/
private def estopIteration : List SystemEvent :=
  List.replicate 3 .coordinator ++ List.replicate 4 .motionControl ++ List.replicate 3 .coordinator

/-- The robot is driven forward, and three iterations follow the e-stop. -/
private def braking : List SystemEvent :=
  forwardStick ++ [.rcMessage (scaleMessage (sbusBuildMessage estopFrame)), .receiver] ++
    (List.replicate 3 estopIteration).flatten

private theorem braking_rcOnly : RcOnly braking := by
  have stopping : ∀ event ∈ estopIteration, event = .coordinator ∨ event = .motionControl := by decide
  constructor
  · intro data came
    simp only [braking, List.mem_append, List.mem_cons, List.not_mem_nil, or_false,
      SystemEvent.rcMessage.injEq, reduceCtorEq, List.mem_flatten, List.mem_replicate] at came
    rcases came with (driving | stop) | ⟨iteration, ⟨-, rfl⟩, during⟩
    · exact forwardStick_rcOnly.received data driving
    · exact ⟨_, stop⟩
    · rcases stopping _ during with other | other <;> cases other
  · intro frame came
    simp only [braking, List.mem_append, List.mem_cons, List.not_mem_nil, or_false, reduceCtorEq,
      List.mem_flatten, List.mem_replicate] at came
    rcases came with driving | ⟨iteration, ⟨-, rfl⟩, during⟩
    · exact forwardStick_rcOnly.frames frame driving
    · rcases stopping _ during with other | other <;> cases other

/-- The wheels turn with 507 rpm, and three motions of zero take 24 off that. -/
theorem zeroMotions_stop_braking :
    ((system TbotActuators.robotConf ⟨⟨true⟩, fun _ => 0, walkFrame, walkFrame⟩
        TbotActuators.restingPins).run forwardStick).motionControl.prevTargetRpm = ⟨507, -507⟩ ∧
      ((system TbotActuators.robotConf ⟨⟨true⟩, fun _ => 0, walkFrame, walkFrame⟩
        TbotActuators.restingPins).run braking).motionControl.prevTargetRpm = ⟨483, -483⟩ ∧
      WithinRpm (786 - 8 * 3) ((system TbotActuators.robotConf ⟨⟨true⟩, fun _ => 0, walkFrame, walkFrame⟩
        TbotActuators.restingPins).run braking).motionControl.prevTargetRpm :=
  ⟨by decide +kernel, by decide +kernel,
    zeroMotions_stop TbotActuators.robotConf ⟨⟨true⟩, fun _ => 0, walkFrame, walkFrame⟩
      TbotActuators.restingPins braking_rcOnly
      (show _ = [⟨1, 0⟩] ++ List.replicate 3 DesiredMotion.zero by decide +kernel)⟩

end Runs

end Robofw.Model.Tbot
