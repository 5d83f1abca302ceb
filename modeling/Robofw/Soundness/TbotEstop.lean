import Robofw.Soundness.TbotSteps

/-! # E-stop dominance on the TBot

The coordinator zeroes the motion it sends while the e-stop is triggered, and that path is safe in
every run. The messenger's RX thread puts PWM and motor commands without looking at the e-stop, so
those two paths obey it exactly when the frames handled meanwhile command nothing.
-/

namespace Robofw.Model.Tbot

open Robofw.Core

/-- What the e-stop demands of a put: every command it carries is zero. -/
def Output.Stopped : Output → Prop
  | .motion command => command.val = .zero
  | .actuatorCmd command => command = ⟨0, 0⟩
  | .desiredRpm command => command = ⟨0, 0⟩
  | _ => True

instance : (output : Output) → Decidable output.Stopped
  | .motion command => inferInstanceAs (Decidable (command.val = .zero))
  | .actuatorCmd command => inferInstanceAs (Decidable (command = ⟨0, 0⟩))
  | .desiredRpm command => inferInstanceAs (Decidable (command = ⟨0, 0⟩))
  | .rcData _ | .canMotion _ | .supervisorCmd _ | .robotState _ => .isTrue trivial

/-- While the e-stop is triggered, no step of the run puts a non-zero command. -/
def EstopDominance (events : List Event) : Prop :=
  ∀ step ∈ machine.steps events, step.1.coordinator.robotState.estopTriggered = true →
    ∀ output ∈ (Tbot.step step.1 step.2).2, output.Stopped

instance (events : List Event) : Decidable (EstopDominance events) :=
  inferInstanceAs (Decidable (∀ step ∈ machine.steps events, _))

/-- A frame that commands no motor: a PWM frame with both bytes zero, a motor frame whose speeds
have zero low halves, or any other frame. -/
def QuietFrame (frame : ZcanFrame) : Prop :=
  (frame.id = pwmCmdCanId → frame.data.get 0 = 0 ∧ frame.data.get 1 = 0) ∧
  (frame.id = motorCmdCanId → (frame.data.get 2 = 0 ∧ frame.data.get 3 = 0) ∧
    (frame.data.get 6 = 0 ∧ frame.data.get 7 = 0))

/-- The step is not the put of a commanding frame under a triggered e-stop. -/
def QuietUnderEstop (s : State) (event : Event) : Prop :=
  event = .messengerRx → s.coordinator.robotState.estopTriggered = true →
    ∀ rx, s.messengerRx = some rx → rx.Puts s → QuietFrame rx.frame

private theorem scaled_eq_zero_iff {value : ℤ} : (value : ℚ) / 100 = 0 ↔ value = 0 := by
  rw [div_eq_zero_iff, Int.cast_eq_zero]
  simp only [OfNat.ofNat_ne_zero, or_false]

private theorem pwm_stopped_iff {left right : UInt8} :
    (⟨left.toInt8.toInt / 100, -right.toInt8.toInt / 100⟩ : ActuatorCmd) = ⟨0, 0⟩ ↔
      left = 0 ∧ right = 0 := by
  rw [ActuatorCmd.mk.injEq, neg_div, neg_eq_zero, scaled_eq_zero_iff, scaled_eq_zero_iff,
    toInt8_toInt_eq_zero_iff, toInt8_toInt_eq_zero_iff]

private theorem rpm_stopped_iff {a0 a1 a2 a3 b0 b1 b2 b3 : UInt8} :
    (⟨(bigEndian32 a0 a1 a2 a3).toInt32.toInt16, (-(bigEndian32 b0 b1 b2 b3).toInt32).toInt16⟩ :
      DesiredRpm) = ⟨0, 0⟩ ↔ (a2 = 0 ∧ a3 = 0) ∧ (b2 = 0 ∧ b3 = 0) := by
  have negated {value : Int16} : -value = 0 ↔ value = 0 := by
    rw [← Int16.toBitVec_inj, ← Int16.toBitVec_inj, Int16.toBitVec_neg]
    exact BitVec.neg_eq_zero_iff
  rw [DesiredRpm.mk.injEq, Int32.toInt16_neg, negated, toInt16_bigEndian32_eq_zero_iff,
    toInt16_bigEndian32_eq_zero_iff]

/-- The message made from a frame is a zero command exactly when the frame is quiet. -/
theorem output_stopped_iff (rx : RxThread) (clock : Clock) :
    (rx.job.output clock).Stopped ↔ QuietFrame rx.frame := by
  obtain ⟨frame, job, decoded, purging⟩ := rx
  simp only [rxJob?, decodeCanMessage] at decoded
  unfold QuietFrame
  split_ifs at decoded with sup pwm motor motion
  · obtain rfl := Option.some.inj decoded
    simp only [dispatch, RxJob.output, Output.Stopped, sup, true_iff]
    exact ⟨fun same => absurd same (by decide), fun same => absurd same (by decide)⟩
  · obtain rfl := Option.some.inj decoded
    simp only [dispatch, RxJob.output, Output.Stopped, pwm, forall_const, pwm_stopped_iff]
    exact (and_iff_left_of_imp fun _ same => absurd same (by decide)).symm
  · obtain rfl := Option.some.inj decoded
    simp only [dispatch, RxJob.output, Output.Stopped, motor, forall_const, rpm_stopped_iff]
    exact (and_iff_right_of_imp fun _ same => absurd same (by decide)).symm
  · obtain rfl := Option.some.inj decoded
    simp only [dispatch, RxJob.output, Output.Stopped, motion, true_iff]
    exact ⟨fun same => absurd same (by decide), fun same => absurd same (by decide)⟩
  · contradiction

/-- The coordinator reaches its motion put unsupervised, and with the motion zeroed under e-stop. -/
def Coordinator.SendsSafely (c : Coordinator) : Prop :=
  ∀ purging, c.pc = .putMotion purging → c.robotState.supMode = kNonSupervised ∧
    (c.robotState.estopTriggered = true → c.desiredMotion.val = .zero)

private theorem afterSup_sendsSafely (c : Coordinator) : c.afterSup.SendsSafely := by
  intro purging at_pc
  by_cases unsupervised : c.robotState.supMode = kNonSupervised
  · refine ⟨robotState_afterSup c ▸ unsupervised, fun estop => ?_⟩
    rw [robotState_afterSup] at estop
    simp only [Coordinator.afterSup, if_pos unsupervised, Coordinator.applyEstop, if_pos estop]
  · simp only [Coordinator.afterSup, if_neg unsupervised, reduceCtorEq] at at_pc

/-- Every piece of coordinator code keeps `SendsSafely`. -/
theorem Coordinator.Next.sendsSafely {c next : Coordinator} (step : c.Next next)
    (safe : c.SendsSafely) : next.SendsSafely := by
  cases step with
  | receiveSup mode => exact afterSup_sendsSafely _
  | missSup => exact afterSup_sendsSafely _
  | retryMotion purging retry at_pc => exact fun _ _ => safe purging at_pc
  | receiveRc data =>
    intro purging at_pc; simp only [Coordinator.afterRc] at at_pc; split at at_pc <;> contradiction
  | missRc =>
    intro purging at_pc; simp only [Coordinator.afterRc] at at_pc; split at at_pc <;> contradiction
  | _ => intro purging at_pc; contradiction

/-- In every run the coordinator sends motions only unsupervised, and zero ones under e-stop. -/
theorem sendsSafely_of_mem_steps {events : List Event} {s : State} {event : Event}
    (member : (s, event) ∈ machine.steps events) : s.coordinator.SendsSafely :=
  coordinator_invariant_steps (fun _ at_pc => by contradiction)
    (fun _ _ safe step => step.sendsSafely safe) member

/-- A run obeys the e-stop exactly when no commanding PWM or motor frame is put under it; the
coordinator's own motions never break it. -/
theorem estopDominance_iff (events : List Event) :
    EstopDominance events ↔ ∀ step ∈ machine.steps events, QuietUnderEstop step.1 step.2 := by
  constructor
  · intro dominated step member event estop rx active puts
    have emitted := mem_messengerRxStep.mpr ⟨rx, active, puts, rfl⟩
    refine (output_stopped_iff rx step.1.clock).mp (dominated step member estop _ ?_)
    rw [event]
    exact emitted
  · rintro quiet ⟨s, event⟩ member estop output emitted
    cases output with
    | motion motion =>
      obtain ⟨-, ⟨purging, at_pc⟩, rfl⟩ := motion_mem_step emitted
      exact (sendsSafely_of_mem_steps member purging at_pc).2 estop
    | actuatorCmd cmd =>
      obtain ⟨rfl, rx, active, puts, same⟩ := (mem_step_rx (by simp) (by simp) (by simp)).mp emitted
      exact same ▸ (output_stopped_iff rx _).mpr (quiet _ member rfl estop rx active puts)
    | desiredRpm rpm =>
      obtain ⟨rfl, rx, active, puts, same⟩ := (mem_step_rx (by simp) (by simp) (by simp)).mp emitted
      exact same ▸ (output_stopped_iff rx _).mpr (quiet _ member rfl estop rx active puts)
    | _ => trivial

/-- The operator triggers the e-stop, then the host sends PWM command 50, 50. -/
def pwmUnderEstop : List Event :=
  [.rcMessage ⟨#v[0, 0, 0, 0, 0, 0, 1, 0]⟩, .receiver, .coordinator,
    .canFrame ⟨0x101, .standard, .dataFrame, 2, #v[50, 50, 0, 0, 0, 0, 0, 0]⟩, .messengerRx]

/-- The PWM command reaches the actuator queue while the e-stop is triggered. -/
theorem pwmUnderEstop_not_dominated : ¬ EstopDominance pwmUnderEstop := by decide +kernel

end Robofw.Model.Tbot
