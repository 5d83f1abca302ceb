import Robofw.Soundness.TbotEstop

/-! # Command arbitration on the TBot

The supervised mode selects one source of motor commands. The coordinator keeps its part: it sends
motions only in mode none. The mode itself is whatever byte a supervisor frame carries, and PWM and
motor frames are put in every mode, so the rest of the law is the host's to keep.
-/

namespace Robofw.Model.Tbot

open Robofw.Core

/-- One of the enumerators: none, pwm, rpm. -/
def KnownMode (mode : SupervisedMode) : Prop :=
  mode = kNonSupervised ∨ mode = kSupervisedPwm ∨ mode = kSupervisedRpm

instance (mode : SupervisedMode) : Decidable (KnownMode mode) :=
  inferInstanceAs (Decidable (_ ∨ _))

/-- The mode selects the source of this put. -/
def Output.SelectedBy (mode : SupervisedMode) : Output → Prop
  | .motion _ => mode = kNonSupervised
  | .actuatorCmd _ => mode = kSupervisedPwm
  | .desiredRpm _ => mode = kSupervisedRpm
  | _ => True

instance (mode : SupervisedMode) : (output : Output) → Decidable (output.SelectedBy mode)
  | .motion _ => inferInstanceAs (Decidable (mode = kNonSupervised))
  | .actuatorCmd _ => inferInstanceAs (Decidable (mode = kSupervisedPwm))
  | .desiredRpm _ => inferInstanceAs (Decidable (mode = kSupervisedRpm))
  | .rcData _ | .canMotion _ | .supervisorCmd _ | .robotState _ => .isTrue trivial

/-- In every state reached the mode is a known one, and every put comes from the selected source. -/
structure Arbitrated (events : List Event) : Prop where
  known : ∀ before after, events = before ++ after →
    KnownMode (machine.run before).coordinator.robotState.supMode
  selected : ∀ step ∈ machine.steps events, ∀ output ∈ (Tbot.step step.1 step.2).2,
    output.SelectedBy step.1.coordinator.robotState.supMode

/-- The host's part of a step: a supervisor command the coordinator takes is a known mode, and a PWM
or motor frame reaches its queue only in the mode that selects it. -/
structure HostKeepsProtocol (s : State) (event : Event) : Prop where
  mode : event = .coordinator → s.coordinator.pc = .pollSup →
    ∀ mode ∈ s.supervisorCmdQueue.items, KnownMode mode
  pwm : event = .messengerRx → ∀ rx, s.messengerRx = some rx → rx.Puts s →
    rx.frame.id = pwmCmdCanId → s.coordinator.robotState.supMode = kSupervisedPwm
  motor : event = .messengerRx → ∀ rx, s.messengerRx = some rx → rx.Puts s →
    rx.frame.id = motorCmdCanId → s.coordinator.robotState.supMode = kSupervisedRpm

/-- The supervisor poll takes the waiting mode, and nothing else changes it. -/
theorem supMode_coordinatorStep (s : State) :
    (coordinatorStep s).1.coordinator.robotState.supMode =
      if s.coordinator.pc = .pollSup then
        s.supervisorCmdQueue.items.head?.getD s.coordinator.robotState.supMode
      else s.coordinator.robotState.supMode := by
  simp only [coordinatorStep]
  cases at_pc : s.coordinator.pc with
  | pollSup =>
    simp only [if_true]
    cases taken : s.supervisorCmdQueue.get with
    | some next =>
      rw [MessageQueue.get_eq_some taken]
      simp [Coordinator.receiveSup]
    | none =>
      rw [MessageQueue.get_eq_none_iff.mp taken]
      simp
  | pollRc => dsimp only; split <;> simp [Coordinator.receiveRc, supMode_afterRc]
  | pollCan => dsimp only; split <;> simp [Coordinator.receiveCan, Coordinator.useCan]
  | putMotion purging => dsimp only; split <;> simp
  | putState purging => dsimp only; split <;> simp

/-- A step under the host's protocol keeps the mode a known one. -/
theorem knownMode_step {s : State} {event : Event}
    (known : KnownMode s.coordinator.robotState.supMode) (host : HostKeepsProtocol s event) :
    KnownMode (step s event).1.coordinator.robotState.supMode := by
  rcases step_coordinator s event with same | ⟨rfl, -⟩
  · exact same ▸ known
  · change KnownMode (coordinatorStep s).1.coordinator.robotState.supMode
    rw [supMode_coordinatorStep]
    split
    case isTrue at_pc =>
      cases waiting : s.supervisorCmdQueue.items with
      | nil => exact known
      | cons mode rest => exact host.mode rfl at_pc mode (by rw [waiting]; exact List.mem_cons_self ..)
    case isFalse => exact known

/-- A put of the RX thread is selected exactly when its frame came in the right mode. -/
theorem output_selectedBy_iff (rx : RxThread) (clock : Clock) (mode : SupervisedMode) :
    (rx.job.output clock).SelectedBy mode ↔
      (rx.frame.id = pwmCmdCanId → mode = kSupervisedPwm) ∧
        (rx.frame.id = motorCmdCanId → mode = kSupervisedRpm) := by
  obtain ⟨frame, job, decoded, purging⟩ := rx
  simp only [rxJob?, decodeCanMessage] at decoded
  split_ifs at decoded with sup pwm motor motion
  all_goals first | contradiction | obtain rfl := Option.some.inj decoded
  · simp only [dispatch, RxJob.output, Output.SelectedBy, sup, true_iff]
    exact ⟨fun same => absurd same (by decide), fun same => absurd same (by decide)⟩
  · simp only [dispatch, RxJob.output, Output.SelectedBy, pwm, forall_const]
    exact (and_iff_left_of_imp fun _ same => absurd same (by decide)).symm
  · simp only [dispatch, RxJob.output, Output.SelectedBy, motor, forall_const]
    exact (and_iff_right_of_imp fun _ same => absurd same (by decide)).symm
  · simp only [dispatch, RxJob.output, Output.SelectedBy, motion, true_iff]
    exact ⟨fun same => absurd same (by decide), fun same => absurd same (by decide)⟩

private theorem hostKeepsProtocol_of_arbitrated {events : List Event} (law : Arbitrated events)
    {s : State} {event : Event} (member : (s, event) ∈ machine.steps events) :
    HostKeepsProtocol s event := by
  have frames : event = .messengerRx → ∀ rx, s.messengerRx = some rx → rx.Puts s →
      (rx.frame.id = pwmCmdCanId → s.coordinator.robotState.supMode = kSupervisedPwm) ∧
        (rx.frame.id = motorCmdCanId → s.coordinator.robotState.supMode = kSupervisedRpm) := by
    rintro rfl rx active puts
    refine (output_selectedBy_iff rx s.clock _).mp (law.selected _ member _ ?_)
    exact mem_messengerRxStep.mpr ⟨rx, active, puts, rfl⟩
  refine ⟨?_, fun rx_step rx active puts => (frames rx_step rx active puts).1,
    fun rx_step rx active puts => (frames rx_step rx active puts).2⟩
  rintro rfl at_pc mode waiting
  obtain ⟨before, after, split, rfl⟩ := Machine.mem_steps_iff.mp member
  have next := law.known (before ++ [.coordinator]) after (by simpa using split)
  rw [Machine.run_concat] at next
  change KnownMode (coordinatorStep _).1.coordinator.robotState.supMode at next
  have single := (machine.run before).supervisorCmdQueue.bounded
  rw [supMode_coordinatorStep, if_pos at_pc] at next
  match items : (machine.run before).supervisorCmdQueue.items with
  | [] => rw [items] at waiting; exact absurd waiting List.not_mem_nil
  | [head] =>
    rw [items] at next waiting
    exact List.mem_singleton.mp waiting ▸ next
  | _ :: _ :: _ => rw [items] at single; simp at single

/-- A run obeys the arbitration law exactly when the host keeps the protocol at every step. -/
theorem arbitrated_iff (events : List Event) :
    Arbitrated events ↔ ∀ step ∈ machine.steps events, HostKeepsProtocol step.1 step.2 := by
  constructor
  · exact fun law step member => hostKeepsProtocol_of_arbitrated law member
  · intro host
    refine ⟨?_, ?_⟩
    · rintro before after rfl
      refine Machine.guarded_run (m := machine) (fun s => KnownMode s.coordinator.robotState.supMode)
        HostKeepsProtocol (.inl rfl) (fun s event known keeps => knownMode_step known keeps)
        (fun step member => host step ?_)
      rw [Machine.steps, Machine.stepsFrom_append]
      exact List.mem_append_left _ member
    · rintro ⟨s, event⟩ member output emitted
      cases output with
      | motion motion =>
        obtain ⟨-, ⟨purging, at_pc⟩, -⟩ := motion_mem_step emitted
        exact (sendsSafely_of_mem_steps member purging at_pc).1
      | actuatorCmd cmd =>
        obtain ⟨rfl, rx, active, puts, same⟩ :=
          (mem_step_rx (by simp) (by simp) (by simp)).mp emitted
        exact same ▸ (output_selectedBy_iff rx _ _).mpr ⟨(host _ member).pwm rfl rx active puts,
          (host _ member).motor rfl rx active puts⟩
      | desiredRpm rpm =>
        obtain ⟨rfl, rx, active, puts, same⟩ :=
          (mem_step_rx (by simp) (by simp) (by simp)).mp emitted
        exact same ▸ (output_selectedBy_iff rx _ _).mpr ⟨(host _ member).pwm rfl rx active puts,
          (host _ member).motor rfl rx active puts⟩
      | _ => trivial

/-- A supervisor frame with the unknown mode 7, taken by the coordinator's first iteration. -/
def unknownMode : List Event :=
  [.canFrame ⟨0x100, .standard, .dataFrame, 1, #v[7, 0, 0, 0, 0, 0, 0, 0]⟩, .messengerRx,
    .coordinator, .coordinator, .coordinator]

/-- A PWM frame in mode none. -/
def unselectedPwm : List Event :=
  [.canFrame ⟨0x101, .standard, .dataFrame, 2, #v[20, 20, 0, 0, 0, 0, 0, 0]⟩, .messengerRx]

/-- The unknown mode becomes the coordinator's mode, and the PWM frame commands the motors unselected:
either breaks the law. -/
theorem unknownMode_not_arbitrated : ¬ Arbitrated unknownMode ∧ ¬ Arbitrated unselectedPwm := by
  constructor
  · intro law
    exact absurd (law.known unknownMode [] rfl) (by decide +kernel)
  · intro law
    exact absurd law.selected (by decide +kernel)

end Robofw.Model.Tbot
