import Robofw.Model.TbotFeedback

/-! # The steps of the TBot's feedback path

What a step of the messenger and the speed control does to the locals of the speed control, to the
feedback on its way and to the outputs, for every event at once.
-/

namespace Robofw.Model.Speed

open Robofw.Core Robofw.Model.Tbot
open Robofw.Model.Encoder (EstimatedSpeed)

variable {s : State}

/-- The estimate that a step receives from the encoder. -/
def receivedEstimate (step : State × Event) : Option EstimatedSpeed :=
  if step.2 = .speedControl ∧ step.1.speedControl.pc = .pollEncoder then
    step.1.encoderRpmQueue.get.map Prod.fst
  else none

/-- The wheel target that a step receives. -/
def receivedTarget (step : State × Event) : Option SourcedRpm :=
  if step.2 = .speedControl ∧ step.1.speedControl.pc = .pollRpm then
    step.1.desiredRpmQueue.get.map Prod.fst
  else none

/-- The other threads leave the speed control and its feedback alone, and emit nothing. -/
theorem step_other (uplink : Uplink) (s : State) {event : Event} (control : event ≠ .speedControl)
    (transmit : event ≠ .messengerTx) :
    (step uplink s event).1.speedControl = s.speedControl ∧
      (step uplink s event).1.feedbackQueue = s.feedbackQueue ∧ (step uplink s event).2 = [] := by
  cases event with
  | speedControl => exact absurd rfl control
  | messengerTx => exact absurd rfl transmit
  | canFrame frame =>
    simp only [step]
    split
    · split <;> exact ⟨rfl, rfl, rfl⟩
    · exact ⟨rfl, rfl, rfl⟩
  | messengerRx =>
    refine ⟨?_, ?_, rfl⟩
    all_goals
      simp only [step, messengerRxStep]
      split
      · rfl
      · split <;> rfl
  | _ => exact ⟨rfl, rfl, rfl⟩

/-- The TX thread leaves the locals alone, takes from its queues and sends what it took. -/
theorem step_messengerTx (uplink : Uplink) (s : State) :
    (step uplink s .messengerTx).1.speedControl = s.speedControl ∧
      (∀ feedback ∈ (step uplink s .messengerTx).1.feedbackQueue.items,
        feedback ∈ s.feedbackQueue.items) ∧
      ∀ output ∈ (step uplink s .messengerTx).2,
        (∃ feedback ∈ s.feedbackQueue.items, output ∈ sendFeedback uplink feedback) ∨
          ∃ supMode, output ∈ sendData uplink (.supervisedStateData supMode) none := by
  change (messengerTxStep uplink s).1.speedControl = _ ∧
    (∀ feedback ∈ (messengerTxStep uplink s).1.feedbackQueue.items, _) ∧
      ∀ output ∈ (messengerTxStep uplink s).2, _
  unfold messengerTxStep
  cases s.messengerTx with
  | pollFeedback =>
    dsimp only
    split
    case h_1 feedback queue taken =>
      have items := MessageQueue.get_eq_some taken
      refine ⟨rfl, fun other member => items ▸ List.mem_cons_of_mem _ member, fun output sent => ?_⟩
      exact .inl ⟨feedback, items ▸ List.mem_cons_self .., sent⟩
    case h_2 => exact ⟨rfl, fun _ member => member, fun _ sent => absurd sent List.not_mem_nil⟩
  | pollState =>
    dsimp only
    split
    case h_1 state queue taken =>
      exact ⟨rfl, fun _ member => member, fun _ sent => .inr ⟨state.supMode, sent⟩⟩
    case h_2 => exact ⟨rfl, fun _ member => member, fun _ sent => absurd sent List.not_mem_nil⟩

/-- Only the speed control changes its locals. -/
theorem speedControl_step_other (uplink : Uplink) (s : State) {event : Event}
    (other : event ≠ .speedControl) : (step uplink s event).1.speedControl = s.speedControl := by
  rcases eq_or_ne event .messengerTx with rfl | transmit
  · exact (step_messengerTx uplink s).1
  · exact (step_other uplink s other transmit).1

/-- The locals change only by what the loop receives. -/
theorem feedback_step (uplink : Uplink) (s : State) (event : Event) :
    (step uplink s event).1.speedControl.feedback =
      ⟨(receivedTarget (s, event)).getD s.speedControl.targetRpm,
        (receivedEstimate (s, event)).elim s.speedControl.measuredRpm
          fun estimate => ⟨some estimate.rawRpms, estimate.filteredRpms⟩⟩ := by
  rcases eq_or_ne event .speedControl with rfl | control
  · change (speedControlStep s).1.speedControl.feedback = _
    simp only [speedControlStep, receivedTarget, receivedEstimate, true_and]
    cases s.speedControl.pc with
    | pollEncoder =>
      dsimp only
      cases s.encoderRpmQueue.get <;> rfl
    | pollRpm =>
      dsimp only
      cases s.desiredRpmQueue.get <;> rfl
    | putCmd purging =>
      dsimp only
      split <;> rfl
    | putFeedback purging =>
      dsimp only
      split <;> rfl
  · have idle : receivedTarget (s, event) = none ∧ receivedEstimate (s, event) = none := by
      simp [receivedTarget, receivedEstimate, control]
    rw [idle.1, idle.2, speedControl_step_other uplink s control]
    rfl

/-- Only the locals are put for the TX thread. -/
theorem mem_feedbackQueue_step {uplink : Uplink} {event : Event} {feedback : SpeedControlFeedback}
    (member : feedback ∈ (step uplink s event).1.feedbackQueue.items) :
    feedback ∈ s.feedbackQueue.items ∨
      event = .speedControl ∧ (∃ purging, s.speedControl.pc = .putFeedback purging) ∧
        feedback = s.speedControl.feedback := by
  rcases eq_or_ne event .speedControl with rfl | control
  · change feedback ∈ (speedControlStep s).1.feedbackQueue.items at member
    simp only [speedControlStep] at member
    cases at_pc : s.speedControl.pc with
    | putFeedback purging =>
      simp only [at_pc] at member
      split at member
      case h_1 queue effect =>
        refine (MessageQueue.mem_attempt effect member).imp_right fun own => ?_
        exact ⟨rfl, ⟨purging, rfl⟩, own.2⟩
      case h_2 queue outcome _ effect =>
        refine (MessageQueue.mem_attempt effect member).imp_right fun own => ?_
        exact ⟨rfl, ⟨purging, rfl⟩, own.2⟩
    | _ =>
      simp only [at_pc] at member
      split at member <;> exact .inl member
  · rcases eq_or_ne event .messengerTx with rfl | transmit
    · exact .inl ((step_messengerTx uplink s).2.1 feedback member)
    · rw [(step_other uplink s control transmit).2.1] at member
      exact .inl member

/-- What a step emits: the locals are published, a feedback is sent, or a state is. -/
theorem mem_step {uplink : Uplink} {event : Event} {output : Output}
    (emitted : output ∈ (step uplink s event).2) :
    (event = .speedControl ∧ (∃ purging, s.speedControl.pc = .putFeedback purging) ∧
      output = .published s.speedControl.feedback) ∨
      (∃ feedback ∈ s.feedbackQueue.items, output ∈ sendFeedback uplink feedback) ∨
        ∃ supMode, output ∈ sendData uplink (.supervisedStateData supMode) none := by
  rcases eq_or_ne event .speedControl with rfl | control
  · change output ∈ (speedControlStep s).2 at emitted
    simp only [speedControlStep] at emitted
    cases at_pc : s.speedControl.pc with
    | putFeedback purging =>
      simp only [at_pc] at emitted
      split at emitted
      · exact .inl ⟨rfl, ⟨purging, rfl⟩, List.mem_singleton.mp emitted⟩
      · exact absurd emitted List.not_mem_nil
    | _ =>
      simp only [at_pc] at emitted
      split at emitted <;> exact absurd emitted List.not_mem_nil
  · rcases eq_or_ne event .messengerTx with rfl | transmit
    · exact .inr ((step_messengerTx uplink s).2.2 output emitted)
    · rw [(step_other uplink s control transmit).2.2] at emitted
      exact absurd emitted List.not_mem_nil

theorem targetRpm_step (uplink : Uplink) (s : State) (event : Event) :
    (step uplink s event).1.speedControl.targetRpm =
      (receivedTarget (s, event)).getD s.speedControl.targetRpm :=
  congrArg (·.targetSpeed) (feedback_step uplink s event)

/-- The raw speeds are defined from the first estimate on. -/
theorem rawRpms_step (uplink : Uplink) (s : State) (event : Event) :
    (step uplink s event).1.speedControl.measuredRpm.rawRpms =
      (receivedEstimate (s, event)).elim s.speedControl.measuredRpm.rawRpms
        fun estimate => some estimate.rawRpms := by
  have locals := congrArg (·.measuredSpeed.rawRpms) (feedback_step uplink s event)
  apply locals.trans
  cases receivedEstimate (s, event) <;> rfl

end Robofw.Model.Speed
