import Robofw.Core.Observation
import Robofw.Model.TbotSystem

/-! # What one step of the whole TBot can do

`MotionControlMove`, `SpeedControlMove` and `MessengerTxMove` list what the threads of the motion control,
the speed control and the messenger's TX loop do to the whole robot. The invariants and the refinements of
the robot are derived from these lists.
-/

namespace Robofw.Model.Tbot

open Robofw.Core
open Robofw.Model.Encoder (EstimatedSpeed)
open Robofw.Model.Motion (FittingMotion motionStep targetRpm)

variable {s : System}

/-- An undefined conversion has ended the run. -/
theorem step_undefined {conf : TbotActuators.TbotActuatorConf} {uplink : Uplink} {event : SystemEvent}
    (undefined : s.undefined = true) : s.step conf uplink event = (s, []) := if_pos undefined

/-- Until then every thread acts. -/
theorem step_defined {conf : TbotActuators.TbotActuatorConf} {uplink : Uplink} {event : SystemEvent}
    (defined : s.undefined = false) : s.step conf uplink event = s.act conf uplink event :=
  if_neg (by simp [defined])

/-- A message is read without its stamp. -/
theorem map_stamped {α τ : Type*} {capacity : ℕ} (stamp : τ) (queue : MessageQueue α capacity) :
    (queue.map fun message => Stamped.mk message stamp).map Stamped.val = queue :=
  MessageQueue.map_map_of_leftInverse (fun _ => rfl) queue

/-- What the RX thread does with its frame: a call of the put-or-purge loop of its case. -/
inductive MessengerRxMove (s : State) : State × List Output → Prop
  | idle : s.messengerRx = none → MessengerRxMove s (s, [])
  | supervisorCmd (rx : RxThread) (mode : SupervisedMode) (queue : MessageQueue SupervisedMode 1)
      (outcome : Attempt) : s.messengerRx = some rx → rx.job = .supervisorCmd mode →
      s.supervisorCmdQueue.attempt rx.purging mode = (queue, outcome) →
      MessengerRxMove s
        ({ s with supervisorCmdQueue := queue, messengerRx := rx.next outcome },
          if outcome = .done then [.supervisorCmd mode] else [])
  | actuatorCmd (rx : RxThread) (cmd : ActuatorCmd) (queue : MessageQueue ActuatorCmd 16)
      (outcome : Attempt) : s.messengerRx = some rx → rx.job = .actuatorCmd cmd →
      s.actuatorDataQueue.attempt rx.purging cmd = (queue, outcome) →
      MessengerRxMove s
        ({ s with actuatorDataQueue := queue, messengerRx := rx.next outcome },
          if outcome = .done then [.actuatorCmd cmd] else [])
  | desiredRpm (rx : RxThread) (rpm : DesiredRpm) (queue : MessageQueue DesiredRpm 1)
      (outcome : Attempt) : s.messengerRx = some rx → rx.job = .desiredRpm rpm →
      s.desiredRpmQueue.attempt rx.purging rpm = (queue, outcome) →
      MessengerRxMove s
        ({ s with desiredRpmQueue := queue, messengerRx := rx.next outcome },
          if outcome = .done then [.desiredRpm rpm] else [])
  | desiredMotion (rx : RxThread) (motion : DesiredMotion) (queue : MessageQueue TimedMotion 1)
      (outcome : Attempt) : s.messengerRx = some rx → rx.job = .desiredMotion motion →
      s.canDesiredMotionQueue.attempt rx.purging ⟨motion, s.clock⟩ = (queue, outcome) →
      MessengerRxMove s
        ({ s with canDesiredMotionQueue := queue, messengerRx := rx.next outcome },
          if outcome = .done then [.canMotion ⟨motion, s.clock⟩] else [])

theorem messengerRxStep_move (s : State) : MessengerRxMove s (messengerRxStep s) := by
  unfold messengerRxStep
  split
  case h_1 idle => exact .idle idle
  case h_2 rx running =>
    split
    case h_1 mode job => exact .supervisorCmd rx mode _ _ running job rfl
    case h_2 cmd job => exact .actuatorCmd rx cmd _ _ running job rfl
    case h_3 rpm job => exact .desiredRpm rx rpm _ _ running job rfl
    case h_4 motion job => exact .desiredMotion rx motion _ _ running job rfl

/-- What the motion control does: it waits, takes a motion, or makes a call of its put-or-purge loop. -/
inductive MotionControlMove (s : System) : System × List SystemOutput → Prop
  | idle : s.motionControl.putting = none → s.services.desiredMotionQueue.get = none →
      MotionControlMove s (s, [])
  | undefined (motion : DesiredMotion) (queue : MessageQueue DesiredMotion 1) :
      s.motionControl.putting = none → s.services.desiredMotionQueue.get = some (motion, queue) →
      targetRpm motion = none →
      MotionControlMove s
        ({ s with services := { s.services with desiredMotionQueue := queue }, undefined := true },
          [.undefinedTarget motion])
  | take (message : FittingMotion) (queue : MessageQueue DesiredMotion 1) :
      s.motionControl.putting = none →
      s.services.desiredMotionQueue.get = some (message.motion, queue) →
      MotionControlMove s
        ({ s with
            services := { s.services with desiredMotionQueue := queue }
            motionControl := ⟨(motionStep s.motionControl.prevTargetRpm message).1, some false⟩ }, [])
  | put (queue : MessageQueue DesiredRpm 1) : s.motionControl.putting = some false →
      s.services.desiredRpmQueue.put s.motionControl.prevTargetRpm = some queue →
      MotionControlMove s
        ({ s with
            services := { s.services with desiredRpmQueue := queue }
            rpmSource := none
            motionControl := { s.motionControl with putting := none } },
          [.target s.motionControl.prevTargetRpm])
  | full : s.motionControl.putting = some false →
      s.services.desiredRpmQueue.put s.motionControl.prevTargetRpm = none →
      MotionControlMove s ({ s with motionControl := { s.motionControl with putting := some true } }, [])
  | purge : s.motionControl.putting = some true →
      MotionControlMove s
        ({ s with
            services := { s.services with desiredRpmQueue := .empty }
            motionControl := { s.motionControl with putting := some false } }, [])

theorem motionControlStep_move (s : System) : MotionControlMove s s.motionControlStep := by
  simp only [System.motionControlStep]
  split
  case h_1 at_pc =>
    split
    case h_1 taken => exact .idle at_pc taken
    case h_2 motion queue taken =>
      split
      case h_1 fits => exact .undefined motion queue at_pc taken fits
      case h_2 target fits => exact .take ⟨motion, target, fits⟩ queue at_pc taken
  case h_2 purging at_pc =>
    cases purging with
    | true => exact .purge at_pc
    | false =>
      simp only [MessageQueue.attempt, Bool.false_eq_true, if_false]
      cases success : s.services.desiredRpmQueue.put s.motionControl.prevTargetRpm with
      | some queue => exact .put queue at_pc success
      | none => exact .full at_pc success

end Robofw.Model.Tbot

namespace Robofw.Model.Speed

open Robofw.Core Robofw.Model.Tbot
open Robofw.Model.Encoder (EstimatedSpeed)

/-- What the speed control does: it polls the encoder and the wheel targets, and makes a call of one of its
two put-or-purge loops. -/
inductive SpeedControlMove (s : State) : State × List Output → Prop
  | estimate (estimate : EstimatedSpeed) (queue : MessageQueue EstimatedSpeed 1) :
      s.speedControl.pc = .pollEncoder → s.encoderRpmQueue.get = some (estimate, queue) →
      SpeedControlMove s
        ({ s with
            encoderRpmQueue := queue
            speedControl := s.speedControl.afterEncoder (some estimate) }, [])
  | noEstimate : s.speedControl.pc = .pollEncoder → s.encoderRpmQueue.get = none →
      SpeedControlMove s ({ s with speedControl := s.speedControl.afterEncoder none }, [])
  | target (target : SourcedRpm) (queue : MessageQueue SourcedRpm 1) :
      s.speedControl.pc = .pollRpm → s.desiredRpmQueue.get = some (target, queue) →
      SpeedControlMove s
        ({ s with
            desiredRpmQueue := queue
            speedControl := s.speedControl.afterRpm (some target) }, [])
  | noTarget : s.speedControl.pc = .pollRpm → s.desiredRpmQueue.get = none →
      SpeedControlMove s ({ s with speedControl := s.speedControl.afterRpm none }, [])
  | putCmd (queue : MessageQueue ActuatorCmd 16) : s.speedControl.pc = .putCmd false →
      s.actuatorDataQueue.put s.speedControl.actuatorCmd = some queue →
      SpeedControlMove s
        ({ s with
            actuatorDataQueue := queue
            speedControl := { s.speedControl with pc := .putFeedback false } }, [])
  | cmdFull : s.speedControl.pc = .putCmd false →
      s.actuatorDataQueue.put s.speedControl.actuatorCmd = none →
      SpeedControlMove s ({ s with speedControl := { s.speedControl with pc := .putCmd true } }, [])
  | cmdPurge : s.speedControl.pc = .putCmd true →
      SpeedControlMove s
        ({ s with
            actuatorDataQueue := .empty
            speedControl := { s.speedControl with pc := .putCmd false } }, [])
  | putFeedback (queue : MessageQueue SpeedControlFeedback 1) :
      s.speedControl.pc = .putFeedback false →
      s.feedbackQueue.put s.speedControl.feedback = some queue →
      SpeedControlMove s
        ({ s with
            feedbackQueue := queue
            speedControl := { s.speedControl with pc := .pollEncoder } },
          [.published s.speedControl.feedback])
  | retryFeedback (queue : MessageQueue SpeedControlFeedback 1) (purging retry : Bool) :
      s.speedControl.pc = .putFeedback purging → queue.items.Sublist s.feedbackQueue.items →
      SpeedControlMove s
        ({ s with
            feedbackQueue := queue
            speedControl := { s.speedControl with pc := .putFeedback retry } }, [])

theorem speedControlStep_move (s : State) : SpeedControlMove s (speedControlStep s) := by
  simp only [speedControlStep]
  cases at_pc : s.speedControl.pc with
  | pollEncoder =>
    dsimp only
    split
    · exact .estimate _ _ at_pc ‹_›
    · exact .noEstimate at_pc ‹_›
  | pollRpm =>
    dsimp only
    split
    · exact .target _ _ at_pc ‹_›
    · exact .noTarget at_pc ‹_›
  | putCmd purging =>
    cases purging with
    | true => exact .cmdPurge at_pc
    | false =>
      simp only [MessageQueue.attempt, Bool.false_eq_true, if_false]
      cases success : s.actuatorDataQueue.put s.speedControl.actuatorCmd with
      | some queue => exact .putCmd queue at_pc success
      | none => exact .cmdFull at_pc success
  | putFeedback purging =>
    cases purging with
    | true => exact .retryFeedback .empty true _ at_pc (List.nil_sublist _)
    | false =>
      simp only [MessageQueue.attempt, Bool.false_eq_true, if_false]
      cases success : s.feedbackQueue.put s.speedControl.feedback with
      | some queue => exact .putFeedback queue at_pc success
      | none => exact .retryFeedback s.feedbackQueue false _ at_pc (List.Sublist.refl _)

/-- What the TX thread does: it polls the feedback and the robot state, and sends what it takes. -/
inductive MessengerTxMove (uplink : Uplink) (s : State) : State × List Output → Prop
  | feedback (feedback : SpeedControlFeedback) (queue : MessageQueue SpeedControlFeedback 1) :
      s.messengerTx = .pollFeedback → s.feedbackQueue.get = some (feedback, queue) →
      MessengerTxMove uplink s ({ s with feedbackQueue := queue }, sendFeedback uplink feedback)
  | state (state : RobotState) (queue : MessageQueue RobotState 1) :
      s.messengerTx = .pollState → s.robotStateQueue.get = some (state, queue) →
      MessengerTxMove uplink s
        ({ s with robotStateQueue := queue }, sendData uplink (.supervisedStateData state.supMode) none)
  | noFeedback : s.messengerTx = .pollFeedback → s.feedbackQueue.get = none →
      MessengerTxMove uplink s ({ s with messengerTx := .pollState }, [])
  | noState : s.messengerTx = .pollState → s.robotStateQueue.get = none →
      MessengerTxMove uplink s ({ s with messengerTx := .pollFeedback }, [])

theorem messengerTxStep_move (uplink : Uplink) (s : State) :
    MessengerTxMove uplink s (messengerTxStep uplink s) := by
  unfold messengerTxStep
  split
  case h_1 at_pc =>
    split
    · exact .feedback _ _ at_pc ‹_›
    · exact .noFeedback at_pc ‹_›
  case h_2 at_pc =>
    split
    · exact .state _ _ at_pc ‹_›
    · exact .noState at_pc ‹_›

end Robofw.Model.Speed

namespace Robofw.Model.Tbot

open Robofw.Core
open Robofw.Model.TbotActuators (PinCall TbotActuatorConf processCmd)

variable {conf : TbotActuatorConf} {uplink : Uplink} {s : System}

/-- What the actuators do: they wait, take a command, or make a call for the one they took. -/
inductive ActuatorMove (conf : TbotActuatorConf) (s : System) : System × List SystemOutput → Prop
  | idle : s.pinCalls = [] → s.services.actuatorDataQueue.get = none → ActuatorMove conf s (s, [])
  | take (cmd : ActuatorCmd) (queue : MessageQueue ActuatorCmd 16) : s.pinCalls = [] →
      s.services.actuatorDataQueue.get = some (cmd, queue) →
      ActuatorMove conf s
        ({ s with
            services := { s.services with actuatorDataQueue := queue }
            pinCalls := processCmd cmd }, [.driven cmd])
  | write (call : PinCall) (rest : List PinCall) : s.pinCalls = call :: rest →
      ActuatorMove conf s ({ s with pins := call.apply conf s.pins, pinCalls := rest }, [])

theorem actuatorStep_move (conf : TbotActuatorConf) (s : System) :
    ActuatorMove conf s (s.actuatorStep conf) := by
  unfold System.actuatorStep
  split
  case h_1 made =>
    split
    case h_1 taken => exact .idle made taken
    case h_2 cmd queue taken => exact .take cmd queue made taken
  case h_2 call rest left => exact .write call rest left

/-- The thread that puts out a message of the robot's own. -/
def SystemOutput.sender? : SystemOutput → Option SystemEvent
  | .services _ => none
  | .feedback (.published _) => some .speedControl
  | .feedback _ => some .messengerTx
  | .target _ => some .motionControl
  | .command _ => some .speedControl
  | .driven _ => some .actuator
  | .undefinedTarget _ => some .motionControl

theorem sender?_motionControl {output : SystemOutput} (emitted : output ∈ s.motionControlStep.2) :
    output.sender? = some .motionControl := by
  have move := motionControlStep_move s
  generalize s.motionControlStep = answer at move emitted
  cases move with
  | undefined motion => obtain rfl := List.mem_singleton.mp emitted; rfl
  | put queue => obtain rfl := List.mem_singleton.mp emitted; rfl
  | _ => exact absurd emitted List.not_mem_nil

theorem sender?_speedControl {output : SystemOutput} (emitted : output ∈ s.speedControlStep.2) :
    output.sender? = some .speedControl := by
  have ofPut {put : Bool} {cmd : ActuatorCmd}
      (member : output ∈ if put then [SystemOutput.command cmd] else []) : output = .command cmd := by
    cases put with
    | true => exact List.mem_singleton.mp member
    | false => exact absurd member List.not_mem_nil
  have move := Speed.speedControlStep_move s.speed
  unfold System.speedControlStep at emitted
  generalize Speed.speedControlStep s.speed = answer at move emitted
  rcases List.mem_append.mp emitted with command | published
  · rw [ofPut command]
    rfl
  · obtain ⟨shown, member, rfl⟩ := List.mem_map.mp published
    cases move with
    | putFeedback queue => obtain rfl := List.mem_singleton.mp member; rfl
    | _ => exact absurd member List.not_mem_nil

theorem sender?_sendData {uplink : Uplink} {msg : FeedbackMsg} {source : Option ZcanFrame}
    {shown : Speed.Output} (sent : shown ∈ Speed.sendData uplink msg source) :
    (SystemOutput.feedback shown).sender? = some .messengerTx := by
  unfold Speed.sendData at sent
  rw [Option.mem_toList] at sent
  obtain ⟨frame, -, rfl⟩ := Option.map_eq_some_iff.mp sent
  rfl

theorem sender?_sendFeedback {uplink : Uplink} {feedback : Speed.SpeedControlFeedback}
    {shown : Speed.Output} (sent : shown ∈ Speed.sendFeedback uplink feedback) :
    (SystemOutput.feedback shown).sender? = some .messengerTx := by
  simp only [Speed.sendFeedback, List.mem_append] at sent
  rcases sent with (raw | filtered) | target
  · unfold Speed.sendRaw at raw
    split at raw
    · exact sender?_sendData raw
    · split at raw
      · obtain rfl := List.mem_singleton.mp raw; rfl
      · exact absurd raw List.not_mem_nil
  · exact sender?_sendData filtered
  · exact sender?_sendData target

theorem sender?_messengerTx {output : SystemOutput} (emitted : output ∈ (s.messengerTxStep uplink).2) :
    output.sender? = some .messengerTx := by
  have move := Speed.messengerTxStep_move uplink s.speed
  unfold System.messengerTxStep at emitted
  generalize Speed.messengerTxStep uplink s.speed = answer at move emitted
  obtain ⟨shown, member, rfl⟩ := List.mem_map.mp emitted
  cases move with
  | feedback feedback queue => exact sender?_sendFeedback member
  | state state queue => exact sender?_sendData member
  | noFeedback => exact absurd member List.not_mem_nil
  | noState => exact absurd member List.not_mem_nil

theorem sender?_actuator {output : SystemOutput} (emitted : output ∈ (s.actuatorStep conf).2) :
    output.sender? = some .actuator := by
  have move := actuatorStep_move conf s
  generalize s.actuatorStep conf = answer at move emitted
  cases move with
  | take cmd queue => obtain rfl := List.mem_singleton.mp emitted; rfl
  | _ => exact absurd emitted List.not_mem_nil

/-- Every output that is not of the services comes from its own thread. -/
theorem sender?_of_mem {event : SystemEvent} {output : SystemOutput}
    (emitted : output ∈ (s.step conf uplink event).2) :
    output.sender? = none ∨ output.sender? = some event := by
  have ofServices (outputs : List Output) (member : output ∈ outputs.map SystemOutput.services) :
      output.sender? = none := by
    obtain ⟨shown, -, rfl⟩ := List.mem_map.mp member
    rfl
  unfold System.step at emitted
  split at emitted
  · exact absurd emitted List.not_mem_nil
  cases event with
  | motionControl => exact .inr (sender?_motionControl emitted)
  | speedControl => exact .inr (sender?_speedControl emitted)
  | messengerTx => exact .inr (sender?_messengerTx emitted)
  | actuator => exact .inr (sender?_actuator emitted)
  | messengerRx =>
    refine .inl (ofServices (step s.services .messengerRx).2 ?_)
    simp only [System.act, System.messengerRxStep] at emitted
    split at emitted <;> exact emitted
  | estimate estimate =>
    simp only [System.act] at emitted
    split at emitted <;> exact absurd emitted List.not_mem_nil
  | encoder => exact absurd emitted List.not_mem_nil
  | rcMessage data => exact .inl (ofServices _ emitted)
  | receiver => exact .inl (ofServices _ emitted)
  | canFrame frame => exact .inl (ofServices _ emitted)
  | coordinator => exact .inl (ofServices _ emitted)

end Robofw.Model.Tbot
