import Robofw.Soundness.TbotDrive
import Robofw.Soundness.TbotRefinement

/-! # From the motions of the TBot to its motors

Each thread between the coordinator and the pins takes messages from one queue and puts its own into the
next. A queue loses messages to the purges of its producers, and neither reorders nor repeats them. Between
two queues a thread computes what it would compute with no queues at all: the motion control runs the
limiter over the motions it takes, and the speed control runs its controllers over the estimates and the
targets it takes.
-/

namespace Robofw.Model.Speed

open Robofw.Core Robofw.Model.Tbot

/-- The speed control without its queues: the filtered speeds it knows, and its controllers. -/
structure Controllers where
  filteredRpms : Vector Int32 2
  leftCtrl : PidControllerInstance
  rightCtrl : PidControllerInstance

/-- A message for the controllers. -/
inductive ControlInput where
  | estimate (filteredRpms : Vector Int32 2)
  | target (rpm : DesiredRpm)

/-- Each target is controlled against the last estimate, and each gives one command. -/
def Controllers.step (c : Controllers) : ControlInput → Controllers × List ActuatorCmd
  | .estimate filteredRpms => ({ c with filteredRpms := filteredRpms }, [])
  | .target rpm =>
    let (leftCtrl, left) := updatePidController c.leftCtrl rpm.left.toInt (c.filteredRpms.get 0).toInt
    let (rightCtrl, right) := updatePidController c.rightCtrl rpm.right.toInt (c.filteredRpms.get 1).toInt
    (⟨c.filteredRpms, leftCtrl, rightCtrl⟩, [⟨left / 100, right / 100⟩])

def controllers : Machine Controllers ControlInput ActuatorCmd :=
  ⟨⟨Vector.replicate 2 0, Speed.leftCtrl speedPeriodMs, Speed.rightCtrl speedPeriodMs⟩, Controllers.step⟩

/-- What the loop knows of its controllers. -/
def SpeedControl.controllers (c : SpeedControl) : Controllers :=
  ⟨c.measuredRpm.filteredRpms, c.leftCtrl, c.rightCtrl⟩

/-- The command that the loop has computed and not yet put. -/
def SpeedControl.pending (c : SpeedControl) : List ActuatorCmd :=
  match c.pc with
  | .putCmd _ => [c.actuatorCmd]
  | _ => []

end Robofw.Model.Speed

namespace Robofw.Model.Tbot

open Robofw.Core
open Robofw.Model.Encoder (EstimatedSpeed)
open Robofw.Model.Motion (FittingMotion motionStep targetRpm)
open Robofw.Model.Speed (ControlInput SpeedControlFeedback)
open Robofw.Model.TbotActuators (Pins PinCall TbotActuatorConf applyCalls processCmd initTbotActuators)

/-! ## What goes through the queues -/

/-- A message that a thread takes from its queue. -/
inductive Taken where
  | motion (motion : DesiredMotion)
  | estimate (estimate : EstimatedSpeed)
  | target (rpm : DesiredRpm)
  | command (cmd : ActuatorCmd)
  | feedback (feedback : SpeedControlFeedback)
  | state (state : RobotState)

/-- What the thread of the event takes. -/
def System.takes (s : System) : SystemEvent → List Taken
  | .motionControl =>
    match s.motionControl.putting with
    | none => s.services.desiredMotionQueue.items.head?.toList.map .motion
    | some _ => []
  | .speedControl =>
    match s.speedControl.pc with
    | .pollEncoder => s.encoderRpmQueue.items.head?.toList.map .estimate
    | .pollRpm => s.services.desiredRpmQueue.items.head?.toList.map .target
    | .putCmd _ | .putFeedback _ => []
  | .messengerTx =>
    match s.messengerTx with
    | .pollFeedback => s.feedbackQueue.items.head?.toList.map .feedback
    | .pollState => s.services.robotStateQueue.items.head?.toList.map .state
  | .actuator =>
    match s.pinCalls with
    | [] => s.services.actuatorDataQueue.items.head?.toList.map .command
    | _ :: _ => []
  | _ => []

/-- What a step takes, while the run is defined. -/
def System.taken (s : System) (event : SystemEvent) : List Taken :=
  if s.undefined then [] else s.takes event

namespace Taken

def motion? : Taken → Option DesiredMotion
  | .motion taken => some taken
  | _ => none

def estimate? : Taken → Option EstimatedSpeed
  | .estimate taken => some taken
  | _ => none

def target? : Taken → Option DesiredRpm
  | .target taken => some taken
  | _ => none

def command? : Taken → Option ActuatorCmd
  | .command taken => some taken
  | _ => none

def feedback? : Taken → Option SpeedControlFeedback
  | .feedback taken => some taken
  | _ => none

def state? : Taken → Option RobotState
  | .state taken => some taken
  | _ => none

/-- A motion whose wheel targets fit. -/
def fitting? : Taken → Option FittingMotion
  | .motion taken =>
    match fits : targetRpm taken with
    | some rpm => some ⟨taken, rpm, fits⟩
    | none => none
  | _ => none

/-- A message for the controllers. -/
def control? : Taken → Option ControlInput
  | .estimate taken => some (.estimate taken.filteredRpms)
  | .target taken => some (.target taken)
  | _ => none

end Taken

namespace SystemOutput

/-- A motion put by the coordinator. -/
def motion? : SystemOutput → Option DesiredMotion
  | .services (.motion motion) => some motion.val
  | _ => none

/-- A wheel target put by the motion control. -/
def ownTarget? : SystemOutput → Option DesiredRpm
  | .target rpm => some rpm
  | _ => none

/-- A wheel target put by the motion control or the RX thread. -/
def target? : SystemOutput → Option DesiredRpm
  | .services (.desiredRpm rpm) => some rpm
  | .target rpm => some rpm
  | _ => none

/-- A command put by the speed control. -/
def ownCommand? : SystemOutput → Option ActuatorCmd
  | .command cmd => some cmd
  | _ => none

/-- A command put by the speed control or the RX thread. -/
def command? : SystemOutput → Option ActuatorCmd
  | .services (.actuatorCmd cmd) => some cmd
  | .command cmd => some cmd
  | _ => none

/-- A command that the actuators carry out. -/
def driven? : SystemOutput → Option ActuatorCmd
  | .driven cmd => some cmd
  | _ => none

/-- A robot state put by the coordinator. -/
def state? : SystemOutput → Option RobotState
  | .services (.robotState state) => some state
  | _ => none

/-- A feedback put by the speed control. -/
def published? : SystemOutput → Option SpeedControlFeedback
  | .feedback (.published message) => some message
  | _ => none

/-- A message of the TX thread. -/
def sent? : SystemOutput → Option Speed.Output
  | .feedback (.published _) => none
  | .feedback message => some message
  | _ => none

end SystemOutput

/-- What the TX thread sends for what it takes. -/
def Taken.reported (uplink : Uplink) : Taken → List Speed.Output
  | .feedback taken => Speed.sendFeedback uplink taken
  | .state taken => Speed.sendData uplink (.supervisedStateData taken.supMode) none
  | _ => []

/-- The outputs of one kind in a step. -/
def System.shown {α : Type*} (conf : TbotActuatorConf) (uplink : Uplink) (part : SystemOutput → Option α)
    (s : System) (event : SystemEvent) : List α := (s.step conf uplink event).2.filterMap part

def SystemEvent.estimate? : SystemEvent → Option EstimatedSpeed
  | .estimate arrived => some arrived
  | _ => none

/-- The estimates between the encoder and the speed control. -/
def System.estimates (s : System) : List EstimatedSpeed :=
  s.encoderRpmQueue.items ++ (s.encoder.map Prod.fst).toList

/-- What a step takes from each queue and puts into it. -/
structure Transport (s : System) (event : SystemEvent) (taken : List Taken)
    (answer : System × List SystemOutput) : Prop where
  motions : s.services.desiredMotionQueue.Delivers answer.1.services.desiredMotionQueue
    (answer.2.filterMap SystemOutput.motion?) (taken.filterMap Taken.motion?)
  estimates : (taken.filterMap Taken.estimate? ++ answer.1.estimates).Sublist
    (s.estimates ++ event.estimate?.toList)
  targets : s.services.desiredRpmQueue.Delivers answer.1.services.desiredRpmQueue
    (answer.2.filterMap SystemOutput.target?) (taken.filterMap Taken.target?)
  commands : s.services.actuatorDataQueue.Delivers answer.1.services.actuatorDataQueue
    (answer.2.filterMap SystemOutput.command?) (taken.filterMap Taken.command?)
  feedback : s.feedbackQueue.Delivers answer.1.feedbackQueue
    (answer.2.filterMap SystemOutput.published?) (taken.filterMap Taken.feedback?)
  states : s.services.robotStateQueue.Delivers answer.1.services.robotStateQueue
    (answer.2.filterMap SystemOutput.state?) (taken.filterMap Taken.state?)

variable {conf : TbotActuatorConf} {uplink : Uplink} {s : System} {event : SystemEvent}

open MessageQueue (Delivers)

/-- A step that leaves all queues alone. -/
theorem Transport.refl (s : System) (event : SystemEvent) (outputs : List SystemOutput) :
    Transport s event [] (s, outputs) :=
  ⟨.refl _ _, List.sublist_append_left _ _, .refl _ _, .refl _ _, .refl _ _, .refl _ _⟩

/-- The motion control takes a motion and puts a target. -/
theorem transport_motionControl (s : System) :
    Transport s .motionControl (s.takes .motionControl) s.motionControlStep := by
  have move := motionControlStep_move s
  generalize s.motionControlStep = answer at move ⊢
  simp only [System.takes]
  cases move with
  | idle at_pc taken =>
    rw [at_pc, MessageQueue.get_eq_none_iff.mp taken]
    exact .refl s _ _
  | undefined motion queue at_pc taken =>
    rw [at_pc, MessageQueue.get_eq_some taken]
    exact ⟨.get taken _, List.sublist_append_left _ _, .refl _ _, .refl _ _, .refl _ _, .refl _ _⟩
  | take message queue at_pc taken =>
    rw [at_pc, MessageQueue.get_eq_some taken]
    exact ⟨.get taken _, List.sublist_append_left _ _, .refl _ _, .refl _ _, .refl _ _, .refl _ _⟩
  | put queue at_pc success =>
    rw [at_pc]
    exact ⟨.refl _ _, List.sublist_append_left _ _, .put success, .refl _ _, .refl _ _, .refl _ _⟩
  | full at_pc full =>
    rw [at_pc]
    exact ⟨.refl _ _, List.sublist_append_left _ _, .refl _ _, .refl _ _, .refl _ _, .refl _ _⟩
  | purge at_pc =>
    rw [at_pc]
    exact ⟨.refl _ _, List.sublist_append_left _ _, .purge _ _, .refl _ _, .refl _ _, .refl _ _⟩

/-- A target is taken without its stamp. -/
theorem get_stamped {α τ : Type*} {capacity : ℕ} {stamp : τ} {queue : MessageQueue α capacity}
    {message : Stamped α τ} {rest : MessageQueue (Stamped α τ) capacity}
    (taken : (queue.map fun message => Stamped.mk message stamp).get = some (message, rest)) :
    queue.get = some (message.val, rest.map Stamped.val) := by
  rw [MessageQueue.get_map] at taken
  obtain ⟨⟨first, left⟩, get, same⟩ := Option.map_eq_some_iff.mp taken
  obtain ⟨rfl, rfl⟩ := Prod.mk.inj same
  rw [get, map_stamped]

/-- The speed control takes estimates and targets, and puts commands and feedbacks. -/
theorem transport_speedControl (s : System) :
    Transport s .speedControl (s.takes .speedControl) s.speedControlStep := by
  have move := Speed.speedControlStep_move s.speed
  have view : s.speed.speedControl = s.speedControl := rfl
  have targets (puts : List DesiredRpm) : s.services.desiredRpmQueue.Delivers
      (s.speed.desiredRpmQueue.map Stamped.val) puts [] := by
    have same : s.speed.desiredRpmQueue.map Stamped.val = s.services.desiredRpmQueue :=
      map_stamped s.rpmSource s.services.desiredRpmQueue
    rw [same]
    exact .refl _ _
  simp only [System.takes]
  unfold System.speedControlStep
  generalize Speed.speedControlStep s.speed = answer at move ⊢
  cases move with
  | estimate estimate queue at_pc taken =>
    rw [view] at at_pc
    have items : s.encoderRpmQueue.items = estimate :: queue.items := MessageQueue.get_eq_some taken
    rw [at_pc, items]
    have before : s.estimates = estimate :: (queue.items ++ (s.encoder.map Prod.fst).toList) := by
      rw [System.estimates, items]
      rfl
    refine ⟨.refl _ _, ?_, targets _, .refl _ _, .refl _ _, .refl _ _⟩
    rw [before]
    exact List.sublist_append_left _ _
  | noEstimate at_pc taken =>
    rw [view] at at_pc
    have items : s.encoderRpmQueue.items = [] := MessageQueue.get_eq_none_iff.mp taken
    rw [at_pc, items]
    exact ⟨.refl _ _, List.sublist_append_left _ _, targets _, .refl _ _, .refl _ _, .refl _ _⟩
  | target target queue at_pc taken =>
    rw [view] at at_pc
    have get : s.services.desiredRpmQueue.get = some (target.val, queue.map Stamped.val) :=
      get_stamped taken
    rw [at_pc, MessageQueue.get_eq_some get]
    exact ⟨.refl _ _, List.sublist_append_left _ _, .get get _, .refl _ _, .refl _ _, .refl _ _⟩
  | noTarget at_pc taken =>
    rw [view] at at_pc
    have items : s.services.desiredRpmQueue.items = [] :=
      List.map_eq_nil_iff.mp (MessageQueue.get_eq_none_iff.mp taken)
    rw [at_pc, items]
    exact ⟨.refl _ _, List.sublist_append_left _ _, targets _, .refl _ _, .refl _ _, .refl _ _⟩
  | putCmd queue at_pc success =>
    rw [view] at at_pc
    rw [at_pc]
    exact ⟨.refl _ _, List.sublist_append_left _ _, targets _, .put success, .refl _ _, .refl _ _⟩
  | cmdFull at_pc full =>
    rw [view] at at_pc
    rw [at_pc]
    exact ⟨.refl _ _, List.sublist_append_left _ _, targets _, .refl _ _, .refl _ _, .refl _ _⟩
  | cmdPurge at_pc =>
    rw [view] at at_pc
    rw [at_pc]
    exact ⟨.refl _ _, List.sublist_append_left _ _, targets _, .purge _ _, .refl _ _, .refl _ _⟩
  | putFeedback queue at_pc success =>
    rw [view] at at_pc
    rw [at_pc]
    exact ⟨.refl _ _, List.sublist_append_left _ _, targets _, .refl _ _, .put success, .refl _ _⟩
  | retryFeedback queue purging retry at_pc sublist =>
    rw [view] at at_pc
    rw [at_pc]
    exact ⟨.refl _ _, List.sublist_append_left _ _, targets _, .refl _ _,
      sublist.trans (List.sublist_append_left _ _), .refl _ _⟩

/-- The TX thread takes feedbacks and robot states. -/
theorem transport_messengerTx (uplink : Uplink) (s : System) :
    Transport s .messengerTx (s.takes .messengerTx) (s.messengerTxStep uplink) := by
  have move := Speed.messengerTxStep_move uplink s.speed
  have view : s.speed.messengerTx = s.messengerTx := rfl
  have targets (puts : List DesiredRpm) : s.services.desiredRpmQueue.Delivers
      (s.speed.desiredRpmQueue.map Stamped.val) puts [] := by
    have same : s.speed.desiredRpmQueue.map Stamped.val = s.services.desiredRpmQueue :=
      map_stamped s.rpmSource s.services.desiredRpmQueue
    rw [same]
    exact .refl _ _
  simp only [System.takes]
  unfold System.messengerTxStep
  generalize Speed.messengerTxStep uplink s.speed = answer at move ⊢
  cases move with
  | feedback feedback queue at_pc taken =>
    rw [view] at at_pc
    have items : s.feedbackQueue.items = feedback :: queue.items := MessageQueue.get_eq_some taken
    rw [at_pc, items]
    exact ⟨.refl _ _, List.sublist_append_left _ _, targets _, .refl _ _, .get taken _, .refl _ _⟩
  | state state queue at_pc taken =>
    rw [view] at at_pc
    have items : s.services.robotStateQueue.items = state :: queue.items := MessageQueue.get_eq_some taken
    rw [at_pc, items]
    exact ⟨.refl _ _, List.sublist_append_left _ _, targets _, .refl _ _, .refl _ _, .get taken _⟩
  | noFeedback at_pc taken =>
    rw [view] at at_pc
    have items : s.feedbackQueue.items = [] := MessageQueue.get_eq_none_iff.mp taken
    rw [at_pc, items]
    exact ⟨.refl _ _, List.sublist_append_left _ _, targets _, .refl _ _, .refl _ _, .refl _ _⟩
  | noState at_pc taken =>
    rw [view] at at_pc
    have items : s.services.robotStateQueue.items = [] := MessageQueue.get_eq_none_iff.mp taken
    rw [at_pc, items]
    exact ⟨.refl _ _, List.sublist_append_left _ _, targets _, .refl _ _, .refl _ _, .refl _ _⟩

/-- The actuators take commands. -/
theorem transport_actuator (conf : TbotActuatorConf) (s : System) :
    Transport s .actuator (s.takes .actuator) (s.actuatorStep conf) := by
  have move := actuatorStep_move conf s
  generalize s.actuatorStep conf = answer at move ⊢
  simp only [System.takes]
  cases move with
  | idle made taken =>
    rw [made, MessageQueue.get_eq_none_iff.mp taken]
    exact .refl s _ _
  | take cmd queue made taken =>
    rw [made, MessageQueue.get_eq_some taken]
    exact ⟨.refl _ _, List.sublist_append_left _ _, .refl _ _, .get taken _, .refl _ _, .refl _ _⟩
  | write call rest left =>
    rw [left]
    exact ⟨.refl _ _, List.sublist_append_left _ _, .refl _ _, .refl _ _, .refl _ _, .refl _ _⟩

/-- The encoder moves its estimate into the queue, and drops what waits there when it is full. -/
theorem transport_encoder (s : System) : Transport s .encoder [] (s.encoderStep, []) := by
  unfold System.encoderStep
  split
  · exact .refl s _ _
  case h_2 estimate purging held =>
    have before : s.estimates = s.encoderRpmQueue.items ++ [estimate] := by
      rw [System.estimates, held]
      rfl
    split
    case h_1 queue attempted =>
      have added : queue.items.Sublist (s.encoderRpmQueue.items ++ [estimate]) :=
        MessageQueue.attempt_sublist attempted
      refine ⟨.refl _ _, ?_, .refl _ _, .refl _ _, .refl _ _, .refl _ _⟩
      rw [before]
      change (queue.items ++ []).Sublist (_ ++ [])
      rw [List.append_nil, List.append_nil]
      exact added
    case h_2 queue outcome notDone attempted =>
      have dropped := MessageQueue.attempt_sublist attempted
      rw [if_neg notDone, List.append_nil] at dropped
      refine ⟨.refl _ _, ?_, .refl _ _, .refl _ _, .refl _ _, .refl _ _⟩
      rw [before]
      change (queue.items ++ [estimate]).Sublist (_ ++ [])
      rw [List.append_nil]
      exact dropped.append (List.Sublist.refl _)

/-- An estimate that arrives while the encoder is still putting one is lost. -/
theorem transport_estimate (s : System) (estimate : EstimatedSpeed) : Transport s (.estimate estimate) []
    (if s.encoder.isNone then ({ s with encoder := some (estimate, false) }, []) else (s, [])) := by
  split
  case isTrue idle =>
    have none : s.encoder = none := Option.isNone_iff_eq_none.mp idle
    have before : s.estimates = s.encoderRpmQueue.items ++ [] := by
      rw [System.estimates, none]
      rfl
    refine ⟨.refl _ _, ?_, .refl _ _, .refl _ _, .refl _ _, .refl _ _⟩
    rw [before, List.append_nil]
    exact List.Sublist.refl _
  case isFalse => exact .refl s _ _

/-! ## The services -/

/-- What the services put into the queues of the pipeline in a step of their own. -/
structure ServicesTransport (s : State) (answer : State × List Output) : Prop where
  motions : s.desiredMotionQueue.Delivers answer.1.desiredMotionQueue
    (answer.2.filterMap fun output => SystemOutput.motion? (.services output)) []
  targets : s.desiredRpmQueue.Delivers answer.1.desiredRpmQueue
    (answer.2.filterMap fun output => SystemOutput.target? (.services output)) []
  commands : s.actuatorDataQueue.Delivers answer.1.actuatorDataQueue
    (answer.2.filterMap fun output => SystemOutput.command? (.services output)) []
  states : s.robotStateQueue.Delivers answer.1.robotStateQueue
    (answer.2.filterMap fun output => SystemOutput.state? (.services output)) []

theorem ServicesTransport.lift {call : Event}
    (transport : ServicesTransport s.services (step s.services call)) :
    Transport s event [] (s.servicesStep call) where
  motions := by
    change MessageQueue.Delivers _ _ (List.filterMap _ (List.map _ _)) _
    rw [List.filterMap_map]
    exact transport.motions
  estimates := List.sublist_append_left _ _
  targets := by
    change MessageQueue.Delivers _ _ (List.filterMap _ (List.map _ _)) _
    rw [List.filterMap_map]
    exact transport.targets
  commands := by
    change MessageQueue.Delivers _ _ (List.filterMap _ (List.map _ _)) _
    rw [List.filterMap_map]
    exact transport.commands
  feedback := .refl _ _
  states := by
    change MessageQueue.Delivers _ _ (List.filterMap _ (List.map _ _)) _
    rw [List.filterMap_map]
    exact transport.states

theorem ServicesTransport.refl {s next : State} (outputs : List Output)
    (motions : next.desiredMotionQueue = s.desiredMotionQueue)
    (targets : next.desiredRpmQueue = s.desiredRpmQueue)
    (commands : next.actuatorDataQueue = s.actuatorDataQueue)
    (states : next.robotStateQueue = s.robotStateQueue) : ServicesTransport s (next, outputs) := by
  constructor
  · rw [motions]; exact .refl _ _
  · rw [targets]; exact .refl _ _
  · rw [commands]; exact .refl _ _
  · rw [states]; exact .refl _ _

theorem servicesTransport_coordinator (s : State) : ServicesTransport s (step s .coordinator) := by
  simp only [step, coordinatorStep]
  cases at_pc : s.coordinator.pc with
  | putMotion purging =>
    dsimp only
    split
    case h_1 queue attempted =>
      exact ⟨MessageQueue.attempt_sublist attempted, .refl _ _, .refl _ _, .refl _ _⟩
    case h_2 queue outcome notDone attempted =>
      have dropped := MessageQueue.attempt_sublist attempted
      rw [if_neg notDone] at dropped
      exact ⟨dropped, .refl _ _, .refl _ _, .refl _ _⟩
  | putState purging =>
    dsimp only
    split
    case h_1 queue attempted =>
      exact ⟨.refl _ _, .refl _ _, .refl _ _, MessageQueue.attempt_sublist attempted⟩
    case h_2 queue outcome notDone attempted =>
      have dropped := MessageQueue.attempt_sublist attempted
      rw [if_neg notDone] at dropped
      exact ⟨.refl _ _, .refl _ _, .refl _ _, dropped⟩
  | _ => dsimp only; split <;> exact .refl _ rfl rfl rfl rfl

theorem servicesTransport_messengerRx (s : State) : ServicesTransport s (step s .messengerRx) := by
  simp only [step]
  have move := messengerRxStep_move s
  generalize messengerRxStep s = answer at move ⊢
  cases move with
  | idle => exact .refl _ rfl rfl rfl rfl
  | supervisorCmd => exact .refl _ rfl rfl rfl rfl
  | desiredMotion => exact .refl _ rfl rfl rfl rfl
  | actuatorCmd rx cmd queue outcome running job attempted =>
    have added := MessageQueue.attempt_sublist attempted
    refine ⟨.refl _ _, .refl _ _, ?_, .refl _ _⟩
    cases outcome <;> exact added
  | desiredRpm rx rpm queue outcome running job attempted =>
    have added := MessageQueue.attempt_sublist attempted
    refine ⟨.refl _ _, ?_, .refl _ _, .refl _ _⟩
    cases outcome <;> exact added

theorem servicesTransport_receiver (s : State) : ServicesTransport s (step s .receiver) := by
  simp only [step, receiverStep]
  split
  · exact .refl _ rfl rfl rfl rfl
  · split <;> exact .refl _ rfl rfl rfl rfl

theorem servicesTransport_rcMessage (s : State) (data : ReceiverData) :
    ServicesTransport s (step s (.rcMessage data)) := by
  obtain ⟨receiver, effect⟩ := step_rcMessage s data
  rw [effect]
  exact .refl _ rfl rfl rfl rfl

theorem servicesTransport_canFrame (s : State) (frame : ZcanFrame) :
    ServicesTransport s (step s (.canFrame frame)) := by
  obtain ⟨messengerRx, effect⟩ := step_canFrame s frame
  rw [effect]
  exact .refl _ rfl rfl rfl rfl

/-- Every step of the robot takes from the front of its queues and puts at their back. -/
theorem transport_step (conf : TbotActuatorConf) (uplink : Uplink) (s : System) (event : SystemEvent) :
    Transport s event (s.taken event) (s.step conf uplink event) := by
  unfold System.step System.taken
  split
  · exact .refl s _ _
  · cases event with
    | motionControl => exact transport_motionControl s
    | speedControl => exact transport_speedControl s
    | messengerTx => exact transport_messengerTx uplink s
    | actuator => exact transport_actuator conf s
    | encoder => exact transport_encoder s
    | estimate estimate => exact transport_estimate s estimate
    | coordinator => exact (servicesTransport_coordinator s.services).lift
    | receiver => exact (servicesTransport_receiver s.services).lift
    | rcMessage data => exact (servicesTransport_rcMessage s.services data).lift
    | canFrame frame => exact (servicesTransport_canFrame s.services frame).lift
    | messengerRx =>
      obtain ⟨source, same⟩ := messengerRxStep_eq s
      have lifted : Transport s .messengerRx [] (s.servicesStep .messengerRx) :=
        (servicesTransport_messengerRx s.services).lift
      change Transport s .messengerRx [] s.messengerRxStep
      rw [same]
      exact ⟨lifted.motions, lifted.estimates, lifted.targets, lifted.commands, lifted.feedback,
        lifted.states⟩

/-! ## The threads -/

/-- Each of the three threads alone works on its locals and on the pins. -/
structure Owned (s next : System) (event : SystemEvent) : Prop where
  motionControl : event ≠ .motionControl → next.motionControl = s.motionControl
  speedControl : event ≠ .speedControl → next.speedControl = s.speedControl
  pins : event ≠ .actuator → next.pins = s.pins
  pinCalls : event ≠ .actuator → next.pinCalls = s.pinCalls

theorem owned_of_kept {next : System} (motionControl : next.motionControl = s.motionControl)
    (speedControl : next.speedControl = s.speedControl) (pins : next.pins = s.pins)
    (pinCalls : next.pinCalls = s.pinCalls) : Owned s next event :=
  ⟨fun _ => motionControl, fun _ => speedControl, fun _ => pins, fun _ => pinCalls⟩

theorem owned_step (conf : TbotActuatorConf) (uplink : Uplink) (s : System) (event : SystemEvent) :
    Owned s (s.step conf uplink event).1 event := by
  unfold System.step
  split
  · exact owned_of_kept rfl rfl rfl rfl
  cases event with
  | motionControl =>
    have move := motionControlStep_move s
    simp only [System.act]
    generalize s.motionControlStep = answer at move ⊢
    refine ⟨fun other => absurd rfl other, fun _ => ?_, fun _ => ?_, fun _ => ?_⟩ <;> cases move <;> rfl
  | speedControl =>
    exact ⟨fun _ => rfl, fun other => absurd rfl other, fun _ => rfl, fun _ => rfl⟩
  | messengerTx =>
    have move := Speed.messengerTxStep_move uplink s.speed
    simp only [System.act, System.messengerTxStep]
    generalize Speed.messengerTxStep uplink s.speed = answer at move ⊢
    refine ⟨fun _ => rfl, fun _ => ?_, fun _ => rfl, fun _ => rfl⟩
    cases move <;> rfl
  | actuator =>
    have move := actuatorStep_move conf s
    simp only [System.act]
    generalize s.actuatorStep conf = answer at move ⊢
    refine ⟨fun _ => ?_, fun _ => ?_, fun other => absurd rfl other, fun other => absurd rfl other⟩ <;>
      cases move <;> rfl
  | messengerRx =>
    obtain ⟨source, same⟩ := messengerRxStep_eq s
    simp only [System.act, same]
    exact owned_of_kept rfl rfl rfl rfl
  | encoder =>
    simp only [System.act, System.encoderStep]
    split
    · exact owned_of_kept rfl rfl rfl rfl
    · split <;> exact owned_of_kept rfl rfl rfl rfl
  | estimate estimate =>
    simp only [System.act]
    split <;> exact owned_of_kept rfl rfl rfl rfl
  | _ => exact owned_of_kept rfl rfl rfl rfl

/-- The target that the motion control has computed and not yet put. -/
def MotionControl.pending (c : MotionControl) : List DesiredRpm :=
  match c.putting with
  | some _ => [c.prevTargetRpm]
  | none => []

/-- What the limiter emits on the motions of a step. -/
def limited (prevTargetRpm : DesiredRpm) (messages : List FittingMotion) : List DesiredRpm :=
  Motion.machine.observedFrom (fun state event => (Motion.machine.step state event).2) prevTargetRpm
    messages

/-- What the controllers emit on the messages of a step. -/
def controlled (c : Speed.Controllers) (messages : List ControlInput) : List ActuatorCmd :=
  Speed.controllers.observedFrom (fun state event => (Speed.controllers.step state event).2) c messages

/-- A step of the motion control's loop is a step of the limiter, whose target is put or pending. -/
structure MotionStage (s : System) (taken : List Taken) (answer : System × List SystemOutput) : Prop where
  computed : answer.1.motionControl.prevTargetRpm =
    Motion.machine.runFrom s.motionControl.prevTargetRpm (taken.filterMap Taken.fitting?)
  balance : answer.2.filterMap SystemOutput.ownTarget? ++ answer.1.motionControl.pending =
    s.motionControl.pending ++
      limited s.motionControl.prevTargetRpm (taken.filterMap Taken.fitting?)

theorem fitting?_of_fits (message : FittingMotion) :
    Taken.fitting? (.motion message.motion) = some message := by
  rcases message with ⟨motion, target, fits⟩
  simp only [Taken.fitting?]
  split
  case h_1 rpm found =>
    obtain rfl := Option.some.inj (fits.symm.trans found)
    rfl
  case h_2 unfit => exact absurd (fits.symm.trans unfit) (by simp)

theorem fitting?_eq_none {motion : DesiredMotion} (unfit : targetRpm motion = none) :
    Taken.fitting? (.motion motion) = none := by
  simp only [Taken.fitting?]
  split
  case h_1 rpm found => exact absurd (unfit.symm.trans found) (by simp)
  case h_2 => rfl

theorem motionStage_motionControl (s : System) :
    MotionStage s (s.takes .motionControl) s.motionControlStep := by
  have move := motionControlStep_move s
  simp only [System.takes]
  generalize s.motionControlStep = answer at move ⊢
  cases move with
  | idle at_pc taken =>
    rw [at_pc, MessageQueue.get_eq_none_iff.mp taken]
    refine ⟨rfl, ?_⟩
    exact (List.append_nil _).symm
  | undefined motion queue at_pc taken unfit =>
    rw [at_pc, MessageQueue.get_eq_some taken]
    have none : List.filterMap Taken.fitting? [.motion motion] = [] :=
      List.filterMap_cons_none (fitting?_eq_none unfit)
    refine ⟨?_, ?_⟩
    · exact congrArg (Motion.machine.runFrom s.motionControl.prevTargetRpm) none.symm
    · change s.motionControl.pending =
        s.motionControl.pending ++ limited _ (List.filterMap Taken.fitting? [.motion motion])
      rw [none]
      exact (List.append_nil _).symm
  | take message queue at_pc taken =>
    rw [at_pc, MessageQueue.get_eq_some taken]
    have one : List.filterMap Taken.fitting? [.motion message.motion] = [message] :=
      List.filterMap_cons_some (fitting?_of_fits message)
    have idle : s.motionControl.pending = [] := by rw [MotionControl.pending, at_pc]
    refine ⟨?_, ?_⟩
    · exact (congrArg (Motion.machine.runFrom s.motionControl.prevTargetRpm) one).symm
    · change _ = s.motionControl.pending ++
        limited _ (List.filterMap Taken.fitting? [.motion message.motion])
      rw [one, idle]
      rfl
  | put queue at_pc success =>
    have held : s.motionControl.pending = [s.motionControl.prevTargetRpm] := by
      rw [MotionControl.pending, at_pc]
    rw [at_pc]
    refine ⟨rfl, ?_⟩
    rw [held]
    rfl
  | full at_pc full =>
    have held : s.motionControl.pending = [s.motionControl.prevTargetRpm] := by
      rw [MotionControl.pending, at_pc]
    rw [at_pc]
    refine ⟨rfl, ?_⟩
    rw [held]
    rfl
  | purge at_pc =>
    have held : s.motionControl.pending = [s.motionControl.prevTargetRpm] := by
      rw [MotionControl.pending, at_pc]
    rw [at_pc]
    refine ⟨rfl, ?_⟩
    rw [held]
    rfl

/-- The thread that takes a message. -/
def Taken.taker : Taken → SystemEvent
  | .motion _ => .motionControl
  | .estimate _ => .speedControl
  | .target _ => .speedControl
  | .command _ => .actuator
  | .feedback _ => .messengerTx
  | .state _ => .messengerTx

theorem taker_of_mem {message : Taken} (member : message ∈ s.taken event) : event = message.taker := by
  unfold System.taken at member
  split at member
  · exact absurd member List.not_mem_nil
  cases event with
  | motionControl =>
    simp only [System.takes] at member
    split at member
    · obtain ⟨_, -, rfl⟩ := List.mem_map.mp member; rfl
    · exact absurd member List.not_mem_nil
  | speedControl =>
    simp only [System.takes] at member
    split at member
    · obtain ⟨_, -, rfl⟩ := List.mem_map.mp member; rfl
    · obtain ⟨_, -, rfl⟩ := List.mem_map.mp member; rfl
    · exact absurd member List.not_mem_nil
    · exact absurd member List.not_mem_nil
  | messengerTx =>
    simp only [System.takes] at member
    split at member <;> (obtain ⟨_, -, rfl⟩ := List.mem_map.mp member; rfl)
  | actuator =>
    simp only [System.takes] at member
    split at member
    · obtain ⟨_, -, rfl⟩ := List.mem_map.mp member; rfl
    · exact absurd member List.not_mem_nil
  | _ => exact absurd member List.not_mem_nil

/-- The other threads take nothing of a kind that one thread takes. -/
theorem filterMap_taken {α : Type*} {part : Taken → Option α} {thread : SystemEvent}
    (own : ∀ message, message.taker ≠ thread → part message = none) (other : event ≠ thread) :
    (s.taken event).filterMap part = [] := by
  refine List.filterMap_eq_nil_iff.mpr fun message member => own message ?_
  rw [← taker_of_mem member]
  exact other

theorem fitting?_taken (other : event ≠ .motionControl) :
    (s.taken event).filterMap Taken.fitting? = [] := by
  refine filterMap_taken ?_ other
  intro message elsewhere
  cases message with
  | motion => exact absurd rfl elsewhere
  | _ => rfl

theorem control?_taken (other : event ≠ .speedControl) :
    (s.taken event).filterMap Taken.control? = [] := by
  refine filterMap_taken ?_ other
  intro message elsewhere
  cases message with
  | estimate => exact absurd rfl elsewhere
  | target => exact absurd rfl elsewhere
  | _ => rfl

theorem command?_taken (other : event ≠ .actuator) :
    (s.taken event).filterMap Taken.command? = [] := by
  refine filterMap_taken ?_ other
  intro message elsewhere
  cases message with
  | command => exact absurd rfl elsewhere
  | _ => rfl

/-- The other threads put out nothing of a kind that one thread sends. -/
theorem filterMap_step {α : Type*} {part : SystemOutput → Option α} {thread : SystemEvent}
    (own : ∀ output, output.sender? ≠ some thread → part output = none) (other : event ≠ thread) :
    (s.step conf uplink event).2.filterMap part = [] := by
  refine List.filterMap_eq_nil_iff.mpr fun output emitted => own output fun sent => ?_
  rcases sender?_of_mem emitted with silent | same
  · exact absurd (silent.symm.trans sent) (by simp)
  · exact other (Option.some.inj (same.symm.trans sent))

theorem ownTarget?_step (other : event ≠ .motionControl) :
    (s.step conf uplink event).2.filterMap SystemOutput.ownTarget? = [] := by
  refine filterMap_step ?_ other
  intro output elsewhere
  cases output with
  | target => exact absurd rfl elsewhere
  | _ => rfl

theorem ownCommand?_step (other : event ≠ .speedControl) :
    (s.step conf uplink event).2.filterMap SystemOutput.ownCommand? = [] := by
  refine filterMap_step ?_ other
  intro output elsewhere
  cases output with
  | command => exact absurd rfl elsewhere
  | _ => rfl

theorem driven?_step (other : event ≠ .actuator) :
    (s.step conf uplink event).2.filterMap SystemOutput.driven? = [] := by
  refine filterMap_step ?_ other
  intro output elsewhere
  cases output with
  | driven => exact absurd rfl elsewhere
  | _ => rfl

/-- Every step of the robot is a step of the limiter, or none. -/
theorem motionStage_step (conf : TbotActuatorConf) (uplink : Uplink) (s : System) (event : SystemEvent) :
    MotionStage s (s.taken event) (s.step conf uplink event) := by
  rcases eq_or_ne event .motionControl with rfl | other
  · unfold System.step System.taken
    split
    · refine ⟨rfl, ?_⟩
      exact (List.append_nil _).symm
    · exact motionStage_motionControl s
  · have none := fitting?_taken (s := s) other
    have kept := (owned_step conf uplink s event).motionControl other
    refine ⟨?_, ?_⟩
    · rw [none, kept]
      rfl
    · rw [none, kept, ownTarget?_step other]
      exact (List.append_nil _).symm

/-- A step of the speed control's loop is a step of the controllers, whose command is put or pending. -/
structure SpeedStage (s : System) (taken : List Taken) (answer : System × List SystemOutput) : Prop where
  computed : answer.1.speedControl.controllers =
    Speed.controllers.runFrom s.speedControl.controllers (taken.filterMap Taken.control?)
  balance : answer.2.filterMap SystemOutput.ownCommand? ++ answer.1.speedControl.pending =
    s.speedControl.pending ++ controlled s.speedControl.controllers (taken.filterMap Taken.control?)

theorem speedStage_speedControl (s : System) :
    SpeedStage s (s.takes .speedControl) s.speedControlStep := by
  have move := Speed.speedControlStep_move s.speed
  have view : s.speed.speedControl = s.speedControl := rfl
  simp only [System.takes]
  unfold System.speedControlStep
  generalize Speed.speedControlStep s.speed = answer at move ⊢
  cases move with
  | estimate estimate queue at_pc taken =>
    rw [view] at at_pc
    have items : s.encoderRpmQueue.items = estimate :: queue.items := MessageQueue.get_eq_some taken
    have idle : s.speedControl.pending = [] := by rw [Speed.SpeedControl.pending, at_pc]
    rw [at_pc, items]
    refine ⟨rfl, ?_⟩
    rw [idle]
    rfl
  | noEstimate at_pc taken =>
    rw [view] at at_pc
    have items : s.encoderRpmQueue.items = [] := MessageQueue.get_eq_none_iff.mp taken
    have idle : s.speedControl.pending = [] := by rw [Speed.SpeedControl.pending, at_pc]
    rw [at_pc, items]
    refine ⟨rfl, ?_⟩
    rw [idle]
    rfl
  | target target queue at_pc taken =>
    rw [view] at at_pc
    have get : s.services.desiredRpmQueue.get = some (target.val, queue.map Stamped.val) :=
      get_stamped taken
    have idle : s.speedControl.pending = [] := by rw [Speed.SpeedControl.pending, at_pc]
    rw [at_pc, MessageQueue.get_eq_some get]
    refine ⟨rfl, ?_⟩
    rw [idle]
    rfl
  | noTarget at_pc taken =>
    rw [view] at at_pc
    have items : s.services.desiredRpmQueue.items = [] :=
      List.map_eq_nil_iff.mp (MessageQueue.get_eq_none_iff.mp taken)
    have idle : s.speedControl.pending = [] := by rw [Speed.SpeedControl.pending, at_pc]
    rw [at_pc, items]
    refine ⟨rfl, ?_⟩
    rw [idle]
    rfl
  | putCmd queue at_pc success =>
    rw [view] at at_pc
    have held : s.speedControl.pending = [s.speedControl.actuatorCmd] := by
      rw [Speed.SpeedControl.pending, at_pc]
    rw [at_pc]
    refine ⟨rfl, ?_⟩
    rw [held]
    rfl
  | cmdFull at_pc full =>
    rw [view] at at_pc
    have held : s.speedControl.pending = [s.speedControl.actuatorCmd] := by
      rw [Speed.SpeedControl.pending, at_pc]
    rw [at_pc]
    refine ⟨rfl, ?_⟩
    rw [held]
    rfl
  | cmdPurge at_pc =>
    rw [view] at at_pc
    have held : s.speedControl.pending = [s.speedControl.actuatorCmd] := by
      rw [Speed.SpeedControl.pending, at_pc]
    rw [at_pc]
    refine ⟨rfl, ?_⟩
    rw [held]
    rfl
  | putFeedback queue at_pc success =>
    rw [view] at at_pc
    have idle : s.speedControl.pending = [] := by rw [Speed.SpeedControl.pending, at_pc]
    rw [at_pc]
    refine ⟨rfl, ?_⟩
    rw [idle]
    rfl
  | retryFeedback queue purging retry at_pc sublist =>
    rw [view] at at_pc
    have idle : s.speedControl.pending = [] := by rw [Speed.SpeedControl.pending, at_pc]
    rw [at_pc]
    refine ⟨rfl, ?_⟩
    rw [idle]
    rfl

/-- Every step of the robot is a step of the controllers, or none. -/
theorem speedStage_step (conf : TbotActuatorConf) (uplink : Uplink) (s : System) (event : SystemEvent) :
    SpeedStage s (s.taken event) (s.step conf uplink event) := by
  rcases eq_or_ne event .speedControl with rfl | other
  · unfold System.step System.taken
    split
    · refine ⟨rfl, ?_⟩
      exact (List.append_nil _).symm
    · exact speedStage_speedControl s
  · have none := control?_taken (s := s) other
    have kept := (owned_step conf uplink s event).speedControl other
    refine ⟨?_, ?_⟩
    · rw [none, kept]
      rfl
    · rw [none, kept, ownCommand?_step other]
      exact (List.append_nil _).symm

/-- A command that is carried out has been taken. -/
theorem driven_step (conf : TbotActuatorConf) (uplink : Uplink) (s : System) (event : SystemEvent) :
    (s.step conf uplink event).2.filterMap SystemOutput.driven? =
      (s.taken event).filterMap Taken.command? := by
  rcases eq_or_ne event .actuator with rfl | other
  · unfold System.step System.taken
    split
    · rfl
    · have move := actuatorStep_move conf s
      simp only [System.act, System.takes]
      generalize s.actuatorStep conf = answer at move ⊢
      cases move with
      | idle made taken =>
        rw [made, MessageQueue.get_eq_none_iff.mp taken]
        rfl
      | take cmd queue made taken =>
        rw [made, MessageQueue.get_eq_some taken]
        rfl
      | write call rest left =>
        rw [left]
        rfl
  · rw [driven?_step other, command?_taken other]

/-- The calls that have been made on the pins: those of set-up, of every command but the last, and `made` of
those of the last one, which has the others still to make. -/
structure Written (conf : TbotActuatorConf) (before : Pins) (commands : List ActuatorCmd) (s : System)
    (made : List PinCall) : Prop where
  last : made ++ s.pinCalls = commands.getLast?.elim [] processCmd
  pins : s.pins = applyCalls conf before
    (initTbotActuators ++ commands.dropLast.flatMap processCmd ++ made)

/-- The last command makes the last calls. -/
theorem flatMap_processCmd (commands : List ActuatorCmd) : commands.flatMap processCmd =
    commands.dropLast.flatMap processCmd ++ commands.getLast?.elim [] processCmd := by
  cases commands using List.reverseRecOn with
  | nil => rfl
  | append_singleton earlier cmd => simp

theorem applyCalls_append (conf : TbotActuatorConf) (pins : Pins) (first second : List PinCall) :
    applyCalls conf pins (first ++ second) = applyCalls conf (applyCalls conf pins first) second :=
  List.foldl_append

/-- A step takes a command when no call is left, and makes the next call otherwise. -/
theorem written_step {before : Pins} {commands : List ActuatorCmd} {made : List PinCall}
    (written : Written conf before commands s made) (uplink : Uplink) (event : SystemEvent) :
    ∃ next, Written conf before
      (commands ++ (s.step conf uplink event).2.filterMap SystemOutput.driven?)
      (s.step conf uplink event).1 next := by
  rcases eq_or_ne event .actuator with rfl | other
  · unfold System.step
    split
    · exact ⟨made, by rwa [List.filterMap_nil, List.append_nil]⟩
    · have move := actuatorStep_move conf s
      simp only [System.act]
      generalize s.actuatorStep conf = answer at move ⊢
      cases move with
      | idle => exact ⟨made, by rwa [List.filterMap_nil, List.append_nil]⟩
      | take cmd queue all taken =>
        have finished := written.last
        rw [all, List.append_nil] at finished
        refine ⟨[], ?_, ?_⟩
        · change processCmd cmd = (commands ++ [cmd]).getLast?.elim [] processCmd
          rw [List.getLast?_concat]
          rfl
        · change s.pins = applyCalls conf before
            (initTbotActuators ++ (commands ++ [cmd]).dropLast.flatMap processCmd ++ [])
          rw [List.dropLast_concat, List.append_nil, flatMap_processCmd, ← finished, ← List.append_assoc]
          exact written.pins
      | write call rest left =>
        refine ⟨made ++ [call], ?_, ?_⟩
        · have same := written.last
          rw [left] at same
          rw [List.append_assoc, List.filterMap_nil, List.append_nil]
          exact same
        · rw [List.filterMap_nil, List.append_nil, ← List.append_assoc, applyCalls_append, ← written.pins]
          rfl
  · have owned := owned_step conf uplink s event
    refine ⟨made, ?_, ?_⟩
    · rw [driven?_step other, List.append_nil, owned.pinCalls other]
      exact written.last
    · rw [driven?_step other, List.append_nil, owned.pins other]
      exact written.pins

/-- The sends of the TX thread publish nothing. -/
theorem sent?_sendData (uplink : Uplink) (msg : FeedbackMsg) (source : Option ZcanFrame) :
    ((Speed.sendData uplink msg source).map SystemOutput.feedback).filterMap SystemOutput.sent? =
      Speed.sendData uplink msg source := by
  unfold Speed.sendData
  cases sendMessage uplink msg <;> rfl

theorem sent?_sendRaw (uplink : Uplink) (rawRpms : Option (Vector Int32 2)) (source : Option ZcanFrame) :
    ((Speed.sendRaw uplink rawRpms source).map SystemOutput.feedback).filterMap SystemOutput.sent? =
      Speed.sendRaw uplink rawRpms source := by
  unfold Speed.sendRaw
  cases rawRpms with
  | some rpms => exact sent?_sendData uplink _ source
  | none => dsimp only; split <;> rfl

theorem sent?_sendFeedback (uplink : Uplink) (feedback : SpeedControlFeedback) :
    ((Speed.sendFeedback uplink feedback).map SystemOutput.feedback).filterMap SystemOutput.sent? =
      Speed.sendFeedback uplink feedback := by
  simp only [Speed.sendFeedback, List.map_append, List.filterMap_append, sent?_sendData, sent?_sendRaw]

theorem sent?_messengerTx (uplink : Uplink) (s : System) :
    (s.messengerTxStep uplink).2.filterMap SystemOutput.sent? =
      (s.takes .messengerTx).flatMap (Taken.reported uplink) := by
  have move := Speed.messengerTxStep_move uplink s.speed
  have view : s.speed.messengerTx = s.messengerTx := rfl
  simp only [System.takes]
  unfold System.messengerTxStep
  generalize Speed.messengerTxStep uplink s.speed = answer at move ⊢
  cases move with
  | feedback feedback queue at_pc taken =>
    rw [view] at at_pc
    have items : s.feedbackQueue.items = feedback :: queue.items := MessageQueue.get_eq_some taken
    rw [at_pc, items]
    exact (sent?_sendFeedback uplink feedback).trans (List.append_nil _).symm
  | state state queue at_pc taken =>
    rw [view] at at_pc
    have items : s.services.robotStateQueue.items = state :: queue.items := MessageQueue.get_eq_some taken
    rw [at_pc, items]
    exact (sent?_sendData uplink _ none).trans (List.append_nil _).symm
  | noFeedback at_pc taken =>
    rw [view] at at_pc
    have items : s.feedbackQueue.items = [] := MessageQueue.get_eq_none_iff.mp taken
    rw [at_pc, items]
    rfl
  | noState at_pc taken =>
    rw [view] at at_pc
    have items : s.services.robotStateQueue.items = [] := MessageQueue.get_eq_none_iff.mp taken
    rw [at_pc, items]
    rfl

/-- A step sends what the TX thread reports. -/
theorem sent_step (conf : TbotActuatorConf) (uplink : Uplink) (s : System) (event : SystemEvent) :
    (s.step conf uplink event).2.filterMap SystemOutput.sent? =
      (s.taken event).flatMap (Taken.reported uplink) := by
  rcases eq_or_ne event .messengerTx with rfl | other
  · unfold System.step System.taken
    split
    · rfl
    · exact sent?_messengerTx uplink s
  · have silent : (s.taken event).flatMap (Taken.reported uplink) = [] := by
      refine List.flatMap_eq_nil_iff.mpr fun message member => ?_
      have taker := taker_of_mem member
      cases message with
      | feedback => exact absurd taker other
      | state => exact absurd taker other
      | _ => rfl
    rw [silent]
    refine filterMap_step (fun output elsewhere => ?_) other
    cases output with
    | feedback message =>
      cases message with
      | published => rfl
      | sent => exact absurd rfl elsewhere
      | sentUndefined => exact absurd rfl elsewhere
    | _ => rfl

/-! ## The runs -/

section Runs

variable (conf : TbotActuatorConf) (uplink : Uplink) (before : Pins) (events : List SystemEvent)

/-- A queue gives its consumer, in order, some of what was put into it. -/
theorem delivered_system {α : Type*} {capacity : ℕ} (queue : System → MessageQueue α capacity)
    (put? : SystemOutput → Option α) (take? : Taken → Option α)
    (start : queue (.initial conf before) = .empty)
    (move : ∀ s event, (queue s).Delivers (queue (s.step conf uplink event).1)
      ((s.step conf uplink event).2.filterMap put?) ((s.taken event).filterMap take?)) :
    (((system conf uplink before).observed System.taken events).filterMap take?).Sublist
      ((system conf uplink before).observed (System.shown conf uplink put?) events) := by
  have delivered := Machine.delivered_run (m := system conf uplink before) (fun s => (queue s).items)
    (System.shown conf uplink put?) (fun s event => (s.taken event).filterMap take?)
    (congrArg MessageQueue.items start) move events
  rw [Machine.filterMap_observed]
  exact (List.sublist_append_left _ _).trans delivered

theorem motions_delivered :
    (((system conf uplink before).observed System.taken events).filterMap Taken.motion?).Sublist
      ((system conf uplink before).observed (System.shown conf uplink SystemOutput.motion?) events) :=
  delivered_system conf uplink before events (fun s => s.services.desiredMotionQueue)
    SystemOutput.motion? Taken.motion? rfl fun s event => (transport_step conf uplink s event).motions

theorem estimates_delivered :
    (((system conf uplink before).observed System.taken events).filterMap Taken.estimate?).Sublist
      (events.filterMap SystemEvent.estimate?) := by
  have delivered := Machine.delivered_run (m := system conf uplink before) System.estimates
    (fun _ event => event.estimate?.toList) (fun s event => (s.taken event).filterMap Taken.estimate?) rfl
    (fun s event => (transport_step conf uplink s event).estimates) events
  rw [Machine.filterMap_observed, ← Machine.observed_events (m := system conf uplink before)]
  exact (List.sublist_append_left _ _).trans delivered

theorem targets_delivered :
    (((system conf uplink before).observed System.taken events).filterMap Taken.target?).Sublist
      ((system conf uplink before).observed (System.shown conf uplink SystemOutput.target?) events) :=
  delivered_system conf uplink before events (fun s => s.services.desiredRpmQueue)
    SystemOutput.target? Taken.target? rfl fun s event => (transport_step conf uplink s event).targets

/-- What is carried out was put. -/
theorem commands_delivered :
    ((system conf uplink before).observed (System.shown conf uplink SystemOutput.driven?) events).Sublist
      ((system conf uplink before).observed (System.shown conf uplink SystemOutput.command?) events) := by
  have same : System.shown conf uplink SystemOutput.driven? =
      fun s event => (s.taken event).filterMap Taken.command? :=
    funext fun s => funext fun event => driven_step conf uplink s event
  rw [same, ← Machine.filterMap_observed]
  exact delivered_system conf uplink before events (fun s => s.services.actuatorDataQueue)
    SystemOutput.command? Taken.command? rfl fun s event => (transport_step conf uplink s event).commands

/-- The motion control puts what the limiter makes of the motions it takes. -/
theorem ownTargets_run :
    (system conf uplink before).observed (System.shown conf uplink SystemOutput.ownTarget?) events ++
        ((system conf uplink before).run events).motionControl.pending =
      Motion.machine.observed (fun state event => (Motion.machine.step state event).2)
        (((system conf uplink before).observed System.taken events).filterMap Taken.fitting?) := by
  rw [Machine.filterMap_observed]
  exact Machine.stage_run (system conf uplink before) Motion.machine
    (fun s => s.motionControl.prevTargetRpm) (fun s event => (s.taken event).filterMap Taken.fitting?)
    (fun s => s.motionControl.pending) (System.shown conf uplink SystemOutput.ownTarget?) rfl rfl
    (fun s event => (motionStage_step conf uplink s event).computed)
    (fun s event => (motionStage_step conf uplink s event).balance) events

/-- The speed control puts what its controllers make of the messages it takes. -/
theorem ownCommands_run :
    (system conf uplink before).observed (System.shown conf uplink SystemOutput.ownCommand?) events ++
        ((system conf uplink before).run events).speedControl.pending =
      Speed.controllers.observed (fun state event => (Speed.controllers.step state event).2)
        (((system conf uplink before).observed System.taken events).filterMap Taken.control?) := by
  rw [Machine.filterMap_observed]
  exact Machine.stage_run (system conf uplink before) Speed.controllers
    (fun s => s.speedControl.controllers) (fun s event => (s.taken event).filterMap Taken.control?)
    (fun s => s.speedControl.pending) (System.shown conf uplink SystemOutput.ownCommand?) rfl rfl
    (fun s event => (speedStage_step conf uplink s event).computed)
    (fun s event => (speedStage_step conf uplink s event).balance) events

/-- The calls of a run on the pins. -/
theorem written_run : ∃ made, Written conf before
    ((system conf uplink before).observed (System.shown conf uplink SystemOutput.driven?) events)
    ((system conf uplink before).run events) made := by
  induction events using List.reverseRecOn with
  | nil => exact ⟨[], rfl, rfl⟩
  | append_singleton events last ih =>
    obtain ⟨made, written⟩ := ih
    rw [Machine.observed_concat, Machine.run_concat]
    exact written_step written uplink last

/-- A motor with active pins is driven by the last command taken, once its calls have been made. -/
theorem drives_last {motor : TbotActuators.Motor} (active : (conf motor).Active) {cmd : ActuatorCmd}
    (last : cmd ∈
      ((system conf uplink before).observed (System.shown conf uplink SystemOutput.driven?) events).getLast?)
    (finished : ∀ call ∈ ((system conf uplink before).run events).pinCalls, call.motor ≠ motor) :
    TbotActuators.Drives (conf motor) (TbotActuators.commandOf cmd motor)
      (((system conf uplink before).run events).pins motor) := by
  obtain ⟨made, written⟩ := written_run conf uplink before events
  have calls := written.last
  rw [Option.mem_def.mp last] at calls
  have others : ((system conf uplink before).run events).pinCalls.filter (·.motor = motor) = [] :=
    List.filter_eq_nil_iff.mpr fun call member => by simpa using finished call member
  have own : made.filter (·.motor = motor) = (processCmd cmd).filter (·.motor = motor) := by
    rw [← Option.elim_some [] processCmd cmd, ← calls, List.filter_append, others, List.append_nil]
  rw [written.pins, applyCalls_append, TbotActuators.applyCalls_motor, own,
    ← TbotActuators.applyCalls_motor, TbotActuators.applyCalls_processCmd]
  exact TbotActuators.setMotor_drives active _ motor _

/-- The TX thread sends the reports of what it takes. -/
theorem sent_run : (system conf uplink before).observed (System.shown conf uplink SystemOutput.sent?) events =
    ((system conf uplink before).observed System.taken events).flatMap (Taken.reported uplink) := by
  rw [Machine.flatMap_observed]
  exact congrArg (fun shown => (system conf uplink before).observed shown events)
    (funext fun s => funext fun event => sent_step conf uplink s event)

/-- In every run, the motions that the motion control takes are, in order, some of those that the
coordinator put, and the targets that it puts are what the limiter makes of those it took, but for one that
it may still be putting. -/
theorem motions_limited :
    (((system conf uplink before).observed System.taken events).filterMap Taken.motion?).Sublist
        ((system conf uplink before).observed (System.shown conf uplink SystemOutput.motion?) events) ∧
      (system conf uplink before).observed (System.shown conf uplink SystemOutput.ownTarget?) events ++
          ((system conf uplink before).run events).motionControl.pending =
        Motion.machine.observed (fun state event => (Motion.machine.step state event).2)
          (((system conf uplink before).observed System.taken events).filterMap Taken.fitting?) :=
  ⟨motions_delivered conf uplink before events, ownTargets_run conf uplink before events⟩

/-- In every run, the speed control takes estimates of the encoder and targets that were put, in order, and
the commands that it puts are what its controllers make of those it took, but for one that it may still be
putting. -/
theorem targets_controlled :
    (((system conf uplink before).observed System.taken events).filterMap Taken.estimate?).Sublist
        (events.filterMap SystemEvent.estimate?) ∧
      (((system conf uplink before).observed System.taken events).filterMap Taken.target?).Sublist
        ((system conf uplink before).observed (System.shown conf uplink SystemOutput.target?) events) ∧
      (system conf uplink before).observed (System.shown conf uplink SystemOutput.ownCommand?) events ++
          ((system conf uplink before).run events).speedControl.pending =
        Speed.controllers.observed (fun state event => (Speed.controllers.step state event).2)
          (((system conf uplink before).observed System.taken events).filterMap Taken.control?) :=
  ⟨estimates_delivered conf uplink before events, targets_delivered conf uplink before events,
    ownCommands_run conf uplink before events⟩

/-- In every run, the commands carried out are, in order, some of those that were put, the pins are what
set-up and the calls made for these commands make of them, call by call, and a motor with active pins is
driven by the last one as soon as it has no call left for that motor. -/
theorem commands_driven :
    ((system conf uplink before).observed (System.shown conf uplink SystemOutput.driven?) events).Sublist
        ((system conf uplink before).observed (System.shown conf uplink SystemOutput.command?) events) ∧
      (∃ made, Written conf before
        ((system conf uplink before).observed (System.shown conf uplink SystemOutput.driven?) events)
        ((system conf uplink before).run events) made) ∧
      ∀ motor, (conf motor).Active → ∀ cmd ∈
        ((system conf uplink before).observed (System.shown conf uplink SystemOutput.driven?) events).getLast?,
          (∀ call ∈ ((system conf uplink before).run events).pinCalls, call.motor ≠ motor) →
            TbotActuators.Drives (conf motor) (TbotActuators.commandOf cmd motor)
              (((system conf uplink before).run events).pins motor) :=
  ⟨commands_delivered conf uplink before events, written_run conf uplink before events,
    fun _ active _ last finished => drives_last conf uplink before events active last finished⟩

/-- In every run, the TX thread takes, in order, some of the feedbacks and of the robot states that were
put, and it sends the frames of what it took. -/
theorem reports_sent :
    (((system conf uplink before).observed System.taken events).filterMap Taken.feedback?).Sublist
        ((system conf uplink before).observed (System.shown conf uplink SystemOutput.published?) events) ∧
      (((system conf uplink before).observed System.taken events).filterMap Taken.state?).Sublist
        ((system conf uplink before).observed (System.shown conf uplink SystemOutput.state?) events) ∧
      (system conf uplink before).observed (System.shown conf uplink SystemOutput.sent?) events =
        ((system conf uplink before).observed System.taken events).flatMap (Taken.reported uplink) := by
  refine ⟨?_, ?_, ?_⟩
  · exact delivered_system conf uplink before events (fun s => s.feedbackQueue) SystemOutput.published?
      Taken.feedback? rfl fun s event => (transport_step conf uplink s event).feedback
  · exact delivered_system conf uplink before events (fun s => s.services.robotStateQueue)
      SystemOutput.state? Taken.state? rfl fun s event => (transport_step conf uplink s event).states
  · exact sent_run conf uplink before events

end Runs

end Robofw.Model.Tbot
