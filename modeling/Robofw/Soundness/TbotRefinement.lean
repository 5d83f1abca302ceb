import Robofw.Soundness.TbotSteps
import Robofw.Soundness.TbotSystemSteps

/-! # The whole TBot and its parts

The services of `Model/Tbot.lean` and the speed control of `Model/TbotFeedback.lean` take the calls of the
other threads as events of their own, with any message. Here each of these calls comes from a thread of
the whole robot, and every run of the robot is a run of either part that puts, publishes and sends the
same.
-/

namespace Robofw.Model.Tbot

open Robofw.Core
open Robofw.Model.Speed (SpeedPc)
open Robofw.Model.TbotActuators (Pins TbotActuatorConf)

namespace SystemOutput

def services? : SystemOutput → Option Output
  | .services output => some output
  | _ => none

def feedback? : SystemOutput → Option Speed.Output
  | .feedback output => some output
  | _ => none

@[simp] theorem services?_services (outputs : List Output) :
    (outputs.map services).filterMap services? = outputs := by
  rw [List.filterMap_map]
  exact List.filterMap_some

@[simp] theorem services?_feedback (outputs : List Speed.Output) :
    (outputs.map feedback).filterMap services? = [] := by
  rw [List.filterMap_map]
  exact List.filterMap_eq_nil_iff.mpr fun _ _ => rfl

@[simp] theorem feedback?_feedback (outputs : List Speed.Output) :
    (outputs.map feedback).filterMap feedback? = outputs := by
  rw [List.filterMap_map]
  exact List.filterMap_some

@[simp] theorem feedback?_services (outputs : List Output) :
    (outputs.map services).filterMap feedback? = [] := by
  rw [List.filterMap_map]
  exact List.filterMap_eq_nil_iff.mpr fun _ _ => rfl

theorem feedback?_command (put : Bool) (cmd : ActuatorCmd) :
    (if put then [command cmd] else []).filterMap feedback? = [] := by
  cases put <;> rfl

end SystemOutput

open SystemOutput

variable (conf : TbotActuatorConf) (uplink : Uplink) (s : System)

/-- The RX thread's step is the one of the services, up to the ghost. -/
theorem messengerRxStep_eq : ∃ source, s.messengerRxStep =
    ({ (s.servicesStep .messengerRx).1 with rpmSource := source }, (s.servicesStep .messengerRx).2) := by
  simp only [System.messengerRxStep]
  split
  · exact ⟨_, rfl⟩
  · exact ⟨s.rpmSource, rfl⟩

/-! ## The services -/

/-- The calls of the motion control on the queues of the services. -/
def MotionControl.calls (c : MotionControl) : List Event :=
  match c.putting with
  | none => [.motionControlGet]
  | some false => [.motionControlPut c.prevTargetRpm]
  | some true => [.motionControlPurge]

/-- The calls of the speed control on the queues of the services. -/
def speedControlCalls (c : Speed.SpeedControl) : List Event :=
  match c.pc with
  | .pollEncoder => []
  | .pollRpm => [.speedControlGet]
  | .putCmd false => [.speedControlPut c.actuatorCmd]
  | .putCmd true => [.speedControlPurge]
  | .putFeedback _ => []

/-- The calls of the TX thread on the queues of the services. -/
def messengerTxCalls : Speed.TxPc → List Event
  | .pollFeedback => []
  | .pollState => [.messengerTxGet]

/-- The calls of the actuators on the queues of the services. -/
def actuatorCalls : List TbotActuators.PinCall → List Event
  | [] => [.actuatorGet]
  | _ :: _ => []

/-- The steps of the services that answer a step of the robot. -/
def servicesEvents (s : System) (event : SystemEvent) : List Event :=
  if s.undefined then []
  else match event with
    | .rcMessage data => [.rcMessage data]
    | .receiver => [.receiver]
    | .canFrame frame => [.canFrame frame]
    | .messengerRx => [.messengerRx]
    | .messengerTx => messengerTxCalls s.messengerTx
    | .coordinator => [.coordinator]
    | .estimate _ => []
    | .encoder => []
    | .motionControl => s.motionControl.calls
    | .speedControl => speedControlCalls s.speedControl
    | .actuator => actuatorCalls s.pinCalls

/-- The services end where the robot's do and put the same. -/
structure ServicesAnswer (s : System) (calls : List Event) (answer : System × List SystemOutput) : Prop where
  state : answer.1.services = machine.runFrom s.services calls
  shown : machine.observedFrom (fun s event => (step s event).2) s.services calls =
    answer.2.filterMap services?

theorem servicesAnswer_services (event : Event) : ServicesAnswer s [event] (s.servicesStep event) := by
  refine ⟨rfl, ?_⟩
  change (step s.services event).2 ++ [] = ((step s.services event).2.map services).filterMap services?
  rw [List.append_nil, services?_services]

theorem servicesAnswer_messengerRx : ServicesAnswer s [.messengerRx] s.messengerRxStep := by
  obtain ⟨source, same⟩ := messengerRxStep_eq s
  rw [same]
  exact ⟨(servicesAnswer_services s .messengerRx).state, (servicesAnswer_services s .messengerRx).shown⟩

theorem servicesAnswer_motionControl :
    ServicesAnswer s s.motionControl.calls s.motionControlStep := by
  have move := motionControlStep_move s
  generalize s.motionControlStep = answer at move ⊢
  unfold MotionControl.calls
  cases move with
  | idle at_pc taken =>
    rw [at_pc]
    refine ⟨?_, rfl⟩
    simp only [Machine.runFrom, machine, step, MessageQueue.afterGet, taken]
  | undefined motion queue at_pc taken =>
    rw [at_pc]
    refine ⟨?_, rfl⟩
    simp only [Machine.runFrom, machine, step, MessageQueue.afterGet, taken]
  | take message queue at_pc taken =>
    rw [at_pc]
    refine ⟨?_, rfl⟩
    simp only [Machine.runFrom, machine, step, MessageQueue.afterGet, taken]
  | put queue at_pc success =>
    rw [at_pc]
    refine ⟨?_, rfl⟩
    simp only [Machine.runFrom, machine, step, success, Option.getD_some]
  | full at_pc full =>
    rw [at_pc]
    refine ⟨?_, rfl⟩
    simp only [Machine.runFrom, machine, step, full, Option.getD_none]
  | purge at_pc =>
    rw [at_pc]
    exact ⟨rfl, rfl⟩

/-- What the speed control takes from the queue is read without its stamp. -/
theorem afterGet_stamped {α τ : Type*} {capacity : ℕ} {stamp : τ} {queue : MessageQueue α capacity}
    {taken : Option (Stamped α τ × MessageQueue (Stamped α τ) capacity)}
    (get : (queue.map fun message => Stamped.mk message stamp).get = taken) :
    (taken.elim queue fun answer => answer.2.map Stamped.val) = queue.afterGet := by
  rw [MessageQueue.get_map] at get
  unfold MessageQueue.afterGet
  subst get
  cases queue.get with
  | none => rfl
  | some answer => exact map_stamped stamp answer.2

theorem servicesAnswer_speedControl :
    ServicesAnswer s (speedControlCalls s.speedControl) s.speedControlStep := by
  have move := Speed.speedControlStep_move s.speed
  have view : s.speed.speedControl = s.speedControl := rfl
  have same := map_stamped s.rpmSource s.services.desiredRpmQueue
  unfold System.speedControlStep speedControlCalls
  generalize Speed.speedControlStep s.speed = answer at move ⊢
  cases move with
  | estimate estimate queue at_pc taken =>
    rw [view] at at_pc
    rw [at_pc]
    refine ⟨?_, rfl⟩
    simp only [System.withSpeed, System.speed, same, Machine.runFrom]
  | noEstimate at_pc taken =>
    rw [view] at at_pc
    rw [at_pc]
    refine ⟨?_, rfl⟩
    simp only [System.withSpeed, System.speed, same, Machine.runFrom]
  | target rpm queue at_pc taken =>
    rw [view] at at_pc
    rw [at_pc]
    refine ⟨?_, rfl⟩
    have left : queue.map Stamped.val = s.services.desiredRpmQueue.afterGet := afterGet_stamped taken
    simp only [System.withSpeed, System.speed, left, Machine.runFrom, machine, step]
  | noTarget at_pc taken =>
    rw [view] at at_pc
    rw [at_pc]
    refine ⟨?_, rfl⟩
    have left : s.services.desiredRpmQueue = s.services.desiredRpmQueue.afterGet := afterGet_stamped taken
    simp only [System.withSpeed, System.speed, same, ← left, Machine.runFrom, machine, step]
  | putCmd queue at_pc success =>
    rw [view] at at_pc
    rw [at_pc]
    refine ⟨?_, rfl⟩
    simp only [System.speed] at success
    simp only [System.withSpeed, System.speed, same, success, Option.getD_some, Machine.runFrom, machine,
      step]
  | cmdFull at_pc full =>
    rw [view] at at_pc
    rw [at_pc]
    refine ⟨?_, rfl⟩
    simp only [System.speed] at full
    simp only [System.withSpeed, System.speed, same, full, Option.getD_none, Machine.runFrom, machine,
      step]
  | cmdPurge at_pc =>
    rw [view] at at_pc
    rw [at_pc]
    refine ⟨?_, rfl⟩
    simp only [System.withSpeed, System.speed, same, Machine.runFrom, machine, step]
  | putFeedback queue at_pc success =>
    rw [view] at at_pc
    rw [at_pc]
    refine ⟨?_, rfl⟩
    simp only [System.withSpeed, System.speed, same, Machine.runFrom]
  | retryFeedback queue purging retry at_pc sublist =>
    rw [view] at at_pc
    rw [at_pc]
    refine ⟨?_, rfl⟩
    simp only [System.withSpeed, System.speed, same, Machine.runFrom]

theorem servicesAnswer_messengerTx :
    ServicesAnswer s (messengerTxCalls s.messengerTx) (s.messengerTxStep uplink) := by
  have move := Speed.messengerTxStep_move uplink s.speed
  have view : s.speed.messengerTx = s.messengerTx := rfl
  have same := map_stamped s.rpmSource s.services.desiredRpmQueue
  unfold System.messengerTxStep
  generalize Speed.messengerTxStep uplink s.speed = answer at move ⊢
  cases move with
  | feedback feedback queue at_pc taken =>
    rw [view] at at_pc
    rw [at_pc]
    refine ⟨?_, (services?_feedback _).symm⟩
    simp only [System.withSpeed, System.speed, same, messengerTxCalls, Machine.runFrom]
  | state state queue at_pc taken =>
    rw [view] at at_pc
    rw [at_pc]
    refine ⟨?_, (services?_feedback _).symm⟩
    simp only [System.speed] at taken
    simp only [System.withSpeed, System.speed, same, messengerTxCalls, Machine.runFrom, machine, step,
      MessageQueue.afterGet, taken]
  | noFeedback at_pc taken =>
    rw [view] at at_pc
    rw [at_pc]
    refine ⟨?_, rfl⟩
    simp only [System.withSpeed, System.speed, same, messengerTxCalls, Machine.runFrom]
  | noState at_pc taken =>
    rw [view] at at_pc
    rw [at_pc]
    refine ⟨?_, rfl⟩
    simp only [System.speed] at taken
    simp only [System.withSpeed, System.speed, same, messengerTxCalls, Machine.runFrom, machine, step,
      MessageQueue.afterGet, taken]

theorem servicesAnswer_actuator : ServicesAnswer s (actuatorCalls s.pinCalls) (s.actuatorStep conf) := by
  have move := actuatorStep_move conf s
  generalize s.actuatorStep conf = answer at move ⊢
  cases move with
  | idle made taken =>
    rw [made]
    refine ⟨?_, rfl⟩
    simp only [actuatorCalls, Machine.runFrom, machine, step, MessageQueue.afterGet, taken]
  | take cmd queue made taken =>
    rw [made]
    refine ⟨?_, rfl⟩
    simp only [actuatorCalls, Machine.runFrom, machine, step, MessageQueue.afterGet, taken]
  | write call rest left =>
    rw [left]
    exact ⟨rfl, rfl⟩

theorem servicesAnswer_encoder : ServicesAnswer s [] (s.encoderStep, []) := by
  refine ⟨?_, rfl⟩
  unfold System.encoderStep
  split
  · rfl
  · split <;> rfl

theorem servicesAnswer_step (event : SystemEvent) :
    ServicesAnswer s (servicesEvents s event) (s.step conf uplink event) := by
  unfold servicesEvents System.step
  split
  · exact ⟨rfl, rfl⟩
  · cases event with
    | rcMessage data => exact servicesAnswer_services s (.rcMessage data)
    | receiver => exact servicesAnswer_services s .receiver
    | canFrame frame => exact servicesAnswer_services s (.canFrame frame)
    | messengerRx => exact servicesAnswer_messengerRx s
    | messengerTx => exact servicesAnswer_messengerTx uplink s
    | coordinator => exact servicesAnswer_services s .coordinator
    | estimate estimate => simp only [System.act]; split <;> exact ⟨rfl, rfl⟩
    | encoder => exact servicesAnswer_encoder s
    | motionControl => exact servicesAnswer_motionControl s
    | speedControl => exact servicesAnswer_speedControl s
    | actuator => exact servicesAnswer_actuator conf s

/-- What the services put in a step of the robot. -/
def servicesShown (conf : TbotActuatorConf) (uplink : Uplink) (s : System) (event : SystemEvent) :
    List Output := (s.step conf uplink event).2.filterMap services?

/-- The robot contains its services. -/
def servicesSimulation (before : Pins) : Simulation (system conf uplink before) machine
    (servicesShown conf uplink) (fun s event => (step s event).2) where
  relation s services := services = s.services
  translate := servicesEvents
  start := rfl
  step s services event same := by
    obtain ⟨state, shown⟩ := servicesAnswer_step conf uplink s event
    rw [same]
    exact ⟨state.symm, shown⟩

/-! ## The speed control -/

/-- The calls of the RX thread as the module of the speed control has them: a put into another queue is one
step, its last. -/
def messengerRxCalls (services : State) : List Speed.Event :=
  match services.messengerRx with
  | none => []
  | some rx =>
    match rx.job with
    | .supervisorCmd _ | .desiredMotion _ =>
      if (messengerRxStep services).1.messengerRx.isNone then [.messengerRx] else []
    | .actuatorCmd _ | .desiredRpm _ => [.messengerRx]

/-- The calls of the coordinator on the robot state queue. -/
def coordinatorCalls (c : Coordinator) : List Speed.Event :=
  match c.pc with
  | .putState false => [.coordinatorPut c.robotState]
  | .putState true => [.coordinatorPurge]
  | _ => []

/-- The calls of the motion control on the queue of the wheel targets. -/
def MotionControl.targetCalls (c : MotionControl) : List Speed.Event :=
  match c.putting with
  | none => []
  | some false => [.motionControlPut c.prevTargetRpm]
  | some true => [.motionControlPurge]

/-- The calls of the encoder on its queue. -/
def encoderCalls : Option (Encoder.EstimatedSpeed × Bool) → List Speed.Event
  | none => []
  | some (estimate, false) => [.encoderPut estimate]
  | some (_, true) => [.encoderPurge]

/-- The calls of the actuators on their queue. -/
def commandCalls : List TbotActuators.PinCall → List Speed.Event
  | [] => [.actuatorGet]
  | _ :: _ => []

/-- The steps of the speed control's module that answer a step of the robot. -/
def speedEvents (s : System) (event : SystemEvent) : List Speed.Event :=
  if s.undefined then []
  else match event with
    | .rcMessage _ => []
    | .receiver => []
    | .canFrame frame => [.canFrame frame]
    | .messengerRx => messengerRxCalls s.services
    | .messengerTx => [.messengerTx]
    | .coordinator => coordinatorCalls s.services.coordinator
    | .estimate _ => []
    | .encoder => encoderCalls s.encoder
    | .motionControl => s.motionControl.targetCalls
    | .speedControl => [.speedControl]
    | .actuator => commandCalls s.pinCalls

/-- The module ends where the robot's parts do and publishes and sends the same. -/
structure SpeedAnswer (uplink : Uplink) (s : System) (calls : List Speed.Event)
    (answer : System × List SystemOutput) : Prop where
  state : answer.1.speed = (Speed.machine uplink).runFrom s.speed calls
  shown : (Speed.machine uplink).observedFrom (fun s event => (Speed.step uplink s event).2) s.speed
    calls = answer.2.filterMap feedback?

variable {s}

/-- What has been worked on is seen again, when the ghost still says where the targets come from. -/
theorem speed_withSpeed {t : Speed.State} (rx : t.messengerRx = s.speed.messengerRx)
    (stamps : ∀ target ∈ t.desiredRpmQueue.items, target.stamp = s.rpmSource) :
    (s.withSpeed t).speed = t := by
  have queue : (t.desiredRpmQueue.map Stamped.val).map (⟨·, s.rpmSource⟩) = t.desiredRpmQueue := by
    apply MessageQueue.eq_of_items
    rw [MessageQueue.items_map, MessageQueue.items_map, List.map_map]
    refine (List.map_congr_left fun target member => ?_).trans (List.map_id _)
    rw [Function.comp_apply, ← stamps target member]
    rfl
  change Speed.State.mk ((t.desiredRpmQueue.map Stamped.val).map (⟨·, s.rpmSource⟩)) t.encoderRpmQueue
    t.actuatorDataQueue t.feedbackQueue t.robotStateQueue s.speed.messengerRx t.speedControl
    t.messengerTx = t
  rw [queue, ← rx]

theorem stamps_speed (s : System) : ∀ target ∈ s.speed.desiredRpmQueue.items, target.stamp = s.rpmSource := by
  intro target member
  obtain ⟨rpm, -, rfl⟩ := List.mem_map.mp member
  rfl

variable (s)

theorem speedAnswer_speedControl : SpeedAnswer uplink s [.speedControl] s.speedControlStep := by
  have move := Speed.speedControlStep_move s.speed
  have stamps := stamps_speed s
  refine ⟨?_, ?_⟩
  · change (s.withSpeed (Speed.speedControlStep s.speed).1).speed = (Speed.speedControlStep s.speed).1
    generalize Speed.speedControlStep s.speed = answer at move
    cases move with
    | target rpm queue at_pc taken =>
      refine speed_withSpeed rfl fun target member => stamps target ?_
      rw [MessageQueue.get_eq_some taken]
      exact List.mem_cons_of_mem _ member
    | _ => exact speed_withSpeed rfl stamps
  · have shown : s.speedControlStep.2.filterMap feedback? = (Speed.speedControlStep s.speed).2 := by
      unfold System.speedControlStep
      rw [List.filterMap_append, feedback?_feedback, feedback?_command]
      rfl
    rw [shown]
    exact List.append_nil _

theorem speedAnswer_messengerTx : SpeedAnswer uplink s [.messengerTx] (s.messengerTxStep uplink) := by
  have move := Speed.messengerTxStep_move uplink s.speed
  refine ⟨?_, ?_⟩
  · change (s.withSpeed (Speed.messengerTxStep uplink s.speed).1).speed =
      (Speed.messengerTxStep uplink s.speed).1
    generalize Speed.messengerTxStep uplink s.speed = answer at move
    cases move <;> exact speed_withSpeed rfl (stamps_speed s)
  · change (Speed.messengerTxStep uplink s.speed).2 ++ [] = List.filterMap feedback? (List.map _ _)
    rw [List.append_nil, feedback?_feedback]
    rfl

theorem speedAnswer_motionControl :
    SpeedAnswer uplink s s.motionControl.targetCalls s.motionControlStep := by
  have move := motionControlStep_move s
  generalize s.motionControlStep = answer at move ⊢
  unfold MotionControl.targetCalls
  have put := s.services.desiredRpmQueue.put_stamped s.motionControl.prevTargetRpm s.rpmSource none
  cases move with
  | idle at_pc => rw [at_pc]; exact ⟨rfl, rfl⟩
  | undefined motion queue at_pc => rw [at_pc]; exact ⟨rfl, rfl⟩
  | take message queue at_pc => rw [at_pc]; exact ⟨rfl, rfl⟩
  | put queue at_pc success =>
    rw [at_pc]
    refine ⟨?_, rfl⟩
    rw [success] at put
    simp only [System.speed, Machine.runFrom, Speed.machine, Speed.step, put, Option.map_some,
      Option.getD_some]
  | full at_pc full =>
    rw [at_pc]
    refine ⟨?_, rfl⟩
    rw [full] at put
    simp only [System.speed, Machine.runFrom, Speed.machine, Speed.step, put, Option.map_none,
      Option.getD_none]
  | purge at_pc => rw [at_pc]; exact ⟨rfl, rfl⟩

theorem speedAnswer_encoder : SpeedAnswer uplink s (encoderCalls s.encoder) (s.encoderStep, []) := by
  unfold System.encoderStep encoderCalls
  cases s.encoder with
  | none => exact ⟨rfl, rfl⟩
  | some putting =>
    rcases putting with ⟨estimate, purging⟩
    cases purging with
    | true => exact ⟨rfl, rfl⟩
    | false =>
      refine ⟨?_, rfl⟩
      simp only [MessageQueue.attempt, Bool.false_eq_true, if_false]
      cases success : s.encoderRpmQueue.put estimate <;>
        simp only [System.speed, Machine.runFrom, Speed.machine, Speed.step, success, Option.getD_some,
          Option.getD_none]

theorem speedAnswer_actuator :
    SpeedAnswer uplink s (commandCalls s.pinCalls) (s.actuatorStep conf) := by
  have move := actuatorStep_move conf s
  generalize s.actuatorStep conf = answer at move ⊢
  cases move with
  | idle made taken =>
    rw [made]
    refine ⟨?_, rfl⟩
    simp only [System.speed, commandCalls, Machine.runFrom, Speed.machine, Speed.step,
      MessageQueue.afterGet, taken]
  | take cmd queue made taken =>
    rw [made]
    refine ⟨?_, rfl⟩
    simp only [System.speed, commandCalls, Machine.runFrom, Speed.machine, Speed.step,
      MessageQueue.afterGet, taken]
  | write call rest left =>
    rw [left]
    exact ⟨rfl, rfl⟩

/-- A step of the services shows the module nothing but its calls. -/
theorem speedAnswer_services {event : Event} {calls : List Speed.Event}
    (state : ({ s with services := (step s.services event).1 } : System).speed =
      (Speed.machine uplink).runFrom s.speed calls)
    (silent : (Speed.machine uplink).observedFrom (fun s event => (Speed.step uplink s event).2) s.speed
      calls = []) : SpeedAnswer uplink s calls (s.servicesStep event) :=
  ⟨state, silent.trans (feedback?_services _).symm⟩

theorem speedAnswer_rcMessage (data : ReceiverData) :
    SpeedAnswer uplink s [] (s.servicesStep (.rcMessage data)) := by
  refine speedAnswer_services uplink s ?_ rfl
  obtain ⟨receiver, effect⟩ := step_rcMessage s.services data
  rw [effect]
  rfl

theorem speedAnswer_receiver : SpeedAnswer uplink s [] (s.servicesStep .receiver) := by
  refine speedAnswer_services uplink s ?_ rfl
  simp only [step, receiverStep]
  split
  · rfl
  · split <;> rfl

/-- The RX thread after a frame has come, in either module. -/
def takeFrame (rx : Option RxThread) (frame : ZcanFrame) : Option RxThread :=
  if rx.isNone then
    match decoded : rxJob? frame with
    | some job => some ⟨frame, job, decoded, false⟩
    | none => rx
  else rx

/-- A step on a frame changes the RX thread only. -/
theorem match_takeFrame {α : Type*} (build : Option RxThread → α) (rx : Option RxThread)
    (frame : ZcanFrame) :
    (if rx.isNone then
      match decoded : rxJob? frame with
      | some job => build (some ⟨frame, job, decoded, false⟩)
      | none => build rx
    else build rx) = build (takeFrame rx frame) := by
  unfold takeFrame
  split
  · split <;> rfl
  · rfl

theorem step_takeFrame (services : State) (frame : ZcanFrame) :
    step services (.canFrame frame) =
      ({ services with messengerRx := takeFrame services.messengerRx frame }, []) :=
  match_takeFrame (fun rx => (({ services with messengerRx := rx } : State), [])) services.messengerRx frame

theorem speed_step_takeFrame (speed : Speed.State) (frame : ZcanFrame) :
    Speed.step uplink speed (.canFrame frame) =
      ({ speed with messengerRx := takeFrame speed.messengerRx frame }, []) :=
  match_takeFrame (fun rx => (({ speed with messengerRx := rx } : Speed.State), [])) speed.messengerRx frame

/-- A frame that is taken up has not been put. -/
theorem forSpeed_takeFrame (rx : Option RxThread) (frame : ZcanFrame) :
    (takeFrame rx frame).map RxThread.forSpeed = takeFrame (rx.map RxThread.forSpeed) frame := by
  cases rx with
  | some rx => rfl
  | none =>
    simp only [takeFrame, Option.isNone_none, Option.map_none, if_true]
    split
    case h_1 job decoded => cases job <;> rfl
    case h_2 => rfl

theorem speedAnswer_canFrame (frame : ZcanFrame) :
    SpeedAnswer uplink s [.canFrame frame] (s.servicesStep (.canFrame frame)) := by
  have silent : (Speed.step uplink s.speed (.canFrame frame)).2 = [] := by rw [speed_step_takeFrame]
  refine speedAnswer_services uplink s ?_ (by rw [Machine.observedFrom_cons, silent]; rfl)
  change _ = (Speed.step uplink s.speed (.canFrame frame)).1
  rw [step_takeFrame, speed_step_takeFrame]
  simp only [System.speed, forSpeed_takeFrame]

theorem speedAnswer_coordinator :
    SpeedAnswer uplink s (coordinatorCalls s.services.coordinator) (s.servicesStep .coordinator) := by
  unfold coordinatorCalls
  split
  case h_1 at_pc =>
    refine speedAnswer_services uplink s ?_ rfl
    simp only [step, coordinatorStep, at_pc, MessageQueue.attempt, Bool.false_eq_true, if_false]
    cases success : s.services.robotStateQueue.put s.services.coordinator.robotState <;>
      simp only [System.speed, Machine.runFrom, Speed.machine, Speed.step, success, Option.getD_some,
        Option.getD_none]
  case h_2 at_pc =>
    refine speedAnswer_services uplink s ?_ rfl
    simp only [step, coordinatorStep, at_pc]
    rfl
  case h_3 notFalse notTrue =>
    refine speedAnswer_services uplink s ?_ rfl
    simp only [step, coordinatorStep]
    cases at_pc : s.services.coordinator.pc with
    | putState purging =>
      cases purging with
      | false => exact absurd at_pc notFalse
      | true => exact absurd at_pc notTrue
    | _ => dsimp only; split <;> rfl

theorem speedAnswer_messengerRx :
    SpeedAnswer uplink s (messengerRxCalls s.services) s.messengerRxStep := by
  have move := messengerRxStep_move s.services
  simp only [messengerRxCalls, System.messengerRxStep, System.servicesStep, step]
  generalize messengerRxStep s.services = answer at move ⊢
  cases move with
  | idle idle =>
    rw [idle]
    exact ⟨rfl, rfl⟩
  | supervisorCmd rx mode queue outcome running job =>
    simp only [running, job]
    cases outcome
    all_goals
      refine ⟨?_, rfl⟩
      simp [RxThread.next, Machine.runFrom, Speed.machine, Speed.step, Speed.messengerRxStep,
        System.speed, running, RxThread.forSpeed, job]
  | desiredMotion rx motion queue outcome running job =>
    simp only [running, job]
    cases outcome
    all_goals
      refine ⟨?_, rfl⟩
      simp [RxThread.next, Machine.runFrom, Speed.machine, Speed.step, Speed.messengerRxStep,
        System.speed, running, RxThread.forSpeed, job]
  | actuatorCmd rx cmd queue outcome running job attempted =>
    rcases rx with ⟨frame, _, decoded, purging⟩
    obtain rfl : _ = RxJob.actuatorCmd cmd := job
    have view : s.speed.messengerRx = some ⟨frame, .actuatorCmd cmd, decoded, purging⟩ := by
      simp only [System.speed, running, Option.map_some, RxThread.forSpeed]
    have own : s.speed.actuatorDataQueue.attempt purging cmd = (queue, outcome) := attempted
    have next : Speed.messengerRxStep s.speed = { s.speed with
        actuatorDataQueue := queue
        messengerRx := RxThread.next ⟨frame, .actuatorCmd cmd, decoded, purging⟩ outcome } := by
      simp only [Speed.messengerRxStep, view, own]
    simp only [running]
    cases outcome <;> exact ⟨next.symm, rfl⟩
  | desiredRpm rx rpm queue outcome running job attempted =>
    rcases rx with ⟨frame, _, decoded, purging⟩
    obtain rfl : _ = RxJob.desiredRpm rpm := job
    have view : s.speed.messengerRx = some ⟨frame, .desiredRpm rpm, decoded, purging⟩ := by
      simp only [System.speed, running, Option.map_some, RxThread.forSpeed]
    have stamped : s.speed.desiredRpmQueue.attempt purging ⟨rpm, some frame⟩ = _ :=
      MessageQueue.attempt_stamped attempted s.rpmSource (some frame)
    have next : Speed.messengerRxStep s.speed = { s.speed with
        desiredRpmQueue := queue.map (⟨·, if outcome = .done then some frame else s.rpmSource⟩)
        messengerRx := RxThread.next ⟨frame, .desiredRpm rpm, decoded, purging⟩ outcome } := by
      simp only [Speed.messengerRxStep, view, stamped]
    simp only [running]
    cases outcome <;> exact ⟨next.symm, rfl⟩

theorem speedAnswer_step (event : SystemEvent) :
    SpeedAnswer uplink s (speedEvents s event) (s.step conf uplink event) := by
  unfold speedEvents System.step
  split
  · exact ⟨rfl, rfl⟩
  · cases event with
    | rcMessage data => exact speedAnswer_rcMessage uplink s data
    | receiver => exact speedAnswer_receiver uplink s
    | canFrame frame => exact speedAnswer_canFrame uplink s frame
    | messengerRx => exact speedAnswer_messengerRx uplink s
    | messengerTx => exact speedAnswer_messengerTx uplink s
    | coordinator => exact speedAnswer_coordinator uplink s
    | estimate estimate => simp only [System.act]; split <;> exact ⟨rfl, rfl⟩
    | encoder => exact speedAnswer_encoder uplink s
    | motionControl => exact speedAnswer_motionControl uplink s
    | speedControl => exact speedAnswer_speedControl uplink s
    | actuator => exact speedAnswer_actuator conf uplink s

/-- What the speed control publishes and the TX thread sends in a step of the robot. -/
def feedbackShown (conf : TbotActuatorConf) (uplink : Uplink) (s : System) (event : SystemEvent) :
    List Speed.Output := (s.step conf uplink event).2.filterMap feedback?

/-- The robot contains the module of the speed control. -/
def speedSimulation (before : Pins) : Simulation (system conf uplink before) (Speed.machine uplink)
    (feedbackShown conf uplink) (fun s event => (Speed.step uplink s event).2) where
  relation s speed := speed = s.speed
  translate := speedEvents
  start := rfl
  step s speed event same := by
    obtain ⟨state, shown⟩ := speedAnswer_step conf uplink s event
    rw [same]
    exact ⟨state.symm, shown⟩

/-- The inputs of the services in a step of the robot are those of the step. -/
theorem input_servicesEvents {s : System} {event : SystemEvent} {call : Event}
    (called : call ∈ servicesEvents s event) :
    (∀ data, call = .rcMessage data → event = .rcMessage data) ∧
      ∀ frame, call = .canFrame frame → event = .canFrame frame := by
  unfold servicesEvents at called
  split at called
  · exact absurd called List.not_mem_nil
  · split at called
    case h_1 data => obtain rfl := List.mem_singleton.mp called; simp
    case h_3 frame => obtain rfl := List.mem_singleton.mp called; simp
    case h_5 => unfold messengerTxCalls at called; split at called <;> simp_all
    case h_9 => unfold MotionControl.calls at called; split at called <;> simp_all
    case h_10 => unfold speedControlCalls at called; split at called <;> simp_all
    case h_11 => unfold actuatorCalls at called; split at called <;> simp_all
    all_goals simp_all

/-! ## The runs -/

variable (before : Pins) (events : List SystemEvent)

/-- The inputs of the services in a run of the robot are those of the run. -/
theorem input_calls {call : Event}
    (called : call ∈ (system conf uplink before).observed servicesEvents events) :
    (∀ data, call = .rcMessage data → .rcMessage data ∈ events) ∧
      ∀ frame, call = .canFrame frame → .canFrame frame ∈ events := by
  obtain ⟨⟨state, event⟩, member, own⟩ := Machine.mem_observed.mp called
  obtain ⟨past, future, rfl, -⟩ := Machine.mem_steps_iff.mp member
  have inputs := input_servicesEvents own
  refine ⟨fun data same => ?_, fun frame same => ?_⟩
  · rw [← inputs.1 data same]
    simp
  · rw [← inputs.2 frame same]
    simp

/-- Every run of the whole TBot is a run of its services, on the RC messages and the CAN frames of the
robot, that ends in their state and puts the same messages. -/
theorem system_services : ∃ calls : List Event,
    (∀ data, .rcMessage data ∈ calls → .rcMessage data ∈ events) ∧
      (∀ frame, .canFrame frame ∈ calls → .canFrame frame ∈ events) ∧
      machine.run calls = ((system conf uplink before).run events).services ∧
      machine.observed (fun s event => (step s event).2) calls =
        (system conf uplink before).observed (servicesShown conf uplink) events :=
  have ⟨state, shown⟩ := (servicesSimulation conf uplink before).run events
  ⟨_, fun data called => (input_calls conf uplink before events called).1 data rfl,
    fun frame called => (input_calls conf uplink before events called).2 frame rfl, state, shown⟩

/-- Every run of the whole TBot is a run of the module of the speed control, that ends in the state of
its parts, publishes the same feedback and sends the same frames. -/
theorem system_speed : ∃ calls : List Speed.Event,
    (Speed.machine uplink).run calls = ((system conf uplink before).run events).speed ∧
      (Speed.machine uplink).observed (fun s event => (Speed.step uplink s event).2) calls =
        (system conf uplink before).observed (feedbackShown conf uplink) events :=
  ⟨_, (speedSimulation conf uplink before).run events⟩

end Robofw.Model.Tbot
