import Robofw.Model.MotionControl
import Robofw.Model.TbotActuators
import Robofw.Model.TbotFeedback

/-! # The whole TBot

Every thread of `app/tbot/tbot_interface.c` on the queues that join them, interleaved queue call by queue
call and pin write by pin write, from the data of the receiver and the encoder and the frames of the CAN
bus to the frames sent and the pins of the motors. The threads of the coordinator, the messenger and the
speed control make the steps of their own modules on the part of the state that they work on.

A wheel target that does not fit `int16_t` is undefined in C: it is an output of its own, and the run says
nothing more after it. A ghost keeps the CAN frame that commanded the target in the queue.
-/

namespace Robofw.Model.Tbot

open Robofw.Core
open Robofw.Model.Encoder (EstimatedSpeed)
open Robofw.Model.Speed (SpeedControl SpeedControlFeedback)
open Robofw.Model.TbotActuators (Pins PinCall TbotActuatorConf applyCalls processCmd initTbotActuators)

/-- The locals of `MotionServiceLoop`: the saved target, which is also the one in its put-or-purge loop,
and where that loop stands. -/
structure MotionControl where
  prevTargetRpm : DesiredRpm
  putting : Option Bool

/-- The data of all threads. `pinCalls` are the calls of `SetMotorCmd` that the actuators have still to make
for the command that they took. -/
structure System where
  services : State
  rpmSource : Option ZcanFrame
  encoderRpmQueue : MessageQueue EstimatedSpeed 1
  feedbackQueue : MessageQueue SpeedControlFeedback 1
  encoder : Option (EstimatedSpeed × Bool)
  motionControl : MotionControl
  speedControl : SpeedControl
  messengerTx : Speed.TxPc
  pins : Pins
  pinCalls : List PinCall
  undefined : Bool

/-- An input that a thread takes, or the next call of a thread on a queue or a pin. -/
inductive SystemEvent where
  | rcMessage (data : ReceiverData)
  | receiver
  | canFrame (frame : ZcanFrame)
  | messengerRx
  | messengerTx
  | coordinator
  | estimate (estimate : EstimatedSpeed)
  | encoder
  | motionControl
  | speedControl
  | actuator
deriving DecidableEq

/-- A put of the receiver, the messenger or the coordinator; a feedback put or a frame sent; a target of
the motion control put; a command of the speed control put; a command that the actuators take and carry
out; or a motion whose targets are undefined. -/
inductive SystemOutput where
  | services (output : Output)
  | feedback (output : Speed.Output)
  | target (rpm : DesiredRpm)
  | command (cmd : ActuatorCmd)
  | driven (cmd : ActuatorCmd)
  | undefinedTarget (motion : DesiredMotion)
deriving DecidableEq

/-- The RX thread as the module of the speed control has it: a put into a queue that is not there is one
step, and its loop has not begun. -/
def RxThread.forSpeed (rx : RxThread) : RxThread :=
  match rx.job with
  | .supervisorCmd _ | .desiredMotion _ => { rx with purging := false }
  | .actuatorCmd _ | .desiredRpm _ => rx

namespace System

/-- The parts that the speed control and the TX thread work on. -/
def speed (s : System) : Speed.State where
  desiredRpmQueue := s.services.desiredRpmQueue.map (⟨·, s.rpmSource⟩)
  encoderRpmQueue := s.encoderRpmQueue
  actuatorDataQueue := s.services.actuatorDataQueue
  feedbackQueue := s.feedbackQueue
  robotStateQueue := s.services.robotStateQueue
  messengerRx := s.services.messengerRx.map RxThread.forSpeed
  speedControl := s.speedControl
  messengerTx := s.messengerTx

/-- The speed control or the TX thread has worked on its parts. -/
def withSpeed (s : System) (speed : Speed.State) : System :=
  { s with
    services := { s.services with
      desiredRpmQueue := speed.desiredRpmQueue.map Stamped.val
      actuatorDataQueue := speed.actuatorDataQueue
      robotStateQueue := speed.robotStateQueue }
    encoderRpmQueue := speed.encoderRpmQueue
    feedbackQueue := speed.feedbackQueue
    speedControl := speed.speedControl
    messengerTx := speed.messengerTx }

/-- A thread of the coordinator, the messenger or the receiver makes its step. -/
def servicesStep (s : System) (event : Event) : System × List SystemOutput :=
  let (services, outputs) := Tbot.step s.services event
  ({ s with services := services }, outputs.map .services)

/-- The RX thread's step; a target that it puts comes from its frame. -/
def messengerRxStep (s : System) : System × List SystemOutput :=
  let (next, outputs) := s.servicesStep .messengerRx
  match outputs with
  | [.services (.desiredRpm _)] =>
    ({ next with rpmSource := s.services.messengerRx.map (·.frame) }, outputs)
  | _ => (next, outputs)

/-- The encoder's next call in its put-or-purge loop. -/
def encoderStep (s : System) : System :=
  match s.encoder with
  | none => s
  | some (estimate, purging) =>
    match s.encoderRpmQueue.attempt purging estimate with
    | (queue, .done) => { s with encoderRpmQueue := queue, encoder := none }
    | (queue, outcome) =>
      { s with encoderRpmQueue := queue, encoder := some (estimate, outcome == .full) }

/-- The motion control's next queue call and the code up to the one after it. -/
def motionControlStep (s : System) : System × List SystemOutput :=
  let c := s.motionControl
  match c.putting with
  | none =>
    match s.services.desiredMotionQueue.get with
    | none => (s, [])
    | some (motion, queue) =>
      let taken := { s with services := { s.services with desiredMotionQueue := queue } }
      match fits : Motion.targetRpm motion with
      | none => ({ taken with undefined := true }, [.undefinedTarget motion])
      | some target =>
        let targetRpm := (Motion.motionStep c.prevTargetRpm ⟨motion, target, fits⟩).1
        ({ taken with motionControl := ⟨targetRpm, some false⟩ }, [])
  | some purging =>
    match s.services.desiredRpmQueue.attempt purging c.prevTargetRpm with
    | (queue, .done) =>
      ({ s with
        services := { s.services with desiredRpmQueue := queue }
        rpmSource := none
        motionControl := { c with putting := none } }, [.target c.prevTargetRpm])
    | (queue, outcome) =>
      ({ s with
        services := { s.services with desiredRpmQueue := queue }
        motionControl := { c with putting := some (outcome == .full) } }, [])

/-- The speed control's step, which puts a command exactly when it leaves the loop of that put. -/
def speedControlStep (s : System) : System × List SystemOutput :=
  let (speed, outputs) := Speed.speedControlStep s.speed
  let put := s.speedControl.pc == .putCmd false && speed.speedControl.pc == .putFeedback false
  (s.withSpeed speed,
    (if put then [.command s.speedControl.actuatorCmd] else []) ++ outputs.map .feedback)

def messengerTxStep (uplink : Uplink) (s : System) : System × List SystemOutput :=
  let (speed, outputs) := Speed.messengerTxStep uplink s.speed
  (s.withSpeed speed, outputs.map .feedback)

/-- `TbotActuatorServiceLoop` waits for a command and writes the pins for it, one call after another. -/
def actuatorStep (conf : TbotActuatorConf) (s : System) : System × List SystemOutput :=
  match s.pinCalls with
  | [] =>
    match s.services.actuatorDataQueue.get with
    | none => (s, [])
    | some (cmd, queue) =>
      ({ s with
        services := { s.services with actuatorDataQueue := queue }
        pinCalls := processCmd cmd }, [.driven cmd])
  | call :: rest => ({ s with pins := call.apply conf s.pins, pinCalls := rest }, [])

/-- One event while the run is defined. -/
def act (conf : TbotActuatorConf) (uplink : Uplink) (s : System) :
    SystemEvent → System × List SystemOutput
  | .rcMessage data => s.servicesStep (.rcMessage data)
  | .receiver => s.servicesStep .receiver
  | .canFrame frame => s.servicesStep (.canFrame frame)
  | .messengerRx => s.messengerRxStep
  | .messengerTx => s.messengerTxStep uplink
  | .coordinator => s.servicesStep .coordinator
  | .estimate estimate =>
    if s.encoder.isNone then ({ s with encoder := some (estimate, false) }, []) else (s, [])
  | .encoder => (s.encoderStep, [])
  | .motionControl => s.motionControlStep
  | .speedControl => s.speedControlStep
  | .actuator => s.actuatorStep conf

def step (conf : TbotActuatorConf) (uplink : Uplink) (s : System) (event : SystemEvent) :
    System × List SystemOutput :=
  if s.undefined then (s, []) else s.act conf uplink event

/-- After start-up, with what set-up made of the pins. -/
def initial (conf : TbotActuatorConf) (before : Pins) : System where
  services := .initial
  rpmSource := none
  encoderRpmQueue := .empty
  feedbackQueue := .empty
  encoder := none
  motionControl := ⟨⟨0, 0⟩, none⟩
  speedControl := .initial Speed.speedPeriodMs
  messengerTx := .pollFeedback
  pins := applyCalls conf before initTbotActuators
  pinCalls := []
  undefined := false

end System

/-- The whole TBot. -/
def system (conf : TbotActuatorConf) (uplink : Uplink) (before : Pins) :
    Machine System SystemEvent SystemOutput := ⟨.initial conf before, System.step conf uplink⟩

end Robofw.Model.Tbot
