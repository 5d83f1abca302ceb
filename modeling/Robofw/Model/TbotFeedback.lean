import Robofw.Model.CanInterface
import Robofw.Model.SpeedControl
import Robofw.Model.Tbot

/-! # From the TBot's wheel targets to its feedback frames

`EncodeCanMessage` of `service/robot_tbot/messenger/src/tbot/tbot_messenger.c`, and the messenger and
the speed control interleaved call by call over the queues that join them. The encoder, the motion
control, the coordinator and the actuator appear through their calls on these queues, with any
message. The RX thread puts supervisor commands and motions into queues that are not among them; such
a put is one step here.
-/

namespace Robofw.Model.Tbot

open Robofw.Core

def supervisedStateDataCanId : UInt32 := 0x200
def encoderRawDataCanId : UInt32 := 0x211
def encoderFilteredDataCanId : UInt32 := 0x212
def targetRpmDataCanId : UInt32 := 0x213

/-- `TbotMsg`, tag and union in one: the feedback messages. -/
inductive FeedbackMsg where
  | supervisedStateData (supMode : SupervisedMode)
  | encoderRawData (left right : Int32)
  | encoderFilteredData (left right : Int32)
  | targetRpmData (left right : Int32)
deriving DecidableEq

/-- Three cases of the encoder: two speeds, each with the high byte first. -/
def encodeSpeed (frame : ZcanFrame) (id : UInt32) (left right : Int32) : ZcanFrame :=
  let byte (speed : Int32) (mask shift : UInt32) : UInt8 :=
    ((speed.toUInt32 &&& mask) >>> shift).toUInt8
  let frame := { frame.setId id with dlc := 8 }
  let data := setByte frame.data 0 (byte left 0xff000000 24)
  let data := setByte data 1 (byte left 0x00ff0000 16)
  let data := setByte data 2 (byte left 0x0000ff00 8)
  let data := setByte data 3 (byte left 0x000000ff 0)
  let data := setByte data 4 (byte right 0xff000000 24)
  let data := setByte data 5 (byte right 0x00ff0000 16)
  let data := setByte data 6 (byte right 0x0000ff00 8)
  let data := setByte data 7 (byte right 0x000000ff 0)
  { frame with data := data }

/-- `EncodeCanMessage` -/
def encodeCanMessage (msg : FeedbackMsg) (frame : ZcanFrame) : ZcanFrame :=
  match msg with
  | .supervisedStateData supMode =>
    let frame := { frame.setId supervisedStateDataCanId with dlc := 1 }
    { frame with data := setByte frame.data 0 supMode }
  | .encoderRawData left right => encodeSpeed frame encoderRawDataCanId left right
  | .encoderFilteredData left right => encodeSpeed frame encoderFilteredDataCanId left right
  | .targetRpmData left right => encodeSpeed frame targetRpmDataCanId left right

/-- What stands outside the services: the CAN device, its driver, and what the uninitialised frames of
the TX loop and of `SendCanFrame` held. -/
structure Uplink where
  dd_can : CanDescriptor
  canSend : ZcanFrame → ℤ
  txFrame : ZcanFrame
  sendFrame : ZcanFrame

/-- The TX loop encodes a message and sends it: the frame handed to `can_send`. The loop does nothing but
print about the code that `can_send` returns, so a frame counts as sent whether the driver takes it or not. -/
def sendMessage (uplink : Uplink) (msg : FeedbackMsg) : Option ZcanFrame :=
  let txFrame := encodeCanMessage msg uplink.txFrame
  (sendCanFrame uplink.dd_can uplink.canSend uplink.sendFrame txFrame.id true txFrame.data
    txFrame.dlc.toUInt32).1

end Robofw.Model.Tbot

namespace Robofw.Model.Speed

open Robofw.Core Robofw.Model.Tbot
open Robofw.Model.Encoder (EstimatedSpeed)

/-- The queue that the TX loop polls next. -/
inductive TxPc where
  | pollFeedback
  | pollState
deriving DecidableEq, Repr

structure State where
  desiredRpmQueue : MessageQueue SourcedRpm 1
  encoderRpmQueue : MessageQueue EstimatedSpeed 1
  actuatorDataQueue : MessageQueue ActuatorCmd 16
  feedbackQueue : MessageQueue SpeedControlFeedback 1
  robotStateQueue : MessageQueue RobotState 1
  messengerRx : Option RxThread
  speedControl : SpeedControl
  messengerTx : TxPc

/-- One event: a frame that the RX thread takes, or the next queue call of a thread. -/
inductive Event where
  | canFrame (frame : ZcanFrame)
  | messengerRx
  | speedControl
  | messengerTx
  | encoderPut (estimate : EstimatedSpeed)
  | encoderPurge
  | motionControlPut (rpm : DesiredRpm)
  | motionControlPurge
  | coordinatorPut (state : RobotState)
  | coordinatorPurge
  | actuatorGet
deriving DecidableEq

/-- A feedback put into its queue, a frame handed to the CAN driver with the source of the target it
reports on, or a frame whose payload is undefined. -/
inductive Output where
  | published (feedback : SpeedControlFeedback)
  | sent (frame : ZcanFrame) (source : Option ZcanFrame)
  | sentUndefined (id : UInt32)
deriving DecidableEq

/-- The period of the speed control in `app/tbot/tbot_interface.c`. -/
def speedPeriodMs : ℚ := 20

def State.initial : State where
  desiredRpmQueue := .empty
  encoderRpmQueue := .empty
  actuatorDataQueue := .empty
  feedbackQueue := .empty
  robotStateQueue := .empty
  messengerRx := none
  speedControl := .initial speedPeriodMs
  messengerTx := .pollFeedback

/-- The RX thread's next call in the put-or-purge loop of its switch case. -/
def messengerRxStep (s : State) : State :=
  match s.messengerRx with
  | none => s
  | some rx =>
    match rx.job with
    | .desiredRpm rpm =>
      let (queue, outcome) := s.desiredRpmQueue.attempt rx.purging ⟨rpm, some rx.frame⟩
      { s with desiredRpmQueue := queue, messengerRx := rx.next outcome }
    | .actuatorCmd cmd =>
      let (queue, outcome) := s.actuatorDataQueue.attempt rx.purging cmd
      { s with actuatorDataQueue := queue, messengerRx := rx.next outcome }
    | .supervisorCmd _ => { s with messengerRx := none }
    | .desiredMotion _ => { s with messengerRx := none }

/-- The speed control's next queue call and the code up to the one after it. -/
def speedControlStep (s : State) : State × List Output :=
  let c := s.speedControl
  match c.pc with
  | .pollEncoder =>
    match s.encoderRpmQueue.get with
    | some (estimate, queue) =>
      ({ s with encoderRpmQueue := queue, speedControl := c.afterEncoder (some estimate) }, [])
    | none => ({ s with speedControl := c.afterEncoder none }, [])
  | .pollRpm =>
    match s.desiredRpmQueue.get with
    | some (target, queue) =>
      ({ s with desiredRpmQueue := queue, speedControl := c.afterRpm (some target) }, [])
    | none => ({ s with speedControl := c.afterRpm none }, [])
  | .putCmd purging =>
    match s.actuatorDataQueue.attempt purging c.actuatorCmd with
    | (queue, .done) =>
      ({ s with actuatorDataQueue := queue, speedControl := { c with pc := .putFeedback false } }, [])
    | (queue, outcome) =>
      ({ s with actuatorDataQueue := queue
                speedControl := { c with pc := .putCmd (outcome == .full) } }, [])
  | .putFeedback purging =>
    match s.feedbackQueue.attempt purging c.feedback with
    | (queue, .done) =>
      ({ s with feedbackQueue := queue, speedControl := { c with pc := .pollEncoder } },
        [.published c.feedback])
    | (queue, outcome) =>
      ({ s with feedbackQueue := queue
                speedControl := { c with pc := .putFeedback (outcome == .full) } }, [])

/-- Sending a message of a feedback. -/
def sendData (uplink : Uplink) (msg : FeedbackMsg) (source : Option ZcanFrame) : List Output :=
  ((sendMessage uplink msg).map (.sent · source)).toList

/-- Sending the raw speeds of a feedback, which may be undefined. -/
def sendRaw (uplink : Uplink) (rawRpms : Option (Vector Int32 2)) (source : Option ZcanFrame) :
    List Output :=
  match rawRpms with
  | some rpms => sendData uplink (.encoderRawData (rpms.get 0) (rpms.get 1)) source
  | none => if uplink.dd_can.active then [.sentUndefined encoderRawDataCanId] else []

/-- The three messages for one feedback. -/
def sendFeedback (uplink : Uplink) (feedback : SpeedControlFeedback) : List Output :=
  let source := feedback.targetSpeed.stamp
  let filtered := feedback.measuredSpeed.filteredRpms
  let target := feedback.targetSpeed.val
  sendRaw uplink feedback.measuredSpeed.rawRpms source ++
    sendData uplink (.encoderFilteredData (filtered.get 0) (filtered.get 1)) source ++
    sendData uplink (.targetRpmData target.left.toInt32 target.right.toInt32) source

/-- `MessengerServiceTxLoop`: the next queue call and the sends that follow it. -/
def messengerTxStep (uplink : Uplink) (s : State) : State × List Output :=
  match s.messengerTx with
  | .pollFeedback =>
    match s.feedbackQueue.get with
    | some (feedback, queue) => ({ s with feedbackQueue := queue }, sendFeedback uplink feedback)
    | none => ({ s with messengerTx := .pollState }, [])
  | .pollState =>
    match s.robotStateQueue.get with
    | some (state, queue) =>
      ({ s with robotStateQueue := queue }, sendData uplink (.supervisedStateData state.supMode) none)
    | none => ({ s with messengerTx := .pollFeedback }, [])

def step (uplink : Uplink) (s : State) : Event → State × List Output
  | .canFrame frame =>
    if s.messengerRx.isNone then
      match decoded : rxJob? frame with
      | some job => ({ s with messengerRx := some ⟨frame, job, decoded, false⟩ }, [])
      | none => (s, [])
    else (s, [])
  | .messengerRx => (messengerRxStep s, [])
  | .speedControl => speedControlStep s
  | .messengerTx => messengerTxStep uplink s
  | .encoderPut estimate =>
    ({ s with encoderRpmQueue := (s.encoderRpmQueue.put estimate).getD s.encoderRpmQueue }, [])
  | .encoderPurge => ({ s with encoderRpmQueue := .empty }, [])
  | .motionControlPut rpm =>
    ({ s with desiredRpmQueue := (s.desiredRpmQueue.put ⟨rpm, none⟩).getD s.desiredRpmQueue }, [])
  | .motionControlPurge => ({ s with desiredRpmQueue := .empty }, [])
  | .coordinatorPut state =>
    ({ s with robotStateQueue := (s.robotStateQueue.put state).getD s.robotStateQueue }, [])
  | .coordinatorPurge => ({ s with robotStateQueue := .empty }, [])
  | .actuatorGet => ({ s with actuatorDataQueue := s.actuatorDataQueue.afterGet }, [])

/-- The messenger and the speed control of the TBot. -/
def machine (uplink : Uplink) : Machine State Event Output := ⟨State.initial, step uplink⟩

end Robofw.Model.Speed
