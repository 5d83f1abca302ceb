import Robofw.Core.Machine
import Robofw.Model.TbotCoordinator
import Robofw.Model.TbotMessenger

/-! # The TBot as a machine

The coordinator, the messenger RX thread and the receiver's put loop, interleaved call by call over
the queues of `app/tbot/tbot_interface.c`. The motion-control, speed-control, actuator and
messenger TX threads appear through their calls on the shared queues, with any message.

Two ghosts serve the specifications: `clock` counts coordinator iterations and changes of the control
mode, and `lastCanPoll` is the clock of the last poll of the CAN motion queue. A message is stamped
with the clock when its put succeeds.
-/

namespace Robofw.Model.Tbot

open Robofw.Core

/-- A frame the RX loop is handling, with the message it puts. -/
structure RxThread where
  frame : ZcanFrame
  job : RxJob
  decoded : rxJob? frame = some job
  purging : Bool

structure State where
  receiverDataQueue : MessageQueue TimedRcData 1
  actuatorDataQueue : MessageQueue ActuatorCmd 16
  desiredRpmQueue : MessageQueue DesiredRpm 1
  desiredMotionQueue : MessageQueue DesiredMotion 1
  robotStateQueue : MessageQueue RobotState 1
  canDesiredMotionQueue : MessageQueue TimedMotion 1
  supervisorCmdQueue : MessageQueue SupervisedMode 1
  coordinator : Coordinator
  receiver : Option (ReceiverData × Bool)
  messengerRx : Option RxThread
  clock : Clock
  lastCanPoll : Clock

/-- One event: an input that a thread takes, or the next queue call of a thread. -/
inductive Event where
  | rcMessage (data : ReceiverData)
  | receiver
  | canFrame (frame : ZcanFrame)
  | messengerRx
  | coordinator
  | motionControlGet
  | speedControlGet
  | actuatorGet
  | messengerTxGet
  | speedControlPut (cmd : ActuatorCmd)
  | speedControlPurge
  | motionControlPut (rpm : DesiredRpm)
  | motionControlPurge
deriving DecidableEq

/-- A completed put of the receiver, the messenger or the coordinator. -/
inductive Output where
  | rcData (data : TimedRcData)
  | canMotion (motion : TimedMotion)
  | supervisorCmd (mode : SupervisedMode)
  | actuatorCmd (cmd : ActuatorCmd)
  | desiredRpm (rpm : DesiredRpm)
  | motion (motion : TimedMotion)
  | robotState (state : RobotState)
deriving DecidableEq

def State.initial : State where
  receiverDataQueue := .empty
  actuatorDataQueue := .empty
  desiredRpmQueue := .empty
  desiredMotionQueue := .empty
  robotStateQueue := .empty
  canDesiredMotionQueue := .empty
  supervisorCmdQueue := .empty
  coordinator := .initial
  receiver := none
  messengerRx := none
  clock := ⟨0, 0⟩
  lastCanPoll := ⟨0, 0⟩

/-- The receiver's next call in its put-or-purge loop. -/
def receiverStep (s : State) : State × List Output :=
  match s.receiver with
  | none => (s, [])
  | some (data, purging) =>
    match s.receiverDataQueue.attempt purging ⟨data, s.clock⟩ with
    | (queue, .done) =>
      ({ s with receiverDataQueue := queue, receiver := none }, [.rcData ⟨data, s.clock⟩])
    | (queue, outcome) =>
      ({ s with receiverDataQueue := queue, receiver := some (data, outcome == .full) }, [])

/-- The RX thread after one call of its loop. -/
def RxThread.next (rx : RxThread) : Attempt → Option RxThread
  | .done => none
  | outcome => some { rx with purging := outcome == .full }

/-- The RX thread's next call in the put-or-purge loop of its switch case. -/
def messengerRxStep (s : State) : State × List Output :=
  match s.messengerRx with
  | none => (s, [])
  | some rx =>
    match rx.job with
    | .supervisorCmd mode =>
      let (queue, outcome) := s.supervisorCmdQueue.attempt rx.purging mode
      ({ s with supervisorCmdQueue := queue, messengerRx := rx.next outcome },
        if outcome = .done then [.supervisorCmd mode] else [])
    | .actuatorCmd cmd =>
      let (queue, outcome) := s.actuatorDataQueue.attempt rx.purging cmd
      ({ s with actuatorDataQueue := queue, messengerRx := rx.next outcome },
        if outcome = .done then [.actuatorCmd cmd] else [])
    | .desiredRpm rpm =>
      let (queue, outcome) := s.desiredRpmQueue.attempt rx.purging rpm
      ({ s with desiredRpmQueue := queue, messengerRx := rx.next outcome },
        if outcome = .done then [.desiredRpm rpm] else [])
    | .desiredMotion motion =>
      let (queue, outcome) := s.canDesiredMotionQueue.attempt rx.purging ⟨motion, s.clock⟩
      ({ s with canDesiredMotionQueue := queue, messengerRx := rx.next outcome },
        if outcome = .done then [.canMotion ⟨motion, s.clock⟩] else [])

/-- The RC poll left these locals. -/
def State.startIteration (s : State) (polled : Coordinator) : State :=
  { s with
    coordinator := polled.afterRc
    clock := s.clock.tick s.coordinator.robotState.controlMode polled.robotState.controlMode }

@[simp] theorem State.startIteration_coordinator (s : State) (polled : Coordinator) :
    (s.startIteration polled).coordinator = polled.afterRc := rfl

@[simp] theorem State.startIteration_clock (s : State) (polled : Coordinator) :
    (s.startIteration polled).clock =
      s.clock.tick s.coordinator.robotState.controlMode polled.robotState.controlMode := rfl

/-- The coordinator's next queue call and the code up to the one after it. -/
def coordinatorStep (s : State) : State × List Output :=
  let c := s.coordinator
  match c.pc with
  | .pollRc =>
    match s.receiverDataQueue.get with
    | some (data, queue) => ({ s.startIteration (c.receiveRc data) with receiverDataQueue := queue }, [])
    | none => (s.startIteration c.missRc, [])
  | .pollCan =>
    match s.canDesiredMotionQueue.get with
    | some (motion, queue) =>
      ({ s with canDesiredMotionQueue := queue
                coordinator := { (c.receiveCan motion).useCan with pc := .pollSup }
                lastCanPoll := s.clock }, [])
    | none =>
      ({ s with coordinator := { c.missCan.useCan with pc := .pollSup }
                lastCanPoll := s.clock }, [])
  | .pollSup =>
    match s.supervisorCmdQueue.get with
    | some (mode, queue) =>
      ({ s with supervisorCmdQueue := queue, coordinator := (c.receiveSup mode).afterSup }, [])
    | none => ({ s with coordinator := c.afterSup }, [])
  | .putMotion purging =>
    match s.desiredMotionQueue.attempt purging c.desiredMotion.val with
    | (queue, .done) =>
      ({ s with desiredMotionQueue := queue, coordinator := { c with pc := .putState false } },
        [.motion c.desiredMotion])
    | (queue, outcome) =>
      ({ s with desiredMotionQueue := queue
                coordinator := { c with pc := .putMotion (outcome == .full) } }, [])
  | .putState purging =>
    match s.robotStateQueue.attempt purging c.robotState with
    | (queue, .done) =>
      ({ s with robotStateQueue := queue, coordinator := { c with pc := .pollRc } },
        [.robotState c.robotState])
    | (queue, outcome) =>
      ({ s with robotStateQueue := queue
                coordinator := { c with pc := .putState (outcome == .full) } }, [])

def step (s : State) : Event → State × List Output
  | .rcMessage data =>
    if s.receiver.isNone then ({ s with receiver := some (data, false) }, []) else (s, [])
  | .receiver => receiverStep s
  | .canFrame frame =>
    if s.messengerRx.isNone then
      match decoded : rxJob? frame with
      | some job => ({ s with messengerRx := some ⟨frame, job, decoded, false⟩ }, [])
      | none => (s, [])
    else (s, [])
  | .messengerRx => messengerRxStep s
  | .coordinator => coordinatorStep s
  | .motionControlGet => ({ s with desiredMotionQueue := s.desiredMotionQueue.afterGet }, [])
  | .speedControlGet => ({ s with desiredRpmQueue := s.desiredRpmQueue.afterGet }, [])
  | .actuatorGet => ({ s with actuatorDataQueue := s.actuatorDataQueue.afterGet }, [])
  | .messengerTxGet => ({ s with robotStateQueue := s.robotStateQueue.afterGet }, [])
  | .speedControlPut cmd =>
    ({ s with actuatorDataQueue := (s.actuatorDataQueue.put cmd).getD s.actuatorDataQueue }, [])
  | .speedControlPurge => ({ s with actuatorDataQueue := .empty }, [])
  | .motionControlPut rpm =>
    ({ s with desiredRpmQueue := (s.desiredRpmQueue.put rpm).getD s.desiredRpmQueue }, [])
  | .motionControlPurge => ({ s with desiredRpmQueue := .empty }, [])

/-- The machine of the TBot services. -/
def machine : Machine State Event Output := ⟨State.initial, step⟩

end Robofw.Model.Tbot
