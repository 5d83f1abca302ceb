import Robofw.Core.Machine
import Robofw.Core.MessageQueue
import Robofw.Model.Interface

/-! # The RC car as a machine

`CoordinatorServiceLoop` of `service/robot_rccar/coordinator` and `MessengerServiceTxLoop` of
`service/robot_rccar/messenger`, interleaved queue call by queue call over the queues of
`app/rccar/rccar_interface.c`, with the put loop of the receiver. The status LED, its loop counter
and the locals that the loop never reads are left out.

Ghosts serve the specifications: `iteration` counts the coordinator iterations begun, `lastBlocked` is
the last one that found the e-stop triggered or the control mode not RC, and `putsSinceBlocked` counts
the motions put by the iterations after it. A motion carries the iteration that received its RC
message.
-/

namespace Robofw.Model.Rccar

open Robofw.Core

/-- A motion and the iteration that received its RC message. -/
abbrev RcMotion := Stamped DesiredMotion ℕ

/-- The queue call the coordinator makes next. -/
inductive CoordinatorPc where
  | pollRc
  | putMotion (purging : Bool)
  | putState (purging : Bool)
deriving DecidableEq, Repr

/-- The local variables of the coordinator loop. -/
structure Coordinator where
  pc : CoordinatorPc
  robotState : RobotState
  desiredMotion : RcMotion
  rcCounter : ℕ
deriving DecidableEq, Repr

def rcTimeoutCount : ℕ := 5

/-- `LINEAR_MOTION_DEADZONE` -/
def linearMotionDeadzone : ℚ := 1 / 20

/-- `ANGULAR_MOTION_DEADZONE` -/
def angularMotionDeadzone : ℚ := 1 / 10

/-- `VESC_MAX_RPM` -/
def vescMaxRpm : ℚ := 23250

/-- A command inside its dead zone counts as zero. -/
def deadzone (zone value : ℚ) : ℚ := if value < zone ∧ value > -zone then 0 else value

namespace Coordinator

def initial : Coordinator where
  pc := .pollRc
  robotState := ⟨false, true, .rc, kNonSupervised⟩
  desiredMotion := ⟨.zero, 0⟩
  rcCounter := 0

/-- `channels[6] < -0.5`: the mode switch asks for RC control. -/
def selectsRc (data : ReceiverData) : Prop := data.channels.get 6 < -1 / 2

instance (data : ReceiverData) : Decidable (selectsRc data) :=
  inferInstanceAs (Decidable (_ < _))

/-- The motion an RC message asks for. -/
def rcMotion (data : ReceiverData) : DesiredMotion :=
  ⟨deadzone linearMotionDeadzone (data.channels.get 2),
    deadzone angularMotionDeadzone (-data.channels.get 1)⟩

/-- The RC poll succeeded, in this iteration. -/
def receiveRc (c : Coordinator) (data : ReceiverData) (iteration : ℕ) : Coordinator :=
  { c with
    rcCounter := 0
    robotState := { c.robotState with
      rcConnected := true
      controlMode := if selectsRc data then .rc else .can
      estopTriggered := !decide (data.channels.get 5 > 0) }
    desiredMotion := if selectsRc data then ⟨rcMotion data, iteration⟩ else c.desiredMotion }

/-- The RC poll found no message. -/
def missRc (c : Coordinator) : Coordinator :=
  if c.rcCounter > rcTimeoutCount then
    { c with robotState := { c.robotState with
        rcConnected := false, estopTriggered := false, controlMode := .can } }
  else { c with rcCounter := (c.rcCounter + 1) % 256 }

@[simp] theorem desiredMotion_missRc (c : Coordinator) :
    c.missRc.desiredMotion = c.desiredMotion := by
  unfold missRc; split <;> rfl

/-- The update of the control: the e-stop zeroes the motion, and the motion is sent in RC mode. -/
def updateControl (c : Coordinator) : Coordinator :=
  { c with
    desiredMotion :=
      if c.robotState.estopTriggered then { c.desiredMotion with val := .zero } else c.desiredMotion
    pc :=
      if c.robotState.supMode = kNonSupervised ∧ c.robotState.controlMode = .rc then .putMotion false
      else .putState false }

@[simp] theorem updateControl_stamp (c : Coordinator) :
    c.updateControl.desiredMotion.stamp = c.desiredMotion.stamp := by
  unfold updateControl; dsimp only; split <;> rfl

/-- The update keeps the motion to send or zeroes it. -/
theorem updateControl_source {c : Coordinator} {derived : RcMotion → Prop}
    (desired : c.desiredMotion.val = .zero ∨ derived c.desiredMotion) :
    c.updateControl.desiredMotion.val = .zero ∨ derived c.updateControl.desiredMotion := by
  unfold updateControl
  dsimp only
  split
  · exact .inl rfl
  · exact desired

/-- The e-stop is triggered or the control mode is not RC. -/
def Blocked (c : Coordinator) : Prop :=
  c.robotState.estopTriggered = true ∨ c.robotState.controlMode ≠ .rc

instance (c : Coordinator) : Decidable c.Blocked := inferInstanceAs (Decidable (_ ∨ _))

end Coordinator

/-- The queue call the messenger's TX thread makes next: the state, or the motion that a state with
RC control and no e-stop lets it take. -/
inductive TxPc where
  | takeState
  | takeMotion
deriving DecidableEq, Repr

structure State where
  receiverDataQueue : MessageQueue ReceiverData 1
  robotStateQueue : MessageQueue RobotState 1
  rcDesiredMotionQueue : MessageQueue RcMotion 2
  coordinator : Coordinator
  receiver : Option (ReceiverData × Bool)
  messengerTx : TxPc
  iteration : ℕ
  lastBlocked : ℕ
  putsSinceBlocked : ℕ

inductive Event where
  | rcMessage (data : ReceiverData)
  | receiver
  | coordinator
  | messengerTx
deriving DecidableEq

/-- The servo and RPM frames sent for a motion. -/
structure Output where
  motion : RcMotion
  servoPos : ℚ
  motorRpm : ℤ
deriving DecidableEq, Repr

def State.initial : State where
  receiverDataQueue := .empty
  robotStateQueue := .empty
  rcDesiredMotionQueue := .empty
  coordinator := .initial
  receiver := none
  messengerTx := .takeState
  iteration := 0
  lastBlocked := 0
  putsSinceBlocked := 0

/-- The receiver's next call in its put-or-purge loop. -/
def receiverStep (s : State) : State :=
  match s.receiver with
  | none => s
  | some (data, purging) =>
    match s.receiverDataQueue.attempt purging data with
    | (queue, .done) => { s with receiverDataQueue := queue, receiver := none }
    | (queue, outcome) =>
      { s with receiverDataQueue := queue, receiver := some (data, outcome == .full) }

/-- The RC poll of a new iteration left these locals. -/
def State.startIteration (s : State) (polled : Coordinator) : State :=
  { s with
    coordinator := polled.updateControl
    iteration := s.iteration + 1
    lastBlocked := if polled.Blocked then s.iteration + 1 else s.lastBlocked
    putsSinceBlocked := if polled.Blocked then 0 else s.putsSinceBlocked }

/-- The coordinator's next queue call and the code up to the one after it. -/
def coordinatorStep (s : State) : State :=
  let c := s.coordinator
  match c.pc with
  | .pollRc =>
    match s.receiverDataQueue.get with
    | some (data, queue) =>
      { s.startIteration (c.receiveRc data (s.iteration + 1)) with receiverDataQueue := queue }
    | none => s.startIteration c.missRc
  | .putMotion purging =>
    match s.rcDesiredMotionQueue.attempt purging c.desiredMotion with
    | (queue, .done) =>
      { s with
        rcDesiredMotionQueue := queue
        coordinator := { c with pc := .putState false }
        putsSinceBlocked := if c.Blocked then s.putsSinceBlocked else s.putsSinceBlocked + 1 }
    | (queue, outcome) =>
      { s with
        rcDesiredMotionQueue := queue
        coordinator := { c with pc := .putMotion (outcome == .full) } }
  | .putState purging =>
    match s.robotStateQueue.attempt purging c.robotState with
    | (queue, .done) =>
      { s with robotStateQueue := queue, coordinator := { c with pc := .pollRc } }
    | (queue, outcome) =>
      { s with
        robotStateQueue := queue, coordinator := { c with pc := .putState (outcome == .full) } }

/-- The servo position for a motion; the servo is mounted inverted. -/
def servoPos (motion : DesiredMotion) : ℚ := 1 - (motion.angular + 1) / 2

/-- The motor speed for a motion; the conversion to `int32_t` truncates. -/
def motorRpm (motion : DesiredMotion) : ℤ :=
  let rpm := vescMaxRpm * motion.linear
  rpm.num.tdiv rpm.den

/-- The TX thread's next queue call. -/
def messengerTxStep (s : State) : State × List Output :=
  match s.messengerTx with
  | .takeState =>
    match s.robotStateQueue.get with
    | some (robotState, queue) =>
      ({ s with
        robotStateQueue := queue
        messengerTx :=
          if !robotState.estopTriggered && robotState.controlMode == .rc then .takeMotion
          else .takeState }, [])
    | none => (s, [])
  | .takeMotion =>
    match s.rcDesiredMotionQueue.get with
    | some (motion, queue) =>
      ({ s with rcDesiredMotionQueue := queue, messengerTx := .takeState },
        [⟨motion, servoPos motion.val, motorRpm motion.val⟩])
    | none => ({ s with messengerTx := .takeState }, [])

def step (s : State) : Event → State × List Output
  | .rcMessage data =>
    if s.receiver.isNone then ({ s with receiver := some (data, false) }, []) else (s, [])
  | .receiver => (receiverStep s, [])
  | .coordinator => (coordinatorStep s, [])
  | .messengerTx => messengerTxStep s

/-- The machine of the RC-car services. -/
def machine : Machine State Event Output := ⟨State.initial, step⟩

end Robofw.Model.Rccar
