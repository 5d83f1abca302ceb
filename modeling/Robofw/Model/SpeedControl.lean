import Robofw.Model.CanFrame
import Robofw.Model.Encoder
import Robofw.Model.Interface

/-! # TBot speed control

`service/robot_tbot/speed_control`: the PID controller, and `SpeedServiceLoop` cut at its queue calls.
A `float` is read as the rational it stands for. The loop initialises the filtered speeds of
`measured_rpm` and not the raw ones, which stay undefined until a message of the encoder arrives.

A wheel target is stamped with the CAN frame that commanded it, when there is one.
-/

namespace Robofw.Model.Speed

open Robofw.Core
open Robofw.Model.Encoder (EstimatedSpeed)

structure PidControllerInstance where
  kp : ℚ
  ki : ℚ
  kd : ℚ
  umax : ℚ
  ts : ℚ
  integral : ℚ
  errorLast : ℚ
deriving DecidableEq

/-- `InitPidController` -/
def initPidController (inst : PidControllerInstance) : PidControllerInstance :=
  { inst with integral := 0, errorLast := 0 }

/-- `UpdatePidController`: the controller after the call and the value returned. The integral is
frozen while the output saturates. -/
def updatePidController (inst : PidControllerInstance) (reference measurement : ℚ) :
    PidControllerInstance × ℚ :=
  let error := reference - measurement
  let derivative := (error - inst.errorLast) / inst.ts
  let newIntegral := inst.integral + error * inst.ts
  let u := inst.kp * error + inst.ki * inst.integral + inst.kd * derivative
  if u > inst.umax then ({ inst with errorLast := error }, inst.umax)
  else if u < -inst.umax then ({ inst with errorLast := error }, -inst.umax)
  else ({ inst with integral := newIntegral, errorLast := error }, u)

/-- The parameters of the two controllers, which differ in `ki`. -/
def pidController (ki periodMs : ℚ) : PidControllerInstance where
  kp := 1 / 5
  ki := ki
  kd := 0
  umax := 100
  ts := periodMs / 1000
  integral := 0
  errorLast := 0

def leftCtrl (periodMs : ℚ) : PidControllerInstance :=
  initPidController (pidController (6 / 5) periodMs)

def rightCtrl (periodMs : ℚ) : PidControllerInstance :=
  initPidController (pidController (19 / 20) periodMs)

/-- `measured_rpm`; `none` is the uninitialised array. -/
structure MeasuredRpm where
  rawRpms : Option (Vector Int32 2)
  filteredRpms : Vector Int32 2
deriving DecidableEq

/-- A wheel target and the frame that commanded it. -/
abbrev SourcedRpm := Stamped DesiredRpm (Option ZcanFrame)

structure SpeedControlFeedback where
  targetSpeed : SourcedRpm
  measuredSpeed : MeasuredRpm
deriving DecidableEq

/-- The queue call that the loop makes next. -/
inductive SpeedPc where
  | pollEncoder
  | pollRpm
  | putCmd (purging : Bool)
  | putFeedback (purging : Bool)
deriving DecidableEq, Repr

/-- The locals of `SpeedServiceLoop`. -/
structure SpeedControl where
  targetRpm : SourcedRpm
  measuredRpm : MeasuredRpm
  actuatorCmd : ActuatorCmd
  leftCtrl : PidControllerInstance
  rightCtrl : PidControllerInstance
  pc : SpeedPc

namespace SpeedControl

/-- Before the first iteration. -/
def initial (periodMs : ℚ) : SpeedControl where
  targetRpm := ⟨⟨0, 0⟩, none⟩
  measuredRpm := ⟨none, Vector.replicate 2 0⟩
  actuatorCmd := ⟨0, 0⟩
  leftCtrl := Speed.leftCtrl periodMs
  rightCtrl := Speed.rightCtrl periodMs
  pc := .pollEncoder

/-- The first queue call of an iteration, and the code up to the second. -/
def afterEncoder (s : SpeedControl) (received : Option EstimatedSpeed) : SpeedControl :=
  match received with
  | some estimate =>
    { s with measuredRpm := ⟨some estimate.rawRpms, estimate.filteredRpms⟩, pc := .pollRpm }
  | none => { s with pc := .pollRpm }

/-- The second queue call of an iteration: a new target is controlled, and its command published. -/
def afterRpm (s : SpeedControl) (received : Option SourcedRpm) : SpeedControl :=
  match received with
  | some target =>
    let (leftCtrl, left) := updatePidController s.leftCtrl target.val.left.toInt
      (s.measuredRpm.filteredRpms.get 0).toInt
    let (rightCtrl, right) := updatePidController s.rightCtrl target.val.right.toInt
      (s.measuredRpm.filteredRpms.get 1).toInt
    { s with
      targetRpm := target
      actuatorCmd := ⟨left / 100, right / 100⟩
      leftCtrl := leftCtrl
      rightCtrl := rightCtrl
      pc := .putCmd false }
  | none => { s with pc := .putFeedback false }

/-- `feedback`, filled in every iteration. -/
def feedback (s : SpeedControl) : SpeedControlFeedback := ⟨s.targetRpm, s.measuredRpm⟩

end SpeedControl

end Robofw.Model.Speed
