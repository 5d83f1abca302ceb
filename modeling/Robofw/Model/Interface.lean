import Robofw.Core.Words

/-! # Data exchanged between the services

The message types of `service/interface` and of the service headers. A C `float` is read as the
exact rational it stands for; an `enum` that the code fills from a raw byte stays a byte, with its
enumerators as named constants.
-/

namespace Robofw.Model

/-- `SupervisedMode`: stored in one byte, and the decoder writes any byte into it. -/
abbrev SupervisedMode := UInt8

def kNonSupervised : SupervisedMode := 0
def kSupervisedPwm : SupervisedMode := 1
def kSupervisedRpm : SupervisedMode := 2

inductive RobotControlMode where
  | rc
  | can
deriving DecidableEq, Repr

structure RobotState where
  rcConnected : Bool
  estopTriggered : Bool
  controlMode : RobotControlMode
  supMode : UInt8
deriving DecidableEq, Repr

structure DesiredMotion where
  linear : ℚ
  angular : ℚ
deriving DecidableEq, Repr

/-- The command that asks for no motion. -/
def DesiredMotion.zero : DesiredMotion := ⟨0, 0⟩

/-- `FLOAT_VALUE_DELTA` -/
def floatValueDelta : ℚ := 1 / 100000

/-- `ReceiverData`: `RECEIVER_CHANNEL_NUMBER` scaled channels. -/
structure ReceiverData where
  channels : Vector ℚ 8
deriving DecidableEq, Repr

/-- `ActuatorCmd`: one command for each motor. -/
structure ActuatorCmd where
  left : ℚ
  right : ℚ
deriving DecidableEq, Repr

/-- `DesiredRpm`: `int16_t motors[2]`. -/
structure DesiredRpm where
  left : Int16
  right : Int16
deriving DecidableEq

end Robofw.Model
