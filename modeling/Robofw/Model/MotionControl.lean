import Robofw.Core.Machine
import Robofw.Model.Interface

/-! # TBot motion control

`service/robot_tbot/motion_control`: the differential-drive kinematics, the limiter, and
`MotionServiceLoop` as a machine whose event is a message taken from its queue. The conversion of a
`float` to `int16_t` truncates, and it is undefined in C when the result does not fit.
-/

namespace Robofw.Model.Motion

open Robofw.Core

/-- `M_PI` -/
def mPi : ℚ := 314159265358979323846 / 100000000000000000000

/-- `r`: the radius of a wheel. -/
def wheelRadius : ℚ := 188 / 10000

/-- `track`: the distance between the wheels. -/
def wheelTrack : ℚ := 185 / 1000

/-- The speed of one wheel in rpm: `omega * 60 / (2 * M_PI)`. -/
def wheelRpm (omega : ℚ) : ℚ := omega * 60 / (2 * mPi)

def leftWheelRpm (motion : DesiredMotion) : ℚ :=
  wheelRpm ((motion.linear - motion.angular * wheelTrack) / wheelRadius)

def rightWheelRpm (motion : DesiredMotion) : ℚ :=
  wheelRpm ((motion.linear + motion.angular * wheelTrack) / wheelRadius)

/-- Conversion of a `float` to `int16_t`. -/
def toInt16? (value : ℚ) : Option Int16 :=
  let whole := value.num.tdiv value.den
  if -32768 ≤ whole ∧ whole ≤ 32767 then some (Int16.ofInt whole) else none

/-- The wheel targets; the right motor is mounted in the opposite direction. -/
def targetRpm (motion : DesiredMotion) : Option DesiredRpm :=
  match toInt16? (leftWheelRpm motion), toInt16? (rightWheelRpm motion) with
  | some left, some right => some ⟨left, -right⟩
  | _, _ => none

structure MotionLimit where
  accel : Int16
  decel : Int16
deriving DecidableEq

/-- `rpm_limit` -/
def rpmLimit : MotionLimit := ⟨3, 8⟩

/-- `ApplyMotionLimit`: every `int` result stored in an `int16_t` keeps its low 16 bits. -/
def applyMotionLimit (limit : MotionLimit) (prevValue value : Int16) : Int16 :=
  let diff := value - prevValue
  if prevValue > 0 ∧ diff > limit.accel then prevValue + limit.accel
  else if prevValue < 0 ∧ diff.toInt < -limit.accel.toInt then prevValue - limit.accel
  else if prevValue < 0 ∧ diff > limit.decel then prevValue + limit.decel
  else if prevValue > 0 ∧ diff.toInt < -limit.decel.toInt then prevValue - limit.decel
  else value

/-- A message whose wheel targets fit in `int16_t`. -/
structure FittingMotion where
  motion : DesiredMotion
  target : DesiredRpm
  fits : targetRpm motion = some target

/-- The loop on one message: the targets, limited from `prev_target_rpm`, are saved and published. -/
def motionStep (prevTargetRpm : DesiredRpm) (message : FittingMotion) : DesiredRpm × List DesiredRpm :=
  let targetRpm : DesiredRpm :=
    ⟨applyMotionLimit rpmLimit prevTargetRpm.left message.target.left,
      applyMotionLimit rpmLimit prevTargetRpm.right message.target.right⟩
  (targetRpm, [targetRpm])

/-- `MotionServiceLoop` -/
def machine : Machine DesiredRpm FittingMotion DesiredRpm := ⟨⟨0, 0⟩, motionStep⟩

end Robofw.Model.Motion
