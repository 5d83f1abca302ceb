import Mathlib.Data.Rat.Floor
import Mathlib.Logic.Function.Basic
import Robofw.Core.Machine
import Robofw.Model.Interface

/-! # The motor drive of the TBot

`service/common/actuator/src/tbot_actuators.c` over `dio_interface.c` and `pwm_interface.c`: the calls
that set-up and the service loop make on the pins of the two motors, and what a call does to them. The
six pins are different ones. A duty cycle is the rational it stands for.
-/

namespace Robofw.Model.TbotActuators

open Robofw.Core

/-- The members of a `DioDescriptor` that a call reads. -/
structure DioDescriptor where
  active : Bool
deriving DecidableEq, Repr

/-- The members of a `PwmDescriptor` that `SetPwmDutyCycle` reads. -/
structure PwmDescriptor where
  active : Bool
  period : UInt32
deriving DecidableEq, Repr

/-- The left motor has the pins numbered 1, the right one those numbered 2. -/
inductive Motor where
  | left
  | right
deriving DecidableEq, Repr

/-- The members of `TbotActuatorConf` for one motor. -/
structure MotorConf where
  dd_dio_en : DioDescriptor
  dd_dio_dir : DioDescriptor
  dd_pwm : PwmDescriptor
deriving DecidableEq, Repr

abbrev TbotActuatorConf := Motor → MotorConf

/-- The PWM output: the duty cycle after the clamp, and the pulse computed from it. -/
structure PwmOutput where
  duty : ℚ
  pulse : UInt32
deriving DecidableEq, Repr

structure MotorPins where
  en : Bool
  dir : Bool
  pwm : PwmOutput
deriving DecidableEq, Repr

abbrev Pins := Motor → MotorPins

/-- `ConfigureDio` as an output that starts active. -/
def configureDio (dd : DioDescriptor) (level : Bool) : Bool :=
  if !dd.active then level else true

/-- `SetDio` -/
def setDio (dd : DioDescriptor) (value : UInt8) (level : Bool) : Bool :=
  if !dd.active then level else value != 0

/-- `SetPwmDutyCycle`; the conversion of the pulse to `uint32_t` truncates. -/
def setPwmDutyCycle (dd : PwmDescriptor) (dutyCycle : ℚ) (output : PwmOutput) : PwmOutput :=
  if !dd.active then output
  else
    let dutyCycle := if dutyCycle < 0 then 0 else dutyCycle
    let dutyCycle := if dutyCycle > 1 then 1 else dutyCycle
    ⟨dutyCycle, .ofNat ⌊dd.period.toNat * dutyCycle⌋₊⟩

/-- The digital pins of a motor. -/
inductive DioPin where
  | en
  | dir
deriving DecidableEq, Repr

/-- A call on one pin of a motor. -/
inductive PinCall where
  | configureDio (motor : Motor) (pin : DioPin)
  | setDio (motor : Motor) (pin : DioPin) (value : UInt8)
  | setPwmDutyCycle (motor : Motor) (dutyCycle : ℚ)
deriving DecidableEq

namespace PinCall

def motor : PinCall → Motor
  | .configureDio motor _ => motor
  | .setDio motor _ _ => motor
  | .setPwmDutyCycle motor _ => motor

/-- What a call does to the pins of its motor. -/
def drive (conf : MotorConf) (pins : MotorPins) : PinCall → MotorPins
  | .configureDio _ .en => { pins with en := TbotActuators.configureDio conf.dd_dio_en pins.en }
  | .configureDio _ .dir => { pins with dir := TbotActuators.configureDio conf.dd_dio_dir pins.dir }
  | .setDio _ .en value => { pins with en := TbotActuators.setDio conf.dd_dio_en value pins.en }
  | .setDio _ .dir value => { pins with dir := TbotActuators.setDio conf.dd_dio_dir value pins.dir }
  | .setPwmDutyCycle _ dutyCycle =>
    { pins with pwm := TbotActuators.setPwmDutyCycle conf.dd_pwm dutyCycle pins.pwm }

def apply (conf : TbotActuatorConf) (pins : Pins) (call : PinCall) : Pins :=
  Function.update pins call.motor (call.drive (conf call.motor) (pins call.motor))

end PinCall

/-- The pins after a list of calls. -/
def applyCalls (conf : TbotActuatorConf) (pins : Pins) (calls : List PinCall) : Pins :=
  calls.foldl (PinCall.apply conf) pins

/-- `InitTbotActuators` -/
def initTbotActuators : List PinCall :=
  [.configureDio .left .en, .configureDio .left .dir,
    .configureDio .right .en, .configureDio .right .dir,
    .setDio .left .en 0, .setDio .left .dir 0, .setDio .right .en 0, .setDio .right .dir 0,
    .setPwmDutyCycle .left (-1), .setPwmDutyCycle .right 1]

/-- `LimitCommand` -/
def limitCommand (input : ℚ) : ℚ :=
  let cmd := if input > -1 / 20 ∧ input < 1 / 20 then 0 else input
  let cmd := if cmd > 99 / 100 then 99 / 100 else cmd
  let cmd := if cmd < -99 / 100 then -99 / 100 else cmd
  if cmd > 0 then 1 - cmd else -(1 + cmd)

/-- The half of `SetMotorCmd` for one motor. -/
def setMotor (motor : Motor) (value : ℚ) : List PinCall :=
  if value < 0 then
    [.setDio motor .en 1, .setDio motor .dir 1, .setPwmDutyCycle motor (-value)]
  else [.setDio motor .en 1, .setDio motor .dir 0, .setPwmDutyCycle motor value]

/-- `SetMotorCmd` -/
def setMotorCmd (left right : ℚ) : List PinCall := setMotor .left left ++ setMotor .right right

/-- The command of `motors[0]` or `motors[1]`. -/
def commandOf (cmd : ActuatorCmd) : Motor → ℚ
  | .left => cmd.left
  | .right => cmd.right

/-- The calls that `TbotActuatorServiceLoop` makes for one command. -/
def processCmd (cmd : ActuatorCmd) : List PinCall :=
  setMotorCmd (limitCommand cmd.left) (limitCommand cmd.right)

/-- A call of a run, with ghosts: the command it serves and the one before that. -/
structure Write where
  call : PinCall
  previous : ActuatorCmd
  current : ActuatorCmd

/-- The calls for one command after another. -/
def commandWrites (previous : ActuatorCmd) : List ActuatorCmd → List Write
  | [] => []
  | cmd :: rest => (processCmd cmd).map (⟨·, previous, cmd⟩) ++ commandWrites cmd rest

/-- The calls of set-up, where no command counts as zero, and of the service loop after it. -/
def writes (commands : List ActuatorCmd) : List Write :=
  initTbotActuators.map (⟨·, ⟨0, 0⟩, ⟨0, 0⟩⟩) ++ commandWrites ⟨0, 0⟩ commands

/-- The pins call by call, from what they were before set-up. -/
def machine (conf : TbotActuatorConf) (before : Pins) : Machine Pins Write Empty :=
  ⟨before, fun pins write => (write.call.apply conf pins, [])⟩

@[simp] theorem setDio_active {dd : DioDescriptor} (active : dd.active = true) (value : UInt8)
    (level : Bool) : setDio dd value level = (value != 0) := by
  simp [setDio, active]

/-- A duty cycle between zero and one passes the clamp, and its pulse fits the period's type. -/
theorem setPwmDutyCycle_active {dd : PwmDescriptor} (active : dd.active = true) {duty : ℚ}
    (least : 0 ≤ duty) (most : duty ≤ 1) (output : PwmOutput) :
    (setPwmDutyCycle dd duty output).duty = duty ∧
      (setPwmDutyCycle dd duty output).pulse.toNat = ⌊dd.period.toNat * duty⌋₊ := by
  have low : ¬ duty < 0 := not_lt.mpr least
  have high : ¬ duty > 1 := not_lt.mpr most
  have within : ⌊dd.period.toNat * duty⌋₊ ≤ dd.period.toNat := by
    apply Nat.floor_le_of_le
    exact mul_le_of_le_one_right dd.period.toNat.cast_nonneg most
  have fits : ⌊dd.period.toNat * duty⌋₊ < 2 ^ 32 := within.trans_lt dd.period.toNat_lt
  simp only [setPwmDutyCycle, active, Bool.not_true, Bool.false_eq_true, if_false, low, high, true_and]
  exact UInt32.toNat_ofNat_of_lt' fits

/-- A call changes the pins of its own motor only. -/
theorem PinCall.apply_motor (conf : TbotActuatorConf) (pins : Pins) (call : PinCall) (motor : Motor) :
    call.apply conf pins motor =
      if call.motor = motor then call.drive (conf motor) (pins motor) else pins motor := by
  by_cases own : call.motor = motor
  · subst own
    simp [PinCall.apply]
  · simp [PinCall.apply, own, Function.update_of_ne (Ne.symm own)]

/-- The pins of a motor are what its own calls made of them. -/
theorem applyCalls_motor (conf : TbotActuatorConf) (pins : Pins) (calls : List PinCall)
    (motor : Motor) : applyCalls conf pins calls motor =
      (calls.filter (·.motor = motor)).foldl (PinCall.drive (conf motor)) (pins motor) := by
  induction calls generalizing pins with
  | nil => rfl
  | cons call rest ih =>
    refine (ih (call.apply conf pins)).trans ?_
    rw [PinCall.apply_motor]
    by_cases own : call.motor = motor <;> simp [own]

/-- The machine runs the calls of its writes. -/
theorem runFrom_eq (conf : TbotActuatorConf) (before pins : Pins) (run : List Write) :
    (machine conf before).runFrom pins run = applyCalls conf pins (run.map (·.call)) := by
  induction run generalizing pins with
  | nil => rfl
  | cons write rest ih => exact ih _

end Robofw.Model.TbotActuators
