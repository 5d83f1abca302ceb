import Mathlib
import Robofw.Core.Words
import Robofw.Model.TbotActuators

/-! # The motor drive is the command

The duty cycle is inverted: a motor with duty `d` is driven with strength `1 - d`, forward or backward
by its direction pin. What the pins say after a command is the command itself, cut to the range of the
drive and with a dead zone around zero.
-/

namespace Robofw.Model.TbotActuators

open Robofw.Core

/-- The drive that a command asks for. -/
def commanded (value : ℚ) : ℚ :=
  if |value| < 1 / 20 then 0 else min (max value (-99 / 100)) (99 / 100)

/-- The drive that the pins of a motor stand for. -/
def MotorPins.signedDrive (pins : MotorPins) : ℚ :=
  (if pins.dir then -1 else 1) * (1 - pins.pwm.duty)

structure MotorConf.Active (conf : MotorConf) : Prop where
  en : conf.dd_dio_en.active = true
  dir : conf.dd_dio_dir.active = true
  pwm : conf.dd_pwm.active = true

/-- The pins of a motor drive it as commanded, with a duty cycle that the PWM driver can hold. -/
structure Drives (conf : MotorConf) (value : ℚ) (pins : MotorPins) : Prop where
  signed : pins.signedDrive = commanded value
  enabled : pins.en = true
  least : 1 / 100 ≤ pins.pwm.duty
  most : pins.pwm.duty ≤ 1
  pulse : pins.pwm.pulse.toNat = ⌊conf.dd_pwm.period.toNat * pins.pwm.duty⌋₊

/-! ## The encoding of a command -/

theorem abs_commanded_le (value : ℚ) : |commanded value| ≤ 99 / 100 := by
  unfold commanded
  split
  · norm_num
  · refine abs_le.mpr ⟨?_, ?_⟩
    · exact le_min (le_trans (by norm_num) (le_max_right _ _)) (by norm_num)
    · exact min_le_right _ _

/-- The sign of the limited command is the direction, and its size is the duty cycle. -/
theorem limitCommand_eq (value : ℚ) : limitCommand value =
    if commanded value > 0 then 1 - commanded value else -(1 + commanded value) := by
  -- the dead zone is open at both ends, so the bounds themselves are driven
  have zone : (value > -1 / 20 ∧ value < 1 / 20) ↔ |value| < 1 / 20 := by
    rw [abs_lt]
    norm_num
  have cut : min (max (if value > -1 / 20 ∧ value < 1 / 20 then 0 else value) (-99 / 100)) (99 / 100) =
      commanded value := by
    simp only [zone, commanded]
    split
    · norm_num
    · rfl
  have order : (-99 / 100 : ℚ) ≤ 99 / 100 := by norm_num
  simp only [limitCommand, ite_clamp order, cut]

/-- The calls for one motor, in order: enable, direction, duty cycle. -/
theorem setMotor_limitCommand (motor : Motor) (value : ℚ) : setMotor motor (limitCommand value) =
    [.setDio motor .en 1, .setDio motor .dir (if commanded value > 0 then 0 else 1),
      .setPwmDutyCycle motor (1 - |commanded value|)] := by
  have bound := abs_le.mp (abs_commanded_le value)
  rw [limitCommand_eq]
  by_cases forward : commanded value > 0
  · have duty : ¬ 1 - commanded value < 0 := by linarith [bound.2]
    rw [if_pos forward, if_pos forward, setMotor, if_neg duty, abs_of_pos forward]
  · have duty : -(1 + commanded value) < 0 := by linarith [bound.1]
    have back : -(-(1 + commanded value)) = 1 - |commanded value| := by
      rw [abs_of_nonpos (not_lt.mp forward)]
      ring
    rw [if_neg forward, if_neg forward, setMotor, if_pos duty, back]

/-- One half of `SetMotorCmd` on any pins of its motor. -/
theorem setMotor_drive (conf : MotorConf) (pins : MotorPins) (motor : Motor) (value : ℚ) :
    (setMotor motor (limitCommand value)).foldl (PinCall.drive conf) pins =
      { en := setDio conf.dd_dio_en 1 pins.en
        dir := setDio conf.dd_dio_dir (if commanded value > 0 then 0 else 1) pins.dir
        pwm := setPwmDutyCycle conf.dd_pwm (1 - |commanded value|) pins.pwm } := by
  rw [setMotor_limitCommand]
  rfl

/-- A command makes of the pins of a motor what that motor's half makes of them. -/
theorem applyCalls_processCmd (conf : TbotActuatorConf) (pins : Pins) (cmd : ActuatorCmd)
    (motor : Motor) : applyCalls conf pins (processCmd cmd) motor =
      (setMotor motor (limitCommand (commandOf cmd motor))).foldl (PinCall.drive (conf motor))
        (pins motor) := by
  have own (other : Motor) (value : ℚ) : (setMotor other value).filter (·.motor = motor) =
      if other = motor then setMotor other value else [] := by
    unfold setMotor
    split <;> by_cases same : other = motor <;> simp [PinCall.motor, same]
  rw [applyCalls_motor, processCmd, setMotorCmd, List.filter_append, own, own]
  cases motor <;> simp [commandOf]

/-- Active pins are written by every command. -/
theorem setMotor_drives {conf : MotorConf} (active : conf.Active) (pins : MotorPins) (motor : Motor)
    (value : ℚ) :
    Drives conf value ((setMotor motor (limitCommand value)).foldl (PinCall.drive conf) pins) := by
  have bound := abs_commanded_le value
  have positive := abs_nonneg (commanded value)
  obtain ⟨duty, pulse⟩ := setPwmDutyCycle_active active.pwm
    (by linarith : 0 ≤ 1 - |commanded value|) (by linarith) pins.pwm
  rw [setMotor_drive]
  refine ⟨?_, ?_, ?_, ?_, ?_⟩
  · rw [MotorPins.signedDrive, duty, setDio_active active.dir]
    by_cases forward : commanded value > 0
    · simp [forward, abs_of_pos forward]
    · simp [forward, abs_of_nonpos (not_lt.mp forward)]
  · exact setDio_active active.en 1 pins.en
  · rw [duty]
    linarith
  · rw [duty]
    linarith
  · rw [duty]
    exact pulse

/-- Of the pins before a command nothing is left. -/
theorem setMotor_overwrites {conf : MotorConf} (active : conf.Active) (pins others : MotorPins)
    (motor : Motor) (value : ℚ) :
    (setMotor motor (limitCommand value)).foldl (PinCall.drive conf) others =
      (setMotor motor (limitCommand value)).foldl (PinCall.drive conf) pins := by
  rw [setMotor_drive, setMotor_drive]
  simp [active.en, active.dir, setPwmDutyCycle, active.pwm]

/-- A command drives each motor as it asks for, and the pins of a motor depend on nothing else: not on
the pins before, and not on the command of the other motor. -/
theorem processCmd_drives {conf : TbotActuatorConf} (active : ∀ motor, (conf motor).Active)
    (pins : Pins) (cmd : ActuatorCmd) (motor : Motor) :
    Drives (conf motor) (commandOf cmd motor) (applyCalls conf pins (processCmd cmd) motor) ∧
      ∀ (others : Pins) (other : ActuatorCmd), commandOf other motor = commandOf cmd motor →
        applyCalls conf others (processCmd other) motor =
          applyCalls conf pins (processCmd cmd) motor := by
  constructor
  · rw [applyCalls_processCmd]
    exact setMotor_drives (active motor) _ motor _
  · intro others other same
    rw [applyCalls_processCmd, applyCalls_processCmd, same]
    exact setMotor_overwrites (active motor) _ _ motor _

/-- Every pin found, and a PWM period of 50 microseconds. -/
def robotConf : TbotActuatorConf := fun _ => ⟨⟨true⟩, ⟨true⟩, ⟨true, 50⟩⟩

/-- Pins at rest: nothing enabled, and no drive. -/
def restingPins : Pins := fun _ => ⟨false, false, ⟨1, 50⟩⟩

/-- Half power ahead on the left and beyond full power back on the right. -/
theorem turn_drives :
    (∀ motor, (robotConf motor).Active) ∧
      Drives (robotConf .right) (-2)
        (applyCalls robotConf restingPins (processCmd ⟨1 / 2, -2⟩) .right) := by
  have active : ∀ motor, (robotConf motor).Active := fun _ => ⟨rfl, rfl, rfl⟩
  exact ⟨active, (processCmd_drives active restingPins ⟨1 / 2, -2⟩ .right).1⟩

end Robofw.Model.TbotActuators
