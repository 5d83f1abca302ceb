import Robofw.Soundness.TbotDrive

/-! # The drive between two writes

The pins of a motor are written one at a time, so the drive has to stay within the commands at every
write, set-up included. A command enables its motor before it writes the duty cycle, and the duty of
the command before is then still there. Set-up leaves the right motor at duty 1, which is no drive.
It writes `-1.0` to the left one: that is clamped to duty 0, full drive, and the first command enables
it.
-/

namespace Robofw.Model.TbotActuators

open Robofw.Core

/-- The strength that a motor may be driven with during a write. -/
def Write.allowed (write : Write) (motor : Motor) : ℚ :=
  max |commanded (commandOf write.previous motor)| |commanded (commandOf write.current motor)|

/-- An enabled motor is driven within the bound. -/
def Within (bound : ℚ) (pins : MotorPins) : Prop := pins.en = true → 1 - pins.pwm.duty ≤ bound

/-- The motor is driven within what the write allows once it is made. -/
def WriteWithin (conf : TbotActuatorConf) (motor : Motor) (pins : Pins) (write : Write) : Prop :=
  Within (write.allowed motor) (write.call.apply conf pins motor)

/-- After every write, set-up included, each motor is driven within what its commands allow. -/
def NoSurge (conf : TbotActuatorConf) (before : Pins) (commands : List ActuatorCmd) : Prop :=
  ∀ step ∈ (machine conf before).steps (writes commands), ∀ motor,
    WriteWithin conf motor step.1 step.2

/-- The enable pin of the motor is never 1, or the motor had no drive before set-up, and set-up does
not write full drive to a motor that is enabled after it. The drive is one minus the duty cycle, the exact
rational handed to the driver and not the pulse that the driver truncates. -/
def Calm (conf : TbotActuatorConf) (before : Pins) (commands : List ActuatorCmd) (motor : Motor) :
    Prop :=
  (conf motor).dd_dio_en.active = true ∨ (before motor).en = true →
    1 ≤ (before motor).pwm.duty ∧
      ((conf motor).dd_pwm.active = true →
        motor = .right ∨ (conf motor).dd_dio_en.active = true ∧ commands = [])

theorem Write.allowed_nonneg (write : Write) (motor : Motor) : 0 ≤ write.allowed motor :=
  (abs_nonneg _).trans (le_max_left _ _)

/-! ## What a call keeps -/

/-- The motor is driven within the bound as soon as it is enabled. -/
def Held (bound : ℚ) (pins : MotorPins) : Prop := 1 - pins.pwm.duty ≤ bound

theorem Held.within {bound other : ℚ} {pins : MotorPins} (held : Held bound pins)
    (more : bound ≤ other) : Within other pins := fun _ => le_trans held more

/-- A duty cycle of 1 is no drive. -/
theorem held_of_rest {pins : MotorPins} (rest : 1 ≤ pins.pwm.duty) : Held 0 pins :=
  sub_nonpos.mpr rest

theorem within_of_disabled {bound : ℚ} {pins : MotorPins} (disabled : pins.en = false) :
    Within bound pins := by
  intro enabled
  rw [disabled] at enabled
  exact absurd enabled Bool.false_ne_true

theorem en_apply {conf : TbotActuatorConf} {motor : Motor}
    (idle : (conf motor).dd_dio_en.active = false) (call : PinCall) (pins : Pins) :
    (call.apply conf pins motor).en = (pins motor).en := by
  rw [PinCall.apply_motor]
  split
  · rcases call with ⟨_, _ | _⟩ | ⟨_, _ | _, _⟩ | _ <;> simp [PinCall.drive, configureDio, setDio, idle]
  · rfl

theorem pwm_apply {conf : TbotActuatorConf} {motor : Motor}
    (idle : (conf motor).dd_pwm.active = false) (call : PinCall) (pins : Pins) :
    (call.apply conf pins motor).pwm = (pins motor).pwm := by
  rw [PinCall.apply_motor]
  split
  · rcases call with ⟨_, _ | _⟩ | ⟨_, _ | _, _⟩ | _ <;> simp [PinCall.drive, setPwmDutyCycle, idle]
  · rfl

/-- A duty cycle within the bound is clamped to one within the bound. -/
theorem setPwmDutyCycle_held {bound : ℚ} (positive : 0 ≤ bound) {dd : PwmDescriptor} {duty : ℚ}
    (enough : 1 - duty ≤ bound) {output : PwmOutput} (held : 1 - output.duty ≤ bound) :
    1 - (setPwmDutyCycle dd duty output).duty ≤ bound := by
  unfold setPwmDutyCycle
  split
  · exact held
  · dsimp only
    split_ifs <;> linarith

theorem held_apply {conf : TbotActuatorConf} {motor : Motor} {bound : ℚ} (positive : 0 ≤ bound)
    {call : PinCall} (enough : ∀ duty, call = .setPwmDutyCycle motor duty → 1 - duty ≤ bound)
    {pins : Pins} (held : Held bound (pins motor)) : Held bound (call.apply conf pins motor) := by
  rw [PinCall.apply_motor]
  split
  · rename_i own
    subst own
    cases call with
    | configureDio _ pin => cases pin <;> exact held
    | setDio _ pin value => cases pin <;> exact held
    | setPwmDutyCycle _ duty => exact setPwmDutyCycle_held positive (enough duty rfl) held
  · exact held

/-! ## Commands -/

/-- Each command writes one duty cycle to a motor. -/
theorem eq_of_mem_processCmd {cmd : ActuatorCmd} {motor : Motor} {duty : ℚ}
    (member : .setPwmDutyCycle motor duty ∈ processCmd cmd) :
    duty = 1 - |commanded (commandOf cmd motor)| := by
  rw [processCmd, setMotorCmd, setMotor_limitCommand, setMotor_limitCommand] at member
  cases motor <;> simpa [commandOf] using member

/-- After a command the motor is held to it. -/
theorem processCmd_held {conf : TbotActuatorConf} {motor : Motor}
    (active : (conf motor).dd_pwm.active = true) (pins : Pins) (cmd : ActuatorCmd) :
    Held |commanded (commandOf cmd motor)| (applyCalls conf pins (processCmd cmd) motor) := by
  have bound := abs_commanded_le (commandOf cmd motor)
  have positive := abs_nonneg (commanded (commandOf cmd motor))
  have written := (setPwmDutyCycle_active active
    (by linarith : 0 ≤ 1 - |commanded (commandOf cmd motor)|) (by linarith) (pins motor).pwm).1
  rw [applyCalls_processCmd, setMotor_drive, Held, written]
  linarith

/-- While a command is written, a motor held to the previous one stays within the two. -/
theorem processCmd_within (conf : TbotActuatorConf) (before : Pins) {motor : Motor} {pins : Pins}
    (previous cmd : ActuatorCmd) (held : Held |commanded (commandOf previous motor)| (pins motor)) :
    ∀ step ∈ (machine conf before).stepsFrom pins ((processCmd cmd).map (⟨·, previous, cmd⟩)),
      WriteWithin conf motor step.1 step.2 := by
  let bound := max |commanded (commandOf previous motor)| |commanded (commandOf cmd motor)|
  have start : Held bound (pins motor) := le_trans held (le_max_left _ _)
  have keep : ∀ write ∈ (processCmd cmd).map (⟨·, previous, cmd⟩ : PinCall → Write), ∀ state : Pins,
      Held bound (state motor) → Held bound (((machine conf before).step state write).1 motor) := by
    intro write member state kept
    obtain ⟨call, own, rfl⟩ := List.mem_map.mp member
    apply held_apply ((abs_nonneg _).trans (le_max_left _ _)) ?_ kept
    rintro duty rfl
    rw [eq_of_mem_processCmd own, sub_sub_cancel]
    exact le_max_right _ _
  intro step member
  obtain ⟨own, kept⟩ := (Machine.preserved_steps (fun state => Held bound (state motor)) start keep).1
    step member
  obtain ⟨call, -, tagged⟩ := List.mem_map.mp own
  have allowed : step.2.allowed motor = bound := by rw [← tagged]; rfl
  exact kept.within allowed.ge

/-- Commands that begin with the motor held to the previous one do not surge. -/
theorem commandWrites_within {conf : TbotActuatorConf} {motor : Motor}
    (active : (conf motor).dd_pwm.active = true) (before : Pins) (commands : List ActuatorCmd)
    {previous : ActuatorCmd} {pins : Pins}
    (held : Held |commanded (commandOf previous motor)| (pins motor)) :
    ∀ step ∈ (machine conf before).stepsFrom pins (commandWrites previous commands),
      WriteWithin conf motor step.1 step.2 := by
  induction commands generalizing previous pins with
  | nil => exact fun step member => absurd member List.not_mem_nil
  | cons cmd rest ih =>
    have after : Held |commanded (commandOf cmd motor)| ((machine conf before).runFrom pins
        ((processCmd cmd).map (⟨·, previous, cmd⟩)) motor) := by
      rw [runFrom_eq, List.map_map]
      simpa [Function.comp_def] using processCmd_held active pins cmd
    intro step member
    rw [commandWrites, Machine.stepsFrom_append] at member
    rcases List.mem_append.mp member with during | later
    · exact processCmd_within conf before previous cmd held step during
    · exact ih after step later

/-! ## Set-up -/

/-- A motor that nothing can enable is not driven. -/
theorem off_within {conf : TbotActuatorConf} {before : Pins} {motor : Motor}
    (idle : (conf motor).dd_dio_en.active = false) (off : (before motor).en = false)
    (run : List Write) : ∀ step ∈ (machine conf before).stepsFrom before run,
      WriteWithin conf motor step.1 step.2 := by
  have keep : ∀ write ∈ run, ∀ state : Pins, (state motor).en = false →
      (((machine conf before).step state write).1 motor).en = false := by
    intro write _ state disabled
    exact (en_apply idle write.call state).trans disabled
  have disabled := (Machine.preserved_steps (fun state : Pins => (state motor).en = false) off keep).1
  intro step member
  exact within_of_disabled (disabled step member).2

/-- Calls that write no drive to a motor without drive leave it without. -/
theorem preserved_rest (conf : TbotActuatorConf) (before : Pins) (run : List Write) {motor : Motor}
    {pins : Pins} (rest : Held 0 (pins motor))
    (safe : (conf motor).dd_pwm.active = false ∨
      ∀ write ∈ run, ∀ duty, write.call = .setPwmDutyCycle motor duty → 1 ≤ duty) :
    (∀ step ∈ (machine conf before).stepsFrom pins run,
      WriteWithin conf motor step.1 step.2) ∧
      Held 0 ((machine conf before).runFrom pins run motor) := by
  have keep : ∀ write ∈ run, ∀ state : Pins, Held 0 (state motor) →
      Held 0 (((machine conf before).step state write).1 motor) := by
    intro write member state kept
    rcases safe with idle | none
    · change 1 - (write.call.apply conf state motor).pwm.duty ≤ 0
      rw [pwm_apply idle]
      exact kept
    · apply held_apply le_rfl ?_ kept
      intro duty same
      linarith [none write member duty same]
  obtain ⟨during, final⟩ := Machine.preserved_steps (fun state : Pins => Held 0 (state motor)) rest keep
  refine ⟨fun step member => ?_, final⟩
  exact (during step member).2.within (step.2.allowed_nonneg motor)

/-- Set-up writes no drive to the right motor. -/
theorem right_within {conf : TbotActuatorConf} {before : Pins}
    (active : (conf .right).dd_pwm.active = true) (rest : 1 ≤ (before .right).pwm.duty)
    (commands : List ActuatorCmd) : ∀ step ∈ (machine conf before).steps (writes commands),
      WriteWithin conf .right step.1 step.2 := by
  obtain ⟨during, after⟩ := preserved_rest conf before
    (initTbotActuators.map (⟨·, ⟨0, 0⟩, ⟨0, 0⟩⟩)) (held_of_rest rest)
    (.inr (by simp [initTbotActuators]))
  intro step member
  rw [Machine.steps, writes, Machine.stepsFrom_append] at member
  rcases List.mem_append.mp member with setup | later
  · exact during step setup
  · exact commandWrites_within active before commands (le_trans after (abs_nonneg _)) step later

/-- Set-up disables the left motor before it writes full drive to it. -/
theorem left_within {conf : TbotActuatorConf} {before : Pins}
    (active : (conf .left).dd_dio_en.active = true) (rest : 1 ≤ (before .left).pwm.duty) :
    ∀ step ∈ (machine conf before).steps (writes []), WriteWithin conf .left step.1 step.2 := by
  let tagged (calls : List PinCall) : List Write := calls.map (⟨·, ⟨0, 0⟩, ⟨0, 0⟩⟩)
  obtain ⟨during, -⟩ := preserved_rest conf before (tagged (initTbotActuators.take 5))
    (held_of_rest rest) (.inr (by simp [tagged, initTbotActuators]))
  have off : ((machine conf before).runFrom before (tagged (initTbotActuators.take 5)) .left).en =
      false := by
    simp [tagged, initTbotActuators, runFrom_eq, applyCalls, PinCall.apply_motor, PinCall.motor,
      PinCall.drive, setDio, active]
  have keep : ∀ write ∈ tagged (initTbotActuators.drop 5), ∀ state : Pins, (state .left).en = false →
      (((machine conf before).step state write).1 .left).en = false := by
    simp [tagged, initTbotActuators, machine, PinCall.apply_motor, PinCall.motor, PinCall.drive]
  have disabled := (Machine.preserved_steps (fun state : Pins => (state .left).en = false) off keep).1
  have split : writes [] = tagged (initTbotActuators.take 5) ++ tagged (initTbotActuators.drop 5) := rfl
  intro step member
  rw [Machine.steps, split, Machine.stepsFrom_append] at member
  rcases List.mem_append.mp member with early | late
  · exact during step early
  · exact within_of_disabled (disabled step late).2

/-- Calm motors never surge. -/
theorem calm_within {conf : TbotActuatorConf} {before : Pins} {commands : List ActuatorCmd}
    {motor : Motor} (calm : Calm conf before commands motor) :
    ∀ step ∈ (machine conf before).steps (writes commands),
      WriteWithin conf motor step.1 step.2 := by
  by_cases driven : (conf motor).dd_dio_en.active = true ∨ (before motor).en = true
  · obtain ⟨rest, setup⟩ := calm driven
    by_cases active : (conf motor).dd_pwm.active = true
    · rcases setup active with rfl | ⟨enable, rfl⟩
      · exact right_within active rest commands
      · cases motor with
        | left => exact left_within enable rest
        | right => exact right_within active rest []
    · have idle := Bool.eq_false_of_not_eq_true active
      exact (preserved_rest conf before _ (held_of_rest rest) (.inl idle)).1
  · obtain ⟨idle, off⟩ := not_or.mp driven
    exact off_within (Bool.eq_false_of_not_eq_true idle) (Bool.eq_false_of_not_eq_true off) _

/-! ## The surge -/

/-- The state after any write of the run is within what the write allows. -/
theorem NoSurge.within {conf : TbotActuatorConf} {before : Pins} {commands : List ActuatorCmd}
    (safe : NoSurge conf before commands) {earlier later : List Write} {write : Write}
    (split : writes commands = earlier ++ write :: later) (motor : Motor) :
    Within (write.allowed motor)
      (write.call.apply conf (applyCalls conf before (earlier.map (·.call))) motor) := by
  have member := Machine.run_mem_steps (m := machine conf before) earlier later write
  rw [← split] at member
  have bound := safe _ member motor
  rw [Machine.run, runFrom_eq] at bound
  exact bound

@[simp] theorem allowed_zero (call : PinCall) (motor : Motor) :
    (⟨call, ⟨0, 0⟩, ⟨0, 0⟩⟩ : Write).allowed motor = 0 := by
  cases motor <;> norm_num [Write.allowed, commandOf, commanded]

/-- Set-up raises the enable pins before it writes a duty cycle. -/
theorem NoSurge.rest {conf : TbotActuatorConf} {before : Pins} {commands : List ActuatorCmd}
    (safe : NoSurge conf before commands) {motor : Motor}
    (driven : (conf motor).dd_dio_en.active = true ∨ (before motor).en = true) :
    1 ≤ (before motor).pwm.duty := by
  let tagged (call : PinCall) : Write := ⟨call, ⟨0, 0⟩, ⟨0, 0⟩⟩
  have enabled : configureDio (conf motor).dd_dio_en (before motor).en = true := by
    rcases driven with active | on
    · simp [configureDio, active]
    · simp [configureDio, on]
  cases motor with
  | left =>
    have split : writes commands = [] ++ tagged (.configureDio .left .en) ::
        ((initTbotActuators.drop 1).map tagged ++ commandWrites ⟨0, 0⟩ commands) := rfl
    have bound := safe.within split .left
    simpa [tagged, initTbotActuators, applyCalls, PinCall.apply_motor, PinCall.motor, PinCall.drive,
      Within, enabled] using bound
  | right =>
    have split : writes commands = (initTbotActuators.take 2).map tagged ++
        tagged (.configureDio .right .en) ::
          ((initTbotActuators.drop 3).map tagged ++ commandWrites ⟨0, 0⟩ commands) := rfl
    have bound := safe.within split .right
    simpa [tagged, initTbotActuators, applyCalls, PinCall.apply_motor, PinCall.motor, PinCall.drive,
      Within, enabled] using bound

/-- Set-up leaves the left motor at full drive. -/
theorem setup_left {conf : TbotActuatorConf} (active : (conf .left).dd_pwm.active = true)
    (before : Pins) : (applyCalls conf before initTbotActuators .left).pwm.duty = 0 := by
  simp [initTbotActuators, applyCalls, PinCall.apply_motor, PinCall.motor, PinCall.drive,
    setPwmDutyCycle, active]

theorem setup_left_en {conf : TbotActuatorConf} (idle : (conf .left).dd_dio_en.active = false)
    (before : Pins) : (applyCalls conf before initTbotActuators .left).en = (before .left).en := by
  simp [initTbotActuators, applyCalls, PinCall.apply_motor, PinCall.motor, PinCall.drive,
    configureDio, setDio, idle]

/-- A run without surge never enables a motor at duty 0. -/
theorem NoSurge.driven {conf : TbotActuatorConf} {before : Pins} {commands : List ActuatorCmd}
    (safe : NoSurge conf before commands) {earlier later : List Write} {write : Write}
    (split : writes commands = earlier ++ write :: later) (motor : Motor)
    (enabled : (write.call.apply conf (applyCalls conf before (earlier.map (·.call))) motor).en = true) :
    (write.call.apply conf (applyCalls conf before (earlier.map (·.call))) motor).pwm.duty ≠ 0 := by
  intro full
  have bound := safe.within split motor enabled
  have most : write.allowed motor ≤ 99 / 100 := max_le (abs_commanded_le _) (abs_commanded_le _)
  rw [full] at bound
  linarith

/-- At the end of set-up a left enable pin that is stuck at 1 meets the full drive. -/
theorem surge_of_stuck {conf : TbotActuatorConf} {before : Pins}
    (active : (conf .left).dd_pwm.active = true) (idle : (conf .left).dd_dio_en.active = false)
    (on : (before .left).en = true) (commands : List ActuatorCmd) :
    ¬ NoSurge conf before commands := by
  intro safe
  let tagged (call : PinCall) : Write := ⟨call, ⟨0, 0⟩, ⟨0, 0⟩⟩
  have split : writes commands = (initTbotActuators.take 9).map tagged ++
      tagged (.setPwmDutyCycle .right 1) :: commandWrites ⟨0, 0⟩ commands := rfl
  exact safe.driven split .left ((setup_left_en idle before).trans on) (setup_left active before)

/-- The first command enables the left motor before it writes the duty cycle. -/
theorem surge_of_command {conf : TbotActuatorConf} (active : (conf .left).dd_pwm.active = true)
    (enable : (conf .left).dd_dio_en.active = true) (before : Pins) (cmd : ActuatorCmd)
    (rest : List ActuatorCmd) : ¬ NoSurge conf before (cmd :: rest) := by
  intro safe
  let tagged (call : PinCall) : Write := ⟨call, ⟨0, 0⟩, ⟨0, 0⟩⟩
  obtain ⟨calls, first⟩ : ∃ calls, processCmd cmd = .setDio .left .en 1 :: calls := by
    rw [processCmd, setMotorCmd, setMotor_limitCommand]
    exact ⟨_, rfl⟩
  have split : writes (cmd :: rest) = initTbotActuators.map tagged ++ ⟨.setDio .left .en 1, ⟨0, 0⟩, cmd⟩ ::
      (calls.map (⟨·, ⟨0, 0⟩, cmd⟩) ++ commandWrites cmd rest) := by
    rw [writes, commandWrites, first]
    rfl
  have enabled : setDio (conf .left).dd_dio_en 1 (applyCalls conf before initTbotActuators .left).en =
      true := setDio_active enable 1 _
  exact safe.driven split .left enabled (setup_left active before)

/-- Exactly the calm motors never surge. -/
theorem noSurge_iff (conf : TbotActuatorConf) (before : Pins) (commands : List ActuatorCmd) :
    NoSurge conf before commands ↔ ∀ motor, Calm conf before commands motor := by
  constructor
  · intro safe motor driven
    refine ⟨safe.rest driven, fun active => ?_⟩
    cases motor with
    | right => exact .inl rfl
    | left =>
      -- set-up wrote duty 0 to this motor, so neither a stuck enable pin nor a command is left
      cases enable : (conf .left).dd_dio_en.active with
      | false =>
        have on : (before .left).en = true := driven.resolve_left (by simp [enable])
        exact absurd safe (surge_of_stuck active enable on commands)
      | true =>
        cases commands with
        | nil => exact .inr ⟨rfl, rfl⟩
        | cons cmd rest => exact absurd safe (surge_of_command active enable before cmd rest)
  · intro calm step member motor
    exact calm_within (calm motor) step member

/-- The first command, half power on both sides, starts the left motor of the robot at full drive. -/
theorem firstCommand_surges : ¬ NoSurge robotConf restingPins [⟨1 / 2, 1 / 2⟩] := by
  apply surge_of_command
  · rfl
  · rfl

end Robofw.Model.TbotActuators
