import Robofw.Model.RccarStartup
import Robofw.Soundness.TbotStartup

/-! # How the RC car starts up

Past `InitHardware` nothing stops the start-up: all four threads run, the status LED is on, and whether
the SBUS UART and the CAN link are configured reaches nobody. Before it no thread exists, so that the
panic aborts two identifiers of nothing and blinks both of its LEDs in step for ever.
-/

namespace Robofw.Model.Rccar.Startup

open Robofw.Model.Startup

/-- The car is up: its threads run, its LEDs say so, and everything is configured exactly when nothing
that start-up relies on fails. -/
structure Up (platform : Platform) (car : Car) : Prop where
  created : car.robot.created = [.receiver, .messengerRx, .messengerTx, .coordinator]
  aborted : car.robot.aborted = []
  status : ledActive platform rccarLedStatus = true → car.leds rccarLedStatus = true
  user1 : ledActive platform rccarLedUser1 = true → car.leds rccarLedUser1 = false
  configured : car.robot.sbusConfigured = true ∧ car.robot.canConfigured = true ↔ platform.Works

/-- The car panics: no thread runs, two identifiers of nothing were aborted, and its two LEDs show this
level. -/
structure Panics (platform : Platform) (level : Bool) (car : Car) : Prop where
  created : car.robot.created = []
  aborted : car.robot.aborted = [none, none]
  status : ledActive platform rccarLedStatus = true → car.leds rccarLedStatus = level
  user1 : ledActive platform rccarLedUser1 = true → car.leds rccarLedUser1 = level

/-- Past `InitHardware` the two configurations succeed exactly on the boards where nothing fails. -/
theorem configured_iff {platform : Platform} (hardware : initHardware platform = true) :
    (configureUart (getUartDescriptor platform rccarUartSbus) platform.uartConfigure getUartSbusConfig &&
        setupUartAsyncMode (getUartDescriptor platform rccarUartSbus)) = true ∧
      configureCan (getCanDescriptor platform rccarCanUplink) platform.canDriver .normal 500000
        (canFilter platform) = true ↔ platform.Works := by
  obtain ⟨dio, led, uart, can, encoder⟩ := (initHardware_iff platform).mp hardware
  have sbusActive : (getUartDescriptor platform rccarUartSbus).active = _ := getD_active uart rccarUartSbus
  have canActive : (getCanDescriptor platform rccarCanUplink).active = _ := getD_active can rccarCanUplink
  rw [Bool.and_eq_true, configureUart_iff, setupUartAsyncMode_eq, configureCan_iff, sbusActive, canActive]
  constructor
  · rintro ⟨⟨⟨sbus, uartConfigure⟩, -⟩, uplink, calcTiming, setTiming, canConfigure, attachMsgq⟩
    exact ⟨dio, led, uart, can, encoder, sbus, uartConfigure, uplink, calcTiming, setTiming, canConfigure,
      attachMsgq⟩
  · intro works
    exact ⟨⟨⟨works.sbus, works.uartConfigure⟩, works.sbus⟩, works.uplink, works.calcTiming,
      works.setTiming, works.canConfigure, works.attachMsgq⟩

/-- What an LED shows after a call on the pin of an LED. -/
theorem leds_driveLed (platform : Platform) (id other : Fin 4) (level : Bool → Bool) (car : Car) :
    ((driveLed platform id level).run car).2.leds other =
      if ledActive platform id = true ∧ other = id then level (car.leds id) else car.leds other := by
  change (if ledActive platform id then Function.update car.leds id (level (car.leds id)) else car.leds)
    other = _
  by_cases active : ledActive platform id = true
  · rcases eq_or_ne other id with rfl | elsewhere
    · simp [active]
    · simp [active, elsewhere]
  · simp [active]

/-- Calls on the status LED and the user LED do not get in each other's way. -/
theorem leds_both (platform : Platform) (first second : Bool → Bool) (car : Car) :
    (ledActive platform rccarLedStatus = true →
      ((driveLed platform rccarLedUser1 second).run
        ((driveLed platform rccarLedStatus first).run car).2).2.leds rccarLedStatus =
          first (car.leds rccarLedStatus)) ∧
    (ledActive platform rccarLedUser1 = true →
      ((driveLed platform rccarLedUser1 second).run
        ((driveLed platform rccarLedStatus first).run car).2).2.leds rccarLedUser1 =
          second (car.leds rccarLedUser1)) := by
  have apart : rccarLedStatus ≠ rccarLedUser1 := by decide
  constructor
  · intro active
    rw [leds_driveLed, if_neg fun both => apart both.2, leds_driveLed, if_pos ⟨active, rfl⟩]
  · intro active
    rw [leds_driveLed, if_pos ⟨active, rfl⟩, leds_driveLed, if_neg fun both => apart both.2.symm]

/-- Past `InitHardware` the car comes up. -/
theorem up_of_hardware {platform : Platform} (hardware : initHardware platform = true)
    (leds : Fin 4 → Bool) :
    ∃ car, (startUp platform).run ⟨.initial, leds⟩ = (true, car) ∧ Up platform car := by
  refine ⟨((startUp platform).run ⟨.initial, leds⟩).2, ?_, ?_⟩
  · simp only [startUp, initRobot, hardware]
    rfl
  · have shown : ((startUp platform).run ⟨.initial, leds⟩).2.leds =
        ((turnOffLed platform rccarLedUser1).run
          ((turnOnLed platform rccarLedStatus).run ⟨.initial, leds⟩).2).2.leds := by
      simp only [startUp, initRobot, hardware]
      rfl
    have levels := leds_both platform (fun _ => true) (fun _ => false) ⟨.initial, leds⟩
    refine ⟨?_, ?_, shown ▸ levels.1, shown ▸ levels.2, ?_⟩
    · simp only [startUp, initRobot, hardware]
      rfl
    · simp only [startUp, initRobot, hardware]
      rfl
    · rw [← configured_iff hardware]
      simp only [startUp, initRobot, hardware]
      exact Iff.rfl

/-- Without the hardware nothing is started, and the LEDs of the panic are on. -/
theorem panics_of_no_hardware {platform : Platform} (hardware : initHardware platform = false)
    (leds : Fin 4 → Bool) :
    ∃ car, (startUp platform).run ⟨.initial, leds⟩ = (false, car) ∧ Panics platform true car := by
  refine ⟨((startUp platform).run ⟨.initial, leds⟩).2, ?_, ?_⟩
  · simp only [startUp, initRobot, hardware]
    rfl
  · have shown : ((startUp platform).run ⟨.initial, leds⟩).2.leds =
        ((turnOnLed platform rccarLedUser1).run
          ((turnOnLed platform rccarLedStatus).run ⟨.initial, leds⟩).2).2.leds := by
      simp only [startUp, initRobot, hardware]
      rfl
    have levels := leds_both platform (fun _ => true) (fun _ => true) ⟨.initial, leds⟩
    refine ⟨?_, ?_, shown ▸ levels.1, shown ▸ levels.2⟩
    · simp only [startUp, initRobot, hardware]
      rfl
    · simp only [startUp, initRobot, hardware]
      rfl

/-- A round of the panic's loop changes the level of both LEDs. -/
theorem Panics.round {platform : Platform} {level : Bool} {car : Car} (panics : Panics platform level car) :
    Panics platform (!level) ((panicRound platform).run car).2 := by
  have toggled := leds_both platform (!·) (!·) car
  refine ⟨panics.created, panics.aborted, fun active => ?_, fun active => ?_⟩
  · exact (toggled.1 active).trans (congrArg (!·) (panics.status active))
  · exact (toggled.2 active).trans (congrArg (!·) (panics.user1 active))

/-- After any number of rounds both LEDs show the same. -/
theorem Panics.rounds {platform : Platform} {car : Car} (panics : Panics platform true car) (rounds : ℕ) :
    Panics platform (rounds % 2 == 0)
      ((fun car => ((panicRound platform).run car).2)^[rounds] car) := by
  induction rounds with
  | zero => exact panics
  | succ rounds ih =>
    have flips : ((rounds + 1) % 2 == 0) = !(rounds % 2 == 0) := by
      rcases Nat.mod_two_eq_zero_or_one rounds with even | odd
      · simp [Nat.add_mod, even]
      · simp [Nat.add_mod, odd]
    rw [Function.iterate_succ_apply', flips]
    exact ih.round

/-- On every board, whatever its LEDs showed: `InitRobot` succeeds exactly when `InitHardware` does. Then
the car is up. Otherwise it panics, and both LEDs go on and off in step for ever. -/
theorem startUp_outcome (platform : Platform) (leds : Fin 4 → Bool) :
    ∃ car, (startUp platform).run ⟨.initial, leds⟩ = (initHardware platform, car) ∧
      (initHardware platform = true → Up platform car) ∧
      (initHardware platform = false → ∀ rounds, Panics platform (rounds % 2 == 0)
        ((fun car => ((panicRound platform).run car).2)^[rounds] car)) := by
  cases hardware : initHardware platform with
  | true =>
    obtain ⟨car, ran, up⟩ := up_of_hardware hardware leds
    exact ⟨car, ran, fun _ => up, nofun⟩
  | false =>
    obtain ⟨car, ran, panics⟩ := panics_of_no_hardware hardware leds
    exact ⟨car, ran, nofun, fun _ => panics.rounds⟩

end Robofw.Model.Rccar.Startup
