import Robofw.Model.Receiver
import Robofw.Soundness.SbusChannels
import Robofw.Soundness.TbotMotions
import Robofw.Soundness.TbotWheels

/-! # What can make the wheel targets undefined

The motion control converts whatever it takes. An SBUS channel has eleven bits, and what the scaling makes
of them asks for less than 800 rpm, so the remote control never gets there: in the runs of the whole robot,
the motions whose targets do not fit are those of the motion command frames beyond two bounds.
-/

namespace Robofw.Model.Tbot

open Robofw.Core
open Robofw.Model.TbotActuators (Pins TbotActuatorConf)

/-- The data of a message that the SBUS decoder has built. -/
def FromSbus (data : ReceiverData) : Prop :=
  ∃ frame : SbusBytes, data = scaleMessage (sbusBuildMessage frame)

/-- What eleven bits scale to. -/
theorem scaleChannel_range {channel : UInt16} (short : channel.toNat < 2048) :
    -1023 / 783 ≤ scaleChannel channel ∧ scaleChannel channel ≤ 1024 / 784 := by
  have most : (channel.toNat : ℚ) ≤ 2047 := by exact_mod_cast Nat.le_of_lt_succ short
  have least : (0 : ℚ) ≤ channel.toNat := Nat.cast_nonneg _
  unfold scaleChannel
  dsimp only
  split
  case isTrue above =>
    have above : (1023 : ℤ) < channel.toNat := above
    have above : (1023 : ℚ) < channel.toNat := by exact_mod_cast above
    rw [le_div_iff₀ (by norm_num [sbusChnMid, sbusChnMax]),
      div_le_iff₀ (by norm_num [sbusChnMid, sbusChnMax])]
    norm_num [sbusChnMid, sbusChnMax]
    constructor <;> linarith
  case isFalse below =>
    have below : (channel.toNat : ℤ) ≤ 1023 := not_lt.mp below
    have below : (channel.toNat : ℚ) ≤ 1023 := by exact_mod_cast below
    rw [le_div_iff₀ (by norm_num [sbusChnMid, sbusChnMin]),
      div_le_iff₀ (by norm_num [sbusChnMid, sbusChnMin])]
    norm_num [sbusChnMid, sbusChnMin]
    linarith

/-- The range of every channel of received data. -/
theorem FromSbus.range {data : ReceiverData} (received : FromSbus data) (i : Fin 8) :
    -1023 / 783 ≤ data.channels.get i ∧ data.channels.get i ≤ 1024 / 784 := by
  obtain ⟨frame, rfl⟩ := received
  have channel : (scaleMessage (sbusBuildMessage frame)).channels.get i =
      scaleChannel (((sbusBuildMessage frame).channels.take 8).get i) := Vector.getElem_map ..
  have taken : ((sbusBuildMessage frame).channels.take 8).get i =
      (sbusBuildMessage frame).channels.get (i.castLE (by decide)) := Vector.getElem_take ..
  have short := unpackChannels_eq_field frame (i.castLE (by decide))
  rw [channel, taken]
  apply scaleChannel_range
  change unpackChannels frame (i.castLE (by decide)) < 2048
  rw [short]
  exact field_lt 11 (payload frame) _

/-- Every channel of received data is at most 1.31. -/
theorem FromSbus.abs_channel_le {data : ReceiverData} (received : FromSbus data) (i : Fin 8) :
    |data.channels.get i| ≤ 131 / 100 := by
  obtain ⟨low, high⟩ := received.range i
  rw [abs_le]
  constructor <;> linarith

/-- A wheel turns with less than 508 rpm per meter and second. -/
theorem abs_wheelRpm_le {speed bound : ℚ} (slow : |speed| ≤ bound) :
    |Motion.wheelRpm (speed / Motion.wheelRadius)| ≤ bound * 508 := by
  have same : Motion.wheelRpm (speed / Motion.wheelRadius) =
      speed * (60 / (Motion.wheelRadius * (2 * Motion.mPi))) := by
    rw [Motion.wheelRpm]
    ring
  have rate : |60 / (Motion.wheelRadius * (2 * Motion.mPi))| ≤ 508 := by
    rw [Motion.wheelRadius, Motion.mPi]
    norm_num [abs_le]
  rw [same, abs_mul]
  exact mul_le_mul slow rate (abs_nonneg _) ((abs_nonneg speed).trans slow)

/-- A motion of at most 1.31 either way fits the wheels. -/
theorem targetRpm_isSome {motion : DesiredMotion} (linear : |motion.linear| ≤ 131 / 100)
    (angular : |motion.angular| ≤ 131 / 100) : (Motion.targetRpm motion).isSome := by
  obtain ⟨linearLow, linearHigh⟩ := abs_le.mp linear
  obtain ⟨angularLow, angularHigh⟩ := abs_le.mp angular
  have left : |Motion.leftWheelRpm motion| ≤ 2 * 508 := by
    apply abs_wheelRpm_le
    rw [Motion.wheelTrack, abs_le]
    constructor <;> linarith
  have right : |Motion.rightWheelRpm motion| ≤ 2 * 508 := by
    apply abs_wheelRpm_le
    rw [Motion.wheelTrack, abs_le]
    constructor <;> linarith
  obtain ⟨leftLow, leftHigh⟩ := abs_le.mp left
  obtain ⟨rightLow, rightHigh⟩ := abs_le.mp right
  have fits : WheelsFit motion := by
    apply wheelsFit_of_rpmFits
    · exact ⟨by linarith, by linarith⟩
    · exact ⟨by linarith, by linarith⟩
    · exact ⟨by linarith, by linarith⟩
  obtain ⟨target, same, -⟩ := fits.targets
  rw [same]
  rfl

/-- A motion fits the wheels, or a frame among the events asks for it. -/
def FitsOrCommanded (events : List SystemEvent) (motion : DesiredMotion) : Prop :=
  (Motion.targetRpm motion).isSome ∨
    ∃ frame, .canFrame frame ∈ events ∧ rxJob? frame = some (.desiredMotion motion)

theorem fits_rcMotion {data : ReceiverData} (received : FromSbus data) :
    (Motion.targetRpm (Coordinator.rcMotion data)).isSome := by
  apply targetRpm_isSome
  · exact received.abs_channel_le 2
  · rw [Coordinator.rcMotion, abs_neg]
    exact received.abs_channel_le 0

/-- A frame that asks for a motion is a motion command, and the motion is the one it carries. -/
theorem eq_frameMotion {frame : ZcanFrame} {motion : DesiredMotion}
    (asks : rxJob? frame = some (.desiredMotion motion)) :
    frame.id = motionCmdCanId ∧ motion = frameMotion frame := by
  have command : frame.id = motionCmdCanId := by
    by_contra other
    unfold rxJob? decodeCanMessage at asks
    dsimp only at asks
    rw [if_neg other] at asks
    repeat' split at asks
    all_goals simp [dispatch] at asks
  rw [rxJob?_motion command] at asks
  exact ⟨command, (RxJob.desiredMotion.inj (Option.some.inj asks)).symm⟩

variable (conf : TbotActuatorConf) (uplink : Uplink) (before : Pins)

/-- In every run of the whole robot on SBUS data, the motions that wait for the motion control fit the
wheels or come from a frame. -/
theorem waiting_fits {events : List SystemEvent}
    (received : ∀ data, .rcMessage data ∈ events → FromSbus data) :
    ∀ motion ∈ ((system conf uplink before).run events).services.desiredMotionQueue.items,
      FitsOrCommanded events motion := by
  have carried := carries_system FromSbus
    (fun job => ∀ motion, job = .desiredMotion motion → FitsOrCommanded events motion)
    (FitsOrCommanded events) conf uplink before
    (.inl (targetRpm_isSome (by norm_num [DesiredMotion.zero]) (by norm_num [DesiredMotion.zero])))
    (fun data received => .inr (.inl (fits_rcMotion received)))
    (fun motion ok => ok motion rfl) received
    (fun frame came job decoded motion asked => .inr ⟨frame, came, asked ▸ decoded⟩)
  exact carried.waiting

/-- Only the motion control meets undefined targets, in a motion that waited for it. -/
theorem undefinedTarget_mem_step {s : System} {event : SystemEvent} {motion : DesiredMotion}
    (emitted : .undefinedTarget motion ∈ (s.step conf uplink event).2) :
    motion ∈ s.services.desiredMotionQueue.items ∧ Motion.targetRpm motion = none := by
  obtain rfl : SystemEvent.motionControl = event := by
    rcases sender?_of_mem emitted with silent | own
    · contradiction
    · exact Option.some.inj own
  unfold System.step at emitted
  split at emitted
  · exact absurd emitted List.not_mem_nil
  have move := motionControlStep_move s
  simp only [System.act] at emitted
  generalize s.motionControlStep = answer at move emitted
  cases move with
  | undefined other queue at_pc taken undefined =>
    obtain rfl := SystemOutput.undefinedTarget.inj (List.mem_singleton.mp emitted)
    rw [MessageQueue.get_eq_some taken]
    exact ⟨List.mem_cons_self .., undefined⟩
  | put queue => exact absurd (List.mem_singleton.mp emitted) (by simp)
  | _ => exact absurd emitted List.not_mem_nil

/-- The conversion of a wheel speed of a commanded motion is defined exactly when its form is bounded. The
truncation goes toward zero, so the bounds are wider than those of the speeds that fit. -/
theorem toInt16?_form_isSome_iff (form : ℤ) :
    (Motion.toInt16? (form * 3000000000000000000000 / (1880 * 314159265358979323846))).isSome ↔
      -6451335 ≤ form ∧ form ≤ 6451139 := by
  have fraction : (form : ℚ) * 3000000000000000000000 / (1880 * 314159265358979323846) =
      ((form * 3000000000000000000000 : ℤ) : ℚ) / (1880 * 314159265358979323846 : ℕ) := by
    push_cast
    norm_num
  have whole := tdiv_fraction (form * 3000000000000000000000)
    (by decide : 0 < 1880 * 314159265358979323846)
  rw [← fraction] at whole
  have defined (value : ℤ) : (if -32768 ≤ value ∧ value ≤ 32767 then some (Int16.ofInt value)
      else none).isSome ↔ -32768 ≤ value ∧ value ≤ 32767 := by
    split <;> simp_all
  rw [Motion.toInt16?, whole, defined]
  rcases tdiv_cases (form * 3000000000000000000000) (1880 * 314159265358979323846 : ℕ) with
    ⟨sign, cut⟩ | ⟨sign, cut⟩
  all_goals
    rw [cut]
    push_cast
    omega

/-- The targets of a commanded motion are defined exactly when both forms are bounded. -/
theorem targetRpm_isSome_iff (linear angular : ℤ) :
    (Motion.targetRpm ⟨linear / 100, angular / 100⟩).isSome ↔
      (-6451335 ≤ 1000 * linear - 185 * angular ∧ 1000 * linear - 185 * angular ≤ 6451139) ∧
        -6451335 ≤ 1000 * linear + 185 * angular ∧ 1000 * linear + 185 * angular ≤ 6451139 := by
  have both (motion : DesiredMotion) : (Motion.targetRpm motion).isSome ↔
      (Motion.toInt16? (Motion.leftWheelRpm motion)).isSome ∧
        (Motion.toInt16? (Motion.rightWheelRpm motion)).isSome := by
    unfold Motion.targetRpm
    cases Motion.toInt16? (Motion.leftWheelRpm motion) <;>
      cases Motion.toInt16? (Motion.rightWheelRpm motion) <;> simp
  rw [both, leftWheelRpm_form, rightWheelRpm_form, toInt16?_form_isSome_iff, toInt16?_form_isSome_iff]

/-- In CAN mode the frame's motion gets to the motion control. -/
theorem frameMotion_waits {frame : ZcanFrame} (command : frame.id = motionCmdCanId) :
    let s := (system conf uplink before).run
      [.canFrame frame, .messengerRx, .coordinator, .coordinator, .coordinator, .coordinator]
    s.undefined = false ∧ s.motionControl.putting = none ∧
      s.services.desiredMotionQueue.get = some (frameMotion frame, .empty) := by
  have accepted := step_canFrame_accepted (s := State.initial) rfl (rxJob?_motion command)
  have taken : ((system conf uplink before).step (.initial conf before) (.canFrame frame)).1 =
      { System.initial conf before with services := (step State.initial (.canFrame frame)).1 } := rfl
  rw [accepted] at taken
  intro s
  have later : s = (system conf uplink before).runFrom
      ((system conf uplink before).step (.initial conf before) (.canFrame frame)).1
      [.messengerRx, .coordinator, .coordinator, .coordinator, .coordinator] := rfl
  rw [taken] at later
  rw [later]
  exact ⟨rfl, rfl, rfl⟩

/-- The motion control meets undefined targets in the motion that waits for it. -/
theorem undefinedTarget_of_waits {s : System} {motion : DesiredMotion} {queue : MessageQueue DesiredMotion 1}
    (running : s.undefined = false) (idle : s.motionControl.putting = none)
    (waits : s.services.desiredMotionQueue.get = some (motion, queue))
    (unfit : Motion.targetRpm motion = none) :
    .undefinedTarget motion ∈ (s.step conf uplink .motionControl).2 := by
  have move := motionControlStep_move s
  rw [step_defined running]
  simp only [System.act]
  generalize s.motionControlStep = answer at move ⊢
  cases move with
  | idle at_pc none => exact absurd (none.symm.trans waits) (by simp)
  | undefined other rest at_pc taken =>
    obtain ⟨rfl, -⟩ := Prod.mk.inj (Option.some.inj (taken.symm.trans waits))
    exact List.mem_singleton_self _
  | take message rest at_pc taken =>
    obtain ⟨rfl, -⟩ := Prod.mk.inj (Option.some.inj (taken.symm.trans waits))
    exact absurd (unfit.symm.trans message.fits) (by simp)
  | put _ at_pc => exact absurd (idle.symm.trans at_pc) (by simp)
  | full at_pc => exact absurd (idle.symm.trans at_pc) (by simp)
  | purge at_pc => exact absurd (idle.symm.trans at_pc) (by simp)

/-- Whatever frames come in, the runs of the whole robot on SBUS data meet undefined targets in the motions of
their motion command frames beyond the bounds of the conversion, and in no others. -/
theorem undefinedTarget_iff (frames : ZcanFrame → Prop) (motion : DesiredMotion) :
    (∃ events event, (∀ data, .rcMessage data ∈ events → FromSbus data) ∧
      (∀ frame, .canFrame frame ∈ events → frames frame) ∧
      .undefinedTarget motion ∈
        ((system conf uplink before).step ((system conf uplink before).run events) event).2) ↔
    ∃ frame, frames frame ∧ frame.id = motionCmdCanId ∧ motion = frameMotion frame ∧
      ¬ ((-6451335 ≤ 1000 * (motionLinear frame).toInt - 185 * (motionAngular frame).toInt ∧
          1000 * (motionLinear frame).toInt - 185 * (motionAngular frame).toInt ≤ 6451139) ∧
        -6451335 ≤ 1000 * (motionLinear frame).toInt + 185 * (motionAngular frame).toInt ∧
          1000 * (motionLinear frame).toInt + 185 * (motionAngular frame).toInt ≤ 6451139) := by
  have fits (frame : ZcanFrame) : (Motion.targetRpm (frameMotion frame)).isSome ↔ _ :=
    targetRpm_isSome_iff (motionLinear frame).toInt (motionAngular frame).toInt
  constructor
  · rintro ⟨events, event, received, came, emitted⟩
    obtain ⟨waiting, undefined⟩ := undefinedTarget_mem_step conf uplink emitted
    rcases waiting_fits conf uplink before received motion waiting with fit | ⟨frame, own, asks⟩
    · rw [undefined] at fit
      contradiction
    · obtain ⟨command, rfl⟩ := eq_frameMotion asks
      refine ⟨frame, came frame own, command, rfl, fun bounded => ?_⟩
      have fit := (fits frame).mpr bounded
      rw [undefined] at fit
      contradiction
  · rintro ⟨frame, own, command, rfl, beyond⟩
    obtain ⟨running, idle, waits⟩ := frameMotion_waits conf uplink before command
    refine ⟨[.canFrame frame, .messengerRx, .coordinator, .coordinator, .coordinator, .coordinator],
      .motionControl, by simp, ?_, ?_⟩
    · intro other member
      obtain rfl : other = frame := by simpa using member
      exact own
    · refine undefinedTarget_of_waits conf uplink running idle waits ?_
      rw [← Option.not_isSome_iff_eq_none, fits]
      exact beyond

end Robofw.Model.Tbot
