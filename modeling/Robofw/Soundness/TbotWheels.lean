import Robofw.Model.MotionControl
import Robofw.Model.Vesc
import Robofw.Soundness.TbotSteps

/-! # Motion commands and the wheel target type

A motion command frame carries two 32-bit values, and what the coordinator hands to motion control is
turned into wheel speeds of 16 bits with no check in between. The speeds fit exactly when two linear
forms of the commanded values are bounded.
-/

namespace Robofw.Model.Tbot

open Robofw.Core

/-- `value` as a number of rpm that `int16_t` can hold. -/
def RpmFits (value : ℚ) : Prop := -32768 ≤ value ∧ value ≤ 32767

/-- Both wheel speeds and the inverted right one fit, and the targets are these speeds, truncated and
with the sign of the motor. -/
structure WheelsFit (motion : DesiredMotion) : Prop where
  left : RpmFits (Motion.leftWheelRpm motion)
  right : RpmFits (Motion.rightWheelRpm motion)
  inverted : RpmFits (-Motion.rightWheelRpm motion)
  targets : ∃ target, Motion.targetRpm motion = some target ∧
    target.left.toInt = truncate (Motion.leftWheelRpm motion) ∧
    target.right.toInt = -truncate (Motion.rightWheelRpm motion)

/-- The linear speed in a motion command frame, times 100. -/
def motionLinear (frame : ZcanFrame) : Int32 :=
  (bigEndian32 (frame.data.get 0) (frame.data.get 1) (frame.data.get 2) (frame.data.get 3)).toInt32

/-- The angular speed in a motion command frame, times 100. -/
def motionAngular (frame : ZcanFrame) : Int32 :=
  (bigEndian32 (frame.data.get 4) (frame.data.get 5) (frame.data.get 6) (frame.data.get 7)).toInt32

/-- The motion that a motion command frame asks for. -/
def frameMotion (frame : ZcanFrame) : DesiredMotion :=
  ⟨(motionLinear frame).toInt / 100, (motionAngular frame).toInt / 100⟩

/-- Whenever the coordinator puts the frame's motion for motion control, the wheels fit it. -/
def MotionCommandFits (frame : ZcanFrame) : Prop :=
  ∀ events event motion, .motion motion ∈ (machine.step (machine.run events) event).2 →
    motion.val = frameMotion frame → WheelsFit motion.val

theorem rxJob?_motion {frame : ZcanFrame} (motion : frame.id = motionCmdCanId) :
    rxJob? frame = some (.desiredMotion (frameMotion frame)) := by
  rw [rxJob?, decodeCanMessage, motion]
  rfl

/-- In CAN mode the coordinator passes the frame's motion on to motion control. -/
theorem frameMotion_reaches {frame : ZcanFrame} (motion : frame.id = motionCmdCanId) :
    ∃ events event clock, .motion ⟨frameMotion frame, clock⟩ ∈
      (machine.step (machine.run events) event).2 := by
  have accepted := step_canFrame_accepted (s := State.initial) rfl (rxJob?_motion motion)
  refine ⟨[.canFrame frame, .messengerRx, .coordinator, .coordinator, .coordinator], .coordinator,
    ⟨0, 0⟩, ?_⟩
  change _ ∈ (step (machine.runFrom (step State.initial (.canFrame frame)).1 _) _).2
  rw [accepted]
  exact List.mem_singleton_self _

/-- A speed within integer bounds converts to its truncation. -/
private theorem toInt16?_of_bounds {value : ℚ} (above : -32768 ≤ value) (below : value ≤ 32767) :
    ∃ rpm, Motion.toInt16? value = some rpm ∧ rpm.toInt = truncate value := by
  have bounds : -32768 ≤ truncate value ∧ truncate value ≤ 32767 :=
    tdiv_bounded (by push_cast; exact above) (by push_cast; exact below)
  refine ⟨Int16.ofInt (truncate value), if_pos bounds, ?_⟩
  exact Int16.toInt_ofInt_of_le (by omega) (by omega)

/-- Speeds that fit give targets. -/
theorem wheelsFit_of_rpmFits {motion : DesiredMotion} (left : RpmFits (Motion.leftWheelRpm motion))
    (right : RpmFits (Motion.rightWheelRpm motion)) (inverted : RpmFits (-Motion.rightWheelRpm motion)) :
    WheelsFit motion := by
  obtain ⟨leftRpm, leftTarget, leftSame⟩ := toInt16?_of_bounds left.1 left.2
  obtain ⟨rightRpm, rightTarget, rightSame⟩ := toInt16?_of_bounds right.1 right.2
  refine ⟨left, right, inverted, ⟨leftRpm, -rightRpm⟩, ?_, leftSame, ?_⟩
  · simp only [Motion.targetRpm, leftTarget, rightTarget]
  · have least : -32767 ≤ truncate (Motion.rightWheelRpm motion) :=
      (@tdiv_bounded _ _ 32767 (by push_cast; linarith [inverted.2])
        (by push_cast; exact right.2)).1
    have most := rightRpm.toInt_lt
    rw [Int16.toInt_neg, ← rightSame, Int.bmod_eq_of_le (by omega) (by omega)]

/-- A wheel speed of a commanded motion is a fixed multiple of a linear form of the command. -/
private theorem wheelRpm_form (form : ℤ) :
    Motion.wheelRpm ((form : ℚ) / 100000 / Motion.wheelRadius) =
      form * 3000000000000000000000 / (1880 * 314159265358979323846) := by
  rw [Motion.wheelRpm, Motion.wheelRadius, Motion.mPi]
  ring

/-- Such a multiple fits exactly when the form is bounded. -/
private theorem rpmFits_form_iff (form : ℤ) :
    RpmFits (form * 3000000000000000000000 / (1880 * 314159265358979323846)) ↔
      -6451139 ≤ form ∧ form ≤ 6450942 := by
  have low : (-32768 : ℚ) * (1880 * 314159265358979323846) ≤ form * 3000000000000000000000 ↔
      (-32768 : ℤ) * (1880 * 314159265358979323846) ≤ form * 3000000000000000000000 := by norm_cast
  have high : (form : ℚ) * 3000000000000000000000 ≤ 32767 * (1880 * 314159265358979323846) ↔
      form * 3000000000000000000000 ≤ (32767 : ℤ) * (1880 * 314159265358979323846) := by norm_cast
  rw [RpmFits, le_div_iff₀ (by norm_num), div_le_iff₀ (by norm_num), low, high]
  omega

theorem leftWheelRpm_form (linear angular : ℤ) : Motion.leftWheelRpm ⟨linear / 100, angular / 100⟩ =
    ((1000 * linear - 185 * angular : ℤ) : ℚ) * 3000000000000000000000 /
      (1880 * 314159265358979323846) := by
  rw [← wheelRpm_form, Motion.leftWheelRpm, Motion.wheelTrack]
  push_cast
  ring_nf

theorem rightWheelRpm_form (linear angular : ℤ) : Motion.rightWheelRpm ⟨linear / 100, angular / 100⟩ =
    ((1000 * linear + 185 * angular : ℤ) : ℚ) * 3000000000000000000000 /
      (1880 * 314159265358979323846) := by
  rw [← wheelRpm_form, Motion.rightWheelRpm, Motion.wheelTrack]
  push_cast
  ring_nf

/-- The wheels fit a commanded motion exactly when two linear forms of the command are bounded. -/
theorem wheelsFit_iff (linear angular : ℤ) :
    WheelsFit ⟨linear / 100, angular / 100⟩ ↔
      (-6451139 ≤ 1000 * linear - 185 * angular ∧ 1000 * linear - 185 * angular ≤ 6450942) ∧
        -6450942 ≤ 1000 * linear + 185 * angular ∧ 1000 * linear + 185 * angular ≤ 6450942 := by
  have left := leftWheelRpm_form linear angular
  have right := rightWheelRpm_form linear angular
  have inverted : -Motion.rightWheelRpm ⟨linear / 100, angular / 100⟩ =
      ((-(1000 * linear + 185 * angular) : ℤ) : ℚ) * 3000000000000000000000 /
        (1880 * 314159265358979323846) := by
    rw [right]
    push_cast
    ring
  constructor
  · rintro ⟨leftFits, rightFits, invertedFits, -⟩
    rw [left, rpmFits_form_iff] at leftFits
    rw [right, rpmFits_form_iff] at rightFits
    rw [inverted, rpmFits_form_iff] at invertedFits
    omega
  · rintro ⟨leftBounds, rightBounds⟩
    apply wheelsFit_of_rpmFits
    · rw [left, rpmFits_form_iff]
      exact leftBounds
    · rw [right, rpmFits_form_iff]
      omega
    · rw [inverted, rpmFits_form_iff]
      omega

/-- A motion command fits the wheels in every run exactly when the two forms are bounded. -/
theorem motionCommandFits_iff (frame : ZcanFrame) (motion : frame.id = motionCmdCanId) :
    MotionCommandFits frame ↔
      (-6451139 ≤ 1000 * (motionLinear frame).toInt - 185 * (motionAngular frame).toInt ∧
        1000 * (motionLinear frame).toInt - 185 * (motionAngular frame).toInt ≤ 6450942) ∧
      -6450942 ≤ 1000 * (motionLinear frame).toInt + 185 * (motionAngular frame).toInt ∧
        1000 * (motionLinear frame).toInt + 185 * (motionAngular frame).toInt ≤ 6450942 := by
  rw [← wheelsFit_iff]
  constructor
  · intro fits
    obtain ⟨events, event, clock, emitted⟩ := frameMotion_reaches motion
    exact fits events event _ emitted rfl
  · intro fits events event reached emitted same
    rw [same]
    exact fits

/-- A command of 1.5 m/s. -/
def walkFrame : ZcanFrame := ⟨0x103, .standard, .dataFrame, 8, #v[0, 0, 0, 150, 0, 0, 0, 0]⟩

theorem walkFrame_fits : MotionCommandFits walkFrame :=
  (motionCommandFits_iff walkFrame rfl).mpr
    ⟨⟨by decide, by decide⟩, by decide, by decide⟩

/-- A command of 100 m/s. -/
def raceFrame : ZcanFrame := ⟨0x103, .standard, .dataFrame, 8, #v[0, 0, 0x27, 0x10, 0, 0, 0, 0]⟩

/-- Its wheel speed of 50794 rpm does not fit. -/
theorem raceFrame_not_fits : ¬ MotionCommandFits raceFrame := by
  intro fits
  obtain ⟨events, event, clock, emitted⟩ := @frameMotion_reaches raceFrame rfl
  obtain ⟨⟨-, high⟩, -⟩ := fits events event _ emitted rfl
  have tooFast : ¬ Motion.leftWheelRpm (frameMotion raceFrame) ≤ 32767 := by decide +kernel
  exact tooFast high

end Robofw.Model.Tbot
