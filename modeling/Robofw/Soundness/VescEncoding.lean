import Mathlib
import Robofw.Soundness.VescParser

/-! # The VESC wire format

What the motor controller is to find in the frame of a command: its number and address in the 29 bits
of the identifier, and in the payload a fixed-point operand as a big-endian two's-complement number.
The clamps keep every operand inside the integer that it is converted to.
-/

namespace Robofw.Model

open Robofw.Core

/-- A value held between zero and `upper`, scaled and cut to an integer. -/
def scaled (scale upper value : ℚ) : ℤ := truncate (scale * min (max value 0) upper)

namespace VescCmdPacketBody

/-- The number of a command on the bus. -/
def number : VescCmdPacketBody → ℕ
  | .dutyCycle _ => 0
  | .current _ => 1
  | .currentBrake _ => 2
  | .rpm _ => 3
  | .position _ => 4
  | .servoPos _ => 8

/-- The operand that the controller expects. -/
def operand : VescCmdPacketBody → ℤ
  | .servoPos pos => scaled 1000 1 pos
  | .dutyCycle duty => scaled 100000 1 duty
  | .current amps => scaled 1000 20 amps
  | .currentBrake amps => scaled 1000 20 amps
  | .rpm speed => speed.toInt
  | .position pos => scaled 100000 1 pos

/-- The integer that the encoder converts to `int16_t` or `int32_t`. -/
def converted : VescCmdPacketBody → ℤ
  | .servoPos pos => truncate (clampCommand pos 0 1 * 1000)
  | .dutyCycle duty => truncate (clampCommand duty 0 1 * 100000)
  | .current amps => truncate (clampCommand amps 0 20 * 1000)
  | .currentBrake amps => truncate (clampCommand amps 0 20 * 1000)
  | .rpm speed => speed.toInt
  | .position pos => truncate (clampCommand pos 0 1 * 100000)

/-- The bytes in front of the operand. -/
def header (vesc : UInt8) : VescCmdPacketBody → List UInt8
  | .servoPos _ => [vesc, 0x00, vescCommSetServoPosId]
  | _ => []

/-- The bytes of the operand. -/
def width : VescCmdPacketBody → ℕ
  | .servoPos _ => 2
  | _ => 4

end VescCmdPacketBody

/-- The frame carries the command to the controller `vesc`, in the bytes that `dlc` counts. -/
structure Carries (command : VescCmdPacketBody) (vesc : UInt8) (frame : ZcanFrame) : Prop where
  length : frame.dlc.toNat = (command.header vesc).length + command.width
  addressed : frame.id.toNat = command.number <<< 8 ||| vesc.toNat
  header : frame.data.toList.take (command.header vesc).length = command.header vesc
  operand : twosComplement ((frame.data.toList.drop (command.header vesc).length).take command.width) =
    command.operand

/-- The integer converted is the operand, and its type holds it. -/
structure Converts (command : VescCmdPacketBody) : Prop where
  exact : command.converted = command.operand
  above : -2 ^ (8 * command.width - 1) ≤ command.converted
  below : command.converted < 2 ^ (8 * command.width - 1)

theorem clampCommand_eq {low high : ℚ} (order : low ≤ high) (cmd : ℚ) :
    clampCommand cmd low high = min (max cmd low) high := ite_clamp order cmd

/-- The code's product is the scaled clamp. -/
theorem truncate_clampCommand {upper : ℚ} (order : 0 ≤ upper) (scale cmd : ℚ) :
    truncate (clampCommand cmd 0 upper * scale) = scaled scale upper cmd := by
  rw [scaled, clampCommand_eq order, mul_comm]

theorem scaled_bounded (scale upper : ℕ) (value : ℚ) :
    0 ≤ scaled scale upper value ∧ scaled scale upper value ≤ scale * upper := by
  have low : 0 ≤ min (max value 0) (upper : ℚ) := le_min (le_max_right value 0) upper.cast_nonneg
  have high : min (max value 0) (upper : ℚ) ≤ upper := min_le_right _ _
  apply tdiv_bounded
  · push_cast
    positivity
  · push_cast
    gcongr

private theorem converts_of_scaled {command : VescCmdPacketBody} (scale upper : ℕ) (value : ℚ)
    (product : command.converted = truncate (clampCommand value 0 upper * scale))
    (operand : command.operand = scaled scale upper value)
    (room : scale * upper < 2 ^ (8 * command.width - 1)) : Converts command := by
  have exact : command.converted = command.operand := by
    rw [product, operand, truncate_clampCommand upper.cast_nonneg]
  have bounds := scaled_bounded scale upper value
  have fits : ((scale * upper : ℕ) : ℤ) < 2 ^ (8 * command.width - 1) := by exact_mod_cast room
  rw [← operand, ← exact] at bounds
  push_cast at fits
  refine ⟨exact, ?_, bounds.2.trans_lt fits⟩
  exact le_trans (neg_nonpos.mpr (by positivity)) bounds.1

/-- No encoder's conversion overflows. -/
theorem converts (command : VescCmdPacketBody) : Converts command := by
  cases command with
  | rpm speed => exact ⟨rfl, speed.le_toInt, speed.toInt_lt⟩
  | servoPos pos =>
    apply converts_of_scaled 1000 1 pos
    · simp [VescCmdPacketBody.converted]
    · simp [VescCmdPacketBody.operand]
    · exact (by decide : 1000 * 1 < 2 ^ 15)
  | dutyCycle duty =>
    apply converts_of_scaled 100000 1 duty
    · simp [VescCmdPacketBody.converted]
    · simp [VescCmdPacketBody.operand]
    · exact (by decide : 100000 * 1 < 2 ^ 31)
  | current amps =>
    apply converts_of_scaled 1000 20 amps
    · simp [VescCmdPacketBody.converted]
    · simp [VescCmdPacketBody.operand]
    · exact (by decide : 1000 * 20 < 2 ^ 31)
  | currentBrake amps =>
    apply converts_of_scaled 1000 20 amps
    · simp [VescCmdPacketBody.converted]
    · simp [VescCmdPacketBody.operand]
    · exact (by decide : 1000 * 20 < 2 ^ 31)
  | position pos =>
    apply converts_of_scaled 100000 1 pos
    · simp [VescCmdPacketBody.converted]
    · simp [VescCmdPacketBody.operand]
    · exact (by decide : 100000 * 1 < 2 ^ 31)

theorem toNat_id_vescId (frame : ZcanFrame) {command : UInt32} (short : command.toNat < 2 ^ 29)
    (vesc : UInt8) : (frame.setId (vescId command vesc)).id.toNat = command.toNat ||| vesc.toNat := by
  have byte : vesc.toNat < 2 ^ 29 := vesc.toNat_lt.trans (by decide)
  rw [ZcanFrame.toNat_id_setId, vescId, UInt32.toNat_or, UInt32.toNat_or, Nat.or_mod_two_pow,
    Nat.or_mod_two_pow, Nat.mod_eq_of_lt short, UInt8.toNat_toUInt32, Nat.mod_eq_of_lt byte,
    show canEffFlag.toNat % 2 ^ 29 = 0 from rfl, Nat.or_zero]

private theorem toList_eight (data : Vector UInt8 8) : data.toList =
    [data.get 0, data.get 1, data.get 2, data.get 3, data.get 4, data.get 5, data.get 6, data.get 7] := by
  apply List.ext_getElem
  · exact data.length_toList
  · intro i left right
    have bound : i < 8 := right
    interval_cases i <;> rfl

/-- Five of the encoders put the word into the first four bytes. -/
theorem twosComplement_wordCmdToFrame (frame : ZcanFrame) (command : UInt32) (vesc : UInt8) (cmd : Int32) :
    twosComplement ((wordCmdToFrame frame command vesc cmd).data.toList.take 4) = cmd.toInt := by
  rw [toList_eight]
  simp only [List.take_succ_cons, List.take_zero, twosComplement_four, wordCmdToFrame, get_set]
  exact congrArg (fun word => word.toInt32.toInt) (bigEndian32_bytes cmd.toUInt32)

theorem VescCmdPacketBody.number_lt (command : VescCmdPacketBody) : command.number < 16 := by
  cases command <;> simp [number]

/-- The converted integer is the one that the controller expects. -/
theorem toInt_converted (command : VescCmdPacketBody) (wide : command.width = 4) :
    (Int32.ofInt command.converted).toInt = command.operand := by
  have fits := converts command
  have above := fits.above
  have below := fits.below
  rw [wide] at above below
  rw [Int32.toInt_ofInt_of_le above below, fits.exact]

private theorem wordCmdToFrame_carries (body : VescCmdPacketBody) (command : UInt32) (frame : ZcanFrame)
    (vesc : UInt8) (bare : body.header vesc = []) (wide : body.width = 4)
    (number : command.toNat = body.number <<< 8) :
    Carries body vesc (wordCmdToFrame frame command vesc (Int32.ofInt body.converted)) := by
  have small : command.toNat < 2 ^ 29 := by
    have short := body.number_lt
    rw [number, Nat.shiftLeft_eq]
    omega
  refine ⟨?_, ?_, ?_, ?_⟩
  · rw [bare, wide]
    rfl
  · rw [← number]
    exact toNat_id_vescId frame small vesc
  · rw [bare]
    rfl
  · rw [bare, wide, ← toInt_converted body wide]
    exact twosComplement_wordCmdToFrame frame command vesc _

/-- Every encoder carries its command, whatever the address, the value and the frame it starts from. -/
theorem toFrame_carries (command : VescCmdPacketBody) (vesc : UInt8) (frame : ZcanFrame) :
    Converts command ∧ Carries command vesc (command.toFrame frame vesc) := by
  refine ⟨converts command, ?_⟩
  cases command with
  | rpm speed =>
    have carried := wordCmdToFrame_carries (.rpm speed) vescRpmCmdFrameId frame vesc rfl rfl rfl
    rwa [VescCmdPacketBody.converted, Int32.ofInt_toInt] at carried
  | dutyCycle duty => exact wordCmdToFrame_carries (.dutyCycle duty) _ frame vesc rfl rfl rfl
  | current amps => exact wordCmdToFrame_carries (.current amps) _ frame vesc rfl rfl rfl
  | currentBrake amps => exact wordCmdToFrame_carries (.currentBrake amps) _ frame vesc rfl rfl rfl
  | position pos => exact wordCmdToFrame_carries (.position pos) _ frame vesc rfl rfl rfl
  | servoPos pos =>
    have fits := converts (.servoPos pos)
    have word := twosComplement_halfWord (Int16.ofInt (VescCmdPacketBody.servoPos pos).converted).toUInt16
    refine ⟨rfl, toNat_id_vescId frame (by decide) vesc, ?_, ?_⟩
    · rw [toList_eight]
      simp [VescCmdPacketBody.header, VescCmdPacketBody.toFrame, vescSetServoPosCmdPacketToFrame, get_set]
    · rw [toList_eight, ← fits.exact]
      simp only [VescCmdPacketBody.header, VescCmdPacketBody.width, VescCmdPacketBody.toFrame,
        vescSetServoPosCmdPacketToFrame, get_set, List.length_cons, List.length_nil, List.drop_succ_cons,
        List.drop_zero, List.take_succ_cons, List.take_zero]
      refine word.trans ?_
      rw [Int16.toInt16_toUInt16]
      exact Int16.toInt_ofInt_of_le fits.above fits.below

end Robofw.Model
