import Robofw.Model.Vesc

/-! # The VESC parser and the 29-bit identifier

The parser compares `frame->id` with identifiers that carry `CAN_EFF_FLAG`, bit 31. The field it reads
has 29 bits, so no frame it can be given passes a comparison, whether it comes from the encoders or
from the driver: every command addressed to the MCU is refused.
-/

namespace Robofw.Model

open Robofw.Core

/-- An identifier that carries `CAN_EFF_FLAG` does not fit the field of a frame. -/
theorem vescId_ge (command : UInt32) (vesc : UInt8) : 2 ^ 29 ≤ (vescId command vesc).toNat := by
  have flag : canEffFlag.toNat ≤ (command ||| vesc.toUInt32).toNat ||| canEffFlag.toNat :=
    Nat.right_le_or
  rw [vescId, UInt32.toNat_or]
  refine le_trans ?_ flag
  decide

theorem id_ne_vescId (frame : ZcanFrame) (command : UInt32) (vesc : UInt8) :
    frame.id ≠ vescId command vesc := by
  intro same
  have stored := frame.id_lt
  rw [same] at stored
  exact absurd stored (Nat.not_lt.mpr (vescId_ge command vesc))

/-- The parser refuses every frame and leaves the packet as it was. -/
theorem canFrameToCmdPacket_eq (frame : ZcanFrame) (pkt : VescCmdPacket) :
    canFrameToCmdPacket frame pkt = (false, pkt) := by
  unfold canFrameToCmdPacket
  repeat rw [if_neg (id_ne_vescId frame _ _)]

/-! ## Round trip -/

namespace VescCmdPacketBody

/-- The frame of a command, by the encoder for it. -/
def toFrame (frame : ZcanFrame) (vesc : UInt8) : VescCmdPacketBody → ZcanFrame
  | .servoPos pos => vescSetServoPosCmdPacketToFrame frame vesc pos
  | .dutyCycle duty => vescSetDutyCycleCmdPacketToFrame frame vesc duty
  | .current amps => vescSetCurrentCmdPacketToFrame frame vesc amps
  | .currentBrake amps => vescSetCurrentBrakeCmdPacketToFrame frame vesc amps
  | .rpm speed => vescSetRpmCmdPacketToFrame frame vesc speed
  | .position pos => vescSetPositionCmdPacketToFrame frame vesc pos

/-- A value held between zero and `upper` and cut to a fixed-point scale. -/
def fixedPoint (value upper : ℚ) (scale : ℕ) : ℚ := truncate (min (max value 0) upper * scale) / scale

/-- The packet that a command is to arrive as. -/
def transmitted : VescCmdPacketBody → VescCmdPacket
  | .servoPos pos => ⟨.vescSetServoPosCmd, .servoPos (fixedPoint pos 1 1000)⟩
  | .dutyCycle duty => ⟨.vescSetDutyCycleCmd, .dutyCycle (fixedPoint duty 1 100000)⟩
  | .current amps => ⟨.vescSetCurrentCmd, .current (fixedPoint amps 20 1000)⟩
  | .currentBrake amps => ⟨.vescSetCurrentBrakeCmd, .currentBrake (fixedPoint amps 20 1000)⟩
  | .rpm speed => ⟨.vescSetRpmCmd, .rpm speed⟩
  | .position pos => ⟨.vescSetPositionCmd, .position (fixedPoint pos 1 100000)⟩

end VescCmdPacketBody

/-- The parser accepts the MCU's frame of the command and recovers the command from it. -/
def RoundTrips (command : VescCmdPacketBody) (frame : ZcanFrame) (pkt : VescCmdPacket) : Prop :=
  canFrameToCmdPacket (command.toFrame frame mcuId) pkt = (true, command.transmitted)

instance (command : VescCmdPacketBody) (frame : ZcanFrame) (pkt : VescCmdPacket) :
    Decidable (RoundTrips command frame pkt) := inferInstanceAs (Decidable (_ = _))

/-- No command makes the round trip, whatever its value. -/
theorem not_roundTrips (command : VescCmdPacketBody) (frame : ZcanFrame) (pkt : VescCmdPacket) :
    ¬ RoundTrips command frame pkt := by
  intro same
  rw [RoundTrips, canFrameToCmdPacket_eq] at same
  exact Bool.false_ne_true (congrArg Prod.fst same)

/-- A frame with every field zero. -/
def blankFrame : ZcanFrame := ⟨0, .standard, .dataFrame, 0, .replicate 8 0⟩

/-- The command to spin at 1000 rpm is lost. -/
theorem rpmCommand_not_roundTrips :
    ¬ RoundTrips (.rpm 1000) blankFrame ⟨.vescUnknownCmd, .rpm 0⟩ := by decide +kernel

/-! ## Acceptance -/

/-- The identifiers of the six commands. -/
def vescCommands : List UInt32 :=
  [vescProcessShortBufferCmdFrameId, vescDutyCycleCmdFrameId, vescCurrentCmdFrameId,
    vescCurrentBrakeCmdFrameId, vescRpmCmdFrameId, vescPositionCmdFrameId]

/-- One of the six commands addressed to the MCU, as the driver stores it: an extended data frame
with the command and `MCU_ID` in its 29 bits, and a short buffer only if it sets the servo. -/
structure IsMcuCommand (frame : ZcanFrame) : Prop where
  extended : frame.idType = .extended
  data : frame.rtr = .dataFrame
  addressed : ∃ command ∈ vescCommands, frame.id = command ||| mcuId.toUInt32
  servo : frame.id = vescProcessShortBufferCmdFrameId ||| mcuId.toUInt32 →
    frame.data.get 2 = vescCommSetServoPosId

/-- The parser answers true exactly on the six commands; the frame alone then decides the packet, and
otherwise the packet stays. -/
structure AcceptsExactly (frame : ZcanFrame) : Prop where
  accepted : ∀ pkt, (canFrameToCmdPacket frame pkt).1 = true ↔ IsMcuCommand frame
  determined : ∀ pkt other, (canFrameToCmdPacket frame pkt).1 = true →
    (canFrameToCmdPacket frame other).2 = (canFrameToCmdPacket frame pkt).2
  unchanged : ∀ pkt, (canFrameToCmdPacket frame pkt).1 = false →
    (canFrameToCmdPacket frame pkt).2 = pkt

/-- The parser is right exactly on the frames that are not commands. -/
theorem acceptsExactly_iff (frame : ZcanFrame) : AcceptsExactly frame ↔ ¬ IsMcuCommand frame := by
  constructor
  · intro holds command
    have answer := (holds.accepted ⟨.vescUnknownCmd, .rpm 0⟩).mpr command
    rw [canFrameToCmdPacket_eq] at answer
    exact Bool.false_ne_true answer
  · intro other
    refine ⟨fun pkt => ?_, fun pkt _ answer => ?_, fun pkt _ => ?_⟩
    · rw [canFrameToCmdPacket_eq]
      exact ⟨fun answer => absurd answer Bool.false_ne_true, fun command => absurd command other⟩
    · rw [canFrameToCmdPacket_eq] at answer
      exact absurd answer Bool.false_ne_true
    · rw [canFrameToCmdPacket_eq]

/-- The rpm command of 1000 as the driver delivers it. -/
def rpmCommandFrame : ZcanFrame :=
  ⟨0x360, .extended, .dataFrame, 4, #v[0x00, 0x00, 0x03, 0xE8, 0x00, 0x00, 0x00, 0x00]⟩

/-- That command is refused. -/
theorem rpmCommandFrame_not_acceptsExactly : ¬ AcceptsExactly rpmCommandFrame := by
  intro holds
  have command : IsMcuCommand rpmCommandFrame :=
    ⟨rfl, rfl, ⟨vescRpmCmdFrameId, by decide, by decide⟩, fun servo => absurd servo (by decide)⟩
  have answer := (holds.accepted ⟨.vescUnknownCmd, .rpm 0⟩).mpr command
  exact absurd answer (by decide +kernel)

end Robofw.Model
