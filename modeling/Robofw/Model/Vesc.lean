import Robofw.Model.CanFrame

/-! # VESC commands

`module/vesc`: the six encoders of `vesc_cmd_parser.c` and the parser that the fake VESC of the RC car
runs on every received frame. An encoder fills a local frame that is not initialised, so the frame it
starts from is an argument. A `float` is the rational it stands for.
-/

namespace Robofw.Model

open Robofw.Core

def vescDutyCycleCmdFrameId : UInt32 := 0x00000000
def vescCurrentCmdFrameId : UInt32 := 0x00000100
def vescCurrentBrakeCmdFrameId : UInt32 := 0x00000200
def vescRpmCmdFrameId : UInt32 := 0x00000300
def vescPositionCmdFrameId : UInt32 := 0x00000400
def vescProcessShortBufferCmdFrameId : UInt32 := 0x00000800

/-- `MCU_ID` -/
def mcuId : UInt8 := 0x60

/-- `CAN_EFF_FLAG` -/
def canEffFlag : UInt32 := 0x80000000

def vescCommSetServoPosId : UInt8 := 0x0c

inductive VescCmdPacketType where
  | vescUnknownCmd
  | vescSetServoPosCmd
  | vescSetDutyCycleCmd
  | vescSetCurrentCmd
  | vescSetCurrentBrakeCmd
  | vescSetRpmCmd
  | vescSetPositionCmd
deriving DecidableEq, Repr

/-- `union VescCmdPacketBody`, with the member last written. -/
inductive VescCmdPacketBody where
  | servoPos (pos : ℚ)
  | dutyCycle (duty : ℚ)
  | current (current : ℚ)
  | currentBrake (current : ℚ)
  | rpm (rpm : Int32)
  | position (pos : ℚ)
deriving DecidableEq

structure VescCmdPacket where
  type : VescCmdPacketType
  packet : VescCmdPacketBody
deriving DecidableEq

/-- `ClampCommand` -/
def clampCommand (cmd min max : ℚ) : ℚ :=
  let cmd := if cmd > max then max else cmd
  if cmd < min then min else cmd

/-- Conversion of a `float` to an integer: truncation toward zero. -/
def truncate (value : ℚ) : ℤ := value.num.tdiv value.den

/-- The identifier `command | vesc_id | CAN_EFF_FLAG`, in the encoders and in the parser. -/
def vescId (command : UInt32) (vesc : UInt8) : UInt32 := command ||| vesc.toUInt32 ||| canEffFlag

/-- Five of the encoders: a frame of four bytes that hold `cmd`, the high byte first. -/
def wordCmdToFrame (frame : ZcanFrame) (command : UInt32) (vesc : UInt8) (cmd : Int32) : ZcanFrame :=
  let word := cmd.toUInt32
  let frame := { frame.setId (vescId command vesc) with dlc := 4 }
  { frame with
    data := (((frame.data.set 0 ((word &&& 0xff000000) >>> 24).toUInt8).set
      1 ((word &&& 0x00ff0000) >>> 16).toUInt8).set
      2 ((word &&& 0x0000ff00) >>> 8).toUInt8).set
      3 (word &&& 0x000000ff).toUInt8 }

def vescSetServoPosCmdPacketToFrame (frame : ZcanFrame) (vesc : UInt8) (pos : ℚ) : ZcanFrame :=
  let pos := clampCommand pos 0 1
  let posCmd := (Int16.ofInt (truncate (pos * 1000))).toUInt16
  let frame := { frame.setId (vescId vescProcessShortBufferCmdFrameId vesc) with dlc := 5 }
  { frame with
    data := ((((frame.data.set 0 vesc).set 1 0x00).set 2 vescCommSetServoPosId).set
      3 ((posCmd &&& 0xff00) >>> 8).toUInt8).set
      4 (posCmd &&& 0x00ff).toUInt8 }

def vescSetDutyCycleCmdPacketToFrame (frame : ZcanFrame) (vesc : UInt8) (duty : ℚ) : ZcanFrame :=
  wordCmdToFrame frame vescDutyCycleCmdFrameId vesc
    (Int32.ofInt (truncate (clampCommand duty 0 1 * 100000)))

def vescSetCurrentCmdPacketToFrame (frame : ZcanFrame) (vesc : UInt8) (current : ℚ) : ZcanFrame :=
  wordCmdToFrame frame vescCurrentCmdFrameId vesc
    (Int32.ofInt (truncate (clampCommand current 0 20 * 1000)))

def vescSetCurrentBrakeCmdPacketToFrame (frame : ZcanFrame) (vesc : UInt8) (current : ℚ) :
    ZcanFrame :=
  wordCmdToFrame frame vescCurrentBrakeCmdFrameId vesc
    (Int32.ofInt (truncate (clampCommand current 0 20 * 1000)))

def vescSetRpmCmdPacketToFrame (frame : ZcanFrame) (vesc : UInt8) (rpm : Int32) : ZcanFrame :=
  wordCmdToFrame frame vescRpmCmdFrameId vesc rpm

def vescSetPositionCmdPacketToFrame (frame : ZcanFrame) (vesc : UInt8) (pos : ℚ) : ZcanFrame :=
  wordCmdToFrame frame vescPositionCmdFrameId vesc
    (Int32.ofInt (truncate (clampCommand pos 0 1 * 100000)))

/-- The 32-bit operand of a frame. -/
def cmdWord (frame : ZcanFrame) : Int32 :=
  (bigEndian32 (frame.data.get 0) (frame.data.get 1) (frame.data.get 2) (frame.data.get 3)).toInt32

/-- The 16-bit operand of a servo frame, which stays unsigned. -/
def servoWord (frame : ZcanFrame) : UInt16 :=
  (frame.data.get 3).toUInt16 <<< 8 ||| (frame.data.get 4).toUInt16

/-- `CanFrameToCmdPacket`: the answer and the packet after the call. -/
def canFrameToCmdPacket (frame : ZcanFrame) (pkt : VescCmdPacket) : Bool × VescCmdPacket :=
  if frame.id = vescId vescProcessShortBufferCmdFrameId mcuId then
    if frame.data.get 2 = vescCommSetServoPosId then
      (true, ⟨.vescSetServoPosCmd, .servoPos ((servoWord frame).toNat / 1000)⟩)
    else (true, pkt)
  else if frame.id = vescId vescDutyCycleCmdFrameId mcuId then
    (true, ⟨.vescSetDutyCycleCmd, .dutyCycle ((cmdWord frame).toInt / 100000)⟩)
  else if frame.id = vescId vescCurrentCmdFrameId mcuId then
    (true, ⟨.vescSetCurrentCmd, .current ((cmdWord frame).toInt / 1000)⟩)
  else if frame.id = vescId vescCurrentBrakeCmdFrameId mcuId then
    (true, ⟨.vescSetCurrentBrakeCmd, .currentBrake ((cmdWord frame).toInt / 1000)⟩)
  else if frame.id = vescId vescRpmCmdFrameId mcuId then
    (true, ⟨.vescSetRpmCmd, .rpm (cmdWord frame)⟩)
  else if frame.id = vescId vescPositionCmdFrameId mcuId then
    (true, ⟨.vescSetPositionCmd, .position ((cmdWord frame).toInt / 100000)⟩)
  else (false, pkt)

end Robofw.Model
