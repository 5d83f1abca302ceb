import Robofw.Core.Words
import Robofw.Model.CanFrame
import Robofw.Model.Interface

/-! # TBot CAN messages

`service/robot_tbot/messenger/src/tbot/tbot_messenger.c`: decoding of the command frames, and the
dispatch of a decoded message in `MessengerServiceRxLoop`.
-/

namespace Robofw.Model.Tbot

open Robofw.Core

def supCmdCanId : UInt32 := 0x100
def pwmCmdCanId : UInt32 := 0x101
def motorCmdCanId : UInt32 := 0x102
def motionCmdCanId : UInt32 := 0x103

/-- `TbotMsg`, tag and union in one: the commands the decoder produces. -/
inductive TbotMsg where
  | superviserCommand (supMode : SupervisedMode)
  | pwmCommand (pwmLeft pwmRight : Int8)
  | motorCommand (rpmLeft rpmRight : Int32)
  | motionCommand (linear angular : ℚ)
deriving DecidableEq

/-- `DecodeCanMessage`; `none` is the `ret = false` of an unknown identifier. -/
def decodeCanMessage (frame : ZcanFrame) : Option TbotMsg :=
  let byte := frame.data.get
  if frame.id = supCmdCanId then
    some (.superviserCommand (byte 0))
  else if frame.id = pwmCmdCanId then
    some (.pwmCommand (byte 0).toInt8 (byte 1).toInt8)
  else if frame.id = motorCmdCanId then
    some (.motorCommand
      (bigEndian32 (byte 0) (byte 1) (byte 2) (byte 3)).toInt32
      (bigEndian32 (byte 4) (byte 5) (byte 6) (byte 7)).toInt32)
  else if frame.id = motionCmdCanId then
    some (.motionCommand
      ((bigEndian32 (byte 0) (byte 1) (byte 2) (byte 3)).toInt32.toInt / 100)
      ((bigEndian32 (byte 4) (byte 5) (byte 6) (byte 7)).toInt32.toInt / 100))
  else none

/-- The message a case of the RX switch puts, and with it the queue it goes to. -/
inductive RxJob where
  | supervisorCmd (mode : SupervisedMode)
  | actuatorCmd (cmd : ActuatorCmd)
  | desiredRpm (rpm : DesiredRpm)
  | desiredMotion (motion : DesiredMotion)
deriving DecidableEq

/-- The `switch` of `MessengerServiceRxLoop`. The right motor is mounted in the opposite direction;
an `int32_t` assigned to a motor speed keeps its low 16 bits. -/
def dispatch : TbotMsg → RxJob
  | .superviserCommand supMode => .supervisorCmd supMode
  | .pwmCommand pwmLeft pwmRight => .actuatorCmd ⟨pwmLeft.toInt / 100, -pwmRight.toInt / 100⟩
  | .motorCommand rpmLeft rpmRight => .desiredRpm ⟨rpmLeft.toInt16, (-rpmRight).toInt16⟩
  | .motionCommand linear angular => .desiredMotion ⟨linear, angular⟩

/-- What the RX loop does with a frame: nothing when the decoder rejects it. -/
def rxJob? (frame : ZcanFrame) : Option RxJob := (decodeCanMessage frame).map dispatch

end Robofw.Model.Tbot
