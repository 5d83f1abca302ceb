import Robofw.Model.CanInterface
import Robofw.Model.Vesc

/-! # The send helpers of the RC car

The six `Send...Cmd` functions of `service/robot_rccar/messenger/src/messenger_service.c`: the frame
that `can_send` was called with, and the answer. The services call two of them and drop the answer.
-/

namespace Robofw.Model.Rccar

/-- `VESC_ID` -/
def vescIdOfCar : UInt8 := 0x68

/-- What stands outside the services: the CAN device, its driver, and the uninitialised locals. -/
structure Board where
  dd_can : CanDescriptor
  canSend : ZcanFrame → ℤ
  packetFrame : ZcanFrame
  sendFrame : ZcanFrame

namespace Messenger

/-- `CAN_TX_OK` -/
def canTxOk : ℤ := 0

/-- The body of the helpers, after the encoder. -/
def sendCmd (board : Board) (txFrame : ZcanFrame) : Option ZcanFrame × Bool :=
  let (sent, ret) := sendCanFrame board.dd_can board.canSend board.sendFrame txFrame.id false
    txFrame.data txFrame.dlc.toUInt32
  (sent, ret == canTxOk)

def sendServoPosCmd (board : Board) (pos : ℚ) : Option ZcanFrame × Bool :=
  sendCmd board (vescSetServoPosCmdPacketToFrame board.packetFrame vescIdOfCar pos)

def sendSetDutyCycleCmd (board : Board) (duty : ℚ) : Option ZcanFrame × Bool :=
  sendCmd board (vescSetDutyCycleCmdPacketToFrame board.packetFrame vescIdOfCar duty)

def sendSetCurrentCmd (board : Board) (current : ℚ) : Option ZcanFrame × Bool :=
  sendCmd board (vescSetCurrentCmdPacketToFrame board.packetFrame vescIdOfCar current)

def sendSetCurrentBrakeCmd (board : Board) (current : ℚ) : Option ZcanFrame × Bool :=
  sendCmd board (vescSetCurrentBrakeCmdPacketToFrame board.packetFrame vescIdOfCar current)

def sendSetRpmCmd (board : Board) (rpm : Int32) : Option ZcanFrame × Bool :=
  sendCmd board (vescSetRpmCmdPacketToFrame board.packetFrame vescIdOfCar rpm)

def sendSetPositionCmd (board : Board) (pos : ℚ) : Option ZcanFrame × Bool :=
  sendCmd board (vescSetPositionCmdPacketToFrame board.packetFrame vescIdOfCar pos)

end Messenger

end Robofw.Model.Rccar
