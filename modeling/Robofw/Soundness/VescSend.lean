import Robofw.Model.RccarMessenger
import Robofw.Soundness.VescEncoding

/-! # What a send helper's answer says

A helper is to answer true exactly when its command went out: `can_send` took the frame of the
encoder under the 29-bit identifier of the command. An active device makes it so for each of the six
commands and each return code. An inactive one makes `SendCanFrame` return `false`, which is
`CAN_TX_OK`, and every helper answers true with nothing sent.
-/

namespace Robofw.Model.Rccar.Messenger

open Robofw.Core

/-- The helper of a command, run on its value. -/
def send (board : Board) : VescCmdPacketBody → Option ZcanFrame × Bool
  | .servoPos pos => sendServoPosCmd board pos
  | .dutyCycle duty => sendSetDutyCycleCmd board duty
  | .current amps => sendSetCurrentCmd board amps
  | .currentBrake amps => sendSetCurrentBrakeCmd board amps
  | .rpm speed => sendSetRpmCmd board speed
  | .position pos => sendSetPositionCmd board pos

/-- An extended data frame under the command's identifier, with the bytes of the encoder's frame. -/
structure Proper (command : VescCmdPacketBody) (encoded frame : ZcanFrame) : Prop where
  extended : frame.idType = .extended
  data : frame.rtr = .dataFrame
  addressed : frame.id.toNat = command.number <<< 8 ||| vescIdOfCar.toNat
  length : frame.dlc = encoded.dlc
  payload : ∀ i : Fin 8, i.val < encoded.dlc.toNat → frame.data.get i = encoded.data.get i

/-- The helper answers true exactly when the driver took the command's frame. -/
def ReportsSent (board : Board) (command : VescCmdPacketBody) : Prop :=
  (send board command).2 = true ↔
    ∃ frame, (send board command).1 = some frame ∧
      Proper command (command.toFrame board.packetFrame vescIdOfCar) frame ∧
      board.canSend frame = canTxOk

/-- Every helper sends the frame of its encoder. -/
theorem send_eq (board : Board) (command : VescCmdPacketBody) :
    send board command = sendCmd board (command.toFrame board.packetFrame vescIdOfCar) := by
  cases command <;> rfl

theorem id_toFrame (command : VescCmdPacketBody) (frame : ZcanFrame) (vesc : UInt8) :
    (command.toFrame frame vesc).id.toNat = command.number <<< 8 ||| vesc.toNat := by
  cases command <;> exact toNat_id_vescId frame (by decide) vesc

/-- The frame rebuilt field by field is a proper one. -/
theorem txFrame_proper (board : Board) (command : VescCmdPacketBody) :
    let encoded := command.toFrame board.packetFrame vescIdOfCar
    Proper command encoded
      (txFrame board.sendFrame encoded.id false encoded.data encoded.dlc.toUInt32) := by
  intro encoded
  refine ⟨rfl, rfl, ?_, ?_, ?_⟩
  · rw [id_txFrame]
    exact id_toFrame command board.packetFrame vescIdOfCar
  · exact UInt8.toUInt8_toUInt32 encoded.dlc
  · intro i counted
    rw [← UInt8.toNat_toUInt32] at counted
    simp only [txFrame, get_memcpyData]
    exact if_pos counted

/-- An inactive device sends nothing, and every helper answers true. -/
theorem send_inactive {board : Board} (inactive : board.dd_can.active = false)
    (command : VescCmdPacketBody) : send board command = (none, true) := by
  simp [send_eq, sendCmd, sendCanFrame, inactive, canTxOk]

/-- An active device is handed the frame, and the answer is the driver's. -/
theorem send_active {board : Board} (active : board.dd_can.active = true)
    (command : VescCmdPacketBody) :
    ∃ frame, send board command = (some frame, board.canSend frame == canTxOk) ∧
      Proper command (command.toFrame board.packetFrame vescIdOfCar) frame := by
  refine ⟨_, ?_, txFrame_proper board command⟩
  simp [send_eq, sendCmd, sendCanFrame, active]

theorem not_reportsSent {board : Board} (inactive : board.dd_can.active = false)
    (command : VescCmdPacketBody) : ¬ ReportsSent board command := by
  intro right
  rw [ReportsSent, send_inactive inactive] at right
  obtain ⟨frame, sent, -⟩ := right.mp rfl
  exact Option.some_ne_none frame sent.symm

/-- The answer is right exactly on an active device. -/
theorem reportsSent_iff (board : Board) (command : VescCmdPacketBody) :
    ReportsSent board command ↔ board.dd_can.active = true := by
  constructor
  · intro right
    by_contra inactive
    exact not_reportsSent (Bool.eq_false_of_not_eq_true inactive) command right
  · intro active
    obtain ⟨sent, answer, proper⟩ := send_active active command
    rw [ReportsSent, answer]
    constructor
    · intro accepted
      exact ⟨sent, rfl, proper, beq_iff_eq.mp accepted⟩
    · rintro ⟨frame, same, -, accepted⟩
      obtain rfl := Option.some.inj same
      exact beq_iff_eq.mpr accepted

/-- A car whose CAN device never became active, with a driver that would take any frame. -/
def inactiveBoard : Board := ⟨⟨false⟩, fun _ => 0, blankFrame, blankFrame⟩

/-- Its request to stop the motor is reported as sent. -/
theorem stop_not_reportsSent : ¬ ReportsSent inactiveBoard (.rpm 0) := by
  apply not_reportsSent
  rfl

end Robofw.Model.Rccar.Messenger
