import Robofw.Soundness.TbotEcho
import Robofw.Soundness.TbotPipeline

/-! # What a host reads on the uplink of the TBot

A host tells the reports of the robot apart by their identifiers. What it decodes is what the robot
encoded, so over a run it reads the feedbacks and the robot states that the TX thread took, in order.
-/

namespace Robofw.Model.Tbot

open Robofw.Core
open Robofw.Model.Speed (id_encodeSpeed rpm_encodeSpeed)
open Robofw.Model.TbotActuators (Pins TbotActuatorConf)

/-- The report that a host decodes from a frame. -/
def decodeReport (frame : ZcanFrame) : Option FeedbackMsg :=
  if frame.idType = .standard ∧ frame.rtr = .dataFrame then
    if frame.id = supervisedStateDataCanId ∧ frame.dlc = 1 then
      some (.supervisedStateData (frame.data.get 0))
    else if frame.id = encoderRawDataCanId ∧ frame.dlc = 8 then
      some (.encoderRawData (rpmLeft frame) (rpmRight frame))
    else if frame.id = encoderFilteredDataCanId ∧ frame.dlc = 8 then
      some (.encoderFilteredData (rpmLeft frame) (rpmRight frame))
    else if frame.id = targetRpmDataCanId ∧ frame.dlc = 8 then
      some (.targetRpmData (rpmLeft frame) (rpmRight frame))
    else none
  else none

/-- A report is a standard data frame of the encoded length. -/
theorem header_sendMessage {uplink : Uplink} {msg : FeedbackMsg} {frame : ZcanFrame}
    (sent : sendMessage uplink msg = some frame) :
    frame.idType = .standard ∧ frame.rtr = .dataFrame ∧
      frame.dlc = (encodeCanMessage msg uplink.txFrame).dlc := by
  obtain ⟨-, rfl⟩ := sendCanFrame_sent.mp sent
  refine ⟨rfl, rfl, ?_⟩
  exact UInt8.toUInt8_toUInt32 _

/-- A host decodes a report of two speeds by its identifier. -/
theorem decodeReport_speed {uplink : Uplink} {msg : FeedbackMsg} {id : UInt32} {left right : Int32}
    {frame : ZcanFrame} (short : id.toNat < 2 ^ 29)
    (encodes : ∀ scratch, encodeCanMessage msg scratch = encodeSpeed scratch id left right)
    (sent : sendMessage uplink msg = some frame) :
    decodeReport frame =
      if id = encoderRawDataCanId then some (.encoderRawData left right)
      else if id = encoderFilteredDataCanId then some (.encoderFilteredData left right)
      else if id = targetRpmDataCanId then some (.targetRpmData left right)
      else none := by
  obtain ⟨standard, data, dlc⟩ := header_sendMessage sent
  obtain ⟨rfl, rfl, rfl⟩ := Speed.sendMessage_speed short encodes sent
  rw [encodes] at dlc
  have full : frame.dlc = 8 := dlc
  simp [decodeReport, standard, data, full]

/-- A host decodes every report that the robot sends. -/
theorem decodeReport_sendMessage {uplink : Uplink} {msg : FeedbackMsg} {frame : ZcanFrame}
    (sent : sendMessage uplink msg = some frame) : decodeReport frame = some msg := by
  cases msg with
  | supervisedStateData supMode =>
    obtain ⟨standard, data, dlc⟩ := header_sendMessage sent
    obtain ⟨-, rfl⟩ := sendCanFrame_sent.mp sent
    set encoded := encodeCanMessage (.supervisedStateData supMode) uplink.txFrame
    have id : (txFrame uplink.sendFrame encoded.id true encoded.data encoded.dlc.toUInt32).id =
        supervisedStateDataCanId := by
      rw [id_txFrame]
      apply UInt32.toNat_inj.mp
      exact uplink.txFrame.toNat_id_setId supervisedStateDataCanId
    have value : (txFrame uplink.sendFrame encoded.id true encoded.data encoded.dlc.toUInt32).data.get 0 =
        supMode := by
      have length : encoded.dlc = 1 := rfl
      have first : encoded.data.get 0 = supMode := get_setByte _ 0 0 supMode
      simp [txFrame, length, first]
    rw [decodeReport, if_pos ⟨standard, data⟩, if_pos ⟨id, dlc⟩, value]
  | encoderRawData left right => exact decodeReport_speed (by decide) (fun _ => rfl) sent
  | encoderFilteredData left right => exact decodeReport_speed (by decide) (fun _ => rfl) sent
  | targetRpmData left right => exact decodeReport_speed (by decide) (fun _ => rfl) sent

/-- What a host reads from an output of the TX thread. -/
def readReport : Speed.Output → Option FeedbackMsg
  | .sent frame _ => decodeReport frame
  | _ => none

/-- The reports of what the TX thread takes; the raw speeds are undefined before the first estimate. -/
def Taken.reports : Taken → List (Option FeedbackMsg)
  | .feedback taken =>
    [taken.measuredSpeed.rawRpms.map fun rpms => .encoderRawData (rpms.get 0) (rpms.get 1),
      some (.encoderFilteredData (taken.measuredSpeed.filteredRpms.get 0)
        (taken.measuredSpeed.filteredRpms.get 1)),
      some (.targetRpmData taken.targetSpeed.val.left.toInt32 taken.targetSpeed.val.right.toInt32)]
  | .state taken => [some (.supervisedStateData taken.supMode)]
  | _ => []

/-- A host reads the reports of what the TX thread takes, and nothing from an inactive device. -/
theorem map_readReport (uplink : Uplink) (taken : Taken) :
    (taken.reported uplink).map readReport = if uplink.dd_can.active then taken.reports else [] := by
  have data (msg : FeedbackMsg) (source : Option ZcanFrame) :
      (Speed.sendData uplink msg source).map readReport = if uplink.dd_can.active then [some msg] else [] := by
    unfold Speed.sendData
    cases sent : sendMessage uplink msg with
    | some frame =>
      have active : uplink.dd_can.active = true := (sendCanFrame_sent.mp sent).1
      rw [if_pos active]
      exact congrArg ([·]) (decodeReport_sendMessage sent)
    | none =>
      have inactive : uplink.dd_can.active = false := by
        unfold sendMessage sendCanFrame at sent
        cases active : uplink.dd_can.active with
        | false => rfl
        | true => simp [active] at sent
      rw [inactive]
      rfl
  have raw (rawRpms : Option (Vector Int32 2)) (source : Option ZcanFrame) :
      (Speed.sendRaw uplink rawRpms source).map readReport = if uplink.dd_can.active then
        [rawRpms.map fun rpms => .encoderRawData (rpms.get 0) (rpms.get 1)] else [] := by
    unfold Speed.sendRaw
    cases rawRpms with
    | some rpms => exact data _ _
    | none => dsimp only; split <;> rfl
  cases taken with
  | feedback taken =>
    simp only [Taken.reported, Taken.reports, Speed.sendFeedback, List.map_append, data, raw]
    split <;> rfl
  | state taken => exact data _ _
  | _ => exact (ite_self []).symm

/-- In every run, a host reads on the uplink, in order, the reports of the feedbacks and robot states that
the TX thread took. -/
theorem reports_read (conf : TbotActuatorConf) (uplink : Uplink) (before : Pins)
    (events : List SystemEvent) :
    ((system conf uplink before).observed (System.shown conf uplink SystemOutput.sent?) events).map readReport =
      if uplink.dd_can.active then
        ((system conf uplink before).observed System.taken events).flatMap Taken.reports
      else [] := by
  rw [sent_run, List.map_flatMap]
  simp only [map_readReport]
  split
  · rfl
  · exact List.flatMap_eq_nil_iff.mpr fun _ _ => rfl

end Robofw.Model.Tbot
