import Robofw.Soundness.TbotEcho

/-! # The layouts of the TBot's frames

A feedback frame has its speeds where the decoder reads those of a motor command, and its mode where
the decoder reads the one of a supervisor command. The identifier and the bytes that `dlc` counts
determine the message: `readFeedback` is what the computer on the other side can do with them.
-/

namespace Robofw.Model.Tbot

open Robofw.Core
open Robofw.Model.Speed (rpm_encodeSpeed id_encodeSpeed)

/-- The three feedback messages with two speeds. -/
def speedFeedback (left right : Int32) : List FeedbackMsg :=
  [.encoderRawData left right, .encoderFilteredData left right, .targetRpmData left right]

/-- The feedback message in a frame. -/
def readFeedback (frame : ZcanFrame) : Option FeedbackMsg :=
  if frame.id = supervisedStateDataCanId then some (.supervisedStateData (frame.data.get 0))
  else if frame.id = encoderRawDataCanId then some (.encoderRawData (rpmLeft frame) (rpmRight frame))
  else if frame.id = encoderFilteredDataCanId then
    some (.encoderFilteredData (rpmLeft frame) (rpmRight frame))
  else if frame.id = targetRpmDataCanId then some (.targetRpmData (rpmLeft frame) (rpmRight frame))
  else none

/-- The second frame cannot be told from the first by its identifier and the data of the first. -/
structure SameOnBus (frame other : ZcanFrame) : Prop where
  id : frame.id = other.id
  data : ∀ i : Fin 8, i.val < frame.dlc.toNat → frame.data.get i = other.data.get i

/-- Only the identifier and the data are read. -/
theorem readFeedback_congr {frame other : ZcanFrame} (sameId : frame.id = other.id)
    (sameData : ∀ i : Fin 8, frame.data.get i = other.data.get i) :
    readFeedback other = readFeedback frame := by
  simp only [readFeedback, rpmLeft, rpmRight, sameId, sameData]

/-- A message with two speeds is encoded by the one layout. -/
theorem encode_speedFeedback {left right : Int32} {msg : FeedbackMsg} (mem : msg ∈ speedFeedback left right)
    (scratch : ZcanFrame) :
    ∃ id : UInt32, encodeCanMessage msg scratch = encodeSpeed scratch id left right := by
  simp only [speedFeedback, List.mem_cons, List.not_mem_nil, or_false] at mem
  obtain rfl | rfl | rfl := mem
  · exact ⟨encoderRawDataCanId, rfl⟩
  · exact ⟨encoderFilteredDataCanId, rfl⟩
  · exact ⟨targetRpmDataCanId, rfl⟩

/-- Under the motor command's identifier the decoder reads the two speeds. -/
theorem decode_motorCommand {frame : ZcanFrame} (motor : frame.id = motorCmdCanId) :
    decodeCanMessage frame = some (.motorCommand (rpmLeft frame) (rpmRight frame)) := by
  simp only [decodeCanMessage, motor]
  rfl

theorem decode_superviserCommand {frame : ZcanFrame} (sup : frame.id = supCmdCanId) :
    decodeCanMessage frame = some (.superviserCommand (frame.data.get 0)) := by
  rw [decodeCanMessage, if_pos sup]

/-- Where an identifier stands for a message with two speeds, the computer reads back what was encoded. -/
private theorem readFeedback_encodeSpeed {id : UInt32} (short : id.toNat < 2 ^ 29)
    {message : Int32 → Int32 → FeedbackMsg} (reads : ∀ frame : ZcanFrame, frame.id = id →
      readFeedback frame = some (message (rpmLeft frame) (rpmRight frame)))
    (scratch : ZcanFrame) (left right : Int32) :
    readFeedback (encodeSpeed scratch id left right) = some (message left right) := by
  have stored := id_encodeSpeed scratch short left right
  obtain ⟨leftRpm, rightRpm⟩ := rpm_encodeSpeed scratch id left right
  rw [reads _ stored, leftRpm, rightRpm]

/-- The computer reads back what was encoded. -/
theorem readFeedback_encode (msg : FeedbackMsg) (scratch : ZcanFrame) :
    readFeedback (encodeCanMessage msg scratch) = some msg := by
  cases msg with
  | supervisedStateData mode =>
    have stored : (encodeCanMessage (.supervisedStateData mode) scratch).id = supervisedStateDataCanId :=
      UInt32.toNat_inj.mp (scratch.toNat_id_setId supervisedStateDataCanId)
    rw [readFeedback, if_pos stored]
    simp [encodeCanMessage]
  | encoderRawData left right =>
    apply readFeedback_encodeSpeed (by decide : encoderRawDataCanId.toNat < 2 ^ 29)
    intro frame stored
    rw [readFeedback, stored]
    rfl
  | encoderFilteredData left right =>
    apply readFeedback_encodeSpeed (by decide : encoderFilteredDataCanId.toNat < 2 ^ 29)
    intro frame stored
    rw [readFeedback, stored]
    rfl
  | targetRpmData left right =>
    apply readFeedback_encodeSpeed (by decide : targetRpmDataCanId.toNat < 2 ^ 29)
    intro frame stored
    rw [readFeedback, stored]
    rfl

/-- What is read from an encoded message is read from every frame that looks the same on the bus. -/
theorem readFeedback_sameOnBus {msg : FeedbackMsg} {scratch other : ZcanFrame}
    (same : SameOnBus (encodeCanMessage msg scratch) other) : readFeedback other = some msg := by
  rw [← readFeedback_encode msg scratch]
  cases msg with
  | supervisedStateData mode =>
    have byte := same.data 0 (by decide : 0 < 1)
    have stored : (encodeCanMessage (.supervisedStateData mode) scratch).id = supervisedStateDataCanId :=
      UInt32.toNat_inj.mp (scratch.toNat_id_setId supervisedStateDataCanId)
    rw [readFeedback, readFeedback, ← same.id, if_pos stored, if_pos stored, byte]
  | encoderRawData left right => exact readFeedback_congr same.id fun i => same.data i i.isLt
  | encoderFilteredData left right => exact readFeedback_congr same.id fun i => same.data i i.isLt
  | targetRpmData left right => exact readFeedback_congr same.id fun i => same.data i i.isLt

/-- The encoder's layouts are the decoder's: speeds come back from a motor command's frame, a mode from
a supervisor command's, and no two feedback messages look the same on the bus. -/
theorem feedback_layout :
    (∀ (left right : Int32) (scratch : ZcanFrame), ∀ msg ∈ speedFeedback left right,
      (encodeCanMessage msg scratch).dlc = 8 ∧
      ∀ frame : ZcanFrame, frame.id = motorCmdCanId → frame.data = (encodeCanMessage msg scratch).data →
        decodeCanMessage frame = some (.motorCommand left right)) ∧
    (∀ (mode : SupervisedMode) (scratch frame : ZcanFrame), frame.id = supCmdCanId →
      frame.data.get 0 = (encodeCanMessage (.supervisedStateData mode) scratch).data.get 0 →
      decodeCanMessage frame = some (.superviserCommand mode)) ∧
    (∀ (msg other : FeedbackMsg) (scratch scratch' : ZcanFrame), msg ≠ other →
      ¬ SameOnBus (encodeCanMessage msg scratch) (encodeCanMessage other scratch')) := by
  refine ⟨?_, ?_, ?_⟩
  · intro left right scratch msg mem
    obtain ⟨id, encodes⟩ := encode_speedFeedback mem scratch
    obtain ⟨leftRpm, rightRpm⟩ := rpm_encodeSpeed scratch id left right
    rw [encodes]
    refine ⟨rfl, fun frame motor data => ?_⟩
    have leftSame : rpmLeft frame = left := by rw [rpmLeft, data, ← rpmLeft, leftRpm]
    have rightSame : rpmRight frame = right := by rw [rpmRight, data, ← rpmRight, rightRpm]
    rw [decode_motorCommand motor, leftSame, rightSame]
  · intro mode scratch frame sup byte
    rw [decode_superviserCommand sup, byte]
    simp [encodeCanMessage]
  · intro msg other scratch scratch' differ same
    have read := readFeedback_sameOnBus same
    rw [readFeedback_encode, Option.some.injEq] at read
    exact differ read.symm

end Robofw.Model.Tbot
