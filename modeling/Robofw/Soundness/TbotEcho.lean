import Robofw.Soundness.TbotDecoding
import Robofw.Soundness.TbotFeedbackSteps

/-! # What the TBot reports of a motor command

A wheel target keeps the frame that commanded it on its way from the RX thread to the feedback, so a
target frame that reports on a command carries the speeds that the RX thread made of it. The right one
was inverted there and is not inverted back.
-/

namespace Robofw.Model.Speed

open Robofw.Core Robofw.Model.Tbot

/-- Two encoded speeds are decoded again. -/
theorem rpm_encodeSpeed (frame : ZcanFrame) (id : UInt32) (left right : Int32) :
    rpmLeft (encodeSpeed frame id left right) = left ∧
      rpmRight (encodeSpeed frame id left right) = right := by
  have leftWord := congrArg UInt32.toInt32 (bigEndian32_bytes left.toUInt32)
  have rightWord := congrArg UInt32.toInt32 (bigEndian32_bytes right.toUInt32)
  constructor
  · simpa [rpmLeft, encodeSpeed] using leftWord
  · simpa [rpmRight, encodeSpeed] using rightWord

/-- A frame that the driver gets has the identifier and, when it is full, the speeds of its source. -/
theorem txFrame_full (scratch frame : ZcanFrame) (full : frame.dlc = 8) :
    (txFrame scratch frame.id true frame.data frame.dlc.toUInt32).id = frame.id ∧
      rpmLeft (txFrame scratch frame.id true frame.data frame.dlc.toUInt32) = rpmLeft frame ∧
      rpmRight (txFrame scratch frame.id true frame.data frame.dlc.toUInt32) = rpmRight frame := by
  rw [full]
  refine ⟨?_, ?_, ?_⟩
  · exact id_txFrame scratch frame true frame.data 8
  · simp [rpmLeft, txFrame]
  · simp [rpmRight, txFrame]

theorem id_encodeSpeed (frame : ZcanFrame) {id : UInt32} (short : id.toNat < 2 ^ 29)
    (left right : Int32) : (encodeSpeed frame id left right).id = id := by
  apply UInt32.toNat_inj.mp
  have stored := frame.toNat_id_setId id
  rw [Nat.mod_eq_of_lt short] at stored
  exact stored

/-- What is sent for a message with two speeds. -/
theorem sendMessage_speed {uplink : Uplink} {msg : FeedbackMsg} {id : UInt32} {left right : Int32}
    {frame : ZcanFrame} (short : id.toNat < 2 ^ 29)
    (encodes : ∀ scratch, encodeCanMessage msg scratch = encodeSpeed scratch id left right)
    (sent : sendMessage uplink msg = some frame) :
    frame.id = id ∧ rpmLeft frame = left ∧ rpmRight frame = right := by
  obtain ⟨-, rfl⟩ := sendCanFrame_sent.mp sent
  rw [encodes]
  obtain ⟨sameId, sameLeft, sameRight⟩ :=
    txFrame_full uplink.sendFrame (encodeSpeed uplink.txFrame id left right) rfl
  obtain ⟨leftRpm, rightRpm⟩ := rpm_encodeSpeed uplink.txFrame id left right
  exact ⟨sameId.trans (id_encodeSpeed _ short _ _), sameLeft.trans leftRpm,
    sameRight.trans rightRpm⟩

/-- The target is what the RX thread makes of the frame that is its source. -/
def FromSource (rpm : SourcedRpm) : Prop :=
  ∀ command ∈ rpm.stamp, rxJob? command = some (.desiredRpm rpm.val)

/-- Every target on its way to the TX thread has its source. -/
structure Sourced (s : State) : Prop where
  queued : ∀ rpm ∈ s.desiredRpmQueue.items, FromSource rpm
  target : FromSource s.speedControl.targetRpm
  reported : ∀ feedback ∈ s.feedbackQueue.items, FromSource feedback.targetSpeed

theorem sourced_initial : Sourced State.initial := by
  refine ⟨?_, ?_, ?_⟩
  · intro rpm member
    exact absurd member List.not_mem_nil
  · intro command source
    contradiction
  · intro feedback member
    exact absurd member List.not_mem_nil

variable {s : State}

/-- A target that comes into its queue has its source: the frame that the RX thread handles, or none. -/
theorem fromSource_of_mem_step {uplink : Uplink} {event : Event} {rpm : SourcedRpm}
    (member : rpm ∈ (step uplink s event).1.desiredRpmQueue.items) :
    rpm ∈ s.desiredRpmQueue.items ∨ FromSource rpm := by
  cases event with
  | canFrame frame =>
    simp only [step] at member
    split at member
    · split at member <;> exact .inl member
    · exact .inl member
  | messengerRx =>
    change rpm ∈ (messengerRxStep s).desiredRpmQueue.items at member
    unfold messengerRxStep at member
    split at member
    case h_1 => exact .inl member
    case h_2 rx active =>
      obtain ⟨frame, job, decoded, purging⟩ := rx
      cases job with
      | desiredRpm target =>
        rcases MessageQueue.mem_attempt rfl member with waiting | ⟨-, rfl⟩
        · exact .inl waiting
        · refine .inr fun command source => ?_
          obtain rfl := Option.some.inj source
          exact decoded
      | _ => exact .inl member
  | speedControl =>
    change rpm ∈ (speedControlStep s).1.desiredRpmQueue.items at member
    simp only [speedControlStep] at member
    cases at_pc : s.speedControl.pc with
    | pollRpm =>
      simp only [at_pc] at member
      split at member
      case h_1 target queue taken =>
        exact .inl (MessageQueue.get_eq_some taken ▸ List.mem_cons_of_mem _ member)
      case h_2 => exact .inl member
    | _ =>
      simp only [at_pc] at member
      split at member <;> exact .inl member
  | messengerTx =>
    change rpm ∈ (messengerTxStep uplink s).1.desiredRpmQueue.items at member
    unfold messengerTxStep at member
    split at member
    · split at member <;> exact .inl member
    · split at member <;> exact .inl member
  | motionControlPut target =>
    change rpm ∈ ((s.desiredRpmQueue.put ⟨target, none⟩).getD s.desiredRpmQueue).items at member
    cases success : s.desiredRpmQueue.put ⟨target, none⟩ with
    | none =>
      rw [success] at member
      exact .inl member
    | some queue =>
      rw [success, Option.getD_some, MessageQueue.put_eq_some success, List.mem_append,
        List.mem_singleton] at member
      rcases member with waiting | rfl
      · exact .inl waiting
      · exact .inr fun command source => by contradiction
  | motionControlPurge => exact absurd member List.not_mem_nil
  | _ => exact .inl member

/-- A received target was waiting. -/
theorem mem_of_receivedTarget {event : Event} {rpm : SourcedRpm}
    (received : receivedTarget (s, event) = some rpm) : rpm ∈ s.desiredRpmQueue.items := by
  unfold receivedTarget at received
  split at received
  · obtain ⟨⟨_, queue⟩, taken, rfl⟩ := Option.map_eq_some_iff.mp received
    exact MessageQueue.get_eq_some taken ▸ List.mem_cons_self ..
  · contradiction

/-- Every step keeps the sources. -/
theorem Sourced.step (sourced : Sourced s) (uplink : Uplink) (event : Event) :
    Sourced (step uplink s event).1 := by
  obtain ⟨queued, target, reported⟩ := sourced
  refine ⟨fun rpm member => ?_, ?_, fun feedback member => ?_⟩
  · exact (fromSource_of_mem_step member).elim (queued rpm) id
  · rw [targetRpm_step]
    cases received : receivedTarget (s, event) with
    | none => exact target
    | some rpm => exact queued rpm (mem_of_receivedTarget received)
  · rcases mem_feedbackQueue_step member with waiting | ⟨-, -, rfl⟩
    · exact reported feedback waiting
    · exact target

/-- The targets have their sources in every reached state. -/
theorem sourced_run (uplink : Uplink) (events : List Event) : Sourced ((machine uplink).run events) :=
  Machine.invariant_run (m := machine uplink) Sourced sourced_initial
    (fun _ event sourced => sourced.step uplink event) events

theorem mem_sendData {uplink : Uplink} {msg : FeedbackMsg} {source other : Option ZcanFrame}
    {frame : ZcanFrame} : .sent frame source ∈ sendData uplink msg other ↔
      sendMessage uplink msg = some frame ∧ source = other := by
  simp only [sendData, Option.mem_toList, Option.map_eq_some_iff, Output.sent.injEq]
  constructor
  · rintro ⟨_, sent, rfl, rfl⟩
    exact ⟨sent, rfl⟩
  · rintro ⟨sent, rfl⟩
    exact ⟨frame, sent, rfl, rfl⟩

/-- The raw speeds are sent under their identifier. -/
theorem id_of_mem_sendRaw {uplink : Uplink} {rawRpms : Option (Vector Int32 2)}
    {source other : Option ZcanFrame} {frame : ZcanFrame}
    (sent : .sent frame source ∈ sendRaw uplink rawRpms other) : frame.id = encoderRawDataCanId := by
  unfold sendRaw at sent
  cases rawRpms with
  | some rpms => exact (sendMessage_speed (by decide) (fun _ => rfl) (mem_sendData.mp sent).1).1
  | none =>
    dsimp only at sent
    split at sent
    · rw [List.mem_singleton] at sent
      contradiction
    · exact absurd sent List.not_mem_nil

/-- The target frame of a feedback reports the target. -/
theorem target_of_mem_sendFeedback {uplink : Uplink} {feedback : SpeedControlFeedback}
    {source : Option ZcanFrame} {frame : ZcanFrame}
    (sent : .sent frame source ∈ sendFeedback uplink feedback)
    (reports : frame.id = targetRpmDataCanId) :
    source = feedback.targetSpeed.stamp ∧ rpmLeft frame = feedback.targetSpeed.val.left.toInt32 ∧
      rpmRight frame = feedback.targetSpeed.val.right.toInt32 := by
  rcases List.mem_append.mp sent with sent | sent
  · rcases List.mem_append.mp sent with raw | filtered
    · rw [id_of_mem_sendRaw raw] at reports
      exact absurd reports (by decide)
    · obtain ⟨id, -⟩ := sendMessage_speed (by decide) (fun _ => rfl) (mem_sendData.mp filtered).1
      exact absurd (id.symm.trans reports) (by decide)
  · obtain ⟨target, same⟩ := mem_sendData.mp sent
    exact ⟨same, (sendMessage_speed (by decide) (fun _ => rfl) target).2⟩

/-- A frame that has a source is sent for a feedback. -/
theorem feedback_of_mem_step {uplink : Uplink} {event : Event} {frame command : ZcanFrame}
    (sent : .sent frame (some command) ∈ (step uplink s event).2) :
    ∃ feedback ∈ s.feedbackQueue.items, .sent frame (some command) ∈ sendFeedback uplink feedback := by
  rcases mem_step sent with ⟨-, -, published⟩ | reported | ⟨supMode, state⟩
  · contradiction
  · exact reported
  · exact absurd (mem_sendData.mp state).2 (by simp)

/-- The target frame for a motor command reports what the RX thread made of the command. -/
theorem target_of_sent {uplink : Uplink} {events : List Event} {event : Event}
    {command frame : ZcanFrame} (motor : command.id = motorCmdCanId)
    (sent : .sent frame (some command) ∈
      ((machine uplink).step ((machine uplink).run events) event).2)
    (reports : frame.id = targetRpmDataCanId) :
    rpmLeft frame = (rpmLeft command).toInt16.toInt32 ∧
      rpmRight frame = (-rpmRight command).toInt16.toInt32 := by
  obtain ⟨feedback, waiting, sent⟩ := feedback_of_mem_step sent
  obtain ⟨source, left, right⟩ := target_of_mem_sendFeedback sent reports
  have made := (sourced_run uplink events).reported feedback waiting command source.symm
  rw [rxJob?_motor motor] at made
  rw [← RxJob.desiredRpm.inj (Option.some.inj made)] at left right
  exact ⟨left, right⟩

/-- Every target frame for a motor command with these speeds decodes to these speeds, in any run. -/
def TargetEchoed (left right : Int32) : Prop :=
  ∀ uplink events event command frame, command.id = motorCmdCanId →
    rpmLeft command = left → rpmRight command = right →
    .sent frame (some command) ∈ ((machine uplink).step ((machine uplink).run events) event).2 →
    frame.id = targetRpmDataCanId → rpmLeft frame = left ∧ rpmRight frame = right

/-- A motor command frame. -/
def motorFrame (left right : Int32) : ZcanFrame :=
  encodeSpeed ⟨0, .standard, .dataFrame, 8, Vector.replicate 8 0⟩ motorCmdCanId left right

/-- An active device. -/
def activeUplink (frame : ZcanFrame) : Uplink := ⟨⟨true⟩, fun _ => 0, frame, frame⟩

theorem step_canFrame_accepted {uplink : Uplink} (idle : s.messengerRx = none) {frame : ZcanFrame}
    {job : RxJob} (decoded : rxJob? frame = some job) :
    (step uplink s (.canFrame frame)).1 =
      { s with messengerRx := some ⟨frame, job, decoded, false⟩ } := by
  simp only [step, idle, Option.isNone_none, if_true]
  split
  case h_1 other accepted =>
    obtain rfl := Option.some.inj (decoded.symm.trans accepted)
    rfl
  case h_2 rejected => rw [decoded] at rejected; contradiction

/-- The events from the arrival of a command to its feedback. -/
def commandEvents (command : ZcanFrame) : List Event :=
  [.canFrame command, .messengerRx, .speedControl, .speedControl, .speedControl, .speedControl]

/-- The state after a command has passed the RX thread and the speed control. -/
theorem run_commandEvents (uplink : Uplink) (left right : Int32) :
    ∃ feedback, feedback.targetSpeed.stamp = some (motorFrame left right) ∧
      ((machine uplink).run (commandEvents (motorFrame left right))).messengerTx = .pollFeedback ∧
      ((machine uplink).run (commandEvents (motorFrame left right))).feedbackQueue.get =
        some (feedback, .empty) := by
  have motor : rxJob? (motorFrame left right) = _ := rxJob?_motor rfl
  have accepted : ((machine uplink).step (machine uplink).initial
      (.canFrame (motorFrame left right))).1 = _ := step_canFrame_accepted rfl motor
  rw [commandEvents, Machine.run_cons, accepted]
  exact ⟨_, rfl, rfl, rfl⟩

/-- With an active device, the TX thread reports on the target of a waiting feedback. -/
theorem target_reported {uplink : Uplink} (active : uplink.dd_can.active = true)
    {feedback : SpeedControlFeedback} {queue : MessageQueue SpeedControlFeedback 1}
    (polls : s.messengerTx = .pollFeedback) (taken : s.feedbackQueue.get = some (feedback, queue)) :
    ∃ frame, .sent frame feedback.targetSpeed.stamp ∈ ((machine uplink).step s .messengerTx).2 ∧
      frame.id = targetRpmDataCanId := by
  have emitted : ((machine uplink).step s .messengerTx).2 = sendFeedback uplink feedback := by
    change (messengerTxStep uplink s).2 = _
    simp only [messengerTxStep, polls, taken]
  let target := feedback.targetSpeed.val
  obtain ⟨frame, sent⟩ : ∃ frame, sendMessage uplink
      (.targetRpmData target.left.toInt32 target.right.toInt32) = some frame :=
    ⟨_, sendCanFrame_sent.mpr ⟨active, rfl⟩⟩
  refine ⟨frame, ?_, (sendMessage_speed (by decide) (fun _ => rfl) sent).1⟩
  rw [emitted]
  exact List.mem_append_right _ (mem_sendData.mpr ⟨sent, rfl⟩)

/-- A motor command can be reported on. -/
theorem motorFrame_reported (left right : Int32) :
    ∃ uplink events frame, .sent frame (some (motorFrame left right)) ∈
      ((machine uplink).step ((machine uplink).run events) .messengerTx).2 ∧
        frame.id = targetRpmDataCanId := by
  let uplink := activeUplink (motorFrame left right)
  obtain ⟨feedback, source, polls, taken⟩ := run_commandEvents uplink left right
  have reported := target_reported (rfl : uplink.dd_can.active = true) polls taken
  rw [source] at reported
  exact ⟨uplink, commandEvents (motorFrame left right), reported⟩

/-- A speed within these bounds is stored in 16 bits as it is. -/
theorem toInt_narrowed {speed : Int32} (low : -32767 ≤ speed.toInt) (high : speed.toInt ≤ 32767) :
    speed.toInt16.toInt32.toInt = speed.toInt := by
  rw [Int16.toInt_toInt32, Int32.toInt_toInt16, Int.bmod_def]
  omega

/-- The right speed comes back inverted. -/
theorem toInt_inverted {speed : Int32} (low : -32767 ≤ speed.toInt) (high : speed.toInt ≤ 32767) :
    (-speed).toInt16.toInt32.toInt = -speed.toInt := by
  have inverted : (-speed).toInt = -speed.toInt := by
    rw [Int32.toInt_neg, Int.bmod_def]
    omega
  rw [toInt_narrowed (by omega) (by omega), inverted]

/-- An echoed right speed is its own inverse in 16 bits. -/
theorem eq_of_echoed {left right : Int32} (echoed : TargetEchoed left right) :
    right = (-right).toInt16.toInt32 := by
  obtain ⟨uplink, events, frame, sent, reports⟩ := motorFrame_reported left right
  have leftRpm : rpmLeft (motorFrame left right) = left := (rpm_encodeSpeed _ _ left right).1
  have rightRpm : rpmRight (motorFrame left right) = right := (rpm_encodeSpeed _ _ left right).2
  obtain ⟨-, echo⟩ := echoed uplink events _ _ frame rfl leftRpm rightRpm sent reports
  obtain ⟨-, made⟩ := target_of_sent rfl sent reports
  rw [rightRpm] at made
  exact echo.symm.trans made

/-- A motor command within these bounds is echoed exactly when its right speed is zero. -/
theorem targetEchoed_iff (left right : Int32)
    (leftBounded : -32767 ≤ left.toInt ∧ left.toInt ≤ 32767)
    (rightBounded : -32767 ≤ right.toInt ∧ right.toInt ≤ 32767) :
    TargetEchoed left right ↔ right = 0 := by
  constructor
  · intro echoed
    have inverted := toInt_inverted rightBounded.1 rightBounded.2
    rw [← eq_of_echoed echoed] at inverted
    apply Int32.toInt_inj.mp
    change right.toInt = 0
    omega
  · rintro zero uplink events event command frame motor rfl rfl sent reports
    obtain ⟨madeLeft, madeRight⟩ := target_of_sent motor sent reports
    refine ⟨madeLeft.trans ?_, madeRight.trans ?_⟩
    · exact Int32.toInt_inj.mp (toInt_narrowed leftBounded.1 leftBounded.2)
    · rw [zero]
      rfl

/-- A command for the left wheel alone is echoed. -/
theorem turnRight_echoed : TargetEchoed 120 0 :=
  (targetEchoed_iff 120 0 (by decide) (by decide)).mpr rfl

/-- A command for the right wheel alone is not. -/
theorem turnLeft_not_echoed : ¬ TargetEchoed 0 120 :=
  fun echoed => absurd (eq_of_echoed echoed) (by decide)

end Robofw.Model.Speed
