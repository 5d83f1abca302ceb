import Robofw.Soundness.TbotSteps

/-! # What the TBot decodes

`decodeCanMessage` reads a fixed number of bytes for each command, whatever the length of the frame,
and different bytes always give different messages. So bytes behind the end of a frame influence a
command exactly when the frame is shorter than its command.

A motor command is stored in 16 bits, the right one negated, without a range check: the stored
speeds are the commanded ones, saturated, exactly when each narrowing keeps its value or happens to
wrap onto the limit that the value passed.
-/

namespace Robofw.Model.Tbot

open Robofw.Core

/-- The number of data bytes that the decoder reads for an identifier. -/
def commandLength (id : UInt32) : ℕ :=
  if id = supCmdCanId then 1
  else if id = pwmCmdCanId then 2
  else if id = motorCmdCanId then 8
  else if id = motionCmdCanId then 8
  else 0

private theorem forall_lt_one {agree : Fin 8 → Prop} : (∀ i, i.val < 1 → agree i) ↔ agree 0 := by
  constructor
  · exact fun all => all 0 (by decide)
  · intro first i bound
    obtain rfl : i = 0 := Fin.ext (by omega)
    exact first

private theorem forall_lt_two {agree : Fin 8 → Prop} :
    (∀ i, i.val < 2 → agree i) ↔ agree 0 ∧ agree 1 := by
  constructor
  · exact fun all => ⟨all 0 (by decide), all 1 (by decide)⟩
  · rintro ⟨first, second⟩ i bound
    rcases (by omega : i.val = 0 ∨ i.val = 1) with zero | one
    · exact (Fin.ext zero : i = 0) ▸ first
    · exact (Fin.ext one : i = 1) ▸ second

private theorem forall_lt_eight {agree : Fin 8 → Prop} : (∀ i, i.val < 8 → agree i) ↔
    (agree 0 ∧ agree 1 ∧ agree 2 ∧ agree 3) ∧ agree 4 ∧ agree 5 ∧ agree 6 ∧ agree 7 := by
  constructor
  · intro all
    exact ⟨⟨all 0 (by decide), all 1 (by decide), all 2 (by decide), all 3 (by decide)⟩,
      all 4 (by decide), all 5 (by decide), all 6 (by decide), all 7 (by decide)⟩
  · rintro ⟨⟨b0, b1, b2, b3⟩, b4, b5, b6, b7⟩ i -
    fin_cases i <;> assumption

private theorem hundredth_inj {left right : Int32} :
    (left.toInt : ℚ) / 100 = right.toInt / 100 ↔ left = right := by
  rw [div_left_inj' (by norm_num), Int.cast_inj, Int32.toInt_inj]

/-- Two frames with one identifier decode equally exactly when they agree on the bytes read. -/
theorem decodeCanMessage_eq_iff {frame other : ZcanFrame} (same : frame.id = other.id) :
    decodeCanMessage frame = decodeCanMessage other ↔
      ∀ i : Fin 8, i.val < commandLength frame.id → frame.data.get i = other.data.get i := by
  simp only [decodeCanMessage, commandLength, ← same]
  split_ifs with sup pwm motor motion
  · rw [forall_lt_one, Option.some.injEq, TbotMsg.superviserCommand.injEq]
  · rw [forall_lt_two, Option.some.injEq, TbotMsg.pwmCommand.injEq, toInt8_inj, toInt8_inj]
  · rw [forall_lt_eight, Option.some.injEq, TbotMsg.motorCommand.injEq, toInt32_inj, toInt32_inj,
      bigEndian32_inj, bigEndian32_inj]
  · rw [forall_lt_eight, Option.some.injEq, TbotMsg.motionCommand.injEq, hundredth_inj, hundredth_inj,
      toInt32_inj, toInt32_inj, bigEndian32_inj, bigEndian32_inj]
  · simp only [Nat.not_lt_zero, false_implies, implies_true]

/-- The frame's bytes up to its length are all that was received. -/
def AgreeOnReceived (frame other : ZcanFrame) : Prop :=
  other.idField = frame.idField ∧ other.dlc = frame.dlc ∧
    ∀ i : Fin 8, i.val < frame.dlc.toNat → frame.data.get i = other.data.get i

/-- No byte behind the end of the frame influences what is decoded. -/
def ReadsReceived (frame : ZcanFrame) : Prop :=
  ∀ other, AgreeOnReceived frame other → decodeCanMessage frame = decodeCanMessage other

/-- What is decoded depends on the received bytes alone exactly when the frame is as long as its
command. -/
theorem readsReceived_iff (frame : ZcanFrame) :
    ReadsReceived frame ↔ commandLength frame.id ≤ frame.dlc.toNat := by
  constructor
  · intro independent
    by_contra short
    have inside : frame.dlc.toNat < 8 := by
      have longest : commandLength frame.id ≤ 8 := by
        unfold commandLength
        split_ifs <;> decide
      omega
    -- change the first byte that was not received
    let position : Fin 8 := ⟨frame.dlc.toNat, inside⟩
    let other := { frame with data := frame.data.set frame.dlc.toNat (frame.data.get position + 1) }
    have agree : AgreeOnReceived frame other := by
      refine ⟨rfl, rfl, fun i received => ?_⟩
      rw [get_set, if_neg (by omega)]
    have read := (@decodeCanMessage_eq_iff frame other rfl).mp
      (independent other agree) position (by simpa [position] using short)
    rw [get_set, if_pos rfl] at read
    simp at read
  · rintro long other ⟨id, -, agree⟩
    have same : frame.id = other.id := by rw [ZcanFrame.id, ZcanFrame.id, id]
    exact (decodeCanMessage_eq_iff same).mpr fun i read => agree i (by omega)

/-- A PWM command frame without data. -/
def emptyPwmFrame : ZcanFrame := ⟨0x101, .standard, .dataFrame, 0, Vector.replicate 8 0⟩

/-- What it commands is in the two bytes behind its end. -/
theorem emptyPwmFrame_reads_beyond : ¬ ReadsReceived emptyPwmFrame := by
  intro independent
  have same := independent { emptyPwmFrame with data := emptyPwmFrame.data.set 0 100 }
    ⟨rfl, rfl, fun i received => absurd received (Nat.not_lt_zero i.val)⟩
  exact absurd same (by decide)

/-- The left speed that a motor command frame carries. -/
def rpmLeft (frame : ZcanFrame) : Int32 :=
  (bigEndian32 (frame.data.get 0) (frame.data.get 1) (frame.data.get 2) (frame.data.get 3)).toInt32

/-- The right speed that a motor command frame carries. -/
def rpmRight (frame : ZcanFrame) : Int32 :=
  (bigEndian32 (frame.data.get 4) (frame.data.get 5) (frame.data.get 6) (frame.data.get 7)).toInt32

/-- The two values turn in opposite directions. -/
def Opposite (value other : ℤ) : Prop := (0 < value ∧ other < 0) ∨ (value < 0 ∧ 0 < other)

/-- The value that `int16_t` can hold next to this one. -/
def saturateInt16 (value : ℤ) : ℤ := max (-32768) (min value 32767)

instance (value other : ℤ) : Decidable (Opposite value other) := inferInstanceAs (Decidable (_ ∨ _))

/-- The queued speeds are the commanded ones, the right one inverted, when both fit; otherwise neither
is reversed, and what is queued is saturated. The inversion does not overflow. -/
structure CommandKept (left right : Int32) (rpm : DesiredRpm) : Prop where
  negation : (-right).toInt = -right.toInt
  kept : FitsInt16 left.toInt ∧ FitsInt16 (-right.toInt) →
    rpm.left.toInt = left.toInt ∧ rpm.right.toInt = -right.toInt
  directed : ¬ (FitsInt16 left.toInt ∧ FitsInt16 (-right.toInt)) →
    ¬ Opposite left.toInt rpm.left.toInt ∧ ¬ Opposite (-right.toInt) rpm.right.toInt
  saturated : ¬ (FitsInt16 left.toInt ∧ FitsInt16 (-right.toInt)) →
    rpm.left.toInt = saturateInt16 left.toInt ∧ rpm.right.toInt = saturateInt16 (-right.toInt)

/-- Whatever the RX thread puts for the frame, in any run, keeps its command. -/
def MotorCommandKept (frame : ZcanFrame) : Prop :=
  ∀ events event rx rpm, (machine.run events).messengerRx = some rx → rx.frame = frame →
    .desiredRpm rpm ∈ (machine.step (machine.run events) event).2 →
      CommandKept (rpmLeft frame) (rpmRight frame) rpm

/-- The value fits, or its low 16 bits are those of the limit that it passed. -/
def NarrowsSaturated (value : ℤ) : Prop :=
  FitsInt16 value ∨ (32767 < value ∧ value % 65536 = 32767) ∨ (value < -32768 ∧ value % 65536 = 32768)

private theorem bmod_eq_saturate_iff (value : ℤ) :
    value.bmod 65536 = saturateInt16 value ↔ NarrowsSaturated value := by
  unfold saturateInt16 NarrowsSaturated FitsInt16
  rw [Int.bmod_def]
  omega

private theorem saturate_of_fits {value : ℤ} (fits : FitsInt16 value) : saturateInt16 value = value := by
  unfold FitsInt16 at fits
  unfold saturateInt16
  omega

/-- Saturation does not reverse. -/
private theorem not_opposite_saturate (value : ℤ) : ¬ Opposite value (saturateInt16 value) := by
  unfold Opposite saturateInt16
  omega

/-- The inversion overflows for the least value alone. -/
private theorem toInt_neg_iff (value : Int32) :
    (-value).toInt = -value.toInt ↔ value.toInt ≠ -2147483648 := by
  have low := value.le_toInt
  have high := value.toInt_lt
  rw [Int32.toInt_neg, Int.bmod_def]
  omega

/-- What the RX loop makes of a pair of speeds keeps the command exactly when both narrowings give the
saturated value. -/
theorem commandKept_iff (left right : Int32) :
    CommandKept left right ⟨left.toInt16, (-right).toInt16⟩ ↔
      NarrowsSaturated left.toInt ∧ NarrowsSaturated (-right.toInt) := by
  constructor
  · rintro ⟨negation, -, -, saturated⟩
    rw [Int32.toInt_toInt16, Int32.toInt_toInt16, negation, bmod_eq_saturate_iff,
      bmod_eq_saturate_iff] at saturated
    by_cases fit : FitsInt16 left.toInt ∧ FitsInt16 (-right.toInt)
    · exact ⟨.inl fit.1, .inl fit.2⟩
    · exact saturated fit
  · rintro ⟨leftNarrows, rightNarrows⟩
    have negation : (-right).toInt = -right.toInt := by
      apply (toInt_neg_iff right).mpr
      intro least
      rw [least] at rightNarrows
      revert rightNarrows
      unfold NarrowsSaturated FitsInt16
      omega
    have leftSame := (bmod_eq_saturate_iff left.toInt).mpr leftNarrows
    have rightSame := (bmod_eq_saturate_iff (-right.toInt)).mpr rightNarrows
    refine ⟨negation, fun fit => ?_, fun _ => ?_, fun _ => ?_⟩
    · rw [Int32.toInt_toInt16, Int32.toInt_toInt16, negation, leftSame, rightSame,
        saturate_of_fits fit.1, saturate_of_fits fit.2]
      exact ⟨rfl, rfl⟩
    · rw [Int32.toInt_toInt16, Int32.toInt_toInt16, negation, leftSame, rightSame]
      exact ⟨not_opposite_saturate _, not_opposite_saturate _⟩
    · rw [Int32.toInt_toInt16, Int32.toInt_toInt16, negation, leftSame, rightSame]
      exact ⟨rfl, rfl⟩

/-- What the RX loop does with a motor command frame. -/
theorem rxJob?_motor {frame : ZcanFrame} (motor : frame.id = motorCmdCanId) :
    rxJob? frame = some (.desiredRpm ⟨(rpmLeft frame).toInt16, (-rpmRight frame).toInt16⟩) := by
  rw [rxJob?, decodeCanMessage, motor]
  rfl

/-- The RX thread can take up a motor command frame and put its speeds at once. -/
theorem commandKept_of_kept {frame : ZcanFrame} (motor : frame.id = motorCmdCanId)
    (kept : MotorCommandKept frame) : CommandKept (rpmLeft frame) (rpmRight frame)
      ⟨(rpmLeft frame).toInt16, (-rpmRight frame).toInt16⟩ := by
  have accepted := step_canFrame_accepted (s := State.initial) rfl (rxJob?_motor motor)
  refine kept [.canFrame frame] .messengerRx ⟨frame, _, rxJob?_motor motor, false⟩ _ ?_ rfl ?_
  · change (step State.initial (.canFrame frame)).1.messengerRx = _
    rw [accepted]
  · change _ ∈ (messengerRxStep (step State.initial (.canFrame frame)).1).2
    rw [accepted]
    exact mem_messengerRxStep.mpr ⟨_, rfl, ⟨rfl, Nat.zero_lt_one⟩, rfl⟩

/-- The motor command of a frame survives in every run exactly when each of its speeds, the right one
inverted, fits in 16 bits or wraps onto the limit that it passed. -/
theorem motorCommandKept_iff (frame : ZcanFrame) (motor : frame.id = motorCmdCanId) :
    MotorCommandKept frame ↔
      NarrowsSaturated (rpmLeft frame).toInt ∧ NarrowsSaturated (-(rpmRight frame).toInt) := by
  rw [← commandKept_iff]
  constructor
  · exact commandKept_of_kept motor
  · intro kept events event rx rpm active same emitted
    obtain ⟨-, other, again, -, output⟩ :=
      (mem_step_rx (by simp) (by simp) (by simp)).mp emitted
    obtain rfl := Option.some.inj (active.symm.trans again)
    obtain ⟨_, job, decoded, _⟩ := rx
    obtain rfl := same
    obtain rfl := Option.some.inj (decoded.symm.trans (rxJob?_motor motor))
    obtain rfl := Output.desiredRpm.inj output
    exact kept

/-- A motor command of 100 rpm for each wheel. -/
def steadyFrame : ZcanFrame := ⟨0x102, .standard, .dataFrame, 8, #v[0, 0, 0, 100, 0, 0, 0, 100]⟩

theorem steadyFrame_kept : MotorCommandKept steadyFrame :=
  (motorCommandKept_iff steadyFrame rfl).mpr
    ⟨.inl (by decide), .inl (by decide)⟩

/-- A motor command of 40000 rpm for the left wheel. -/
def fastFrame : ZcanFrame := ⟨0x102, .standard, .dataFrame, 8, #v[0, 0, 0x9C, 0x40, 0, 0, 0, 0]⟩

/-- The left wheel is sent backwards. -/
theorem fastFrame_reversed : ¬ MotorCommandKept fastFrame := by
  intro kept
  obtain ⟨-, -, directed, -⟩ := commandKept_of_kept rfl kept
  exact absurd (directed (by decide)).1 (by decide)

end Robofw.Model.Tbot
