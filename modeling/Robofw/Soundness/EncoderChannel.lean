import Robofw.Model.Encoder

/-! # One sample of an encoder channel

A sample is decided by the difference of two readings and by the flags: a difference beyond
`MAX_PULSE_PER_PERIOD` is taken for a wrap, and so is a small fall that meets the overflow flag. With
the underflow flag down every sample counts some length in some direction and leaves it down.
-/

namespace Robofw.Model.Encoder

open Robofw.Core

/-! ## Frames -/

theorem checkWrap_frame (channel : Channel) (encoderReading : UInt16) :
    ∃ overflow underflow, channel.checkWrap encoderReading =
      { channel with overflowDetected := overflow, underflowDetected := underflow } := by
  unfold Channel.checkWrap
  split_ifs <;> exact ⟨_, _, rfl⟩

theorem updateDirection_frame (channel : Channel) (encoderReading : UInt16) :
    ∃ up overflow underflow, channel.updateDirection encoderReading =
      { channel with
        isCountingUp := up
        overflowDetected := overflow
        underflowDetected := underflow } := by
  unfold Channel.updateDirection
  split_ifs <;> exact ⟨_, _, _, rfl⟩

/-- A sample touches none of what the filters keep. -/
theorem sample_frame (channel : Channel) (encoderReading : UInt16) :
    ∃ up previous error overflow underflow, channel.sample encoderReading =
      { channel with
        isCountingUp := up
        encoderPrevReading := previous
        accumulatedError := error
        overflowDetected := overflow
        underflowDetected := underflow } := by
  obtain ⟨_, _, wrapped⟩ := checkWrap_frame channel encoderReading
  obtain ⟨_, _, _, directed⟩ := updateDirection_frame (channel.checkWrap encoderReading) encoderReading
  rw [Channel.sample, directed, wrapped]
  exact ⟨_, _, _, _, _, rfl⟩

/-! ## Wraps -/

theorem checkWrap_near {channel : Channel} {encoderReading : UInt16}
    (rise : (encoderReading.toNat : ℤ) - channel.encoderPrevReading.toNat ≤ 150)
    (fall : (channel.encoderPrevReading.toNat : ℤ) - encoderReading.toNat ≤ 150) :
    channel.checkWrap encoderReading = channel := by
  unfold Channel.checkWrap maxPulsePerPeriod
  rw [if_neg (by omega), if_neg (by omega)]

theorem checkWrap_rise {channel : Channel} {encoderReading : UInt16}
    (rise : (encoderReading.toNat : ℤ) - channel.encoderPrevReading.toNat > 150) :
    channel.checkWrap encoderReading = { channel with underflowDetected := true } := by
  unfold Channel.checkWrap maxPulsePerPeriod
  rw [if_pos ⟨UInt16.le_iff_toNat_le.mpr (by omega), rise⟩]

theorem checkWrap_fall {channel : Channel} {encoderReading : UInt16}
    (fall : (channel.encoderPrevReading.toNat : ℤ) - encoderReading.toNat > 150) :
    channel.checkWrap encoderReading = { channel with overflowDetected := true } := by
  unfold Channel.checkWrap maxPulsePerPeriod
  rw [if_neg (by omega), if_pos fall]

/-! ## Differences of readings -/

/-- What a channel keeps of a sample that it counts in a direction. -/
def Channel.counted (channel : Channel) (encoderReading : UInt16) (up overflow : Bool) (length : ℕ) :
    Channel :=
  { channel with
    isCountingUp := up
    overflowDetected := overflow
    underflowDetected := false
    accumulatedError := channel.accumulatedError + UInt16.ofNat length
    encoderPrevReading := encoderReading }

section

variable {channel : Channel} {encoderReading : UInt16}

private theorem sub_eq_ofNat {left right : UInt16} {length : ℕ}
    (difference : (left.toNat : ℤ) - right.toNat = length ∨ (left.toNat : ℤ) - right.toNat + 65536 = length) :
    left - right = UInt16.ofNat length := by
  apply UInt16.toNat_inj.mp
  have leftBound := left.toNat_lt
  have rightBound := right.toNat_lt
  rw [UInt16.toNat_sub, UInt16.toNat_ofNat']
  omega

/-- A small rise counts up. -/
theorem sample_rise (clear : channel.underflowDetected = false) (length : ℕ)
    (rise : (encoderReading.toNat : ℤ) - channel.encoderPrevReading.toNat = length)
    (short : length ≤ 150) :
    channel.sample encoderReading =
      channel.counted encoderReading true channel.overflowDetected length := by
  have rising : channel.encoderPrevReading ≤ encoderReading := UInt16.le_iff_toNat_le.mpr (by omega)
  have added := sub_eq_ofNat (Or.inl rise)
  rw [Channel.sample, checkWrap_near (by omega) (by omega), Channel.updateDirection, if_pos rising, clear,
    if_neg Bool.false_ne_true, Channel.saveError]
  simp only [if_true, added, Channel.counted]

/-- A large rise is taken for a step down across zero. -/
theorem sample_riseFar (length : ℕ)
    (rise : (encoderReading.toNat : ℤ) - channel.encoderPrevReading.toNat + length = 65536)
    (far : length < 65386) :
    channel.sample encoderReading =
      channel.counted encoderReading false channel.overflowDetected length := by
  have rising : channel.encoderPrevReading ≤ encoderReading := UInt16.le_iff_toNat_le.mpr (by omega)
  have added : channel.encoderPrevReading - encoderReading = UInt16.ofNat length :=
    sub_eq_ofNat (Or.inr (by omega))
  rw [Channel.sample, checkWrap_rise (by omega), Channel.updateDirection, if_pos rising,
    if_pos rfl, Channel.saveError]
  simp only [Bool.false_eq_true, if_false, added, Channel.counted]

/-- A small fall counts down. -/
theorem sample_fall (clear : channel.underflowDetected = false)
    (noOverflow : channel.overflowDetected = false) (length : ℕ)
    (fall : (channel.encoderPrevReading.toNat : ℤ) - encoderReading.toNat = length)
    (positive : 0 < length) (short : length ≤ 150) :
    channel.sample encoderReading = channel.counted encoderReading false false length := by
  have falling : ¬ channel.encoderPrevReading ≤ encoderReading := by
    rw [UInt16.le_iff_toNat_le]
    omega
  have added := sub_eq_ofNat (Or.inl fall)
  rw [Channel.sample, checkWrap_near (by omega) (by omega), Channel.updateDirection, if_neg falling,
    noOverflow, if_neg Bool.false_ne_true, Channel.saveError]
  simp only [Bool.false_eq_true, if_false, added, Channel.counted, clear]

/-- A large fall, or any fall that meets the flag, is taken for a step up across the top. -/
theorem sample_fallFar (clear : channel.underflowDetected = false) (length : ℕ)
    (fall : (channel.encoderPrevReading.toNat : ℤ) - encoderReading.toNat + length = 65536)
    (positive : length < 65536) (far : length < 65386 ∨ channel.overflowDetected = true) :
    channel.sample encoderReading = channel.counted encoderReading true false length := by
  have falling : ¬ channel.encoderPrevReading ≤ encoderReading := by
    rw [UInt16.le_iff_toNat_le]
    omega
  have added : encoderReading - channel.encoderPrevReading = UInt16.ofNat length :=
    sub_eq_ofNat (Or.inr (by omega))
  have flagged : channel.checkWrap encoderReading = { channel with overflowDetected := true } := by
    rcases Nat.lt_or_ge length 65386 with large | small
    · exact checkWrap_fall (by omega)
    · rw [checkWrap_near (by omega) (by omega), ← far.resolve_left (by omega)]
  rw [Channel.sample, flagged, Channel.updateDirection, if_neg falling, if_pos rfl, Channel.saveError]
  simp only [if_true, added, Channel.counted, clear]

end

/-- How far a sample counts. -/
def sampleLength (overflow : Bool) (previous encoderReading : UInt16) : ℕ :=
  let difference := ((encoderReading.toNat : ℤ) - previous.toNat).natAbs
  if difference ≤ 150 ∧ (overflow = true → previous ≤ encoderReading) then difference
  else 65536 - difference

theorem sampleLength_near {overflow : Bool} {previous encoderReading : UInt16}
    (near : ((encoderReading.toNat : ℤ) - previous.toNat).natAbs ≤ 150)
    (unflagged : overflow = true → previous ≤ encoderReading) :
    sampleLength overflow previous encoderReading = ((encoderReading.toNat : ℤ) - previous.toNat).natAbs :=
  if_pos ⟨near, unflagged⟩

theorem sampleLength_far {overflow : Bool} {previous encoderReading : UInt16}
    (far : ((encoderReading.toNat : ℤ) - previous.toNat).natAbs ≤ 150 →
      ¬ (overflow = true → previous ≤ encoderReading)) :
    sampleLength overflow previous encoderReading =
      65536 - ((encoderReading.toNat : ℤ) - previous.toNat).natAbs :=
  if_neg fun near => far near.1 near.2

/-- A sample counts its length in some direction, and a fall takes the overflow flag down. -/
theorem sample_counted {channel : Channel} (clear : channel.underflowDetected = false)
    (encoderReading : UInt16) : ∃ up, channel.sample encoderReading =
      channel.counted encoderReading up
        (channel.overflowDetected && decide (channel.encoderPrevReading ≤ encoderReading))
        (sampleLength channel.overflowDetected channel.encoderPrevReading encoderReading) := by
  have bound := encoderReading.toNat_lt
  have previous := channel.encoderPrevReading.toNat_lt
  by_cases rising : channel.encoderPrevReading ≤ encoderReading
  · have order := UInt16.le_iff_toNat_le.mp rising
    rw [decide_eq_true rising, Bool.and_true]
    by_cases short : ((encoderReading.toNat : ℤ) - channel.encoderPrevReading.toNat).natAbs ≤ 150
    · rw [sampleLength_near short fun _ => rising]
      exact ⟨true, sample_rise clear _ (by omega) short⟩
    · rw [sampleLength_far fun near => absurd near short]
      exact ⟨false, sample_riseFar _ (by omega) (by omega)⟩
  · have order := mt UInt16.le_iff_toNat_le.mpr rising
    rw [decide_eq_false rising, Bool.and_false]
    by_cases short : ((encoderReading.toNat : ℤ) - channel.encoderPrevReading.toNat).natAbs ≤ 150
    · cases flag : channel.overflowDetected with
      | false =>
        rw [sampleLength_near short fun set => absurd set Bool.false_ne_true]
        exact ⟨false, sample_fall clear flag _ (by omega) (by omega) short⟩
      | true =>
        rw [sampleLength_far fun _ unflagged => rising (unflagged rfl)]
        exact ⟨true, sample_fallFar clear _ (by omega) (by omega) (Or.inr flag)⟩
    · rw [sampleLength_far fun near => absurd near short]
      exact ⟨true, sample_fallFar clear _ (by omega) (by omega) (Or.inl (by omega))⟩

/-! ## Short steps -/

/-- A backward step that does not wrap meets an overflow flag that nothing has used up. -/
def Misreads (channel : Channel) (position step : ℤ) : Prop :=
  channel.overflowDetected = true ∧ step < 0 ∧ reading (position + step) < reading position

instance (channel : Channel) (position step : ℤ) : Decidable (Misreads channel position step) :=
  inferInstanceAs (Decidable (_ ∧ _))

section

variable {channel : Channel} {position step : ℤ}

/-- A forward step is counted up, whether or not the counter wraps. -/
theorem sample_forward (shown : channel.encoderPrevReading = reading position)
    (clear : channel.underflowDetected = false) (forward : 0 ≤ step) (short : step.natAbs ≤ 150) :
    channel.sample (reading (position + step)) = channel.counted (reading (position + step)) true
      (channel.overflowDetected && decide (reading position ≤ reading (position + step))) step.natAbs := by
  have range := (reading (position + step)).toNat_lt
  rcases reading_forward position forward (by omega) with plain | wrapped
  · have rising : reading position ≤ reading (position + step) := UInt16.le_iff_toNat_le.mpr (by omega)
    rw [sample_rise clear step.natAbs (by rw [shown]; omega) short, decide_eq_true rising, Bool.and_true]
  · have falling : ¬ reading position ≤ reading (position + step) := by
      rw [UInt16.le_iff_toNat_le]
      omega
    rw [sample_fallFar clear step.natAbs (by rw [shown]; omega) (by omega) (Or.inl (by omega)),
      decide_eq_false falling, Bool.and_false]

/-- A backward step is counted down unless it is misread. -/
theorem sample_backward (shown : channel.encoderPrevReading = reading position)
    (clear : channel.underflowDetected = false) (backward : step < 0) (short : step.natAbs ≤ 150)
    (seen : ¬ Misreads channel position step) :
    channel.sample (reading (position + step)) =
      channel.counted (reading (position + step)) false channel.overflowDetected step.natAbs := by
  rcases reading_backward position backward (by omega) with plain | wrapped
  · have falling : reading (position + step) < reading position := UInt16.lt_iff_toNat_lt.mpr (by omega)
    have down : channel.overflowDetected = false :=
      Bool.eq_false_iff.mpr fun set => seen ⟨set, backward, falling⟩
    rw [sample_fall clear down step.natAbs (by rw [shown]; omega) (by omega) short, down]
  · exact sample_riseFar step.natAbs (by rw [shown]; omega) (by omega)

/-- A step that is misread is counted up by the rest of the range. -/
theorem sample_misread (shown : channel.encoderPrevReading = reading position)
    (clear : channel.underflowDetected = false) (misreads : Misreads channel position step)
    (short : step.natAbs ≤ 150) :
    channel.sample (reading (position + step)) =
      channel.counted (reading (position + step)) true false (65536 - step.natAbs) := by
  obtain ⟨flag, backward, falling⟩ := misreads
  have order := UInt16.lt_iff_toNat_lt.mp falling
  rcases reading_backward position backward (by omega) with plain | wrapped
  · exact sample_fallFar clear _ (by rw [shown]; omega) (by omega) (Or.inr flag)
  · omega

end

end Robofw.Model.Encoder
