import Robofw.Soundness.EncoderSamples

/-! # Overflow in the encoder service

With two samples an estimate the 16-bit error cannot wrap before the second sample of a window, and the
32-bit product overflows from 35792 pulses on. So a run is free of overflow exactly when the samples of
each window count at most 35791 together. A sample counts the difference of its readings only up to
`MAX_PULSE_PER_PERIOD`; a larger jump counts the rest of the 16-bit range.
-/

namespace Robofw.Model.Encoder

open Robofw.Core

/-- `reading_error`, with the direction of the sample. -/
def Channel.readingError (channel : Channel) (encoderReading : UInt16) : UInt16 :=
  let directed := (channel.checkWrap encoderReading).updateDirection encoderReading
  if directed.isCountingUp then encoderReading - directed.encoderPrevReading
  else directed.encoderPrevReading - encoderReading

/-- `sign * (int32_t)accumulated_error * 60 * 1000` without a bound. -/
def rpmProduct (up : Bool) (accumulatedError : UInt16) : ℤ :=
  (if up then 1 else -1) * accumulatedError.toNat * 60 * 1000

/-- The value is one of `int32_t`. -/
def FitsInt32 (value : ℤ) : Prop := -2147483648 ≤ value ∧ value ≤ 2147483647

/-- The step adds to the error without a wrap, and the product of an estimate does not overflow. -/
def ArithmeticSafe (conf : SrvConf) (i : Fin 2) (s : State) : Event → Prop
  | .iteration displacements uptime => s.service.firstTime = false →
    (s.service.channels.get i).accumulatedError.toNat +
        ((s.service.channels.get i).readingError ((s.readings displacements).get i)).toNat < 2 ^ 16 ∧
      (s.service.Estimates conf →
        FitsInt32 (rpmProduct (s.sampledChannel conf displacements uptime i).isCountingUp
          (s.sampledChannel conf displacements uptime i).accumulatedError))
  | .rpmGet => True

/-- The samples of every window that is closed count at most 35791 together: from a position, with the
count of the window so far. -/
def WindowsFit (overflow closing : Bool) (count : ℕ) (position : ℤ) : List ℤ → Prop
  | [] => True
  | step :: rest =>
    let total := count + sampleLength overflow (reading position) (reading (position + step))
    let stillUp := overflow && decide (reading position ≤ reading (position + step))
    (closing = true → total ≤ 35791) ∧
      WindowsFit stillUp (!closing) (if closing then 0 else total) (position + step) rest

/-- The same for the displacements of a run, of which the first one comes before the first reading and the
first sample makes a window of its own. -/
def RunFits (overflow : Bool) (position : ℤ) : List ℤ → Prop
  | [] => True
  | start :: samples => WindowsFit overflow true 0 (position + start) samples

theorem fitsInt32_rpmProduct_iff (up : Bool) (accumulatedError : UInt16) :
    FitsInt32 (rpmProduct up accumulatedError) ↔ accumulatedError.toNat ≤ 35791 := by
  unfold FitsInt32 rpmProduct
  cases up with
  | true =>
    rw [if_pos rfl]
    omega
  | false =>
    rw [if_neg Bool.false_ne_true]
    omega

theorem sampleLength_lt (overflow : Bool) (previous encoderReading : UInt16) :
    sampleLength overflow previous encoderReading < 2 ^ 16 := by
  simp only [sampleLength]
  split
  case isTrue near => omega
  case isFalse far =>
    have positive : 0 < ((encoderReading.toNat : ℤ) - previous.toNat).natAbs := by
      by_contra zero
      have same : previous.toNat ≤ encoderReading.toNat := by omega
      exact far ⟨by omega, fun _ => UInt16.le_iff_toNat_le.mpr same⟩
    omega

theorem accumulatedError_sample (channel : Channel) (encoderReading : UInt16) :
    (channel.sample encoderReading).accumulatedError =
      channel.accumulatedError + channel.readingError encoderReading := by
  have kept : ((channel.checkWrap encoderReading).updateDirection encoderReading).accumulatedError =
      channel.accumulatedError := by
    obtain ⟨_, _, wrapped⟩ := checkWrap_frame channel encoderReading
    obtain ⟨_, _, _, directed⟩ := updateDirection_frame (channel.checkWrap encoderReading) encoderReading
    rw [directed, wrapped]
  rw [← kept]
  rfl

/-- The amount added is the length of the sample. -/
theorem toNat_readingError {channel : Channel} (clear : channel.underflowDetected = false)
    (encoderReading : UInt16) : (channel.readingError encoderReading).toNat =
      sampleLength channel.overflowDetected channel.encoderPrevReading encoderReading := by
  obtain ⟨up, counted⟩ := sample_counted clear encoderReading
  have total := congrArg Channel.accumulatedError counted
  rw [accumulatedError_sample] at total
  have added := (UInt16.add_right_inj _).mp total
  rw [added, UInt16.toNat_ofNat']
  exact Nat.mod_eq_of_lt (sampleLength_lt _ _ _)

/-- The channel has read the counter, and has counted nothing where a window begins. -/
structure Counts (conf : SrvConf) (s : State) (i : Fin 2) (overflow : Bool) (count : ℕ) : Prop
    extends Reads s i overflow where
  error : (s.service.channels.get i).accumulatedError.toNat = count
  begins : ¬ s.service.Estimates conf → count = 0

section

variable (value : LowPassValue) {conf : SrvConf} {s : State} {i : Fin 2} {overflow : Bool} {count : ℕ}

theorem Counts.sampled (active : conf.Active i) (counts : Counts conf s i overflow count)
    (displacements : Vector ℤ 2) (uptime : ℤ) :
    (s.sampledChannel conf displacements uptime i).accumulatedError.toNat =
      (count + sampleLength overflow (reading (s.positions.get i))
        (reading (s.positions.get i + displacements.get i))) % 2 ^ 16 := by
  obtain ⟨up, sampled⟩ := counts.toReads.sampled displacements uptime active
  rw [sampled, ← counts.error]
  simp only [Channel.counted, UInt16.toNat_add, UInt16.toNat_ofNat', Nat.add_mod_mod]

/-- A get of the speed service touches no channel. -/
theorem Counts.rpmGet (counts : Counts conf s i overflow count) :
    Counts conf (s.step value conf .rpmGet).1 i overflow count :=
  ⟨counts.toReads.rpmGet value, counts.error, counts.begins⟩

/-- A step is safe exactly when the window that it closes fits. -/
theorem Counts.safe_iff (active : conf.Active i) (counts : Counts conf s i overflow count)
    (displacements : Vector ℤ 2) (uptime : ℤ) :
    ArithmeticSafe conf i s (.iteration displacements uptime) ↔ (s.service.Estimates conf →
      count + sampleLength overflow (reading (s.positions.get i))
        (reading (s.positions.get i + displacements.get i)) ≤ 35791) := by
  have shown : (s.readings displacements).get i = reading (s.positions.get i + displacements.get i) :=
    Vector.get_ofFn ..
  have length := sampleLength_lt overflow (reading (s.positions.get i))
    (reading (s.positions.get i + displacements.get i))
  have begins := counts.begins
  simp only [ArithmeticSafe, counts.later, forall_const, fitsInt32_rpmProduct_iff,
    counts.sampled active, counts.error, toNat_readingError counts.noUnderflow, counts.flag, counts.shown,
    shown]
  constructor
  · rintro ⟨room, fits⟩ closes
    rw [Nat.mod_eq_of_lt room] at fits
    exact fits closes
  · intro fits
    by_cases closes : s.service.Estimates conf
    · have total := fits closes
      exact ⟨by omega, fun _ => by rw [Nat.mod_eq_of_lt (by omega)]; exact total⟩
    · have empty := begins closes
      exact ⟨by omega, fun again => absurd again closes⟩

/-- Windows of two samples: the step after a closed window begins the next one. -/
theorem Counts.step (pairs : conf.samplePerEveryIteration = 2) (active : conf.Active i)
    (counts : Counts conf s i overflow count) (displacements : Vector ℤ 2) (uptime : ℤ) :
    Counts conf (s.step value conf (.iteration displacements uptime)).1 i
      (overflow && decide (reading (s.positions.get i) ≤ reading (s.positions.get i + displacements.get i)))
      (if s.service.Estimates conf then 0 else count + sampleLength overflow (reading (s.positions.get i))
        (reading (s.positions.get i + displacements.get i))) := by
  have turns := estimates_step value displacements uptime pairs counts.later
  have length := sampleLength_lt overflow (reading (s.positions.get i))
    (reading (s.positions.get i + displacements.get i))
  refine ⟨counts.toReads.step value displacements uptime active, ?_, ?_⟩
  · by_cases closes : s.service.Estimates conf
    · rw [if_pos closes, channel_closing value displacements uptime active closes]
      rfl
    · have empty := counts.begins closes
      rw [if_neg closes, channel_between value displacements uptime counts.later closes,
        counts.sampled active]
      exact Nat.mod_eq_of_lt (by omega)
  · intro waits
    rw [turns, not_not] at waits
    exact if_pos waits

end

/-- From a state that has read the counter, the steps are safe exactly when the windows fit. -/
theorem safe_from {value : LowPassValue} {conf : SrvConf} (pairs : conf.samplePerEveryIteration = 2)
    {i : Fin 2} (active : conf.Active i) {s : State} {overflow : Bool} {count : ℕ}
    (counts : Counts conf s i overflow count) {m : Machine State Event EstimatedSpeed}
    (same : m.step = State.step value conf) (events : List Event) :
    (∀ step ∈ m.stepsFrom s events, ArithmeticSafe conf i step.1 step.2) ↔
      WindowsFit overflow (decide (s.service.Estimates conf)) count (s.positions.get i)
        (moves events i) := by
  induction events generalizing s overflow count with
  | nil => exact iff_of_true (List.forall_mem_nil _) trivial
  | cons event rest ih =>
    rw [Machine.stepsFrom, List.forall_mem_cons, same]
    cases event with
    | rpmGet =>
      rw [ih (counts.rpmGet value)]
      exact and_iff_right trivial
    | iteration displacements uptime =>
      rw [counts.safe_iff active, ih (counts.step value pairs active displacements uptime), moves_iteration,
        WindowsFit, positions_step,
        decide_eq_decide.mpr (estimates_step value displacements uptime pairs counts.later),
        decide_not]
      simp only [decide_eq_true_eq]

/-- The first iteration leaves an empty count, and the next one closes the first window. -/
theorem Waits.counts (value : LowPassValue) {conf : SrvConf} {s : State} {i : Fin 2} {overflow : Bool}
    (active : conf.Active i) (waits : Waits s i overflow)
    (empty : (s.service.channels.get i).accumulatedError = 0)
    (fresh : s.service.loopCounter = 0) (displacements : Vector ℤ 2) (uptime : ℤ) :
    Counts conf (s.step value conf (.iteration displacements uptime)).1 i overflow 0 ∧
      (s.step value conf (.iteration displacements uptime)).1.service.Estimates conf := by
  refine ⟨⟨waits.step value displacements uptime active, ?_, fun _ => rfl⟩,
    estimates_first value displacements uptime conf waits.first fresh⟩
  rw [step_first waits.first]
  simp only [Service.firstIteration, SrvConf.get_forActive active, empty]
  rfl

theorem safe_waiting {value : LowPassValue} {conf : SrvConf} (pairs : conf.samplePerEveryIteration = 2)
    {i : Fin 2} (active : conf.Active i) {s : State} {overflow : Bool} (waits : Waits s i overflow)
    (empty : (s.service.channels.get i).accumulatedError = 0) (fresh : s.service.loopCounter = 0)
    {m : Machine State Event EstimatedSpeed} (same : m.step = State.step value conf) (events : List Event) :
    (∀ step ∈ m.stepsFrom s events, ArithmeticSafe conf i step.1 step.2) ↔
      RunFits overflow (s.positions.get i) (moves events i) := by
  induction events generalizing s with
  | nil => exact iff_of_true (List.forall_mem_nil _) trivial
  | cons event rest ih =>
    rw [Machine.stepsFrom, List.forall_mem_cons, same]
    cases event with
    | rpmGet =>
      rw [ih (waits.rpmGet value) empty fresh]
      exact and_iff_right trivial
    | iteration displacements uptime =>
      have skipped : ArithmeticSafe conf i s (.iteration displacements uptime) :=
        fun later => absurd (later.symm.trans waits.first) Bool.false_ne_true
      obtain ⟨counts, closes⟩ := waits.counts value active empty fresh displacements uptime
      rw [and_iff_right skipped, safe_from pairs active counts same rest, positions_step,
        decide_eq_true closes]
      rfl

/-- With the configuration of the TBot the arithmetic of a channel is safe in a run exactly when each
window that the run closes fits. -/
theorem arithmeticSafe_iff (value : LowPassValue) (uptime : ℤ) (garbage : EstimatedSpeed)
    (positions : Vector ℤ 2) (events : List Event) (i : Fin 2) :
    (∀ step ∈ (machine value twoEncoders uptime garbage positions).steps events,
      ArithmeticSafe twoEncoders i step.1 step.2) ↔
      RunFits (decide (i = 0)) (positions.get i) (moves events i) := by
  have active : twoEncoders.Active i := i.isLt
  apply safe_waiting rfl active (initial_waits value twoEncoders uptime garbage positions i) ?_ rfl rfl
  simp only [machine, Service.initial, Vector.get_ofFn]
  rfl

instance (conf : SrvConf) (i : Fin 2) (s : State) : (event : Event) →
    Decidable (ArithmeticSafe conf i s event)
  | .iteration .. => inferInstanceAs (Decidable (_ → _ ∧ (_ → _ ∧ _)))
  | .rpmGet => inferInstanceAs (Decidable True)

/-- A late first sample that finds the encoders 151 pulses further counts 65385 of them. -/
theorem lateSample_not_arithmeticSafe : ¬ ∀ i, ∀ step ∈ atZero.steps (movesBy [0, 151]),
    ArithmeticSafe twoEncoders i step.1 step.2 := by
  decide +kernel

end Robofw.Model.Encoder
