import Robofw.Soundness.EncoderDisplacement

/-! # Decoding the samples of the encoder service

With the flags down every short step is decoded, and they are down again afterwards. At the start the
overflow flag of channel 0 is up, and only a first sample that crosses the top of the counter takes it
down in time.
-/

namespace Robofw.Model.Encoder

open Robofw.Core

/-! ## Short steps -/

/-- The step was decoded, and both flags are down. -/
@[mk_iff]
structure Decoded (before after : Channel) (step : ℤ) : Prop where
  direction : after.isCountingUp = decide (0 ≤ step)
  length : after.accumulatedError = before.accumulatedError + UInt16.ofNat step.natAbs
  noOverflow : after.overflowDetected = false
  noUnderflow : after.underflowDetected = false

instance (before after : Channel) (step : ℤ) : Decidable (Decoded before after step) :=
  decidable_of_iff _ (decoded_iff before after step).symm

/-- A step up across the top of the counter. -/
def CrossesTop (position step : ℤ) : Prop := 0 ≤ step ∧ reading (position + step) < reading position

theorem decoded_counted {channel : Channel} {encoderReading : UInt16} {up overflow : Bool} {length : ℕ}
    {step : ℤ} (direction : up = decide (0 ≤ step)) (same : length = step.natAbs) :
    Decoded channel (channel.counted encoderReading up overflow length) step ↔ overflow = false := by
  constructor
  · exact fun decoded => decoded.noOverflow
  · intro down
    exact ⟨direction, by rw [← same]; rfl, down, rfl⟩

/-- A short step is decoded exactly when the overflow flag is down or the step crosses the top. -/
theorem sample_decoded_iff {channel : Channel} {position step : ℤ}
    (shown : channel.encoderPrevReading = reading position) (clear : channel.underflowDetected = false)
    (short : step.natAbs ≤ 150) :
    Decoded channel (channel.sample (reading (position + step))) step ↔
      channel.overflowDetected = false ∨ CrossesTop position step := by
  unfold CrossesTop
  by_cases forward : 0 ≤ step
  · rw [sample_forward shown clear forward short, decoded_counted (decide_eq_true forward).symm rfl,
      Bool.and_eq_false_iff, decide_eq_false_iff_not, UInt16.not_le, and_iff_right forward]
  · rw [or_iff_left fun crosses => forward crosses.1]
    by_cases misreads : Misreads channel position step
    · rw [sample_misread shown clear misreads short]
      refine iff_of_false (fun decoded => forward ?_) (Bool.eq_false_iff.not_left.mpr misreads.1)
      exact of_decide_eq_true decoded.direction.symm
    · rw [sample_backward shown clear (not_le.mp forward) short misreads,
        decoded_counted (decide_eq_false forward).symm rfl]

/-! ## Runs -/

/-- The displacements of a channel in the iterations of a run. -/
def moves (events : List Event) (i : Fin 2) : List ℤ :=
  events.filterMap fun
    | .iteration displacements _ => some (displacements.get i)
    | .rpmGet => none

@[simp] theorem moves_iteration (displacements : Vector ℤ 2) (uptime : ℤ) (events : List Event)
    (i : Fin 2) : moves (.iteration displacements uptime :: events) i =
      displacements.get i :: moves events i := rfl

/-- The first iteration is still to come. -/
structure Waits (s : State) (i : Fin 2) (overflow : Bool) : Prop where
  first : s.service.firstTime = true
  noUnderflow : (s.service.channels.get i).underflowDetected = false
  flag : (s.service.channels.get i).overflowDetected = overflow

/-- The channel holds the last reading, and of the flags only the overflow flag can be up. -/
structure Reads (s : State) (i : Fin 2) (overflow : Bool) : Prop where
  later : s.service.firstTime = false
  shown : (s.service.channels.get i).encoderPrevReading = reading (s.positions.get i)
  noUnderflow : (s.service.channels.get i).underflowDetected = false
  flag : (s.service.channels.get i).overflowDetected = overflow

/-- The channel after the samples of an iteration. -/
def State.sampledChannel (s : State) (conf : SrvConf) (displacements : Vector ℤ 2) (uptime : ℤ)
    (i : Fin 2) : Channel :=
  (s.service.takeSample conf (s.readings displacements) uptime).channels.get i

section

variable (value : LowPassValue) {conf : SrvConf} {s : State} {i : Fin 2} {overflow : Bool}
  (displacements : Vector ℤ 2) (uptime : ℤ)

theorem sampledChannel_eq (active : conf.Active i) :
    s.sampledChannel conf displacements uptime i =
      (s.service.channels.get i).sample (reading (s.positions.get i + displacements.get i)) := by
  simp only [State.sampledChannel, Service.takeSample, SrvConf.get_forActive active, State.readings,
    Vector.get_ofFn]

theorem positions_step (conf : SrvConf) (s : State) (i : Fin 2) :
    (s.step value conf (.iteration displacements uptime)).1.positions.get i =
      s.positions.get i + displacements.get i :=
  Vector.get_ofFn ..

/-- A get of the speed service touches no channel. -/
theorem Waits.rpmGet (waits : Waits s i overflow) : Waits (s.step value conf .rpmGet).1 i overflow :=
  ⟨waits.first, waits.noUnderflow, waits.flag⟩

theorem Reads.rpmGet (reads : Reads s i overflow) : Reads (s.step value conf .rpmGet).1 i overflow :=
  ⟨reads.later, reads.shown, reads.noUnderflow, reads.flag⟩

/-- The first iteration saves the readings. -/
theorem Waits.step (active : conf.Active i) (waits : Waits s i overflow) :
    Reads (s.step value conf (.iteration displacements uptime)).1 i overflow := by
  rw [step_first waits.first]
  refine ⟨rfl, ?_, ?_, ?_⟩
  all_goals
    simp only [Service.firstIteration, SrvConf.get_forActive active, State.readings, State.moved,
      Vector.get_ofFn]
  · exact waits.noUnderflow
  · exact waits.flag

/-- A step that closes a window estimates the sampled channel and clears its error. -/
theorem channel_closing (active : conf.Active i) (closes : s.service.Estimates conf) :
    (s.step value conf (.iteration displacements uptime)).1.service.channels.get i =
      ((s.sampledChannel conf displacements uptime i).estimate
        (value (s.service.takeSample conf (s.readings displacements) uptime) i) s.service.estimatorCounter
        (s.service.accumulatedTime + (uptime - s.service.timeStamp))
        (conf.pulsePerRound.get i)).clearError := by
  rw [step_closing closes]
  simp only [Service.makeEstimate, Service.estimateChannels, SrvConf.get_forActive active]
  rfl

/-- Another step leaves the sampled channel. -/
theorem channel_between (later : s.service.firstTime = false) (waits : ¬ s.service.Estimates conf) :
    (s.step value conf (.iteration displacements uptime)).1.service.channels.get i =
      s.sampledChannel conf displacements uptime i := by
  rw [step_between later waits]
  rfl

theorem firstTime_step (conf : SrvConf) (later : s.service.firstTime = false) (event : Event) :
    (s.step value conf event).1.service.firstTime = false := by
  cases event with
  | rpmGet => exact later
  | iteration displacements uptime =>
    by_cases closes : s.service.Estimates conf
    · rw [step_closing closes]
      exact later
    · rw [step_between later closes]
      exact later

/-- The first sample closes a window of its own. -/
theorem estimates_first (conf : SrvConf) (first : s.service.firstTime = true)
    (fresh : s.service.loopCounter = 0) :
    (s.step value conf (.iteration displacements uptime)).1.service.Estimates conf := by
  rw [step_first first]
  exact ⟨rfl, (congrArg (· % conf.samplePerEveryIteration) fresh).trans UInt32.zero_mod⟩

theorem loopCounter_step (conf : SrvConf) (later : s.service.firstTime = false) :
    (s.step value conf (.iteration displacements uptime)).1.service.loopCounter =
      s.service.loopCounter + 1 := by
  by_cases closes : s.service.Estimates conf
  · rw [step_closing closes]
    rfl
  · rw [step_between later closes]
    rfl

/-- With two samples an estimate every other step closes a window, also where the counter wraps. -/
theorem estimates_step (pairs : conf.samplePerEveryIteration = 2) (later : s.service.firstTime = false) :
    (s.step value conf (.iteration displacements uptime)).1.service.Estimates conf ↔
      ¬ s.service.Estimates conf := by
  have next := firstTime_step value conf later (.iteration displacements uptime)
  have range := s.service.loopCounter.toNat_lt
  simp only [Service.Estimates, next, later, true_and,
    loopCounter_step value displacements uptime conf later, pairs,
    ← UInt32.toNat_inj, UInt32.toNat_mod, UInt32.toNat_add, UInt32.reduceToNat]
  omega

/-- A sample keeps the reading and the flags; a fall takes the overflow flag down. -/
theorem Reads.sampled (active : conf.Active i) (reads : Reads s i overflow) :
    ∃ up, s.sampledChannel conf displacements uptime i =
      (s.service.channels.get i).counted (reading (s.positions.get i + displacements.get i)) up
        (overflow && decide (reading (s.positions.get i) ≤ reading (s.positions.get i + displacements.get i)))
        (sampleLength overflow (reading (s.positions.get i))
          (reading (s.positions.get i + displacements.get i))) := by
  rw [sampledChannel_eq displacements uptime active, ← reads.flag, ← reads.shown]
  exact sample_counted reads.noUnderflow _

theorem Reads.step (active : conf.Active i) (reads : Reads s i overflow) :
    Reads (s.step value conf (.iteration displacements uptime)).1 i (overflow &&
      decide (reading (s.positions.get i) ≤ reading (s.positions.get i + displacements.get i))) := by
  have later := firstTime_step value conf reads.later (.iteration displacements uptime)
  obtain ⟨up, sampled⟩ := reads.sampled displacements uptime active
  by_cases closes : s.service.Estimates conf
  · have channel := channel_closing value displacements uptime active closes
    rw [sampled] at channel
    exact ⟨later, by rw [channel, positions_step]; rfl, by rw [channel]; rfl, by rw [channel]; rfl⟩
  · have channel := channel_between (i := i) value displacements uptime reads.later closes
    rw [sampled] at channel
    exact ⟨later, by rw [channel, positions_step]; rfl, by rw [channel]; rfl, by rw [channel]; rfl⟩

end

/-- The step's sample, if it takes one, is decoded. -/
def DecodesStep (conf : SrvConf) (i : Fin 2) (s : State) : Event → Prop
  | .iteration displacements uptime => s.service.firstTime = false →
    Decoded (s.service.channels.get i) (s.sampledChannel conf displacements uptime i) (displacements.get i)
  | .rpmGet => True

instance (conf : SrvConf) (i : Fin 2) (s : State) : (event : Event) → Decidable (DecodesStep conf i s event)
  | .iteration .. => inferInstanceAs (Decidable (_ → _))
  | .rpmGet => inferInstanceAs (Decidable True)

/-- The first step crosses the top of the counter, if there is one. -/
def StartsAcross (position : ℤ) : List ℤ → Prop
  | [] => True
  | step :: _ => CrossesTop position step

/-- From a state that has read the counter, every short sample is decoded exactly when the flag is down or
the next step takes it down. -/
theorem decodes_from {value : LowPassValue} {conf : SrvConf} {i : Fin 2} (active : conf.Active i)
    {s : State} {overflow : Bool} (reads : Reads s i overflow) {m : Machine State Event EstimatedSpeed}
    (same : m.step = State.step value conf) (events : List Event)
    (short : ∀ step ∈ moves events i, step.natAbs ≤ 150) :
    (∀ step ∈ m.stepsFrom s events, DecodesStep conf i step.1 step.2) ↔
      overflow = false ∨ StartsAcross (s.positions.get i) (moves events i) := by
  induction events generalizing s overflow with
  | nil => exact iff_of_true (List.forall_mem_nil _) (Or.inr trivial)
  | cons event rest ih =>
    rw [Machine.stepsFrom, List.forall_mem_cons, same]
    cases event with
    | rpmGet =>
      rw [ih (reads.rpmGet value) short]
      exact and_iff_right trivial
    | iteration displacements uptime =>
      rw [moves_iteration, List.forall_mem_cons] at short
      have head := sample_decoded_iff reads.shown reads.noUnderflow short.1
      rw [← sampledChannel_eq displacements uptime active, reads.flag] at head
      rw [ih (reads.step value displacements uptime active) short.2]
      have first : DecodesStep conf i s (.iteration displacements uptime) ↔
          overflow = false ∨ CrossesTop (s.positions.get i) (displacements.get i) :=
        (forall_prop_of_true reads.later).trans head
      rw [first]
      refine and_iff_left_of_imp fun decoded => Or.inl ?_
      rcases decoded with down | crosses
      · rw [down, Bool.false_and]
      · rw [decide_eq_false (UInt16.not_le.mpr crosses.2), Bool.and_false]

/-- The first sample, which follows the first reading, crosses the top of the counter, if there is one. -/
def FirstSampleAcross (position : ℤ) : List ℤ → Prop
  | [] => True
  | start :: samples => StartsAcross (position + start) samples

theorem decodes_waiting {value : LowPassValue} {conf : SrvConf} {i : Fin 2} (active : conf.Active i)
    {s : State} {overflow : Bool} (waits : Waits s i overflow) {m : Machine State Event EstimatedSpeed}
    (same : m.step = State.step value conf) (events : List Event)
    (short : ∀ step ∈ (moves events i).tail, step.natAbs ≤ 150) :
    (∀ step ∈ m.stepsFrom s events, DecodesStep conf i step.1 step.2) ↔
      overflow = false ∨ FirstSampleAcross (s.positions.get i) (moves events i) := by
  induction events generalizing s with
  | nil => exact iff_of_true (List.forall_mem_nil _) (Or.inr trivial)
  | cons event rest ih =>
    rw [Machine.stepsFrom, List.forall_mem_cons, same]
    cases event with
    | rpmGet =>
      rw [ih (waits.rpmGet value) short]
      exact and_iff_right trivial
    | iteration displacements uptime =>
      have skipped : DecodesStep conf i s (.iteration displacements uptime) :=
        fun later => absurd (later.symm.trans waits.first) Bool.false_ne_true
      rw [and_iff_right skipped,
        decodes_from active (waits.step value displacements uptime active) same rest short,
        positions_step]
      rfl

theorem initial_waits (value : LowPassValue) (conf : SrvConf) (uptime : ℤ) (garbage : EstimatedSpeed)
    (positions : Vector ℤ 2) (i : Fin 2) :
    Waits (machine value conf uptime garbage positions).initial i (decide (i = 0)) := by
  refine ⟨rfl, ?_, ?_⟩
  all_goals
    simp only [machine, Service.initial, Vector.get_ofFn]
    rfl

/-- With steps of at most `MAX_PULSE_PER_PERIOD` every sample of channel 1 is decoded, and every sample of
channel 0 exactly when its first one, if there is one, crosses the top of the counter. -/
theorem decodes_iff (value : LowPassValue) (conf : SrvConf) (uptime : ℤ) (garbage : EstimatedSpeed)
    (positions : Vector ℤ 2) (events : List Event) {i : Fin 2} (active : conf.Active i)
    (short : ∀ step ∈ (moves events i).tail, step.natAbs ≤ 150) :
    (∀ step ∈ (machine value conf uptime garbage positions).steps events, DecodesStep conf i step.1 step.2) ↔
      i = 1 ∨ FirstSampleAcross (positions.get i) (moves events i) := by
  have flag : decide (i = 0) = false ↔ i = 1 := by
    rw [decide_eq_false_iff_not]
    omega
  rw [← flag]
  exact decodes_waiting active (initial_waits value conf uptime garbage positions i) rfl events short

/-- A service whose encoder 0 starts 50 pulses below the top and rolls on and back over it. -/
theorem acrossTheTop_decodes :
    FirstSampleAcross 65486 (moves (movesBy [0, 100, -100]) 0) ∧
      ∀ step ∈ (machine exactLowPass twoEncoders 0 ⟨.replicate 2 0, .replicate 2 0⟩ (.replicate 2 65486)).steps
        (movesBy [0, 100, -100]), DecodesStep twoEncoders 0 step.1 step.2 :=
  have across : FirstSampleAcross 65486 (moves (movesBy [0, 100, -100]) 0) := ⟨by decide, by decide⟩
  ⟨across, (decodes_iff exactLowPass twoEncoders 0 ⟨.replicate 2 0, .replicate 2 0⟩ (.replicate 2 65486)
    (movesBy [0, 100, -100]) (by decide) (by decide)).mpr (Or.inr across)⟩

/-- A first step of one pulse back across zero is read as it is, but the overflow flag stays up after it. -/
theorem onePulseBack_not_decodes :
    (∀ i, ∀ step ∈ (moves (movesBy [0, -1]) i).tail, step.natAbs ≤ 150) ∧
      ¬ ∀ step ∈ atZero.steps (movesBy [0, -1]), DecodesStep twoEncoders 0 step.1 step.2 := by
  decide +kernel

end Robofw.Model.Encoder
