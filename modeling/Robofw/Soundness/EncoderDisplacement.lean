import Robofw.Soundness.EncoderChannel

/-! # Net displacement in the encoder service

A channel adds up the magnitudes of its samples and puts the direction of the last one before their
sum. The estimate shows the net displacement of its window when every sample of the window goes the
way of the last one, the 32-bit product does not overflow, and no sample was misread: the
`overflow_detected` flag that is set at the start turns the first backward sample of that channel that
does not wrap into a forward one.
-/

namespace Robofw.Model.Encoder

open Robofw.Core

/-! ## The window of a channel -/

/-- The channel has counted the steps of a window that ends at `position`. -/
structure Tracks (channel : Channel) (position : ℤ) (window : List ℤ) : Prop where
  shown : channel.encoderPrevReading = reading position
  noUnderflow : channel.underflowDetected = false
  error : channel.accumulatedError = UInt16.ofNat (distance window)
  direction : ∀ last ∈ window.getLast?, channel.isCountingUp = decide (0 ≤ last)

theorem tracks_counted {channel : Channel} {position step : ℤ} {window : List ℤ} {up overflow : Bool}
    (error : channel.accumulatedError = UInt16.ofNat (distance window)) (direction : up = decide (0 ≤ step)) :
    Tracks (channel.counted (reading (position + step)) up overflow step.natAbs) (position + step)
      (window ++ [step]) := by
  refine ⟨rfl, rfl, ?_, ?_⟩
  · rw [distance_concat, UInt16.ofNat_add, ← error]
    rfl
  · intro last closing
    rw [List.getLast?_concat, Option.mem_some_iff] at closing
    subst closing
    exact direction

/-- A sample adds its step to the window. -/
theorem sample_tracks {channel : Channel} {position step : ℤ} {window : List ℤ}
    (tracks : Tracks channel position window) (short : step.natAbs ≤ 150)
    (clear : ¬ Misreads channel position step) :
    Tracks (channel.sample (reading (position + step))) (position + step) (window ++ [step]) := by
  obtain ⟨shown, noUnderflow, error, -⟩ := tracks
  by_cases forward : 0 ≤ step
  · rw [sample_forward shown noUnderflow forward short]
    exact tracks_counted error (decide_eq_true forward).symm
  · rw [sample_backward shown noUnderflow (not_le.mp forward) short clear]
    exact tracks_counted error (decide_eq_false forward).symm

/-! ## The estimate -/

/-- With a distance of at most 35791 the 32-bit product does not overflow. -/
theorem calculateRpm_of_le {window : List ℤ} (bound : distance window ≤ 35791) (up : Bool) (time : ℤ)
    (pulsePerRound : UInt32) :
    (calculateRpm up (UInt16.ofNat (distance window)) time pulsePerRound).toInt =
      ((signedDistance up window * 60 * 1000).tdiv time).tdiv pulsePerRound.toNat := by
  have held : (UInt16.ofNat (distance window)).toNat = distance window :=
    UInt16.toNat_ofNat_of_lt' (lt_of_le_of_lt bound (by decide))
  have product : (if up then 1 else -1) * Int32.ofInt (distance window) * 60 * 1000 =
      Int32.ofInt (signedDistance up window * 60 * 1000) := by
    rw [Int32.ofInt_mul, Int32.ofInt_mul]
    cases up with
    | true => rw [if_pos rfl, Int32.one_mul]; rfl
    | false => rw [if_neg Bool.false_ne_true, ← Int32.neg_eq_neg_one_mul, ← Int32.ofInt_neg]; rfl
  have short : (signedDistance up window * 60 * 1000).natAbs ≤ 2147460000 := by
    unfold signedDistance
    split <;> omega
  unfold calculateRpm
  simp only [held, product]
  generalize signedDistance up window * 60 * 1000 = value at short ⊢
  -- C's division rounds toward zero, so a quotient is no longer than its dividend.
  have first := Int.natAbs_tdiv_le_natAbs value time
  have second := Int.natAbs_tdiv_le_natAbs (value.tdiv time) pulsePerRound.toNat
  have fits : (Int32.ofInt value).toInt = value := Int32.toInt_ofInt_of_le (by omega) (by omega)
  rw [fits]
  exact Int32.toInt_ofInt_of_le (by omega) (by omega)

/-! ## Runs -/

variable {value : LowPassValue}

/-- A channel that the loops reach. -/
def SrvConf.Active (conf : SrvConf) (i : Fin 2) : Prop := i.val < conf.activeEncoderNum.toNat

instance (conf : SrvConf) (i : Fin 2) : Decidable (conf.Active i) := inferInstanceAs (Decidable (_ < _))

theorem SrvConf.get_forActive {α : Type} {conf : SrvConf} {i : Fin 2} (active : conf.Active i)
    (channels : Vector α 2) (update : Fin 2 → α → α) :
    (conf.forActive channels update).get i = update i (channels.get i) := by
  rw [SrvConf.forActive, Vector.get_ofFn]
  exact if_pos active

/-- The steps of one channel in a window. -/
def travel (window : List (Vector ℤ 2)) (i : Fin 2) : List ℤ := window.map (·.get i)

/-- Between two readings no active encoder moves further than `MAX_PULSE_PER_PERIOD`. -/
def WithinPeriod (conf : SrvConf) (s : State) : Event → Prop
  | .iteration displacements _ => s.service.firstTime = false →
    ∀ i, conf.Active i → (displacements.get i).natAbs ≤ maxPulsePerPeriod
  | .rpmGet => True

/-- Every raw rpm that the step estimates is the net displacement of its window, in rounds a minute,
when the distance of the window fits 16 bits. -/
def NetDisplacement (value : LowPassValue) (conf : SrvConf) (s : State) : Event → Prop
  | .iteration displacements uptime =>
    ∀ speed ∈ (s.step value conf (.iteration displacements uptime)).2, ∀ i, conf.Active i →
      distance (travel (s.sampled displacements) i) < 2 ^ 16 →
      (speed.rawRpms.get i).toInt =
        (((travel (s.sampled displacements) i).sum * 60 * 1000).tdiv
          (s.service.accumulatedTime + (uptime - s.service.timeStamp))).tdiv
            (conf.pulsePerRound.get i).toNat
  | .rpmGet => True

/-- No active channel misreads its step; and where the step closes a window whose distance fits 16
bits, the steps of the window all go the way of the last one and their distance is at most 35791. -/
def Measured (conf : SrvConf) (s : State) : Event → Prop
  | .iteration displacements _ => s.service.firstTime = false → ∀ i, conf.Active i →
    ¬ Misreads (s.service.channels.get i) (s.positions.get i) (displacements.get i) ∧
      (s.service.Estimates conf → distance (travel (s.sampled displacements) i) < 2 ^ 16 →
        OneWay (0 ≤ displacements.get i) (travel (s.sampled displacements) i) ∧
          distance (travel (s.sampled displacements) i) ≤ 35791)
  | .rpmGet => True

instance (conf : SrvConf) (s : State) : (event : Event) → Decidable (WithinPeriod conf s event)
  | .iteration .. => inferInstanceAs (Decidable (_ → _))
  | .rpmGet => inferInstanceAs (Decidable True)

instance (value : LowPassValue) (conf : SrvConf) (s : State) :
    (event : Event) → Decidable (NetDisplacement value conf s event)
  | .iteration .. => inferInstanceAs (Decidable (∀ _ ∈ _, _))
  | .rpmGet => inferInstanceAs (Decidable True)

instance (conf : SrvConf) (s : State) : (event : Event) → Decidable (Measured conf s event)
  | .iteration .. => inferInstanceAs (Decidable (_ → _))
  | .rpmGet => inferInstanceAs (Decidable True)

/-- Every active channel has counted the steps of the window. -/
structure Follows (conf : SrvConf) (s : State) : Prop where
  waiting : s.service.firstTime = true → s.window = [] ∧ ∀ i,
    (s.service.channels.get i).underflowDetected = false ∧
      (s.service.channels.get i).accumulatedError = 0
  tracks : s.service.firstTime = false → ∀ i, conf.Active i →
    Tracks (s.service.channels.get i) (s.positions.get i) (travel s.window i)

theorem travel_concat (window : List (Vector ℤ 2)) (displacements : Vector ℤ 2) (i : Fin 2) :
    travel (window ++ [displacements]) i = travel window i ++ [displacements.get i] := by
  rw [travel, List.map_append]
  rfl

/-- Once its error is cleared, a channel has counted an empty window. -/
theorem clearError_tracks {channel : Channel} {position : ℤ} {window : List ℤ}
    (tracks : Tracks channel position window) (lowPassValue : Int32) (estimatorCounter : UInt32) (time : ℤ)
    (pulsePerRound : UInt32) :
    Tracks (channel.estimate lowPassValue estimatorCounter time pulsePerRound).clearError position [] :=
  ⟨tracks.shown, tracks.noUnderflow, rfl, fun _ closing => absurd closing (Option.not_mem_none _)⟩

/-- After the samples of an iteration, every active channel has counted the longer window. -/
theorem takeSample_tracks {conf : SrvConf} {s : State} (follows : Follows conf s)
    (later : s.service.firstTime = false) {displacements : Vector ℤ 2} {i : Fin 2}
    (active : conf.Active i) (short : (displacements.get i).natAbs ≤ maxPulsePerPeriod)
    (clear : ¬ Misreads (s.service.channels.get i) (s.positions.get i) (displacements.get i))
    (uptime : ℤ) :
    Tracks ((s.service.takeSample conf (s.readings displacements) uptime).channels.get i)
      ((s.moved displacements).get i) (travel (s.sampled displacements) i) := by
  have seen := sample_tracks (follows.tracks later i active) (Int.ofNat_le.mp short) clear
  simp only [Service.takeSample, SrvConf.get_forActive active, State.readings, State.moved,
    State.sampled, later, Bool.false_eq_true, if_false, Vector.get_ofFn, travel_concat]
  exact seen

theorem step_first {conf : SrvConf} {s : State} (first : s.service.firstTime = true)
    (displacements : Vector ℤ 2) (uptime : ℤ) :
    s.step value conf (.iteration displacements uptime) =
      (⟨s.service.firstIteration conf (s.readings displacements), s.moved displacements, []⟩, []) := by
  have waits : ¬ s.service.Estimates conf := fun estimates => by simp [estimates.1] at first
  simp only [State.step, Service.iterate, State.sampled, first, if_true, if_neg waits]

theorem step_between {conf : SrvConf} {s : State} (later : s.service.firstTime = false)
    (waits : ¬ s.service.Estimates conf) (displacements : Vector ℤ 2) (uptime : ℤ) :
    s.step value conf (.iteration displacements uptime) =
      (⟨s.service.takeSample conf (s.readings displacements) uptime, s.moved displacements,
        s.sampled displacements⟩, []) := by
  have still : ¬ s.service.loopCounter % conf.samplePerEveryIteration = 0 :=
    fun closes => waits ⟨later, closes⟩
  simp only [State.step, Service.iterate, later, Bool.false_eq_true, if_false, if_neg waits,
    if_neg still]

/-- The step that closes a window makes its estimate from the channels that have just been sampled. -/
theorem step_closing {conf : SrvConf} {s : State} (closes : s.service.Estimates conf)
    (displacements : Vector ℤ 2) (uptime : ℤ) :
    let next := (s.service.takeSample conf (s.readings displacements) uptime).makeEstimate value conf
    s.step value conf (.iteration displacements uptime) =
      (⟨next, s.moved displacements, []⟩, [next.speedEstimate]) := by
  simp only [State.step, Service.iterate, closes.1, Bool.false_eq_true, if_false, if_pos closes,
    if_pos closes.2]

/-- One step keeps the count. -/
theorem step_follows {conf : SrvConf} {s : State} {event : Event} (follows : Follows conf s)
    (short : WithinPeriod conf s event) (measured : Measured conf s event) :
    Follows conf (s.step value conf event).1 := by
  cases event with
  | rpmGet => exact ⟨follows.waiting, follows.tracks⟩
  | iteration displacements uptime =>
    cases later : s.service.firstTime with
    | true =>
      rw [step_first later]
      refine ⟨fun again => absurd again Bool.false_ne_true, fun _ i active => ?_⟩
      obtain ⟨noUnderflow, error⟩ := (follows.waiting later).2 i
      simp only [Service.firstIteration, SrvConf.get_forActive active, State.readings, State.moved,
        Vector.get_ofFn]
      exact ⟨rfl, noUnderflow, error, fun _ closing => absurd closing (Option.not_mem_none _)⟩
    | false =>
      have sampled := fun i active => takeSample_tracks follows later active (short later i active)
        (measured later i active).1 uptime
      by_cases closes : s.service.Estimates conf
      · rw [step_closing closes]
        refine ⟨fun first => absurd (later.symm.trans first) Bool.false_ne_true, fun _ i active => ?_⟩
        simp only [Service.makeEstimate, Service.estimateChannels, SrvConf.get_forActive active]
        exact clearError_tracks (sampled i active) _ _ _ _
      · rw [step_between later closes]
        exact ⟨fun first => absurd (later.symm.trans first) Bool.false_ne_true,
          fun _ i active => sampled i active⟩

/-- The raw rpm of an estimate is calculated from the sampled channel. -/
theorem rawRpms_makeEstimate {conf : SrvConf} {i : Fin 2} (active : conf.Active i) (s : Service) :
    (s.makeEstimate value conf).speedEstimate.rawRpms.get i =
      calculateRpm (s.channels.get i).isCountingUp (s.channels.get i).accumulatedError
        s.accumulatedTime (conf.pulsePerRound.get i) := by
  simp only [Service.speedEstimate, Service.makeEstimate, Service.estimateChannels, Vector.get_map,
    SrvConf.get_forActive active]
  rfl

/-- Only a step that closes a window makes an estimate. -/
theorem estimates_of_mem {conf : SrvConf} {s : State} {displacements : Vector ℤ 2} {uptime : ℤ}
    {speed : EstimatedSpeed} (made : speed ∈ (s.step value conf (.iteration displacements uptime)).2) :
    s.service.Estimates conf := by
  by_contra waits
  cases later : s.service.firstTime with
  | true =>
    rw [step_first later] at made
    exact absurd made List.not_mem_nil
  | false =>
    rw [step_between later waits] at made
    exact absurd made List.not_mem_nil

/-- In a state that has counted its window, a step that misreads nothing estimates the distance of the
window in the direction of its last step. -/
theorem step_rawRpm {conf : SrvConf} {s : State} (follows : Follows conf s)
    {displacements : Vector ℤ 2} {uptime : ℤ} {i : Fin 2} (active : conf.Active i)
    (short : (displacements.get i).natAbs ≤ maxPulsePerPeriod)
    (clear : ¬ Misreads (s.service.channels.get i) (s.positions.get i) (displacements.get i))
    (bound : distance (travel (s.sampled displacements) i) ≤ 35791) {speed : EstimatedSpeed}
    (made : speed ∈ (s.step value conf (.iteration displacements uptime)).2) :
    (speed.rawRpms.get i).toInt =
      ((signedDistance (0 ≤ displacements.get i) (travel (s.sampled displacements) i) * 60 * 1000).tdiv
        (s.service.accumulatedTime + (uptime - s.service.timeStamp))).tdiv
          (conf.pulsePerRound.get i).toNat := by
  have closes := estimates_of_mem made
  have tracks := takeSample_tracks follows closes.1 active short clear uptime
  have up := tracks.direction (displacements.get i)
    (by simp [State.sampled, closes.1, travel_concat])
  rw [step_closing closes, List.mem_singleton] at made
  rw [made, rawRpms_makeEstimate active, tracks.error, up, calculateRpm_of_le bound]
  rfl

/-- In a state that has counted its window, a measured step estimates the net displacement. -/
theorem step_netDisplacement {conf : SrvConf} {s : State} {event : Event} (follows : Follows conf s)
    (short : WithinPeriod conf s event) (measured : Measured conf s event) :
    NetDisplacement value conf s event := by
  cases event with
  | rpmGet => trivial
  | iteration displacements uptime =>
    intro speed made i active fits
    have closes := estimates_of_mem made
    obtain ⟨clear, counted⟩ := measured closes.1 i active
    obtain ⟨oneWay, bound⟩ := counted closes fits
    rw [step_rawRpm follows active (short closes.1 i active) clear bound made,
      (signedDistance_eq_sum_iff _ _).mpr oneWay]

theorem initial_follows (value : LowPassValue) (conf : SrvConf) (uptime : ℤ) (garbage : EstimatedSpeed)
    (positions : Vector ℤ 2) : Follows conf (machine value conf uptime garbage positions).initial := by
  refine ⟨fun _ => ⟨rfl, fun i => ?_⟩, fun later => absurd later.symm Bool.false_ne_true⟩
  simp only [machine, Service.initial, Vector.get_ofFn]
  exact ⟨rfl, rfl⟩

/-- In a run that keeps within `MAX_PULSE_PER_PERIOD` and is measured at every step, every estimate
is the net displacement of its window. -/
theorem netDisplacement_of_measured (value : LowPassValue) (conf : SrvConf) (uptime : ℤ)
    (garbage : EstimatedSpeed) (positions : Vector ℤ 2) (events : List Event)
    (short : ∀ step ∈ (machine value conf uptime garbage positions).steps events,
      WithinPeriod conf step.1 step.2)
    (measured : ∀ step ∈ (machine value conf uptime garbage positions).steps events,
      Measured conf step.1 step.2) :
    ∀ step ∈ (machine value conf uptime garbage positions).steps events,
      NetDisplacement value conf step.1 step.2 := by
  rintro ⟨s, event⟩ member
  have follows : Follows conf s := Machine.guarded_steps (Follows conf)
    (fun s event => WithinPeriod conf s event ∧ Measured conf s event)
    (initial_follows value conf uptime garbage positions)
    (fun s event follows guard => step_follows follows guard.1 guard.2)
    (fun step taken => ⟨short step taken, measured step taken⟩) member
  exact step_netDisplacement follows (short _ member) (measured _ member)

/-- Two encoders of 1320 pulses a round, and an estimate every two samples. -/
def twoEncoders : SrvConf := ⟨2, .replicate 2 1320, 2, .inr rfl⟩

/-- Both encoders move by each step in turn, 5 ms apart, from position 0. -/
def movesBy (steps : List ℤ) : List Event :=
  steps.mapIdx fun index step => .iteration (.replicate 2 step) (5 * (index + 1))

/-- The service at time 0, with both encoders at position 0. -/
def atZero : Machine State Event EstimatedSpeed :=
  machine exactLowPass twoEncoders 0 ⟨.replicate 2 0, .replicate 2 0⟩ (.replicate 2 0)

/-- Rolling on meets every condition: the last window, of 150 pulses in 10 ms, is 681 rpm. -/
theorem forward_netDisplacement :
    (atZero.run (movesBy [0, 100, 100, 50])).service.speedEstimate.rawRpms = .replicate 2 681 ∧
      ∀ step ∈ atZero.steps (movesBy [0, 100, 100, 50]),
        NetDisplacement exactLowPass twoEncoders step.1 step.2 :=
  ⟨by decide +kernel, netDisplacement_of_measured exactLowPass twoEncoders 0
    ⟨.replicate 2 0, .replicate 2 0⟩ (.replicate 2 0) (movesBy [0, 100, 100, 50]) (by decide +kernel)
    (by decide +kernel)⟩

/-- Encoders that roll back by 100 pulses and stop are estimated to have rolled forward. -/
theorem backThenStop_not_netDisplacement :
    (∀ step ∈ atZero.steps (movesBy [0, 0, -100, 0]), WithinPeriod twoEncoders step.1 step.2) ∧
      ¬ ∀ step ∈ atZero.steps (movesBy [0, 0, -100, 0]),
        NetDisplacement exactLowPass twoEncoders step.1 step.2 := by
  decide +kernel

end Robofw.Model.Encoder
