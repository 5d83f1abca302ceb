import Robofw.Model.EncoderTiming
import Robofw.Soundness.EncoderSamples

/-! # The time of an estimate

An interval between two samples can be empty, when an iteration overruns and the next one starts at
once. But a window of two samples spans the whole of an iteration, from its `t0` to the end of its
sleep, and the window of the first sample spans the first iteration. So the time of every estimate is at
least a period.
-/

namespace Robofw.Model.Encoder

open Robofw.Core

/-- Where the window begins on the clock. -/
def Service.windowStart (s : Service) : ℤ := s.timeStamp - s.accumulatedTime

/-- The estimate that the step makes divides by at least the period. -/
def TakesPeriod (conf : SrvConf) (periodMs : UInt32) (s : TimedState) : TimedEvent → Prop
  | .thread displacements => s.pc = .body → s.encoder.service.Estimates conf →
    periodMs.toNat ≤ (s.encoder.service.takeSample conf (s.encoder.readings displacements)
      s.clock).accumulatedTime
  | .advance _ => True
  | .rpmGet => True

/-- How far the clock is past the beginning of a window that the next sample will not close: the
iteration that takes the sample starts after it. -/
def Opening (s : TimedState) : Prop :=
  match s.pc with
  | .body => s.encoder.service.windowStart ≤ s.t0 ∧ s.t0 ≤ s.clock
  | _ => s.encoder.service.windowStart ≤ s.clock

/-- The same for a window that the next sample closes: the last iteration started after its beginning,
and is not over before a period has passed. -/
def Closing (periodMs : UInt32) (s : TimedState) : Prop :=
  match s.pc with
  | .sleepTime => s.encoder.service.windowStart ≤ s.t0 ∧ s.t0 ≤ s.clock
  | .sleep ms => s.encoder.service.windowStart + periodMs.toNat ≤ s.clock + max ms.toInt 0
  | .sleeping wakeAt => s.encoder.service.windowStart + periodMs.toNat ≤ wakeAt
  | _ => s.encoder.service.windowStart + periodMs.toNat ≤ s.clock

/-- The clock and the window. -/
structure Timely (conf : SrvConf) (periodMs : UInt32) (s : TimedState) : Prop where
  first : s.encoder.service.firstTime = true → s.encoder.service.loopCounter = 0 ∧
    (s.pc = .loopStart ∨ s.pc = .body)
  opening : ¬ s.encoder.service.Estimates conf → Opening s
  closing : s.encoder.service.Estimates conf → Closing periodMs s

section

variable (value : LowPassValue) {conf : SrvConf} {s : State} (displacements : Vector ℤ 2) (uptime : ℤ)

theorem windowStart_first (conf : SrvConf) (first : s.service.firstTime = true) :
    (s.step value conf (.iteration displacements uptime)).1.service.windowStart = s.service.windowStart := by
  rw [step_first first]
  rfl

theorem windowStart_between (later : s.service.firstTime = false) (waits : ¬ s.service.Estimates conf) :
    (s.step value conf (.iteration displacements uptime)).1.service.windowStart = s.service.windowStart := by
  rw [step_between later waits]
  simp only [Service.windowStart, Service.takeSample]
  omega

/-- A window begins where the last one was closed. -/
theorem windowStart_closing (closes : s.service.Estimates conf) :
    (s.step value conf (.iteration displacements uptime)).1.service.windowStart = uptime := by
  rw [step_closing closes]
  exact sub_zero uptime

/-- The time that a sample accumulates reaches back to the beginning of the window. -/
theorem accumulatedTime_takeSample (readings : Vector UInt16 2) :
    (s.service.takeSample conf readings uptime).accumulatedTime = uptime - s.service.windowStart := by
  simp only [Service.windowStart, Service.takeSample]
  omega

end

/-- The sleep makes up for what is left of the period, also when its time does not fit 32 bits. -/
theorem sleep_covers {periodMs : UInt32} (short : periodMs.toNat < 2 ^ 31) {spent : ℤ} (nonneg : 0 ≤ spent) :
    (periodMs.toNat : ℤ) - spent ≤ max (Int32.ofInt (periodMs.toNat - spent)).toInt 0 := by
  rcases le_total spent periodMs.toNat with within | late
  · rw [Int32.toInt_ofInt_of_le (by omega) (by omega)]
    exact le_max_left _ _
  · exact (sub_nonpos.mpr late).trans (le_max_right _ _)

theorem timely_initial (value : LowPassValue) (conf : SrvConf) (periodMs : UInt32) (uptime : ℤ)
    (garbage : EstimatedSpeed) (positions : Vector ℤ 2) (t0 : ℤ) :
    Timely conf periodMs (timedMachine value conf periodMs uptime garbage positions t0).initial := by
  refine ⟨fun _ => ⟨rfl, Or.inl rfl⟩, fun _ => ?_, fun closes => absurd closes.1.symm Bool.false_ne_true⟩
  exact (sub_zero uptime).le

section

variable {value : LowPassValue} {conf : SrvConf} {periodMs : UInt32} {s : TimedState}

theorem opening_advance (opening : Opening s) (ms : ℕ) : Opening { s with clock := s.clock + ms } := by
  obtain ⟨encoder, clock, t0, pc⟩ := s
  cases pc <;> simp only [Opening] at opening ⊢ <;> omega

theorem closing_advance (closing : Closing periodMs s) (ms : ℕ) :
    Closing periodMs { s with clock := s.clock + ms } := by
  obtain ⟨encoder, clock, t0, pc⟩ := s
  cases pc <;> simp only [Closing] at closing ⊢ <;> omega

/-- Wherever the thread is in the body, the window to be closed is a period old. -/
theorem Timely.old (timely : Timely conf periodMs s) (body : s.pc = .body)
    (closes : s.encoder.service.Estimates conf) :
    s.encoder.service.windowStart + periodMs.toNat ≤ s.clock := by
  have closing := timely.closing closes
  rw [Closing, body] at closing
  exact closing

theorem threadStep_body (body : s.pc = .body) (displacements : Vector ℤ 2) :
    (s.threadStep value conf periodMs displacements).1 =
      { s with
        encoder := (s.encoder.step value conf (.iteration displacements s.clock)).1
        pc := .sleepTime } := by
  simp only [TimedState.threadStep, body]

/-- The body opens a window where it closes one, and otherwise leaves the one it was in to be closed. -/
theorem timely_body (pairs : conf.samplePerEveryIteration = 2) (timely : Timely conf periodMs s)
    (body : s.pc = .body) (displacements : Vector ℤ 2) :
    Timely conf periodMs (s.threadStep value conf periodMs displacements).1 := by
  obtain ⟨first, opening, -⟩ := timely
  rw [threadStep_body body]
  cases later : s.encoder.service.firstTime with
  | true =>
    have waits : ¬ s.encoder.service.Estimates conf :=
      fun closes => Bool.false_ne_true (closes.1.symm.trans later)
    have start := opening waits
    have closes := estimates_first value displacements s.clock conf later (first later).1
    have kept := windowStart_first value displacements s.clock conf later
    rw [Opening, body] at start
    refine ⟨fun again => absurd (closes.1.symm.trans again) Bool.false_ne_true,
      fun still => absurd closes still, fun _ => ?_⟩
    simp only [Closing, kept]
    exact start
  | false =>
    have next := firstTime_step value conf later (.iteration displacements s.clock)
    have turns := estimates_step value displacements s.clock pairs later
    by_cases closes : s.encoder.service.Estimates conf
    · have begins := windowStart_closing value displacements s.clock closes
      refine ⟨fun again => absurd (next.symm.trans again) Bool.false_ne_true,
        fun _ => ?_, fun again => absurd closes (turns.mp again)⟩
      simp only [Opening, begins]
      exact le_refl s.clock
    · have start := opening closes
      have kept := windowStart_between value displacements s.clock later closes
      rw [Opening, body] at start
      refine ⟨fun again => absurd (next.symm.trans again) Bool.false_ne_true,
        fun still => absurd (turns.mpr closes) still, fun _ => ?_⟩
      simp only [Closing, kept]
      exact start

/-- The thread at a step outside the body. -/
theorem timely_thread (pairs : conf.samplePerEveryIteration = 2) (short : periodMs.toNat < 2 ^ 31)
    (timely : Timely conf periodMs s) (displacements : Vector ℤ 2) :
    Timely conf periodMs (s.threadStep value conf periodMs displacements).1 := by
  obtain ⟨encoder, clock, t0, pc⟩ := s
  cases pc with
  | body => exact timely_body pairs timely rfl displacements
  | loopStart =>
    obtain ⟨first, opening, closing⟩ := timely
    exact ⟨fun again => ⟨(first again).1, Or.inr rfl⟩, fun waits => ⟨opening waits, le_refl clock⟩, closing⟩
  | sleepTime =>
    obtain ⟨first, opening, closing⟩ := timely
    refine ⟨fun again => absurd (first again).2 (by simp), opening, fun closes => ?_⟩
    obtain ⟨start, before⟩ := closing closes
    have spent : 0 ≤ clock - t0 := sub_nonneg.mpr before
    have covers := sleep_covers short spent
    have start : encoder.service.windowStart ≤ t0 := start
    simp only [TimedState.threadStep, Closing]
    omega
  | sleep ms =>
    obtain ⟨first, opening, closing⟩ := timely
    exact ⟨fun again => absurd (first again).2 (by simp), opening, closing⟩
  | sleeping wakeAt =>
    simp only [TimedState.threadStep]
    split
    case isTrue awake =>
      obtain ⟨first, opening, closing⟩ := timely
      refine ⟨fun again => absurd (first again).2 (by simp), opening, fun closes => ?_⟩
      exact (closing closes).trans awake
    case isFalse asleep => exact timely

theorem timely_step (pairs : conf.samplePerEveryIteration = 2) (short : periodMs.toNat < 2 ^ 31)
    (event : TimedEvent) (timely : Timely conf periodMs s) :
    Timely conf periodMs (s.step value conf periodMs event).1 := by
  cases event with
  | thread displacements => exact timely_thread pairs short timely displacements
  | rpmGet => exact ⟨timely.first, timely.opening, timely.closing⟩
  | advance ms =>
    exact ⟨timely.first, fun waits => opening_advance (timely.opening waits) ms,
      fun closes => closing_advance (timely.closing closes) ms⟩

end

/-- With two samples an estimate no run divides by less than its period. -/
theorem takesPeriod_of_pairs (value : LowPassValue) {conf : SrvConf} {periodMs : UInt32}
    (pairs : conf.samplePerEveryIteration = 2) (short : periodMs.toNat < 2 ^ 31) (uptime : ℤ)
    (garbage : EstimatedSpeed) (positions : Vector ℤ 2) (t0 : ℤ) (events : List TimedEvent) :
    ∀ step ∈ (timedMachine value conf periodMs uptime garbage positions t0).steps events,
      TakesPeriod conf periodMs step.1 step.2 := by
  rintro ⟨s, event⟩ member
  have timely : Timely conf periodMs s := Machine.guarded_steps (Timely conf periodMs) (fun _ _ => True)
    (timely_initial value conf periodMs uptime garbage positions t0)
    (fun s event timely _ => timely_step pairs short event timely) (fun _ _ => trivial) member
  cases event with
  | advance ms => trivial
  | rpmGet => trivial
  | thread displacements =>
    intro body closes
    have old := timely.old body closes
    rw [accumulatedTime_takeSample]
    exact le_sub_iff_add_le'.mpr old

/-- On the TBot every estimate divides by at least 5 ms, wherever its thread is delayed. -/
theorem accumulatedTime_ge_period (value : LowPassValue) (uptime : ℤ) (garbage : EstimatedSpeed)
    (positions : Vector ℤ 2) (t0 : ℤ) (events : List TimedEvent) :
    ∀ step ∈ (timedMachine value twoEncoders 5 uptime garbage positions t0).steps events,
      TakesPeriod twoEncoders 5 step.1 step.2 :=
  takesPeriod_of_pairs value rfl (by decide) uptime garbage positions t0 events

/-- The TBot's thread after a first iteration of 7 ms, in the body of the next one, which starts at once. -/
def secondBody : TimedState :=
  (timedMachine exactLowPass twoEncoders 5 0 ⟨.replicate 2 0, .replicate 2 0⟩ (.replicate 2 0) 0).run
    [.thread (.replicate 2 0), .thread (.replicate 2 0), .advance 7, .thread (.replicate 2 0),
      .thread (.replicate 2 0), .thread (.replicate 2 0), .thread (.replicate 2 0)]

/-- It divides by the 7 ms of the late iteration. -/
theorem secondBody_ge_period : 5 ≤ (secondBody.encoder.service.takeSample twoEncoders
    (secondBody.encoder.readings (.replicate 2 22)) secondBody.clock).accumulatedTime :=
  accumulatedTime_ge_period exactLowPass 0 ⟨.replicate 2 0, .replicate 2 0⟩ (.replicate 2 0) 0 _
    (secondBody, .thread (.replicate 2 22)) (Machine.run_mem_steps _ [] _) (by decide) (by decide)

end Robofw.Model.Encoder
