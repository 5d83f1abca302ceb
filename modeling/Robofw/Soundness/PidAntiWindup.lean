import Robofw.Core.Machine
import Robofw.Model.TbotFeedback

/-! # PID anti-windup

The controller tests its saturation on the integral before the call and then adds the error to it. The
integral stays bounded all the same: its part of the output moves toward the proportional part and not
past it, as long as one sample of the integral gain is no larger than the proportional gain.
-/

namespace Robofw.Model.Speed

open Robofw.Core

/-- The gains: no derivative part, and an integral part that a sample moves by less than the
proportional one. -/
structure Tuned (inst : PidControllerInstance) : Prop where
  derivative : inst.kd = 0
  sample : 0 ≤ inst.ki * inst.ts
  proportional : inst.ki * inst.ts ≤ inst.kp
  limit : 0 ≤ inst.umax

/-- Calls of `UpdatePidController`, each with a reference and a measurement, after
`InitPidController`. -/
def pidMachine (inst : PidControllerInstance) : Machine PidControllerInstance (ℚ × ℚ) ℚ where
  initial := initPidController inst
  step ctrl call := ((updatePidController ctrl call.1 call.2).1, [(updatePidController ctrl call.1 call.2).2])

/-- The gains of the instance, and an integral part within the limit. -/
structure Bounded (inst ctrl : PidControllerInstance) : Prop where
  kp : ctrl.kp = inst.kp
  ki : ctrl.ki = inst.ki
  kd : ctrl.kd = inst.kd
  umax : ctrl.umax = inst.umax
  ts : ctrl.ts = inst.ts
  integral : |inst.ki * ctrl.integral| ≤ inst.umax

/-- The call adds the error to the integral. -/
def Integrates (before after : PidControllerInstance) (error : ℚ) : Prop :=
  after.integral = before.integral + error * before.ts

/-- The call freezes the integral at the limit to which the error drives the output. -/
def Saturates (before after : PidControllerInstance) (error u : ℚ) : Prop :=
  after.integral = before.integral ∧ (u = before.umax ∧ 0 < error ∨ u = -before.umax ∧ error < 0)

/-- What a call does: the output keeps to the limit, and the error is integrated unless it drives the
saturated output further. -/
structure Unwinds (before : PidControllerInstance) (error : ℚ) (result : PidControllerInstance × ℚ) :
    Prop where
  output : |result.2| ≤ before.umax
  error : Integrates before result.1 error ∨ Saturates before result.1 error result.2

/-- A part moved toward a bounded sum and not past it stays bounded. -/
private theorem abs_add_le_of_le {part small large error limit : ℚ} (nonneg : 0 ≤ small)
    (below : small ≤ large) (start : |part| ≤ limit) (sum : |large * error + part| ≤ limit) :
    |part + small * error| ≤ limit := by
  rw [abs_le] at start sum ⊢
  rcases le_total 0 error with forward | backward
  · have up := mul_nonneg nonneg forward
    have step := mul_le_mul_of_nonneg_right below forward
    constructor <;> linarith
  · have down := mul_nonpos_of_nonneg_of_nonpos nonneg backward
    have step := mul_le_mul_of_nonpos_right below backward
    constructor <;> linarith

variable {inst ctrl : PidControllerInstance}

theorem bounded_init (tuned : Tuned inst) : Bounded inst (initPidController inst) := by
  refine ⟨rfl, rfl, rfl, rfl, rfl, ?_⟩
  have start : inst.ki * (initPidController inst).integral = 0 := mul_zero inst.ki
  rw [start, abs_zero]
  exact tuned.limit

/-- A call keeps the bound, and what it does is what anti-windup asks for. -/
theorem update_bounded (tuned : Tuned inst) (bounded : Bounded inst ctrl) (reference measurement : ℚ) :
    Bounded inst (updatePidController ctrl reference measurement).1 ∧
      Unwinds ctrl (reference - measurement) (updatePidController ctrl reference measurement) := by
  obtain ⟨kp, ki, kd, umax, ts, integral⟩ := bounded
  have positive : 0 ≤ inst.kp := tuned.sample.trans tuned.proportional
  have limit := tuned.limit
  have part := abs_le.mp integral
  simp only [updatePidController, kp, ki, kd, tuned.derivative, umax, zero_mul, add_zero]
  set error := reference - measurement
  split
  case isTrue above =>
    have forward : 0 < error := by
      by_contra backward
      have down := mul_nonpos_of_nonneg_of_nonpos positive (not_lt.mp backward)
      linarith
    refine ⟨⟨rfl, rfl, tuned.derivative.symm, rfl, ts, integral⟩, ?_, ?_⟩
    · rw [umax, abs_of_nonneg limit]
    · exact Or.inr ⟨rfl, Or.inl ⟨umax.symm, forward⟩⟩
  case isFalse within =>
    split
    case isTrue below =>
      have backward : error < 0 := by
        by_contra forward
        have up := mul_nonneg positive (not_lt.mp forward)
        linarith
      refine ⟨⟨rfl, rfl, tuned.derivative.symm, rfl, ts, integral⟩, ?_, ?_⟩
      · rw [umax, abs_neg, abs_of_nonneg limit]
      · exact Or.inr ⟨rfl, Or.inr ⟨by rw [umax], backward⟩⟩
    case isFalse inside =>
      have output : |inst.kp * error + inst.ki * ctrl.integral| ≤ inst.umax :=
        abs_le.mpr ⟨not_lt.mp inside, not_lt.mp within⟩
      have moved := abs_add_le_of_le tuned.sample tuned.proportional integral output
      refine ⟨⟨rfl, rfl, tuned.derivative.symm, rfl, ts, ?_⟩, ?_, Or.inl rfl⟩
      · rw [show inst.ki * (ctrl.integral + error * ctrl.ts) =
          inst.ki * ctrl.integral + inst.ki * inst.ts * error by rw [ts]; ring]
        exact moved
      · rw [umax]
        exact output

/-- In every run each state is bounded and each call unwinds. -/
def AntiWindup (inst : PidControllerInstance) : Prop :=
  ∀ calls : List (ℚ × ℚ), Bounded inst ((pidMachine inst).run calls) ∧
    ∀ reference measurement, Unwinds ((pidMachine inst).run calls) (reference - measurement)
      (updatePidController ((pidMachine inst).run calls) reference measurement)

theorem antiWindup_of_tuned (tuned : Tuned inst) : AntiWindup inst := by
  intro calls
  have bounded : Bounded inst ((pidMachine inst).run calls) := by
    apply Machine.invariant_run (Bounded inst) (bounded_init tuned)
    intro state call holds
    exact (update_bounded tuned holds call.1 call.2).1
  exact ⟨bounded, fun reference measurement => (update_bounded tuned bounded reference measurement).2⟩

theorem tuned_leftCtrl : Tuned (leftCtrl speedPeriodMs) := by
  constructor <;> norm_num [leftCtrl, initPidController, pidController, speedPeriodMs]

theorem tuned_rightCtrl : Tuned (rightCtrl speedPeriodMs) := by
  constructor <;> norm_num [rightCtrl, initPidController, pidController, speedPeriodMs]

/-- Every controller with such gains has anti-windup, the two of the speed control among them. -/
theorem pid_antiWindup : (∀ inst, Tuned inst → AntiWindup inst) ∧
    AntiWindup (leftCtrl speedPeriodMs) ∧ AntiWindup (rightCtrl speedPeriodMs) :=
  ⟨fun _ tuned => antiWindup_of_tuned tuned, antiWindup_of_tuned tuned_leftCtrl,
    antiWindup_of_tuned tuned_rightCtrl⟩

end Robofw.Model.Speed
