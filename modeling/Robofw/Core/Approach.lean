import Mathlib.Algebra.Order.Floor.Div
import Mathlib.Logic.Function.Iterate

/-! # Approaching a target

A step that either arrives or comes closer by at least a fixed rate arrives after as many steps as the
rate fits into the distance, rounded up, and the distance never grows. A step that takes the distance
below a monotone function of it is bounded, after some steps, by as many turns of that function.
-/

namespace Robofw.Core

/-- From every state of the invariant a step arrives or comes closer by the rate. -/
structure Approaches {α : Type*} (step : α → α) (distance : α → ℕ) (rate : ℕ) (invariant : α → Prop) :
    Prop where
  keep : ∀ state, invariant state → invariant (step state)
  closer : ∀ state, invariant state →
    distance (step state) = 0 ∨ distance (step state) + rate ≤ distance state

namespace Approaches

variable {α : Type*} {step : α → α} {distance : α → ℕ} {rate : ℕ} {invariant : α → Prop}

theorem iterate_keep (approaches : Approaches step distance rate invariant) (count : ℕ) {state : α}
    (holds : invariant state) : invariant (step^[count] state) := by
  induction count with
  | zero => exact holds
  | succ count ih =>
    rw [Function.iterate_succ_apply']
    exact approaches.keep _ ih

/-- The distance never grows. -/
theorem iterate_succ_le (approaches : Approaches step distance rate invariant) (count : ℕ) {state : α}
    (holds : invariant state) :
    distance (step^[count + 1] state) ≤ distance (step^[count] state) := by
  rw [Function.iterate_succ_apply']
  rcases approaches.closer _ (approaches.iterate_keep count holds) with arrived | nearer <;> omega

/-- After some steps the rate has been covered that many times, or the target was reached. -/
theorem iterate_le (approaches : Approaches step distance rate invariant) (count : ℕ) {state : α}
    (holds : invariant state) :
    distance (step^[count] state) ≤ distance state - count * rate := by
  induction count with
  | zero => simp only [Function.iterate_zero, id_eq, Nat.zero_mul, Nat.sub_zero, le_refl]
  | succ count ih =>
    rw [Function.iterate_succ_apply', Nat.succ_mul]
    rcases approaches.closer _ (approaches.iterate_keep count holds) with arrived | nearer <;> omega

/-- The target is reached within the distance over the rate, rounded up. -/
theorem reaches (approaches : Approaches step distance rate invariant) (positive : 0 < rate) {state : α}
    (holds : invariant state) : distance (step^[distance state ⌈/⌉ rate] state) = 0 := by
  have covered : distance state ≤ rate * (distance state ⌈/⌉ rate) := le_smul_ceilDiv positive
  have bound := approaches.iterate_le (distance state ⌈/⌉ rate) holds
  rw [Nat.mul_comm] at covered
  omega

end Approaches

/-- From every state of the invariant a step takes the distance below a monotone function of it. -/
structure Contracts {α : Type*} (step : α → α) (distance : α → ℕ) (bound : ℕ → ℕ) (invariant : α → Prop) :
    Prop where
  keep : ∀ state, invariant state → invariant (step state)
  monotone : Monotone bound
  closer : ∀ state, invariant state → distance (step state) ≤ bound (distance state)

/-- After some steps the bound has been applied that many times. -/
theorem Contracts.iterate_le {α : Type*} {step : α → α} {distance : α → ℕ} {bound : ℕ → ℕ}
    {invariant : α → Prop} (contracts : Contracts step distance bound invariant) (count : ℕ) {state : α}
    (holds : invariant state) : distance (step^[count] state) ≤ bound^[count] (distance state) := by
  induction count with
  | zero => exact le_refl _
  | succ count ih =>
    rw [Function.iterate_succ_apply', Function.iterate_succ_apply']
    exact (contracts.closer _ (Function.Iterate.rec invariant holds contracts.keep count)).trans
      (contracts.monotone ih)

end Robofw.Core
