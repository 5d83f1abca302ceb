import Robofw.Core.Approach
import Robofw.Model.MotionControl

/-! # The motion limiter

`applyMotionLimit` in integer arithmetic, the rate limit over whole runs, and the convergence to a
fixed target. Two things break its law: nothing limits a start from standstill, and the difference is
narrowed to 16 bits before it is compared.
-/

namespace Robofw.Model.Motion

open Robofw.Core

/-- Narrowing to `int16_t`. -/
def narrow (value : ℤ) : ℤ := value.bmod 65536

/-- `applyMotionLimit` over the integers. -/
def limited (accel decel prev value : ℤ) : ℤ :=
  let diff := narrow (value - prev)
  if 0 < prev ∧ accel < diff then narrow (prev + accel)
  else if prev < 0 ∧ diff < -accel then narrow (prev - accel)
  else if prev < 0 ∧ decel < diff then narrow (prev + decel)
  else if 0 < prev ∧ diff < -decel then narrow (prev - decel)
  else value

theorem toInt_applyMotionLimit (limit : MotionLimit) (prev value : Int16) :
    (applyMotionLimit limit prev value).toInt =
      limited limit.accel.toInt limit.decel.toInt prev.toInt value.toInt := by
  simp only [applyMotionLimit, limited, narrow, gt_iff_lt, Int16.lt_iff_toInt_lt,
    apply_ite Int16.toInt, Int16.toInt_add, Int16.toInt_sub, Int16.toInt_zero, Nat.reducePow]
  congr

/-- The five ways through the limiter, by the narrowed difference. -/
inductive LimitCase (accel decel prev diff value : ℤ) : ℤ → Prop
  | accelUp : 0 < prev → accel < diff → LimitCase accel decel prev diff value (narrow (prev + accel))
  | accelDown : prev < 0 → diff < -accel →
      LimitCase accel decel prev diff value (narrow (prev - accel))
  | decelUp : prev < 0 → -accel ≤ diff → decel < diff →
      LimitCase accel decel prev diff value (narrow (prev + decel))
  | decelDown : 0 < prev → diff ≤ accel → diff < -decel →
      LimitCase accel decel prev diff value (narrow (prev - decel))
  | target : (0 < prev → diff ≤ accel ∧ -decel ≤ diff) → (prev < 0 → -accel ≤ diff ∧ diff ≤ decel) →
      LimitCase accel decel prev diff value value

theorem limited_cases (accel decel prev value : ℤ) :
    LimitCase accel decel prev (narrow (value - prev)) value (limited accel decel prev value) := by
  simp only [limited]
  split_ifs with accelUp accelDown decelUp decelDown
  · exact .accelUp accelUp.1 accelUp.2
  · exact .accelDown accelDown.1 accelDown.2
  · exact .decelUp decelUp.1 (by omega) decelUp.2
  · exact .decelDown decelDown.1 (by omega) decelDown.2
  · exact .target (by omega) (by omega)

/-- A narrowed sum or difference of two values wraps at most once. -/
theorem narrow_cases {value : ℤ} (low : -98304 ≤ value) (high : value ≤ 98303) :
    ((-32768 ≤ value ∧ value ≤ 32767) ∧ narrow value = value) ∨
      (value < -32768 ∧ narrow value = value + 65536) ∨
      (32767 < value ∧ narrow value = value - 65536) := by
  rw [narrow, Int.bmod_def]
  omega

/-- Published speeds differ by at most 8, and by at most 3 when the speed grows in its direction or
from standstill. -/
@[mk_iff] structure Gradual (prev next : ℤ) : Prop where
  within : |next - prev| ≤ 8
  growing : (0 ≤ prev ∧ prev < next) ∨ (prev ≤ 0 ∧ next < prev) → |next - prev| ≤ 3

/-- The target may be limited from the previous speed: from standstill it is at most 3 away, and at the
ends of the range the difference fits 16 bits. -/
@[mk_iff] structure Limitable (prev value : ℤ) : Prop where
  standstill : prev = 0 → |value| ≤ 3
  top : 32764 < prev → -32768 ≤ value - prev
  bottom : prev < -32765 → value - prev ≤ 32767

/-- The limiter's step is gradual exactly when the target is limitable. -/
theorem gradual_limited_iff {prev value : ℤ} (prevFits : FitsInt16 prev) (valueFits : FitsInt16 value) :
    Gradual prev (limited 3 8 prev value) ↔ Limitable prev value := by
  unfold FitsInt16 at prevFits valueFits
  have diff := @narrow_cases (value - prev) (by omega) (by omega)
  have way := limited_cases 3 8 prev value
  generalize limited 3 8 prev value = next at way
  generalize narrow (value - prev) = wrapped at diff way
  rw [gradual_iff, limitable_iff, abs_le, abs_le, abs_le]
  cases way with
  | accelUp up above =>
    have sum := @narrow_cases (prev + 3) (by omega) (by omega)
    omega
  | accelDown down below =>
    have sum := @narrow_cases (prev - 3) (by omega) (by omega)
    omega
  | decelUp down notBelow above =>
    have sum := @narrow_cases (prev + 8) (by omega) (by omega)
    omega
  | decelDown up notAbove below =>
    have sum := @narrow_cases (prev - 8) (by omega) (by omega)
    omega
  | target up down => omega

/-- In a run on these messages, consecutive published speeds of each wheel are gradual. -/
def RateLimited (messages : List FittingMotion) : Prop :=
  ∀ step ∈ machine.steps messages, ∀ rpm ∈ (machine.step step.1 step.2).2,
    Gradual step.1.left.toInt rpm.left.toInt ∧ Gradual step.1.right.toInt rpm.right.toInt

/-- The published speeds obey the rate limit exactly when every wheel target is limitable from the
speed published before. -/
theorem rateLimited_iff (messages : List FittingMotion) :
    RateLimited messages ↔ ∀ step ∈ machine.steps messages,
      Limitable step.1.left.toInt step.2.target.left.toInt ∧
        Limitable step.1.right.toInt step.2.target.right.toInt := by
  have wheel (prev value : Int16) : Gradual prev.toInt (applyMotionLimit rpmLimit prev value).toInt ↔
      Limitable prev.toInt value.toInt := by
    rw [toInt_applyMotionLimit]
    exact gradual_limited_iff (fitsInt16_toInt prev) (fitsInt16_toInt value)
  apply forall₂_congr
  intro step member
  simp only [machine, motionStep, List.mem_singleton, forall_eq, wheel]

/-- A command of 1 m/s: 507 rpm for each wheel. -/
def forward : FittingMotion := ⟨⟨1, 0⟩, ⟨507, -507⟩, by decide +kernel⟩

/-- From standstill it is published at once. -/
theorem forward_not_limited : ¬ RateLimited [forward] := by
  intro limited
  obtain ⟨left, -⟩ := limited _ (List.mem_singleton_self _) _ (List.mem_singleton_self _)
  exact absurd left.within (by decide +kernel)

/-- The limiter moves towards the value without passing it, and reaches it within the distance over the
smaller rate, rounded up. -/
structure Converges (limit : MotionLimit) (prev value : Int16) : Prop where
  between : min prev.toInt value.toInt ≤ (applyMotionLimit limit prev value).toInt ∧
    (applyMotionLimit limit prev value).toInt ≤ max prev.toInt value.toInt
  reaches : ∃ count ≤ (value.toInt - prev.toInt).natAbs ⌈/⌉ (min limit.accel.toInt limit.decel.toInt).toNat,
    (applyMotionLimit limit · value)^[count] prev = value
  closer : ∀ count, |value.toInt - ((applyMotionLimit limit · value)^[count + 1] prev).toInt| ≤
    |value.toInt - ((applyMotionLimit limit · value)^[count] prev).toInt|

/-- The difference fits 16 bits, or wraps to one that the limiter lets pass. -/
def Measurable (accel prev value : ℤ) : Prop :=
  FitsInt16 (value - prev) ∨ 65536 - accel ≤ |value - prev|

section Convergence

variable {accel decel prev value : ℤ} (accelRange : 0 < accel ∧ accel ≤ 100)
  (decelRange : 0 < decel ∧ decel ≤ 100) (prevFits : FitsInt16 prev) (valueFits : FitsInt16 value)

include accelRange decelRange prevFits valueFits

/-- From a measurable difference the limiter arrives, or comes closer by one of its rates without
passing the value. -/
theorem limited_of_measurable (measurable : Measurable accel prev value) :
    limited accel decel prev value = value ∨
      (min prev value ≤ limited accel decel prev value ∧
        limited accel decel prev value ≤ max prev value ∧
        FitsInt16 (value - limited accel decel prev value) ∧
        |value - limited accel decel prev value| + min accel decel ≤ |value - prev|) := by
  unfold Measurable FitsInt16 at *
  have diff := @narrow_cases (value - prev) (by omega) (by omega)
  have way := limited_cases accel decel prev value
  generalize limited accel decel prev value = next at way
  generalize narrow (value - prev) = wrapped at diff way
  simp only [Int.abs_eq_natAbs] at measurable ⊢
  cases way with
  | accelUp up above =>
    have sum := @narrow_cases (prev + accel) (by omega) (by omega)
    omega
  | accelDown down below =>
    have sum := @narrow_cases (prev - accel) (by omega) (by omega)
    omega
  | decelUp down notBelow above =>
    have sum := @narrow_cases (prev + decel) (by omega) (by omega)
    omega
  | decelDown up notAbove below =>
    have sum := @narrow_cases (prev - decel) (by omega) (by omega)
    omega
  | target up down => exact .inl rfl

omit decelRange in
/-- From any other difference it moves away. -/
theorem not_between_of_not_measurable (wrapped : ¬ Measurable accel prev value) :
    ¬ (min prev value ≤ limited accel decel prev value ∧
      limited accel decel prev value ≤ max prev value) := by
  unfold Measurable FitsInt16 at *
  have diff := @narrow_cases (value - prev) (by omega) (by omega)
  have way := limited_cases accel decel prev value
  generalize limited accel decel prev value = next at way
  generalize narrow (value - prev) = wrappedDiff at diff way
  simp only [Int.abs_eq_natAbs] at wrapped
  cases way with
  | accelUp up above =>
    have sum := @narrow_cases (prev + accel) (by omega) (by omega)
    omega
  | accelDown down below =>
    have sum := @narrow_cases (prev - accel) (by omega) (by omega)
    omega
  | decelUp down notBelow above => omega
  | decelDown up notAbove below => omega
  | target up down => omega

end Convergence

section Limiter

variable {limit : MotionLimit} (value : Int16) (accelRange : 0 < limit.accel.toInt ∧ limit.accel.toInt ≤ 100)
  (decelRange : 0 < limit.decel.toInt ∧ limit.decel.toInt ≤ 100)

include accelRange decelRange

/-- Limiting towards a fixed value approaches it at the smaller rate. -/
theorem approaches_value : Approaches (applyMotionLimit limit · value)
    (fun prev : Int16 => (value.toInt - prev.toInt).natAbs)
    (min limit.accel.toInt limit.decel.toInt).toNat
    (fun prev => Measurable limit.accel.toInt prev.toInt value.toInt) := by
  have step (prev : Int16) := @limited_of_measurable limit.accel.toInt limit.decel.toInt prev.toInt
    value.toInt accelRange decelRange (fitsInt16_toInt prev) (fitsInt16_toInt value)
  constructor
  · intro prev measurable
    rw [toInt_applyMotionLimit]
    rcases step prev measurable with arrived | ⟨-, -, fits, -⟩
    · rw [arrived]
      exact .inl (by unfold FitsInt16; omega)
    · exact .inl fits
  · intro prev measurable
    rw [toInt_applyMotionLimit]
    rcases step prev measurable with arrived | ⟨-, -, -, nearer⟩
    · exact .inl (by rw [arrived, sub_self, Int.natAbs_zero])
    · simp only [Int.abs_eq_natAbs] at nearer
      exact .inr (by omega)

/-- The limiter converges exactly when the difference fits 16 bits, or exceeds them by so much that the
wrapped difference is at most the acceleration. -/
theorem converges_iff (prev : Int16) : Converges limit prev value ↔
    FitsInt16 (value.toInt - prev.toInt) ∨
      65536 - limit.accel.toInt ≤ |value.toInt - prev.toInt| := by
  have prevFits := fitsInt16_toInt prev
  have valueFits := fitsInt16_toInt value
  constructor
  · rintro ⟨between, -, -⟩
    by_contra wrapped
    rw [toInt_applyMotionLimit] at between
    exact not_between_of_not_measurable accelRange prevFits valueFits wrapped between
  · intro measurable
    have approaches := approaches_value value accelRange decelRange
    refine ⟨?_, ⟨_, le_refl _, ?_⟩, fun count => ?_⟩
    · rw [toInt_applyMotionLimit]
      rcases limited_of_measurable accelRange decelRange prevFits valueFits measurable with
        arrived | ⟨low, high, -⟩
      · rw [arrived]
        exact ⟨min_le_right _ _, le_max_right _ _⟩
      · exact ⟨low, high⟩
    · have arrived := approaches.reaches (by omega) measurable
      exact Int16.toInt_inj.mp (by omega)
    · simp only [Int.abs_eq_natAbs]
      exact Int.ofNat_le.mpr (approaches.iterate_succ_le count measurable)

end Limiter

/-- A stop commanded at 100 rpm, with the limits of the service. -/
theorem stop_converges : Converges rpmLimit 100 0 :=
  (@converges_iff rpmLimit 0 (by decide) (by decide) 100).mpr (.inl ⟨by decide, by decide⟩)

/-- A stop commanded at the least speed goes to the other end of the range. -/
theorem stop_not_converges : ¬ Converges rpmLimit (-32768) 0 :=
  fun converges => absurd converges.between.2 (by decide)

end Robofw.Model.Motion
