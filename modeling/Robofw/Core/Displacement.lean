import Mathlib

/-! # Displacements read from a wrapping counter

A 16-bit counter shows a position modulo `2 ^ 16`. A short step makes it wrap exactly when its
reading moves against the step. The steps of a window add up to its net displacement; their
magnitudes add up to the distance travelled, and a sign makes one of the other exactly when every
step goes the way of that sign.
-/

namespace Robofw.Core

/-- What a 16-bit counter shows at a position. -/
def reading (position : ℤ) : UInt16 := UInt16.ofInt position

theorem toNat_reading (position : ℤ) : ((reading position).toNat : ℤ) = position % 65536 := by
  have shown : (reading position).toNat = (position % 65536).toNat % 65536 := UInt16.toNat_ofNat'
  omega

/-- A forward step that does not wrap raises the reading by its length, and one that wraps lowers it
by the rest of the range. -/
theorem reading_forward (position : ℤ) {step : ℤ} (forward : 0 ≤ step) (short : step < 65536) :
    ((reading (position + step)).toNat : ℤ) = (reading position).toNat + step ∨
      ((reading (position + step)).toNat : ℤ) + 65536 = (reading position).toNat + step := by
  rw [toNat_reading, toNat_reading]
  omega

/-- The same for a backward step. -/
theorem reading_backward (position : ℤ) {step : ℤ} (backward : step < 0) (short : -65536 < step) :
    ((reading (position + step)).toNat : ℤ) = (reading position).toNat + step ∨
      ((reading (position + step)).toNat : ℤ) = (reading position).toNat + step + 65536 := by
  rw [toNat_reading, toNat_reading]
  omega

/-- The distance travelled in the steps of a window. -/
def distance (steps : List ℤ) : ℕ := (steps.map Int.natAbs).sum

theorem distance_concat (steps : List ℤ) (last : ℤ) :
    distance (steps ++ [last]) = distance steps + last.natAbs := by
  simp only [distance, List.map_append, List.map_cons, List.map_nil, List.sum_append,
    List.sum_singleton]

/-- The distance counted in one direction. -/
def signedDistance (up : Bool) (steps : List ℤ) : ℤ := if up then distance steps else -distance steps

/-- Every step goes up, or stays; or, when not `up`, every step goes down, or stays. -/
def OneWay (up : Bool) (steps : List ℤ) : Prop := ∀ step ∈ steps, if up then 0 ≤ step else step ≤ 0

instance (up : Bool) (steps : List ℤ) : Decidable (OneWay up steps) :=
  match up with
  | true => inferInstanceAs (Decidable (∀ step ∈ steps, 0 ≤ step))
  | false => inferInstanceAs (Decidable (∀ step ∈ steps, step ≤ 0))

theorem distance_ge_sum (steps : List ℤ) : steps.sum ≤ distance steps := by
  induction steps with
  | nil => exact le_refl 0
  | cons step rest ih =>
    simp only [distance, List.map_cons, List.sum_cons] at ih ⊢
    omega

theorem distance_eq_sum_iff (steps : List ℤ) :
    (distance steps : ℤ) = steps.sum ↔ OneWay true steps := by
  induction steps with
  | nil => exact iff_of_true rfl (fun _ absent => absurd absent List.not_mem_nil)
  | cons step rest ih =>
    have bound := distance_ge_sum rest
    have split : (distance (step :: rest) : ℤ) = (step :: rest).sum ↔
        0 ≤ step ∧ (distance rest : ℤ) = rest.sum := by
      simp only [distance, List.map_cons, List.sum_cons] at bound ⊢
      omega
    rw [split, ih]
    simp only [OneWay, if_true, List.forall_mem_cons]

theorem distance_neg (steps : List ℤ) : distance (steps.map (-·)) = distance steps := by
  simp only [distance, List.map_map, Function.comp_def, Int.natAbs_neg]

theorem oneWay_neg (steps : List ℤ) : OneWay true (steps.map (-·)) ↔ OneWay false steps := by
  simp only [OneWay, List.forall_mem_map, if_true, Bool.false_eq_true, if_false, Int.neg_nonneg]

/-- The signed distance is the net displacement exactly when every step goes the way of the sign. -/
theorem signedDistance_eq_sum_iff (up : Bool) (steps : List ℤ) :
    signedDistance up steps = steps.sum ↔ OneWay up steps := by
  cases up with
  | true => exact distance_eq_sum_iff steps
  | false =>
    have mirrored := distance_eq_sum_iff (steps.map (-·))
    rw [distance_neg, oneWay_neg, ← List.sum_neg] at mirrored
    rw [← mirrored]
    simp only [signedDistance, Bool.false_eq_true, if_false]
    omega

end Robofw.Core
