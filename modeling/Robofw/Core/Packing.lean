import Mathlib

/-! # Packed fields

Values of one width laid side by side, least significant first, in one number. The number does not
remember the width it was packed with: fields of another width that straddle two or three of the
packed ones are shifts and ors of these.
-/

namespace Robofw.Core

/-- The values side by side, the first one lowest. -/
def pack (width : ℕ) {n : ℕ} (values : Fin n → ℕ) : ℕ := Nat.ofDigits (2 ^ width) (List.ofFn values)

/-- The field of a width at an index. -/
def field (width value index : ℕ) : ℕ := (value >>> (width * index)) % 2 ^ width

theorem field_lt (width value index : ℕ) : field width value index < 2 ^ width :=
  Nat.mod_lt _ (by positivity)

theorem testBit_field (width value index bit : ℕ) :
    (field width value index).testBit bit = (decide (bit < width) && value.testBit (width * index + bit)) := by
  rw [field, Nat.testBit_mod_two_pow, Nat.testBit_shiftRight]

theorem field_succ (width value index : ℕ) :
    field width value (index + 1) = field width (value / 2 ^ width) index := by
  rw [field, field, Nat.mul_succ, Nat.add_comm, Nat.shiftRight_add, Nat.shiftRight_eq_div_pow value]

theorem pack_succ (width : ℕ) {n : ℕ} (values : Fin (n + 1) → ℕ) :
    pack width values = values 0 + 2 ^ width * pack width fun index => values index.succ := by
  rw [pack, List.ofFn_succ, Nat.ofDigits_cons]
  rfl

theorem pack_lt {width n : ℕ} {values : Fin n → ℕ} (fit : ∀ index, values index < 2 ^ width) :
    pack width values < 2 ^ (width * n) := by
  induction n with
  | zero => simp [pack]
  | succ n ih =>
    have tail := ih fun index => fit index.succ
    have bound := Nat.mul_le_mul_left (2 ^ width) (Nat.succ_le_of_lt tail)
    have head := fit 0
    rw [pack_succ, Nat.mul_succ, Nat.pow_add, Nat.mul_comm (2 ^ (width * n))]
    rw [Nat.mul_succ] at bound
    omega

/-- Values that fit their width are read back from the packing. -/
theorem field_pack {width n : ℕ} {values : Fin n → ℕ} (fit : ∀ index, values index < 2 ^ width)
    (index : Fin n) : field width (pack width values) index.val = values index := by
  induction n with
  | zero => exact index.elim0
  | succ n ih =>
    have positive : 0 < 2 ^ width := by positivity
    rw [pack_succ]
    induction index using Fin.cases with
    | zero =>
      rw [Fin.val_zero, field, Nat.mul_zero, Nat.shiftRight_zero, Nat.add_mul_mod_self_left]
      exact Nat.mod_eq_of_lt (fit 0)
    | succ index =>
      rw [Fin.val_succ, field_succ, Nat.add_mul_div_left _ _ positive, Nat.div_eq_of_lt (fit 0),
        Nat.zero_add]
      exact ih (fun i => fit i.succ) index

/-- A number is the packing of its fields. -/
theorem pack_field {width n value : ℕ} (fits : value < 2 ^ (width * n)) :
    pack width (fun index : Fin n => field width value index.val) = value := by
  induction n generalizing value with
  | zero =>
    rw [Nat.mul_zero, Nat.pow_zero, Nat.lt_one_iff] at fits
    simp [pack, fits]
  | succ n ih =>
    have quotient : value / 2 ^ width < 2 ^ (width * n) := by
      apply Nat.div_lt_of_lt_mul
      rwa [← Nat.pow_add, Nat.add_comm, ← Nat.mul_succ]
    simp only [pack_succ, Fin.val_succ, field_succ, ih quotient]
    rw [Fin.val_zero, field, Nat.mul_zero, Nat.shiftRight_zero]
    exact Nat.mod_add_div value (2 ^ width)

section

variable {width : ℕ} (value index : ℕ) {right : ℕ}

theorem testBit_field_shiftRight (bit : ℕ) : (field width value index >>> right).testBit bit =
    (decide (right + bit < width) && value.testBit (width * index + right + bit)) := by
  rw [Nat.testBit_shiftRight, testBit_field, Nat.add_assoc]

/-- A later field, moved left by the distance of its first bit, has its bits where the value has them. -/
theorem testBit_field_shiftLeft {count shift : ℕ} (aligned : right + shift = width * count) (bit : ℕ) :
    (field width value (index + count) <<< shift).testBit bit =
      (decide (shift ≤ bit ∧ bit < shift + width) && value.testBit (width * index + right + bit)) := by
  rw [Nat.testBit_shiftLeft, testBit_field, ← Bool.and_assoc, ← Bool.decide_and]
  by_cases above : shift ≤ bit
  · have position : width * (index + count) + (bit - shift) = width * index + right + bit := by
      rw [Nat.mul_add, ← aligned]
      omega
    have inside : bit - shift < width ↔ bit < shift + width := by omega
    rw [position, decide_eq_decide.mpr (and_congr_right fun _ => inside)]
  · rw [decide_eq_false fun both => above both.1, decide_eq_false fun both => above both.1,
      Bool.false_and, Bool.false_and]

/-- A window over two neighbouring fields. -/
theorem window_two {length left : ℕ} (aligned : right + left = width) (inside : length ≤ width + left) :
    (field width value index >>> right ||| field width value (index + 1) <<< left) % 2 ^ length =
      (value >>> (width * index + right)) % 2 ^ length := by
  apply Nat.eq_of_testBit_eq
  intro bit
  have second : right + left = width * 1 := by omega
  rw [Nat.testBit_mod_two_pow, Nat.testBit_mod_two_pow, Nat.testBit_or, testBit_field_shiftRight,
    testBit_field_shiftLeft value index second, Nat.testBit_shiftRight, ← Bool.and_or_distrib_right,
    ← Bool.and_assoc, ← Bool.decide_or, ← Bool.decide_and]
  have covered : bit < length ∧ (right + bit < width ∨ left ≤ bit ∧ bit < left + width) ↔ bit < length := by
    omega
  rw [decide_eq_decide.mpr covered]

/-- A window over three neighbouring fields. -/
theorem window_three {length left leftHigh : ℕ} (aligned : right + left = width)
    (next : leftHigh = width + left) (inside : length ≤ width + leftHigh) :
    (field width value index >>> right ||| field width value (index + 1) <<< left |||
        field width value (index + 2) <<< leftHigh) % 2 ^ length =
      (value >>> (width * index + right)) % 2 ^ length := by
  apply Nat.eq_of_testBit_eq
  intro bit
  have second : right + left = width * 1 := by omega
  have third : right + leftHigh = width * 2 := by omega
  rw [Nat.testBit_mod_two_pow, Nat.testBit_mod_two_pow, Nat.testBit_or, Nat.testBit_or,
    testBit_field_shiftRight, testBit_field_shiftLeft value index second,
    testBit_field_shiftLeft value index third, Nat.testBit_shiftRight, ← Bool.and_or_distrib_right,
    ← Bool.and_or_distrib_right, ← Bool.and_assoc, ← Bool.decide_or, ← Bool.decide_or, ← Bool.decide_and]
  have covered : bit < length ∧ ((right + bit < width ∨ left ≤ bit ∧ bit < left + width) ∨
      leftHigh ≤ bit ∧ bit < leftHigh + width) ↔ bit < length := by
    omega
  rw [decide_eq_decide.mpr covered]

end

end Robofw.Core
