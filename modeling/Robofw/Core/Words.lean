import Mathlib

/-! # Words, truncation and clamps

Big-endian assembly of words by shifts and ors, as C code does it, read as the concatenation of their
bytes; division that rounds toward zero; and the clamp by two comparisons.
-/

namespace Robofw.Core

/-- Shortcut instances for literal indices into two and eight slots. -/
instance neZeroTwo : NeZero 2 := ⟨by decide⟩

instance neZeroEight : NeZero 8 := ⟨by decide⟩

/-- The value is one of `int16_t`. -/
def FitsInt16 (value : ℤ) : Prop := -32768 ≤ value ∧ value ≤ 32767

instance (value : ℤ) : Decidable (FitsInt16 value) := inferInstanceAs (Decidable (_ ∧ _))

theorem fitsInt16_toInt (value : Int16) : FitsInt16 value.toInt :=
  ⟨value.le_toInt, Int.lt_add_one_iff.mp value.toInt_lt⟩

/-- Two comparisons hold a value between bounds. -/
theorem ite_clamp {α : Type*} [LinearOrder α] {low high : α} (order : low ≤ high) (value : α) :
    (if (if value > high then high else value) < low then low
      else if value > high then high else value) = min (max value low) high := by
  rcases lt_or_ge high value with large | within
  · have inside : ¬ high < low := not_lt.mpr order
    have above : high ≤ max value low := large.le.trans (le_max_left value low)
    rw [if_pos large, if_neg inside, min_eq_right above]
  · rw [if_neg (not_lt.mpr within)]
    rcases lt_or_ge value low with under | least
    · rw [if_pos under, max_eq_right under.le, min_eq_left order]
    · rw [if_neg (not_lt.mpr least), max_eq_left least, min_eq_left within]

/-- Truncation keeps a rational inside integer bounds. -/
theorem tdiv_bounded {value : ℚ} {low high : ℤ} (above : low ≤ value) (below : value ≤ high) :
    low ≤ value.num.tdiv value.den ∧ value.num.tdiv value.den ≤ high := by
  have positive : (0 : ℤ) < value.den := by exact_mod_cast value.den_pos
  have lower : low * value.den ≤ value.num := by
    rw [← Int.cast_le (R := ℚ), ← Rat.mul_den_eq_num value]
    push_cast
    exact mul_le_mul_of_nonneg_right above (by positivity)
  have upper : value.num ≤ high * value.den := by
    rw [← Int.cast_le (R := ℚ), ← Rat.mul_den_eq_num value]
    push_cast
    exact mul_le_mul_of_nonneg_right below (by positivity)
  have cancel (factor : ℤ) : (factor * value.den).tdiv value.den = factor :=
    Int.mul_tdiv_cancel _ positive.ne'
  exact ⟨cancel low ▸ Int.tdiv_le_tdiv positive lower, cancel high ▸ Int.tdiv_le_tdiv positive upper⟩

/-- Truncation of a fraction is division of its parts, also where they are not in lowest terms. -/
theorem tdiv_fraction (value : ℤ) {scale : ℕ} (positive : 0 < scale) :
    ((value : ℚ) / scale).num.tdiv ((value : ℚ) / scale).den = value.tdiv scale := by
  have nonzero : (scale : ℤ) ≠ 0 := by omega
  obtain ⟨factor, top, bottom⟩ := Rat.exists_eq_mul_div_num_and_eq_mul_div_den value nonzero
  rw [Int.cast_natCast] at top bottom
  have factorPos : 0 < factor := by
    apply pos_of_mul_pos_left _ (Int.natCast_nonneg ((value : ℚ) / scale).den)
    rw [← bottom]
    omega
  have cancel := Int.mul_tdiv_mul_of_pos ((value : ℚ) / scale).num ((value : ℚ) / scale).den factorPos
  rw [← top, ← bottom] at cancel
  exact cancel.symm

/-- Division rounds toward zero from either side. -/
theorem tdiv_cases (value divisor : ℤ) :
    0 ≤ value ∧ value.tdiv divisor = value / divisor ∨
      value < 0 ∧ value.tdiv divisor = -(-value / divisor) := by
  rcases le_or_gt 0 value with nonneg | negative
  · exact Or.inl ⟨nonneg, Int.tdiv_eq_ediv_of_nonneg nonneg⟩
  · refine Or.inr ⟨negative, ?_⟩
    rw [← Int.tdiv_eq_ediv_of_nonneg (neg_nonneg.mpr negative.le), Int.neg_tdiv, neg_neg]

/-- Reading a vector after a write. -/
theorem get_set {α : Type*} {n : ℕ} (v : Vector α n) (i : ℕ) (inside : i < n) (x : α) (j : Fin n) :
    (v.set i x inside).get j = if i = j.val then x else v.get j := Vector.getElem_set ..

/-- Writing a byte at an index into eight slots. -/
def setByte (data : Vector UInt8 8) (i : Fin 8) (byte : UInt8) : Vector UInt8 8 :=
  data.set i.val byte i.isLt

@[simp] theorem get_setByte (data : Vector UInt8 8) (i j : Fin 8) (byte : UInt8) :
    (setByte data i byte).get j = if i = j then byte else data.get j := by
  rw [setByte, get_set]
  simp only [Fin.ext_iff]

/-- `b0 << 24 | b1 << 16 | b2 << 8 | b3` -/
def bigEndian32 (b0 b1 b2 b3 : UInt8) : UInt32 :=
  b0.toUInt32 <<< 24 ||| b1.toUInt32 <<< 16 ||| b2.toUInt32 <<< 8 ||| b3.toUInt32

theorem toBitVec_bigEndian32 (b0 b1 b2 b3 : UInt8) : (bigEndian32 b0 b1 b2 b3).toBitVec =
    b0.toBitVec ++ b1.toBitVec ++ b2.toBitVec ++ b3.toBitVec := by
  apply BitVec.eq_of_getLsbD_eq
  intro i bound
  simp only [bigEndian32, UInt32.toBitVec_or, UInt32.toBitVec_shiftLeft, UInt8.toBitVec_toUInt32,
    BitVec.getLsbD_or, BitVec.getLsbD_append]
  simp only [BitVec.shiftLeft_eq', BitVec.getLsbD_shiftLeft, BitVec.getLsbD_setWidth,
    show (UInt32.toBitVec 24 % 32).toNat = 24 from rfl,
    show (UInt32.toBitVec 16 % 32).toNat = 16 from rfl,
    show (UInt32.toBitVec 8 % 32).toNat = 8 from rfl]
  grind

/-- A word is assembled again from its masked bytes. -/
theorem bigEndian32_bytes (word : UInt32) :
    bigEndian32 ((word &&& 0xff000000) >>> 24).toUInt8 ((word &&& 0x00ff0000) >>> 16).toUInt8
      ((word &&& 0x0000ff00) >>> 8).toUInt8 (word &&& 0x000000ff).toUInt8 = word := by
  rw [← UInt32.toBitVec_inj, toBitVec_bigEndian32]
  apply BitVec.eq_of_getLsbD_eq
  intro i bound
  simp only [UInt32.toBitVec_toUInt8, UInt32.toBitVec_shiftRight, UInt32.toBitVec_and,
    BitVec.getLsbD_append, BitVec.getLsbD_setWidth, BitVec.ushiftRight_eq',
    BitVec.getLsbD_ushiftRight, BitVec.getLsbD_and,
    show (UInt32.toBitVec 24 % 32).toNat = 24 from rfl,
    show (UInt32.toBitVec 16 % 32).toNat = 16 from rfl,
    show (UInt32.toBitVec 8 % 32).toNat = 8 from rfl]
  interval_cases i <;> simp

/-- Narrowing to 16 bits keeps the two low bytes. -/
theorem toInt16_bigEndian32 (b0 b1 b2 b3 : UInt8) :
    (bigEndian32 b0 b1 b2 b3).toInt32.toInt16.toBitVec = b2.toBitVec ++ b3.toBitVec := by
  rw [Int32.toBitVec_toInt16, UInt32.toBitVec_toInt32,
    BitVec.signExtend_eq_setWidth_of_le _ (by decide), toBitVec_bigEndian32]
  apply BitVec.eq_of_getLsbD_eq
  intro i bound
  rw [BitVec.getLsbD_setWidth, BitVec.getLsbD_append]
  grind

theorem append_inj {n m : ℕ} {high high' : BitVec n} {low low' : BitVec m} :
    high ++ low = high' ++ low' ↔ high = high' ∧ low = low' := by
  constructor
  · intro same
    have left := congrArg (BitVec.extractLsb' m n) same
    have right := congrArg (BitVec.extractLsb' 0 m) same
    rw [BitVec.extractLsb'_append_eq_left, BitVec.extractLsb'_append_eq_left] at left
    rw [BitVec.extractLsb'_append_eq_right, BitVec.extractLsb'_append_eq_right] at right
    exact ⟨left, right⟩
  · rintro ⟨rfl, rfl⟩
    rfl

/-- Words are equal exactly when their bytes are. -/
theorem bigEndian32_inj {a0 a1 a2 a3 b0 b1 b2 b3 : UInt8} :
    bigEndian32 a0 a1 a2 a3 = bigEndian32 b0 b1 b2 b3 ↔ a0 = b0 ∧ a1 = b1 ∧ a2 = b2 ∧ a3 = b3 := by
  rw [← UInt32.toBitVec_inj, toBitVec_bigEndian32, toBitVec_bigEndian32, append_inj, append_inj,
    append_inj, UInt8.toBitVec_inj, UInt8.toBitVec_inj, UInt8.toBitVec_inj, UInt8.toBitVec_inj,
    and_assoc, and_assoc]

/-- Bytes read as a big-endian two's-complement number. -/
def twosComplement (bytes : List UInt8) : ℤ :=
  Int.bmod (Nat.ofDigits 256 (bytes.reverse.map UInt8.toNat) : ℕ) (256 ^ bytes.length)

theorem toNat_append {n : ℕ} (high : BitVec n) (low : BitVec 8) :
    (high ++ low).toNat = low.toNat + 256 * high.toNat := by
  rw [BitVec.toNat_append, ← Nat.shiftLeft_add_eq_or_of_lt low.isLt, Nat.shiftLeft_eq]
  omega

/-- Four bytes are read as the word they make. -/
theorem twosComplement_four (b0 b1 b2 b3 : UInt8) :
    twosComplement [b0, b1, b2, b3] = (bigEndian32 b0 b1 b2 b3).toInt32.toInt := by
  have word : (bigEndian32 b0 b1 b2 b3).toBitVec.toNat =
      Nat.ofDigits 256 [b3.toNat, b2.toNat, b1.toNat, b0.toNat] := by
    rw [toBitVec_bigEndian32]
    simp [toNat_append, Nat.ofDigits_cons]
  change _ = (bigEndian32 b0 b1 b2 b3).toBitVec.toInt
  rw [BitVec.toInt_eq_toNat_bmod, word]
  simp [twosComplement]

/-- A half word is assembled again from its masked bytes. -/
theorem bigEndian16_bytes (word : UInt16) :
    ((word &&& 0xff00) >>> 8).toUInt8.toBitVec ++ (word &&& 0x00ff).toUInt8.toBitVec = word.toBitVec := by
  apply BitVec.eq_of_getLsbD_eq
  intro i bound
  simp only [UInt16.toBitVec_toUInt8, UInt16.toBitVec_shiftRight, UInt16.toBitVec_and,
    BitVec.getLsbD_append, BitVec.getLsbD_setWidth, BitVec.ushiftRight_eq',
    BitVec.getLsbD_ushiftRight, BitVec.getLsbD_and,
    show (UInt16.toBitVec 8 % 16).toNat = 8 from rfl]
  interval_cases i <;> simp

/-- The masked bytes of a half word are read as its value. -/
theorem twosComplement_halfWord (word : UInt16) :
    twosComplement [((word &&& 0xff00) >>> 8).toUInt8, (word &&& 0x00ff).toUInt8] =
      word.toInt16.toInt := by
  have half : word.toBitVec.toNat = Nat.ofDigits 256
      [(word &&& 0x00ff).toUInt8.toNat, ((word &&& 0xff00) >>> 8).toUInt8.toNat] := by
    rw [← bigEndian16_bytes word, toNat_append]
    simp [Nat.ofDigits_cons]
  change _ = word.toBitVec.toInt
  rw [BitVec.toInt_eq_toNat_bmod, half]
  simp [twosComplement]

theorem toInt32_inj {left right : UInt32} : left.toInt32 = right.toInt32 ↔ left = right :=
  ⟨fun same => by simpa using congrArg Int32.toUInt32 same, fun same => same ▸ rfl⟩

theorem toInt8_inj {left right : UInt8} : left.toInt8 = right.toInt8 ↔ left = right :=
  ⟨fun same => by simpa using congrArg Int8.toUInt8 same, fun same => same ▸ rfl⟩

theorem append_eq_zero_iff {high low : BitVec 8} : high ++ low = 0#16 ↔ high = 0#8 ∧ low = 0#8 :=
  @append_inj 8 8 high 0#8 low 0#8

/-- A word narrows to zero exactly when its two low bytes are zero. -/
theorem toInt16_bigEndian32_eq_zero_iff {b0 b1 b2 b3 : UInt8} :
    (bigEndian32 b0 b1 b2 b3).toInt32.toInt16 = 0 ↔ b2 = 0 ∧ b3 = 0 := by
  rw [← Int16.toBitVec_inj, toInt16_bigEndian32, ← UInt8.toBitVec_inj, ← UInt8.toBitVec_inj]
  exact append_eq_zero_iff

/-- A byte read as a signed number is zero exactly when the byte is. -/
theorem toInt8_toInt_eq_zero_iff {byte : UInt8} : byte.toInt8.toInt = 0 ↔ byte = 0 := by
  constructor
  · intro zero
    have narrow : byte.toInt8 = 0 := Int8.toInt_inj.mp zero
    exact UInt8.toBitVec_inj.mp (congrArg Int8.toBitVec narrow)
  · rintro rfl
    rfl

end Robofw.Core
