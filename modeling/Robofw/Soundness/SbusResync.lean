import Robofw.Soundness.SbusStream

/-! # SBUS resynchronisation

A block with a bad end byte is discarded whole, never rescanned, so a decoder that starts inside a
frame can stay locked to a header-like payload byte. Two copies of a frame bring its message back
after any garbage exactly when every header byte of the frame starts a period of it; for any other
frame no number of copies does. That a rotation with the same message is the frame itself rests on the
message determining every payload byte.
-/

namespace Robofw.Model

open Robofw.Core

private theorem masked_toNat (value : ℕ) :
    (UInt16.ofNat (value &&& 0x07FF)).toNat = value % 2 ^ 11 := by
  have mask : (0x07FF : ℕ) = 2 ^ 11 - 1 := rfl
  rw [mask, Nat.and_two_pow_sub_one_eq_mod, UInt16.toNat_ofNat']
  exact Nat.mod_eq_of_lt ((Nat.mod_lt _ (by decide)).trans (by decide))

private theorem shifted_lt {low : UInt8} {right left : ℕ} (sum : right + left = 8) :
    low.toNat / 2 ^ right < 2 ^ left := by
  rw [Nat.div_lt_iff_lt_mul (Nat.two_pow_pos right), ← Nat.pow_add, Nat.add_comm left, sum]
  exact low.toNat_lt

private theorem or_shiftLeft {low left : ℕ} (small : low < 2 ^ left) (high : ℕ) :
    low ||| high <<< left = low + high * 2 ^ left := by
  rw [Nat.or_comm, ← Nat.shiftLeft_add_eq_or_of_lt small, Nat.shiftLeft_eq, Nat.add_comm]

private theorem channel2_toNat {low high : UInt8} {right left : ℕ} (sum : right + left = 8) :
    (channel2 low high right left).toNat =
      (low.toNat / 2 ^ right + high.toNat * 2 ^ left) % 2 ^ 11 := by
  rw [channel2, masked_toNat, Nat.shiftRight_eq_div_pow, or_shiftLeft (shifted_lt sum)]

private theorem channel3_toNat {low middle high : UInt8} {right left : ℕ} (sum : right + left = 8) :
    (channel3 low middle high right left (left + 8)).toNat =
      (low.toNat / 2 ^ right + (middle.toNat + high.toNat * 2 ^ 8) * 2 ^ left) % 2 ^ 11 := by
  have small : low.toNat / 2 ^ right < 2 ^ left := shifted_lt sum
  have power : 2 ^ (left + 8) = 2 ^ left * 256 := Nat.pow_add 2 left 8
  have wide : low.toNat / 2 ^ right + middle.toNat * 2 ^ left < 2 ^ (left + 8) := by
    have byte := middle.toNat_lt
    have product : middle.toNat * 2 ^ left ≤ 255 * 2 ^ left := Nat.mul_le_mul_right _ (by omega)
    omega
  rw [channel3, masked_toNat, Nat.shiftRight_eq_div_pow, or_shiftLeft small, or_shiftLeft wide, power]
  congr 1
  ring

/-- Numbers joined at `left` and masked determine their low parts, and their high parts up to the
mask. -/
private theorem joined_inj {low low' high high' left bits : ℕ} (small : low < 2 ^ left)
    (small' : low' < 2 ^ left) (bound : left ≤ bits)
    (same : (low + high * 2 ^ left) % 2 ^ bits = (low' + high' * 2 ^ left) % 2 ^ bits) :
    low = low' ∧ high % 2 ^ (bits - left) = high' % 2 ^ (bits - left) := by
  have split : 2 ^ bits = 2 ^ left * 2 ^ (bits - left) := by
    rw [← Nat.pow_add, Nat.add_sub_cancel' bound]
  have parts (x y : ℕ) (less : x < 2 ^ left) :
      (x + y * 2 ^ left) % 2 ^ bits = x + 2 ^ left * (y % 2 ^ (bits - left)) := by
    rw [split, Nat.mod_mul, Nat.add_mul_mod_self_right, Nat.mod_eq_of_lt less,
      Nat.add_mul_div_right _ _ (Nat.two_pow_pos left), Nat.div_eq_of_lt less, Nat.zero_add]
  rw [parts _ _ small, parts _ _ small'] at same
  have low_eq := congrArg (· % 2 ^ left) same
  simp only [Nat.add_mul_mod_self_left, Nat.mod_eq_of_lt small, Nat.mod_eq_of_lt small'] at low_eq
  subst low_eq
  exact ⟨rfl, Nat.eq_of_mul_eq_mul_left (Nat.two_pow_pos left) (Nat.add_left_cancel same)⟩

/-- A two-byte channel determines the bits it takes from each byte. -/
private theorem channel2_inj {low low' high high' : UInt8} {right left : ℕ} (sum : right + left = 8)
    (same : channel2 low high right left = channel2 low' high' right left) :
    low.toNat / 2 ^ right = low'.toNat / 2 ^ right ∧
      high.toNat % 2 ^ (11 - left) = high'.toNat % 2 ^ (11 - left) := by
  have value := congrArg UInt16.toNat same
  rw [channel2_toNat sum, channel2_toNat sum] at value
  exact joined_inj (shifted_lt sum) (shifted_lt sum) (by omega) value

/-- A three-byte channel determines the bits it takes from the outer bytes, and the middle byte. -/
private theorem channel3_inj {low low' middle middle' high high' : UInt8} {right left : ℕ}
    (sum : right + left = 8) (less : left ≤ 3)
    (same : channel3 low middle high right left (left + 8) =
      channel3 low' middle' high' right left (left + 8)) :
    low.toNat / 2 ^ right = low'.toNat / 2 ^ right ∧ middle = middle' ∧
      high.toNat % 2 ^ (11 - left - 8) = high'.toNat % 2 ^ (11 - left - 8) := by
  have value := congrArg UInt16.toNat same
  rw [channel3_toNat sum, channel3_toNat sum] at value
  obtain ⟨first, rest⟩ := joined_inj (shifted_lt sum) (shifted_lt sum) (by omega) value
  obtain ⟨second, third⟩ := joined_inj middle.toNat_lt middle'.toNat_lt (by omega) rest
  exact ⟨first, UInt8.toNat_inj.mp second, third⟩

/-- A byte from its high and its low bits. -/
private theorem byte_eq {byte byte' : UInt8} (bits : ℕ)
    (high : byte.toNat / 2 ^ bits = byte'.toNat / 2 ^ bits)
    (low : byte.toNat % 2 ^ bits = byte'.toNat % 2 ^ bits) : byte = byte' := by
  rw [← UInt8.toNat_inj, ← Nat.div_add_mod byte.toNat (2 ^ bits), high, low, Nat.div_add_mod]

/-- Eight channels determine the eleven bytes they are packed in. -/
private theorem bytes_eq {f g : ℕ → UInt8}
    (c0 : channel2 (f 1) (f 2) 0 8 = channel2 (g 1) (g 2) 0 8)
    (c1 : channel2 (f 2) (f 3) 3 5 = channel2 (g 2) (g 3) 3 5)
    (c2 : channel3 (f 3) (f 4) (f 5) 6 2 10 = channel3 (g 3) (g 4) (g 5) 6 2 10)
    (c3 : channel2 (f 5) (f 6) 1 7 = channel2 (g 5) (g 6) 1 7)
    (c4 : channel2 (f 6) (f 7) 4 4 = channel2 (g 6) (g 7) 4 4)
    (c5 : channel3 (f 7) (f 8) (f 9) 7 1 9 = channel3 (g 7) (g 8) (g 9) 7 1 9)
    (c6 : channel2 (f 9) (f 10) 2 6 = channel2 (g 9) (g 10) 2 6)
    (c7 : channel2 (f 10) (f 11) 5 3 = channel2 (g 10) (g 11) 5 3) :
    ∀ i < 11, f (i + 1) = g (i + 1) := by
  obtain ⟨b1, b2⟩ := channel2_inj (by rfl) c0
  obtain ⟨b2', b3⟩ := channel2_inj (by rfl) c1
  obtain ⟨b3', b4, b5⟩ := channel3_inj (by rfl) (by decide) c2
  obtain ⟨b5', b6⟩ := channel2_inj (by rfl) c3
  obtain ⟨b6', b7⟩ := channel2_inj (by rfl) c4
  obtain ⟨b7', b8, b9⟩ := channel3_inj (by rfl) (by decide) c5
  obtain ⟨b9', b10⟩ := channel2_inj (by rfl) c6
  obtain ⟨b10', b11⟩ := channel2_inj (by rfl) c7
  intro i bound
  match i with
  | 0 => exact byte_eq 0 b1 (by simp [Nat.mod_one])
  | 1 => exact byte_eq 3 b2' b2
  | 2 => exact byte_eq 6 b3' b3
  | 3 => exact b4
  | 4 => exact byte_eq 1 b5' b5
  | 5 => exact byte_eq 4 b6' b6
  | 6 => exact byte_eq 7 b7' b7
  | 7 => exact b8
  | 8 => exact byte_eq 2 b9' b9
  | 9 => exact byte_eq 5 b10' b10
  | 10 =>
    refine byte_eq 8 ?_ b11
    rw [Nat.div_eq_of_lt (f 11).toNat_lt, Nat.div_eq_of_lt (g 11).toNat_lt]

/-- The message of a frame determines its payload. -/
theorem payload_eq {f g : SbusBytes} (same : sbusBuildMessage f = sbusBuildMessage g) (i : Fin 25)
    (inside : 1 ≤ i.val ∧ i.val ≤ 22) : f.get i = g.get i := by
  have channel (k : Fin 18) : (sbusBuildMessage f).channels.get k = (sbusBuildMessage g).channels.get k :=
    same ▸ rfl
  have first := bytes_eq (f := fun i => f.get (Fin.ofNat 25 i)) (g := fun i => g.get (Fin.ofNat 25 i))
    (channel 0) (channel 1) (channel 2) (channel 3) (channel 4) (channel 5) (channel 6) (channel 7)
  have second := bytes_eq (f := fun i => f.get (Fin.ofNat 25 (i + 11)))
    (g := fun i => g.get (Fin.ofNat 25 (i + 11)))
    (channel 8) (channel 9) (channel 10) (channel 11) (channel 12) (channel 13) (channel 14) (channel 15)
  have index (n : ℕ) (eq : i.val = n) : i = Fin.ofNat 25 n := by
    apply Fin.ext
    rw [Fin.val_ofNat, ← eq, Nat.mod_eq_of_lt i.isLt]
  rcases Nat.lt_or_ge i.val 12 with low | high
  · have read := first (i.val - 1) (by omega)
    rw [index (i.val - 1 + 1) (by omega)]
    exact read
  · have read := second (i.val - 12) (by omega)
    rw [index (i.val - 12 + 1 + 11) (by omega)]
    exact read

/-- A valid frame: 25 bytes, the first the header and the last the tail. -/
structure SbusFrame where
  bytes : SbusBytes
  head : bytes.get 0 = sbusFrameHead
  tail : bytes.get 24 = sbusFrameTail

namespace SbusFrame

/-- Whatever an initialised decoder holds and is fed first, this many copies of the frame make it emit
the frame's message. -/
def EmittedWithin (copies : ℕ) (frame : SbusFrame) : Prop :=
  ∀ inst sbusMsg garbage, ∃ calls,
    decodeCalls (sbusDecoderInit inst) sbusMsg (garbage ++ repeated copies frame.bytes) = some calls ∧
      sbusBuildMessage frame.bytes ∈ emitted calls

/-- The frame's message is emitted from some block that ends with the tail. -/
theorem mem_emitted_iff (frame : SbusFrame) (inst : SbusDecoderInstance) (sbusMsg : SbusMessage)
    (stream : List UInt8) :
    (∃ calls, decodeCalls (sbusDecoderInit inst) sbusMsg stream = some calls ∧
      sbusBuildMessage frame.bytes ∈ emitted calls) ↔
    ∃ block ∈ blocks sbusFrameHead 25 stream,
      block.get 24 = sbusFrameTail ∧ sbusBuildMessage block = sbusBuildMessage frame.bytes := by
  obtain ⟨calls, success, decodes⟩ := decodes_init inst sbusMsg stream
  simp only [success, Option.some.injEq, exists_eq_left', decodes.messages, parseSbus,
    List.mem_filterMap, frameMessage, Option.ite_none_right_eq_some]

theorem headed (frame : SbusFrame) : frame.bytes.toList.head? = some sbusFrameHead := by
  rw [List.head?_eq_getElem?, ← frame.head]
  exact toList_getElem? frame.bytes 0

theorem emittedWithin_two {frame : SbusFrame} (locks : Locks sbusFrameHead frame.bytes) :
    frame.EmittedWithin 2 := by
  intro inst sbusMsg garbage
  refine (mem_emitted_iff frame inst sbusMsg _).mpr ⟨frame.bytes, ?_, frame.tail, rfl⟩
  exact mem_blocks_of_locks frame.headed locks garbage

/-- A rotation of a valid frame that is itself valid and has the same message is the frame. -/
theorem rotated_eq_of_message {frame : SbusFrame} {k : ℕ}
    (head : (rotated frame.bytes k).get 0 = sbusFrameHead)
    (tail : (rotated frame.bytes k).get 24 = sbusFrameTail)
    (message : sbusBuildMessage (rotated frame.bytes k) = sbusBuildMessage frame.bytes) :
    rotated frame.bytes k = frame.bytes := by
  refine rotated_eq_of_agree 23 (fun other there => ?_)
  by_cases first : other = 0
  · rw [first, head, frame.head]
  · by_cases last : other = 24
    · rw [last, tail, frame.tail]
    · exact payload_eq message other (by omega)

/-- Garbage that opens a block whose last bytes are the `skipped` first bytes of the frame; its second
byte is not the frame's. -/
def lockingGarbage (frame : SbusFrame) (skipped : ℕ) : List UInt8 :=
  sbusFrameHead :: (frame.bytes.get 1 + 1) :: List.replicate (23 - skipped) 0

/-- After that garbage the decoder reads one spoilt block and then rotations of the frame. -/
theorem blocks_lockingGarbage (frame : SbusFrame) {front back : List UInt8} (copies : ℕ)
    (split : frame.bytes.toList = front ++ sbusFrameHead :: back) (inside : front ≠ [])
    (room : front.length ≤ 23) {block : SbusBytes}
    (member : block ∈ blocks sbusFrameHead 25
      (frame.lockingGarbage front.length ++ repeated copies frame.bytes)) :
    block.get 1 = frame.bytes.get 1 + 1 ∨ block = rotated frame.bytes front.length := by
  have length : (frame.lockingGarbage front.length ++ front).length = 25 := by
    simp [lockingGarbage]
    omega
  cases copies with
  | zero =>
    have positive := List.length_pos_iff.mpr inside
    rw [repeated_zero, List.append_nil, blocks_short (by simp [lockingGarbage]; omega)] at member
    exact absurd member List.not_mem_nil
  | succ copies =>
    have joined : frame.lockingGarbage front.length ++ repeated (copies + 1) frame.bytes =
        (vectorOf _ length).toList ++ (sbusFrameHead :: back ++ repeated copies frame.bytes) := by
      rw [repeated_succ, split, toList_vectorOf]
      simp only [List.append_assoc]
    rw [joined, blocks_append rfl, blocks_drop_repeated split inside, List.mem_cons] at member
    rcases member with rfl | member
    · left
      have read := toList_getElem? (vectorOf _ length) 1
      exact (Option.some.inj read).symm
    · exact .inr (List.eq_of_mem_replicate member)

/-- A frame that does not lock has a header, neither its first byte nor its last, that starts no
period. -/
theorem exists_split_of_not_locks {frame : SbusFrame}
    (unlocked : ¬ Locks sbusFrameHead frame.bytes) :
    ∃ front back, frame.bytes.toList = front ++ sbusFrameHead :: back ∧ front ≠ [] ∧
      front.length ≤ 23 ∧ rotated frame.bytes front.length ≠ frame.bytes := by
  simp only [Locks, not_forall] at unlocked
  obtain ⟨k, bound, start, turned⟩ := unlocked
  have bytes : frame.bytes.toList.length = 25 := Vector.length_toList
  obtain ⟨inside, head⟩ := List.getElem?_eq_some_iff.mp start
  have split : frame.bytes.toList = frame.bytes.toList.take k ++
      sbusFrameHead :: frame.bytes.toList.drop (k + 1) := by
    rw [← head, List.getElem_cons_drop, List.take_append_drop]
  have length : (frame.bytes.toList.take k).length = k := by
    rw [List.length_take, bytes]
    omega
  have first : k ≠ 0 := by
    rintro rfl
    exact turned (vectorOf_eq (List.rotate_zero _))
  have last : k ≠ 24 := by
    rintro rfl
    have read := toList_getElem? frame.bytes 24
    rw [frame.tail] at read
    exact absurd (start.symm.trans read) (by decide)
  refine ⟨_, _, split, List.ne_nil_of_length_pos (by omega), by omega, ?_⟩
  rw [length]
  exact turned

/-- Garbage that leaves the decoder at such a header keeps the frame's message out for ever. -/
theorem not_emittedWithin {frame : SbusFrame} (unlocked : ¬ Locks sbusFrameHead frame.bytes)
    (copies : ℕ) : ¬ frame.EmittedWithin copies := by
  intro within
  obtain ⟨front, back, split, inside, room, turned⟩ := exists_split_of_not_locks unlocked
  obtain ⟨block, member, tail, message⟩ := (mem_emitted_iff frame default default _).mp
    (within default default (frame.lockingGarbage front.length))
  rcases blocks_lockingGarbage frame copies split inside room member with spoilt | rfl
  · have kept := payload_eq message 1 (by decide)
    exact absurd (add_eq_left.mp (spoilt.symm.trans kept)) (by decide)
  · have rotation := toList_rotated split
    have read := toList_getElem? (rotated frame.bytes front.length) 0
    rw [rotation] at read
    exact turned (rotated_eq_of_message (Option.some.inj read).symm tail message)

end SbusFrame

/-- For a frame whose every header byte starts a period of it, two copies bring its message back
whatever came before; for any other frame no number of copies does. -/
theorem emittedWithin_iff_locks (frame : SbusFrame) :
    (Locks sbusFrameHead frame.bytes → frame.EmittedWithin 2) ∧
      (¬ Locks sbusFrameHead frame.bytes → ∀ copies, ¬ frame.EmittedWithin copies) :=
  ⟨SbusFrame.emittedWithin_two, SbusFrame.not_emittedWithin⟩

/-- A valid frame with a header byte in its payload. -/
def maskedFrame : SbusFrame where
  bytes := #v[0x0F, 0x0F, 0, 0, 0, 0, 0, 0, 0, 0, 0, 0, 0, 0, 0, 0, 0, 0, 0, 0, 0, 0, 0, 0, 0]
  head := rfl
  tail := rfl

/-- No bound on the number of copies serves all frames: none serves this one. -/
theorem not_exists_bound : ¬ ∃ copies, ∀ frame : SbusFrame, frame.EmittedWithin copies := by
  rintro ⟨copies, within⟩
  have unlocked : ¬ Locks sbusFrameHead maskedFrame.bytes := by decide
  exact SbusFrame.not_emittedWithin unlocked copies (within maskedFrame)

end Robofw.Model
