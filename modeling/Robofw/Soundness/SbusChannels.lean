import Mathlib
import Robofw.Core.Packing
import Robofw.Model.Sbus

/-! # SBUS channels

Bytes 1 to 22 of a frame are one little-endian number of 176 bits, and the sixteen shift expressions
of `SbusBuildMessage` are its sixteen fields of 11 bits. Packing and unpacking are inverse to each
other because both readings of the number determine it.
-/

namespace Robofw.Model

open Robofw.Core

/-- Bytes 1 to 22 of a frame as one little-endian number. -/
def payload (frame : SbusBytes) : ℕ :=
  pack 8 fun k : Fin 22 => (frame.get ⟨k.val + 1, by omega⟩).toNat

/-- The sixteen channels that `SbusBuildMessage` reads from the payload. -/
def unpackChannels (frame : SbusBytes) (i : Fin 16) : ℕ :=
  ((sbusBuildMessage frame).channels.get (i.castLE (by decide))).toNat

/-- Sixteen channels of 11 bits, least significant bit first, in bytes 1 to 22 of a frame. -/
def packChannels (channels : Fin 16 → ℕ) (frame : SbusBytes) : SbusBytes :=
  Vector.ofFn fun j => if 1 ≤ j.val ∧ j.val ≤ 22 then UInt8.ofNat (field 8 (pack 11 channels) (j.val - 1))
    else frame.get j

theorem field_payload (frame : SbusBytes) (k : ℕ) (inside : k < 22) :
    field 8 (payload frame) k = (frame.get ⟨k + 1, by omega⟩).toNat :=
  field_pack (fun index => (frame.get ⟨index.val + 1, by omega⟩).toNat_lt) ⟨k, inside⟩

theorem payload_lt (frame : SbusBytes) : payload frame < 2 ^ 176 :=
  pack_lt (n := 22) fun index => (frame.get ⟨index.val + 1, by omega⟩).toNat_lt

private theorem toNat_masked (value : ℕ) :
    (UInt16.ofNat (value &&& 0x07FF)).toNat = value % 2 ^ 11 := by
  have mask := Nat.and_two_pow_sub_one_eq_mod value 11
  have bound := Nat.mod_lt value (show 0 < 2 ^ 11 by decide)
  rw [show (0x07FF : ℕ) = 2 ^ 11 - 1 from rfl, mask, UInt16.toNat_ofNat']
  exact Nat.mod_eq_of_lt (bound.trans (by decide))

/-- A channel over two bytes is a window of the payload. -/
theorem channel2_payload (frame : SbusBytes) (k : ℕ) {right left : ℕ} (inside : k + 1 < 22)
    (aligned : right + left = 8) (short : 3 ≤ left) :
    (channel2 (frame.get ⟨k + 1, by omega⟩) (frame.get ⟨k + 2, by omega⟩) right left).toNat =
      (payload frame >>> (8 * k + right)) % 2 ^ 11 := by
  rw [channel2, toNat_masked, ← field_payload frame k (by omega), ← field_payload frame (k + 1) inside]
  exact window_two (payload frame) k aligned (by omega)

/-- A channel over three bytes is a window of the payload. -/
theorem channel3_payload (frame : SbusBytes) (k : ℕ) {right left leftHigh : ℕ} (inside : k + 2 < 22)
    (aligned : right + left = 8) (next : leftHigh = 8 + left) :
    (channel3 (frame.get ⟨k + 1, by omega⟩) (frame.get ⟨k + 2, by omega⟩)
        (frame.get ⟨k + 3, by omega⟩) right left leftHigh).toNat =
      (payload frame >>> (8 * k + right)) % 2 ^ 11 := by
  rw [channel3, toNat_masked, ← field_payload frame k (by omega),
    ← field_payload frame (k + 1) (by omega), ← field_payload frame (k + 2) inside]
  exact window_three (payload frame) k aligned next (by omega)

/-- The sixteen expressions tile the payload: eleven bits each, in order. -/
theorem unpackChannels_eq_field (frame : SbusBytes) (i : Fin 16) :
    unpackChannels frame i = field 11 (payload frame) i.val := by
  fin_cases i
  · exact channel2_payload frame 0 (by decide) rfl (by decide)
  · exact channel2_payload frame 1 (by decide) rfl (by decide)
  · exact channel3_payload frame 2 (by decide) rfl rfl
  · exact channel2_payload frame 4 (by decide) rfl (by decide)
  · exact channel2_payload frame 5 (by decide) rfl (by decide)
  · exact channel3_payload frame 6 (by decide) rfl rfl
  · exact channel2_payload frame 8 (by decide) rfl (by decide)
  · exact channel2_payload frame 9 (by decide) rfl (by decide)
  · exact channel2_payload frame 11 (by decide) rfl (by decide)
  · exact channel2_payload frame 12 (by decide) rfl (by decide)
  · exact channel3_payload frame 13 (by decide) rfl rfl
  · exact channel2_payload frame 15 (by decide) rfl (by decide)
  · exact channel2_payload frame 16 (by decide) rfl (by decide)
  · exact channel3_payload frame 17 (by decide) rfl rfl
  · exact channel2_payload frame 19 (by decide) rfl (by decide)
  · exact channel2_payload frame 20 (by decide) rfl (by decide)

theorem get_packChannels (channels : Fin 16 → ℕ) (frame : SbusBytes) (j : Fin 25) :
    (packChannels channels frame).get j =
      if 1 ≤ j.val ∧ j.val ≤ 22 then UInt8.ofNat (field 8 (pack 11 channels) (j.val - 1))
      else frame.get j :=
  Vector.get_ofFn _ j

/-- The bytes written hold the packed channels. -/
theorem payload_packChannels {channels : Fin 16 → ℕ} (fit : ∀ i, channels i < 2 ^ 11)
    (frame : SbusBytes) : payload (packChannels channels frame) = pack 11 channels := by
  have bytes : (fun k : Fin 22 => ((packChannels channels frame).get ⟨k.val + 1, by omega⟩).toNat) =
      fun k : Fin 22 => field 8 (pack 11 channels) k.val := by
    funext k
    have bound := field_lt 8 (pack 11 channels) k.val
    rw [get_packChannels, if_pos ⟨Nat.le_add_left 1 k.val, k.isLt⟩, UInt8.toNat_ofNat']
    exact Nat.mod_eq_of_lt bound
  rw [payload, bytes]
  exact pack_field (pack_lt fit)

/-- The channels of a frame pack to its payload. -/
theorem pack_unpackChannels (frame : SbusBytes) : pack 11 (unpackChannels frame) = payload frame := by
  rw [show unpackChannels frame = fun i : Fin 16 => field 11 (payload frame) i.val from
    funext (unpackChannels_eq_field frame)]
  exact pack_field (payload_lt frame)

/-- Unpacking is the reading of the payload as one number, it is inverse to packing on sixteen values
below 2048, and packing is inverse to it on every frame. -/
theorem channels_tile_payload :
    (∀ (frame : SbusBytes) (i : Fin 16),
      unpackChannels frame i = (payload frame >>> (11 * i.val)) % 2048) ∧
    (∀ (channels : Fin 16 → ℕ) (frame : SbusBytes), (∀ i, channels i < 2048) →
      unpackChannels (packChannels channels frame) = channels) ∧
    (∀ frame : SbusBytes, packChannels (unpackChannels frame) frame = frame) := by
  refine ⟨unpackChannels_eq_field, ?_, ?_⟩
  · intro channels frame fit
    funext i
    rw [unpackChannels_eq_field, payload_packChannels fit]
    exact field_pack fit i
  · intro frame
    apply Vector.ext
    intro j inside
    have byte := get_packChannels (unpackChannels frame) frame ⟨j, inside⟩
    rw [Vector.get_eq_getElem, pack_unpackChannels] at byte
    rw [byte]
    split
    case isTrue within =>
      have within : 1 ≤ j ∧ j ≤ 22 := within
      simp only [field_payload frame (j - 1) (by omega), UInt8.ofNat_toNat, Nat.sub_add_cancel within.1]
      rfl
    case isFalse => rfl

end Robofw.Model
