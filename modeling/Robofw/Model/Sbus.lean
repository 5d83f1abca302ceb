import Mathlib
import Robofw.Core.Framing

/-! # SBUS decoder

`module/sbus/src/sbus.c`: the byte-at-a-time decoder, the unpacking of a frame, and the validation of
a message. C `int` arithmetic on bytes stays far below `2 ^ 31` here and is done in `ℕ`. A write to
the frame buffer outside its 25 bytes is undefined in C; `store` has no result then.
-/

namespace Robofw.Model

/-- `SbusDecodeState` -/
inductive SbusDecodeState where
  | waitForSof
  | waitForPayload
  | waitForEof
deriving DecidableEq, Inhabited, Repr

/-- `SBUS_FRAME_HEAD` -/
def sbusFrameHead : UInt8 := 0x0F

/-- `SBUS_FRAME_TAIL` -/
def sbusFrameTail : UInt8 := 0x00

/-- The bytes of a frame: `SBUS_FRAME_LENGTH` of them. -/
abbrev SbusBytes := Vector UInt8 25

/-- Shortcut instance for literal indices into a frame. -/
instance neZeroSbusBytes : NeZero 25 := ⟨by decide⟩

/-- `SbusDecodeBuffer`, the only member of a `SbusDecoderInstance`. -/
structure SbusDecoderInstance where
  decodeState : SbusDecodeState
  data : SbusBytes
  indexer : ℕ
deriving DecidableEq, Inhabited

structure SbusMessage where
  channels : Vector UInt16 18
  frameLoss : Bool
  faultProtection : Bool
deriving DecidableEq, Inhabited

/-- A channel that spans two bytes. -/
def channel2 (low high : UInt8) (right left : ℕ) : UInt16 :=
  UInt16.ofNat ((low.toNat >>> right ||| high.toNat <<< left) &&& 0x07FF)

/-- A channel that spans three bytes. -/
def channel3 (low middle high : UInt8) (right left leftHigh : ℕ) : UInt16 :=
  UInt16.ofNat ((low.toNat >>> right ||| middle.toNat <<< left ||| high.toNat <<< leftHigh) &&& 0x07FF)

/-- `SbusBuildMessage`: it writes every field of the message. -/
def sbusBuildMessage (frame : SbusBytes) : SbusMessage :=
  let byte := frame.get
  { channels := #v[
      channel2 (byte 1) (byte 2) 0 8,
      channel2 (byte 2) (byte 3) 3 5,
      channel3 (byte 3) (byte 4) (byte 5) 6 2 10,
      channel2 (byte 5) (byte 6) 1 7,
      channel2 (byte 6) (byte 7) 4 4,
      channel3 (byte 7) (byte 8) (byte 9) 7 1 9,
      channel2 (byte 9) (byte 10) 2 6,
      channel2 (byte 10) (byte 11) 5 3,
      channel2 (byte 12) (byte 13) 0 8,
      channel2 (byte 13) (byte 14) 3 5,
      channel3 (byte 14) (byte 15) (byte 16) 6 2 10,
      channel2 (byte 16) (byte 17) 1 7,
      channel2 (byte 17) (byte 18) 4 4,
      channel3 (byte 18) (byte 19) (byte 20) 7 1 9,
      channel2 (byte 20) (byte 21) 2 6,
      channel2 (byte 21) (byte 22) 5 3,
      (byte 23 &&& 0x80).toUInt16,
      (byte 23 &&& 0x40).toUInt16]
    frameLoss := byte 23 &&& 0x20 != 0
    faultProtection := byte 23 &&& 0x10 != 0 }

/-- `SbusDecoderInit`: only the state is set. -/
def sbusDecoderInit (inst : SbusDecoderInstance) : SbusDecoderInstance :=
  { inst with decodeState := .waitForSof }

/-- `data[++indexer] = ch`; there is no result when the write is out of bounds. -/
def SbusDecoderInstance.store (inst : SbusDecoderInstance) (ch : UInt8) :
    Option SbusDecoderInstance :=
  if inside : inst.indexer + 1 < 25 then
    some { inst with indexer := inst.indexer + 1, data := inst.data.set (inst.indexer + 1) ch inside }
  else none

/-- `SbusDecodeMessage`: the decoder and the output message after one byte, and the value returned. -/
def sbusDecodeMessage (inst : SbusDecoderInstance) (ch : UInt8) (sbusMsg : SbusMessage) :
    Option (SbusDecoderInstance × SbusMessage × Bool) :=
  match inst.decodeState with
  | .waitForSof =>
    let cleared : SbusBytes := Vector.replicate 25 0
    if ch = sbusFrameHead then some (⟨.waitForPayload, cleared.set 0 ch, 0⟩, sbusMsg, false)
    else some (⟨.waitForSof, cleared, 0⟩, sbusMsg, false)
  | .waitForPayload =>
    (inst.store ch).map fun stored =>
      let next := if stored.indexer = 25 - 2 then .waitForEof else .waitForPayload
      ({ stored with decodeState := next }, sbusMsg, false)
  | .waitForEof =>
    if ch = sbusFrameTail then
      (inst.store ch).map fun stored =>
        ({ stored with decodeState := .waitForSof }, sbusBuildMessage stored.data, true)
    else some ({ inst with decodeState := .waitForSof }, sbusMsg, false)

/-- The loop of `ValidateSbusMessage` from a channel on: more than 4 zero channels are rejected. -/
def fewZeros (zeroNum : ℕ) : List UInt16 → Bool
  | [] => true
  | channel :: rest =>
    let zeroNum := if channel = 0 then zeroNum + 1 else zeroNum
    if zeroNum > 4 then false else fewZeros zeroNum rest

/-- `ValidateSbusMessage` -/
def validateSbusMessage (sbusMsg : SbusMessage) : Bool :=
  if sbusMsg.faultProtection || sbusMsg.frameLoss then false
  else fewZeros 0 (sbusMsg.channels.toList.take 8)

end Robofw.Model
