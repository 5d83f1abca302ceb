import Robofw.Model.CanFrame

/-! # CAN interface

`ConfigureCan` and `SendCanFrame` of `module/mcal/src/can_interface.c`. The calls of the driver are
arguments. The frame that the sender fills is a local that is not initialised, so the frame it starts
from is an argument too.
-/

namespace Robofw.Model

/-- The members of a `CanDescriptor` that set-up and the sender read. -/
structure CanDescriptor where
  active : Bool
deriving DecidableEq, Repr

/-- `enum can_mode` -/
inductive CanMode where
  | normal
  | silent
  | loopback
  | silentLoopback
deriving DecidableEq, Repr

/-- `struct can_timing` -/
structure CanTiming where
  sjw : UInt16
  propSeg : UInt16
  phaseSeg1 : UInt16
  phaseSeg2 : UInt16
  prescaler : UInt16
deriving DecidableEq, Repr

/-- `struct zcan_filter` -/
structure ZcanFilter where
  id : BitVec 29
  rtr : CanRtr
  idType : CanIdType
  idMask : BitVec 29
  rtrMask : Bool
deriving DecidableEq, Repr

/-- The set-up calls of the driver: `can_calc_timing` with the timing it fills in, `can_set_timing`,
`can_configure` and `can_attach_msgq`. -/
structure CanDriver where
  calcTiming (bitrate : UInt32) (samplePoint : UInt16) : ℤ × CanTiming
  setTiming (timing : CanTiming) : ℤ
  configure (mode : CanMode) (bitrate : UInt32) : ℤ
  attachMsgq (zfilter : ZcanFilter) : ℤ

/-- `CAN_NO_FREE_FILTER` -/
def canNoFreeFilter : ℤ := -1

/-- `CAN_SAMPLING_POINT` -/
def canSamplingPoint : UInt16 := 875

/-- `ConfigureCan` -/
def configureCan (dd : CanDescriptor) (driver : CanDriver) (mode : CanMode) (bitrate : UInt32)
    (zfilter : ZcanFilter) : Bool :=
  if !dd.active then false
  else
    let (ret, timing) := driver.calcTiming bitrate canSamplingPoint
    if ret < 0 then false
    else if driver.setTiming timing ≠ 0 then false
    else if driver.configure mode bitrate ≠ 0 then false
    else if driver.attachMsgq zfilter = canNoFreeFilter then false
    else true

/-- `memcpy(target, source, count)` on the data of a frame. -/
def memcpyData (target source : Vector UInt8 8) (count : ℕ) : Vector UInt8 8 :=
  Vector.ofFn fun i => if i.val < count then source.get i else target.get i

/-- The frame that `SendCanFrame` hands to the driver. -/
def txFrame (scratch : ZcanFrame) (id : UInt32) (isStdId : Bool) (data : Vector UInt8 8)
    (dlc : UInt32) : ZcanFrame :=
  let frame := { scratch with idType := if isStdId then .standard else .extended }
  let frame := frame.setId id
  { frame with
    rtr := .dataFrame
    dlc := dlc.toUInt8
    data := memcpyData frame.data data dlc.toNat }

/-- `SendCanFrame`: the frame that `can_send` was called with, and the value returned. -/
def sendCanFrame (dd : CanDescriptor) (canSend : ZcanFrame → ℤ) (scratch : ZcanFrame) (id : UInt32)
    (isStdId : Bool) (data : Vector UInt8 8) (dlc : UInt32) : Option ZcanFrame × ℤ :=
  if !dd.active then (none, 0)
  else
    let frame := txFrame scratch id isStdId data dlc
    (some frame, canSend frame)

/-- A CAN link is configured when it is active and no call of the driver fails. -/
theorem configureCan_iff {dd : CanDescriptor} {driver : CanDriver} {mode : CanMode} {bitrate : UInt32}
    {zfilter : ZcanFilter} : configureCan dd driver mode bitrate zfilter = true ↔
      dd.active = true ∧ 0 ≤ (driver.calcTiming bitrate canSamplingPoint).1 ∧
        driver.setTiming (driver.calcTiming bitrate canSamplingPoint).2 = 0 ∧
        driver.configure mode bitrate = 0 ∧ driver.attachMsgq zfilter ≠ canNoFreeFilter := by
  unfold configureCan
  cases dd.active <;> simp

@[simp] theorem get_memcpyData (target source : Vector UInt8 8) (count : ℕ) (i : Fin 8) :
    (memcpyData target source count).get i =
      if i.val < count then source.get i else target.get i := by
  simp only [memcpyData, Vector.get_ofFn]

/-- The identifier of a frame fits the field it is copied to. -/
theorem id_txFrame (scratch frame : ZcanFrame) (isStdId : Bool) (data : Vector UInt8 8)
    (dlc : UInt32) : (txFrame scratch frame.id isStdId data dlc).id = frame.id := by
  apply UInt32.toNat_inj.mp
  have stored := ZcanFrame.toNat_id_setId scratch frame.id
  rw [Nat.mod_eq_of_lt frame.id_lt] at stored
  exact stored

/-- What `SendCanFrame` hands to the driver: nothing unless the device is active. -/
theorem sendCanFrame_sent {dd : CanDescriptor} {canSend : ZcanFrame → ℤ} {scratch frame : ZcanFrame}
    {id : UInt32} {isStdId : Bool} {data : Vector UInt8 8} {dlc : UInt32} :
    (sendCanFrame dd canSend scratch id isStdId data dlc).1 = some frame ↔
      dd.active = true ∧ txFrame scratch id isStdId data dlc = frame := by
  unfold sendCanFrame
  cases dd.active <;> simp

end Robofw.Model
