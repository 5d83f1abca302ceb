import Robofw.Core.Words

/-! # CAN frames

`struct zcan_frame` of Zephyr 2.7. The identifier is a 29-bit bit-field: a store keeps the low
29 bits and a read widens them back to 32. Fields that no modelled function reads are left out.
-/

namespace Robofw.Model

/-- `enum can_ide` -/
inductive CanIdType where
  | standard
  | extended
deriving DecidableEq, Repr

/-- `enum can_rtr` -/
inductive CanRtr where
  | dataFrame
  | remoteRequest
deriving DecidableEq, Repr

/-- `struct zcan_frame` -/
structure ZcanFrame where
  idField : BitVec 29
  idType : CanIdType
  rtr : CanRtr
  dlc : UInt8
  data : Vector UInt8 8
deriving DecidableEq

namespace ZcanFrame

/-- Reading `frame->id`. -/
def id (frame : ZcanFrame) : UInt32 := ⟨frame.idField.setWidth 32⟩

/-- Assigning `frame.id`. -/
def setId (frame : ZcanFrame) (value : UInt32) : ZcanFrame :=
  { frame with idField := value.toBitVec.setWidth 29 }

/-- A stored identifier is always below `2 ^ 29`. -/
theorem id_lt (frame : ZcanFrame) : frame.id.toNat < 2 ^ 29 := by
  have bound := frame.idField.isLt
  change (frame.idField.setWidth 32).toNat < 2 ^ 29
  rw [BitVec.toNat_setWidth]
  omega

/-- A store followed by a read keeps the identifier modulo `2 ^ 29`. -/
theorem toNat_id_setId (frame : ZcanFrame) (value : UInt32) :
    (frame.setId value).id.toNat = value.toNat % 2 ^ 29 := by
  change ((value.toBitVec.setWidth 29).setWidth 32).toNat = value.toNat % 2 ^ 29
  rw [BitVec.toNat_setWidth, BitVec.toNat_setWidth, UInt32.toNat_toBitVec]
  omega

end ZcanFrame

end Robofw.Model
