import Robofw.Core.MessageQueue
import Robofw.Model.Interface

/-! # TBot coordinator

`CoordinatorServiceLoop` of `service/robot_tbot/coordinator`, cut at its queue calls: one
definition for each piece of straight-line code between two calls. The saved motions carry the
ghost clock of the message they were copied from. The status LED and its loop counter are left out.
-/

namespace Robofw.Model.Tbot

open Robofw.Core

/-- The ghost clock: coordinator iterations begun, and changes of the control mode. -/
structure Clock where
  iteration : ℕ
  period : ℕ
deriving DecidableEq, Repr

/-- The clock after an RC poll that found the control mode `before` and left it `after`. -/
def Clock.tick (clock : Clock) (before after : RobotControlMode) : Clock :=
  ⟨clock.iteration + 1, if after = before then clock.period else clock.period + 1⟩

/-- A tick starts at most one period. -/
theorem Clock.tick_period (clock : Clock) (before after : RobotControlMode) :
    clock.period ≤ (clock.tick before after).period ∧
      (clock.tick before after).period ≤ clock.period + 1 := by
  unfold Clock.tick
  split <;> simp

@[simp] theorem Clock.tick_iteration (clock : Clock) (before after : RobotControlMode) :
    (clock.tick before after).iteration = clock.iteration + 1 := rfl

@[simp] theorem Clock.tick_same (clock : Clock) (mode : RobotControlMode) :
    (clock.tick mode mode).period = clock.period := if_pos rfl

abbrev TimedMotion := Stamped DesiredMotion Clock

abbrev TimedRcData := Stamped ReceiverData Clock

/-- Where the loop stands: the queue call it makes next. -/
inductive CoordinatorPc where
  | pollRc
  | pollCan
  | pollSup
  | putMotion (purging : Bool)
  | putState (purging : Bool)
deriving DecidableEq, Repr

/-- The local variables of the loop. -/
structure Coordinator where
  pc : CoordinatorPc
  robotState : RobotState
  desiredMotionFromCan : TimedMotion
  desiredMotion : TimedMotion
  rcCounter : ℕ
  canCounter : ℕ
deriving DecidableEq, Repr

def rcTimeoutCount : ℕ := 5
def canTimeoutCount : ℕ := 5

namespace Coordinator

/-- The locals before the first iteration. -/
def initial : Coordinator where
  pc := .pollRc
  robotState := ⟨false, false, .can, kNonSupervised⟩
  desiredMotionFromCan := ⟨.zero, ⟨0, 0⟩⟩
  desiredMotion := ⟨.zero, ⟨0, 0⟩⟩
  rcCounter := 0
  canCounter := 0

/-- `|channels[7]| < FLOAT_VALUE_DELTA`: the mode switch asks for RC control. -/
def selectsRc (data : ReceiverData) : Prop :=
  data.channels.get 7 < floatValueDelta ∧ data.channels.get 7 > -floatValueDelta

instance (data : ReceiverData) : Decidable (selectsRc data) :=
  inferInstanceAs (Decidable (_ ∧ _))

/-- The motion an RC message asks for. -/
def rcMotion (data : ReceiverData) : DesiredMotion := ⟨data.channels.get 2, -data.channels.get 0⟩

/-- The first poll succeeded. -/
def receiveRc (c : Coordinator) (data : TimedRcData) : Coordinator :=
  { c with
    rcCounter := 0
    robotState := { c.robotState with
      rcConnected := true
      controlMode := if selectsRc data.val then .rc else .can
      estopTriggered := decide (data.val.channels.get 6 > 0) }
    desiredMotion := if selectsRc data.val then ⟨rcMotion data.val, data.stamp⟩ else c.desiredMotion }

/-- The first poll found no RC message. -/
def missRc (c : Coordinator) : Coordinator :=
  if c.rcCounter > rcTimeoutCount then
    { c with robotState := { c.robotState with
        rcConnected := false, estopTriggered := false, controlMode := .can } }
  else { c with rcCounter := (c.rcCounter + 1) % 256 }

theorem missRc_of_lt {c : Coordinator} (expired : rcTimeoutCount < c.rcCounter) :
    c.missRc = { c with robotState := { c.robotState with
      rcConnected := false, estopTriggered := false, controlMode := .can } } := if_pos expired

theorem missRc_of_le {c : Coordinator} (running : c.rcCounter ≤ rcTimeoutCount) :
    c.missRc = { c with rcCounter := c.rcCounter + 1 } := by
  have small : (c.rcCounter + 1) % 256 = c.rcCounter + 1 :=
    Nat.mod_eq_of_lt (by simp only [rcTimeoutCount] at running; omega)
  rw [missRc, if_neg (Nat.not_lt.mpr running), small]

/-- The CAN poll succeeded. -/
def receiveCan (c : Coordinator) (motion : TimedMotion) : Coordinator :=
  { c with desiredMotionFromCan := motion, canCounter := 0 }

/-- The CAN poll found no motion message. -/
def missCan (c : Coordinator) : Coordinator :=
  if c.canCounter > canTimeoutCount then
    { c with desiredMotionFromCan := { c.desiredMotionFromCan with val := .zero } }
  else { c with canCounter := (c.canCounter + 1) % 256 }

theorem missCan_of_lt {c : Coordinator} (expired : canTimeoutCount < c.canCounter) :
    c.missCan = { c with desiredMotionFromCan := { c.desiredMotionFromCan with val := .zero } } :=
  if_pos expired

theorem missCan_of_le {c : Coordinator} (running : c.canCounter ≤ canTimeoutCount) :
    c.missCan = { c with canCounter := c.canCounter + 1 } := by
  have small : (c.canCounter + 1) % 256 = c.canCounter + 1 :=
    Nat.mod_eq_of_lt (by simp only [canTimeoutCount] at running; omega)
  rw [missCan, if_neg (Nat.not_lt.mpr running), small]

/-- The end of the CAN branch. -/
def useCan (c : Coordinator) : Coordinator := { c with desiredMotion := c.desiredMotionFromCan }

/-- The supervisor poll succeeded. -/
def receiveSup (c : Coordinator) (mode : SupervisedMode) : Coordinator :=
  { c with robotState := { c.robotState with supMode := mode } }

/-- `if (robot_state.estop_triggered)` before the motion is sent. -/
def applyEstop (c : Coordinator) : Coordinator :=
  if c.robotState.estopTriggered then
    { c with desiredMotion := { c.desiredMotion with val := .zero } }
  else c

/-- After the RC poll: on to the CAN poll in CAN mode, else straight to the supervisor poll. -/
def afterRc (c : Coordinator) : Coordinator :=
  { c with pc := if c.robotState.controlMode = .can then .pollCan else .pollSup }

/-- After the supervisor poll: the motion is sent only when not supervised. -/
def afterSup (c : Coordinator) : Coordinator :=
  if c.robotState.supMode = kNonSupervised then { c.applyEstop with pc := .putMotion false }
  else { c with pc := .putState false }

end Coordinator

end Robofw.Model.Tbot
