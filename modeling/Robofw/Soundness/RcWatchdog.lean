import Robofw.Core.Watchdog
import Robofw.Model.Rccar
import Robofw.Soundness.TbotSteps

/-! # The RC watchdogs of both coordinators

What a coordinator publishes about the remote control is a function of its RC polls alone: the last
message counts for the iteration that received it and for the six after it, and then the control is
lost. Each coordinator is shown to run a watchdog, poll by poll.
-/

namespace Robofw.Model

open Robofw.Core

/-- The part of the robot state that the RC polls decide. -/
structure RcStatus where
  rcConnected : Bool
  estopTriggered : Bool
  controlMode : RobotControlMode
deriving DecidableEq, Repr

def RobotState.rcStatus (state : RobotState) : RcStatus :=
  ⟨state.rcConnected, state.estopTriggered, state.controlMode⟩

/-- Disconnected, no e-stop, CAN control. -/
def RcStatus.lost : RcStatus := ⟨false, false, .can⟩

/-- The status after these RC polls, newest first: at most six polls may have passed since the last
message, or since the start when there was none. -/
def rcStatusAfter (initial : RcStatus) (decode : ReceiverData → RcStatus)
    (polls : List (Option ReceiverData)) : RcStatus :=
  if Watchdog.silence polls ≤ 6 then (Watchdog.lastHeard polls).elim initial decode else .lost

namespace Tbot

/-- E-stop above zero on channel 6, RC control with channel 7 in its middle position. -/
def rcDecode (data : ReceiverData) : RcStatus :=
  ⟨true, decide (data.channels.get 6 > 0),
    if |data.channels.get 7| < floatValueDelta then .rc else .can⟩

/-- The outcome of the RC poll, when the step is one. -/
def rcPoll? (step : State × Event) : Option (Option ReceiverData) :=
  if step.2 = .coordinator ∧ step.1.coordinator.pc = .pollRc then
    some (step.1.receiverDataQueue.items.head?.map Stamped.val)
  else none

def Coordinator.rcWatchdog (c : Coordinator) : Watchdog RcStatus :=
  ⟨c.rcCounter, c.robotState.rcStatus⟩

private theorem selectsRc_iff {data : ReceiverData} :
    Coordinator.selectsRc data ↔ |data.channels.get 7| < floatValueDelta := by
  rw [abs_lt]
  exact and_comm

theorem rcWatchdog_receiveRc (c : Coordinator) (data : TimedRcData) :
    (c.receiveRc data).rcWatchdog =
      c.rcWatchdog.poll rcTimeoutCount .lost rcDecode (some data.val) := by
  simp only [Coordinator.rcWatchdog, Coordinator.receiveRc, RobotState.rcStatus, Watchdog.poll,
    rcDecode, selectsRc_iff]

theorem rcWatchdog_missRc (c : Coordinator) :
    c.missRc.rcWatchdog = c.rcWatchdog.poll rcTimeoutCount .lost rcDecode none := by
  rcases Nat.lt_or_ge rcTimeoutCount c.rcCounter with expired | running
  · rw [Coordinator.missRc_of_lt expired, Coordinator.rcWatchdog, Coordinator.rcWatchdog,
      Watchdog.poll_none_of_lt expired]
    rfl
  · rw [Coordinator.missRc_of_le running, Coordinator.rcWatchdog, Coordinator.rcWatchdog,
      Watchdog.poll_none_of_le running]

/-- Past the RC poll an iteration does not touch the watchdog. -/
theorem Coordinator.Next.rcWatchdog {c next : Coordinator} (step : c.Next next)
    (later : c.pc ≠ .pollRc) : next.rcWatchdog = c.rcWatchdog := by
  cases step with
  | receiveRc data at_pc => exact absurd at_pc later
  | missRc at_pc => exact absurd at_pc later
  | missCan =>
    change Watchdog.mk c.missCan.rcCounter c.missCan.robotState.rcStatus = _
    rw [rcCounter_missCan, robotState_missCan]
    rfl
  | receiveSup mode =>
    rw [Coordinator.rcWatchdog, rcCounter_afterSup, robotState_afterSup]
    rfl
  | missSup => rw [Coordinator.rcWatchdog, rcCounter_afterSup, robotState_afterSup, Coordinator.rcWatchdog]
  | _ => rfl

/-- A step moves the watchdog by the RC poll it makes. -/
theorem rcWatchdog_step (s : State) (event : Event) :
    (step s event).1.coordinator.rcWatchdog =
      (rcPoll? (s, event)).elim s.coordinator.rcWatchdog
        (s.coordinator.rcWatchdog.poll rcTimeoutCount .lost rcDecode) := by
  by_cases polls : event = .coordinator ∧ s.coordinator.pc = .pollRc
  · obtain ⟨rfl, at_pc⟩ := polls
    rw [rcPoll?, if_pos ⟨rfl, at_pc⟩, Option.elim_some]
    have move : CoordinatorMove s (step s .coordinator).1 := coordinatorStep_move s
    generalize (step s .coordinator).1 = next at move
    cases move with
    | receiveRc data queue _ items => rw [items]; exact rcWatchdog_receiveRc _ data
    | missRc _ items => rw [items]; exact rcWatchdog_missRc _
    | receiveCan _ _ elsewhere => exact absurd (at_pc.symm.trans elsewhere) (by simp)
    | missCan elsewhere => exact absurd (at_pc.symm.trans elsewhere) (by simp)
    | later _ _ _ _ _ settles => exact absurd at_pc settles.source.1
  · rw [rcPoll?, if_neg polls, Option.elim_none]
    rcases step_coordinator s event with same | ⟨own, next⟩
    · rw [same]
    · exact next.rcWatchdog (fun at_pc => polls ⟨own, at_pc⟩)

/-- In every run the coordinator holds the watchdog of its RC polls. -/
theorem rcWatchdog_run (events : List Event) : (machine.run events).coordinator.rcWatchdog =
    Watchdog.after rcTimeoutCount .lost .lost rcDecode
      (Watchdog.polls rcPoll? (machine.steps events)) :=
  Watchdog.tracked_run (m := machine) (fun s => s.coordinator.rcWatchdog) rfl rcWatchdog_step events

end Tbot

namespace Rccar

/-- The status before the first iteration: disconnected, stopped, RC control. -/
def initialStatus : RcStatus := ⟨false, true, .rc⟩

/-- E-stop unless channel 5 is above zero, RC control with channel 6 below `-0.5`. -/
def rcDecode (data : ReceiverData) : RcStatus :=
  ⟨true, !decide (data.channels.get 5 > 0), if data.channels.get 6 < -1 / 2 then .rc else .can⟩

/-- The outcome of the RC poll, when the step is one. -/
def rcPoll? (step : State × Event) : Option (Option ReceiverData) :=
  if step.2 = .coordinator ∧ step.1.coordinator.pc = .pollRc then
    some step.1.receiverDataQueue.items.head?
  else none

def Coordinator.rcWatchdog (c : Coordinator) : Watchdog RcStatus :=
  ⟨c.rcCounter, c.robotState.rcStatus⟩

theorem rcWatchdog_receiveRc (c : Coordinator) (data : ReceiverData) (iteration : ℕ) :
    (c.receiveRc data iteration).rcWatchdog =
      c.rcWatchdog.poll rcTimeoutCount .lost rcDecode (some data) := rfl

theorem rcWatchdog_missRc (c : Coordinator) :
    c.missRc.rcWatchdog = c.rcWatchdog.poll rcTimeoutCount .lost rcDecode none := by
  rcases Nat.lt_or_ge rcTimeoutCount c.rcCounter with expired | running
  · rw [Coordinator.missRc, if_pos expired, Coordinator.rcWatchdog, Coordinator.rcWatchdog,
      Watchdog.poll_none_of_lt expired]
    rfl
  · have small : (c.rcCounter + 1) % 256 = c.rcCounter + 1 :=
      Nat.mod_eq_of_lt (by simp only [rcTimeoutCount] at running; omega)
    rw [Coordinator.missRc, if_neg (Nat.not_lt.mpr running), small, Coordinator.rcWatchdog,
      Coordinator.rcWatchdog, Watchdog.poll_none_of_le running]

/-- A coordinator step moves the watchdog by the RC poll it makes. -/
theorem rcWatchdog_coordinatorStep (s : State) : (coordinatorStep s).coordinator.rcWatchdog =
    (rcPoll? (s, .coordinator)).elim s.coordinator.rcWatchdog
      (s.coordinator.rcWatchdog.poll rcTimeoutCount .lost rcDecode) := by
  simp only [coordinatorStep, rcPoll?, true_and]
  cases at_pc : s.coordinator.pc with
  | pollRc =>
    simp only [if_true, Option.elim_some]
    split
    case h_1 data queue taken =>
      rw [MessageQueue.get_eq_some taken]
      exact rcWatchdog_receiveRc s.coordinator data (s.iteration + 1)
    case h_2 taken =>
      rw [MessageQueue.get_eq_none_iff.mp taken]
      exact rcWatchdog_missRc s.coordinator
  | putMotion purging =>
    simp only [reduceCtorEq, if_false, Option.elim_none]
    split <;> rfl
  | putState purging =>
    simp only [reduceCtorEq, if_false, Option.elim_none]
    split <;> rfl

/-- A step moves the watchdog by the RC poll it makes. -/
theorem rcWatchdog_step (s : State) (event : Event) :
    (step s event).1.coordinator.rcWatchdog =
      (rcPoll? (s, event)).elim s.coordinator.rcWatchdog
        (s.coordinator.rcWatchdog.poll rcTimeoutCount .lost rcDecode) := by
  cases event with
  | coordinator => exact rcWatchdog_coordinatorStep s
  | rcMessage data => simp only [step]; split <;> rfl
  | receiver => simp only [step, receiverStep]; split <;> [rfl; (split <;> rfl)]
  | messengerTx => simp only [step, messengerTxStep]; split <;> split <;> rfl

/-- In every run the coordinator holds the watchdog of its RC polls. -/
theorem rcWatchdog_run (events : List Event) : (machine.run events).coordinator.rcWatchdog =
    Watchdog.after rcTimeoutCount initialStatus .lost rcDecode
      (Watchdog.polls rcPoll? (machine.steps events)) :=
  Watchdog.tracked_run (m := machine) (fun s => s.coordinator.rcWatchdog) rfl rcWatchdog_step events

end Rccar

end Robofw.Model
