import Robofw.Soundness.RcDeadline
import Robofw.Soundness.TbotCommand
import Robofw.Soundness.TbotSilence

/-! # When the TBot stops on link loss

The coordinator loses the remote control first and falls back on the CAN bus, whose watchdog then lets a few
more of its polls pass. A bounded number of calls that hear nothing at either poll leaves it in CAN control
with no motion to send but the zero motion.
-/

namespace Robofw.Model.Tbot

open Robofw.Core
open Robofw.Model.TbotActuators (Pins TbotActuatorConf)

/-- The step is no RC poll and no CAN poll that finds a message. -/
def Quiet (s : System) (event : SystemEvent) : Prop :=
  event = .coordinator → (rcPoll? (s.services, .coordinator)).join = none ∧
    (canPoll? (s.services, .coordinator)).join = none

instance (s : System) (event : SystemEvent) : Decidable (Quiet s event) :=
  inferInstanceAs (Decidable (_ → _))

/-- In CAN control, the motion about to be put is zero, and what the next CAN poll leaves is. -/
structure Coordinator.Stopped (c : Coordinator) : Prop where
  controlMode : c.robotState.controlMode = .can
  saved : c.desiredMotionFromCan.val = .zero ∨ canTimeoutCount < c.canCounter
  sending : c.sending = []

theorem sending_eq_nil {c : Coordinator} : c.sending = [] ↔
    ((c.pc = .pollSup ∨ ∃ purging, c.pc = .putMotion purging) → c.desiredMotion.val = .zero) := by
  unfold Coordinator.sending
  cases c.pc <;> simp

/-- What a call of the coordinator does that hears nothing. -/
inductive Coordinator.QuietMove (c : Coordinator) : Coordinator → Prop
  | missRc : c.pc = .pollRc → QuietMove c c.missRc.afterRc
  | missCan : c.pc = .pollCan → QuietMove c { c.missCan.useCan with pc := .pollSup }
  | later (next : Coordinator) : c.Settles next → QuietMove c next

theorem quietMove_coordinator {s : System} (quiet : Quiet s .coordinator) :
    s.services.coordinator.QuietMove (s.servicesStep .coordinator).1.services.coordinator := by
  obtain ⟨rc, can⟩ := quiet rfl
  have move := coordinatorStep_move s.services
  change s.services.coordinator.QuietMove (coordinatorStep s.services).1.coordinator
  generalize (coordinatorStep s.services).1 = next at move
  cases move with
  | receiveRc data queue at_pc items =>
    rw [rcPoll?, if_pos ⟨rfl, at_pc⟩, items] at rc
    contradiction
  | receiveCan motion queue at_pc items =>
    rw [canPoll?, if_pos ⟨rfl, at_pc⟩, items] at can
    contradiction
  | missRc at_pc => exact .missRc at_pc
  | missCan at_pc => exact .missCan at_pc
  | later _ _ _ _ _ settles => exact .later _ settles

/-- A missed RC poll does not leave CAN control. -/
theorem controlMode_missRc {c : Coordinator} (mode : c.robotState.controlMode = .can) :
    c.missRc.robotState.controlMode = .can := by
  rcases Nat.lt_or_ge rcTimeoutCount c.rcCounter with expired | running
  · rw [Coordinator.missRc_of_lt expired]
  · rw [Coordinator.missRc_of_le running]
    exact mode

/-- Silence gives a stopped coordinator nothing to send. -/
theorem Coordinator.Stopped.quiet {c next : Coordinator} (stopped : c.Stopped) (move : c.QuietMove next) :
    next.Stopped := by
  obtain ⟨mode, saved, sending⟩ := stopped
  cases move with
  | missRc at_pc =>
    have can : c.missRc.robotState.controlMode = .can := controlMode_missRc mode
    refine ⟨can, ?_, ?_⟩
    · change c.missRc.desiredMotionFromCan.val = .zero ∨ canTimeoutCount < c.missRc.canCounter
      rw [desiredMotionFromCan_missRc, canCounter_missRc]
      exact saved
    · refine sending_eq_nil.mpr fun puts => ?_
      rw [Coordinator.afterRc, if_pos can] at puts
      simp at puts
  | missCan at_pc =>
    have zero : c.missCan.desiredMotionFromCan.val = .zero := by
      rcases Nat.lt_or_ge canTimeoutCount c.canCounter with expired | running
      · rw [Coordinator.missCan_of_lt expired]
      · rw [Coordinator.missCan_of_le running]
        exact saved.resolve_right (Nat.not_lt.mpr running)
    refine ⟨?_, .inl zero, sending_eq_nil.mpr fun _ => zero⟩
    exact (congrArg RobotState.controlMode (robotState_missCan c)).trans mode
  | later _ settles =>
    refine ⟨settles.controlMode.trans mode, ?_, ?_⟩
    · rw [settles.desiredMotionFromCan, settles.canCounter]
      exact saved
    · refine sending_eq_nil.mpr fun puts => ?_
      rcases settles.desiredMotion with zero | same
      · exact zero
      · obtain ⟨purging, put⟩ := puts.resolve_left settles.pc.2
        rw [same]
        exact sending_eq_nil.mp sending (settles.putMotion purging put)

/-! ## The calls up to the stop -/

/-- The calls before the next CAN poll in CAN control. -/
def System.callsToCanPoll (s : System) : ℕ :=
  if s.services.coordinator.pc = .pollCan then 0 else s.callsToPoll + 1

/-- The calls up to the put of the motion that the coordinator is about to put. -/
def System.callsToPut (s : System) : ℕ :=
  match s.services.coordinator.pc with
  | .pollSup | .putMotion _ => s.callsToPoll - 3
  | _ => 0

/-- The calls that a CAN watchdog with this count lets pass from a CAN poll on: an iteration for each poll,
and after the last that counts the supervisor poll and the put of its motion. -/
def callsOfCan (canCounter : ℕ) : ℕ :=
  if canTimeoutCount < canCounter then 0 else 9 * (canTimeoutCount - canCounter) + 5

/-- The calls of the coordinator that silence takes to stop the robot, at most. -/
def callsToStop (s : System) : ℕ :=
  match s.services.coordinator.robotState.controlMode with
  | .rc => s.callsToPoll + 8 * (rcTimeoutCount + 1 - s.services.coordinator.rcCounter) + 1 +
      callsOfCan s.services.coordinator.canCounter
  | .can =>
    if canTimeoutCount < s.services.coordinator.canCounter then s.callsToPut
    else s.callsToCanPoll + callsOfCan s.services.coordinator.canCounter

theorem callsOfCan_of_le {canCounter : ℕ} (running : canCounter ≤ canTimeoutCount) :
    callsOfCan canCounter = 9 * (canTimeoutCount - canCounter) + 5 := if_neg (Nat.not_lt.mpr running)

theorem callsOfCan_le (canCounter : ℕ) : callsOfCan canCounter ≤ 50 := by
  unfold callsOfCan canTimeoutCount
  split <;> omega

theorem callsToStop_rc {s : System} (mode : s.services.coordinator.robotState.controlMode = .rc) :
    callsToStop s = s.callsToPoll + 8 * (rcTimeoutCount + 1 - s.services.coordinator.rcCounter) + 1 +
      callsOfCan s.services.coordinator.canCounter := by
  rw [callsToStop, mode]

theorem callsToStop_put {s : System} (mode : s.services.coordinator.robotState.controlMode = .can)
    (expired : canTimeoutCount < s.services.coordinator.canCounter) : callsToStop s = s.callsToPut := by
  rw [callsToStop, mode]
  exact if_pos expired

theorem callsToStop_can {s : System} (mode : s.services.coordinator.robotState.controlMode = .can)
    (running : s.services.coordinator.canCounter ≤ canTimeoutCount) :
    callsToStop s = s.callsToCanPoll + callsOfCan s.services.coordinator.canCounter := by
  rw [callsToStop, mode]
  exact if_neg (Nat.not_lt.mpr running)

/-- The put of a motion is followed by three calls at most. -/
theorem callsToPoll_putMotion {s : System} {purging : Bool}
    (at_pc : s.services.coordinator.pc = .putMotion purging) : 4 ≤ s.callsToPoll := by
  have loops : 0 < s.callsLeft .coordinator := by
    simp only [System.callsLeft, Coordinator.callsLeft, at_pc]
    exact MessageQueue.callsLeft_pos _ _
  have left : s.callsToPoll = s.callsLeft .coordinator + 3 := by
    rw [System.callsToPoll, if_neg (by simp [at_pc]), System.iterationLeft, at_pc]
  omega

theorem callsToPoll_pollSup {s : System} (at_pc : s.services.coordinator.pc = .pollSup) :
    s.callsToPoll = 7 := by
  rw [System.callsToPoll, if_neg (by simp [at_pc]), System.iterationLeft, at_pc]

/-- A robot that has not stopped has calls left to do so. -/
theorem callsToStop_pos {s : System} (goesOn : ¬ s.services.coordinator.Stopped) : 0 < callsToStop s := by
  cases mode : s.services.coordinator.robotState.controlMode with
  | rc =>
    rw [callsToStop_rc mode]
    omega
  | can =>
    rcases Nat.lt_or_ge canTimeoutCount s.services.coordinator.canCounter with expired | running
    · rw [callsToStop_put mode expired, System.callsToPut]
      cases at_pc : s.services.coordinator.pc with
      | pollSup =>
        have left := callsToPoll_pollSup at_pc
        dsimp only
        omega
      | putMotion purging =>
        have left := callsToPoll_putMotion at_pc
        dsimp only
        omega
      | _ => exact absurd ⟨mode, .inr expired, sending_eq_nil.mpr (by simp [at_pc])⟩ goesOn
    · rw [callsToStop_can mode running, callsOfCan_of_le running]
      omega

/-- A CAN poll that hears nothing leaves no more calls of the CAN watchdog. -/
theorem callsOfCan_missCan (c : Coordinator) :
    callsOfCan c.missCan.canCounter ≤ callsOfCan c.canCounter := by
  rcases Nat.lt_or_ge canTimeoutCount c.canCounter with expired | running
  · rw [Coordinator.missCan_of_lt expired]
  · rw [Coordinator.missCan_of_le running, callsOfCan_of_le running]
    change callsOfCan (c.canCounter + 1) ≤ _
    unfold callsOfCan
    split <;> omega

section Calls

variable {s : System} (quiet : Quiet s .coordinator)
include quiet

/-- Under remote control, a call that hears nothing brings the coordinator closer to its stop. -/
theorem callsToStop_coordinator_rc (mode : s.services.coordinator.robotState.controlMode = .rc) :
    1 + callsToStop (s.servicesStep .coordinator).1 ≤ callsToStop s := by
  have move := quietMove_coordinator quiet
  rw [callsToStop_rc mode]
  generalize after : (s.servicesStep .coordinator).1.services.coordinator = next at move
  cases move with
  | missRc at_pc =>
    have now : s.callsToPoll = 0 := if_pos at_pc
    have can : (s.servicesStep .coordinator).1.services.coordinator.canCounter =
        s.services.coordinator.canCounter := by
      rw [after]
      exact canCounter_missRc s.services.coordinator
    rcases Nat.lt_or_ge rcTimeoutCount s.services.coordinator.rcCounter with expired | running
    · rw [Coordinator.missRc_of_lt expired] at after
      have lost : (s.servicesStep .coordinator).1.services.coordinator.robotState.controlMode = .can := by
        rw [after]
        rfl
      have at_can : (s.servicesStep .coordinator).1.services.coordinator.pc = .pollCan := by
        rw [after]
        rfl
      rcases Nat.lt_or_ge canTimeoutCount s.services.coordinator.canCounter with passed | counts
      · rw [callsToStop_put lost (can ▸ passed), System.callsToPut, at_can]
        dsimp only
        omega
      · rw [callsToStop_can lost (can ▸ counts), System.callsToCanPoll, if_pos at_can, can]
        omega
    · rw [Coordinator.missRc_of_le running] at after
      have kept : (s.servicesStep .coordinator).1.services.coordinator.robotState.controlMode = .rc := by
        rw [after]
        exact mode
      have at_sup : (s.servicesStep .coordinator).1.services.coordinator.pc = .pollSup := by
        rw [after, Coordinator.afterRc]
        exact if_neg (by simp [mode])
      have counted : (s.servicesStep .coordinator).1.services.coordinator.rcCounter =
          s.services.coordinator.rcCounter + 1 := by
        rw [after]
        rfl
      rw [callsToStop_rc kept, callsToPoll_pollSup at_sup, counted, can]
      omega
  | missCan at_pc =>
    have closer := callsToPoll_later (s := s) (by simp [at_pc])
    have fewer := callsOfCan_missCan s.services.coordinator
    have kept : (s.servicesStep .coordinator).1.services.coordinator.robotState.controlMode = .rc := by
      rw [after]
      exact (congrArg RobotState.controlMode (robotState_missCan _)).trans mode
    have rc : (s.servicesStep .coordinator).1.services.coordinator.rcCounter =
        s.services.coordinator.rcCounter := by
      rw [after]
      exact rcCounter_missCan _
    have can : (s.servicesStep .coordinator).1.services.coordinator.canCounter =
        s.services.coordinator.missCan.canCounter := by
      rw [after]
      rfl
    rw [callsToStop_rc kept, rc, can]
    omega
  | later _ settles =>
    have closer := callsToPoll_later settles.source.1
    rw [← after] at settles
    rw [callsToStop_rc (settles.controlMode.trans mode), settles.rcCounter, settles.canCounter]
    omega

/-- In CAN control, such a call brings it closer, or stops it. -/
theorem callsToStop_coordinator_can (mode : s.services.coordinator.robotState.controlMode = .can)
    (goesOn : ¬ (s.servicesStep .coordinator).1.services.coordinator.Stopped) :
    1 + callsToStop (s.servicesStep .coordinator).1 ≤ callsToStop s := by
  have move := quietMove_coordinator quiet
  generalize after : (s.servicesStep .coordinator).1.services.coordinator = next at move goesOn
  cases move with
  | missRc at_pc =>
    have kept : s.services.coordinator.missRc.afterRc.robotState.controlMode = .can := controlMode_missRc mode
    have at_can : s.services.coordinator.missRc.afterRc.pc = .pollCan := if_pos kept
    have can : s.services.coordinator.missRc.afterRc.canCounter = s.services.coordinator.canCounter :=
      canCounter_missRc s.services.coordinator
    rcases Nat.lt_or_ge canTimeoutCount s.services.coordinator.canCounter with passed | counts
    · refine absurd ⟨kept, .inr (can ▸ passed), sending_eq_nil.mpr ?_⟩ goesOn
      rw [at_can]
      simp
    · rw [← after] at kept at_can can
      rw [callsToStop_can mode counts, callsToStop_can kept (can ▸ counts), System.callsToCanPoll,
        if_pos at_can, System.callsToCanPoll, if_neg (by simp [at_pc]), can]
      omega
  | missCan at_pc =>
    have now : s.callsToCanPoll = 0 := if_pos at_pc
    have kept : (s.servicesStep .coordinator).1.services.coordinator.robotState.controlMode = .can := by
      rw [after]
      exact (congrArg RobotState.controlMode (robotState_missCan _)).trans mode
    have at_sup : (s.servicesStep .coordinator).1.services.coordinator.pc = .pollSup := by
      rw [after]
    have left := callsToPoll_pollSup at_sup
    rcases Nat.lt_or_ge canTimeoutCount s.services.coordinator.canCounter with passed | counts
    · have zero : s.services.coordinator.missCan.desiredMotionFromCan.val = .zero := by
        rw [Coordinator.missCan_of_lt passed]
      refine absurd ⟨?_, .inl zero, sending_eq_nil.mpr fun _ => zero⟩ goesOn
      exact after ▸ kept
    · have counted : (s.servicesStep .coordinator).1.services.coordinator.canCounter =
          s.services.coordinator.canCounter + 1 := by
        rw [after, Coordinator.missCan_of_le counts]
        rfl
      rw [callsToStop_can mode counts, callsOfCan_of_le counts, now]
      rcases Nat.lt_or_ge canTimeoutCount (s.services.coordinator.canCounter + 1) with last | counts
      · rw [callsToStop_put kept (counted ▸ last), System.callsToPut, at_sup]
        dsimp only
        omega
      · rw [callsToStop_can kept (counted ▸ counts), System.callsToCanPoll, if_neg (by simp [at_sup]),
          counted, callsOfCan_of_le counts]
        omega
  | later _ settles =>
    have closer := callsToPoll_later settles.source.1
    rw [← after] at settles
    have kept := settles.controlMode.trans mode
    rcases Nat.lt_or_ge canTimeoutCount s.services.coordinator.canCounter with passed | counts
    · have expired := settles.canCounter ▸ passed
      rw [callsToStop_put mode passed, callsToStop_put kept expired]
      -- What is not stopped is about to put a motion.
      cases at_pc : (s.servicesStep .coordinator).1.services.coordinator.pc with
      | putMotion purging =>
        have put := callsToPoll_putMotion at_pc
        rcases settles.putMotion purging at_pc with sup | ⟨before, motion⟩
        · simp only [System.callsToPut, at_pc, sup]
          omega
        · simp only [System.callsToPut, at_pc, motion]
          omega
      | pollSup => exact absurd at_pc settles.pc.2
      | _ =>
        rw [after] at kept expired at_pc
        exact absurd ⟨kept, .inr expired, sending_eq_nil.mpr (by simp [at_pc])⟩ goesOn
    · rw [callsToStop_can mode counts, callsToStop_can kept (settles.canCounter ▸ counts),
        System.callsToCanPoll, if_neg settles.pc.1, System.callsToCanPoll, if_neg settles.source.2,
        settles.canCounter]
      omega

end Calls

variable (conf : TbotActuatorConf) (uplink : Uplink)

/-- The other threads bring the coordinator no further from its stop. -/
theorem callsToStop_other {s : System} {event : SystemEvent} (other : event ≠ .coordinator) :
    callsToStop (s.step conf uplink event).1 ≤ callsToStop s := by
  have stays : (s.step conf uplink event).1.services.coordinator = s.services.coordinator :=
    coordinator_other other
  have fewer := callsToPoll_other conf uplink (s := s) other
  unfold callsToStop System.callsToPut System.callsToCanPoll
  rw [stays]
  cases s.services.coordinator.robotState.controlMode with
  | rc =>
    dsimp only
    omega
  | can =>
    dsimp only
    split
    · split <;> omega
    · split <;> omega

/-- The robot has stopped, or an undefined conversion has ended the run. -/
def System.Stopped (s : System) : Prop := s.undefined = true ∨ s.services.coordinator.Stopped

/-- In silence the robot stays stopped. -/
theorem stopped_step (s : System) (event : SystemEvent) (stopped : s.Stopped) (quiet : Quiet s event) :
    (s.step conf uplink event).1.Stopped := by
  rcases stopped with undefined | stopped
  · exact .inl (undefined_stays conf uplink s event undefined)
  rcases eq_or_ne event .coordinator with rfl | other
  · cases running : s.undefined with
    | true => exact .inl (undefined_stays conf uplink s _ running)
    | false =>
      have acts : s.step conf uplink .coordinator = s.servicesStep .coordinator := step_defined running
      rw [acts]
      exact .inr (stopped.quiet (quietMove_coordinator quiet))
  · have stays : (s.step conf uplink event).1.services.coordinator = s.services.coordinator :=
      coordinator_other other
    exact .inr (stays ▸ stopped)

/-- In silence a step pays for the call of the coordinator that it is, until the robot has stopped. -/
theorem callsToStop_step (s : System) (event : SystemEvent) (quiet : Quiet s event)
    (goesOn : ¬ (s.step conf uplink event).1.Stopped) :
    (decide (event = .coordinator)).toNat + callsToStop (s.step conf uplink event).1 ≤ callsToStop s := by
  rcases eq_or_ne event .coordinator with rfl | other
  · cases running : s.undefined with
    | true => exact absurd (.inl (undefined_stays conf uplink s _ running)) goesOn
    | false =>
      have acts : s.step conf uplink .coordinator = s.servicesStep .coordinator := step_defined running
      rw [acts] at goesOn ⊢
      cases mode : s.services.coordinator.robotState.controlMode with
      | rc => exact callsToStop_coordinator_rc quiet mode
      | can => exact callsToStop_coordinator_can quiet mode fun stopped => goesOn (.inr stopped)
  · rw [decide_eq_false other]
    exact (Nat.zero_add _).trans_le (callsToStop_other conf uplink other)

/-! ## The run -/

/-- The CAN poll is made in CAN control only. -/
def PollsCanInCan (s : System) : Prop :=
  s.services.coordinator.pc = .pollCan → s.services.coordinator.robotState.controlMode = .can

theorem pollsCanInCan_step (s : System) (event : SystemEvent) (inCan : PollsCanInCan s) :
    PollsCanInCan (s.step conf uplink event).1 := by
  rcases eq_or_ne event .coordinator with rfl | other
  · cases running : s.undefined with
    | true =>
      rw [step_undefined running]
      exact inCan
    | false =>
      have acts : s.step conf uplink .coordinator = s.servicesStep .coordinator := step_defined running
      have next := coordinatorStep_next s.services
      intro at_can
      rw [acts] at at_can ⊢
      change (coordinatorStep s.services).1.coordinator.pc = _ at at_can
      change (coordinatorStep s.services).1.coordinator.robotState.controlMode = _
      generalize (coordinatorStep s.services).1.coordinator = c at next at_can
      have polled {c : Coordinator} (at_can : c.afterRc.pc = .pollCan) :
          c.afterRc.robotState.controlMode = .can := by
        by_contra other
        have at_sup : c.afterRc.pc = .pollSup := if_neg other
        rw [at_sup] at at_can
        contradiction
      have moved {c : Coordinator} : c.afterSup.pc ≠ .pollCan := by
        obtain ⟨motion, pc, same, -, puts⟩ := afterSup_eq c
        rw [same]
        rcases puts with rfl | rfl <;> simp
      cases next with
      | receiveRc => exact polled at_can
      | missRc => exact polled at_can
      | receiveSup => exact absurd at_can moved
      | missSup => exact absurd at_can moved
      | _ => contradiction
  · have stays : (s.step conf uplink event).1.services.coordinator = s.services.coordinator :=
      coordinator_other other
    unfold PollsCanInCan
    rw [stays]
    exact inCan

/-- Silence stops the robot within a hundred and six calls. -/
theorem callsToStop_le {s : System} (inCan : PollsCanInCan s) : callsToStop s ≤ 106 := by
  have iteration := callsToPoll_le s
  have passed := callsOfCan_le s.services.coordinator.canCounter
  have seven : s.services.coordinator.pc ≠ .pollCan → s.callsToPoll ≤ 7 := callsToPoll_le_of_ne
  cases mode : s.services.coordinator.robotState.controlMode with
  | rc =>
    have elsewhere : s.services.coordinator.pc ≠ .pollCan := by
      intro at_can
      rw [inCan at_can] at mode
      contradiction
    have left := seven elsewhere
    rw [callsToStop_rc mode]
    unfold rcTimeoutCount
    omega
  | can =>
    rcases Nat.lt_or_ge canTimeoutCount s.services.coordinator.canCounter with expired | running
    · rw [callsToStop_put mode expired, System.callsToPut]
      split <;> omega
    · rw [callsToStop_can mode running, System.callsToCanPoll]
      split <;> omega

/-- A coordinator with nothing to send puts no motion but the zero motion. -/
theorem moving_coordinator {s : State} (sending : s.coordinator.sending = []) :
    (coordinatorStep s).2.filterMap Output.moving? = [] := by
  simp only [coordinatorStep]
  cases at_pc : s.coordinator.pc with
  | putMotion purging =>
    have zero : s.coordinator.desiredMotion.val = .zero :=
      sending_eq_nil.mp sending (.inr ⟨purging, at_pc⟩)
    dsimp only
    split
    · simp [Output.moving?, SystemOutput.moving?, zero]
    · rfl
  | _ => dsimp only; split <;> rfl

/-- A stopped robot puts no motion but the zero motion. -/
theorem shown_stopped {s : System} (event : SystemEvent) (stopped : s.Stopped) :
    System.shown conf uplink SystemOutput.moving? s event = [] := by
  cases running : s.undefined with
  | true =>
    rw [System.shown, step_undefined running]
    rfl
  | false =>
    rcases eq_or_ne event .coordinator with rfl | other
    · have sending := (stopped.resolve_left (by simp [running])).sending
      rw [System.shown, step_defined running]
      simp only [System.act, System.servicesStep, step, List.filterMap_map]
      exact moving_coordinator sending
    · exact shown_moving_other conf uplink other

/-- From every reachable state, under every schedule, the coordinator puts no motion but the zero motion after
a hundred and six of its calls that hear nothing at the RC and CAN polls, while it goes on hearing nothing. -/
theorem motions_stop (before : Pins) (events rest later : List SystemEvent)
    (quiet : ∀ step ∈ (system conf uplink before).stepsFrom ((system conf uplink before).run events)
      (rest ++ later), Quiet step.1 step.2) (calls : 106 ≤ rest.count .coordinator) :
    (system conf uplink before).observedFrom (System.shown conf uplink SystemOutput.moving?)
      ((system conf uplink before).runFrom ((system conf uplink before).run events) rest) later = [] := by
  have inCan : PollsCanInCan ((system conf uplink before).run events) :=
    Machine.invariant_run (m := system conf uplink before) PollsCanInCan nofun
      (pollsCanInCan_step conf uplink) events
  generalize (system conf uplink before).run events = s at quiet inCan ⊢
  rw [Machine.stepsFrom_append] at quiet
  have most := callsToStop_le inCan
  have stopped : ((system conf uplink before).runFrom s rest).Stopped := by
    rcases Machine.deadline (m := system conf uplink before) (fun event => decide (event = .coordinator))
      callsToStop (stopped_step conf uplink) (callsToStop_step conf uplink)
      (fun step member => quiet step (List.mem_append_left _ member)) with stopped | unpaid
    · exact stopped
    · by_contra goesOn
      have left := callsToStop_pos fun stopped => goesOn (.inr stopped)
      have counted : rest.count .coordinator = rest.countP fun event => decide (event = .coordinator) := rfl
      omega
  have none := Machine.observedFrom_length_le (system conf uplink before)
    (System.shown conf uplink SystemOutput.moving?) (fun _ => 0) System.Stopped Quiet
    (stopped_step conf uplink) (fun s event stopped _ => by
      rw [shown_stopped conf uplink event stopped]
      exact Nat.le_refl 0) stopped fun step member => quiet step (List.mem_append_right _ member)
  exact List.length_eq_zero_iff.mp (Nat.le_zero.mp none)

/-- A motion frame is heard in CAN control, and RC data at full speed in RC control after it. -/
private def heardOnBoth : List SystemEvent :=
  [.canFrame walkFrame, .messengerRx] ++ .replicate 5 .coordinator ++
    [.rcMessage fullSpeed, .receiver, .coordinator]

private def silentUplink : Uplink := ⟨⟨true⟩, fun _ => 0, walkFrame, walkFrame⟩

/-- After a hundred and six calls nothing moves, after a hundred and five there may be a motion left. -/
theorem motions_stop_sharp :
    (system TbotActuators.robotConf silentUplink TbotActuators.restingPins).observedFrom
        (System.shown TbotActuators.robotConf silentUplink SystemOutput.moving?)
        ((system TbotActuators.robotConf silentUplink TbotActuators.restingPins).runFrom
          ((system TbotActuators.robotConf silentUplink TbotActuators.restingPins).run heardOnBoth)
          (.replicate 106 .coordinator)) (.replicate 9 .coordinator) = [] ∧
      (system TbotActuators.robotConf silentUplink TbotActuators.restingPins).observedFrom
        (System.shown TbotActuators.robotConf silentUplink SystemOutput.moving?)
        ((system TbotActuators.robotConf silentUplink TbotActuators.restingPins).runFrom
          ((system TbotActuators.robotConf silentUplink TbotActuators.restingPins).run heardOnBoth)
          (.replicate 105 .coordinator)) [.coordinator] ≠ [] :=
  ⟨motions_stop TbotActuators.robotConf silentUplink TbotActuators.restingPins heardOnBoth
    (.replicate 106 .coordinator) (.replicate 9 .coordinator) (by decide +kernel) (by decide +kernel),
    by decide +kernel⟩

end Robofw.Model.Tbot
