import Robofw.Soundness.RcWatchdog
import Robofw.Soundness.TbotArbitration

/-! # The motion that the TBot's coordinator sends

The motion of an iteration is a function of the polls made so far. The RC watchdog decides between the
e-stop, the last RC message and the CAN bus, and on the CAN bus a second watchdog, which counts in CAN
mode only, decides between the last motion and standing still.
-/

namespace Robofw.Model.Tbot

open Robofw.Core

/-- The outcome of the CAN poll, when the step is one. -/
def canPoll? (step : State × Event) : Option (Option DesiredMotion) :=
  if step.2 = .coordinator ∧ step.1.coordinator.pc = .pollCan then
    some (step.1.canDesiredMotionQueue.items.head?.map Stamped.val)
  else none

/-- The outcome of the supervisor poll, when the step is one. -/
def supPoll? (step : State × Event) : Option (Option SupervisedMode) :=
  if step.2 = .coordinator ∧ step.1.coordinator.pc = .pollSup then
    some step.1.supervisorCmdQueue.items.head?
  else none

/-- The motion of the CAN bus after these polls of it, newest first: the last one counts for six polls
without another. -/
def canMotionAfter (polls : List (Option DesiredMotion)) : DesiredMotion :=
  if Watchdog.silence polls ≤ 6 then (Watchdog.lastHeard polls).getD .zero else .zero

/-- The motion to send after these RC and CAN polls. -/
def motionAfter (rcPolls : List (Option ReceiverData)) (canPolls : List (Option DesiredMotion)) :
    DesiredMotion :=
  let status := rcStatusAfter .lost rcDecode rcPolls
  if status.estopTriggered then .zero
  else match status.controlMode with
    | .rc => (Watchdog.lastHeard rcPolls).elim .zero Coordinator.rcMotion
    | .can => canMotionAfter canPolls

def Coordinator.canWatchdog (c : Coordinator) : Watchdog DesiredMotion :=
  ⟨c.canCounter, c.desiredMotionFromCan.val⟩

theorem canWatchdog_missCan (c : Coordinator) :
    c.missCan.canWatchdog = c.canWatchdog.poll canTimeoutCount .zero id none := by
  rcases Nat.lt_or_ge canTimeoutCount c.canCounter with expired | running
  · rw [Coordinator.missCan_of_lt expired, Coordinator.canWatchdog, Coordinator.canWatchdog,
      Watchdog.poll_none_of_lt expired]
  · rw [Coordinator.missCan_of_le running, Coordinator.canWatchdog, Coordinator.canWatchdog,
      Watchdog.poll_none_of_le running]

/-- Only the CAN poll touches the CAN watchdog. -/
theorem Coordinator.Next.canWatchdog {c next : Coordinator} (step : c.Next next)
    (elsewhere : c.pc ≠ .pollCan) : next.canWatchdog = c.canWatchdog := by
  have kept (c : Coordinator) : c.afterSup.canWatchdog = c.canWatchdog := by
    obtain ⟨_, _, same, -⟩ := afterSup_eq c
    rw [same]
    rfl
  cases step with
  | receiveCan motion at_pc => exact absurd at_pc elsewhere
  | missCan at_pc => exact absurd at_pc elsewhere
  | missRc =>
    change Watchdog.mk c.missRc.canCounter c.missRc.desiredMotionFromCan.val = _
    rw [canCounter_missRc, desiredMotionFromCan_missRc]
    rfl
  | receiveSup mode => exact kept (c.receiveSup mode)
  | missSup => exact kept c
  | _ => rfl

/-- A step moves the CAN watchdog by the CAN poll it makes. -/
theorem canWatchdog_step (s : State) (event : Event) :
    (step s event).1.coordinator.canWatchdog =
      (canPoll? (s, event)).elim s.coordinator.canWatchdog
        (s.coordinator.canWatchdog.poll canTimeoutCount .zero id) := by
  by_cases polls : event = .coordinator ∧ s.coordinator.pc = .pollCan
  · obtain ⟨rfl, at_pc⟩ := polls
    rw [canPoll?, if_pos ⟨rfl, at_pc⟩, Option.elim_some]
    have move : CoordinatorMove s (step s .coordinator).1 := coordinatorStep_move s
    generalize (step s .coordinator).1 = next at move
    cases move with
    | receiveCan motion queue _ items => rw [items]; rfl
    | missCan _ items => rw [items]; exact canWatchdog_missCan _
    | receiveRc _ _ elsewhere => exact absurd (at_pc.symm.trans elsewhere) (by simp)
    | missRc elsewhere => exact absurd (at_pc.symm.trans elsewhere) (by simp)
    | later _ _ _ _ _ settles => exact absurd at_pc settles.source.2
  · rw [canPoll?, if_neg polls, Option.elim_none]
    rcases step_coordinator s event with same | ⟨own, next⟩
    · rw [same]
    · exact next.canWatchdog fun at_pc => polls ⟨own, at_pc⟩

/-- In every run the coordinator holds the motion of its CAN polls. -/
theorem canMotion_run (events : List Event) : (machine.run events).coordinator.desiredMotionFromCan.val =
    canMotionAfter (Watchdog.polls canPoll? (machine.steps events)) := by
  have tracked := Watchdog.tracked_run (m := machine) (fun s => s.coordinator.canWatchdog) rfl
    canWatchdog_step events
  rw [Watchdog.after_eq] at tracked
  have status := congrArg Watchdog.status tracked
  refine status.trans ?_
  rw [Watchdog.expected, canMotionAfter]
  cases Watchdog.lastHeard (Watchdog.polls canPoll? (machine.steps events)) <;> rfl

/-- In every run the supervised mode is the last one polled. -/
theorem supMode_run (events : List Event) : (machine.run events).coordinator.robotState.supMode =
    (Watchdog.lastHeard (Watchdog.polls supPoll? (machine.steps events))).getD kNonSupervised := by
  apply Watchdog.latched_run (m := machine) (fun s => s.coordinator.robotState.supMode) rfl
  intro s event
  rcases eq_or_ne event .coordinator with rfl | other
  · refine (supMode_coordinatorStep s).trans ?_
    by_cases at_pc : s.coordinator.pc = .pollSup
    · rw [if_pos at_pc, supPoll?, if_pos ⟨rfl, at_pc⟩]
      rfl
    · rw [if_neg at_pc, supPoll?, if_neg fun both => at_pc both.2]
      rfl
  · rw [supPoll?, if_neg fun both => other both.1]
    exact congrArg (·.robotState.supMode) (step_frame s other).1

/-- A step is an RC poll, or a later piece of the coordinator's loop, or it leaves the coordinator alone. -/
theorem rcPoll_cases (s : State) (event : Event) :
    (∃ outcome, rcPoll? (s, event) = some outcome ∧ ∃ polled,
        (step s event).1.coordinator = polled.afterRc ∧
        ((∃ data : TimedRcData, outcome = some data.val ∧ polled = s.coordinator.receiveRc data) ∨
          (outcome = none ∧ polled = s.coordinator.missRc))) ∨
      (rcPoll? (s, event) = none ∧ ((step s event).1.coordinator = s.coordinator ∨
        (s.coordinator.pc ≠ .pollRc ∧ s.coordinator.Next (step s event).1.coordinator))) := by
  by_cases polls : event = .coordinator ∧ s.coordinator.pc = .pollRc
  · obtain ⟨rfl, at_pc⟩ := polls
    refine .inl ⟨_, if_pos ⟨rfl, at_pc⟩, ?_⟩
    have move : CoordinatorMove s (step s .coordinator).1 := coordinatorStep_move s
    generalize (step s .coordinator).1 = next at move
    cases move with
    | receiveRc data queue _ items => exact ⟨_, rfl, .inl ⟨data, by rw [items]; rfl, rfl⟩⟩
    | missRc _ items => exact ⟨_, rfl, .inr ⟨by rw [items]; rfl, rfl⟩⟩
    | receiveCan _ _ elsewhere => exact absurd (at_pc.symm.trans elsewhere) (by simp)
    | missCan elsewhere => exact absurd (at_pc.symm.trans elsewhere) (by simp)
    | later _ _ _ _ _ settles => exact absurd at_pc settles.source.1
  · refine .inr ⟨if_neg polls, ?_⟩
    refine (step_coordinator s event).imp_right fun ⟨own, next⟩ => ⟨fun at_pc => polls ⟨own, at_pc⟩, next⟩

/-- The motion that the coordinator is about to send: the last RC motion in RC mode, the saved CAN motion
in CAN mode, and none under the e-stop. -/
structure Commands (rcPolls : List (Option ReceiverData)) (c : Coordinator) : Prop where
  rc : c.robotState.controlMode = .rc → c.robotState.estopTriggered = false →
    c.desiredMotion.val = (Watchdog.lastHeard rcPolls).elim .zero Coordinator.rcMotion
  polling : c.pc = .pollCan → c.robotState.controlMode = .can
  can : c.pc = .pollSup → c.robotState.controlMode = .can → c.desiredMotion = c.desiredMotionFromCan
  nonSupervised : ∀ purging, c.pc = .putMotion purging → c.robotState.supMode = kNonSupervised
  stopped : ∀ purging, c.pc = .putMotion purging → c.robotState.estopTriggered = true →
    c.desiredMotion.val = .zero
  sent : ∀ purging, c.pc = .putMotion purging → c.robotState.estopTriggered = false →
    c.robotState.controlMode = .can → c.desiredMotion = c.desiredMotionFromCan

/-- Behind the RC poll only the RC motion matters. -/
theorem commands_afterRc {rcPolls : List (Option ReceiverData)} {c : Coordinator}
    (rc : c.robotState.controlMode = .rc → c.robotState.estopTriggered = false →
      c.desiredMotion.val = (Watchdog.lastHeard rcPolls).elim .zero Coordinator.rcMotion) :
    Commands rcPolls c.afterRc := by
  have at_pc : c.afterRc.pc = if c.robotState.controlMode = .can then .pollCan else .pollSup := rfl
  have noPut (purging : Bool) : c.afterRc.pc ≠ .putMotion purging := by
    rw [at_pc]
    split <;> exact nofun
  refine ⟨rc, fun polls => ?_, fun polls mode => ?_, fun purging puts => absurd puts (noPut purging),
    fun purging puts => absurd puts (noPut purging), fun purging puts => absurd puts (noPut purging)⟩
  · rw [at_pc] at polls
    split at polls
    · assumption
    · contradiction
  · change c.robotState.controlMode = .can at mode
    rw [at_pc, if_pos mode] at polls
    contradiction

/-- The supervisor poll leaves the motion to send, or zeroes it under the e-stop. -/
theorem commands_afterSup {rcPolls : List (Option ReceiverData)} {c : Coordinator}
    (rc : c.robotState.controlMode = .rc → c.robotState.estopTriggered = false →
      c.desiredMotion.val = (Watchdog.lastHeard rcPolls).elim .zero Coordinator.rcMotion)
    (can : c.robotState.controlMode = .can → c.desiredMotion = c.desiredMotionFromCan) :
    Commands rcPolls c.afterSup := by
  unfold Coordinator.afterSup Coordinator.applyEstop
  split
  case isTrue mode =>
    split
    case isTrue estop =>
      refine ⟨fun _ clear => ?_, nofun, nofun, fun _ _ => mode, fun _ _ _ => rfl, fun _ _ clear => ?_⟩
      · exact absurd (estop.symm.trans clear) (by simp)
      · exact absurd (estop.symm.trans clear) (by simp)
    case isFalse estop =>
      exact ⟨rc, nofun, nofun, fun _ _ => mode, fun _ _ stopped => absurd stopped estop,
        fun _ _ _ => can⟩
  case isFalse => exact ⟨rc, nofun, nofun, nofun, nofun, nofun⟩

/-- An RC poll decides the mode, and in RC mode the motion. -/
theorem Commands.poll {rcPolls : List (Option ReceiverData)} {c polled : Coordinator}
    (commands : Commands rcPolls c) {outcome : Option ReceiverData}
    (polls : (∃ data : TimedRcData, outcome = some data.val ∧ polled = c.receiveRc data) ∨
      (outcome = none ∧ polled = c.missRc)) : Commands (outcome :: rcPolls) polled.afterRc := by
  apply commands_afterRc
  rcases polls with ⟨data, rfl, rfl⟩ | ⟨rfl, rfl⟩
  · intro mode _
    simp only [Coordinator.receiveRc] at mode ⊢
    split at mode
    case isTrue selects => rw [if_pos selects]; rfl
    case isFalse => contradiction
  · rcases Nat.lt_or_ge rcTimeoutCount c.rcCounter with expired | running
    · rw [Coordinator.missRc_of_lt expired]
      exact fun mode => absurd (show RobotControlMode.can = .rc from mode) (by decide)
    · rw [Coordinator.missRc_of_le running]
      exact commands.rc

/-- The later pieces of the loop keep what the coordinator is about to send. -/
theorem Commands.later {rcPolls : List (Option ReceiverData)} {c next : Coordinator}
    (commands : Commands rcPolls c) (notRc : c.pc ≠ .pollRc) (step : c.Next next) :
    Commands rcPolls next := by
  cases step with
  | receiveRc data at_pc => exact absurd at_pc notRc
  | missRc at_pc => exact absurd at_pc notRc
  | receiveCan motion at_pc =>
    have mode := commands.polling at_pc
    refine ⟨fun other => ?_, nofun, fun _ _ => rfl, nofun, nofun, nofun⟩
    exact absurd (mode.symm.trans other) (by decide)
  | missCan at_pc =>
    have mode := commands.polling at_pc
    refine ⟨fun other => ?_, nofun, fun _ _ => rfl, nofun, nofun, nofun⟩
    change c.missCan.robotState.controlMode = .rc at other
    rw [robotState_missCan, mode] at other
    contradiction
  | receiveSup mode at_pc => exact commands_afterSup commands.rc (commands.can at_pc)
  | missSup at_pc => exact commands_afterSup commands.rc (commands.can at_pc)
  | retryMotion purging retry at_pc =>
    exact ⟨commands.rc, nofun, nofun, fun _ _ => commands.nonSupervised purging at_pc,
      fun _ _ => commands.stopped purging at_pc, fun _ _ => commands.sent purging at_pc⟩
  | motionDone purging at_pc => exact ⟨commands.rc, nofun, nofun, nofun, nofun, nofun⟩
  | retryState purging retry at_pc => exact ⟨commands.rc, nofun, nofun, nofun, nofun, nofun⟩
  | stateDone purging at_pc => exact ⟨commands.rc, nofun, nofun, nofun, nofun, nofun⟩

/-- In every run the coordinator holds the status of its RC polls. -/
theorem rcStatus_run (events : List Event) : (machine.run events).coordinator.robotState.rcStatus =
    rcStatusAfter .lost rcDecode (Watchdog.polls rcPoll? (machine.steps events)) := by
  have tracked := rcWatchdog_run events
  rw [Watchdog.after_eq] at tracked
  exact congrArg Watchdog.status tracked

/-- What is put is the motion that the status asks for. -/
theorem Commands.motion {rcPolls : List (Option ReceiverData)} {c : Coordinator}
    (commands : Commands rcPolls c) {purging : Bool} (at_pc : c.pc = .putMotion purging) :
    c.desiredMotion.val =
      if c.robotState.estopTriggered then .zero
      else match c.robotState.controlMode with
        | .rc => (Watchdog.lastHeard rcPolls).elim .zero Coordinator.rcMotion
        | .can => c.desiredMotionFromCan.val := by
  split
  case isTrue estop => exact commands.stopped purging at_pc estop
  case isFalse clear =>
    have clear := Bool.eq_false_of_not_eq_true clear
    split
    case h_1 mode => exact commands.rc mode clear
    case h_2 mode => exact congrArg Stamped.val (commands.sent purging at_pc clear mode)

theorem commands_run (events : List Event) :
    Commands (Watchdog.polls rcPoll? (machine.steps events)) (machine.run events).coordinator := by
  apply Machine.run_history (m := machine)
    (fun past s => Commands (Watchdog.polls rcPoll? past) s.coordinator)
  · exact ⟨nofun, nofun, nofun, nofun, nofun, nofun⟩
  · intro past s event commands
    change Commands _ (step s event).1.coordinator
    rw [Watchdog.polls_concat]
    rcases rcPoll_cases s event with ⟨outcome, polls, polled, next, cases⟩ | ⟨none, kept⟩
    · rw [polls, next]
      exact commands.poll cases
    · rw [none]
      rcases kept with same | ⟨notRc, next⟩
      · exact same ▸ commands
      · exact commands.later notRc next

/-- In every run, a motion that the coordinator sends is the closed form of its RC and CAN polls, and the
last supervised mode it polled is none. -/
theorem motion_published (events : List Event) (event : Event) (motion : TimedMotion)
    (sent : .motion motion ∈ (machine.step (machine.run events) event).2) :
    motion.val = motionAfter (Watchdog.polls rcPoll? (machine.steps events))
        (Watchdog.polls canPoll? (machine.steps events)) ∧
      (Watchdog.lastHeard (Watchdog.polls supPoll? (machine.steps events))).getD kNonSupervised =
        kNonSupervised := by
  obtain ⟨-, ⟨purging, at_pc⟩, rfl⟩ := motion_mem_step sent
  have commands := commands_run events
  refine ⟨?_, (supMode_run events).symm.trans (commands.nonSupervised purging at_pc)⟩
  unfold motionAfter
  rw [← rcStatus_run, ← canMotion_run]
  exact commands.motion at_pc

/-- An RC message with this throttle in this mode. -/
private def stickData (throttle modeSwitch : ℚ) : ReceiverData :=
  ⟨#v[0, 0, throttle, 0, 0, 0, 0, modeSwitch]⟩

/-- A CAN motion of 2 m/s comes in while the RC is in control, and the coordinator is about to send the motion
of the RC. -/
private def rcDriven : List Event :=
  [.rcMessage (stickData 1 0), .receiver, .canFrame ⟨0x103, .standard, .dataFrame, 8,
    #v[0, 0, 0, 200, 0, 0, 0, 0]⟩, .messengerRx, .coordinator, .coordinator]

/-- The RC hands the control over, and the coordinator is about to send the motion of the CAN bus. -/
private def handedOver : List Event :=
  rcDriven ++ [.coordinator, .motionControlGet, .coordinator, .rcMessage (stickData 1 1), .receiver,
    .coordinator, .coordinator, .coordinator]

/-- The RC motion of 1 m/s is sent in RC mode, and the CAN motion after the handover. -/
theorem motion_published_handover :
    ((⟨1, 0⟩ : DesiredMotion) = motionAfter (Watchdog.polls rcPoll? (machine.steps rcDriven))
        (Watchdog.polls canPoll? (machine.steps rcDriven)) ∧
      (Watchdog.lastHeard (Watchdog.polls supPoll? (machine.steps rcDriven))).getD kNonSupervised =
        kNonSupervised) ∧
    (⟨2, 0⟩ : DesiredMotion) = motionAfter (Watchdog.polls rcPoll? (machine.steps handedOver))
        (Watchdog.polls canPoll? (machine.steps handedOver)) ∧
      (Watchdog.lastHeard (Watchdog.polls supPoll? (machine.steps handedOver))).getD kNonSupervised =
        kNonSupervised :=
  ⟨motion_published rcDriven .coordinator ⟨⟨1, 0⟩, ⟨0, 0⟩⟩ (by decide +kernel),
    motion_published handedOver .coordinator ⟨⟨2, 0⟩, ⟨0, 0⟩⟩ (by decide +kernel)⟩

end Robofw.Model.Tbot
