import Robofw.Core.Observation
import Robofw.Soundness.RcWatchdog

/-! # The motion that the RC car follows

The motion that the coordinator puts is a function of its RC polls: it puts one in RC mode only, the
last RC message decides it, and the e-stop zeroes it. Each frame pair that the TX thread sends is for a
put of its own, in the order of the puts.
-/

namespace Robofw.Model.Rccar

open Robofw.Core

/-- The motion that a step puts into the queue of the messenger. -/
def putMotion (s : State) : Event → List RcMotion
  | .coordinator =>
    match s.coordinator.pc with
    | .putMotion purging =>
      if (s.rcDesiredMotionQueue.attempt purging s.coordinator.desiredMotion).2 = .done then
        [s.coordinator.desiredMotion]
      else []
    | _ => []
  | _ => []

/-- The motion that a step sends a frame pair for. -/
def sentMotion (s : State) (event : Event) : List RcMotion := (step s event).2.map (·.motion)

/-- The motion that the coordinator may put after these RC polls, newest first. -/
def motionAfter (polls : List (Option ReceiverData)) : DesiredMotion :=
  if (rcStatusAfter initialStatus rcDecode polls).estopTriggered then .zero
  else (Watchdog.lastHeard polls).elim .zero Coordinator.rcMotion

/-- What the frame pairs of a run say: they are sent for some of the motions put, in order, and each
motion put is the closed form of the RC polls before it. -/
structure FollowsRc (events : List Event) : Prop where
  ordered : (machine.observed sentMotion events).Sublist (machine.observed putMotion events)
  frames : ∀ step ∈ machine.steps events, ∀ output ∈ (Rccar.step step.1 step.2).2,
    output.servoPos = servoPos output.motion.val ∧ output.motorRpm = motorRpm output.motion.val
  put : ∀ before event after, events = before ++ event :: after →
    ∀ motion ∈ putMotion (machine.run before) event,
      let polls := Watchdog.polls rcPoll? (machine.steps before)
      (rcStatusAfter initialStatus rcDecode polls).controlMode = .rc ∧ motion.val = motionAfter polls

/-- A step takes a motion from the front of the queue, puts one at its back, or drops them. -/
theorem sentMotion_step (s : State) (event : Event) :
    (sentMotion s event ++ (step s event).1.rcDesiredMotionQueue.items).Sublist
      (s.rcDesiredMotionQueue.items ++ putMotion s event) := by
  cases event with
  | rcMessage data =>
    simp only [sentMotion, putMotion, step, List.append_nil]
    split <;> exact List.Sublist.refl _
  | receiver =>
    simp only [sentMotion, putMotion, step, receiverStep, List.append_nil]
    split
    · exact List.Sublist.refl _
    · split <;> exact List.Sublist.refl _
  | messengerTx =>
    simp only [sentMotion, putMotion, step, messengerTxStep, List.append_nil]
    split
    · split <;> exact List.Sublist.refl _
    · split
      case h_1 motion queue taken =>
        rw [MessageQueue.get_eq_some taken]
        exact List.Sublist.refl _
      case h_2 => exact List.Sublist.refl _
  | coordinator =>
    simp only [sentMotion, putMotion, step, coordinatorStep, List.map_nil, List.nil_append]
    cases s.coordinator.pc with
    | pollRc =>
      dsimp only
      rw [List.append_nil]
      split <;> exact List.Sublist.refl _
    | putMotion purging =>
      have effect := MessageQueue.attempt_items s.rcDesiredMotionQueue purging s.coordinator.desiredMotion
      rcases attempted : s.rcDesiredMotionQueue.attempt purging s.coordinator.desiredMotion
        with ⟨queue, outcome⟩
      rw [attempted] at effect
      dsimp only
      rw [attempted]
      cases outcome with
      | done =>
        rw [if_pos rfl]
        exact (show queue.items = _ from effect) ▸ List.Sublist.refl _
      | full =>
        rw [show queue = s.rcDesiredMotionQueue from effect]
        exact List.sublist_append_left _ _
      | purged =>
        rw [show queue = .empty from effect]
        exact List.nil_sublist _
    | putState purging =>
      dsimp only
      rw [List.append_nil]
      split <;> exact List.Sublist.refl _

/-- A frame pair is made from its motion. -/
theorem frames_step {s : State} {event : Event} {output : Output} (sent : output ∈ (step s event).2) :
    output.servoPos = servoPos output.motion.val ∧ output.motorRpm = motorRpm output.motion.val := by
  cases event with
  | messengerTx =>
    simp only [step, messengerTxStep] at sent
    split at sent
    · split at sent <;> exact absurd sent List.not_mem_nil
    · split at sent
      · obtain rfl := List.mem_singleton.mp sent
        exact ⟨rfl, rfl⟩
      · exact absurd sent List.not_mem_nil
  | rcMessage data =>
    simp only [step] at sent
    split at sent <;> exact absurd sent List.not_mem_nil
  | receiver => exact absurd sent List.not_mem_nil
  | coordinator => exact absurd sent List.not_mem_nil

/-- A step is an RC poll, or it leaves the coordinator as it is up to its program counter. -/
theorem rcPoll_cases (s : State) (event : Event) :
    (∃ outcome polled, rcPoll? (s, event) = some outcome ∧
        (step s event).1.coordinator = Coordinator.updateControl polled ∧
        ((∃ data, outcome = some data ∧ polled = s.coordinator.receiveRc data (s.iteration + 1)) ∨
          (outcome = none ∧ polled = s.coordinator.missRc))) ∨
      (rcPoll? (s, event) = none ∧ ∃ pc, (step s event).1.coordinator = { s.coordinator with pc := pc } ∧
        ∀ purging, pc = .putMotion purging → ∃ before, s.coordinator.pc = .putMotion before) := by
  cases event with
  | coordinator =>
    simp only [step, coordinatorStep, rcPoll?, true_and]
    cases at_pc : s.coordinator.pc with
    | pollRc =>
      refine .inl ⟨s.receiverDataQueue.items.head?, ?_⟩
      rw [if_pos rfl]
      dsimp only
      split
      case h_1 data queue taken =>
        rw [MessageQueue.get_eq_some taken]
        exact ⟨_, rfl, rfl, .inl ⟨data, rfl, rfl⟩⟩
      case h_2 taken =>
        rw [MessageQueue.get_eq_none_iff.mp taken]
        exact ⟨_, rfl, rfl, .inr ⟨rfl, rfl⟩⟩
    | putMotion purging =>
      refine .inr ⟨rfl, ?_⟩
      dsimp only
      split
      · exact ⟨_, rfl, fun _ puts => absurd puts (by simp)⟩
      · exact ⟨_, rfl, fun _ _ => ⟨purging, rfl⟩⟩
    | putState purging =>
      refine .inr ⟨rfl, ?_⟩
      dsimp only
      split
      · exact ⟨_, rfl, fun _ puts => absurd puts (by simp)⟩
      · exact ⟨_, rfl, fun _ puts => absurd puts (by simp)⟩
  | rcMessage data =>
    refine .inr ⟨rfl, s.coordinator.pc, ?_, fun purging puts => ⟨purging, puts⟩⟩
    simp only [step]
    split <;> rfl
  | receiver =>
    refine .inr ⟨rfl, s.coordinator.pc, ?_, fun purging puts => ⟨purging, puts⟩⟩
    simp only [step, receiverStep]
    split <;> [rfl; (split <;> rfl)]
  | messengerTx =>
    refine .inr ⟨rfl, s.coordinator.pc, ?_, fun purging puts => ⟨purging, puts⟩⟩
    simp only [step, messengerTxStep]
    split <;> split <;> rfl

/-- The motion that the coordinator is about to put: the last RC motion, or none under the e-stop. -/
structure Commands (polls : List (Option ReceiverData)) (c : Coordinator) : Prop where
  rc : c.robotState.controlMode = .rc → c.robotState.estopTriggered = false →
    c.desiredMotion.val = (Watchdog.lastHeard polls).elim .zero Coordinator.rcMotion
  mode : ∀ purging, c.pc = .putMotion purging → c.robotState.controlMode = .rc
  stopped : ∀ purging, c.pc = .putMotion purging → c.robotState.estopTriggered = true →
    c.desiredMotion.val = .zero

/-- Behind the RC poll only the RC motion matters. -/
theorem commands_updateControl {polls : List (Option ReceiverData)} {c : Coordinator}
    (rc : c.robotState.controlMode = .rc → c.robotState.estopTriggered = false →
      c.desiredMotion.val = (Watchdog.lastHeard polls).elim .zero Coordinator.rcMotion) :
    Commands polls c.updateControl := by
  have mode_of (purging : Bool) (puts : c.updateControl.pc = .putMotion purging) :
      c.robotState.controlMode = .rc := by
    simp only [Coordinator.updateControl] at puts
    split at puts
    case isTrue sends => exact sends.2
    case isFalse => contradiction
  refine ⟨fun mode clear => ?_, mode_of, fun purging _ stopped => ?_⟩
  · have clear : c.robotState.estopTriggered = false := clear
    have kept : c.updateControl.desiredMotion = c.desiredMotion := if_neg (by simp [clear])
    rw [kept]
    exact rc mode clear
  · have zeroed : c.updateControl.desiredMotion = { c.desiredMotion with val := .zero } := if_pos stopped
    rw [zeroed]

/-- An RC poll decides the mode, and in RC mode the motion. -/
theorem Commands.poll {polls : List (Option ReceiverData)} {c polled : Coordinator} {iteration : ℕ}
    (commands : Commands polls c) {outcome : Option ReceiverData}
    (cases : (∃ data, outcome = some data ∧ polled = c.receiveRc data iteration) ∨
      (outcome = none ∧ polled = c.missRc)) : Commands (outcome :: polls) polled.updateControl := by
  apply commands_updateControl
  rcases cases with ⟨data, rfl, rfl⟩ | ⟨rfl, rfl⟩
  · intro mode _
    simp only [Coordinator.receiveRc] at mode ⊢
    split at mode
    case isTrue selects => rw [if_pos selects]; rfl
    case isFalse => contradiction
  · unfold Coordinator.missRc
    split
    · exact nofun
    · exact commands.rc

theorem commands_run (events : List Event) :
    Commands (Watchdog.polls rcPoll? (machine.steps events)) (machine.run events).coordinator := by
  apply Machine.run_history (m := machine)
    (fun past s => Commands (Watchdog.polls rcPoll? past) s.coordinator)
  · exact ⟨nofun, nofun, nofun⟩
  · intro past s event commands
    change Commands _ (step s event).1.coordinator
    rw [Watchdog.polls_concat]
    rcases rcPoll_cases s event with ⟨outcome, polled, polls, next, cases⟩ | ⟨none, pc, next, puts⟩
    · rw [polls, next]
      exact commands.poll cases
    · rw [none, next]
      refine ⟨commands.rc, fun purging at_pc => ?_, fun purging at_pc => ?_⟩
      · obtain ⟨before, at_pc⟩ := puts purging at_pc
        exact commands.mode before at_pc
      · obtain ⟨before, at_pc⟩ := puts purging at_pc
        exact commands.stopped before at_pc

/-- In every run the coordinator holds the status of its RC polls. -/
theorem rcStatus_run (events : List Event) : (machine.run events).coordinator.robotState.rcStatus =
    rcStatusAfter initialStatus rcDecode (Watchdog.polls rcPoll? (machine.steps events)) := by
  have tracked := rcWatchdog_run events
  rw [Watchdog.after_eq] at tracked
  exact congrArg Watchdog.status tracked

/-- What a step puts is the motion of the coordinator. -/
theorem mem_putMotion {s : State} {event : Event} {motion : RcMotion} (put : motion ∈ putMotion s event) :
    (∃ purging, s.coordinator.pc = .putMotion purging) ∧ motion = s.coordinator.desiredMotion := by
  unfold putMotion at put
  split at put
  · split at put
    case h_1 purging at_pc =>
      split at put
      · exact ⟨⟨purging, at_pc⟩, List.mem_singleton.mp put⟩
      · exact absurd put List.not_mem_nil
    case h_2 => exact absurd put List.not_mem_nil
  · exact absurd put List.not_mem_nil

/-- In every run, the motions put are the closed form of the RC polls, and each frame pair is sent for a
put of its own, in order. -/
theorem frames_followRc (events : List Event) : FollowsRc events := by
  refine ⟨?_, fun step _ output sent => frames_step sent, fun before event after _ motion put => ?_⟩
  · have moved := Machine.delivered_run (m := machine) (fun s => s.rcDesiredMotionQueue.items) putMotion
      sentMotion rfl sentMotion_step events
    exact (List.sublist_append_left _ _).trans moved
  · obtain ⟨⟨purging, at_pc⟩, rfl⟩ := mem_putMotion put
    have commands := commands_run before
    have status := rcStatus_run before
    unfold motionAfter
    dsimp only
    rw [← status]
    refine ⟨commands.mode purging at_pc, ?_⟩
    split
    case isTrue estop => exact commands.stopped purging at_pc estop
    case isFalse clear =>
      exact commands.rc (commands.mode purging at_pc) (Bool.eq_false_of_not_eq_true clear)

end Robofw.Model.Rccar
