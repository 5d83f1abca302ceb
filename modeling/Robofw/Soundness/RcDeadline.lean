import Robofw.Soundness.RcWatchdog
import Robofw.Soundness.RccarStop
import Robofw.Soundness.TbotProgress

/-! # When the coordinators lose the remote control

A coordinator counts RC polls, not time. However its queues are served, an iteration ends after a bounded
number of its calls, so that as many iterations of silence as the watchdog counts leave the control lost.
-/

namespace Robofw.Model

open Robofw.Core

namespace Tbot

open Robofw.Model.TbotActuators (Pins TbotActuatorConf)

/-- The step is no RC poll that finds a message. -/
def Unheard (s : System) (event : SystemEvent) : Prop :=
  event = .coordinator → (rcPoll? (s.services, .coordinator)).join = none

instance (s : System) (event : SystemEvent) : Decidable (Unheard s event) :=
  inferInstanceAs (Decidable (_ → _))

/-- The coordinator holds the remote control for lost, or an undefined conversion has ended the run. -/
def System.Lost (s : System) : Prop :=
  s.undefined = true ∨ s.services.coordinator.robotState.rcStatus = .lost

instance (s : System) : Decidable s.Lost := inferInstanceAs (Decidable (_ ∨ _))

/-- The calls of the coordinator before its next RC poll when nobody gets in its way, at most. -/
def System.callsToPoll (s : System) : ℕ :=
  if s.services.coordinator.pc = .pollRc then 0 else s.iterationLeft .coordinator

theorem callsToPoll_le_of_ne {s : System} (elsewhere : s.services.coordinator.pc ≠ .pollCan) :
    s.callsToPoll ≤ 7 := by
  have left := s.callsLeft_le .coordinator
  unfold System.callsToPoll System.iterationLeft
  cases at_pc : s.services.coordinator.pc with
  | pollRc => exact Nat.zero_le 7
  | pollCan => exact absurd at_pc elsewhere
  | pollSup => exact Nat.le_refl 7
  | putMotion purging =>
    rw [if_neg (by simp)]
    exact (Nat.add_le_add_right left 3).trans (by decide)
  | putState purging =>
    rw [if_neg (by simp)]
    exact left.trans (by decide)

theorem callsToPoll_le (s : System) : s.callsToPoll ≤ 8 := by
  rcases eq_or_ne s.services.coordinator.pc .pollCan with at_can | elsewhere
  · rw [System.callsToPoll, if_neg (by simp [at_can]), System.iterationLeft, at_can]
  · exact (callsToPoll_le_of_ne elsewhere).trans (Nat.le_succ 7)

theorem iterationLeft_pos (s : System) : 0 < s.iterationLeft .coordinator := by
  unfold System.iterationLeft
  cases at_pc : s.services.coordinator.pc with
  | putMotion purging => exact Nat.succ_pos _
  | putState purging =>
    change 0 < s.callsLeft .coordinator
    simp only [System.callsLeft, Coordinator.callsLeft, at_pc]
    exact MessageQueue.callsLeft_pos _ _
  | _ => exact Nat.succ_pos _

/-- The robot state is put at the end of an iteration. -/
theorem pc_of_robotState {s : State} {state : RobotState}
    (put : .robotState state ∈ (coordinatorStep s).2) : (coordinatorStep s).1.coordinator.pc = .pollRc := by
  simp only [coordinatorStep] at put ⊢
  cases at_pc : s.coordinator.pc with
  | putState purging =>
    simp only [at_pc] at put ⊢
    split at put
    case h_1 => rfl
    case h_2 => simp at put
  | _ =>
    simp only [at_pc] at put
    split at put <;> simp at put

/-- A call of the coordinator brings it closer to its next RC poll. -/
theorem callsToPoll_coordinator (s : System) :
    1 + (s.servicesStep .coordinator).1.callsToPoll ≤ s.iterationLeft .coordinator := by
  have less : IterationLess .coordinator s (s.servicesStep .coordinator) := iterationLess_coordinator s
  unfold IterationLess at less
  unfold System.callsToPoll
  split
  case isTrue => exact iterationLeft_pos s
  case isFalse later =>
    have none : (s.servicesStep .coordinator).2.countP Reporter.coordinator.reports = 0 := by
      refine List.countP_eq_zero.mpr fun output emitted report => ?_
      obtain ⟨message, put, rfl⟩ := List.mem_map.mp emitted
      cases message with
      | robotState state => exact later (pc_of_robotState put)
      | _ => exact Bool.false_ne_true report
    rw [none] at less
    exact less

/-- Past the RC poll the calls before the next one get fewer. -/
theorem callsToPoll_later {s : System} (later : s.services.coordinator.pc ≠ .pollRc) :
    1 + (s.servicesStep .coordinator).1.callsToPoll ≤ s.callsToPoll := by
  have left : s.callsToPoll = s.iterationLeft .coordinator := if_neg later
  rw [left]
  exact callsToPoll_coordinator s

/-- A poll that finds no message misses one. -/
theorem rcWatchdog_missed {s : System} (at_pc : s.services.coordinator.pc = .pollRc)
    (unheard : Unheard s .coordinator) :
    (s.servicesStep .coordinator).1.services.coordinator.rcWatchdog =
      s.services.coordinator.rcWatchdog.poll rcTimeoutCount .lost rcDecode none := by
  have polls : rcPoll? (s.services, .coordinator) =
      some (s.services.receiverDataQueue.items.head?.map Stamped.val) := if_pos ⟨rfl, at_pc⟩
  have silent : s.services.receiverDataQueue.items.head?.map Stamped.val = none :=
    (congrArg Option.join polls).symm.trans (unheard rfl)
  have moved := rcWatchdog_step s.services .coordinator
  rw [polls, silent] at moved
  exact moved

/-- The coordinator leaves the watchdog alone past its RC poll. -/
theorem rcWatchdog_later {s : System} (later : s.services.coordinator.pc ≠ .pollRc) :
    (s.servicesStep .coordinator).1.services.coordinator.rcWatchdog = s.services.coordinator.rcWatchdog := by
  have none : rcPoll? (s.services, .coordinator) = none := if_neg fun polls => later polls.2
  have moved := rcWatchdog_step s.services .coordinator
  rw [none] at moved
  exact moved

variable (conf : TbotActuatorConf) (uplink : Uplink)

/-- The other threads bring the coordinator no further from its poll. -/
theorem callsToPoll_other {s : System} {event : SystemEvent} (other : event ≠ .coordinator) :
    (s.step conf uplink event).1.callsToPoll ≤ s.callsToPoll := by
  have stays : (s.step conf uplink event).1.services.coordinator = s.services.coordinator :=
    coordinator_other other
  have grown := iterationLeft_other conf uplink (s := s) .coordinator other
  have alone : (s.step conf uplink event).2.countP Reporter.coordinator.producer.rivals = 0 :=
    List.countP_eq_zero.mpr fun output _ => by cases output <;> exact Bool.false_ne_true
  rw [alone] at grown
  unfold System.callsToPoll
  rw [stays]
  split
  · exact Nat.le_refl 0
  · exact grown

/-- In silence a step misses a poll, or brings the coordinator closer to its next one. -/
theorem rcPace_step (s : System) (event : SystemEvent)
    (silent : s.undefined = false ∧ Unheard s event) :
    (s.step conf uplink event).1.services.coordinator.rcWatchdog =
          s.services.coordinator.rcWatchdog.poll rcTimeoutCount .lost rcDecode none ∧
        (decide (event = .coordinator)).toNat + (s.step conf uplink event).1.callsToPoll ≤
          s.callsToPoll + 9 ∨
      (s.step conf uplink event).1.services.coordinator.rcWatchdog = s.services.coordinator.rcWatchdog ∧
        (decide (event = .coordinator)).toNat + (s.step conf uplink event).1.callsToPoll ≤
          s.callsToPoll := by
  obtain ⟨running, unheard⟩ := silent
  rcases eq_or_ne event .coordinator with rfl | other
  · have acts : s.step conf uplink .coordinator = s.servicesStep .coordinator := step_defined running
    rw [acts]
    rcases eq_or_ne s.services.coordinator.pc .pollRc with at_pc | later
    · have closer := callsToPoll_coordinator s
      have full : s.iterationLeft .coordinator = 9 := by rw [System.iterationLeft, at_pc]
      refine .inl ⟨rcWatchdog_missed at_pc unheard, ?_⟩
      rw [full] at closer
      exact closer.trans (Nat.le_add_left 9 _)
    · exact .inr ⟨rcWatchdog_later later, callsToPoll_later later⟩
  · have fewer := callsToPoll_other conf uplink (s := s) other
    refine .inr ⟨congrArg Coordinator.rcWatchdog (coordinator_other other), ?_⟩
    rw [decide_eq_false other]
    exact (Nat.zero_add _).trans_le fewer

/-- An undefined conversion ends the run. -/
theorem undefined_stays (s : System) (event : SystemEvent) (undefined : s.undefined = true) :
    (s.step conf uplink event).1.undefined = true := by
  rw [step_undefined undefined]
  exact undefined

/-- From every reachable state, under every schedule, sixty-three calls of the coordinator that find no RC
message leave the remote control lost. -/
theorem tbot_losesRc (before : Pins) (events rest : List SystemEvent)
    (unheard : ∀ step ∈ (system conf uplink before).stepsFrom ((system conf uplink before).run events) rest,
      Unheard step.1 step.2) (calls : 63 ≤ rest.count .coordinator) :
    ((system conf uplink before).runFrom ((system conf uplink before).run events) rest).Lost := by
  have poll := callsToPoll_le ((system conf uplink before).run events)
  generalize (system conf uplink before).run events = s at unheard poll ⊢
  refine or_iff_not_imp_left.mpr fun running => ?_
  have defined := Machine.stepsFrom_not (m := system conf uplink before)
    (fun s => s.undefined = true) (undefined_stays conf uplink) running
  have silent : ∀ step ∈ (system conf uplink before).stepsFrom s rest,
      step.1.undefined = false ∧ Unheard step.1 step.2 := fun step member =>
    ⟨Bool.eq_false_of_not_eq_true (defined step member), unheard step member⟩
  rcases Watchdog.lost_of_calls (system conf uplink before) (·.services.coordinator.rcWatchdog)
    (·.callsToPoll) (fun event => decide (event = .coordinator)) (rcPace_step conf uplink) silent with
    lost | few
  · exact lost
  · have counted : rest.count .coordinator = rest.countP fun event => decide (event = .coordinator) := rfl
    unfold rcTimeoutCount at few
    omega

/-- The queues of the coordinator are full when it hears the RC for the last time, in CAN control. -/
private def lastHeardInCan : List SystemEvent :=
  .replicate 5 .coordinator ++ [.rcMessage ⟨#v[0, 0, 0, 0, 0, 0, 0, 1]⟩, .receiver, .coordinator]

private def idleUplink : Uplink :=
  let frame : ZcanFrame := ⟨0, .standard, .dataFrame, 8, #v[0, 0, 0, 0, 0, 0, 0, 0]⟩
  ⟨⟨true⟩, fun _ => 0, frame, frame⟩

/-- Sixty-three calls are enough, and sixty-two need not be. -/
theorem tbot_losesRc_sharp :
    ((system TbotActuators.robotConf idleUplink TbotActuators.restingPins).runFrom
      ((system TbotActuators.robotConf idleUplink TbotActuators.restingPins).run lastHeardInCan)
      (.replicate 63 .coordinator)).Lost ∧
    ¬ ((system TbotActuators.robotConf idleUplink TbotActuators.restingPins).runFrom
      ((system TbotActuators.robotConf idleUplink TbotActuators.restingPins).run lastHeardInCan)
      (.replicate 62 .coordinator)).Lost :=
  ⟨tbot_losesRc TbotActuators.robotConf idleUplink TbotActuators.restingPins lastHeardInCan
    (.replicate 63 .coordinator) (by decide +kernel) (by decide), by decide +kernel⟩

end Tbot

namespace Rccar

/-- The calls of the coordinator before its next RC poll when nobody gets in its way, at most. A motion that
waits behind another counts: a put that finds both costs three calls, and leaves none waiting behind. -/
def State.callsToPoll (s : State) : ℕ :=
  match s.coordinator.pc with
  | .pollRc => s.rcDesiredMotionQueue.items.length - 1
  | .putMotion purging => (if purging then 2 else s.rcDesiredMotionQueue.items.length + 1) + 3
  | .putState purging => s.robotStateQueue.callsLeft purging + (s.rcDesiredMotionQueue.items.length - 1)

theorem callsToPoll_le (s : State) : s.callsToPoll ≤ 6 := by
  have waiting := s.rcDesiredMotionQueue.bounded
  unfold State.callsToPoll
  cases s.coordinator.pc with
  | pollRc => exact (Nat.sub_le _ 1).trans (waiting.trans (by decide))
  | putMotion purging =>
    dsimp only
    split <;> omega
  | putState purging =>
    have left := MessageQueue.callsLeft_le s.robotStateQueue purging
    dsimp only
    omega

/-- The update of the control leaves five more calls, or six when two motions wait. -/
theorem callsToPoll_updateControl {s : State} {polled : Coordinator}
    (moved : s.coordinator = polled.updateControl) :
    1 + s.callsToPoll ≤ s.rcDesiredMotionQueue.items.length - 1 + 6 := by
  have waiting := s.rcDesiredMotionQueue.bounded
  have left := MessageQueue.callsLeft_le s.robotStateQueue false
  have puts : s.coordinator.pc = .putMotion false ∨ s.coordinator.pc = .putState false := by
    rw [moved, Coordinator.updateControl]
    dsimp only
    split
    · exact .inl rfl
    · exact .inr rfl
  unfold State.callsToPoll
  rcases puts with motion | state
  · rw [motion]
    dsimp only
    rw [if_neg Bool.false_ne_true]
    omega
  · rw [state]
    dsimp only
    omega

/-- A call of the coordinator in the loop for its motion leaves fewer calls. -/
theorem callsToPoll_putMotion {s : State} {purging : Bool} (at_pc : s.coordinator.pc = .putMotion purging) :
    1 + (coordinatorStep s).callsToPoll ≤ s.callsToPoll := by
  have effect := MessageQueue.attempt_items s.rcDesiredMotionQueue purging s.coordinator.desiredMotion
  have before : s.callsToPoll =
      (if purging then 2 else s.rcDesiredMotionQueue.items.length + 1) + 3 := by rw [State.callsToPoll, at_pc]
  rw [before]
  simp only [coordinatorStep, at_pc]
  split
  case h_1 queue attempted =>
    rw [attempted] at effect
    have grown : queue.items.length = s.rcDesiredMotionQueue.items.length + 1 := by
      rw [show queue.items = _ from effect, List.length_append, List.length_singleton]
    have left := MessageQueue.callsLeft_le s.robotStateQueue false
    have putting : purging = false :=
      (MessageQueue.attempt_done_iff.mp (congrArg Prod.snd attempted)).1
    change 1 + (s.robotStateQueue.callsLeft false + (queue.items.length - 1)) ≤ _
    rw [putting, if_neg Bool.false_ne_true, grown]
    omega
  case h_2 queue outcome notDone attempted =>
    have fewer := MessageQueue.callsLeft_attempt (by decide) attempted notDone
    have loops : s.rcDesiredMotionQueue.callsLeft purging ≤
        if purging then 2 else s.rcDesiredMotionQueue.items.length + 1 := by
      unfold MessageQueue.callsLeft
      split <;> [exact Nat.le_refl 2; (split <;> omega)]
    have next : (if (outcome == .full) = true then 2 else queue.items.length + 1) =
        queue.callsLeft (outcome == .full) := by
      rw [attempted] at effect
      cases outcome with
      | done => exact absurd rfl notDone
      | full => rfl
      | purged => rw [show queue = .empty from effect]; rfl
    change 1 + ((if (outcome == .full) = true then 2 else queue.items.length + 1) + 3) ≤ _
    omega

/-- A call of the coordinator in the loop for its state leaves fewer calls. -/
theorem callsToPoll_putState {s : State} {purging : Bool} (at_pc : s.coordinator.pc = .putState purging) :
    1 + (coordinatorStep s).callsToPoll ≤ s.callsToPoll := by
  have before : s.callsToPoll =
      s.robotStateQueue.callsLeft purging + (s.rcDesiredMotionQueue.items.length - 1) := by
    rw [State.callsToPoll, at_pc]
  have loops := MessageQueue.callsLeft_pos s.robotStateQueue purging
  rw [before]
  simp only [coordinatorStep, at_pc]
  split
  case h_1 queue attempted =>
    change 1 + (s.rcDesiredMotionQueue.items.length - 1) ≤ _
    omega
  case h_2 queue outcome notDone attempted =>
    have fewer := MessageQueue.callsLeft_attempt Nat.one_pos attempted notDone
    change 1 + (queue.callsLeft (outcome == .full) + (s.rcDesiredMotionQueue.items.length - 1)) ≤ _
    omega

/-- The consumers bring the coordinator no further from its poll. -/
theorem callsToPoll_other {s next : State} (stays : next.coordinator = s.coordinator)
    (states : next.robotStateQueue.items.Sublist s.robotStateQueue.items)
    (motions : next.rcDesiredMotionQueue.items.Sublist s.rcDesiredMotionQueue.items) :
    next.callsToPoll ≤ s.callsToPoll := by
  have fewer := motions.length_le
  unfold State.callsToPoll
  rw [stays]
  cases s.coordinator.pc with
  | pollRc => exact Nat.sub_le_sub_right fewer 1
  | putMotion purging =>
    dsimp only
    split <;> omega
  | putState purging =>
    have left := MessageQueue.callsLeft_sublist states purging
    dsimp only
    omega

/-- In silence a step misses a poll, or brings the coordinator closer to its next one. -/
theorem rcPace_step (s : State) (event : Event) (silent : Silent s event) :
    (step s event).1.coordinator.rcWatchdog =
          s.coordinator.rcWatchdog.poll rcTimeoutCount .lost rcDecode none ∧
        (decide (event = .coordinator)).toNat + (step s event).1.callsToPoll ≤ s.callsToPoll + 6 ∨
      (step s event).1.coordinator.rcWatchdog = s.coordinator.rcWatchdog ∧
        (decide (event = .coordinator)).toNat + (step s event).1.callsToPoll ≤ s.callsToPoll := by
  have taken {α : Type} {capacity : ℕ} {queue next : MessageQueue α capacity} {message : α}
      (get : queue.get = some (message, next)) : next.items.Sublist queue.items :=
    MessageQueue.get_eq_some get ▸ List.sublist_cons_self _ _
  cases event with
  | coordinator =>
    have moved := rcWatchdog_coordinatorStep s
    cases at_pc : s.coordinator.pc with
    | pollRc =>
      have none := MessageQueue.get_eq_none_iff.mpr (silent rfl at_pc)
      have now : s.callsToPoll = s.rcDesiredMotionQueue.items.length - 1 := by rw [State.callsToPoll, at_pc]
      refine .inl ?_
      simp only [step, coordinatorStep, at_pc, none]
      refine ⟨rcWatchdog_missRc s.coordinator, ?_⟩
      rw [now]
      exact callsToPoll_updateControl (s := s.startIteration s.coordinator.missRc) rfl
    | putMotion purging =>
      rw [rcPoll?, if_neg (by simp [at_pc])] at moved
      exact .inr ⟨moved, callsToPoll_putMotion at_pc⟩
    | putState purging =>
      rw [rcPoll?, if_neg (by simp [at_pc])] at moved
      exact .inr ⟨moved, callsToPoll_putState at_pc⟩
  | rcMessage data =>
    refine .inr ?_
    simp only [step]
    split <;> exact ⟨rfl, (Nat.zero_add _).trans_le (callsToPoll_other rfl (.refl _) (.refl _))⟩
  | receiver =>
    refine .inr ?_
    simp only [step, receiverStep]
    split
    · exact ⟨rfl, (Nat.zero_add _).le⟩
    · split <;> exact ⟨rfl, (Nat.zero_add _).trans_le (callsToPoll_other rfl (.refl _) (.refl _))⟩
  | messengerTx =>
    refine .inr ?_
    simp only [step, messengerTxStep]
    split
    · split
      case h_1 get =>
        exact ⟨rfl, (Nat.zero_add _).trans_le (callsToPoll_other rfl (taken get) (.refl _))⟩
      case h_2 => exact ⟨rfl, (Nat.zero_add _).le⟩
    · split
      case h_1 get =>
        exact ⟨rfl, (Nat.zero_add _).trans_le (callsToPoll_other rfl (.refl _) (taken get))⟩
      case h_2 => exact ⟨rfl, (Nat.zero_add _).trans_le (callsToPoll_other rfl (.refl _) (.refl _))⟩

/-- From every reachable state, under every schedule, forty-three calls of the coordinator that find no RC
message leave the remote control lost. -/
theorem rccar_losesRc (events rest : List Event)
    (silent : ∀ step ∈ machine.stepsFrom (machine.run events) rest, Silent step.1 step.2)
    (calls : 43 ≤ rest.count .coordinator) :
    (machine.runFrom (machine.run events) rest).coordinator.robotState.rcStatus = .lost := by
  have poll := callsToPoll_le (machine.run events)
  rcases Watchdog.lost_of_calls machine (·.coordinator.rcWatchdog) (·.callsToPoll)
    (fun event => decide (event = .coordinator)) rcPace_step silent with lost | few
  · exact lost
  · have counted : rest.count .coordinator = rest.countP fun event => decide (event = .coordinator) := rfl
    unfold rcTimeoutCount at few
    omega

/-- Two motions and a state wait when the coordinator hears the RC for the last time. -/
private def lastHeardInRc : List Event :=
  let drive : Event := .rcMessage ⟨#v[0, 0, 1, 0, 0, 1, -1, 0]⟩
  [drive, .receiver] ++ .replicate 8 .coordinator ++ [drive, .receiver, .coordinator]

/-- Forty-three calls are enough, and forty-two need not be. -/
theorem rccar_losesRc_sharp :
    (machine.runFrom (machine.run lastHeardInRc) (.replicate 43 .coordinator)).coordinator.robotState.rcStatus =
        .lost ∧
      ¬ (machine.runFrom (machine.run lastHeardInRc)
        (.replicate 42 .coordinator)).coordinator.robotState.rcStatus = .lost :=
  ⟨rccar_losesRc lastHeardInRc (.replicate 43 .coordinator) (by decide +kernel) (by decide),
    by decide +kernel⟩

end Rccar

end Robofw.Model
