import Robofw.Soundness.TbotOverflow
import Robofw.Soundness.TbotProgress

/-! # How long the TBot goes on moving

The coordinator falls back on the zero motion once both of its sources have been silent for seven polls.
Until then each message on the way counts: the one that its producer holds, the one that waits in its slot,
and the rest of the count since the last. Every motion other than zero is paid for out of that.
-/

namespace Robofw.Model.Tbot

open Robofw.Core
open Robofw.Model.TbotActuators (Pins TbotActuatorConf)

/-- No RC message and no motion frame comes in. -/
def SystemEvent.Silent : SystemEvent → Prop
  | .rcMessage _ => False
  | .canFrame frame => frame.id ≠ motionCmdCanId
  | _ => True

instance (event : SystemEvent) : Decidable event.Silent := by
  cases event <;> unfold SystemEvent.Silent <;> infer_instance

/-- A motion put for the motion control that is not zero. -/
def SystemOutput.moving? : SystemOutput → Option DesiredMotion
  | .services (.motion sent) => if sent.val = .zero then none else some sent.val
  | _ => none

/-- The frame of the RX thread asks for a motion. -/
def RxThread.asksMotion (rx : RxThread) : Bool :=
  match rx.job with
  | .desiredMotion _ => true
  | _ => false

/-- The motion other than zero that the coordinator is about to put. -/
def Coordinator.sending (c : Coordinator) : List DesiredMotion :=
  match c.pc with
  | .pollSup | .putMotion _ => if c.desiredMotion.val = .zero then [] else [c.desiredMotion.val]
  | _ => []

/-- The RC polls at which RC data can still count. -/
def State.rcBudget (s : State) : ℕ :=
  Watchdog.budget rcTimeoutCount s.receiver.isSome s.receiverDataQueue s.coordinator.rcCounter

/-- The CAN polls at which motion frames can still count. -/
def State.canBudget (s : State) : ℕ :=
  Watchdog.budget canTimeoutCount (s.messengerRx.any RxThread.asksMotion) s.canDesiredMotionQueue
    s.coordinator.canCounter

/-- The motions other than zero that silence still leaves. -/
def silenceBudget (s : State) : ℕ := s.rcBudget + s.canBudget + s.coordinator.sending.length

theorem sending_le (c : Coordinator) : c.sending.length ≤ 1 := by
  unfold Coordinator.sending
  split <;> first | (split <;> simp) | simp

/-- The supervisor poll begins no motion. -/
theorem sending_afterSup {c : Coordinator} (at_pc : c.pc = .pollSup) :
    c.afterSup.sending.length ≤ c.sending.length := by
  obtain ⟨motion, pc, same, kept, puts⟩ := afterSup_eq c
  rw [same]
  unfold Coordinator.sending
  rw [at_pc]
  rcases puts with rfl | rfl
  · rcases kept with zero | rfl
    · simp [zero]
    · exact Nat.le_refl _
  · exact Nat.zero_le _

/-- A motion of the services that is not zero. -/
def Output.moving? (output : Output) : Option DesiredMotion := SystemOutput.moving? (.services output)

/-- A poll pays for the motion that it begins. -/
theorem silenceBudget_poll {s next : State} (a b : ℕ) (rc : next.rcBudget + a ≤ s.rcBudget)
    (can : next.canBudget + b ≤ s.canBudget) (begun : next.coordinator.sending.length ≤ a + b) :
    0 + silenceBudget next ≤ silenceBudget s := by
  unfold silenceBudget
  omega

/-- The coordinator pays for what it sends with the polls that let it. -/
theorem silenceBudget_coordinator (s : State) :
    ((coordinatorStep s).2.filterMap Output.moving?).length + silenceBudget (coordinatorStep s).1 ≤
      silenceBudget s := by
  have can : s.canBudget + 0 ≤ s.canBudget := Nat.le_refl _
  have rc : s.rcBudget + 0 ≤ s.rcBudget := Nat.le_refl _
  simp only [coordinatorStep]
  cases at_pc : s.coordinator.pc with
  | pollRc =>
    dsimp only
    split
    case h_1 data queue taken =>
      exact silenceBudget_poll 1 0 (Watchdog.budget_heard taken).le can (sending_le _)
    case h_2 silent =>
      rcases Nat.lt_or_ge rcTimeoutCount s.coordinator.rcCounter with expired | running
      · rw [Coordinator.missRc_of_lt expired]
        exact silenceBudget_poll 0 0 rc can (Nat.le_refl 0)
      · rw [Coordinator.missRc_of_le running]
        exact silenceBudget_poll 1 0 (Watchdog.budget_missed running silent).le can (sending_le _)
  | pollCan =>
    dsimp only
    split
    case h_1 motion queue taken =>
      exact silenceBudget_poll 0 1 rc (Watchdog.budget_heard taken).le (sending_le _)
    case h_2 silent =>
      rcases Nat.lt_or_ge canTimeoutCount s.coordinator.canCounter with expired | running
      · rw [Coordinator.missCan_of_lt expired]
        exact silenceBudget_poll 0 0 rc can (Nat.le_refl 0)
      · rw [Coordinator.missCan_of_le running]
        exact silenceBudget_poll 0 1 rc (Watchdog.budget_missed running silent).le (sending_le _)
  | pollSup =>
    have spared {c : Coordinator} (polled : c.pc = .pollSup) (same : c.sending = s.coordinator.sending)
        (rcSame : c.afterSup.rcCounter = s.coordinator.rcCounter)
        (canSame : c.afterSup.canCounter = s.coordinator.canCounter) (queue : MessageQueue SupervisedMode 1) :
        0 + silenceBudget { s with supervisorCmdQueue := queue, coordinator := c.afterSup } ≤
          silenceBudget s := by
      have begun := (sending_afterSup polled).trans_eq (congrArg List.length same)
      simp only [silenceBudget, State.rcBudget, State.canBudget, rcSame, canSame]
      omega
    dsimp only
    split
    case h_1 mode queue taken =>
      exact spared (c := s.coordinator.receiveSup mode) at_pc rfl (rcCounter_afterSup _)
        (canCounter_afterSup _) queue
    case h_2 => exact spared at_pc rfl (rcCounter_afterSup _) (canCounter_afterSup _) s.supervisorCmdQueue
  | putMotion purging =>
    dsimp only
    have kept : s.coordinator.sending = if s.coordinator.desiredMotion.val = .zero then [] else
        [s.coordinator.desiredMotion.val] := by rw [Coordinator.sending, at_pc]
    split
    case h_1 queue effect =>
      have sent : [Output.motion s.coordinator.desiredMotion].filterMap Output.moving? =
          s.coordinator.sending := by
        rw [kept]
        by_cases zero : s.coordinator.desiredMotion.val = .zero <;>
          simp [Output.moving?, SystemOutput.moving?, zero]
      rw [sent]
      unfold silenceBudget
      change _ + (s.rcBudget + s.canBudget + 0) ≤ _
      omega
    case h_2 queue outcome goesOn effect =>
      unfold silenceBudget
      rw [kept]
      exact (Nat.zero_add _).le
  | putState purging =>
    dsimp only
    split <;> exact silenceBudget_poll 0 0 rc can (Nat.le_refl 0)

/-- A call of the services other than the coordinator's, when no RC message and no motion frame comes in. -/
def Event.Silent (event : Event) : Prop :=
  match event with
  | .rcMessage _ | .coordinator => False
  | .canFrame frame => frame.id ≠ motionCmdCanId
  | _ => True

theorem asksMotion_eq_false {frame : ZcanFrame} (other : frame.id ≠ motionCmdCanId) {rx : RxThread}
    (decoded : rxJob? frame = some rx.job) : rx.asksMotion = false := by
  unfold RxThread.asksMotion
  split
  case h_1 motion job => exact absurd (eq_frameMotion (decoded.trans (congrArg some job))).1 other
  case h_2 => rfl

/-- The RX thread asks for a motion until it has put it. -/
theorem asksMotion_next (rx : RxThread) (outcome : Attempt) :
    (rx.next outcome).any RxThread.asksMotion = (outcome != .done && rx.asksMotion) := by
  cases outcome <;> rfl

/-- The RX thread hands its motion on at most. -/
theorem canBudget_messengerRx (s : State) : (messengerRxStep s).1.canBudget ≤ s.canBudget := by
  have move := messengerRxStep_move s
  generalize messengerRxStep s = answer at move
  have apart {rx : RxThread} {outcome : Attempt} (running : s.messengerRx = some rx)
      (free : rx.asksMotion = false) :
      Watchdog.budget canTimeoutCount ((rx.next outcome).any RxThread.asksMotion) s.canDesiredMotionQueue
        s.coordinator.canCounter ≤ s.canBudget := by
    rw [State.canBudget, running, asksMotion_next, free, Bool.and_false, Option.any_some, free]
  cases move with
  | idle => exact Nat.le_refl _
  | desiredMotion rx motion queue outcome running job effect =>
    have asks : rx.asksMotion = true := by rw [RxThread.asksMotion, job]
    simp only [State.canBudget, running, asksMotion_next, asks, Option.any_some, Bool.and_true]
    exact Watchdog.budget_attempt effect
  | supervisorCmd rx mode queue outcome running job => exact apart running (by rw [RxThread.asksMotion, job])
  | actuatorCmd rx cmd queue outcome running job => exact apart running (by rw [RxThread.asksMotion, job])
  | desiredRpm rx rpm queue outcome running job => exact apart running (by rw [RxThread.asksMotion, job])

/-- The other threads of the services leave the budget. -/
theorem silenceBudget_other {s : State} {event : Event} (silent : event.Silent) :
    silenceBudget (step s event).1 ≤ silenceBudget s := by
  cases event with
  | rcMessage data => exact silent.elim
  | coordinator => exact silent.elim
  | canFrame frame =>
    simp only [step]
    split
    case isFalse => exact Nat.le_refl _
    case isTrue idle =>
      split
      case h_2 => exact Nat.le_refl _
      case h_1 job decoded =>
        have none : s.messengerRx = none := Option.isNone_iff_eq_none.mp idle
        have free : RxThread.asksMotion ⟨frame, job, decoded, false⟩ = false :=
          asksMotion_eq_false silent decoded
        simp only [silenceBudget, State.rcBudget, State.canBudget, none, Option.any_some, free,
          Option.any_none]
        exact Nat.le_refl _
  | receiver =>
    have handed : (receiverStep s).1.rcBudget ≤ s.rcBudget := by
      unfold receiverStep
      split
      case h_1 => exact Nat.le_refl _
      case h_2 data purging held =>
        unfold State.rcBudget
        rw [held]
        split
        case h_1 queue effect => exact Watchdog.budget_attempt effect
        case h_2 queue outcome goesOn effect =>
          have bound : Watchdog.budget rcTimeoutCount (outcome != .done) queue s.coordinator.rcCounter ≤
              Watchdog.budget rcTimeoutCount true s.receiverDataQueue s.coordinator.rcCounter :=
            Watchdog.budget_attempt effect
          rwa [bne_iff_ne.mpr goesOn] at bound
    have apart : (receiverStep s).1.canBudget = s.canBudget ∧
        (receiverStep s).1.coordinator = s.coordinator := by
      unfold receiverStep
      split <;> [exact ⟨rfl, rfl⟩; (split <;> exact ⟨rfl, rfl⟩)]
    simp only [step, silenceBudget, apart.1, apart.2]
    omega
  | messengerRx =>
    have apart : (messengerRxStep s).1.rcBudget = s.rcBudget ∧
        (messengerRxStep s).1.coordinator = s.coordinator := by
      unfold messengerRxStep
      split <;> [exact ⟨rfl, rfl⟩; (split <;> exact ⟨rfl, rfl⟩)]
    have handed := canBudget_messengerRx s
    simp only [step, silenceBudget, apart.1, apart.2]
    omega
  | _ => exact Nat.le_refl _

variable (conf : TbotActuatorConf) (uplink : Uplink)

/-- The other threads put no motion. -/
theorem shown_moving_other {s : System} {event : SystemEvent} (other : event ≠ .coordinator) :
    System.shown conf uplink SystemOutput.moving? s event = [] := by
  refine List.filterMap_eq_nil_iff.mpr fun output emitted => ?_
  cases output with
  | services message =>
    cases message with
    | motion => exact absurd (putter_of_mem emitted) other
    | _ => rfl
  | _ => rfl

/-- In silence, a step of the whole robot pays for the motions that it puts. -/
theorem silenceBudget_step (s : System) (event : SystemEvent) (silent : event.Silent) :
    (System.shown conf uplink SystemOutput.moving? s event).length +
      silenceBudget (s.step conf uplink event).1.services ≤ silenceBudget s.services := by
  by_cases own : event = .coordinator
  · subst own
    cases stopped : s.undefined with
    | true =>
      rw [System.shown, step_undefined stopped]
      exact (Nat.zero_add _).le
    | false =>
      have paid := silenceBudget_coordinator s.services
      rw [System.shown, step_defined stopped]
      simp only [System.act, System.servicesStep, step, List.filterMap_map]
      exact paid
  · rw [shown_moving_other conf uplink own, List.length_nil, Nat.zero_add]
    rcases services_step conf uplink s event with ⟨call, called, same⟩ | apart
    · rw [same]
      apply silenceBudget_other
      cases event <;> cases called <;> first | exact silent | exact absurd rfl own
    · simp only [silenceBudget, State.rcBudget, State.canBudget, apart.receiver, apart.receiverDataQueue,
        apart.messengerRx, apart.canDesiredMotionQueue, apart.coordinator]
      exact Nat.le_refl _

/-- From every reachable state, under every schedule, the coordinator puts at most twenty-nine more motions
other than zero once no RC message and no motion frame comes in. -/
theorem motions_silent (before : Pins) (events rest : List SystemEvent)
    (silent : ∀ event ∈ rest, event.Silent) :
    ((system conf uplink before).observedFrom (System.shown conf uplink SystemOutput.moving?)
      ((system conf uplink before).run events) rest).length ≤ 29 := by
  have quiet : ∀ step ∈ (system conf uplink before).stepsFrom ((system conf uplink before).run events) rest,
      step.2.Silent := fun step member => silent step.2
    ((Machine.preserved_steps (fun _ => True) trivial fun _ _ _ _ => trivial).1 step member).1
  have paid := Machine.observedFrom_length_le (system conf uplink before)
    (System.shown conf uplink SystemOutput.moving?) (fun s => silenceBudget s.services) (fun _ => True)
    (fun _ event => event.Silent) (fun _ _ _ _ => trivial)
    (fun s event _ silent => silenceBudget_step conf uplink s event silent) trivial quiet
  generalize (system conf uplink before).run events = s at paid ⊢
  have rc : s.services.rcBudget ≤ 2 * (5 + 2) := Watchdog.budget_le
  have can : s.services.canBudget ≤ 2 * (5 + 2) := Watchdog.budget_le
  have sending := sending_le s.services.coordinator
  unfold silenceBudget at paid
  omega

/-- RC control at full speed. -/
def fullSpeed : ReceiverData := ⟨#v[0, 0, 1, 0, 0, 0, 0, 0]⟩

/-- Two RC messages and two motion frames are on their way, and the coordinator is about to put a motion. -/
private def underWay : List SystemEvent :=
  [.rcMessage fullSpeed, .receiver, .coordinator, .coordinator, .rcMessage fullSpeed, .receiver,
    .rcMessage fullSpeed, .canFrame walkFrame, .messengerRx, .canFrame walkFrame]

/-- Each message reaches the coordinator when the count of the one before it has run out. -/
private def lingering : List SystemEvent :=
  .replicate 58 .coordinator ++ .receiver :: .replicate 56 .coordinator ++ .replicate 63 .coordinator ++
    .messengerRx :: .replicate 63 .coordinator

/-- Twenty-nine motions other than zero do come when both sources fall silent. -/
theorem motions_silent_lingering :
    ((system TbotActuators.robotConf ⟨⟨true⟩, fun _ => 0, walkFrame, walkFrame⟩
        TbotActuators.restingPins).observedFrom (System.shown TbotActuators.robotConf
          ⟨⟨true⟩, fun _ => 0, walkFrame, walkFrame⟩ SystemOutput.moving?)
      ((system TbotActuators.robotConf ⟨⟨true⟩, fun _ => 0, walkFrame, walkFrame⟩
        TbotActuators.restingPins).run underWay) lingering).length = 29 ∧
    ((system TbotActuators.robotConf ⟨⟨true⟩, fun _ => 0, walkFrame, walkFrame⟩
        TbotActuators.restingPins).observedFrom (System.shown TbotActuators.robotConf
          ⟨⟨true⟩, fun _ => 0, walkFrame, walkFrame⟩ SystemOutput.moving?)
      ((system TbotActuators.robotConf ⟨⟨true⟩, fun _ => 0, walkFrame, walkFrame⟩
        TbotActuators.restingPins).run underWay) lingering).length ≤ 29 :=
  ⟨by decide +kernel, motions_silent TbotActuators.robotConf ⟨⟨true⟩, fun _ => 0, walkFrame, walkFrame⟩
    TbotActuators.restingPins underWay lingering (by decide +kernel)⟩

end Robofw.Model.Tbot
