import Robofw.Soundness.TbotRefinement

/-! # Where the motions of the TBot come from

A property of the RC messages and the decoded frames that come in holds of what the receiver, the RX
thread and the queues of the coordinator carry. A property of motions that the zero motion has, and that
every RC message asks for unless it stops the robot, holds of every motion on its way from there to the
motion control.
-/

namespace Robofw.Model.Tbot

open Robofw.Core Coordinator

/-- The input of an event, if it has one, is as expected. -/
def Event.Admitted (rcOk : ReceiverData → Prop) (jobOk : RxJob → Prop) : Event → Prop
  | .rcMessage data => rcOk data
  | .canFrame frame => ∀ job, rxJob? frame = some job → jobOk job
  | _ => True

/-- What the receiver and the RX thread carry is as expected. -/
structure InputsOk (rcOk : ReceiverData → Prop) (jobOk : RxJob → Prop) (s : State) : Prop where
  putting : ∀ putting, s.receiver = some putting → rcOk putting.1
  rcWaiting : ∀ data ∈ s.receiverDataQueue.items, rcOk data.val
  job : ∀ rx, s.messengerRx = some rx → jobOk rx.job
  canWaiting : ∀ motion ∈ s.canDesiredMotionQueue.items, jobOk (.desiredMotion motion.val)

/-- The RC message stops the robot, or it asks for an allowed motion. -/
def Asks (allowed : DesiredMotion → Prop) (data : ReceiverData) : Prop :=
  data.channels.get 6 > 0 ∨ allowed (rcMotion data)

/-- What the coordinator may send is allowed. -/
structure Holds (allowed : DesiredMotion → Prop) (c : Coordinator) : Prop where
  saved : allowed c.desiredMotionFromCan.val
  rc : c.robotState.controlMode = .rc → c.robotState.estopTriggered = false →
    allowed c.desiredMotion.val
  polling : c.pc = .pollCan → c.robotState.controlMode = .can
  can : c.pc = .pollSup → c.robotState.controlMode = .can → allowed c.desiredMotion.val
  put : ∀ purging, c.pc = .putMotion purging → allowed c.desiredMotion.val

variable {rcOk : ReceiverData → Prop} {jobOk : RxJob → Prop} {allowed : DesiredMotion → Prop}
  {s : State}

/-- The receiver holds the data it held, or the data that came in. -/
theorem receiver_step {event : Event} {putting : ReceiverData × Bool}
    (next : (step s event).1.receiver = some putting) :
    event = .rcMessage putting.1 ∨ ∃ purging, s.receiver = some (putting.1, purging) := by
  cases event with
  | rcMessage data =>
    simp only [step] at next
    split at next
    · obtain rfl := Option.some.inj next
      exact .inl rfl
    · exact .inr ⟨putting.2, next⟩
  | receiver =>
    simp only [step, receiverStep] at next
    split at next
    · exact .inr ⟨putting.2, next⟩
    case h_2 data purging held =>
      split at next
      · contradiction
      · obtain rfl := Option.some.inj next
        exact .inr ⟨purging, held⟩
  | coordinator =>
    refine .inr ⟨putting.2, ?_⟩
    rw [← next]
    simp only [step, coordinatorStep]
    cases s.coordinator.pc <;> dsimp only <;> split <;> rfl
  | messengerRx =>
    refine .inr ⟨putting.2, ?_⟩
    rw [← next]
    simp only [step, messengerRxStep]
    split <;> [rfl; (split <;> rfl)]
  | canFrame frame =>
    obtain ⟨messengerRx, effect⟩ := step_canFrame s frame
    rw [effect] at next
    exact .inr ⟨putting.2, next⟩
  | _ => exact .inr ⟨putting.2, next⟩

/-- The RX thread has the job it had, or the one of the frame that came in. -/
theorem messengerRx_step {event : Event} {rx : RxThread} (next : (step s event).1.messengerRx = some rx) :
    (∃ frame, event = .canFrame frame ∧ rxJob? frame = some rx.job) ∨
      ∃ before, s.messengerRx = some before ∧ before.job = rx.job := by
  cases event with
  | canFrame frame =>
    simp only [step] at next
    split at next
    · split at next
      case h_1 job decoded =>
        obtain rfl := Option.some.inj next
        exact .inl ⟨frame, rfl, decoded⟩
      case h_2 => exact .inr ⟨rx, next, rfl⟩
    · exact .inr ⟨rx, next, rfl⟩
  | messengerRx =>
    have kept {before : RxThread} {outcome : Attempt} (running : s.messengerRx = some before)
        (left : before.next outcome = some rx) :
        ∃ before, s.messengerRx = some before ∧ before.job = rx.job := by
      refine ⟨before, running, ?_⟩
      cases outcome with
      | done => contradiction
      | full => rw [← Option.some.inj left]
      | purged => rw [← Option.some.inj left]
    simp only [step, messengerRxStep] at next
    split at next
    · exact .inr ⟨rx, next, rfl⟩
    · split at next <;> exact .inr (kept ‹_› next)
  | coordinator =>
    refine .inr ⟨rx, ?_, rfl⟩
    rw [← next]
    simp only [step, coordinatorStep]
    cases s.coordinator.pc <;> dsimp only <;> split <;> rfl
  | receiver =>
    refine .inr ⟨rx, ?_, rfl⟩
    rw [← next]
    simp only [step, receiverStep]
    split <;> [rfl; (split <;> rfl)]
  | rcMessage data =>
    obtain ⟨receiver, effect⟩ := step_rcMessage s data
    rw [effect] at next
    exact .inr ⟨rx, next, rfl⟩
  | _ => exact .inr ⟨rx, next, rfl⟩

/-- The data that the receiver puts is the data it holds. -/
theorem rcData_mem_step {event : Event} {data : TimedRcData} (emitted : .rcData data ∈ (step s event).2) :
    ∃ purging, s.receiver = some (data.val, purging) := by
  rcases mem_step_cases emitted with ⟨rfl, -⟩ | ⟨-, rx, -, -, same⟩ | ⟨-, own⟩
  · simp only [step, receiverStep] at emitted
    split at emitted
    · exact absurd emitted List.not_mem_nil
    case h_2 held purging pending =>
      split at emitted
      · obtain rfl := Output.rcData.inj (List.mem_singleton.mp emitted)
        exact ⟨purging, pending⟩
      · exact absurd emitted List.not_mem_nil
  · cases job : rx.job <;> simp [job, RxJob.output] at same
  · rcases coordinatorStep_outputs own with ⟨_, _, same⟩ | ⟨_, _, same⟩ <;> contradiction

theorem InputsOk.step (ok : InputsOk rcOk jobOk s) {event : Event} (admitted : event.Admitted rcOk jobOk) :
    InputsOk rcOk jobOk (step s event).1 where
  putting putting next := by
    rcases receiver_step next with rfl | ⟨purging, held⟩
    · exact admitted
    · exact ok.putting (putting.1, purging) held
  rcWaiting data member := by
    rcases mem_receiverDataQueue_step member with old | ⟨-, emitted⟩
    · exact ok.rcWaiting data old
    · obtain ⟨purging, held⟩ := rcData_mem_step emitted
      exact ok.putting _ held
  job rx next := by
    rcases messengerRx_step next with ⟨frame, rfl, decoded⟩ | ⟨before, running, same⟩
    · exact admitted _ decoded
    · exact same ▸ ok.job before running
  canWaiting motion member := by
    rcases mem_canDesiredMotionQueue_step member with old | ⟨-, emitted⟩
    · exact ok.canWaiting motion old
    · obtain ⟨-, rx, running, -, same⟩ := (mem_step_rx (by simp) (by simp) (by simp)).mp emitted
      have asked : rx.job = .desiredMotion motion.val := by
        cases job : rx.job with
        | desiredMotion asked =>
          rw [job] at same
          rw [Output.canMotion.inj same]
        | _ => rw [job] at same; contradiction
      exact asked ▸ ok.job rx running

/-- Behind the RC poll only the RC motion matters. -/
theorem holds_afterRc {c : Coordinator} (saved : allowed c.desiredMotionFromCan.val)
    (rc : c.robotState.controlMode = .rc → c.robotState.estopTriggered = false →
      allowed c.desiredMotion.val) : Holds allowed c.afterRc := by
  have at_pc : c.afterRc.pc = if c.robotState.controlMode = .can then .pollCan else .pollSup := rfl
  refine ⟨saved, rc, fun polls => ?_, fun polls mode => ?_, fun purging puts => ?_⟩
  · rw [at_pc] at polls
    split at polls
    · assumption
    · contradiction
  · change c.robotState.controlMode = .can at mode
    rw [at_pc, if_pos mode] at polls
    contradiction
  · rw [at_pc] at puts
    split at puts <;> contradiction

/-- The supervisor poll leaves the motion to send, or zeroes it under the e-stop. -/
theorem holds_afterSup {c : Coordinator} (zero : allowed .zero) (saved : allowed c.desiredMotionFromCan.val)
    (rc : c.robotState.controlMode = .rc → c.robotState.estopTriggered = false →
      allowed c.desiredMotion.val)
    (can : c.robotState.controlMode = .can → allowed c.desiredMotion.val) :
    Holds allowed c.afterSup := by
  unfold Coordinator.afterSup Coordinator.applyEstop
  split
  · split
    case isTrue estop => exact ⟨saved, fun _ _ => zero, nofun, nofun, fun _ _ => zero⟩
    case isFalse clear =>
      refine ⟨saved, rc, nofun, nofun, fun _ _ => ?_⟩
      cases mode : c.robotState.controlMode with
      | rc => exact rc mode (Bool.eq_false_of_not_eq_true clear)
      | can => exact can mode
  · exact ⟨saved, rc, nofun, nofun, nofun⟩

/-- The coordinator keeps holding what is allowed when it polls what asks for that. -/
theorem Holds.step (holds : Holds allowed s.coordinator) (zero : allowed .zero)
    (rc : ∀ data ∈ s.receiverDataQueue.items, Asks allowed data.val)
    (can : ∀ motion ∈ s.canDesiredMotionQueue.items, allowed motion.val) (event : Event) :
    Holds allowed (step s event).1.coordinator := by
  rcases step_coordinator s event with same | ⟨rfl, next⟩
  · exact same ▸ holds
  have move : CoordinatorMove s (Tbot.step s .coordinator).1 := coordinatorStep_move s
  generalize (Tbot.step s .coordinator).1 = after at move next
  cases move with
  | receiveRc data queue at_pc items =>
    refine holds_afterRc holds.saved fun mode clear => ?_
    have asks := rc data (items ▸ List.mem_cons_self ..)
    simp only [Coordinator.receiveRc] at mode clear ⊢
    split at mode
    case isTrue selects =>
      rw [if_pos selects]
      exact asks.resolve_left (of_decide_eq_false clear)
    case isFalse => contradiction
  | missRc at_pc =>
    rcases Nat.lt_or_ge rcTimeoutCount s.coordinator.rcCounter with expired | running
    · rw [Coordinator.missRc_of_lt expired]
      exact holds_afterRc holds.saved nofun
    · rw [Coordinator.missRc_of_le running]
      exact holds_afterRc holds.saved holds.rc
  | receiveCan motion queue at_pc items =>
    have asked := can motion (items ▸ List.mem_cons_self ..)
    exact ⟨asked, fun _ _ => asked, nofun, fun _ _ => asked, nofun⟩
  | missCan at_pc =>
    have saved : allowed s.coordinator.missCan.desiredMotionFromCan.val := by
      rcases missCan_eq s.coordinator with ⟨_, same⟩ | same
      · rw [same]; exact holds.saved
      · rw [same]; exact zero
    exact ⟨saved, fun _ _ => saved, nofun, fun _ _ => saved, nofun⟩
  | later _ _ _ _ _ settles =>
    generalize after.coordinator = c at next settles ⊢
    cases next with
    | receiveRc data at_pc => exact absurd at_pc settles.source.1
    | missRc at_pc => exact absurd at_pc settles.source.1
    | receiveCan motion at_pc => exact absurd at_pc settles.source.2
    | missCan at_pc => exact absurd at_pc settles.source.2
    | receiveSup mode at_pc => exact holds_afterSup zero holds.saved holds.rc (holds.can at_pc)
    | missSup at_pc => exact holds_afterSup zero holds.saved holds.rc (holds.can at_pc)
    | retryMotion purging retry at_pc =>
      exact ⟨holds.saved, holds.rc, nofun, nofun, fun _ _ => holds.put purging at_pc⟩
    | motionDone purging at_pc => exact ⟨holds.saved, holds.rc, nofun, nofun, nofun⟩
    | retryState purging retry at_pc => exact ⟨holds.saved, holds.rc, nofun, nofun, nofun⟩
    | stateDone purging at_pc => exact ⟨holds.saved, holds.rc, nofun, nofun, nofun⟩

/-- What the services carry comes from inputs as expected, and what they send is allowed. -/
structure Carries (rcOk : ReceiverData → Prop) (jobOk : RxJob → Prop) (allowed : DesiredMotion → Prop)
    (s : State) : Prop where
  inputs : InputsOk rcOk jobOk s
  holds : Holds allowed s.coordinator
  waiting : ∀ motion ∈ s.desiredMotionQueue.items, allowed motion

/-- Only the coordinator puts motions for the motion control, and it puts the one it holds. -/
theorem mem_desiredMotionQueue_step {event : Event} {motion : DesiredMotion}
    (member : motion ∈ (step s event).1.desiredMotionQueue.items) :
    motion ∈ s.desiredMotionQueue.items ∨
      (∃ purging, s.coordinator.pc = .putMotion purging) ∧ motion = s.coordinator.desiredMotion.val := by
  cases event with
  | coordinator =>
    simp only [step, coordinatorStep] at member
    cases at_pc : s.coordinator.pc with
    | putMotion purging =>
      simp only [at_pc] at member
      split at member
      all_goals
        rename_i attempted
        rcases MessageQueue.mem_attempt attempted member with old | ⟨-, rfl⟩
        · exact .inl old
        · exact .inr ⟨⟨purging, rfl⟩, rfl⟩
    | _ => simp only [at_pc] at member; split at member <;> exact .inl member
  | receiver =>
    simp only [step, receiverStep] at member
    split at member <;> [exact .inl member; (split at member <;> exact .inl member)]
  | messengerRx =>
    simp only [step, messengerRxStep] at member
    split at member <;> [exact .inl member; (split at member <;> exact .inl member)]
  | motionControlGet =>
    refine .inl ?_
    rw [← s.desiredMotionQueue.head_afterGet]
    exact List.mem_append_right _ member
  | rcMessage data =>
    obtain ⟨receiver, effect⟩ := step_rcMessage s data
    rw [effect] at member
    exact .inl member
  | canFrame frame =>
    obtain ⟨messengerRx, effect⟩ := step_canFrame s frame
    rw [effect] at member
    exact .inl member
  | _ => exact .inl member

theorem carries_initial (zero : allowed .zero) : Carries rcOk jobOk allowed machine.initial := by
  refine ⟨⟨nofun, ?_, nofun, ?_⟩, ⟨zero, fun _ _ => zero, nofun, nofun, fun _ _ => zero⟩, ?_⟩ <;>
    exact fun _ member => absurd member List.not_mem_nil

theorem Carries.step (carries : Carries rcOk jobOk allowed s) (zero : allowed .zero)
    (rc : ∀ data, rcOk data → Asks allowed data)
    (can : ∀ motion, jobOk (.desiredMotion motion) → allowed motion) {event : Event}
    (admitted : event.Admitted rcOk jobOk) : Carries rcOk jobOk allowed (step s event).1 := by
  obtain ⟨inputs, holds, waiting⟩ := carries
  refine ⟨inputs.step admitted, ?_, fun motion member => ?_⟩
  · exact holds.step zero (fun data member => rc _ (inputs.rcWaiting data member))
      (fun motion member => can _ (inputs.canWaiting motion member)) event
  · rcases mem_desiredMotionQueue_step member with old | ⟨⟨purging, at_pc⟩, rfl⟩
    · exact waiting motion old
    · exact holds.put purging at_pc

/-- In every run whose inputs are as expected, the motions on their way are allowed. -/
theorem carries_run (zero : allowed .zero) (rc : ∀ data, rcOk data → Asks allowed data)
    (can : ∀ motion, jobOk (.desiredMotion motion) → allowed motion) {events : List Event}
    (admitted : ∀ event ∈ events, event.Admitted rcOk jobOk) :
    Carries rcOk jobOk allowed (machine.run events) := by
  apply Machine.guarded_run (m := machine) (Carries rcOk jobOk allowed)
    (fun _ event => event.Admitted rcOk jobOk)
  · exact carries_initial zero
  · exact fun s event carries admitted => carries.step zero rc can admitted
  · rintro ⟨s, event⟩ member
    obtain ⟨before, after, rfl, -⟩ := Machine.mem_steps_iff.mp member
    exact admitted event (by simp)

variable (rcOk jobOk allowed) in
/-- The same in every run of the whole robot. -/
theorem carries_system (conf : TbotActuators.TbotActuatorConf) (uplink : Uplink)
    (before : TbotActuators.Pins) (zero : allowed .zero) (rc : ∀ data, rcOk data → Asks allowed data)
    (can : ∀ motion, jobOk (.desiredMotion motion) → allowed motion) {events : List SystemEvent}
    (messages : ∀ data, .rcMessage data ∈ events → rcOk data)
    (frames : ∀ frame, .canFrame frame ∈ events → ∀ job, rxJob? frame = some job → jobOk job) :
    Carries rcOk jobOk allowed ((system conf uplink before).run events).services := by
  have state : machine.run _ = _ := ((servicesSimulation conf uplink before).run events).1
  rw [← state]
  refine carries_run zero rc can fun call called => ?_
  have inputs := input_calls conf uplink before events called
  cases call with
  | rcMessage data => exact messages data (inputs.1 data rfl)
  | canFrame frame => exact frames frame (inputs.2 frame rfl)
  | _ => trivial

/-- What the services put is allowed, or is what a frame as expected asks for. -/
def Output.Allowed (jobOk : RxJob → Prop) (allowed : DesiredMotion → Prop) : Output → Prop
  | .motion sent => allowed sent.val
  | .actuatorCmd cmd => jobOk (.actuatorCmd cmd)
  | .desiredRpm rpm => jobOk (.desiredRpm rpm)
  | _ => True

variable (rcOk jobOk allowed) in
/-- In every run of the whole robot whose inputs are as expected, so is what the services put. -/
theorem puts_allowed (conf : TbotActuators.TbotActuatorConf) (uplink : Uplink)
    (before : TbotActuators.Pins) (zero : allowed .zero) (rc : ∀ data, rcOk data → Asks allowed data)
    (can : ∀ motion, jobOk (.desiredMotion motion) → allowed motion) {events : List SystemEvent}
    (messages : ∀ data, .rcMessage data ∈ events → rcOk data)
    (frames : ∀ frame, .canFrame frame ∈ events → ∀ job, rxJob? frame = some job → jobOk job) :
    ∀ output ∈ (system conf uplink before).observed (servicesShown conf uplink) events,
      output.Allowed jobOk allowed := by
  rw [← ((servicesSimulation conf uplink before).run events).2]
  apply Machine.emitted_run machine (Carries rcOk jobOk allowed) (·.Admitted rcOk jobOk)
    (·.Allowed jobOk allowed) (carries_initial zero)
  · exact fun s event carries admitted => carries.step zero rc can admitted
  · intro s event carries _ output emitted
    rcases mem_step_cases emitted with ⟨-, data, rfl⟩ | ⟨-, rx, running, -, rfl⟩ | ⟨-, own⟩
    · trivial
    · have asked := carries.inputs.job rx running
      cases job : rx.job <;> rw [job] at asked <;> first | exact asked | trivial
    · rcases coordinatorStep_outputs own with ⟨purging, at_pc, rfl⟩ | ⟨_, -, rfl⟩
      · exact carries.holds.put purging at_pc
      · trivial
  · intro call called
    have inputs := input_calls conf uplink before events called
    cases call with
    | rcMessage data => exact messages data (inputs.1 data rfl)
    | canFrame frame => exact frames frame (inputs.2 frame rfl)
    | _ => trivial

end Robofw.Model.Tbot
