import Robofw.Model.Tbot

/-! # What one step of the TBot can do

`Coordinator.Next` lists the ways the coordinator's locals change, whatever its queues hold, and
`step_coordinator` says that no other thread touches them. The `mem_step` lemmas say which step puts
which message. Invariants and specifications are derived from these, not from the step function.
-/

namespace Robofw.Model.Tbot

open Robofw.Core

theorem supMode_afterRc (c : Coordinator) :
    c.afterRc.robotState.supMode = c.robotState.supMode := rfl

/-- A missed RC poll changes the connection, the e-stop, the control mode and the RC counter. -/
theorem missRc_eq (c : Coordinator) : ∃ connected estop mode counter, c.missRc =
    { c with robotState := ⟨connected, estop, mode, c.robotState.supMode⟩, rcCounter := counter } := by
  rcases lt_or_ge rcTimeoutCount c.rcCounter with expired | running
  · exact ⟨_, _, _, _, Coordinator.missRc_of_lt expired⟩
  · exact ⟨_, _, _, _, Coordinator.missRc_of_le running⟩

@[simp] theorem supMode_missRc (c : Coordinator) :
    c.missRc.robotState.supMode = c.robotState.supMode := by
  obtain ⟨_, _, _, _, same⟩ := missRc_eq c
  rw [same]

@[simp] theorem desiredMotionFromCan_missRc (c : Coordinator) :
    c.missRc.desiredMotionFromCan = c.desiredMotionFromCan := by
  obtain ⟨_, _, _, _, same⟩ := missRc_eq c
  rw [same]

@[simp] theorem desiredMotion_missRc (c : Coordinator) :
    c.missRc.desiredMotion = c.desiredMotion := by
  obtain ⟨_, _, _, _, same⟩ := missRc_eq c
  rw [same]

@[simp] theorem canCounter_missRc (c : Coordinator) : c.missRc.canCounter = c.canCounter := by
  obtain ⟨_, _, _, _, same⟩ := missRc_eq c
  rw [same]

/-- A missed CAN poll changes the value of the saved motion or the CAN counter. -/
theorem missCan_eq (c : Coordinator) : (∃ counter, c.missCan = { c with canCounter := counter }) ∨
    c.missCan = { c with desiredMotionFromCan := { c.desiredMotionFromCan with val := .zero } } := by
  rcases lt_or_ge canTimeoutCount c.canCounter with expired | running
  · exact .inr (Coordinator.missCan_of_lt expired)
  · exact .inl ⟨_, Coordinator.missCan_of_le running⟩

/-- A missed CAN poll keeps the saved motion or zeroes it. -/
theorem desiredMotionFromCan_missCan (c : Coordinator) {supplied : TimedMotion → Prop}
    (saved : c.desiredMotionFromCan.val = .zero ∨ supplied c.desiredMotionFromCan) :
    c.missCan.desiredMotionFromCan.val = .zero ∨ supplied c.missCan.desiredMotionFromCan := by
  rcases missCan_eq c with ⟨_, same⟩ | same
  · rw [same]
    exact saved
  · rw [same]
    exact .inl rfl

@[simp] theorem robotState_missCan (c : Coordinator) : c.missCan.robotState = c.robotState := by
  rcases missCan_eq c with ⟨_, same⟩ | same <;> rw [same]

@[simp] theorem rcCounter_missCan (c : Coordinator) : c.missCan.rcCounter = c.rcCounter := by
  rcases missCan_eq c with ⟨_, same⟩ | same <;> rw [same]

/-- After the supervisor poll the motion to send is kept or zeroed, and a put follows. -/
theorem afterSup_eq (c : Coordinator) : ∃ motion pc,
    c.afterSup = { c with desiredMotion := motion, pc := pc } ∧
      (motion.val = .zero ∨ motion = c.desiredMotion) ∧
      (pc = .putMotion false ∨ pc = .putState false) := by
  unfold Coordinator.afterSup Coordinator.applyEstop
  split
  · split
    · exact ⟨_, _, rfl, .inl rfl, .inl rfl⟩
    · exact ⟨_, _, rfl, .inr rfl, .inl rfl⟩
  · exact ⟨_, _, rfl, .inr rfl, .inr rfl⟩

@[simp] theorem robotState_afterSup (c : Coordinator) : c.afterSup.robotState = c.robotState := by
  obtain ⟨_, _, same, -⟩ := afterSup_eq c
  rw [same]

@[simp] theorem rcCounter_afterSup (c : Coordinator) : c.afterSup.rcCounter = c.rcCounter := by
  obtain ⟨_, _, same, -⟩ := afterSup_eq c
  rw [same]

@[simp] theorem canCounter_afterSup (c : Coordinator) : c.afterSup.canCounter = c.canCounter := by
  obtain ⟨_, _, same, -⟩ := afterSup_eq c
  rw [same]

/-- One piece of coordinator code, from one queue call to the next. -/
inductive Coordinator.Next : Coordinator → Coordinator → Prop
  | receiveRc {c} (data : TimedRcData) : c.pc = .pollRc → Next c (c.receiveRc data).afterRc
  | missRc {c} : c.pc = .pollRc → Next c c.missRc.afterRc
  | receiveCan {c} (motion : TimedMotion) : c.pc = .pollCan →
      Next c { (c.receiveCan motion).useCan with pc := .pollSup }
  | missCan {c} : c.pc = .pollCan → Next c { c.missCan.useCan with pc := .pollSup }
  | receiveSup {c} (mode : SupervisedMode) : c.pc = .pollSup → Next c (c.receiveSup mode).afterSup
  | missSup {c} : c.pc = .pollSup → Next c c.afterSup
  | retryMotion {c} (purging retry : Bool) : c.pc = .putMotion purging →
      Next c { c with pc := .putMotion retry }
  | motionDone {c} (purging : Bool) : c.pc = .putMotion purging →
      Next c { c with pc := .putState false }
  | retryState {c} (purging retry : Bool) : c.pc = .putState purging →
      Next c { c with pc := .putState retry }
  | stateDone {c} (purging : Bool) : c.pc = .putState purging → Next c { c with pc := .pollRc }

theorem coordinatorStep_next (s : State) :
    s.coordinator.Next (coordinatorStep s).1.coordinator := by
  simp only [coordinatorStep]
  cases at_pc : s.coordinator.pc with
  | pollRc => dsimp only; split <;> constructor <;> exact at_pc
  | pollCan => dsimp only; split <;> constructor <;> exact at_pc
  | pollSup => dsimp only; split <;> constructor <;> exact at_pc
  | putMotion purging =>
    dsimp only
    split
    · exact .motionDone purging at_pc
    · exact .retryMotion purging _ at_pc
  | putState purging =>
    dsimp only
    split
    · exact .stateDone purging at_pc
    · exact .retryState purging _ at_pc

/-- An RC message only occupies the receiver. -/
theorem step_rcMessage (s : State) (data : ReceiverData) :
    ∃ receiver, step s (.rcMessage data) = ({ s with receiver := receiver }, []) := by
  simp only [step]
  split
  · exact ⟨_, rfl⟩
  · exact ⟨s.receiver, rfl⟩

/-- A CAN frame only occupies the RX thread. -/
theorem step_canFrame (s : State) (frame : ZcanFrame) :
    ∃ messengerRx, step s (.canFrame frame) = ({ s with messengerRx := messengerRx }, []) := by
  simp only [step]
  split
  · split
    · exact ⟨_, rfl⟩
    · exact ⟨s.messengerRx, rfl⟩
  · exact ⟨s.messengerRx, rfl⟩

/-- An idle RX thread takes up a frame that the decoder accepts. -/
theorem step_canFrame_accepted {s : State} (idle : s.messengerRx = none) {frame : ZcanFrame} {job : RxJob}
    (decoded : rxJob? frame = some job) :
    (step s (.canFrame frame)).1 = { s with messengerRx := some ⟨frame, job, decoded, false⟩ } := by
  simp only [step, idle, Option.isNone_none, if_true]
  split
  case h_1 other accepted =>
    obtain rfl := Option.some.inj (decoded.symm.trans accepted)
    rfl
  case h_2 rejected => rw [decoded] at rejected; contradiction

theorem receiverStep_frame (s : State) : (receiverStep s).1.coordinator = s.coordinator ∧
    (receiverStep s).1.clock = s.clock ∧ (receiverStep s).1.lastCanPoll = s.lastCanPoll := by
  unfold receiverStep; split
  · exact ⟨rfl, rfl, rfl⟩
  · split <;> exact ⟨rfl, rfl, rfl⟩

theorem messengerRxStep_frame (s : State) : (messengerRxStep s).1.coordinator = s.coordinator ∧
    (messengerRxStep s).1.clock = s.clock ∧
    (messengerRxStep s).1.lastCanPoll = s.lastCanPoll := by
  unfold messengerRxStep; split
  · exact ⟨rfl, rfl, rfl⟩
  · split <;> exact ⟨rfl, rfl, rfl⟩

/-- Only the coordinator's own steps change its locals and the ghosts. -/
theorem step_frame (s : State) {event : Event} (other : event ≠ .coordinator) :
    (step s event).1.coordinator = s.coordinator ∧ (step s event).1.clock = s.clock ∧
      (step s event).1.lastCanPoll = s.lastCanPoll := by
  cases event with
  | receiver => exact receiverStep_frame s
  | messengerRx => exact messengerRxStep_frame s
  | coordinator => exact absurd rfl other
  | rcMessage data =>
    obtain ⟨receiver, effect⟩ := step_rcMessage s data
    simp only [effect, and_self]
  | canFrame frame =>
    obtain ⟨messengerRx, effect⟩ := step_canFrame s frame
    simp only [effect, and_self]
  | _ => exact ⟨rfl, rfl, rfl⟩

/-- A step leaves the coordinator's locals alone, or it is one piece of coordinator code. -/
theorem step_coordinator (s : State) (event : Event) :
    (step s event).1.coordinator = s.coordinator ∨
      (event = .coordinator ∧ s.coordinator.Next (step s event).1.coordinator) := by
  by_cases own : event = .coordinator
  · exact .inr ⟨own, own ▸ coordinatorStep_next s⟩
  · exact .inl (step_frame s own).1

/-- A property of the locals that every piece of coordinator code keeps is an invariant. -/
theorem coordinator_invariant {invariant : Coordinator → Prop} (start : invariant .initial)
    (keep : ∀ c next, invariant c → c.Next next → invariant next) (events : List Event) :
    invariant (machine.run events).coordinator := by
  apply Machine.invariant_run (fun s : State => invariant s.coordinator) start
  intro s event holds
  rcases step_coordinator s event with same | ⟨-, next⟩
  · exact same ▸ holds
  · exact keep _ _ holds next

/-- The same invariant holds before every step. -/
theorem coordinator_invariant_steps {invariant : Coordinator → Prop} (start : invariant .initial)
    (keep : ∀ c next, invariant c → c.Next next → invariant next) {events : List Event} {s : State}
    {event : Event} (member : (s, event) ∈ machine.steps events) : invariant s.coordinator := by
  obtain ⟨before, after, -, rfl⟩ := Machine.mem_steps_iff.mp member
  exact coordinator_invariant start keep before

/-- From the supervisor poll on, the coordinator keeps its saved motion, counters and control mode, and
it changes the motion to send only into the zero motion. -/
structure Coordinator.Settles (c next : Coordinator) : Prop where
  source : c.pc ≠ .pollRc ∧ c.pc ≠ .pollCan
  desiredMotionFromCan : next.desiredMotionFromCan = c.desiredMotionFromCan
  rcCounter : next.rcCounter = c.rcCounter
  canCounter : next.canCounter = c.canCounter
  controlMode : next.robotState.controlMode = c.robotState.controlMode
  desiredMotion : next.desiredMotion.val = .zero ∨ next.desiredMotion = c.desiredMotion
  pc : next.pc ≠ .pollCan ∧ next.pc ≠ .pollSup
  putMotion : ∀ purging, next.pc = .putMotion purging →
    c.pc = .pollSup ∨ ∃ purging, c.pc = .putMotion purging

private theorem settles_afterSup {c : Coordinator} (at_pc : c.pc = .pollSup) :
    c.Settles c.afterSup := by
  obtain ⟨motion, pc, same, kept, put⟩ := afterSup_eq c
  rw [same]
  refine ⟨by simp [at_pc], rfl, rfl, rfl, rfl, kept, ?_, fun _ _ => .inl at_pc⟩
  rcases put with rfl | rfl <;> simp

theorem Coordinator.Next.settles {c next : Coordinator} (step : c.Next next) (notRc : c.pc ≠ .pollRc)
    (notCan : c.pc ≠ .pollCan) : c.Settles next := by
  cases step with
  | receiveRc data at_pc => exact absurd at_pc notRc
  | missRc at_pc => exact absurd at_pc notRc
  | receiveCan motion at_pc => exact absurd at_pc notCan
  | missCan at_pc => exact absurd at_pc notCan
  | receiveSup mode at_pc =>
    obtain ⟨source, saved, rc, can, control, motion, pc, put⟩ :=
      settles_afterSup (c := c.receiveSup mode) at_pc
    exact ⟨source, saved, rc, can, control, motion, pc, put⟩
  | missSup at_pc => exact settles_afterSup at_pc
  | retryMotion purging retry at_pc =>
    exact ⟨⟨notRc, notCan⟩, rfl, rfl, rfl, rfl, .inr rfl, by simp, fun _ _ => .inr ⟨purging, at_pc⟩⟩
  | motionDone =>
    exact ⟨⟨notRc, notCan⟩, rfl, rfl, rfl, rfl, .inr rfl, by simp, fun _ next => by simp at next⟩
  | retryState =>
    exact ⟨⟨notRc, notCan⟩, rfl, rfl, rfl, rfl, .inr rfl, by simp, fun _ next => by simp at next⟩
  | stateDone =>
    exact ⟨⟨notRc, notCan⟩, rfl, rfl, rfl, rfl, .inr rfl, by simp, fun _ next => by simp at next⟩

/-- The state after a coordinator step: an RC poll, a CAN poll, or a later piece of its loop, which
touches neither queue. -/
inductive CoordinatorMove (s : State) : State → Prop
  | receiveRc (data : TimedRcData) (queue : MessageQueue TimedRcData 1) :
      s.coordinator.pc = .pollRc → s.receiverDataQueue.items = data :: queue.items →
      CoordinatorMove s { s.startIteration (s.coordinator.receiveRc data) with
        receiverDataQueue := queue }
  | missRc : s.coordinator.pc = .pollRc → s.receiverDataQueue.items = [] →
      CoordinatorMove s (s.startIteration s.coordinator.missRc)
  | receiveCan (motion : TimedMotion) (queue : MessageQueue TimedMotion 1) :
      s.coordinator.pc = .pollCan → s.canDesiredMotionQueue.items = motion :: queue.items →
      CoordinatorMove s { s with
        canDesiredMotionQueue := queue
        coordinator := { (s.coordinator.receiveCan motion).useCan with pc := .pollSup }
        lastCanPoll := s.clock }
  | missCan : s.coordinator.pc = .pollCan → s.canDesiredMotionQueue.items = [] →
      CoordinatorMove s { s with
        coordinator := { s.coordinator.missCan.useCan with pc := .pollSup }
        lastCanPoll := s.clock }
  | later (next : State) : next.receiverDataQueue = s.receiverDataQueue →
      next.canDesiredMotionQueue = s.canDesiredMotionQueue → next.clock = s.clock →
      next.lastCanPoll = s.lastCanPoll → s.coordinator.Settles next.coordinator →
      CoordinatorMove s next

theorem coordinatorStep_move (s : State) : CoordinatorMove s (coordinatorStep s).1 := by
  have settles := (coordinatorStep_next s).settles
  simp only [coordinatorStep] at settles ⊢
  cases at_pc : s.coordinator.pc with
  | pollRc =>
    dsimp only
    split
    · exact .receiveRc _ _ at_pc (MessageQueue.get_eq_some ‹_›)
    · exact .missRc at_pc (MessageQueue.get_eq_none_iff.mp ‹_›)
  | pollCan =>
    dsimp only
    split
    · exact .receiveCan _ _ at_pc (MessageQueue.get_eq_some ‹_›)
    · exact .missCan at_pc (MessageQueue.get_eq_none_iff.mp ‹_›)
  | pollSup =>
    simp only [at_pc, ne_eq, reduceCtorEq, not_false_eq_true, forall_const] at settles ⊢
    split at settles <;> exact .later _ rfl rfl rfl rfl settles
  | putMotion purging =>
    simp only [at_pc, ne_eq, reduceCtorEq, not_false_eq_true, forall_const] at settles ⊢
    split at settles <;> exact .later _ rfl rfl rfl rfl settles
  | putState purging =>
    simp only [at_pc, ne_eq, reduceCtorEq, not_false_eq_true, forall_const] at settles ⊢
    split at settles <;> exact .later _ rfl rfl rfl rfl settles

/-- The coordinator only takes from the two queues it polls. -/
theorem CoordinatorMove.takes {s next : State} (move : CoordinatorMove s next) :
    (∀ data ∈ next.receiverDataQueue.items, data ∈ s.receiverDataQueue.items) ∧
      ∀ motion ∈ next.canDesiredMotionQueue.items, motion ∈ s.canDesiredMotionQueue.items := by
  cases move with
  | receiveRc data queue at_pc items =>
    exact ⟨fun _ member => items ▸ List.mem_cons_of_mem _ member, fun _ => id⟩
  | missRc => exact ⟨fun _ => id, fun _ => id⟩
  | receiveCan motion queue at_pc items =>
    exact ⟨fun _ => id, fun _ member => items ▸ List.mem_cons_of_mem _ member⟩
  | missCan => exact ⟨fun _ => id, fun _ => id⟩
  | later _ rc can => exact ⟨fun _ member => rc ▸ member, fun _ member => can ▸ member⟩

/-- Only their producers and the coordinator reach the coordinator's queues. -/
theorem step_queues (s : State) {event : Event} (notReceiver : event ≠ .receiver)
    (notRx : event ≠ .messengerRx) (notCoordinator : event ≠ .coordinator) :
    (step s event).1.receiverDataQueue = s.receiverDataQueue ∧
      (step s event).1.canDesiredMotionQueue = s.canDesiredMotionQueue := by
  cases event with
  | receiver => exact absurd rfl notReceiver
  | messengerRx => exact absurd rfl notRx
  | coordinator => exact absurd rfl notCoordinator
  | rcMessage message =>
    obtain ⟨receiver, effect⟩ := step_rcMessage s message
    rw [effect]
    exact ⟨rfl, rfl⟩
  | canFrame frame =>
    obtain ⟨messengerRx, effect⟩ := step_canFrame s frame
    rw [effect]
    exact ⟨rfl, rfl⟩
  | _ => exact ⟨rfl, rfl⟩

/-- Whatever waits in the RC data queue after a step waited there before, or the step put it. -/
theorem mem_receiverDataQueue_step {s : State} {event : Event} {data : TimedRcData}
    (member : data ∈ (step s event).1.receiverDataQueue.items) :
    data ∈ s.receiverDataQueue.items ∨
      (data.stamp = s.clock ∧ .rcData data ∈ (step s event).2) := by
  have kept := @step_queues s event
  cases event with
  | receiver =>
    simp only [step, receiverStep] at member ⊢
    split at member
    · exact .inl member
    · split at member
      case h_1 queue effect =>
        rcases MessageQueue.mem_attempt effect member with old | ⟨-, rfl⟩
        · exact .inl old
        · exact .inr ⟨rfl, List.mem_singleton_self _⟩
      case h_2 queue outcome notDone effect =>
        rcases MessageQueue.mem_attempt effect member with old | ⟨rfl, -⟩
        · exact .inl old
        · contradiction
  | messengerRx =>
    simp only [step, messengerRxStep] at member
    split at member
    · exact .inl member
    · split at member <;> exact .inl member
  | coordinator => exact .inl ((coordinatorStep_move s).takes.1 _ member)
  | _ => exact .inl ((kept nofun nofun nofun).1 ▸ member)

/-- Whatever waits in the CAN motion queue after a step waited there before, or the step put it. -/
theorem mem_canDesiredMotionQueue_step {s : State} {event : Event} {motion : TimedMotion}
    (member : motion ∈ (step s event).1.canDesiredMotionQueue.items) :
    motion ∈ s.canDesiredMotionQueue.items ∨
      (motion.stamp = s.clock ∧ .canMotion motion ∈ (step s event).2) := by
  have kept := @step_queues s event
  cases event with
  | receiver =>
    simp only [step, receiverStep] at member
    split at member
    · exact .inl member
    · split at member <;> exact .inl member
  | messengerRx =>
    simp only [step, messengerRxStep] at member ⊢
    split at member
    · exact .inl member
    · split at member
      case h_4 rx active job command asks =>
        rcases MessageQueue.mem_attempt (Prod.eta _).symm member with old | ⟨completed, rfl⟩
        · exact .inl old
        · exact .inr ⟨rfl, by simp only [completed, if_true, List.mem_singleton]⟩
      all_goals exact .inl member
  | coordinator => exact .inl ((coordinatorStep_move s).takes.2 _ member)
  | _ => exact .inl ((kept nofun nofun nofun).2 ▸ member)

/-- Whatever a receiver step emits is RC data. -/
theorem receiverStep_outputs {s : State} {output : Output} (emitted : output ∈ (receiverStep s).2) :
    ∃ data, output = .rcData data := by
  unfold receiverStep at emitted
  split at emitted
  · simp at emitted
  · split at emitted
    · exact ⟨_, List.mem_singleton.mp emitted⟩
    · simp at emitted

/-- A coordinator step emits its motion or its state, at the put of that message. -/
theorem coordinatorStep_outputs {s : State} {output : Output}
    (emitted : output ∈ (coordinatorStep s).2) :
    (∃ purging, s.coordinator.pc = .putMotion purging ∧
      output = .motion s.coordinator.desiredMotion) ∨
    (∃ purging, s.coordinator.pc = .putState purging ∧
      output = .robotState s.coordinator.robotState) := by
  simp only [coordinatorStep] at emitted
  cases at_pc : s.coordinator.pc with
  | putMotion purging =>
    simp only [at_pc] at emitted
    split at emitted
    · exact .inl ⟨purging, rfl, List.mem_singleton.mp emitted⟩
    · simp at emitted
  | putState purging =>
    simp only [at_pc] at emitted
    split at emitted
    · exact .inr ⟨purging, rfl, List.mem_singleton.mp emitted⟩
    · simp at emitted
  | _ => simp only [at_pc] at emitted; split at emitted <;> simp at emitted

/-- The RX thread is about to put, and the queue of its message has room. -/
def RxThread.Puts (rx : RxThread) (s : State) : Prop :=
  rx.purging = false ∧
    match rx.job with
    | .supervisorCmd _ => s.supervisorCmdQueue.items.length < 1
    | .actuatorCmd _ => s.actuatorDataQueue.items.length < 16
    | .desiredRpm _ => s.desiredRpmQueue.items.length < 1
    | .desiredMotion _ => s.canDesiredMotionQueue.items.length < 1

/-- What the RX thread's put emits. -/
def RxJob.output (clock : Clock) : RxJob → Output
  | .supervisorCmd mode => .supervisorCmd mode
  | .actuatorCmd cmd => .actuatorCmd cmd
  | .desiredRpm rpm => .desiredRpm rpm
  | .desiredMotion motion => .canMotion ⟨motion, clock⟩

/-- An RX step emits exactly the message it puts. -/
theorem mem_messengerRxStep {s : State} {output : Output} :
    output ∈ (messengerRxStep s).2 ↔
      ∃ rx, s.messengerRx = some rx ∧ rx.Puts s ∧ output = rx.job.output s.clock := by
  unfold messengerRxStep
  cases active : s.messengerRx with
  | none => simp
  | some rx =>
    simp only [Option.some.injEq, exists_eq_left', RxThread.Puts]
    cases rx.job <;> simp only [RxJob.output, List.mem_ite_nil_right, List.mem_singleton,
      MessageQueue.attempt_done_iff]

/-- An output is emitted by the receiver, the RX thread or the coordinator. -/
theorem mem_step_cases {s : State} {event : Event} {output : Output}
    (emitted : output ∈ (step s event).2) :
    (event = .receiver ∧ ∃ data, output = .rcData data) ∨
      (event = .messengerRx ∧
        ∃ rx, s.messengerRx = some rx ∧ rx.Puts s ∧ output = rx.job.output s.clock) ∨
      (event = .coordinator ∧ output ∈ (coordinatorStep s).2) := by
  cases event with
  | receiver => exact .inl ⟨rfl, receiverStep_outputs emitted⟩
  | messengerRx => exact .inr (.inl ⟨rfl, mem_messengerRxStep.mp emitted⟩)
  | coordinator => exact .inr (.inr ⟨rfl, emitted⟩)
  | rcMessage data =>
    obtain ⟨receiver, effect⟩ := step_rcMessage s data
    rw [effect] at emitted
    exact absurd emitted List.not_mem_nil
  | canFrame frame =>
    obtain ⟨messengerRx, effect⟩ := step_canFrame s frame
    rw [effect] at emitted
    exact absurd emitted List.not_mem_nil
  | _ => exact absurd emitted List.not_mem_nil

/-- The RX thread's put is one step of the machine, and no other step puts its messages. -/
theorem mem_step_rx {s : State} {event : Event} {output : Output}
    (kind : ∀ data, output ≠ .rcData data) (notMotion : ∀ motion, output ≠ .motion motion)
    (notState : ∀ state, output ≠ .robotState state) :
    output ∈ (step s event).2 ↔
      event = .messengerRx ∧
        ∃ rx, s.messengerRx = some rx ∧ rx.Puts s ∧ output = rx.job.output s.clock := by
  constructor
  · intro emitted
    rcases mem_step_cases emitted with ⟨-, data, same⟩ | puts | ⟨-, own⟩
    · exact absurd same (kind data)
    · exact puts
    · rcases coordinatorStep_outputs own with ⟨_, _, same⟩ | ⟨_, _, same⟩
      · exact absurd same (notMotion _)
      · exact absurd same (notState _)
  · rintro ⟨rfl, puts⟩
    exact mem_messengerRxStep.mpr puts

/-- A motion is put by the coordinator alone, at its motion put. -/
theorem motion_mem_step {s : State} {event : Event} {motion : TimedMotion}
    (emitted : .motion motion ∈ (step s event).2) :
    event = .coordinator ∧ (∃ purging, s.coordinator.pc = .putMotion purging) ∧
      motion = s.coordinator.desiredMotion := by
  rcases mem_step_cases emitted with ⟨-, _, same⟩ | ⟨-, rx, -, -, same⟩ | ⟨turn, own⟩
  · contradiction
  · cases job : rx.job <;> simp [job, RxJob.output] at same
  · rcases coordinatorStep_outputs own with ⟨purging, at_pc, same⟩ | ⟨_, _, same⟩
    · exact ⟨turn, ⟨purging, at_pc⟩, Output.motion.inj same⟩
    · contradiction

end Robofw.Model.Tbot
