import Robofw.Core.Progress
import Robofw.Soundness.TbotPipeline

/-! # The put-or-purge loops of the TBot

A producer that finds its queue full drops what waits there and tries again, and another producer may fill
the queue in between. No schedule makes a loop spin: in every run, the calls that a thread makes in its
loops are paid for by the puts that end them and, in the two queues with two producers, by the puts of the
other. So are the whole iterations of the coordinator and the speed control by the report that ends each.
-/

namespace Robofw.Model.Tbot

open Robofw.Core
open Robofw.Model.TbotActuators (Pins TbotActuatorConf)

/-- A thread with put-or-purge loops whose puts a run shows. -/
inductive Producer where
  | receiver
  | messengerRx
  | coordinator
  | motionControl
  | speedControl
deriving DecidableEq

namespace Producer

/-- The event in which the thread makes its next call. -/
def thread : Producer → SystemEvent
  | receiver => .receiver
  | messengerRx => .messengerRx
  | coordinator => .coordinator
  | motionControl => .motionControl
  | speedControl => .speedControl

/-- A put of the thread, which ends a loop. -/
def puts : Producer → SystemOutput → Bool
  | receiver, .services (.rcData _) => true
  | messengerRx, .services (.canMotion _) => true
  | messengerRx, .services (.supervisorCmd _) => true
  | messengerRx, .services (.actuatorCmd _) => true
  | messengerRx, .services (.desiredRpm _) => true
  | coordinator, .services (.motion _) => true
  | coordinator, .services (.robotState _) => true
  | motionControl, .target _ => true
  | speedControl, .command _ => true
  | speedControl, .feedback (.published _) => true
  | _, _ => false

/-- A put of another thread into a queue of this one. -/
def rivals : Producer → SystemOutput → Bool
  | messengerRx, .target _ => true
  | messengerRx, .command _ => true
  | motionControl, .services (.desiredRpm _) => true
  | speedControl, .services (.actuatorCmd _) => true
  | _, _ => false

end Producer

/-- The calls left in the loop of the RX thread. -/
def RxThread.callsLeft (rx : RxThread) (s : State) : ℕ :=
  match rx.job with
  | .supervisorCmd _ => s.supervisorCmdQueue.callsLeft rx.purging
  | .actuatorCmd _ => s.actuatorDataQueue.callsLeft rx.purging
  | .desiredRpm _ => s.desiredRpmQueue.callsLeft rx.purging
  | .desiredMotion _ => s.canDesiredMotionQueue.callsLeft rx.purging

/-- The calls left in the loop of the coordinator. -/
def Coordinator.callsLeft (c : Coordinator) (s : State) : ℕ :=
  match c.pc with
  | .putMotion purging => s.desiredMotionQueue.callsLeft purging
  | .putState purging => s.robotStateQueue.callsLeft purging
  | _ => 0

/-- The calls left in the loop of a producer when nobody gets in its way, none outside its loops. -/
def System.callsLeft (s : System) : Producer → ℕ
  | .receiver =>
    match s.services.receiver with
    | some (_, purging) => s.services.receiverDataQueue.callsLeft purging
    | none => 0
  | .messengerRx =>
    match s.services.messengerRx with
    | some rx => rx.callsLeft s.services
    | none => 0
  | .coordinator => s.services.coordinator.callsLeft s.services
  | .motionControl =>
    match s.motionControl.putting with
    | some purging => s.services.desiredRpmQueue.callsLeft purging
    | none => 0
  | .speedControl =>
    match s.speedControl.pc with
    | .putCmd purging => s.services.actuatorDataQueue.callsLeft purging
    | .putFeedback purging => s.feedbackQueue.callsLeft purging
    | _ => 0

open MessageQueue (callsLeft_pos callsLeft_le callsLeft_attempt)

theorem RxThread.callsLeft_pos (rx : RxThread) (s : State) : 0 < rx.callsLeft s := by
  unfold RxThread.callsLeft
  cases rx.job <;> exact MessageQueue.callsLeft_pos _ _

theorem System.callsLeft_le (s : System) (producer : Producer) : s.callsLeft producer ≤ 3 := by
  cases producer with
  | receiver =>
    simp only [System.callsLeft]
    split <;> [exact MessageQueue.callsLeft_le _ _; exact Nat.zero_le 3]
  | messengerRx =>
    simp only [System.callsLeft]
    split
    · unfold RxThread.callsLeft
      split <;> exact MessageQueue.callsLeft_le _ _
    · exact Nat.zero_le 3
  | coordinator =>
    simp only [System.callsLeft, Coordinator.callsLeft]
    split <;> first | exact MessageQueue.callsLeft_le _ _ | exact Nat.zero_le 3
  | motionControl =>
    simp only [System.callsLeft]
    split <;> [exact MessageQueue.callsLeft_le _ _; exact Nat.zero_le 3]
  | speedControl =>
    simp only [System.callsLeft]
    split <;> first | exact MessageQueue.callsLeft_le _ _ | exact Nat.zero_le 3

/-! ## Own calls -/

/-- A call in a loop ends it with a put, or leaves fewer calls. -/
def CallsLess (producer : Producer) (s : System) (answer : System × List SystemOutput) : Prop :=
  0 < answer.2.countP producer.puts ∨
    (0 < answer.1.callsLeft producer ∧ answer.1.callsLeft producer + 1 ≤ s.callsLeft producer)

theorem callsLess_receiver {s : System} (looping : 0 < s.callsLeft .receiver) :
    CallsLess .receiver s (s.servicesStep .receiver) := by
  unfold System.callsLeft at looping
  cases held : s.services.receiver with
  | none => simp [held] at looping
  | some putting =>
    obtain ⟨data, purging⟩ := putting
    unfold CallsLess
    simp only [System.servicesStep, step, receiverStep, held]
    split
    · exact .inl Nat.one_pos
    case h_2 queue outcome goesOn effect =>
      refine .inr ⟨callsLeft_pos _ _, ?_⟩
      simp only [System.callsLeft, held]
      exact callsLeft_attempt Nat.one_pos effect goesOn

theorem callsLess_coordinator {s : System} (looping : 0 < s.callsLeft .coordinator) :
    CallsLess .coordinator s (s.servicesStep .coordinator) := by
  unfold System.callsLeft Coordinator.callsLeft at looping
  unfold CallsLess
  cases at_pc : s.services.coordinator.pc with
  | putMotion purging =>
    simp only [System.servicesStep, step, coordinatorStep, at_pc]
    split
    · exact .inl Nat.one_pos
    case h_2 queue outcome goesOn effect =>
      refine .inr ⟨callsLeft_pos _ _, ?_⟩
      simp only [System.callsLeft, Coordinator.callsLeft, at_pc]
      exact callsLeft_attempt Nat.one_pos effect goesOn
  | putState purging =>
    simp only [System.servicesStep, step, coordinatorStep, at_pc]
    split
    · exact .inl Nat.one_pos
    case h_2 queue outcome goesOn effect =>
      refine .inr ⟨callsLeft_pos _ _, ?_⟩
      simp only [System.callsLeft, Coordinator.callsLeft, at_pc]
      exact callsLeft_attempt Nat.one_pos effect goesOn
  | _ => simp [at_pc] at looping

theorem callsLess_messengerRx {s : System} (looping : 0 < s.callsLeft .messengerRx) :
    CallsLess .messengerRx s s.messengerRxStep := by
  obtain ⟨source, same⟩ := messengerRxStep_eq s
  unfold System.callsLeft at looping
  rw [same]
  unfold CallsLess
  have move := messengerRxStep_move s.services
  simp only [System.servicesStep, step]
  generalize messengerRxStep s.services = answer at move ⊢
  cases move with
  | idle idle => simp [idle] at looping
  | supervisorCmd rx mode queue outcome running job effect =>
    cases outcome with
    | done => exact .inl Nat.one_pos
    | _ =>
      refine .inr ⟨RxThread.callsLeft_pos _ _, ?_⟩
      simp only [System.callsLeft, RxThread.next, RxThread.callsLeft, running, job]
      exact callsLeft_attempt Nat.one_pos effect (by simp)
  | actuatorCmd rx cmd queue outcome running job effect =>
    cases outcome with
    | done => exact .inl Nat.one_pos
    | _ =>
      refine .inr ⟨RxThread.callsLeft_pos _ _, ?_⟩
      simp only [System.callsLeft, RxThread.next, RxThread.callsLeft, running, job]
      exact callsLeft_attempt (by decide) effect (by simp)
  | desiredRpm rx rpm queue outcome running job effect =>
    cases outcome with
    | done => exact .inl Nat.one_pos
    | _ =>
      refine .inr ⟨RxThread.callsLeft_pos _ _, ?_⟩
      simp only [System.callsLeft, RxThread.next, RxThread.callsLeft, running, job]
      exact callsLeft_attempt Nat.one_pos effect (by simp)
  | desiredMotion rx motion queue outcome running job effect =>
    cases outcome with
    | done => exact .inl Nat.one_pos
    | _ =>
      refine .inr ⟨RxThread.callsLeft_pos _ _, ?_⟩
      simp only [System.callsLeft, RxThread.next, RxThread.callsLeft, running, job]
      exact callsLeft_attempt Nat.one_pos effect (by simp)

theorem callsLess_motionControl {s : System} (looping : 0 < s.callsLeft .motionControl) :
    CallsLess .motionControl s s.motionControlStep := by
  unfold System.callsLeft at looping
  unfold CallsLess
  cases putting : s.motionControl.putting with
  | none => simp [putting] at looping
  | some purging =>
    simp only [System.motionControlStep, putting]
    split
    · exact .inl Nat.one_pos
    case h_2 queue outcome goesOn effect =>
      refine .inr ⟨callsLeft_pos _ _, ?_⟩
      simp only [System.callsLeft, putting]
      exact callsLeft_attempt Nat.one_pos effect goesOn

theorem callsLess_speedControl {s : System} (looping : 0 < s.callsLeft .speedControl) :
    CallsLess .speedControl s s.speedControlStep := by
  have view : s.speed.speedControl = s.speedControl := rfl
  unfold System.callsLeft at looping
  unfold CallsLess
  cases at_pc : s.speedControl.pc with
  | putCmd purging =>
    simp only [System.speedControlStep, Speed.speedControlStep, view, at_pc]
    split
    case h_1 queue effect =>
      obtain ⟨rfl, -⟩ := MessageQueue.attempt_done_iff.mp (congrArg Prod.snd effect)
      exact .inl (Nat.lt_of_lt_of_le Nat.one_pos (List.countP_pos_iff.mpr ⟨_, List.mem_cons_self .., rfl⟩))
    case h_2 queue outcome goesOn effect =>
      refine .inr ⟨callsLeft_pos _ _, ?_⟩
      simp only [System.callsLeft, System.withSpeed, at_pc]
      exact callsLeft_attempt (by decide) effect goesOn
  | putFeedback purging =>
    simp only [System.speedControlStep, Speed.speedControlStep, view, at_pc]
    split
    case h_1 queue effect =>
      exact .inl (List.countP_pos_iff.mpr ⟨_, List.mem_append_right _ (List.mem_singleton_self _), rfl⟩)
    case h_2 queue outcome goesOn effect =>
      refine .inr ⟨callsLeft_pos _ _, ?_⟩
      simp only [System.callsLeft, System.withSpeed, at_pc]
      exact callsLeft_attempt Nat.one_pos effect goesOn
  | _ => simp [at_pc] at looping

/-! ## Calls of the others -/

variable {conf : TbotActuatorConf} {uplink : Uplink} {s : System} {event : SystemEvent}

/-- The call that the services make. -/
def SystemEvent.call? : SystemEvent → Option Event
  | .rcMessage data => some (.rcMessage data)
  | .receiver => some .receiver
  | .canFrame frame => some (.canFrame frame)
  | .messengerRx => some .messengerRx
  | .coordinator => some .coordinator
  | _ => none

/-- What the other threads leave alone of the services. -/
structure Apart (services next : State) : Prop where
  receiver : next.receiver = services.receiver
  receiverDataQueue : next.receiverDataQueue = services.receiverDataQueue
  messengerRx : next.messengerRx = services.messengerRx
  supervisorCmdQueue : next.supervisorCmdQueue = services.supervisorCmdQueue
  canDesiredMotionQueue : next.canDesiredMotionQueue = services.canDesiredMotionQueue
  coordinator : next.coordinator = services.coordinator

theorem Apart.refl (services : State) : Apart services services := ⟨rfl, rfl, rfl, rfl, rfl, rfl⟩

/-- The services make a call of their own, or another thread works apart from them. -/
theorem services_step (conf : TbotActuatorConf) (uplink : Uplink) (s : System) (event : SystemEvent) :
    (∃ call, event.call? = some call ∧
        (s.step conf uplink event).1.services = (step s.services call).1) ∨
      Apart s.services (s.step conf uplink event).1.services := by
  unfold System.step
  split
  · exact .inr (.refl _)
  cases event with
  | rcMessage data => exact .inl ⟨_, rfl, rfl⟩
  | receiver => exact .inl ⟨_, rfl, rfl⟩
  | canFrame frame => exact .inl ⟨_, rfl, rfl⟩
  | coordinator => exact .inl ⟨_, rfl, rfl⟩
  | messengerRx =>
    obtain ⟨source, same⟩ := messengerRxStep_eq s
    refine .inl ⟨_, rfl, ?_⟩
    simp only [System.act, same]
    rfl
  | messengerTx => exact .inr ⟨rfl, rfl, rfl, rfl, rfl, rfl⟩
  | speedControl => exact .inr ⟨rfl, rfl, rfl, rfl, rfl, rfl⟩
  | estimate estimate =>
    refine .inr ?_
    simp only [System.act]
    split <;> exact .refl _
  | encoder =>
    refine .inr ?_
    simp only [System.act, System.encoderStep]
    split <;> [skip; split] <;> exact .refl _
  | motionControl =>
    have move := motionControlStep_move s
    refine .inr ?_
    simp only [System.act]
    generalize s.motionControlStep = answer at move ⊢
    cases move <;> exact ⟨rfl, rfl, rfl, rfl, rfl, rfl⟩
  | actuator =>
    have move := actuatorStep_move conf s
    refine .inr ?_
    simp only [System.act]
    generalize s.actuatorStep conf = answer at move ⊢
    cases move <;> exact ⟨rfl, rfl, rfl, rfl, rfl, rfl⟩

/-- What the coordinator does to the loops of the receiver and the RX thread: it takes from their queues. -/
structure Polls (services next : State) : Prop where
  receiver : next.receiver = services.receiver
  messengerRx : next.messengerRx = services.messengerRx
  receiverDataQueue : next.receiverDataQueue.items.Sublist services.receiverDataQueue.items
  supervisorCmdQueue : next.supervisorCmdQueue.items.Sublist services.supervisorCmdQueue.items
  canDesiredMotionQueue : next.canDesiredMotionQueue.items.Sublist services.canDesiredMotionQueue.items

theorem polls_coordinator (services : State) : Polls services (coordinatorStep services).1 := by
  have taken {α : Type} {queue next : MessageQueue α 1} {message : α}
      (get : queue.get = some (message, next)) : next.items.Sublist queue.items :=
    MessageQueue.get_eq_some get ▸ List.sublist_cons_self _ _
  simp only [coordinatorStep]
  cases services.coordinator.pc with
  | pollRc =>
    dsimp only
    split
    case h_1 get => exact ⟨rfl, rfl, taken get, .refl _, .refl _⟩
    case h_2 => exact ⟨rfl, rfl, .refl _, .refl _, .refl _⟩
  | pollCan =>
    dsimp only
    split
    case h_1 get => exact ⟨rfl, rfl, .refl _, .refl _, taken get⟩
    case h_2 => exact ⟨rfl, rfl, .refl _, .refl _, .refl _⟩
  | pollSup =>
    dsimp only
    split
    case h_1 get => exact ⟨rfl, rfl, .refl _, taken get, .refl _⟩
    case h_2 => exact ⟨rfl, rfl, .refl _, .refl _, .refl _⟩
  | putMotion purging => dsimp only; split <;> exact ⟨rfl, rfl, .refl _, .refl _, .refl _⟩
  | putState purging => dsimp only; split <;> exact ⟨rfl, rfl, .refl _, .refl _, .refl _⟩

/-- While the receiver puts, the others take from its queue at most. -/
theorem receiver_waits {services : State} {call : Event} (other : call ≠ .receiver)
    {putting : ReceiverData × Bool} (held : services.receiver = some putting) :
    (step services call).1.receiver = some putting ∧
      (step services call).1.receiverDataQueue.items.Sublist services.receiverDataQueue.items := by
  cases call with
  | receiver => exact absurd rfl other
  | coordinator =>
    have polls := polls_coordinator services
    exact ⟨polls.receiver.trans held, polls.receiverDataQueue⟩
  | rcMessage data =>
    have busy : ¬ services.receiver.isNone = true := by simp [held]
    simp only [step, if_neg busy]
    exact ⟨held, .refl _⟩
  | canFrame frame =>
    obtain ⟨messengerRx, effect⟩ := step_canFrame services frame
    rw [effect]
    exact ⟨held, .refl _⟩
  | messengerRx =>
    have move := messengerRxStep_move services
    simp only [step]
    generalize messengerRxStep services = answer at move ⊢
    cases move <;> exact ⟨held, .refl _⟩
  | _ => exact ⟨held, .refl _⟩

/-- While the RX thread puts, the others take from the two queues that are its own at most. -/
theorem messengerRx_waits {services : State} {call : Event} (other : call ≠ .messengerRx) {rx : RxThread}
    (running : services.messengerRx = some rx) :
    (step services call).1.messengerRx = some rx ∧
      (step services call).1.supervisorCmdQueue.items.Sublist services.supervisorCmdQueue.items ∧
      (step services call).1.canDesiredMotionQueue.items.Sublist services.canDesiredMotionQueue.items := by
  cases call with
  | messengerRx => exact absurd rfl other
  | coordinator =>
    have polls := polls_coordinator services
    exact ⟨polls.messengerRx.trans running, polls.supervisorCmdQueue, polls.canDesiredMotionQueue⟩
  | canFrame frame =>
    have busy : ¬ services.messengerRx.isNone = true := by simp [running]
    simp only [step, if_neg busy]
    exact ⟨running, .refl _, .refl _⟩
  | rcMessage data =>
    obtain ⟨receiver, effect⟩ := step_rcMessage services data
    rw [effect]
    exact ⟨running, .refl _, .refl _⟩
  | receiver =>
    simp only [step, receiverStep]
    split <;> [skip; split] <;> exact ⟨running, .refl _, .refl _⟩
  | _ => exact ⟨running, .refl _, .refl _⟩

/-- An output of the services comes from a call of their own. -/
theorem services_mem_step {output : Output} (emitted : .services output ∈ (s.step conf uplink event).2) :
    ∃ call, event.call? = some call ∧ output ∈ (step s.services call).2 := by
  have ofServices {call : Event} (member : .services output ∈ (s.servicesStep call).2) :
      output ∈ (step s.services call).2 := by
    obtain ⟨shown, own, same⟩ := List.mem_map.mp member
    exact SystemOutput.services.inj same ▸ own
  have sent := sender?_of_mem emitted
  unfold System.step at emitted
  split at emitted
  · exact absurd emitted List.not_mem_nil
  cases event with
  | rcMessage data => exact ⟨_, rfl, ofServices emitted⟩
  | receiver => exact ⟨_, rfl, ofServices emitted⟩
  | canFrame frame => exact ⟨_, rfl, ofServices emitted⟩
  | coordinator => exact ⟨_, rfl, ofServices emitted⟩
  | messengerRx =>
    obtain ⟨source, same⟩ := messengerRxStep_eq s
    simp only [System.act, same] at emitted
    exact ⟨_, rfl, ofServices emitted⟩
  | messengerTx =>
    have own := sender?_messengerTx emitted
    contradiction
  | speedControl =>
    have own := sender?_speedControl emitted
    contradiction
  | motionControl =>
    have own := sender?_motionControl emitted
    contradiction
  | actuator =>
    have own := sender?_actuator emitted
    contradiction
  | estimate estimate =>
    simp only [System.act] at emitted
    split at emitted <;> exact absurd emitted List.not_mem_nil
  | encoder => exact absurd emitted List.not_mem_nil

/-- Different events make different calls. -/
theorem call?_inj {other : SystemEvent} {call : Event} (called : event.call? = some call)
    (same : other.call? = some call) : event = other := by
  cases event <;> cases called <;> cases other <;> cases same <;> rfl

/-- The thread that puts a message of the services. -/
def Output.putter : Output → SystemEvent
  | .rcData _ => .receiver
  | .motion _ => .coordinator
  | .robotState _ => .coordinator
  | _ => .messengerRx

theorem putter_of_mem {output : Output} (emitted : .services output ∈ (s.step conf uplink event).2) :
    event = output.putter := by
  obtain ⟨call, called, own⟩ := services_mem_step emitted
  rcases mem_step_cases own with ⟨rfl, data, rfl⟩ | ⟨rfl, rx, -, -, rfl⟩ | ⟨rfl, own⟩
  · exact call?_inj called rfl
  · cases rx.job <;> exact call?_inj called rfl
  · rcases coordinatorStep_outputs own with ⟨_, -, rfl⟩ | ⟨_, -, rfl⟩ <;> exact call?_inj called rfl

/-- While a queue takes the puts of rivals alone, each of them costs the loop two calls at most. -/
theorem callsLeft_rivals {α : Type*} {capacity : ℕ} {queue next : MessageQueue α capacity}
    {outputs : List SystemOutput} {part : SystemOutput → Option α} {takes : List α}
    (delivers : queue.Delivers next (outputs.filterMap part) takes) {rival : SystemOutput → Bool}
    (counts : ∀ output ∈ outputs, (part output).isSome → rival output = true) (purging : Bool) :
    next.callsLeft purging ≤ queue.callsLeft purging + 2 * outputs.countP rival := by
  have fewer : (outputs.filterMap part).length ≤ outputs.countP rival := by
    rw [List.length_filterMap_eq_countP]
    exact List.countP_mono_left fun output member some => counts output member some
  have grown := delivers.callsLeft_le purging
  omega

theorem receiver_other (other : event ≠ .receiver) {putting : ReceiverData × Bool}
    (held : s.services.receiver = some putting) :
    (s.step conf uplink event).1.services.receiver = some putting ∧
      (s.step conf uplink event).1.services.receiverDataQueue.items.Sublist
        s.services.receiverDataQueue.items := by
  rcases services_step conf uplink s event with ⟨call, called, same⟩ | apart
  · rw [same]
    exact receiver_waits (fun own => other (call?_inj called (congrArg some own.symm))) held
  · exact ⟨apart.receiver.trans held, apart.receiverDataQueue ▸ .refl _⟩

theorem messengerRx_other (other : event ≠ .messengerRx) {rx : RxThread}
    (running : s.services.messengerRx = some rx) :
    (s.step conf uplink event).1.services.messengerRx = some rx ∧
      (s.step conf uplink event).1.services.supervisorCmdQueue.items.Sublist
        s.services.supervisorCmdQueue.items ∧
      (s.step conf uplink event).1.services.canDesiredMotionQueue.items.Sublist
        s.services.canDesiredMotionQueue.items := by
  rcases services_step conf uplink s event with ⟨call, called, same⟩ | apart
  · rw [same]
    exact messengerRx_waits (fun own => other (call?_inj called (congrArg some own.symm))) running
  · exact ⟨apart.messengerRx.trans running, apart.supervisorCmdQueue ▸ .refl _,
      apart.canDesiredMotionQueue ▸ .refl _⟩

theorem coordinator_other (other : event ≠ .coordinator) :
    (s.step conf uplink event).1.services.coordinator = s.services.coordinator := by
  rcases services_step conf uplink s event with ⟨call, called, same⟩ | apart
  · rw [same]
    exact (step_frame s.services fun own => other (call?_inj called (congrArg some own.symm))).1
  · exact apart.coordinator

/-- In a step of another thread, the loop of a producer goes on, and each put of a rival costs it two calls
at most. -/
def GoesOn (producer : Producer) (s : System) (answer : System × List SystemOutput) : Prop :=
  0 < answer.1.callsLeft producer ∧
    answer.1.callsLeft producer ≤ s.callsLeft producer + 2 * answer.2.countP producer.rivals

/-- The other threads put no messages of the services for a thread of the services. -/
theorem not_services {thread : SystemEvent} (other : event ≠ thread) {output : Output}
    (emitted : .services output ∈ (s.step conf uplink event).2) : output.putter ≠ thread :=
  fun own => other ((putter_of_mem emitted).trans own)

/-- The other threads put none of the messages of a thread. -/
theorem not_sender {thread : SystemEvent} (other : event ≠ thread) {output : SystemOutput}
    (emitted : output ∈ (s.step conf uplink event).2) : output.sender? ≠ some thread := by
  intro own
  rcases sender?_of_mem emitted with silent | same
  · exact absurd (silent.symm.trans own) (by simp)
  · exact other (Option.some.inj (same.symm.trans own))

theorem goesOn_receiver (other : event ≠ .receiver) (looping : 0 < s.callsLeft .receiver) :
    GoesOn .receiver s (s.step conf uplink event) := by
  unfold GoesOn
  simp only [System.callsLeft] at looping ⊢
  cases held : s.services.receiver with
  | none => simp [held] at looping
  | some putting =>
    obtain ⟨stays, fewer⟩ := receiver_other other held
    rw [stays]
    exact ⟨callsLeft_pos _ _, (MessageQueue.callsLeft_sublist fewer _).trans (Nat.le_add_right _ _)⟩

theorem goesOn_messengerRx (other : event ≠ .messengerRx) (looping : 0 < s.callsLeft .messengerRx) :
    GoesOn .messengerRx s (s.step conf uplink event) := by
  have transport := transport_step conf uplink s event
  unfold GoesOn
  simp only [System.callsLeft] at looping ⊢
  cases running : s.services.messengerRx with
  | none => simp [running] at looping
  | some rx =>
    obtain ⟨stays, supervisor, can⟩ := messengerRx_other other running
    rw [stays]
    refine ⟨rx.callsLeft_pos _, ?_⟩
    simp only [RxThread.callsLeft]
    cases rx.job with
    | supervisorCmd mode =>
      exact (MessageQueue.callsLeft_sublist supervisor _).trans (Nat.le_add_right _ _)
    | desiredMotion motion => exact (MessageQueue.callsLeft_sublist can _).trans (Nat.le_add_right _ _)
    | actuatorCmd cmd =>
      refine callsLeft_rivals transport.commands (fun output emitted put => ?_) _
      cases output with
      | command => rfl
      | services message =>
        cases message with
        | actuatorCmd => exact absurd rfl (not_services other emitted)
        | _ => contradiction
      | _ => contradiction
    | desiredRpm rpm =>
      refine callsLeft_rivals transport.targets (fun output emitted put => ?_) _
      cases output with
      | target => rfl
      | services message =>
        cases message with
        | desiredRpm => exact absurd rfl (not_services other emitted)
        | _ => contradiction
      | _ => contradiction

theorem goesOn_coordinator (other : event ≠ .coordinator) (looping : 0 < s.callsLeft .coordinator) :
    GoesOn .coordinator s (s.step conf uplink event) := by
  have transport := transport_step conf uplink s event
  have stays : (s.step conf uplink event).1.services.coordinator = s.services.coordinator :=
    coordinator_other other
  unfold GoesOn
  simp only [System.callsLeft, Coordinator.callsLeft] at looping ⊢
  rw [stays]
  cases at_pc : s.services.coordinator.pc with
  | putMotion purging =>
    refine ⟨callsLeft_pos _ _, callsLeft_rivals transport.motions (fun output emitted put => ?_) _⟩
    cases output with
    | services message =>
      cases message with
      | motion => exact absurd rfl (not_services other emitted)
      | _ => contradiction
    | _ => contradiction
  | putState purging =>
    refine ⟨callsLeft_pos _ _, callsLeft_rivals transport.states (fun output emitted put => ?_) _⟩
    cases output with
    | services message =>
      cases message with
      | robotState => exact absurd rfl (not_services other emitted)
      | _ => contradiction
    | _ => contradiction
  | _ => simp [at_pc] at looping

theorem goesOn_motionControl (other : event ≠ .motionControl) (looping : 0 < s.callsLeft .motionControl) :
    GoesOn .motionControl s (s.step conf uplink event) := by
  have transport := transport_step conf uplink s event
  have stays := (owned_step conf uplink s event).motionControl other
  unfold GoesOn
  simp only [System.callsLeft] at looping ⊢
  rw [stays]
  cases putting : s.motionControl.putting with
  | none => simp [putting] at looping
  | some purging =>
    refine ⟨callsLeft_pos _ _, callsLeft_rivals transport.targets (fun output emitted put => ?_) _⟩
    cases output with
    | target => exact absurd rfl (not_sender other emitted)
    | services message =>
      cases message with
      | desiredRpm => rfl
      | _ => contradiction
    | _ => contradiction

theorem goesOn_speedControl (other : event ≠ .speedControl) (looping : 0 < s.callsLeft .speedControl) :
    GoesOn .speedControl s (s.step conf uplink event) := by
  have transport := transport_step conf uplink s event
  have stays := (owned_step conf uplink s event).speedControl other
  unfold GoesOn
  simp only [System.callsLeft] at looping ⊢
  rw [stays]
  cases at_pc : s.speedControl.pc with
  | putCmd purging =>
    refine ⟨callsLeft_pos _ _, callsLeft_rivals transport.commands (fun output emitted put => ?_) _⟩
    cases output with
    | command => exact absurd rfl (not_sender other emitted)
    | services message =>
      cases message with
      | actuatorCmd => rfl
      | _ => contradiction
    | _ => contradiction
  | putFeedback purging =>
    refine ⟨callsLeft_pos _ _, callsLeft_rivals transport.feedback (fun output emitted put => ?_) _⟩
    cases output with
    | feedback message =>
      cases message with
      | published => exact absurd rfl (not_sender other emitted)
      | _ => contradiction
    | _ => contradiction
  | _ => simp [at_pc] at looping

variable (conf uplink)

theorem goesOn_step (producer : Producer) (other : event ≠ producer.thread)
    (looping : 0 < s.callsLeft producer) : GoesOn producer s (s.step conf uplink event) := by
  cases producer with
  | receiver => exact goesOn_receiver other looping
  | messengerRx => exact goesOn_messengerRx other looping
  | coordinator => exact goesOn_coordinator other looping
  | motionControl => exact goesOn_motionControl other looping
  | speedControl => exact goesOn_speedControl other looping

/-- In a defined run, a call in a loop ends it or leaves fewer calls. -/
theorem callsLess_step (producer : Producer) (defined : s.undefined = false)
    (looping : 0 < s.callsLeft producer) :
    CallsLess producer s (s.step conf uplink producer.thread) := by
  rw [step_defined defined]
  cases producer with
  | receiver => exact callsLess_receiver looping
  | messengerRx => exact callsLess_messengerRx looping
  | coordinator => exact callsLess_coordinator looping
  | motionControl => exact callsLess_motionControl looping
  | speedControl => exact callsLess_speedControl looping

/-! ## The runs -/

/-- Whether a step is a call of the producer in one of its loops. -/
def loopCall (producer : Producer) (s : System) (event : SystemEvent) : ℕ :=
  if event = producer.thread ∧ s.undefined = false ∧ 0 < s.callsLeft producer then 1 else 0

/-- The calls that the producer may still make in a loop; outside its loops, those of the next one. -/
def loopPotential (producer : Producer) (s : System) : ℕ :=
  if s.callsLeft producer = 0 then 3 else s.callsLeft producer

theorem loopPotential_le (producer : Producer) (s : System) : loopPotential producer s ≤ 3 := by
  have left := s.callsLeft_le producer
  unfold loopPotential
  split <;> omega

/-- A step pays for the call that it is. -/
theorem loopPotential_step (producer : Producer) (s : System) (event : SystemEvent) :
    loopCall producer s event + loopPotential producer (s.step conf uplink event).1 ≤
      loopPotential producer s + (3 * (s.step conf uplink event).2.countP producer.puts +
        2 * (s.step conf uplink event).2.countP producer.rivals) := by
  have most := loopPotential_le producer (s.step conf uplink event).1
  rcases Nat.eq_zero_or_pos (s.callsLeft producer) with outside | looping
  · have free : loopCall producer s event = 0 := if_neg (by omega)
    have full : loopPotential producer s = 3 := if_pos outside
    omega
  have before : loopPotential producer s = s.callsLeft producer := if_neg (by omega)
  rcases eq_or_ne event producer.thread with rfl | other
  · cases stopped : s.undefined with
    | true =>
      have free : loopCall producer s producer.thread = 0 := if_neg (by simp [stopped])
      rw [free, step_undefined stopped]
      exact (Nat.zero_add _).trans_le (Nat.le_add_right _ _)
    | false =>
      have paid : loopCall producer s producer.thread ≤ 1 := by unfold loopCall; split <;> omega
      rcases callsLess_step conf uplink producer stopped looping with put | ⟨goesOn, fewer⟩
      · omega
      · have after : loopPotential producer (s.step conf uplink producer.thread).1 =
            (s.step conf uplink producer.thread).1.callsLeft producer := if_neg (by omega)
        omega
  · have free : loopCall producer s event = 0 := if_neg (fun own => other own.1)
    obtain ⟨goesOn, grown⟩ := goesOn_step conf uplink producer other looping
    have after : loopPotential producer (s.step conf uplink event).1 =
        (s.step conf uplink event).1.callsLeft producer := if_neg (by omega)
    omega

/-- In every run, under every schedule, a producer makes at most three calls in its loops for each put that
ends one and two for each put of a rival into its queue, but for three. -/
theorem loops_advance (before : Pins) (producer : Producer) (events : List SystemEvent) :
    (system conf uplink before).total (loopCall producer) events ≤
      3 * ((system conf uplink before).observed (fun s event => (s.step conf uplink event).2) events).countP
          producer.puts +
        2 * ((system conf uplink before).observed (fun s event => (s.step conf uplink event).2) events).countP
          producer.rivals + 3 := by
  have start : loopPotential producer (system conf uplink before).initial = 3 := by cases producer <;> rfl
  have paid := Machine.total_le (m := system conf uplink before) (loopCall producer)
    (fun s event => 3 * (s.step conf uplink event).2.countP producer.puts +
      2 * (s.step conf uplink event).2.countP producer.rivals) (loopPotential producer)
    (loopPotential_step conf uplink producer) events
  rw [Machine.total_add, Machine.total_mul, Machine.total_mul] at paid
  have puts := Machine.total_countP (m := system conf uplink before)
    (fun s event => (s.step conf uplink event).2) producer.puts events
  have rivals := Machine.total_countP (m := system conf uplink before)
    (fun s event => (s.step conf uplink event).2) producer.rivals events
  rw [puts, rivals] at paid
  omega

/-! ## The iterations -/

/-- A thread whose iterations each end with a report that a run shows. -/
inductive Reporter where
  | coordinator
  | speedControl
deriving DecidableEq

namespace Reporter

def producer : Reporter → Producer
  | coordinator => .coordinator
  | speedControl => .speedControl

/-- The put that ends an iteration. -/
def reports : Reporter → SystemOutput → Bool
  | coordinator, .services (.robotState _) => true
  | speedControl, .feedback (.published _) => true
  | _, _ => false

/-- The most calls of an iteration: its polls, and three for each of its two puts. -/
def calls : Reporter → ℕ
  | coordinator => 9
  | speedControl => 8

end Reporter

/-- The calls that the thread still makes in its iteration when nobody gets in its way, at most. -/
def System.iterationLeft (s : System) : Reporter → ℕ
  | .coordinator =>
    match s.services.coordinator.pc with
    | .pollRc => 9
    | .pollCan => 8
    | .pollSup => 7
    | .putMotion _ => s.callsLeft .coordinator + 3
    | .putState _ => s.callsLeft .coordinator
  | .speedControl =>
    match s.speedControl.pc with
    | .pollEncoder => 8
    | .pollRpm => 7
    | .putCmd _ => s.callsLeft .speedControl + 3
    | .putFeedback _ => s.callsLeft .speedControl

/-- A call of an iteration leaves fewer calls, or it is its report. -/
def IterationLess (reporter : Reporter) (s : System) (answer : System × List SystemOutput) : Prop :=
  1 + answer.1.iterationLeft reporter ≤
    s.iterationLeft reporter + reporter.calls * answer.2.countP reporter.reports

/-- Behind the RC poll of the coordinator there are eight calls at most. -/
theorem iterationLeft_afterRc {s : System} {polled : Coordinator}
    (moved : s.services.coordinator = polled.afterRc) : s.iterationLeft .coordinator ≤ 8 := by
  have at_pc : s.services.coordinator.pc =
      if polled.robotState.controlMode = .can then .pollCan else .pollSup := congrArg (·.pc) moved
  unfold System.iterationLeft
  rw [at_pc]
  by_cases can : polled.robotState.controlMode = .can
  · rw [if_pos can]
  · rw [if_neg can]
    exact Nat.le_succ 7

/-- Behind its supervisor poll there are six. -/
theorem iterationLeft_afterSup {s : System} {polled : Coordinator}
    (moved : s.services.coordinator = polled.afterSup) : s.iterationLeft .coordinator ≤ 6 := by
  obtain ⟨motion, pc, same, -, puts⟩ := afterSup_eq polled
  have at_pc : s.services.coordinator.pc = pc := congrArg (·.pc) (moved.trans same)
  have left := s.callsLeft_le .coordinator
  unfold System.iterationLeft
  rcases puts with rfl | rfl
  · rw [at_pc]
    exact Nat.add_le_add_right left 3
  · rw [at_pc]
    exact left.trans (by decide)

theorem iterationLess_coordinator (s : System) :
    IterationLess .coordinator s (s.servicesStep .coordinator) := by
  unfold IterationLess
  cases at_pc : s.services.coordinator.pc with
  | pollRc =>
    have full : s.iterationLeft .coordinator = 9 := by rw [System.iterationLeft, at_pc]
    have later : (s.servicesStep .coordinator).1.iterationLeft .coordinator ≤ 8 := by
      simp only [System.servicesStep, step, coordinatorStep, at_pc]
      split <;> exact iterationLeft_afterRc rfl
    omega
  | pollCan =>
    have full : s.iterationLeft .coordinator = 8 := by rw [System.iterationLeft, at_pc]
    have later : (s.servicesStep .coordinator).1.iterationLeft .coordinator = 7 := by
      simp only [System.servicesStep, step, coordinatorStep, at_pc]
      split <;> rfl
    omega
  | pollSup =>
    have full : s.iterationLeft .coordinator = 7 := by rw [System.iterationLeft, at_pc]
    have later : (s.servicesStep .coordinator).1.iterationLeft .coordinator ≤ 6 := by
      simp only [System.servicesStep, step, coordinatorStep, at_pc]
      split <;> exact iterationLeft_afterSup rfl
    omega
  | putMotion purging =>
    have left : s.iterationLeft .coordinator = s.services.desiredMotionQueue.callsLeft purging + 3 := by
      simp only [System.iterationLeft, System.callsLeft, Coordinator.callsLeft, at_pc]
    have loops := callsLeft_pos s.services.desiredMotionQueue purging
    simp only [System.servicesStep, step, coordinatorStep, at_pc]
    split
    case h_1 queue effect =>
      have next := callsLeft_le s.services.robotStateQueue false
      rw [left]
      change 1 + s.services.robotStateQueue.callsLeft false ≤ _
      omega
    case h_2 queue outcome goesOn effect =>
      have fewer := callsLeft_attempt Nat.one_pos effect goesOn
      rw [left]
      change 1 + (queue.callsLeft (outcome == .full) + 3) ≤ _
      omega
  | putState purging =>
    have left : s.iterationLeft .coordinator = s.services.robotStateQueue.callsLeft purging := by
      simp only [System.iterationLeft, System.callsLeft, Coordinator.callsLeft, at_pc]
    have loops := callsLeft_pos s.services.robotStateQueue purging
    simp only [System.servicesStep, step, coordinatorStep, at_pc]
    split
    case h_1 queue effect =>
      rw [left]
      change 1 + 9 ≤ _ + 9 * 1
      omega
    case h_2 queue outcome goesOn effect =>
      have fewer := callsLeft_attempt Nat.one_pos effect goesOn
      rw [left]
      change 1 + queue.callsLeft (outcome == .full) ≤ _
      omega

theorem iterationLess_speedControl (s : System) :
    IterationLess .speedControl s s.speedControlStep := by
  have view : s.speed.speedControl = s.speedControl := rfl
  unfold IterationLess
  cases at_pc : s.speedControl.pc with
  | pollEncoder =>
    have full : s.iterationLeft .speedControl = 8 := by rw [System.iterationLeft, at_pc]
    have later : s.speedControlStep.1.iterationLeft .speedControl = 7 := by
      simp only [System.speedControlStep, Speed.speedControlStep, view, at_pc]
      split <;> rfl
    omega
  | pollRpm =>
    have full : s.iterationLeft .speedControl = 7 := by rw [System.iterationLeft, at_pc]
    have later : s.speedControlStep.1.iterationLeft .speedControl ≤ 6 := by
      have left := s.speedControlStep.1.callsLeft_le .speedControl
      unfold System.iterationLeft
      simp only [System.speedControlStep, Speed.speedControlStep, view, at_pc] at left ⊢
      split at left
      · exact Nat.add_le_add_right left 3
      · exact left.trans (by decide)
    omega
  | putCmd purging =>
    have left : s.iterationLeft .speedControl = s.services.actuatorDataQueue.callsLeft purging + 3 := by
      simp only [System.iterationLeft, System.callsLeft, at_pc]
    have loops := callsLeft_pos s.services.actuatorDataQueue purging
    simp only [System.speedControlStep, Speed.speedControlStep, view, at_pc]
    split
    case h_1 queue effect =>
      have next := callsLeft_le s.feedbackQueue false
      rw [left]
      change 1 + s.feedbackQueue.callsLeft false ≤ _
      omega
    case h_2 queue outcome goesOn effect =>
      have fewer : queue.callsLeft (outcome == .full) + 1 ≤
          s.services.actuatorDataQueue.callsLeft purging := callsLeft_attempt (by decide) effect goesOn
      rw [left]
      change 1 + (queue.callsLeft (outcome == .full) + 3) ≤ _
      omega
  | putFeedback purging =>
    have left : s.iterationLeft .speedControl = s.feedbackQueue.callsLeft purging := by
      simp only [System.iterationLeft, System.callsLeft, at_pc]
    have loops := callsLeft_pos s.feedbackQueue purging
    simp only [System.speedControlStep, Speed.speedControlStep, view, at_pc]
    split
    case h_1 queue effect =>
      rw [left]
      exact Nat.add_le_add loops (Nat.mul_le_mul_left 8 (List.countP_pos_iff.mpr
        ⟨_, List.mem_append_right _ (List.mem_singleton_self _), rfl⟩))
    case h_2 queue outcome goesOn effect =>
      have fewer : queue.callsLeft (outcome == .full) + 1 ≤ s.feedbackQueue.callsLeft purging :=
        callsLeft_attempt Nat.one_pos effect goesOn
      rw [left]
      change 1 + queue.callsLeft (outcome == .full) ≤ _
      omega

/-- The other threads leave an iteration where it stands, and each put of a rival costs it two calls at
most. -/
theorem iterationLeft_other (reporter : Reporter) (other : event ≠ reporter.producer.thread) :
    (s.step conf uplink event).1.iterationLeft reporter ≤
      s.iterationLeft reporter + 2 * (s.step conf uplink event).2.countP reporter.producer.rivals := by
  have goesOn := goesOn_step conf uplink (s := s) reporter.producer other
  cases reporter with
  | coordinator =>
    have stays : (s.step conf uplink event).1.services.coordinator = s.services.coordinator :=
      coordinator_other other
    simp only [System.iterationLeft, stays]
    cases at_pc : s.services.coordinator.pc with
    | putMotion purging =>
      have looping : 0 < s.callsLeft .coordinator := by
        simp only [System.callsLeft, Coordinator.callsLeft, at_pc]
        exact callsLeft_pos _ _
      have grown : (s.step conf uplink event).1.callsLeft .coordinator ≤ s.callsLeft .coordinator + 2 * _ :=
        (goesOn looping).2
      change (s.step conf uplink event).1.callsLeft .coordinator + 3 ≤ s.callsLeft .coordinator + 3 + 2 * _
      omega
    | putState purging =>
      have looping : 0 < s.callsLeft .coordinator := by
        simp only [System.callsLeft, Coordinator.callsLeft, at_pc]
        exact callsLeft_pos _ _
      exact (goesOn looping).2
    | _ => exact Nat.le_add_right _ _
  | speedControl =>
    have stays := (owned_step conf uplink s event).speedControl other
    simp only [System.iterationLeft, stays]
    cases at_pc : s.speedControl.pc with
    | putCmd purging =>
      have looping : 0 < s.callsLeft .speedControl := by
        simp only [System.callsLeft, at_pc]
        exact callsLeft_pos _ _
      have grown : (s.step conf uplink event).1.callsLeft .speedControl ≤ s.callsLeft .speedControl + 2 * _ :=
        (goesOn looping).2
      change (s.step conf uplink event).1.callsLeft .speedControl + 3 ≤ s.callsLeft .speedControl + 3 + 2 * _
      omega
    | putFeedback purging =>
      have looping : 0 < s.callsLeft .speedControl := by
        simp only [System.callsLeft, at_pc]
        exact callsLeft_pos _ _
      exact (goesOn looping).2
    | _ => exact Nat.le_add_right _ _

/-- Whether a step is a call of the thread. -/
def ownCall (reporter : Reporter) (s : System) (event : SystemEvent) : ℕ :=
  if event = reporter.producer.thread ∧ s.undefined = false then 1 else 0

/-- A step of the robot pays for the call that it is. -/
theorem iterationLeft_step (reporter : Reporter) (s : System) (event : SystemEvent) :
    ownCall reporter s event + (s.step conf uplink event).1.iterationLeft reporter ≤
      s.iterationLeft reporter +
        (reporter.calls * (s.step conf uplink event).2.countP reporter.reports +
          2 * (s.step conf uplink event).2.countP reporter.producer.rivals) := by
  rcases eq_or_ne event reporter.producer.thread with rfl | other
  · cases stopped : s.undefined with
    | true =>
      rw [step_undefined stopped, ownCall, if_neg (by simp [stopped])]
      exact (Nat.zero_add _).trans_le (Nat.le_add_right _ _)
    | false =>
      have less : IterationLess reporter s (s.step conf uplink reporter.producer.thread) := by
        rw [step_defined stopped]
        cases reporter with
        | coordinator => exact iterationLess_coordinator s
        | speedControl => exact iterationLess_speedControl s
      unfold IterationLess at less
      rw [ownCall, if_pos ⟨rfl, stopped⟩]
      omega
  · have grown := iterationLeft_other conf uplink (s := s) reporter other
    rw [ownCall, if_neg fun own => other own.1]
    omega

/-- In every run, under every schedule, the coordinator puts a robot state at least every nine of its calls,
and the speed control puts a feedback at least every eight, but for two more for each command of the RX
thread that gets in its way. -/
theorem iterations_end (before : Pins) (reporter : Reporter) (events : List SystemEvent) :
    (system conf uplink before).total (ownCall reporter) events ≤
      reporter.calls * ((system conf uplink before).observed
          (fun s event => (s.step conf uplink event).2) events).countP reporter.reports +
        2 * ((system conf uplink before).observed
          (fun s event => (s.step conf uplink event).2) events).countP reporter.producer.rivals +
        reporter.calls := by
  have start : (system conf uplink before).initial.iterationLeft reporter = reporter.calls := by
    cases reporter <;> rfl
  have paid := Machine.total_le (m := system conf uplink before) (ownCall reporter)
    (fun s event => reporter.calls * (s.step conf uplink event).2.countP reporter.reports +
      2 * (s.step conf uplink event).2.countP reporter.producer.rivals) (·.iterationLeft reporter)
    (iterationLeft_step conf uplink reporter) events
  rw [Machine.total_add, Machine.total_mul, Machine.total_mul] at paid
  have reports := Machine.total_countP (m := system conf uplink before)
    (fun s event => (s.step conf uplink event).2) reporter.reports events
  have rivals := Machine.total_countP (m := system conf uplink before)
    (fun s event => (s.step conf uplink event).2) reporter.producer.rivals events
  rw [reports, rivals, start] at paid
  omega

end Robofw.Model.Tbot
