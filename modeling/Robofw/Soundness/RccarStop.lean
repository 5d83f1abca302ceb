import Robofw.Core.Observation
import Robofw.Model.Rccar

/-! # How long the RC car goes on sending

The TX thread sends a frame pair for a waiting motion whenever it finds a permitting state. With the
remote control silent the coordinator puts at most seven more motions before its watchdog expires, and
two may wait already. With the coordinator blocked no more permitting states are put, so what counts is
the one that waits and the one that the TX thread holds. Each bound is a budget that frame pairs use up.
-/

namespace Robofw.Model.Rccar

open Robofw.Core

/-- No RC poll finds a message. -/
def Silent (s : State) (event : Event) : Prop :=
  event = .coordinator → s.coordinator.pc = .pollRc → s.receiverDataQueue.items = []

instance (s : State) (event : Event) : Decidable (Silent s event) :=
  inferInstanceAs (Decidable (_ → _))

/-- The RC message clears the e-stop and selects RC control. -/
def Unblocks (data : ReceiverData) : Prop := data.channels.get 5 > 0 ∧ Coordinator.selectsRc data

instance (data : ReceiverData) : Decidable (Unblocks data) := inferInstanceAs (Decidable (_ ∧ _))

/-- No RC poll finds a message that unblocks. -/
def StaysBlocked (s : State) (event : Event) : Prop :=
  event = .coordinator → s.coordinator.pc = .pollRc →
    ∀ data ∈ s.receiverDataQueue.items.head?, ¬ Unblocks data

instance (s : State) (event : Event) : Decidable (StaysBlocked s event) :=
  inferInstanceAs (Decidable (_ → _ → ∀ data ∈ s.receiverDataQueue.items.head?, ¬ Unblocks data))

/-- The coordinator is in its put-or-purge loop for the motion. -/
def Coordinator.putting (c : Coordinator) : Bool :=
  match c.pc with
  | .putMotion _ => true
  | _ => false

/-- The motions that the coordinator still puts when no RC message comes. -/
def putBudget (c : Coordinator) : ℕ :=
  if c.robotState.controlMode = .rc then rcTimeoutCount + 1 - c.rcCounter + c.putting.toNat else 0

/-- The frame pairs that may still come when no RC message does. -/
def silenceBudget (s : State) : ℕ := s.rcDesiredMotionQueue.items.length + putBudget s.coordinator

/-- The TX thread may take a motion after it has taken this state. -/
def permits (state : RobotState) : Bool := !state.estopTriggered && state.controlMode == .rc

/-- The permitting states that wait, and the one that the TX thread holds. -/
def permitBudget (s : State) : ℕ :=
  s.robotStateQueue.items.countP permits + (decide (s.messengerTx = .takeMotion)).toNat

/-- A motion is put in RC mode only. -/
def PutsInRc (s : State) : Prop :=
  ∀ purging, s.coordinator.pc = .putMotion purging → s.coordinator.robotState.controlMode = .rc

/-- The update of the control spends a put that it begins. -/
theorem putBudget_updateControl (c : Coordinator) :
    putBudget c.updateControl ≤
      if c.robotState.controlMode = .rc then rcTimeoutCount + 1 - c.rcCounter + 1 else 0 := by
  have mode : c.updateControl.robotState = c.robotState := rfl
  have counter : c.updateControl.rcCounter = c.rcCounter := rfl
  unfold putBudget
  rw [mode, counter]
  split
  · have one := Bool.toNat_le c.updateControl.putting
    omega
  · exact Nat.le_refl 0

/-- Outside the motion's loop the coordinator has no put to pay for. -/
theorem putBudget_idle {c : Coordinator} {pc : CoordinatorPc}
    (idle : Coordinator.putting { c with pc := pc } = false) :
    putBudget { c with pc := pc } ≤ putBudget c := by
  unfold putBudget
  rw [idle]
  dsimp only
  split
  · exact Nat.add_le_add_left (Nat.zero_le _) _
  · exact Nat.le_refl 0

/-- A poll without a message spends a count of the watchdog for the put that it begins. -/
theorem putBudget_missRc (c : Coordinator) : putBudget c.missRc.updateControl ≤ putBudget c := by
  refine (putBudget_updateControl c.missRc).trans ?_
  unfold Coordinator.missRc
  split
  case isTrue => exact Nat.zero_le _
  case isFalse running =>
    unfold putBudget
    dsimp only
    split
    · have small : (c.rcCounter + 1) % 256 = c.rcCounter + 1 :=
        Nat.mod_eq_of_lt (by simp only [rcTimeoutCount] at running; omega)
      rw [small]
      omega
    · exact Nat.le_refl 0

/-- A put makes a waiting motion of the budget, and a purge only drops some. -/
theorem silenceBudget_put {s : State} {purging : Bool} (at_pc : s.coordinator.pc = .putMotion purging)
    (mode : s.coordinator.robotState.controlMode = .rc) :
    silenceBudget (coordinatorStep s) ≤ silenceBudget s := by
  have effect := MessageQueue.attempt_items s.rcDesiredMotionQueue purging s.coordinator.desiredMotion
  simp only [coordinatorStep, at_pc, silenceBudget, putBudget, mode, if_true, Coordinator.putting]
  split
  case h_1 queue attempted =>
    rw [attempted] at effect
    have grown : queue.items.length = s.rcDesiredMotionQueue.items.length + 1 := by
      rw [show queue.items = _ from effect, List.length_append, List.length_singleton]
    simp only [mode, if_true, grown, Bool.toNat_true, Bool.toNat_false]
    omega
  case h_2 queue outcome notDone attempted =>
    rw [attempted] at effect
    have shorter : queue.items.length ≤ s.rcDesiredMotionQueue.items.length := by
      cases outcome with
      | done => exact absurd rfl notDone
      | full => exact Nat.le_of_eq (congrArg (·.items.length) effect)
      | purged => exact (congrArg (·.items.length) effect).trans_le (Nat.zero_le _)
    simp only [mode, if_true]
    omega

/-- A frame pair, a put and a count of the watchdog are each paid for. -/
theorem silenceBudget_step (s : State) (event : Event) (inRc : PutsInRc s) (silent : Silent s event) :
    (step s event).2.length + silenceBudget (step s event).1 ≤ silenceBudget s := by
  cases event with
  | rcMessage data => simp only [step]; split <;> exact (Nat.zero_add _).le
  | receiver =>
    simp only [step, receiverStep]
    split
    · exact (Nat.zero_add _).le
    · split <;> exact (Nat.zero_add _).le
  | messengerTx =>
    simp only [step, messengerTxStep]
    split
    · split <;> exact (Nat.zero_add _).le
    · split
      case h_1 motion queue taken =>
        have items := congrArg List.length (MessageQueue.get_eq_some taken)
        rw [List.length_cons] at items
        simp only [silenceBudget, List.length_singleton]
        omega
      case h_2 => exact (Nat.zero_add _).le
  | coordinator =>
    refine (Nat.zero_add _).trans_le ?_
    change silenceBudget (coordinatorStep s) ≤ silenceBudget s
    cases at_pc : s.coordinator.pc with
    | pollRc =>
      have taken := MessageQueue.get_eq_none_iff.mpr (silent rfl at_pc)
      simp only [coordinatorStep, at_pc, taken]
      exact Nat.add_le_add_left (putBudget_missRc s.coordinator) _
    | putMotion purging => exact silenceBudget_put at_pc (inRc purging at_pc)
    | putState purging =>
      simp only [coordinatorStep, at_pc]
      split
      · exact Nat.add_le_add_left (putBudget_idle rfl) _
      · exact Nat.add_le_add_left (putBudget_idle rfl) _

theorem putsInRc_updateControl {s : State} {c : Coordinator}
    (updated : s.coordinator = c.updateControl) : PutsInRc s := by
  intro purging at_pc
  rw [updated] at at_pc ⊢
  simp only [Coordinator.updateControl] at at_pc
  split at at_pc
  case isTrue sends => exact sends.2
  case isFalse => contradiction

theorem putsInRc_step (s : State) (event : Event) (inRc : PutsInRc s) : PutsInRc (step s event).1 := by
  cases event with
  | rcMessage data => simp only [step]; split <;> exact inRc
  | receiver => simp only [step, receiverStep]; split <;> [exact inRc; (split <;> exact inRc)]
  | messengerTx => simp only [step, messengerTxStep]; split <;> split <;> exact inRc
  | coordinator =>
    simp only [step, coordinatorStep]
    cases at_pc : s.coordinator.pc with
    | pollRc => dsimp only; split <;> exact putsInRc_updateControl rfl
    | putMotion purging =>
      dsimp only
      split
      · exact nofun
      · exact fun _ _ => inRc purging at_pc
    | putState purging => dsimp only; split <;> exact nofun

/-- The frame pairs of a step. -/
def framePairs (s : State) (event : Event) : List Output := (step s event).2

/-- From every reachable state, the car sends at most nine more frame pairs while no RC poll finds a
message. -/
theorem framePairs_silent (events rest : List Event)
    (silent : ∀ step ∈ machine.stepsFrom (machine.run events) rest, Silent step.1 step.2) :
    (machine.observedFrom framePairs (machine.run events) rest).length ≤ 9 := by
  have inRc : PutsInRc (machine.run events) :=
    Machine.invariant_run (m := machine) PutsInRc nofun putsInRc_step events
  have paid := Machine.observedFrom_length_le machine framePairs silenceBudget PutsInRc
    Silent (fun s event inRc _ => putsInRc_step s event inRc) silenceBudget_step inRc silent
  have waiting := (machine.run events).rcDesiredMotionQueue.bounded
  have puts : putBudget (machine.run events).coordinator ≤ 7 := by
    have one := Bool.toNat_le (machine.run events).coordinator.putting
    unfold putBudget rcTimeoutCount
    split <;> omega
  unfold silenceBudget at paid
  omega

/-- RC control at full speed, with the e-stop off or on. -/
private def driveMessage (estop : ℚ) : ReceiverData := ⟨#v[0, 0, 1, 0, 0, estop, -1, 0]⟩

/-- Two motions wait, a state permits, and the TX thread holds another. -/
private def primed : List Event :=
  .rcMessage (driveMessage 1) :: .receiver :: (List.replicate 4 Event.coordinator ++
    [.rcMessage (driveMessage 1), .receiver, .coordinator, .messengerTx, .coordinator, .coordinator])

/-- The TX thread takes every state and motion as soon as it is put. -/
private def eager : List Event :=
  (List.replicate 6
    [Event.messengerTx, .coordinator, .messengerTx, .coordinator, .coordinator]).flatten ++
  [Event.messengerTx, .coordinator, .messengerTx, .coordinator, .messengerTx, .messengerTx, .messengerTx]

/-- Nine frame pairs do come when the remote control falls silent. -/
theorem framePairs_silent_nine :
    (machine.observedFrom framePairs (machine.run primed) eager).length = 9 ∧
      (machine.observedFrom framePairs (machine.run primed) eager).length ≤ 9 :=
  ⟨by decide +kernel, framePairs_silent primed eager (by decide +kernel)⟩

/-- A blocked coordinator stays blocked. -/
theorem blocked_missRc {c : Coordinator} (blocked : c.Blocked) : c.missRc.updateControl.Blocked := by
  change c.missRc.Blocked
  unfold Coordinator.missRc
  split
  · exact .inr nofun
  · exact blocked

theorem blocked_receiveRc {c : Coordinator} {data : ReceiverData} {iteration : ℕ}
    (stays : ¬ Unblocks data) : (c.receiveRc data iteration).updateControl.Blocked := by
  change (c.receiveRc data iteration).Blocked
  simp only [Coordinator.Blocked, Coordinator.receiveRc]
  by_cases positive : data.channels.get 5 > 0
  · refine .inr ?_
    rw [if_neg fun selects => stays ⟨positive, selects⟩]
    exact nofun
  · exact .inl (by simp [positive])

theorem blocked_step (s : State) (event : Event) (blocked : s.coordinator.Blocked)
    (stays : StaysBlocked s event) : (step s event).1.coordinator.Blocked := by
  cases event with
  | rcMessage data => simp only [step]; split <;> exact blocked
  | receiver => simp only [step, receiverStep]; split <;> [exact blocked; (split <;> exact blocked)]
  | messengerTx => simp only [step, messengerTxStep]; split <;> split <;> exact blocked
  | coordinator =>
    simp only [step, coordinatorStep]
    cases at_pc : s.coordinator.pc with
    | pollRc =>
      dsimp only
      split
      case h_1 data queue taken =>
        refine blocked_receiveRc (stays rfl at_pc data ?_)
        rw [MessageQueue.get_eq_some taken]
        rfl
      case h_2 => exact blocked_missRc blocked
    | putMotion purging => dsimp only; split <;> exact blocked
    | putState purging => dsimp only; split <;> exact blocked

/-- A blocked coordinator puts no permitting state, and each frame pair spends the one that the TX thread
holds. -/
theorem permitBudget_step (s : State) (event : Event) (blocked : s.coordinator.Blocked) :
    (step s event).2.length + permitBudget (step s event).1 ≤ permitBudget s := by
  cases event with
  | rcMessage data => simp only [step]; split <;> exact (Nat.zero_add _).le
  | receiver =>
    simp only [step, receiverStep]
    split
    · exact (Nat.zero_add _).le
    · split <;> exact (Nat.zero_add _).le
  | messengerTx =>
    simp only [step, messengerTxStep]
    cases held : s.messengerTx with
    | takeState =>
      dsimp only
      split
      case h_1 state queue taken =>
        simp only [permitBudget, held, MessageQueue.get_eq_some taken, List.countP_cons]
        change 0 + (_ + (decide ((if permits state then TxPc.takeMotion else .takeState) = _)).toNat) ≤ _
        cases permits state <;> simp
      case h_2 => exact (Nat.zero_add _).le
    | takeMotion =>
      dsimp only
      split
      · simp only [permitBudget, held, List.length_singleton]
        simp
        omega
      · simp only [permitBudget, held]
        simp
  | coordinator =>
    refine (Nat.zero_add _).trans_le ?_
    change permitBudget (coordinatorStep s) ≤ permitBudget s
    simp only [coordinatorStep]
    cases s.coordinator.pc with
    | pollRc => dsimp only; split <;> exact Nat.le_refl _
    | putMotion purging => dsimp only; split <;> exact Nat.le_refl _
    | putState purging =>
      have effect := MessageQueue.attempt_items s.robotStateQueue purging s.coordinator.robotState
      have refused : permits s.coordinator.robotState = false := by
        unfold permits
        rcases blocked with estop | mode
        · simp [estop]
        · simp [mode]
      dsimp only
      split
      case h_1 queue attempted =>
        rw [attempted] at effect
        have same : queue.items.countP permits = s.robotStateQueue.items.countP permits := by
          rw [show queue.items = _ from effect, List.countP_append, List.countP_singleton, refused]
          rfl
        exact (congrArg (· + _) same).le
      case h_2 queue outcome notDone attempted =>
        rw [attempted] at effect
        have fewer : queue.items.countP permits ≤ s.robotStateQueue.items.countP permits := by
          cases outcome with
          | done => exact absurd rfl notDone
          | full => exact Nat.le_of_eq (congrArg (·.items.countP permits) effect)
          | purged => exact (congrArg (·.items.countP permits) effect).trans_le (Nat.zero_le _)
        exact Nat.add_le_add_right fewer _

/-- From every reachable state in which the coordinator found the e-stop or another mode than RC, the car
sends at most two more frame pairs until an RC message unblocks it. -/
theorem framePairs_blocked (events rest : List Event) (blocked : (machine.run events).coordinator.Blocked)
    (stays : ∀ step ∈ machine.stepsFrom (machine.run events) rest, StaysBlocked step.1 step.2) :
    (machine.observedFrom framePairs (machine.run events) rest).length ≤ 2 := by
  have paid := Machine.observedFrom_length_le machine framePairs permitBudget
    (fun s => s.coordinator.Blocked) StaysBlocked blocked_step
    (fun s event blocked _ => permitBudget_step s event blocked) blocked stays
  have waiting := (machine.run events).robotStateQueue.bounded
  have permitting := (machine.run events).robotStateQueue.items.countP_le_length (p := permits)
  have held := Bool.toNat_le (decide ((machine.run events).messengerTx = .takeMotion))
  unfold permitBudget at paid
  omega

/-- The coordinator polls the e-stop while a state permits and the TX thread holds another. -/
private def stopped : List Event :=
  .rcMessage (driveMessage 1) :: .receiver :: (List.replicate 5 Event.coordinator ++
    [.messengerTx, .coordinator, .rcMessage (driveMessage 0), .receiver, .coordinator])

/-- Two frame pairs do come after the e-stop. -/
theorem framePairs_blocked_two :
    (machine.observedFrom framePairs (machine.run stopped) (.replicate 3 .messengerTx)).length = 2 ∧
      (machine.observedFrom framePairs (machine.run stopped) (.replicate 3 .messengerTx)).length ≤ 2 :=
  ⟨by decide +kernel, framePairs_blocked stopped _ (by decide +kernel) (by decide +kernel)⟩

end Robofw.Model.Rccar
