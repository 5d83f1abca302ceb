import Robofw.Model.Rccar

/-! # No replay on the RC car

The motion queue has two slots and every iteration under RC control fills one, so a motion put before
an e-stop, an RC loss or a CAN-mode episode can wait there until RC control is back. What the TX
thread sends is a motion received since the last blocked iteration exactly when the queue was emptied
in between: when no more motions wait than were put since.
-/

namespace Robofw.Model.Rccar

open Robofw.Core Coordinator

/-- A past RC poll, in the iteration of its stamp, took an RC message that asks for this motion. -/
def DerivedIn (past : List (State × Event)) (motion : RcMotion) : Prop :=
  ∃ earlier ∈ past, earlier.2 = .coordinator ∧ earlier.1.coordinator.pc = .pollRc ∧
    earlier.1.iteration + 1 = motion.stamp ∧
    ∃ data ∈ earlier.1.receiverDataQueue.items, rcMotion data = motion.val

/-- Every frame pair sent for a non-zero motion uses one that the coordinator derived from an RC
message received after the last blocked iteration. -/
def NoReplay (events : List Event) : Prop :=
  ∀ before event after, events = before ++ event :: after →
    ∀ output ∈ (step (machine.run before) event).2, output.motion.val ≠ .zero →
      DerivedIn (machine.steps before) output.motion ∧
        (machine.run before).lastBlocked < output.motion.stamp

/-- A motion the TX thread takes asks for nothing, or no more motions wait than the coordinator has put
since its last blocked iteration. -/
def Drained (s : State) (event : Event) : Prop :=
  event = .messengerTx → s.messengerTx = .takeMotion →
    ∀ motion ∈ s.rcDesiredMotionQueue.items.head?, motion.val = .zero ∨
      s.rcDesiredMotionQueue.items.length ≤ s.putsSinceBlocked

/-- What the ghosts say about the motions. -/
structure Marked (s : State) : Prop where
  marked : s.lastBlocked ≤ s.iteration
  stamped : s.coordinator.desiredMotion.stamp ≤ s.iteration
  waiting : ∀ motion ∈ s.rcDesiredMotionQueue.items, motion.stamp ≤ s.iteration
  blocked : s.coordinator.Blocked → s.lastBlocked = s.iteration ∧ s.putsSinceBlocked = 0
  unblocked : ¬ s.coordinator.Blocked → s.lastBlocked < s.coordinator.desiredMotion.stamp
  parted : Parted s.rcDesiredMotionQueue.items s.lastBlocked s.putsSinceBlocked

/-- Every motion that waits or is saved asks for nothing or was derived by a past step. -/
structure Derived (past : List (State × Event)) (s : State) : Prop where
  waiting : ∀ motion ∈ s.rcDesiredMotionQueue.items, motion.val = .zero ∨ DerivedIn past motion
  desired : s.coordinator.desiredMotion.val = .zero ∨ DerivedIn past s.coordinator.desiredMotion

/-- The step starts no iteration and puts no motion. -/
structure Keeps (s next : State) : Prop where
  robotState : next.coordinator.robotState = s.coordinator.robotState
  desiredMotion : next.coordinator.desiredMotion = s.coordinator.desiredMotion
  iteration : next.iteration = s.iteration
  lastBlocked : next.lastBlocked = s.lastBlocked
  putsSinceBlocked : next.putsSinceBlocked = s.putsSinceBlocked

/-- What a step can do to the motions: receive one in an RC poll, put one, purge or take them. -/
inductive MotionMove (s : State) (event : Event) : State → Prop
  | receiveRc (data : ReceiverData) (queue : MessageQueue ReceiverData 1) :
      event = .coordinator → s.coordinator.pc = .pollRc →
      s.receiverDataQueue.items = data :: queue.items →
      MotionMove s event { s.startIteration (s.coordinator.receiveRc data (s.iteration + 1)) with
        receiverDataQueue := queue }
  | missRc : MotionMove s event (s.startIteration s.coordinator.missRc)
  | put (queue : MessageQueue RcMotion 2) (pc : CoordinatorPc) :
      queue.items = s.rcDesiredMotionQueue.items ++ [s.coordinator.desiredMotion] →
      MotionMove s event { s with
        rcDesiredMotionQueue := queue
        coordinator := { s.coordinator with pc := pc }
        putsSinceBlocked :=
          if s.coordinator.Blocked then s.putsSinceBlocked else s.putsSinceBlocked + 1 }
  | purge (next : State) : next.rcDesiredMotionQueue.items = [] → Keeps s next → MotionMove s event next
  | take (next : State) (motion : RcMotion) :
      s.rcDesiredMotionQueue.items = motion :: next.rcDesiredMotionQueue.items → Keeps s next →
      MotionMove s event next
  | other (next : State) : next.rcDesiredMotionQueue = s.rcDesiredMotionQueue → Keeps s next →
      MotionMove s event next

theorem receiverStep_other (s : State) : MotionMove s .receiver (receiverStep s) := by
  unfold receiverStep
  split
  · exact .other _ rfl ⟨rfl, rfl, rfl, rfl, rfl⟩
  · split <;> exact .other _ rfl ⟨rfl, rfl, rfl, rfl, rfl⟩

theorem coordinatorStep_move (s : State) : MotionMove s .coordinator (coordinatorStep s) := by
  simp only [coordinatorStep]
  cases at_pc : s.coordinator.pc with
  | pollRc =>
    dsimp only
    split
    · exact .receiveRc _ _ rfl at_pc (MessageQueue.get_eq_some ‹_›)
    · exact .missRc
  | putMotion purging =>
    dsimp only
    have effect := MessageQueue.attempt_items s.rcDesiredMotionQueue purging s.coordinator.desiredMotion
    split
    case h_1 queue attempted =>
      rw [attempted] at effect
      exact .put _ _ effect
    case h_2 queue outcome notDone attempted =>
      rw [attempted] at effect
      cases outcome with
      | done => exact absurd rfl notDone
      | full => exact .other _ effect ⟨rfl, rfl, rfl, rfl, rfl⟩
      | purged => exact .purge _ (congrArg MessageQueue.items effect) ⟨rfl, rfl, rfl, rfl, rfl⟩
  | putState purging =>
    dsimp only
    split <;> exact .other _ rfl ⟨rfl, rfl, rfl, rfl, rfl⟩

theorem messengerTxStep_move (s : State) : MotionMove s .messengerTx (messengerTxStep s).1 := by
  unfold messengerTxStep
  split
  · split <;> exact .other _ rfl ⟨rfl, rfl, rfl, rfl, rfl⟩
  · split
    · exact .take _ _ (MessageQueue.get_eq_some ‹_›) ⟨rfl, rfl, rfl, rfl, rfl⟩
    · exact .other _ rfl ⟨rfl, rfl, rfl, rfl, rfl⟩

theorem step_move (s : State) (event : Event) : MotionMove s event (step s event).1 := by
  cases event with
  | rcMessage data =>
    simp only [step]
    split <;> exact .other _ rfl ⟨rfl, rfl, rfl, rfl, rfl⟩
  | receiver => exact receiverStep_other s
  | coordinator => exact coordinatorStep_move s
  | messengerTx => exact messengerTxStep_move s

/-- A new iteration keeps the marks when its RC poll leaves a motion of this iteration, or the motion
of an unblocked state. -/
private theorem marked_startIteration {s : State} (marks : Marked s) {polled : Coordinator}
    (stamped : polled.desiredMotion.stamp ≤ s.iteration + 1)
    (fresh : ¬ polled.Blocked → s.lastBlocked < polled.desiredMotion.stamp) :
    Marked (s.startIteration polled) := by
  have waiting : ∀ motion ∈ s.rcDesiredMotionQueue.items, motion.stamp ≤ s.iteration + 1 :=
    fun motion member => Nat.le_succ_of_le (marks.waiting motion member)
  have desired : (s.startIteration polled).coordinator.desiredMotion.stamp =
      polled.desiredMotion.stamp := updateControl_stamp polled
  by_cases blocked : polled.Blocked
  · have mark : (s.startIteration polled).lastBlocked = s.iteration + 1 := if_pos blocked
    have puts : (s.startIteration polled).putsSinceBlocked = 0 := if_pos blocked
    refine ⟨mark.le, desired.trans_le stamped, waiting, fun _ => ⟨mark, puts⟩,
      fun unblocked => absurd blocked unblocked, ?_⟩
    rw [mark, puts]
    exact .of_stamps waiting
  · have mark : (s.startIteration polled).lastBlocked = s.lastBlocked := if_neg blocked
    have puts : (s.startIteration polled).putsSinceBlocked = s.putsSinceBlocked := if_neg blocked
    refine ⟨mark.trans_le (Nat.le_succ_of_le marks.marked), desired.trans_le stamped, waiting,
      fun other => absurd other blocked, fun _ => ?_, ?_⟩
    · rw [mark, desired]
      exact fresh blocked
    · rw [mark, puts]
      exact marks.parted

private theorem marked_receiveRc {s : State} (marks : Marked s) (data : ReceiverData)
    (queue : MessageQueue ReceiverData 1) :
    Marked { s.startIteration (s.coordinator.receiveRc data (s.iteration + 1)) with
      receiverDataQueue := queue } := by
  have marks : Marked (s.startIteration (s.coordinator.receiveRc data (s.iteration + 1))) := by
    by_cases selected : selectsRc data
    · have stamp : (s.coordinator.receiveRc data (s.iteration + 1)).desiredMotion.stamp =
          s.iteration + 1 := by simp only [receiveRc, selected, if_true]
      have marked := marks.marked
      exact marked_startIteration marks stamp.le (fun _ => by omega)
    · have same : (s.coordinator.receiveRc data (s.iteration + 1)).desiredMotion =
          s.coordinator.desiredMotion := by simp only [receiveRc, selected, if_false]
      have blocked : (s.coordinator.receiveRc data (s.iteration + 1)).Blocked := by
        right
        simp only [receiveRc, selected, if_false]
        decide
      exact marked_startIteration marks (same ▸ Nat.le_succ_of_le marks.stamped)
        (fun unblocked => absurd blocked unblocked)
  exact ⟨marks.marked, marks.stamped, marks.waiting, marks.blocked, marks.unblocked, marks.parted⟩

private theorem marked_missRc {s : State} (marks : Marked s) :
    Marked (s.startIteration s.coordinator.missRc) := by
  have same : s.coordinator.missRc.desiredMotion = s.coordinator.desiredMotion := by
    unfold missRc; split <;> rfl
  refine marked_startIteration marks (same ▸ Nat.le_succ_of_le marks.stamped) ?_
  intro unblocked
  rw [same]
  apply marks.unblocked
  intro blocked
  refine unblocked ?_
  unfold missRc
  split
  · exact .inr (by simp)
  · exact blocked

/-- A step that only takes motions away keeps the marks. -/
private theorem marked_keeps {s next : State} (marks : Marked s) (keeps : Keeps s next)
    (waiting : ∀ motion ∈ next.rcDesiredMotionQueue.items, motion ∈ s.rcDesiredMotionQueue.items)
    (parted : Parted next.rcDesiredMotionQueue.items s.lastBlocked s.putsSinceBlocked) :
    Marked next := by
  have blocked : next.coordinator.Blocked ↔ s.coordinator.Blocked := by
    unfold Blocked
    rw [keeps.robotState]
  constructor <;> simp only [keeps.iteration, keeps.lastBlocked, keeps.putsSinceBlocked,
    keeps.desiredMotion, blocked]
  · exact marks.marked
  · exact marks.stamped
  · exact fun motion member => marks.waiting motion (waiting motion member)
  · exact marks.blocked
  · exact marks.unblocked
  · exact parted

/-- A put under a block adds a zero motion to old ones; any other put adds a new motion. -/
private theorem marked_put {s : State} (marks : Marked s) {queue : MessageQueue RcMotion 2}
    {pc : CoordinatorPc}
    (items : queue.items = s.rcDesiredMotionQueue.items ++ [s.coordinator.desiredMotion]) :
    Marked { s with
      rcDesiredMotionQueue := queue
      coordinator := { s.coordinator with pc := pc }
      putsSinceBlocked :=
        if s.coordinator.Blocked then s.putsSinceBlocked else s.putsSinceBlocked + 1 } := by
  have waiting : ∀ motion ∈ queue.items, motion.stamp ≤ s.iteration := by
    intro motion member
    rw [items, List.mem_append, List.mem_singleton] at member
    rcases member with old | rfl
    · exact marks.waiting motion old
    · exact marks.stamped
  refine ⟨marks.marked, marks.stamped, waiting, ?_, marks.unblocked, ?_⟩
  · intro (blocked : s.coordinator.Blocked)
    exact ⟨(marks.blocked blocked).1, (if_pos blocked).trans (marks.blocked blocked).2⟩
  · by_cases blocked : s.coordinator.Blocked
    · obtain ⟨mark, puts⟩ := marks.blocked blocked
      simp only [if_pos blocked, puts]
      exact .of_stamps (fun motion member => mark ▸ waiting motion member)
    · simp only [if_neg blocked, items]
      exact marks.parted.put (marks.unblocked blocked)

theorem marked_step (s : State) (event : Event) (marks : Marked s) : Marked (step s event).1 := by
  have move := step_move s event
  generalize (step s event).1 = next at move ⊢
  cases move with
  | receiveRc data queue => exact marked_receiveRc marks data queue
  | missRc => exact marked_missRc marks
  | put queue pc items => exact marked_put marks items
  | purge _ items keeps => exact marked_keeps marks keeps (by simp [items]) (items ▸ .nil)
  | take _ motion items keeps =>
    exact marked_keeps marks keeps (fun other member => items ▸ List.mem_cons_of_mem _ member)
      (items ▸ marks.parted).tail
  | other _ items keeps =>
    exact marked_keeps marks keeps (fun other member => items ▸ member) (items ▸ marks.parted)

theorem marked_initial : Marked State.initial :=
  ⟨le_refl _, le_refl _, by simp [State.initial], fun _ => ⟨rfl, rfl⟩,
    fun unblocked => absurd (.inl rfl) unblocked, .nil⟩

theorem DerivedIn.append {past : List (State × Event)} {motion : RcMotion}
    (derived : DerivedIn past motion) (last : State × Event) : DerivedIn (past ++ [last]) motion := by
  obtain ⟨earlier, member, poll⟩ := derived
  exact ⟨earlier, List.mem_append_left _ member, poll⟩

theorem derived_step (past : List (State × Event)) (s : State) (event : Event)
    (derived : Derived past s) : Derived (past ++ [(s, event)]) (step s event).1 := by
  have waiting : ∀ motion ∈ s.rcDesiredMotionQueue.items,
      motion.val = .zero ∨ DerivedIn (past ++ [(s, event)]) motion :=
    fun motion member => (derived.waiting motion member).imp_right (·.append _)
  have desired := derived.desired.imp_right (·.append (s, event))
  have move := step_move s event
  generalize (step s event).1 = next at move ⊢
  cases move with
  | receiveRc data queue own at_pc items =>
    refine ⟨waiting, updateControl_source ?_⟩
    by_cases selected : selectsRc data
    · simp only [receiveRc, selected, if_true]
      exact .inr ⟨(s, event), by simp, own, at_pc, rfl, data, items ▸ List.mem_cons_self .., rfl⟩
    · simp only [receiveRc, selected, if_false]
      exact desired
  | missRc =>
    refine ⟨waiting, updateControl_source ?_⟩
    rw [desiredMotion_missRc]
    exact desired
  | put queue pc items =>
    refine ⟨fun motion member => ?_, desired⟩
    rw [items, List.mem_append, List.mem_singleton] at member
    rcases member with old | rfl
    · exact waiting motion old
    · exact desired
  | purge _ items keeps => exact ⟨by simp [items], keeps.desiredMotion ▸ desired⟩
  | take _ motion items keeps =>
    exact ⟨fun other member => waiting other (items ▸ List.mem_cons_of_mem _ member),
      keeps.desiredMotion ▸ desired⟩
  | other _ items keeps => exact ⟨items ▸ waiting, keeps.desiredMotion ▸ desired⟩

theorem derived_initial : Derived [] State.initial := ⟨by simp [State.initial], .inl rfl⟩

/-- Only the TX thread sends, and it sends the head of the motion queue. -/
theorem mem_step_iff {s : State} {event : Event} {output : Output} :
    output ∈ (step s event).2 ↔
      event = .messengerTx ∧ s.messengerTx = .takeMotion ∧
        ∃ motion ∈ s.rcDesiredMotionQueue.items.head?,
          output = ⟨motion, servoPos motion.val, motorRpm motion.val⟩ := by
  cases event with
  | rcMessage data => simp only [step]; split <;> simp
  | receiver => simp [step]
  | coordinator => simp [step]
  | messengerTx =>
    simp only [step, messengerTxStep, true_and]
    cases s.messengerTx with
    | takeState => dsimp only; split <;> simp
    | takeMotion =>
      dsimp only
      split
      case h_1 motion queue taken =>
        rw [MessageQueue.get_eq_some taken]
        simp
      case h_2 empty =>
        rw [MessageQueue.get_eq_none_iff.mp empty]
        simp

/-- The motion at the head was received after the mark exactly when the queue is drained. -/
theorem Marked.head_iff {s : State} (marks : Marked s) {motion : RcMotion}
    (head : motion ∈ s.rcDesiredMotionQueue.items.head?) :
    s.lastBlocked < motion.stamp ↔ s.rcDesiredMotionQueue.items.length ≤ s.putsSinceBlocked := by
  obtain ⟨rest, items⟩ := List.head?_eq_some_iff.mp head
  have parted := marks.parted
  rw [items] at parted ⊢
  exact parted.head_iff

/-- A run replays nothing exactly when every motion it takes to send finds the queue drained. -/
theorem noReplay_iff (events : List Event) :
    NoReplay events ↔ ∀ step ∈ machine.steps events, Drained step.1 step.2 := by
  have marks (before : List Event) : Marked (machine.run before) :=
    Machine.invariant_run (m := machine) Marked marked_initial marked_step before
  constructor
  · rintro replay ⟨s, event⟩ member rfl at_pc motion head
    obtain ⟨before, after, rfl, rfl⟩ := Machine.mem_steps_iff.mp member
    by_cases zero : motion.val = .zero
    · exact .inl zero
    · have sent := replay before .messengerTx after rfl _
        (mem_step_iff.mpr ⟨rfl, at_pc, motion, head, rfl⟩) zero
      exact .inr (((marks before).head_iff head).mp sent.2)
  · rintro drained before event after rfl output emitted nonzero
    obtain ⟨rfl, at_pc, motion, head, rfl⟩ := mem_step_iff.mp emitted
    have derived : Derived (machine.steps before) (machine.run before) :=
      Machine.run_history (m := machine) Derived derived_initial derived_step before
    have source := derived.waiting motion (List.mem_of_mem_head? head)
    have member := Machine.run_mem_steps (m := machine) before after .messengerTx
    have fresh := (drained _ member rfl at_pc motion head).resolve_left nonzero
    exact ⟨source.resolve_left nonzero, ((marks before).head_iff head).mpr fresh⟩

/-- The RC message with this mode switch, full throttle and no e-stop arrives and is put. -/
def rcForward (modeSwitch : ℚ) : List Event :=
  [.rcMessage ⟨#v[0, 0, 1, 0, 0, 1, modeSwitch, 0]⟩, .receiver]

/-- An iteration under RC control, one in CAN mode and one under RC control again, before the TX
thread takes the state. -/
def replayRun : List Event :=
  rcForward (-1) ++ List.replicate 3 .coordinator ++ rcForward 1 ++ List.replicate 4 .coordinator ++
    rcForward (-1) ++ List.replicate 5 .coordinator ++ [.messengerTx]

/-- The TX thread sends the motion of iteration 1, from before the CAN-mode iteration 2. -/
theorem replayRun_replays : ¬ NoReplay (replayRun ++ [.messengerTx]) := by
  intro noReplay
  have sent := noReplay replayRun .messengerTx [] rfl ⟨⟨⟨1, 0⟩, 1⟩, 1 / 2, 23250⟩ (by decide +kernel)
    (by decide +kernel)
  exact absurd sent.2 (by decide +kernel)

end Robofw.Model.Rccar
