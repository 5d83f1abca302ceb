import Robofw.Soundness.TbotSteps

/-! # Command freshness on the TBot

Ages are tracked through ghost stamps. The RC queue and its counter are polled in every iteration,
so an RC command is dropped in time. The CAN queue and its counter are touched only in CAN mode: an
old message waits in the queue, and an old saved motion keeps its counter, through any RC period.
What is sent is fresh in every run that resumes CAN mode with young motions.
-/

namespace Robofw.Model.Tbot

open Robofw.Core Coordinator

/-- The put enqueues the message this motion is taken from. -/
def Output.Supplies (motion : TimedMotion) : Output → Prop
  | .rcData data => rcMotion data.val = motion.val ∧ data.stamp = motion.stamp
  | .canMotion command => command = motion
  | _ => False

instance (motion : TimedMotion) : (output : Output) → Decidable (output.Supplies motion)
  | .rcData data =>
    inferInstanceAs (Decidable (rcMotion data.val = motion.val ∧ data.stamp = motion.stamp))
  | .canMotion command => inferInstanceAs (Decidable (command = motion))
  | .motion _ | .actuatorCmd _ | .desiredRpm _ | .supervisorCmd _ | .robotState _ => .isFalse id

/-- One of the past steps enqueued the message of this motion, at the clock of its stamp. -/
def SuppliedBy (past : List (State × Event)) (motion : TimedMotion) : Prop :=
  ∃ earlier ∈ past, earlier.1.clock = motion.stamp ∧
    ∃ output ∈ (step earlier.1 earlier.2).2, output.Supplies motion

instance (past : List (State × Event)) (motion : TimedMotion) :
    Decidable (SuppliedBy past motion) :=
  inferInstanceAs (Decidable (∃ earlier ∈ past, _))

/-- Every non-zero motion the coordinator sends comes from an RC or CAN message that was enqueued at
most 8 coordinator iterations earlier, and with at most one change of the control mode since: no
whole period in the other mode lies between. -/
def Fresh (events : List Event) : Prop :=
  ∀ before event after, events = before ++ event :: after →
    ∀ motion, .motion motion ∈ (step (machine.run before) event).2 → motion.val ≠ .zero →
      SuppliedBy (machine.steps before) motion ∧
        (machine.run before).clock.iteration ≤ motion.stamp.iteration + 8 ∧
        (machine.run before).clock.period ≤ motion.stamp.period + 1

/-- The motion asks for nothing, or is at most `age` iterations and one change of mode old. -/
def Within (motion : TimedMotion) (clock : Clock) (age : ℕ) : Prop :=
  motion.val = .zero ∨
    (clock.iteration ≤ motion.stamp.iteration + age ∧ clock.period ≤ motion.stamp.period + 1)

instance (motion : TimedMotion) (clock : Clock) (age : ℕ) : Decidable (Within motion clock age) :=
  inferInstanceAs (Decidable (_ ∨ _))

/-- A CAN poll that resumes after an iteration without one finds a waiting message that asks for
nothing or was enqueued in the RC period just ended, at most 2 iterations ago; or no message, and a
saved motion that asks for nothing or has timed out. -/
def ResumesFresh (s : State) (event : Event) : Prop :=
  event = .coordinator → s.coordinator.pc = .pollCan →
    s.lastCanPoll.iteration + 1 < s.clock.iteration →
    (∀ motion ∈ s.canDesiredMotionQueue.items, Within motion s.clock 2) ∧
      (s.canDesiredMotionQueue.items = [] → s.coordinator.canCounter ≤ canTimeoutCount →
        s.coordinator.desiredMotionFromCan.val = .zero)

instance (s : State) (event : Event) : Decidable (ResumesFresh s event) :=
  inferInstanceAs (Decidable (_ → _))

/-- How old the waiting and saved motions can be. -/
structure Aged (s : State) : Prop where
  rcWaiting : ∀ data ∈ s.receiverDataQueue.items, data.stamp = s.clock
  canWaiting : ∀ motion ∈ s.canDesiredMotionQueue.items,
    s.lastCanPoll.iteration ≤ motion.stamp.iteration ∧ s.lastCanPoll.period ≤ motion.stamp.period
  polled : s.lastCanPoll.iteration ≤ s.clock.iteration ∧ s.lastCanPoll.period ≤ s.clock.period
  canClock : s.coordinator.robotState.controlMode = .can → s.coordinator.pc ≠ .pollCan →
    s.lastCanPoll = s.clock
  rcClock : s.coordinator.robotState.controlMode = .rc →
    s.lastCanPoll.iteration < s.clock.iteration
  continuing : s.coordinator.pc = .pollCan → s.clock.iteration ≤ s.lastCanPoll.iteration + 1 →
    s.clock.period = s.lastCanPoll.period
  rcBound : s.coordinator.rcCounter ≤ rcTimeoutCount + 1
  canBound : s.coordinator.canCounter ≤ canTimeoutCount + 1
  saved : Within s.coordinator.desiredMotionFromCan s.lastCanPoll (s.coordinator.canCounter + 2)
  rcMode : s.coordinator.robotState.controlMode = .rc →
    Within s.coordinator.desiredMotion s.clock (s.coordinator.rcCounter + 1)
  canMode : s.coordinator.pc = .pollCan → s.coordinator.robotState.controlMode = .can
  sending : s.coordinator.pc = .pollSup ∨ (∃ purging, s.coordinator.pc = .putMotion purging) →
    Within s.coordinator.desiredMotion s.clock 8

/-- A motion ages with the clock as long as the period stays. -/
theorem Within.later {motion : TimedMotion} {clock next : Clock} {age bound : ℕ}
    (young : Within motion clock age) (elapsed : next.iteration + age ≤ clock.iteration + bound)
    (same : next.period = clock.period) : Within motion next bound :=
  young.imp id (fun stamped => by omega)

theorem Within.mono {motion : TimedMotion} {clock : Clock} {age bound : ℕ}
    (young : Within motion clock age) (less : age ≤ bound) : Within motion clock bound :=
  young.later (by omega) rfl

theorem Within.zero {motion : TimedMotion} {clock : Clock} {age : ℕ} (zero : motion.val = .zero) :
    Within motion clock age := .inl zero

private theorem pc_afterRc (c : Coordinator) :
    c.afterRc.pc = .pollCan ↔ c.robotState.controlMode = .can := by
  unfold afterRc
  cases c.robotState.controlMode <;> simp

/-- Whatever the RC poll found, the ages hold after it when the RC motion is young for its counter. -/
private theorem aged_startIteration {s : State} (aged : Aged s) (at_pc : s.coordinator.pc = .pollRc)
    {polled : Coordinator} {queue : MessageQueue TimedRcData 1} (empty : queue.items = [])
    (saved : polled.desiredMotionFromCan = s.coordinator.desiredMotionFromCan)
    (canCounter : polled.canCounter = s.coordinator.canCounter)
    (bound : polled.rcCounter ≤ rcTimeoutCount + 1)
    (rcMode : polled.robotState.controlMode = .rc →
      Within polled.desiredMotion (s.startIteration polled).clock (polled.rcCounter + 1)) :
    Aged { s.startIteration polled with receiverDataQueue := queue } := by
  obtain ⟨iterations, periods⟩ := aged.polled
  constructor
  · simp [empty]
  · exact aged.canWaiting
  · exact ⟨Nat.le_succ_of_le iterations, periods.trans (Clock.tick_period ..).1⟩
  · exact fun mode notPoll => absurd ((pc_afterRc polled).mpr mode) notPoll
  · exact fun _ => Nat.lt_succ_of_le iterations
  · intro polls (recent : s.clock.iteration + 1 ≤ s.lastCanPoll.iteration + 1)
    have can : polled.robotState.controlMode = .can := (pc_afterRc polled).mp polls
    cases mode : s.coordinator.robotState.controlMode with
    | can =>
      have same := aged.canClock mode (by simp [at_pc])
      change (s.clock.tick _ _).period = s.lastCanPoll.period
      rw [mode, can, same, Clock.tick_same]
    | rc =>
      have older := aged.rcClock mode
      omega
  · exact bound
  · exact canCounter.symm ▸ aged.canBound
  · change Within polled.desiredMotionFromCan s.lastCanPoll (polled.canCounter + 2)
    exact saved.symm ▸ canCounter.symm ▸ aged.saved
  · exact rcMode
  · exact (pc_afterRc polled).mp
  · intro sends
    have mode : polled.robotState.controlMode = .rc := by
      cases mode : polled.robotState.controlMode with
      | can => simp [afterRc, mode] at sends
      | rc => rfl
    exact (rcMode mode).mono (by simp only [rcTimeoutCount] at bound; omega)

/-- An RC poll that finds a message: the message was put in the iteration just ended. -/
private theorem aged_receiveRc {s : State} (aged : Aged s) (at_pc : s.coordinator.pc = .pollRc)
    {data : TimedRcData} {queue : MessageQueue TimedRcData 1}
    (items : s.receiverDataQueue.items = data :: queue.items) :
    Aged { s.startIteration (s.coordinator.receiveRc data) with receiverDataQueue := queue } := by
  have stamped : data.stamp = s.clock := aged.rcWaiting data (items ▸ List.mem_cons_self ..)
  refine aged_startIteration aged at_pc (MessageQueue.items_eq_nil items) rfl rfl (Nat.zero_le _) ?_
  intro mode
  have selected : selectsRc data.val := by
    by_contra other
    simp [receiveRc, other] at mode
  simp only [receiveRc, selected, if_true]
  exact .inr (stamped ▸ ⟨le_refl _, (Clock.tick_period ..).2⟩)

/-- An RC poll that finds no message: the RC motion is one iteration older, and so is its counter. -/
private theorem aged_missRc {s : State} (aged : Aged s) (at_pc : s.coordinator.pc = .pollRc)
    (items : s.receiverDataQueue.items = []) : Aged (s.startIteration s.coordinator.missRc) := by
  refine aged_startIteration aged at_pc items (desiredMotionFromCan_missRc _)
    (canCounter_missRc _) ?_ ?_ <;>
    rcases Nat.lt_or_ge rcTimeoutCount s.coordinator.rcCounter with expired | running
  · exact missRc_of_lt expired ▸ aged.rcBound
  · rw [missRc_of_le running]
    exact Nat.succ_le_succ running
  · rw [missRc_of_lt expired]
    exact fun mode => by contradiction
  · rw [missRc_of_le running]
    intro (mode : s.coordinator.robotState.controlMode = .rc)
    refine (aged.rcMode mode).later ?_ (by simp)
    simp only [State.startIteration_clock, Clock.tick_iteration]
    omega

/-- The ages hold after a CAN poll that leaves a saved motion young for its counter. -/
private theorem aged_useCan {s : State} (aged : Aged s) (at_pc : s.coordinator.pc = .pollCan)
    {polled : Coordinator} {queue : MessageQueue TimedMotion 1} (empty : queue.items = [])
    (robotState : polled.robotState = s.coordinator.robotState)
    (rcCounter : polled.rcCounter = s.coordinator.rcCounter)
    (bound : polled.canCounter ≤ canTimeoutCount + 1)
    (young : Within polled.desiredMotionFromCan s.clock (polled.canCounter + 2)) :
    Aged { s with
      canDesiredMotionQueue := queue
      coordinator := { polled.useCan with pc := .pollSup }
      lastCanPoll := s.clock } := by
  have can := aged.canMode at_pc
  have notRc : polled.robotState.controlMode ≠ .rc := by rw [robotState, can]; decide
  constructor
  · exact aged.rcWaiting
  · simp [empty]
  · exact ⟨le_refl _, le_refl _⟩
  · exact fun _ _ => rfl
  · exact fun mode => absurd mode notRc
  · exact fun other => by simp at other
  · exact rcCounter.symm ▸ aged.rcBound
  · exact bound
  · exact young
  · exact fun mode => absurd mode notRc
  · exact fun other => by simp at other
  · exact fun _ => young.mono (by simp only [canTimeoutCount] at bound; omega)

/-- A CAN poll that finds a message takes a young one. -/
private theorem aged_receiveCan {s : State} (aged : Aged s) (fresh : ResumesFresh s .coordinator)
    (at_pc : s.coordinator.pc = .pollCan) {motion : TimedMotion}
    {queue : MessageQueue TimedMotion 1}
    (items : s.canDesiredMotionQueue.items = motion :: queue.items) :
    Aged { s with
      canDesiredMotionQueue := queue
      coordinator := { (s.coordinator.receiveCan motion).useCan with pc := .pollSup }
      lastCanPoll := s.clock } := by
  have head : motion ∈ s.canDesiredMotionQueue.items := items ▸ List.mem_cons_self ..
  refine aged_useCan aged at_pc (MessageQueue.items_eq_nil items) rfl rfl (Nat.zero_le _) ?_
  by_cases resumed : s.lastCanPoll.iteration + 1 < s.clock.iteration
  · exact (fresh rfl at_pc resumed).1 motion head
  · have waited := aged.canWaiting motion head
    have same := aged.continuing at_pc (by omega)
    have young : Within motion s.clock 2 := .inr (by omega)
    exact young

/-- A CAN poll that finds no message: the saved motion is one poll older, and so is its counter, or
it has timed out. -/
private theorem aged_missCan {s : State} (aged : Aged s) (fresh : ResumesFresh s .coordinator)
    (at_pc : s.coordinator.pc = .pollCan) (items : s.canDesiredMotionQueue.items = []) :
    Aged { s with
      coordinator := { s.coordinator.missCan.useCan with pc := .pollSup }
      lastCanPoll := s.clock } := by
  refine aged_useCan aged at_pc items (robotState_missCan _) (rcCounter_missCan _) ?_ ?_ <;>
    rcases Nat.lt_or_ge canTimeoutCount s.coordinator.canCounter with expired | running
  · exact missCan_of_lt expired ▸ aged.canBound
  · rw [missCan_of_le running]
    exact Nat.succ_le_succ running
  · rw [missCan_of_lt expired]
    exact .zero rfl
  · rw [missCan_of_le running]
    by_cases resumed : s.lastCanPoll.iteration + 1 < s.clock.iteration
    · exact .zero ((fresh rfl at_pc resumed).2 items running)
    · exact aged.saved.later (by dsimp only; omega) (aged.continuing at_pc (by omega))

/-- The later pieces of the loop change no age. -/
private theorem aged_later {s next : State} (aged : Aged s)
    (rc : next.receiverDataQueue = s.receiverDataQueue)
    (can : next.canDesiredMotionQueue = s.canDesiredMotionQueue)
    (clock : next.clock = s.clock) (lastCanPoll : next.lastCanPoll = s.lastCanPoll)
    (settles : s.coordinator.Settles next.coordinator) : Aged next := by
  obtain ⟨source, saved, rcCounter, canCounter, controlMode, motion, notPoll, put⟩ := settles
  have motion {age : ℕ} (young : Within s.coordinator.desiredMotion s.clock age) :
      Within next.coordinator.desiredMotion s.clock age := by
    rcases motion with zero | same
    · exact .zero zero
    · exact same ▸ young
  constructor
  · rw [rc, clock]; exact aged.rcWaiting
  · rw [can, lastCanPoll]; exact aged.canWaiting
  · rw [lastCanPoll, clock]; exact aged.polled
  · rw [controlMode, lastCanPoll, clock]; exact fun mode _ => aged.canClock mode source.2
  · rw [controlMode, lastCanPoll, clock]; exact aged.rcClock
  · exact fun at_pc => absurd at_pc notPoll.1
  · rw [rcCounter]; exact aged.rcBound
  · rw [canCounter]; exact aged.canBound
  · rw [saved, lastCanPoll, canCounter]; exact aged.saved
  · rw [controlMode, clock, rcCounter]; exact fun mode => motion (aged.rcMode mode)
  · exact fun at_pc => absurd at_pc notPoll.1
  · rw [clock]
    rintro (at_pc | ⟨purging, at_pc⟩)
    · exact absurd at_pc notPoll.2
    · exact motion (aged.sending (put purging at_pc))

/-- A step of another thread only adds messages stamped with the current clock. -/
private theorem aged_other {s : State} {event : Event} (aged : Aged s)
    (other : event ≠ .coordinator) : Aged (step s event).1 := by
  obtain ⟨coordinator, clock, lastCanPoll⟩ := step_frame s other
  constructor <;> simp only [coordinator, clock, lastCanPoll]
  · intro data member
    rcases mem_receiverDataQueue_step member with old | ⟨stamped, -⟩
    · exact aged.rcWaiting data old
    · exact stamped
  · intro motion member
    rcases mem_canDesiredMotionQueue_step member with old | ⟨stamped, -⟩
    · exact aged.canWaiting motion old
    · exact stamped ▸ aged.polled
  · exact aged.polled
  · exact aged.canClock
  · exact aged.rcClock
  · exact aged.continuing
  · exact aged.rcBound
  · exact aged.canBound
  · exact aged.saved
  · exact aged.rcMode
  · exact aged.canMode
  · exact aged.sending

/-- A step that resumes CAN mode freshly, or does not resume it, keeps the ages. -/
theorem aged_step (s : State) (event : Event) (aged : Aged s) (fresh : ResumesFresh s event) :
    Aged (step s event).1 := by
  by_cases own : event = .coordinator
  · subst own
    have move := coordinatorStep_move s
    change Aged (coordinatorStep s).1
    generalize (coordinatorStep s).1 = next at move ⊢
    cases move with
    | receiveRc data queue at_pc items => exact aged_receiveRc aged at_pc items
    | missRc at_pc items => exact aged_missRc aged at_pc items
    | receiveCan motion queue at_pc items => exact aged_receiveCan aged fresh at_pc items
    | missCan at_pc items => exact aged_missCan aged fresh at_pc items
    | later _ rc can clock lastCanPoll settles => exact aged_later aged rc can clock lastCanPoll settles
  · exact aged_other aged own

theorem aged_initial : Aged State.initial where
  rcWaiting := fun _ member => absurd member List.not_mem_nil
  canWaiting := fun _ member => absurd member List.not_mem_nil
  polled := ⟨le_refl _, le_refl _⟩
  canClock := fun _ _ => rfl
  rcClock := fun mode => by contradiction
  continuing := fun at_pc => by contradiction
  rcBound := Nat.zero_le _
  canBound := Nat.zero_le _
  saved := .inl rfl
  rcMode := fun mode => by contradiction
  canMode := fun at_pc => by contradiction
  sending := fun at_pc => by rcases at_pc with at_pc | ⟨purging, at_pc⟩ <;> contradiction

/-- Every motion that waits or is saved was enqueued by a past step. -/
structure Sourced (past : List (State × Event)) (s : State) : Prop where
  rcWaiting : ∀ data ∈ s.receiverDataQueue.items, SuppliedBy past ⟨rcMotion data.val, data.stamp⟩
  canWaiting : ∀ motion ∈ s.canDesiredMotionQueue.items, SuppliedBy past motion
  saved : s.coordinator.desiredMotionFromCan.val = .zero ∨
    SuppliedBy past s.coordinator.desiredMotionFromCan
  desired : s.coordinator.desiredMotion.val = .zero ∨ SuppliedBy past s.coordinator.desiredMotion

theorem SuppliedBy.append {past : List (State × Event)} {motion : TimedMotion}
    (supplied : SuppliedBy past motion) (last : State × Event) :
    SuppliedBy (past ++ [last]) motion := by
  obtain ⟨earlier, member, enqueued⟩ := supplied
  exact ⟨earlier, List.mem_append_left _ member, enqueued⟩

theorem Sourced.append {past : List (State × Event)} {s : State} (sourced : Sourced past s)
    (last : State × Event) : Sourced (past ++ [last]) s where
  rcWaiting := fun data member => (sourced.rcWaiting data member).append last
  canWaiting := fun motion member => (sourced.canWaiting motion member).append last
  saved := sourced.saved.imp_right (·.append last)
  desired := sourced.desired.imp_right (·.append last)

/-- What the coordinator saves it took from a queue, or had saved before. -/
theorem Sourced.move {past : List (State × Event)} {s next : State} (sourced : Sourced past s)
    (move : CoordinatorMove s next) : Sourced past next := by
  have takes := move.takes
  refine ⟨fun data member => sourced.rcWaiting data (takes.1 data member),
    fun motion member => sourced.canWaiting motion (takes.2 motion member), ?_, ?_⟩
  · cases move with
    | receiveRc => exact sourced.saved
    | missRc => exact (desiredMotionFromCan_missRc s.coordinator).symm ▸ sourced.saved
    | receiveCan motion queue at_pc items =>
      exact .inr (sourced.canWaiting motion (items ▸ List.mem_cons_self ..))
    | missCan => exact desiredMotionFromCan_missCan s.coordinator sourced.saved
    | later _ rc can iteration lastCanPoll settles =>
      exact settles.desiredMotionFromCan.symm ▸ sourced.saved
  · cases move with
    | receiveRc data queue at_pc items =>
      have waiting := sourced.rcWaiting data (items ▸ List.mem_cons_self ..)
      by_cases selected : selectsRc data.val
      · simp only [receiveRc, selected, if_true]
        exact .inr waiting
      · simp only [receiveRc, selected, if_false]
        exact sourced.desired
    | missRc => exact (desiredMotion_missRc s.coordinator).symm ▸ sourced.desired
    | receiveCan motion queue at_pc items =>
      exact .inr (sourced.canWaiting motion (items ▸ List.mem_cons_self ..))
    | missCan => exact desiredMotionFromCan_missCan s.coordinator sourced.saved
    | later _ rc can iteration lastCanPoll settles =>
      rcases settles.desiredMotion with zero | same
      · exact .inl zero
      · exact same ▸ sourced.desired

theorem sourced_step (past : List (State × Event)) (s : State) (event : Event)
    (sourced : Sourced past s) : Sourced (past ++ [(s, event)]) (step s event).1 := by
  by_cases own : event = .coordinator
  · subst own
    exact (sourced.append _).move (coordinatorStep_move s)
  · have kept := sourced.append (s, event)
    have last : (s, event) ∈ past ++ [(s, event)] := by simp
    refine ⟨fun data member => ?_, fun motion member => ?_, ?_, ?_⟩
    · rcases mem_receiverDataQueue_step member with old | ⟨stamped, put⟩
      · exact kept.rcWaiting data old
      · exact ⟨_, last, stamped.symm, _, put, rfl, rfl⟩
    · rcases mem_canDesiredMotionQueue_step member with old | ⟨stamped, put⟩
      · exact kept.canWaiting motion old
      · exact ⟨_, last, stamped.symm, _, put, rfl⟩
    · rw [(step_frame s own).1]
      exact kept.saved
    · rw [(step_frame s own).1]
      exact kept.desired

theorem sourced_initial : Sourced [] State.initial where
  rcWaiting := fun _ member => absurd member List.not_mem_nil
  canWaiting := fun _ member => absurd member List.not_mem_nil
  saved := .inl rfl
  desired := .inl rfl

/-- Every run that resumes CAN mode only with young motions sends nothing stale. -/
theorem fresh_of_resumesFresh (events : List Event)
    (resumes : ∀ step ∈ machine.steps events, ResumesFresh step.1 step.2) : Fresh events := by
  rintro before event after rfl motion emitted nonzero
  obtain ⟨-, ⟨purging, at_pc⟩, rfl⟩ := motion_mem_step emitted
  have sourced : Sourced (machine.steps before) (machine.run before) :=
    Machine.run_history (m := machine) Sourced sourced_initial sourced_step before
  have aged : Aged (machine.run before) := by
    refine Machine.guarded_run (m := machine) Aged ResumesFresh aged_initial aged_step ?_
    intro step member
    refine resumes step ?_
    rw [Machine.steps, Machine.stepsFrom_append]
    exact List.mem_append_left _ member
  have young := aged.sending (.inr ⟨purging, at_pc⟩)
  exact ⟨sourced.desired.resolve_left nonzero, young.resolve_left nonzero⟩

/-- The RC message with this mode switch and full throttle arrives and is put. -/
def rcForward (modeSwitch : ℚ) : List Event :=
  [.rcMessage ⟨#v[0, 0, 1, 0, 0, 0, 0, modeSwitch]⟩, .receiver]

/-- A CAN motion of 1 m/s arrives and is put. -/
def canForward : List Event :=
  [.canFrame ⟨0x103, .standard, .dataFrame, 8, #v[0, 0, 0, 100, 0, 0, 0, 0]⟩, .messengerRx]

/-- An iteration under RC control, then a CAN motion and the switch to CAN control. -/
def resumedRun : List Event :=
  rcForward 0 ++ List.replicate 4 .coordinator ++ canForward ++ rcForward 1 ++
    List.replicate 6 .coordinator

/-- The run ends by sending the CAN motion, which is fresh. -/
theorem resumedRun_fresh :
    (step (machine.run resumedRun.dropLast) .coordinator).2 = [.motion ⟨⟨1, 0⟩, ⟨1, 1⟩⟩] ∧
      Fresh resumedRun :=
  ⟨by decide +kernel, fresh_of_resumesFresh resumedRun (by decide +kernel)⟩

/-- An iteration under RC control, then a CAN motion, then silence until RC control is lost and CAN
control resumes with that motion. -/
def staleRun : List Event :=
  rcForward 0 ++ List.replicate 4 .coordinator ++ canForward ++ List.replicate 71 .coordinator

/-- Control falls back to CAN in iteration 8 and takes the CAN motion of iteration 1, which iteration 10
still sends. -/
theorem staleRun_not_fresh : ¬ Fresh (staleRun ++ [.coordinator]) := by
  intro fresh
  have sent := fresh staleRun .coordinator [] rfl ⟨⟨1, 0⟩, ⟨1, 1⟩⟩ (by decide +kernel) (by decide +kernel)
  exact absurd sent.2.1 (by decide +kernel)

end Robofw.Model.Tbot
