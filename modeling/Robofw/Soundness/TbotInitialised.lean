import Robofw.Soundness.TbotEcho

/-! # What the feedback is made of

The speed control publishes a copy of its locals in every iteration, whether or not a message of the
encoder has arrived. Each value in a feedback and in its three frames was received or is an initial one
of the loop, except that the raw speeds have no initial value: they are undefined until the first
message, and the messages start only after many iterations.
-/

namespace Robofw.Model.Speed

open Robofw.Core Robofw.Model.Tbot
open Robofw.Model.Encoder (EstimatedSpeed)

/-- The wheel targets are zero or were received. -/
def TargetTraced (past : List (State × Event)) (target : DesiredRpm) : Prop :=
  target = ⟨0, 0⟩ ∨ ∃ received ∈ past.filterMap receivedTarget, received.val = target

/-- The raw speeds were received. -/
def RawTraced (past : List (State × Event)) (raw : Vector Int32 2) : Prop :=
  ∃ received ∈ past.filterMap receivedEstimate, received.rawRpms = raw

/-- The filtered speeds are zero or were received. -/
def FilteredTraced (past : List (State × Event)) (filtered : Vector Int32 2) : Prop :=
  filtered = Vector.replicate 2 0 ∨
    ∃ received ∈ past.filterMap receivedEstimate, received.filteredRpms = filtered

/-- Each field of a feedback is an initial value of the loop or was received. -/
structure FeedbackInitialised (past : List (State × Event)) (feedback : SpeedControlFeedback) :
    Prop where
  target : TargetTraced past feedback.targetSpeed.val
  filtered : FilteredTraced past feedback.measuredSpeed.filteredRpms
  raw : ∃ raw, feedback.measuredSpeed.rawRpms = some raw ∧ RawTraced past raw

/-- Each speed in a frame is an initial value of the loop or was received. -/
structure FrameInitialised (past : List (State × Event)) (frame : ZcanFrame) : Prop where
  raw : frame.id = encoderRawDataCanId →
    ∃ raw, RawTraced past raw ∧ rpmLeft frame = raw.get 0 ∧ rpmRight frame = raw.get 1
  filtered : frame.id = encoderFilteredDataCanId →
    ∃ filtered, FilteredTraced past filtered ∧
      rpmLeft frame = filtered.get 0 ∧ rpmRight frame = filtered.get 1
  target : frame.id = targetRpmDataCanId →
    ∃ target, TargetTraced past target ∧
      rpmLeft frame = target.left.toInt32 ∧ rpmRight frame = target.right.toInt32

def OutputInitialised (past : List (State × Event)) : Output → Prop
  | .published feedback => FeedbackInitialised past feedback
  | .sent frame _ => FrameInitialised past frame
  | .sentUndefined _ => False

/-- Every feedback published in the run, and every speed frame sent, carries initialised data. -/
def AllInitialised (uplink : Uplink) (events : List Event) : Prop :=
  ∀ before event after, events = before ++ event :: after →
    ∀ output ∈ ((machine uplink).step ((machine uplink).run before) event).2,
      OutputInitialised ((machine uplink).steps before) output

variable {s : State}

/-! ## What the frames carry -/

/-- What is sent for a message with two speeds carries them under its identifier. -/
theorem speed_of_mem_sendData {uplink : Uplink} {msg : FeedbackMsg} {id : UInt32} {left right : Int32}
    {source : Option ZcanFrame} {output : Output} (short : id.toNat < 2 ^ 29)
    (encodes : ∀ scratch, encodeCanMessage msg scratch = encodeSpeed scratch id left right)
    (emitted : output ∈ sendData uplink msg source) :
    ∃ frame, output = .sent frame source ∧
      frame.id = id ∧ rpmLeft frame = left ∧ rpmRight frame = right := by
  obtain ⟨frame, sent, rfl⟩ := Option.map_eq_some_iff.mp (Option.mem_toList.mp emitted)
  exact ⟨frame, rfl, sendMessage_speed short encodes sent⟩

/-- The state of the robot is sent in a frame without speeds. -/
theorem state_initialised {uplink : Uplink} {supMode : SupervisedMode} {output : Output}
    (emitted : output ∈ sendData uplink (.supervisedStateData supMode) none)
    (past : List (State × Event)) : OutputInitialised past output := by
  obtain ⟨frame, sent, rfl⟩ := Option.map_eq_some_iff.mp (Option.mem_toList.mp emitted)
  have id : frame.id = supervisedStateDataCanId := by
    obtain ⟨-, rfl⟩ := sendCanFrame_sent.mp sent
    rw [id_txFrame]
    exact UInt32.toNat_inj.mp (ZcanFrame.toNat_id_setId uplink.txFrame supervisedStateDataCanId)
  refine ⟨fun raw => ?_, fun filtered => ?_, fun target => ?_⟩
  · exact absurd (id.symm.trans raw) (by decide)
  · exact absurd (id.symm.trans filtered) (by decide)
  · exact absurd (id.symm.trans target) (by decide)

/-- Initialised feedback is sent in initialised frames. -/
theorem FeedbackInitialised.sent {past : List (State × Event)} {feedback : SpeedControlFeedback}
    (initialised : FeedbackInitialised past feedback) {uplink : Uplink} {output : Output}
    (emitted : output ∈ sendFeedback uplink feedback) : OutputInitialised past output := by
  obtain ⟨rpms, same, traced⟩ := initialised.raw
  simp only [sendFeedback, sendRaw, same] at emitted
  rcases List.mem_append.mp emitted with emitted | target
  · rcases List.mem_append.mp emitted with raw | filtered
    · obtain ⟨frame, rfl, id, speeds⟩ := speed_of_mem_sendData (by decide) (fun _ => rfl) raw
      refine ⟨fun _ => ⟨rpms, traced, speeds⟩, fun other => ?_, fun other => ?_⟩
      · exact absurd (id.symm.trans other) (by decide)
      · exact absurd (id.symm.trans other) (by decide)
    · obtain ⟨frame, rfl, id, speeds⟩ := speed_of_mem_sendData (by decide) (fun _ => rfl) filtered
      refine ⟨fun other => ?_, fun _ => ⟨_, initialised.filtered, speeds⟩, fun other => ?_⟩
      · exact absurd (id.symm.trans other) (by decide)
      · exact absurd (id.symm.trans other) (by decide)
  · obtain ⟨frame, rfl, id, speeds⟩ := speed_of_mem_sendData (by decide) (fun _ => rfl) target
    refine ⟨fun other => ?_, fun other => ?_, fun _ => ⟨_, initialised.target, speeds⟩⟩
    · exact absurd (id.symm.trans other) (by decide)
    · exact absurd (id.symm.trans other) (by decide)

/-! ## Where the values come from -/

/-- Each field of a feedback is an initial value or was received, unless it is undefined. -/
structure FeedbackTraced (past : List (State × Event)) (feedback : SpeedControlFeedback) : Prop where
  target : TargetTraced past feedback.targetSpeed.val
  filtered : FilteredTraced past feedback.measuredSpeed.filteredRpms
  raw : ∀ raw, feedback.measuredSpeed.rawRpms = some raw → RawTraced past raw

theorem FeedbackTraced.initialised {past : List (State × Event)} {feedback : SpeedControlFeedback}
    (traced : FeedbackTraced past feedback) (defined : feedback.measuredSpeed.rawRpms ≠ none) :
    FeedbackInitialised past feedback := by
  obtain ⟨raw, same⟩ := Option.ne_none_iff_exists'.mp defined
  exact ⟨traced.target, traced.filtered, raw, same, traced.raw raw same⟩

theorem FeedbackTraced.later {past : List (State × Event)} {feedback : SpeedControlFeedback}
    (traced : FeedbackTraced past feedback) (next : State × Event) :
    FeedbackTraced (past ++ [next]) feedback := by
  have kept {α : Type} {receive : State × Event → Option α} {value : α}
      (member : value ∈ past.filterMap receive) : value ∈ (past ++ [next]).filterMap receive := by
    rw [List.filterMap_append]
    exact List.mem_append_left _ member
  refine ⟨?_, ?_, fun raw same => ?_⟩
  · exact traced.target.imp_right fun ⟨target, member, same⟩ => ⟨target, kept member, same⟩
  · exact traced.filtered.imp_right fun ⟨estimate, member, same⟩ => ⟨estimate, kept member, same⟩
  · obtain ⟨estimate, member, same⟩ := traced.raw raw same
    exact ⟨estimate, kept member, same⟩

/-- The locals and every feedback on its way are traced. -/
structure Traced (past : List (State × Event)) (s : State) : Prop where
  locals : FeedbackTraced past s.speedControl.feedback
  queued : ∀ feedback ∈ s.feedbackQueue.items, FeedbackTraced past feedback

theorem traced_initial : Traced [] State.initial := by
  refine ⟨⟨.inl rfl, .inl rfl, fun raw same => ?_⟩, fun feedback member => ?_⟩
  · exact absurd same (by simp [SpeedControl.feedback, State.initial, SpeedControl.initial])
  · exact absurd member List.not_mem_nil

theorem Traced.step {past : List (State × Event)} (traced : Traced past s) (uplink : Uplink)
    (event : Event) : Traced (past ++ [(s, event)]) (step uplink s event).1 := by
  have before := traced.locals.later (s, event)
  have received {α : Type} {receive : State × Event → Option α} {value : α}
      (got : receive (s, event) = some value) :
      value ∈ (past ++ [(s, event)]).filterMap receive := by
    simp [got]
  refine ⟨?_, fun feedback member => ?_⟩
  · rw [feedback_step]
    refine ⟨?_, ?_, ?_⟩
    · cases got : receivedTarget (s, event) with
      | none => exact before.target
      | some target => exact .inr ⟨target, received got, rfl⟩
    · cases got : receivedEstimate (s, event) with
      | none => exact before.filtered
      | some estimate => exact .inr ⟨estimate, received got, rfl⟩
    · cases got : receivedEstimate (s, event) with
      | none => exact before.raw
      | some estimate =>
        intro raw same
        exact ⟨estimate, received got, Option.some.inj same⟩
  · rcases mem_feedbackQueue_step member with waiting | ⟨-, -, rfl⟩
    · exact (traced.queued feedback waiting).later (s, event)
    · exact before

theorem traced_run (uplink : Uplink) (events : List Event) :
    Traced ((machine uplink).steps events) ((machine uplink).run events) :=
  Machine.run_history Traced traced_initial (fun _ _ event traced => traced.step uplink event) events

/-! ## The first estimate -/

/-- The raw speeds are defined wherever this step may copy them from. -/
structure DefinedAt (s : State) (event : Event) : Prop where
  published : event = .speedControl → (∃ purging, s.speedControl.pc = .putFeedback purging) →
    s.speedControl.measuredRpm.rawRpms ≠ none
  queued : ∀ feedback ∈ s.feedbackQueue.items, feedback.measuredSpeed.rawRpms ≠ none

theorem Traced.initialised {past : List (State × Event)} (traced : Traced past s) {event : Event}
    (defined : DefinedAt s event) {uplink : Uplink} {output : Output}
    (emitted : output ∈ (Speed.step uplink s event).2) : OutputInitialised past output := by
  rcases mem_step emitted with ⟨control, puts, rfl⟩ | ⟨feedback, waiting, sent⟩ | ⟨supMode, sent⟩
  · exact traced.locals.initialised (defined.published control puts)
  · exact ((traced.queued feedback waiting).initialised (defined.queued feedback waiting)).sent sent
  · exact state_initialised sent past

/-- The speed control has not yet polled. -/
structure Fresh (s : State) : Prop where
  polls : s.speedControl.pc = .pollEncoder
  raw : s.speedControl.measuredRpm.rawRpms = none
  empty : s.feedbackQueue.items = []

theorem Fresh.definedAt (fresh : Fresh s) (event : Event) : DefinedAt s event := by
  refine ⟨fun _ ⟨purging, puts⟩ => ?_, fun feedback member => ?_⟩
  · exact absurd (fresh.polls.symm.trans puts) (by simp)
  · rw [fresh.empty] at member
    exact absurd member List.not_mem_nil

/-- Only the speed control ends its first poll. -/
theorem Fresh.step (fresh : Fresh s) (uplink : Uplink) {event : Event} (other : event ≠ .speedControl) :
    Fresh (Speed.step uplink s event).1 := by
  obtain ⟨polls, raw, empty⟩ := fresh
  have locals := speedControl_step_other uplink s other
  refine ⟨by rw [locals, polls], by rw [locals, raw], List.eq_nil_iff_forall_not_mem.mpr ?_⟩
  intro feedback member
  rcases mem_feedbackQueue_step member with waiting | ⟨control, -⟩
  · rw [empty] at waiting
    exact absurd waiting List.not_mem_nil
  · exact other control

theorem fresh_run {uplink : Uplink} {events : List Event} (none : .speedControl ∉ events) :
    Fresh ((machine uplink).run events) := by
  have start : Fresh (machine uplink).initial := ⟨rfl, rfl, rfl⟩
  apply (Machine.preserved_steps Fresh start ?_).2
  intro event member state fresh
  apply fresh.step uplink
  rintro rfl
  exact none member

/-- An estimate has arrived, and no feedback from before it waits. -/
structure Measured (s : State) : Prop where
  locals : s.speedControl.measuredRpm.rawRpms ≠ none
  queued : ∀ feedback ∈ s.feedbackQueue.items, feedback.measuredSpeed.rawRpms ≠ none

theorem Measured.definedAt (measured : Measured s) (event : Event) : DefinedAt s event :=
  ⟨fun _ _ => measured.locals, measured.queued⟩

theorem Measured.step (measured : Measured s) (uplink : Uplink) (event : Event) :
    Measured (Speed.step uplink s event).1 := by
  obtain ⟨locals, queued⟩ := measured
  refine ⟨?_, fun feedback member => ?_⟩
  · rw [rawRpms_step]
    cases receivedEstimate (s, event) with
    | none => exact locals
    | some estimate => exact Option.some_ne_none _
  · rcases mem_feedbackQueue_step member with waiting | ⟨-, -, rfl⟩
    · exact queued feedback waiting
    · exact locals

/-- A first poll that finds an estimate leaves no way for undefined speeds. -/
theorem Fresh.fed (fresh : Fresh s) (estimate : s.encoderRpmQueue.items ≠ []) (uplink : Uplink) :
    Measured (Speed.step uplink s .speedControl).1 := by
  obtain ⟨received, got⟩ : ∃ received, receivedEstimate (s, .speedControl) = some received := by
    rw [Ne, ← MessageQueue.get_eq_none_iff] at estimate
    obtain ⟨taken, got⟩ := Option.ne_none_iff_exists'.mp estimate
    exact ⟨taken.1, by simp [receivedEstimate, fresh.polls, got]⟩
  refine ⟨?_, fun feedback member => ?_⟩
  · rw [rawRpms_step, got]
    exact Option.some_ne_none _
  · rcases mem_feedbackQueue_step member with waiting | ⟨-, ⟨purging, puts⟩, -⟩
    · rw [fresh.empty] at waiting
      exact absurd waiting List.not_mem_nil
    · exact absurd (fresh.polls.symm.trans puts) (by simp)

/-- An iteration that began without an estimate is on its way to its feedback. -/
structure Starved (s : State) : Prop where
  raw : s.speedControl.measuredRpm.rawRpms = none
  empty : s.feedbackQueue.items = []
  pc : s.speedControl.pc = .pollRpm ∨ (∃ purging, s.speedControl.pc = .putCmd purging) ∨
    s.speedControl.pc = .putFeedback false

/-- A first poll that finds nothing. -/
theorem Fresh.unfed (fresh : Fresh s) (nothing : s.encoderRpmQueue.items = []) (uplink : Uplink) :
    Starved (Speed.step uplink s .speedControl).1 := by
  have missed := MessageQueue.get_eq_none_iff.mpr nothing
  change Starved (speedControlStep s).1
  simp only [speedControlStep, fresh.polls, missed]
  exact ⟨fresh.raw, fresh.empty, .inl rfl⟩

theorem Starved.first (starved : Starved s) {purging : Bool}
    (puts : s.speedControl.pc = .putFeedback purging) : purging = false := by
  rcases starved.pc with pc | ⟨_, pc⟩ | pc
  · exact absurd (pc.symm.trans puts) (by simp)
  · exact absurd (pc.symm.trans puts) (by simp)
  · exact SpeedPc.putFeedback.inj (puts.symm.trans pc)

/-- The put of the feedback finds its queue empty, so it publishes the undefined speeds at once. -/
theorem Starved.publishes (starved : Starved s) {purging : Bool}
    (puts : s.speedControl.pc = .putFeedback purging) (uplink : Uplink) :
    .published s.speedControl.feedback ∈ (Speed.step uplink s .speedControl).2 := by
  obtain rfl := starved.first puts
  have put : (s.feedbackQueue.attempt false s.speedControl.feedback).2 = .done :=
    MessageQueue.attempt_done_iff.mpr ⟨rfl, by rw [starved.empty]; exact Nat.one_pos⟩
  change _ ∈ (speedControlStep s).2
  simp only [speedControlStep, puts]
  split
  case h_1 => exact List.mem_singleton_self _
  case h_2 queue outcome failed effect =>
    rw [effect] at put
    exact absurd put failed

/-- The way to the feedback, up to its put. -/
theorem Starved.step (starved : Starved s) (uplink : Uplink) {event : Event}
    (quiet : event = .speedControl → ∀ purging, s.speedControl.pc ≠ .putFeedback purging) :
    Starved (Speed.step uplink s event).1 := by
  have polled : s.speedControl.pc ≠ .pollEncoder := by
    rcases starved.pc with pc | ⟨_, pc⟩ | pc <;> simp [pc]
  refine ⟨?_, List.eq_nil_iff_forall_not_mem.mpr fun feedback member => ?_, ?_⟩
  · rw [rawRpms_step, receivedEstimate, if_neg (fun both => polled both.2)]
    exact starved.raw
  · rcases mem_feedbackQueue_step member with waiting | ⟨control, ⟨purging, puts⟩, -⟩
    · rw [starved.empty] at waiting
      exact absurd waiting List.not_mem_nil
    · exact quiet control purging puts
  · rcases eq_or_ne event .speedControl with rfl | control
    · change (speedControlStep s).1.speedControl.pc = .pollRpm ∨
        (∃ purging, (speedControlStep s).1.speedControl.pc = .putCmd purging) ∨
          (speedControlStep s).1.speedControl.pc = .putFeedback false
      rcases starved.pc with pc | ⟨purging, pc⟩ | pc
      · simp only [speedControlStep, pc]
        split
        · exact .inr (.inl ⟨false, rfl⟩)
        · exact .inr (.inr rfl)
      · simp only [speedControlStep, pc]
        split
        · exact .inr (.inr rfl)
        · exact .inr (.inl ⟨_, rfl⟩)
      · exact absurd pc (quiet rfl false)
    · rw [speedControl_step_other uplink s control]
      exact starved.pc

/-! ## Which runs are initialised -/

/-- The first poll of the encoder queue in this run finds an estimate. -/
def FirstPollFed (uplink : Uplink) (events : List Event) : Prop :=
  ((machine uplink).run (events.takeWhile (· ≠ .speedControl))).encoderRpmQueue.items ≠ []

/-- The run ends before the loop first comes to put a feedback. -/
def EndsEarly (uplink : Uplink) (events : List Event) : Prop :=
  ∀ before after purging, events = before ++ .speedControl :: after →
    ((machine uplink).run before).speedControl.pc ≠ .putFeedback purging

theorem takeWhile_first {early : List Event} (first : .speedControl ∉ early) (late : List Event) :
    (early ++ .speedControl :: late).takeWhile (· ≠ .speedControl) = early := by
  rw [List.takeWhile_append_of_pos]
  · simp
  · intro event member
    exact decide_eq_true fun control => first (control ▸ member)

/-- The speeds are defined in every step of a run whose first poll finds an estimate. -/
theorem FirstPollFed.definedAt {uplink : Uplink} {events before after : List Event} {event : Event}
    (fed : FirstPollFed uplink events) (split : events = before ++ event :: after) :
    DefinedAt ((machine uplink).run before) event := by
  by_cases polled : .speedControl ∈ before
  · obtain ⟨early, late, rfl, first⟩ := List.eq_append_cons_of_mem polled
    rw [FirstPollFed, split, List.append_assoc, List.cons_append, takeWhile_first first] at fed
    have start := (fresh_run first).fed fed uplink
    have measured : Measured ((machine uplink).run (early ++ .speedControl :: late)) := by
      rw [Machine.run, Machine.runFrom_append]
      exact (Machine.preserved_steps (m := machine uplink) Measured start
        (fun event _ _ measured => measured.step uplink event)).2
    exact measured.definedAt event
  · exact (fresh_run polled).definedAt event

/-- Nothing waits to be sent before the first feedback. -/
theorem EndsEarly.definedAt {uplink : Uplink} {events before after : List Event} {event : Event}
    (early : EndsEarly uplink events) (split : events = before ++ event :: after) :
    DefinedAt ((machine uplink).run before) event := by
  have empty : ((machine uplink).run before).feedbackQueue.items = [] := by
    apply Machine.guarded_run (m := machine uplink) (fun s => s.feedbackQueue.items = [])
      (fun s event => event = .speedControl → ∀ purging, s.speedControl.pc ≠ .putFeedback purging)
    · rfl
    · intro s event empty quiet
      apply List.eq_nil_iff_forall_not_mem.mpr
      intro feedback member
      rcases mem_feedbackQueue_step member with waiting | ⟨control, ⟨purging, puts⟩, -⟩
      · rw [empty] at waiting
        exact absurd waiting List.not_mem_nil
      · exact quiet control purging puts
    · rintro ⟨state, event⟩ member rfl purging
      obtain ⟨first, rest, rfl, rfl⟩ := Machine.mem_steps_iff.mp member
      exact early first (rest ++ event :: after) purging (by rw [split]; simp)
  refine ⟨?_, fun feedback member => ?_⟩
  · rintro rfl ⟨purging, puts⟩
    exact absurd puts (early before after purging split)
  · rw [empty] at member
    exact absurd member List.not_mem_nil

theorem AllInitialised.of_append {uplink : Uplink} {first second : List Event}
    (initialised : AllInitialised uplink (first ++ second)) : AllInitialised uplink first := by
  rintro before event after rfl
  exact initialised before event (after ++ second) (by simp)

/-- An initialised run publishes no feedback while it is starved. -/
theorem AllInitialised.quiet {uplink : Uplink} {before after : List Event} {event : Event}
    (initialised : AllInitialised uplink (before ++ event :: after))
    (starved : Starved ((machine uplink).run before)) (control : event = .speedControl)
    (purging : Bool) : ((machine uplink).run before).speedControl.pc ≠ .putFeedback purging := by
  intro puts
  subst control
  have published := initialised before .speedControl after rfl _ (starved.publishes puts uplink)
  obtain ⟨raw, same, -⟩ := published.raw
  exact absurd (starved.raw.symm.trans same) (Option.some_ne_none raw).symm

/-- A starved loop stays starved in an initialised run. -/
theorem AllInitialised.starved {uplink : Uplink} {early late : List Event}
    (initialised : AllInitialised uplink (early ++ late))
    (start : Starved ((machine uplink).run early)) : Starved ((machine uplink).run (early ++ late)) := by
  induction late using List.reverseRecOn with
  | nil => rwa [List.append_nil]
  | append_singleton late event ih =>
    rw [← List.append_assoc] at initialised ⊢
    have before := ih initialised.of_append
    rw [Machine.run_concat]
    exact before.step uplink (initialised.quiet before)

/-- A run carries only initialised data exactly when its first poll finds an estimate, or when it ends
before its first feedback. -/
theorem allInitialised_iff (uplink : Uplink) (events : List Event) :
    AllInitialised uplink events ↔ FirstPollFed uplink events ∨ EndsEarly uplink events := by
  constructor
  · intro initialised
    refine or_iff_not_imp_left.mpr fun unfed before after purging split puts => ?_
    have polled : .speedControl ∈ before := by
      by_contra none
      exact absurd ((fresh_run none).polls.symm.trans puts) (by simp)
    obtain ⟨early, late, rfl, first⟩ := List.eq_append_cons_of_mem polled
    rw [FirstPollFed, split, List.append_assoc, List.cons_append, takeWhile_first first,
      not_not] at unfed
    have start : Starved ((machine uplink).run (early ++ [.speedControl])) := by
      rw [Machine.run_concat]
      exact (fresh_run first).unfed unfed uplink
    rw [split, List.append_cons early] at initialised
    exact initialised.quiet (initialised.of_append.starved start) rfl purging
      (by rw [← List.append_cons]; exact puts)
  · rintro (fed | early) before event after split output emitted
    · exact (traced_run uplink before).initialised (fed.definedAt split) emitted
    · exact (traced_run uplink before).initialised (early.definedAt split) emitted

/-- An iteration without any message, and the sends for its feedback. -/
def silentEvents : List Event := [.speedControl, .speedControl, .speedControl, .messengerTx]

/-- It sends raw speeds that nobody has measured. -/
theorem silentEvents_not_initialised : ¬ AllInitialised (activeUplink (motorFrame 0 0)) silentEvents := by
  intro initialised
  have sent : .sentUndefined encoderRawDataCanId ∈ ((machine (activeUplink (motorFrame 0 0))).step
      ((machine (activeUplink (motorFrame 0 0))).run (silentEvents.take 3)) .messengerTx).2 :=
    List.mem_cons_self ..
  exact initialised (silentEvents.take 3) .messengerTx [] rfl _ sent

end Robofw.Model.Speed
