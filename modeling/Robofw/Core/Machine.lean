import Mathlib.Data.List.Induction

/-! # Runs of event-driven machines

A machine answers one event at a time with a new state and the outputs it emits. An event that is
not enabled leaves the state as it is and emits nothing, so every list of events is a run and an
interleaving of threads is simply an order of their events.

`guarded_run` and `guarded_steps` carry an invariant through a run whose steps all meet a guard;
`run_history` carries an invariant that may also speak of the steps taken so far.
-/

namespace Robofw.Core

/-- A deterministic machine over events `ε` with outputs `ω`. -/
structure Machine (σ ε ω : Type*) where
  initial : σ
  step : σ → ε → σ × List ω

namespace Machine

variable {σ ε ω : Type*} (m : Machine σ ε ω)

/-- The state after a list of events taken from `source`. -/
def runFrom : σ → List ε → σ
  | source, [] => source
  | source, event :: rest => runFrom (m.step source event).1 rest

/-- The steps of the run from `source`: the state before each one and its event. -/
def stepsFrom : σ → List ε → List (σ × ε)
  | _, [] => []
  | source, event :: rest => (source, event) :: stepsFrom (m.step source event).1 rest

/-- The state after a run from the initial state. -/
def run (events : List ε) : σ := m.runFrom m.initial events

/-- The steps of a run from the initial state. -/
def steps (events : List ε) : List (σ × ε) := m.stepsFrom m.initial events

variable {m}

theorem runFrom_append (source : σ) (first second : List ε) :
    m.runFrom source (first ++ second) = m.runFrom (m.runFrom source first) second := by
  induction first generalizing source with
  | nil => rfl
  | cons event rest ih => exact ih _

theorem stepsFrom_append (source : σ) (first second : List ε) :
    m.stepsFrom source (first ++ second) =
      m.stepsFrom source first ++ m.stepsFrom (m.runFrom source first) second := by
  induction first generalizing source with
  | nil => rfl
  | cons event rest ih => exact congrArg ((source, event) :: ·) (ih _)

theorem run_cons (event : ε) (rest : List ε) :
    m.run (event :: rest) = m.runFrom (m.step m.initial event).1 rest := rfl

theorem run_concat (events : List ε) (event : ε) :
    m.run (events ++ [event]) = (m.step (m.run events) event).1 :=
  runFrom_append m.initial events [event]

theorem steps_concat (events : List ε) (event : ε) :
    m.steps (events ++ [event]) = m.steps events ++ [(m.run events, event)] :=
  stepsFrom_append m.initial events [event]

/-- The steps of a run are its events, each taken after the events before it. -/
theorem mem_steps_iff {events : List ε} {state : σ} {event : ε} :
    (state, event) ∈ m.steps events ↔
      ∃ before after, events = before ++ event :: after ∧ m.run before = state := by
  constructor
  · intro member
    induction events using List.reverseRecOn with
    | nil => exact absurd member (List.not_mem_nil)
    | append_singleton events last ih =>
      rw [steps_concat, List.mem_append, List.mem_singleton] at member
      rcases member with member | same
      · obtain ⟨before, after, rfl, reached⟩ := ih member
        exact ⟨before, after ++ [last], by simp, reached⟩
      · obtain ⟨rfl, rfl⟩ := Prod.mk.inj same
        exact ⟨events, [], rfl, rfl⟩
  · rintro ⟨before, after, rfl, rfl⟩
    rw [steps, stepsFrom_append]
    exact List.mem_append_right _ (List.mem_cons_self ..)

theorem run_mem_steps (before after : List ε) (event : ε) :
    (m.run before, event) ∈ m.steps (before ++ event :: after) :=
  mem_steps_iff.mpr ⟨before, after, rfl, rfl⟩

/-- An invariant that every guarded step keeps holds at the end of a guarded run. -/
theorem guarded_run (invariant : σ → Prop) (guard : σ → ε → Prop) (start : invariant m.initial)
    (keep : ∀ state event, invariant state → guard state event → invariant (m.step state event).1)
    {events : List ε} (guarded : ∀ step ∈ m.steps events, guard step.1 step.2) :
    invariant (m.run events) := by
  induction events using List.reverseRecOn with
  | nil => exact start
  | append_singleton events last ih =>
    rw [run_concat]
    rw [steps_concat] at guarded
    have before := ih (fun step member => guarded step (List.mem_append_left _ member))
    exact keep _ _ before (guarded (m.run events, last) (by simp))

/-- The same invariant holds before every step of the run. -/
theorem guarded_steps (invariant : σ → Prop) (guard : σ → ε → Prop) (start : invariant m.initial)
    (keep : ∀ state event, invariant state → guard state event → invariant (m.step state event).1)
    {events : List ε} (guarded : ∀ step ∈ m.steps events, guard step.1 step.2)
    {state : σ} {event : ε} (member : (state, event) ∈ m.steps events) : invariant state := by
  obtain ⟨before, after, rfl, rfl⟩ := mem_steps_iff.mp member
  refine guarded_run invariant guard start keep (fun step earlier => guarded step ?_)
  rw [steps, stepsFrom_append]
  exact List.mem_append_left _ earlier

/-- An invariant that each of the events keeps holds after every step over them. -/
theorem preserved_steps (invariant : σ → Prop) {source : σ} {events : List ε}
    (start : invariant source)
    (keep : ∀ event ∈ events, ∀ state, invariant state → invariant (m.step state event).1) :
    (∀ step ∈ m.stepsFrom source events, step.2 ∈ events ∧ invariant (m.step step.1 step.2).1) ∧
      invariant (m.runFrom source events) := by
  induction events generalizing source with
  | nil => exact ⟨fun step member => absurd member List.not_mem_nil, start⟩
  | cons event rest ih =>
    have next := keep event (List.mem_cons_self ..) source start
    obtain ⟨later, final⟩ := ih next (fun other member => keep other (List.mem_cons_of_mem _ member))
    refine ⟨List.forall_mem_cons.mpr ⟨⟨List.mem_cons_self .., next⟩, fun step member => ?_⟩, final⟩
    exact (later step member).imp_left (List.mem_cons_of_mem _)

/-- An invariant that every step keeps holds in every reached state. -/
theorem invariant_run (invariant : σ → Prop) (start : invariant m.initial)
    (keep : ∀ state event, invariant state → invariant (m.step state event).1) (events : List ε) :
    invariant (m.run events) :=
  guarded_run invariant (fun _ _ => True) start (fun state event holds _ => keep state event holds)
    (fun _ _ => trivial)

/-- An invariant of the history: it may mention the steps already taken. -/
theorem run_history (invariant : List (σ × ε) → σ → Prop) (start : invariant [] m.initial)
    (keep : ∀ past state event, invariant past state →
      invariant (past ++ [(state, event)]) (m.step state event).1) (events : List ε) :
    invariant (m.steps events) (m.run events) := by
  induction events using List.reverseRecOn with
  | nil => exact start
  | append_singleton events last ih =>
    rw [run_concat, steps_concat]
    exact keep _ _ _ ih

end Machine

end Robofw.Core
