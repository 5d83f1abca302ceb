import Mathlib.Logic.Function.Iterate
import Robofw.Core.Machine

/-! # What runs show

Each step of a machine shows a list of observations, and a run shows those of its steps in order. A
`Simulation` answers every step of one machine by steps of another that show the same, so the runs show
the same. `delivered_run` compares what is taken from a queue with what was put into it, and
`observedFrom_length_le` bounds what a run can still show by a potential that its steps use up.
-/

namespace Robofw.Core

namespace Machine

variable {σ ε ω χ : Type*} (m : Machine σ ε ω)

/-- What the run from `source` shows. -/
def observedFrom (observe : σ → ε → List χ) (source : σ) (events : List ε) : List χ :=
  (m.stepsFrom source events).flatMap fun step => observe step.1 step.2

/-- What a run from the initial state shows. -/
def observed (observe : σ → ε → List χ) (events : List ε) : List χ :=
  m.observedFrom observe m.initial events

variable {m} {observe : σ → ε → List χ}

@[simp] theorem observedFrom_nil (source : σ) : m.observedFrom observe source [] = [] := rfl

@[simp] theorem observedFrom_cons (source : σ) (event : ε) (rest : List ε) :
    m.observedFrom observe source (event :: rest) =
      observe source event ++ m.observedFrom observe (m.step source event).1 rest := rfl

theorem observedFrom_append (source : σ) (first second : List ε) :
    m.observedFrom observe source (first ++ second) =
      m.observedFrom observe source first ++ m.observedFrom observe (m.runFrom source first) second := by
  rw [observedFrom, stepsFrom_append, List.flatMap_append]
  rfl

theorem observed_concat (events : List ε) (event : ε) :
    m.observed observe (events ++ [event]) =
      m.observed observe events ++ observe (m.run events) event := by
  rw [observed, observedFrom_append, observedFrom_cons, observedFrom_nil, List.append_nil]
  rfl

theorem run_append (first second : List ε) :
    m.run (first ++ second) = m.runFrom (m.run first) second := runFrom_append m.initial first second

/-- A run over one event is an iteration of its step. -/
theorem runFrom_replicate (source : σ) (event : ε) (count : ℕ) :
    m.runFrom source (List.replicate count event) = (fun state => (m.step state event).1)^[count] source := by
  induction count generalizing source with
  | zero => rfl
  | succ count ih => exact ih _

theorem mem_observed {events : List ε} {shown : χ} :
    shown ∈ m.observed observe events ↔
      ∃ step ∈ m.steps events, shown ∈ observe step.1 step.2 := List.mem_flatMap

/-- A part of what a run shows is that part of each of its steps. -/
theorem filterMap_observed {α : Type*} (part : χ → Option α) (events : List ε) :
    (m.observed observe events).filterMap part =
      m.observed (fun state event => (observe state event).filterMap part) events :=
  List.filterMap_flatMap

/-- Answering each message that a run shows is answering the messages of each step. -/
theorem flatMap_observed {α : Type*} (answer : χ → List α) (events : List ε) :
    (m.observed observe events).flatMap answer =
      m.observed (fun state event => (observe state event).flatMap answer) events :=
  List.flatMap_assoc

/-- What depends on the events alone is shown by them. -/
theorem observed_events (read : ε → Option χ) (events : List ε) :
    m.observed (fun _ event => (read event).toList) events = events.filterMap read := by
  induction events using List.reverseRecOn with
  | nil => rfl
  | append_singleton events last ih =>
    rw [observed_concat, ih, List.filterMap_append]
    cases shown : read last <;> simp [shown]

/-- When all events are admitted, an invariant makes every output good. -/
theorem emitted_run (m : Machine σ ε ω) (invariant : σ → Prop) (admitted : ε → Prop) (good : ω → Prop)
    (start : invariant m.initial)
    (keep : ∀ state event, invariant state → admitted event → invariant (m.step state event).1)
    (emits : ∀ state event, invariant state → admitted event → ∀ output ∈ (m.step state event).2, good output)
    {events : List ε} (all : ∀ event ∈ events, admitted event) :
    ∀ output ∈ m.observed (fun state event => (m.step state event).2) events, good output := by
  have admits : ∀ step ∈ m.steps events, admitted step.2 := by
    rintro ⟨state, event⟩ member
    obtain ⟨before, after, rfl, -⟩ := mem_steps_iff.mp member
    exact all event (by simp)
  intro output shown
  obtain ⟨⟨state, event⟩, member, own⟩ := mem_observed.mp shown
  have holds := guarded_steps invariant (fun _ event => admitted event) start keep admits member
  exact emits state event holds (admits _ member) output own

/-- What is taken from a queue is, in order, some of what was put into it, when each step takes from the
front, puts at the back, and otherwise only drops. -/
theorem delivered_run {α : Type*} (items : σ → List α) (puts takes : σ → ε → List α)
    (start : items m.initial = [])
    (move : ∀ state event, (takes state event ++ items (m.step state event).1).Sublist
      (items state ++ puts state event)) (events : List ε) :
    (m.observed takes events ++ items (m.run events)).Sublist (m.observed puts events) := by
  induction events using List.reverseRecOn with
  | nil =>
    rw [show m.run [] = m.initial from rfl, start]
    exact List.Sublist.refl _
  | append_singleton events last ih =>
    rw [observed_concat, observed_concat, run_concat, List.append_assoc]
    have moved := (move (m.run events) last).append_left (m.observed takes events)
    rw [← List.append_assoc _ (items _)] at moved
    exact moved.trans (ih.append (List.Sublist.refl _))

/-- What comes in is, in order, what goes out and what is still held, when that is so in every step. -/
theorem balanced_run {α : Type*} (held : σ → List α) (incoming outgoing : σ → ε → List α)
    (start : held m.initial = [])
    (balance : ∀ state event, outgoing state event ++ held (m.step state event).1 =
      held state ++ incoming state event) (events : List ε) :
    m.observed outgoing events ++ held (m.run events) = m.observed incoming events := by
  induction events using List.reverseRecOn with
  | nil => exact start
  | append_singleton events last ih =>
    rw [observed_concat, observed_concat, run_concat, List.append_assoc, balance, ← List.append_assoc, ih]

/-- Steps that pay for what they show with a potential show no more than the potential they began
with. -/
theorem observedFrom_length_le (m : Machine σ ε ω) (observe : σ → ε → List χ) (potential : σ → ℕ)
    (invariant : σ → Prop) (guard : σ → ε → Prop)
    (keep : ∀ state event, invariant state → guard state event → invariant (m.step state event).1)
    (pay : ∀ state event, invariant state → guard state event →
      (observe state event).length + potential (m.step state event).1 ≤ potential state)
    {source : σ} (holds : invariant source) {events : List ε}
    (guarded : ∀ step ∈ m.stepsFrom source events, guard step.1 step.2) :
    (m.observedFrom observe source events).length + potential (m.runFrom source events) ≤
      potential source := by
  induction events generalizing source with
  | nil => exact Nat.le_of_eq (Nat.zero_add _)
  | cons event rest ih =>
    obtain ⟨first, later⟩ := List.forall_mem_cons.mp guarded
    have paid := pay source event holds first
    have bound := ih (keep source event holds first) later
    rw [observedFrom_cons, List.length_append]
    have same : m.runFrom source (event :: rest) = m.runFrom (m.step source event).1 rest := rfl
    rw [same]
    omega

end Machine

/-- Every step of `concrete` is answered by steps of `abstract` that show the same. -/
structure Simulation {σ ε ω τ δ ψ χ : Type*} (concrete : Machine σ ε ω) (abstract : Machine τ δ ψ)
    (observe : σ → ε → List χ) (observe' : τ → δ → List χ) where
  relation : σ → τ → Prop
  translate : σ → ε → List δ
  start : relation concrete.initial abstract.initial
  step : ∀ state image event, relation state image →
    relation (concrete.step state event).1 (abstract.runFrom image (translate state event)) ∧
      abstract.observedFrom observe' image (translate state event) = observe state event

namespace Simulation

variable {σ ε ω τ δ ψ χ : Type*} {concrete : Machine σ ε ω} {abstract : Machine τ δ ψ}
  {observe : σ → ε → List χ} {observe' : τ → δ → List χ}

/-- Every run of `concrete` is answered by the run of `abstract` over the translated events. -/
theorem run (sim : Simulation concrete abstract observe observe') (events : List ε) :
    sim.relation (concrete.run events) (abstract.run (concrete.observed sim.translate events)) ∧
      abstract.observed observe' (concrete.observed sim.translate events) =
        concrete.observed observe events := by
  induction events using List.reverseRecOn with
  | nil => exact ⟨sim.start, rfl⟩
  | append_singleton events last ih =>
    obtain ⟨related, shown⟩ := ih
    obtain ⟨next, answer⟩ := sim.step _ _ last related
    rw [Machine.observed_concat, Machine.observed_concat, Machine.run_concat]
    refine ⟨?_, ?_⟩
    · rw [Machine.run_append]
      exact next
    · rw [Machine.observed, Machine.observedFrom_append]
      exact congrArg₂ (· ++ ·) shown answer

end Simulation

/-- A stage is in the state of an abstract machine that has run over its inputs. -/
theorem Machine.stage_state {σ ε ω τ δ ψ : Type*} (concrete : Machine σ ε ω) (abstract : Machine τ δ ψ)
    (image : σ → τ) (inputs : σ → ε → List δ) (start : image concrete.initial = abstract.initial)
    (computed : ∀ state event,
      image (concrete.step state event).1 = abstract.runFrom (image state) (inputs state event))
    (events : List ε) : image (concrete.run events) = abstract.run (concrete.observed inputs events) := by
  induction events using List.reverseRecOn with
  | nil => exact start
  | append_singleton events last ih => rw [run_concat, observed_concat, run_append, computed, ih]

/-- A stage computes what an abstract machine emits on its inputs, at once or later: what it puts out and
what it still holds are the outputs of that machine, in order. -/
theorem Machine.stage_run {σ ε ω τ δ ψ : Type*} (concrete : Machine σ ε ω) (abstract : Machine τ δ ψ)
    (image : σ → τ) (inputs : σ → ε → List δ) (held : σ → List ψ) (outgoing : σ → ε → List ψ)
    (start : image concrete.initial = abstract.initial) (startHeld : held concrete.initial = [])
    (computed : ∀ state event,
      image (concrete.step state event).1 = abstract.runFrom (image state) (inputs state event))
    (balance : ∀ state event, outgoing state event ++ held (concrete.step state event).1 =
      held state ++ abstract.observedFrom (fun state event => (abstract.step state event).2) (image state)
        (inputs state event)) (events : List ε) :
    concrete.observed outgoing events ++ held (concrete.run events) =
      abstract.observed (fun state event => (abstract.step state event).2)
        (concrete.observed inputs events) := by
  let simulation : Simulation concrete abstract
      (fun state event => abstract.observedFrom (fun state event => (abstract.step state event).2)
        (image state) (inputs state event))
      (fun state event => (abstract.step state event).2) :=
    { relation := fun state answer => answer = image state
      translate := inputs
      start := start.symm
      step := fun state _ event same => by
        rw [same]
        exact ⟨(computed state event).symm, rfl⟩ }
  rw [(simulation.run events).2]
  exact balanced_run held _ outgoing startHeld balance events

end Robofw.Core
