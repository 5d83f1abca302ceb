import Robofw.Core.MessageQueue
import Robofw.Core.Observation
import Robofw.Core.Watchdog

/-! # Progress by amortisation

What the steps of a run cost is paid for by what they earn and by the potential that the run began with.
For a producer in its put-or-purge loop the potential is the number of calls it still makes when nobody
gets in its way: a put of somebody else can cost it two calls, a failed put and a purge. For a source that
falls silent behind a watchdog it is the number of polls at which the source can still count, or of the calls
that its poller still makes before it finds the source lost.
-/

namespace Robofw.Core

namespace Machine

variable {σ ε ω χ : Type*} (m : Machine σ ε ω)

/-- The sum of `weight` over the steps of a run. -/
def total (weight : σ → ε → ℕ) (events : List ε) : ℕ :=
  (m.steps events).foldl (fun sum step => sum + weight step.1 step.2) 0

variable {m}

theorem total_concat (weight : σ → ε → ℕ) (events : List ε) (event : ε) :
    m.total weight (events ++ [event]) = m.total weight events + weight (m.run events) event := by
  rw [total, steps_concat, List.foldl_concat]
  rfl

theorem total_add (first second : σ → ε → ℕ) (events : List ε) :
    m.total (fun state event => first state event + second state event) events =
      m.total first events + m.total second events := by
  induction events using List.reverseRecOn with
  | nil => rfl
  | append_singleton events last ih =>
    rw [total_concat, total_concat, total_concat, ih]
    omega

theorem total_mul (factor : ℕ) (weight : σ → ε → ℕ) (events : List ε) :
    m.total (fun state event => factor * weight state event) events = factor * m.total weight events := by
  induction events using List.reverseRecOn with
  | nil => rfl
  | append_singleton events last ih => rw [total_concat, total_concat, ih, Nat.mul_add]

/-- The observations of a kind are counted step by step. -/
theorem total_countP (observe : σ → ε → List χ) (kind : χ → Bool) (events : List ε) :
    m.total (fun state event => (observe state event).countP kind) events =
      (m.observed observe events).countP kind := by
  induction events using List.reverseRecOn with
  | nil => rfl
  | append_singleton events last ih => rw [total_concat, observed_concat, List.countP_append, ih]

/-- A run costs no more than it earns and the potential that it uses up. -/
theorem total_le (cost income : σ → ε → ℕ) (potential : σ → ℕ)
    (pay : ∀ state event, cost state event + potential (m.step state event).1 ≤
      potential state + income state event) (events : List ε) :
    m.total cost events + potential (m.run events) ≤ potential m.initial + m.total income events := by
  induction events using List.reverseRecOn with
  | nil => exact Nat.le_of_eq (Nat.add_comm _ _)
  | append_singleton events last ih =>
    have paid := pay (m.run events) last
    rw [total_concat, total_concat, run_concat]
    omega

/-- A guarded run reaches what is `done`, and stays there, unless the events that count are fewer than its
potential can pay for. -/
theorem deadline {done : σ → Prop} {guard : σ → ε → Prop} (counts : ε → Bool) (potential : σ → ℕ)
    (stable : ∀ state event, done state → guard state event → done (m.step state event).1)
    (pay : ∀ state event, guard state event → ¬ done (m.step state event).1 →
      (counts event).toNat + potential (m.step state event).1 ≤ potential state)
    {source : σ} {events : List ε} (guarded : ∀ step ∈ m.stepsFrom source events, guard step.1 step.2) :
    done (m.runFrom source events) ∨
      events.countP counts + potential (m.runFrom source events) ≤ potential source := by
  induction events using List.reverseRecOn with
  | nil => exact .inr (Nat.le_of_eq (Nat.zero_add _))
  | append_singleton events last ih =>
    rw [stepsFrom_append] at guarded
    have own : guard (m.runFrom source events) last :=
      guarded (m.runFrom source events, last) (List.mem_append_right _ (List.mem_singleton_self _))
    have next : m.runFrom source (events ++ [last]) = (m.step (m.runFrom source events) last).1 :=
      runFrom_append source events [last]
    rw [next]
    by_cases reached : done (m.step (m.runFrom source events) last).1
    · exact .inl reached
    rcases ih fun step member => guarded step (List.mem_append_left _ member) with already | unpaid
    · exact absurd (stable _ _ already own) reached
    · have paid := pay _ _ own reached
      refine .inr ?_
      rw [List.countP_append, List.countP_singleton]
      cases counted : counts last with
      | true =>
        rw [counted, Bool.toNat_true] at paid
        rw [if_pos rfl]
        omega
      | false =>
        rw [counted, Bool.toNat_false] at paid
        rw [if_neg Bool.false_ne_true]
        omega

/-- What does not hold at the end of a run and would have stayed held in none of its steps. -/
theorem stepsFrom_not (stays : σ → Prop) (stable : ∀ state event, stays state → stays (m.step state event).1)
    {source : σ} {events : List ε} (ended : ¬ stays (m.runFrom source events)) :
    ∀ step ∈ m.stepsFrom source events, ¬ stays step.1 := by
  induction events using List.reverseRecOn with
  | nil => exact fun _ member => absurd member List.not_mem_nil
  | append_singleton events last ih =>
    have before : ¬ stays (m.runFrom source events) := by
      intro held
      apply ended
      rw [runFrom_append]
      exact stable _ last held
    intro step member
    rw [stepsFrom_append] at member
    rcases List.mem_append.mp member with earlier | latest
    · exact ih before step earlier
    · rw [List.mem_singleton.mp latest]
      exact before

end Machine

namespace MessageQueue

variable {α : Type*} {capacity : ℕ} {queue next : MessageQueue α capacity} {message : α}

/-- The calls that a producer still makes in its put-or-purge loop when nobody puts in between. -/
def callsLeft (queue : MessageQueue α capacity) (purging : Bool) : ℕ :=
  if purging then 2 else if queue.items.length = capacity then 3 else 1

theorem callsLeft_pos (queue : MessageQueue α capacity) (purging : Bool) : 0 < queue.callsLeft purging := by
  unfold callsLeft
  split <;> [omega; (split <;> omega)]

theorem callsLeft_le (queue : MessageQueue α capacity) (purging : Bool) : queue.callsLeft purging ≤ 3 := by
  unfold callsLeft
  split <;> [omega; (split <;> omega)]

/-- A call that does not end the loop leaves fewer calls. -/
theorem callsLeft_attempt (slots : 0 < capacity) {purging : Bool} {outcome : Attempt}
    (effect : queue.attempt purging message = (next, outcome)) (goesOn : outcome ≠ .done) :
    next.callsLeft (outcome == .full) + 1 ≤ queue.callsLeft purging := by
  unfold attempt at effect
  cases purging with
  | true =>
    obtain ⟨rfl, rfl⟩ := Prod.mk.inj effect
    have room : 0 ≠ capacity := by omega
    simp [callsLeft, room]
  | false =>
    cases success : queue.put message with
    | some after =>
      simp only [success, Bool.false_eq_true, if_false] at effect
      exact absurd (Prod.mk.inj effect).2.symm goesOn
    | none =>
      simp only [success, Bool.false_eq_true, if_false] at effect
      obtain ⟨rfl, rfl⟩ := Prod.mk.inj effect
      have full : queue.items.length = capacity := put_eq_none_iff.mp success
      simp [callsLeft, full]

/-- Each put of somebody else costs at most two more calls. -/
theorem Delivers.callsLeft_le {puts takes : List α} (delivers : Delivers queue next puts takes)
    (purging : Bool) : next.callsLeft purging ≤ queue.callsLeft purging + 2 * puts.length := by
  have longest := delivers.length_le
  have bounded := queue.bounded
  rw [List.length_append, List.length_append] at longest
  unfold callsLeft
  cases purging with
  | true => simp
  | false =>
    simp only [Bool.false_eq_true, if_false]
    split <;> split <;> omega

/-- A queue that only lost messages costs no more calls. -/
theorem callsLeft_sublist (fewer : next.items.Sublist queue.items) (purging : Bool) :
    next.callsLeft purging ≤ queue.callsLeft purging := by
  have delivers : Delivers queue next [] [] := by
    unfold Delivers
    rw [List.append_nil]
    exact fewer
  exact delivers.callsLeft_le purging

end MessageQueue

namespace Watchdog

variable {α : Type*} {limit counter : ℕ} {held : Bool} {queue next : MessageQueue α 1} {message : α}

/-- The polls at which a silent source can still count: those of a message that its producer holds, and
those of the one that waits or what is left of the count since the last. -/
def budget (limit : ℕ) (held : Bool) (queue : MessageQueue α 1) (counter : ℕ) : ℕ :=
  (if held then limit + 2 else 0) + if queue.items.length = 0 then limit + 1 - counter else limit + 2

theorem budget_le : budget limit held queue counter ≤ 2 * (limit + 2) := by
  unfold budget
  split <;> split <;> omega

/-- A poll that finds the waiting message spends one poll of it. -/
theorem budget_heard (taken : queue.get = some (message, next)) :
    budget limit held next 0 + 1 = budget limit held queue counter := by
  have items := MessageQueue.get_eq_some taken
  have none : next.items.length = 0 := by rw [MessageQueue.items_eq_nil items, List.length_nil]
  have one : queue.items.length ≠ 0 := by simp [items]
  simp only [budget, none, one, if_true, if_false]
  omega

/-- A poll that finds nothing spends one of the count, while it runs. -/
theorem budget_missed (running : counter ≤ limit) (silent : queue.get = none) :
    budget limit held queue (counter + 1) + 1 = budget limit held queue counter := by
  have none : queue.items.length = 0 := by rw [MessageQueue.get_eq_none_iff.mp silent, List.length_nil]
  simp only [budget, none, if_true]
  omega

/-- A call of the producer hands its message on at most. -/
theorem budget_attempt {purging : Bool} {outcome : Attempt}
    (effect : queue.attempt purging message = (next, outcome)) :
    budget limit (outcome != .done) next counter ≤ budget limit true queue counter := by
  have items := MessageQueue.attempt_items queue purging message
  rw [effect] at items
  cases outcome with
  | done =>
    have one : next.items.length ≠ 0 := by simp [show next.items = _ from items]
    simp [budget, one]
  | full =>
    rw [show next = queue from items]
    exact Nat.le_refl _
  | purged =>
    rw [show next = .empty from items]
    simp only [budget, MessageQueue.items_empty, List.length_nil, if_true]
    split <;> split <;> omega

/-- A watchdog that is polled at least every `period` calls and hears nothing finds its source lost: each
guarded step misses a poll, which grants the calls of a period, or leaves fewer calls up to the next one. -/
theorem lost_of_calls {ρ ε ω σ β : Type*} (m : Machine ρ ε ω) (watchdog : ρ → Watchdog σ) (toPoll : ρ → ℕ)
    (own : ε → Bool) {guard : ρ → ε → Prop} {period : ℕ} {lost : σ} {decode : β → σ}
    (pace : ∀ state event, guard state event →
      watchdog (m.step state event).1 = poll limit lost decode (watchdog state) none ∧
          (own event).toNat + toPoll (m.step state event).1 ≤ toPoll state + period ∨
        watchdog (m.step state event).1 = watchdog state ∧
          (own event).toNat + toPoll (m.step state event).1 ≤ toPoll state)
    {source : ρ} {events : List ε} (guarded : ∀ step ∈ m.stepsFrom source events, guard step.1 step.2) :
    (watchdog (m.runFrom source events)).status = lost ∨
      events.countP own ≤ toPoll source + period * (limit + 1) := by
  have stable (state : ρ) (event : ε) (expired : (watchdog state).status = lost)
      (guarded : guard state event) : (watchdog (m.step state event).1).status = lost := by
    rcases pace state event guarded with ⟨missed, -⟩ | ⟨kept, -⟩
    · subst expired
      rw [missed]
      exact status_poll_lost
    · rw [kept]
      exact expired
  have pay (state : ρ) (event : ε) (guarded : guard state event)
      (holds : ¬ (watchdog (m.step state event).1).status = lost) :
      (own event).toNat + (toPoll (m.step state event).1 +
          period * (limit + 1 - (watchdog (m.step state event).1).counter)) ≤
        toPoll state + period * (limit + 1 - (watchdog state).counter) := by
    rcases pace state event guarded with ⟨missed, within⟩ | ⟨kept, fewer⟩
    · rcases Nat.lt_or_ge limit (watchdog state).counter with expired | running
      · rw [missed] at holds
        exact absurd (congrArg status (poll_none_of_lt expired)) holds
      · have counted : (watchdog (m.step state event).1).counter = (watchdog state).counter + 1 := by
          rw [missed]
          exact congrArg counter (poll_none_of_le running)
        have iteration : limit + 1 - (watchdog state).counter =
            limit + 1 - ((watchdog state).counter + 1) + 1 := by omega
        rw [counted, iteration, Nat.mul_succ]
        omega
    · rw [kept]
      omega
  refine (Machine.deadline own (fun state => toPoll state + period * (limit + 1 - (watchdog state).counter))
    stable pay guarded).imp_right fun unpaid => ?_
  have counting : period * (limit + 1 - (watchdog source).counter) ≤ period * (limit + 1) :=
    Nat.mul_le_mul_left period (Nat.sub_le _ _)
  omega

end Watchdog

end Robofw.Core
