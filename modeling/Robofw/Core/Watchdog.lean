import Mathlib.Data.Nat.Basic
import Robofw.Core.Machine

/-! # Watchdogs

A watchdog polls a source once in every iteration. A message sets its status and restarts its
counter; a poll without a message counts up to a limit, and from then on the status is the lost one.
The status is a function of the polls made so far: `expected` reads it off the last message heard and
the polls since. Histories list the newest poll first.

`tracked_run` finds the watchdog inside a machine whose steps move it by the polls they make.
-/

namespace Robofw.Core

structure Watchdog (σ : Type*) where
  counter : ℕ
  status : σ
deriving DecidableEq, Repr

namespace Watchdog

variable {α σ : Type*}

/-- One poll: the counter that passed `limit` declares the source lost. -/
def poll (limit : ℕ) (lost : σ) (decode : α → σ) (w : Watchdog σ) : Option α → Watchdog σ
  | some message => ⟨0, decode message⟩
  | none => if limit < w.counter then ⟨w.counter, lost⟩ else ⟨w.counter + 1, w.status⟩

/-- The watchdog that started with the status `initial` and made these polls. -/
def after (limit : ℕ) (initial lost : σ) (decode : α → σ) (polls : List (Option α)) : Watchdog σ :=
  polls.foldr (fun outcome w => poll limit lost decode w outcome) ⟨0, initial⟩

/-- The last message heard. -/
def lastHeard : List (Option α) → Option α
  | [] => none
  | some message :: _ => some message
  | none :: earlier => lastHeard earlier

/-- The polls made since the last message, or all of them when there was none. -/
def silence : List (Option α) → ℕ
  | [] => 0
  | some _ :: _ => 0
  | none :: earlier => silence earlier + 1

/-- The status in closed form: the last message counts through `limit + 1` polls without another. -/
def expected (limit : ℕ) (initial lost : σ) (decode : α → σ) (polls : List (Option α)) : σ :=
  if silence polls ≤ limit + 1 then (lastHeard polls).elim initial decode else lost

variable {limit : ℕ} {initial lost : σ} {decode : α → σ}

theorem expected_of_le {polls : List (Option α)} (recent : silence polls ≤ limit + 1) :
    expected limit initial lost decode polls = (lastHeard polls).elim initial decode := if_pos recent

theorem expected_of_lt {polls : List (Option α)} (silent : limit + 1 < silence polls) :
    expected limit initial lost decode polls = lost := if_neg (Nat.not_le.mpr silent)

theorem poll_none_of_le {counter : ℕ} {status : σ} (running : counter ≤ limit) :
    poll limit lost decode ⟨counter, status⟩ none = ⟨counter + 1, status⟩ :=
  if_neg (Nat.not_lt.mpr running)

theorem poll_none_of_lt {counter : ℕ} {status : σ} (expired : limit < counter) :
    poll limit lost decode ⟨counter, status⟩ none = ⟨counter, lost⟩ := if_pos expired

/-- What is lost stays lost without a message. -/
theorem status_poll_lost {counter : ℕ} : (poll limit lost decode ⟨counter, lost⟩ none).status = lost := by
  rcases Nat.lt_or_ge limit counter with expired | running
  · rw [poll_none_of_lt expired]
  · rw [poll_none_of_le running]

/-- The counter is the silence, cut off one above the limit, and the status is the expected one. -/
theorem after_eq (polls : List (Option α)) : after limit initial lost decode polls =
    ⟨min (silence polls) (limit + 1), expected limit initial lost decode polls⟩ := by
  induction polls with
  | nil =>
    rw [expected_of_le (show silence ([] : List (Option α)) ≤ limit + 1 from Nat.zero_le _)]
    rfl
  | cons outcome earlier ih =>
    rw [after, List.foldr_cons, ← after, ih]
    cases outcome with
    | some message =>
      rw [expected_of_le (show silence (some message :: earlier) ≤ limit + 1 from Nat.zero_le _)]
      rfl
    | none =>
      have grown : silence (none :: earlier) = silence earlier + 1 := rfl
      have same : lastHeard (none :: earlier) = lastHeard earlier := rfl
      rcases Nat.lt_or_ge limit (silence earlier) with expired | running
      · rw [poll_none_of_lt (by omega), expected_of_lt (by omega), grown]
        congr 1
        omega
      · rw [poll_none_of_le (by omega), expected_of_le (by omega),
          expected_of_le (by omega), grown, same]
        congr 1
        omega

section Tracked

variable {ρ ε ω : Type*} {m : Machine ρ ε ω} {poll? : ρ × ε → Option (Option α)}

/-- The polls made by the steps of a run, newest first. -/
def polls (poll? : ρ × ε → Option (Option α)) (past : List (ρ × ε)) : List (Option α) :=
  (past.filterMap poll?).reverse

theorem polls_concat (past : List (ρ × ε)) (step : ρ × ε) :
    polls poll? (past ++ [step]) = (poll? step).toList ++ polls poll? past := by
  simp only [polls, List.filterMap_append, List.reverse_append]
  cases outcome : poll? step with
  | none => rw [List.filterMap_cons_none outcome]; rfl
  | some poll => rw [List.filterMap_cons_some outcome]; rfl

/-- A machine in which every step moves the watchdog by the poll it makes holds, after every run, the
watchdog of the polls of that run. -/
theorem tracked_run (watchdog : ρ → Watchdog σ) (start : watchdog m.initial = ⟨0, initial⟩)
    (track : ∀ state event, watchdog (m.step state event).1 =
      (poll? (state, event)).elim (watchdog state) (poll limit lost decode (watchdog state)))
    (events : List ε) : watchdog (m.run events) =
      after limit initial lost decode (polls poll? (m.steps events)) := by
  apply Machine.run_history (fun past state => watchdog state =
    after limit initial lost decode (polls poll? past)) start
  intro past state event holds
  rw [track, polls_concat, holds]
  cases poll? (state, event) with
  | none => rfl
  | some outcome => rfl

/-- A machine that keeps the last message of its polls holds it after every run. -/
theorem latched_run {initial : α} (value : ρ → α) (start : value m.initial = initial)
    (latch : ∀ state event, value (m.step state event).1 =
      (poll? (state, event)).elim (value state) (·.getD (value state)))
    (events : List ε) : value (m.run events) =
      (lastHeard (polls poll? (m.steps events))).getD initial := by
  apply Machine.run_history (fun past state => value state =
    (lastHeard (polls poll? past)).getD initial) start
  intro past state event holds
  rw [latch, polls_concat, holds]
  cases poll? (state, event) with
  | none => rfl
  | some outcome => cases outcome <;> rfl

end Tracked

end Watchdog

end Robofw.Core
