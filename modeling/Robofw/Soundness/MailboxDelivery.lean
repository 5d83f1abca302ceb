import Mathlib.Data.List.Nodup
import Robofw.Model.Mailbox

/-! # What a put-or-purge mailbox delivers

Purges lose messages, but never reorder or repeat them, and never the newest one for good: a producer
purges only while it still has a message to put. So the last completed put waits or was consumed,
unless some producer is between a failed put and its retry.
-/

namespace Robofw.Model.Mailbox

open Robofw.Core

variable {π κ α : Type*} {capacity : ℕ}

/-- The invariant of every interleaving. -/
structure Delivers (s : Mailbox π κ α capacity) : Prop where
  numbered : s.completed.map Stamped.stamp = List.range s.completed.length
  ordered : (s.consumed.map Prod.snd ++ s.queue.items).Sublist s.completed
  newest : ∀ message ∈ s.completed.getLast?,
    message ∈ s.queue.items ∨ message ∈ s.consumed.map Prod.snd ∨
      ∃ producer, (s.producers producer).Retrying

theorem delivers_initial : Delivers (initial : Mailbox π κ α capacity) :=
  ⟨rfl, List.Sublist.refl _, by intro message last; contradiction⟩

variable [DecidableEq π]

/-- Another producer's phase, or a retrying one, keeps some producer retrying. -/
theorem retrying_setPhase {s : Mailbox π κ α capacity} {producer : π} {phase : ProducerPhase α}
    (retrying : ∃ other, (s.producers other).Retrying)
    (keeps : (s.producers producer).Retrying → phase.Retrying) :
    ∃ other, ((s.setPhase producer phase).producers other).Retrying := by
  obtain ⟨other, retries⟩ := retrying
  refine ⟨other, ?_⟩
  by_cases same : other = producer
  · subst same
    simp only [setPhase, Function.update_self]
    exact keeps retries
  · simp only [setPhase, Function.update_of_ne same]
    exact retries

/-- The producer that now retries is one. -/
theorem retrying_self {s : Mailbox π κ α capacity} {producer : π} {phase : ProducerPhase α}
    (retries : phase.Retrying) :
    ∃ other, ((s.setPhase producer phase).producers other).Retrying :=
  ⟨producer, by simp only [setPhase, Function.update_self]; exact retries⟩

/-- Every call keeps the invariant. -/
theorem Delivers.step {s : Mailbox π κ α capacity} (delivers : Delivers s)
    (event : MailboxEvent π κ α) : Delivers (s.step event).1 := by
  obtain ⟨numbered, ordered, newest⟩ := delivers
  cases event with
  | send producer message =>
    simp only [Mailbox.step]
    split
    case h_1 idle =>
      refine ⟨numbered, ordered, fun last member => ?_⟩
      refine (newest last member).imp id (Or.imp id fun retrying => ?_)
      exact retrying_setPhase retrying (by rw [idle]; exact False.elim)
    case h_2 => exact ⟨numbered, ordered, newest⟩
  | call producer =>
    simp only [Mailbox.step]
    cases s.producers producer with
    | idle => exact ⟨numbered, ordered, newest⟩
    | put message failedBefore =>
      dsimp only
      split
      case h_1 queue success =>
        have items := MessageQueue.put_eq_some success
        refine ⟨?_, ?_, ?_⟩
        · simp only [List.map_append, numbered, List.map_cons, List.map_nil, List.length_append,
            List.length_cons, List.length_nil, List.range_succ]
        · simp only [items, ← List.append_assoc]
          exact ordered.append (List.Sublist.refl _)
        · intro last member
          rw [List.getLast?_concat] at member
          obtain rfl := Option.some.inj member
          exact .inl (items ▸ List.mem_append_right _ (List.mem_singleton_self _))
      case h_2 failed =>
        exact ⟨numbered, ordered, fun _ _ => .inr (.inr (retrying_self trivial))⟩
    | purge message =>
      refine ⟨numbered, ?_, fun _ _ => .inr (.inr (retrying_self rfl))⟩
      exact (List.Sublist.append_left (List.nil_sublist _) _).trans ordered
  | get consumer =>
    simp only [Mailbox.step]
    split
    case h_1 message queue taken =>
      have items := MessageQueue.get_eq_some taken
      have same : (s.consumed ++ [(consumer, message)]).map Prod.snd ++ queue.items =
          s.consumed.map Prod.snd ++ s.queue.items := by
        rw [items, List.map_append, List.append_assoc]
        rfl
      refine ⟨numbered, same ▸ ordered, fun last member => ?_⟩
      rcases newest last member with waiting | consumed | retrying
      · rw [items] at waiting
        rcases List.mem_cons.mp waiting with rfl | waiting
        · exact .inr (.inl (by simp))
        · exact .inl waiting
      · exact .inr (.inl (by rw [List.map_append]; exact List.mem_append_left _ consumed))
      · exact .inr (.inr retrying)
    case h_2 => exact ⟨numbered, ordered, newest⟩

/-- In every interleaving, the messages consumed are a subsequence of the completed puts, each at most
once; and while no producer is between a failed put and its successful retry, the last message put
waits in the queue or has been consumed. -/
theorem delivery (events : List (MailboxEvent π κ α)) :
    let s := (machine π κ α capacity).run events
    (s.consumed.map Prod.snd).Sublist s.completed ∧ (s.consumed.map Prod.snd).Nodup ∧
      ((∀ producer, ¬ (s.producers producer).Retrying) →
        ∀ message ∈ s.completed.getLast?,
          message ∈ s.queue.items ∨ message ∈ s.consumed.map Prod.snd) := by
  intro s
  have delivers : Delivers s := Machine.invariant_run (m := machine π κ α capacity) Delivers
    delivers_initial (fun state event holds => holds.step event) events
  have consumed : (s.consumed.map Prod.snd).Sublist s.completed :=
    (List.sublist_append_left _ _).trans delivers.ordered
  refine ⟨consumed, ?_, fun quiet message last => ?_⟩
  · have distinct : (s.completed.map Stamped.stamp).Nodup := by
      rw [delivers.numbered]
      exact List.nodup_range
    exact consumed.nodup (List.Nodup.of_map _ distinct)
  · rcases delivers.newest message last with waiting | consumed | ⟨producer, retries⟩
    · exact .inl waiting
    · exact .inr consumed
    · exact absurd retries (quiet producer)

end Robofw.Model.Mailbox
