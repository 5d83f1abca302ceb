import Mathlib.Logic.Function.Basic
import Robofw.Core.Machine
import Robofw.Core.MessageQueue

/-! # Put-or-purge mailboxes

A message queue between any number of producers, which all run the loop `while (put fails) purge` of
the services, and any number of consumers, interleaved call by call. A message is stamped with the
number of puts completed before it, and the lists of completed puts and of consumed messages are
ghosts. So is the mark on a put that repeats a failed one.
-/

namespace Robofw.Model

open Robofw.Core

/-- Where a producer stands: its next call puts its message, or purges. -/
inductive ProducerPhase (α : Type*) where
  | idle
  | put (message : α) (failedBefore : Bool)
  | purge (message : α)

/-- The producer is between a failed put and its successful retry. -/
def ProducerPhase.Retrying {α : Type*} : ProducerPhase α → Prop
  | .idle => False
  | .put _ failedBefore => failedBefore = true
  | .purge _ => True

structure Mailbox (π κ α : Type*) (capacity : ℕ) where
  queue : MessageQueue (Stamped α ℕ) capacity
  producers : π → ProducerPhase α
  completed : List (Stamped α ℕ)
  consumed : List (κ × Stamped α ℕ)

/-- A producer enters its loop with a message, a producer makes its next call, or a consumer gets. -/
inductive MailboxEvent (π κ α : Type*) where
  | send (producer : π) (message : α)
  | call (producer : π)
  | get (consumer : κ)

namespace Mailbox

variable {π κ α : Type*} {capacity : ℕ}

def initial : Mailbox π κ α capacity := ⟨.empty, fun _ => .idle, [], []⟩

section

variable [DecidableEq π]

def setPhase (s : Mailbox π κ α capacity) (producer : π) (phase : ProducerPhase α) :
    Mailbox π κ α capacity :=
  { s with producers := Function.update s.producers producer phase }

def step (s : Mailbox π κ α capacity) :
    MailboxEvent π κ α → Mailbox π κ α capacity × List (κ × Stamped α ℕ)
  | .send producer message =>
    match s.producers producer with
    | .idle => (s.setPhase producer (.put message false), [])
    | _ => (s, [])
  | .call producer =>
    match s.producers producer with
    | .idle => (s, [])
    | .put message _ =>
      match s.queue.put ⟨message, s.completed.length⟩ with
      | some queue =>
        ({ s.setPhase producer .idle with
            queue := queue, completed := s.completed ++ [⟨message, s.completed.length⟩] }, [])
      | none => (s.setPhase producer (.purge message), [])
    | .purge message => ({ s.setPhase producer (.put message true) with queue := .empty }, [])
  | .get consumer =>
    match s.queue.get with
    | some (message, queue) =>
      ({ s with queue := queue, consumed := s.consumed ++ [(consumer, message)] },
        [(consumer, message)])
    | none => (s, [])

end

/-- A queue with its producers and consumers. -/
def machine (π κ α : Type*) (capacity : ℕ) [DecidableEq π] :
    Machine (Mailbox π κ α capacity) (MailboxEvent π κ α) (κ × Stamped α ℕ) := ⟨initial, step⟩

end Mailbox

end Robofw.Model
