import Mathlib.Data.List.Basic

/-! # Bounded message queues and put-or-purge producers

A bounded FIFO whose put fails exactly when it is full. A producer that must not block runs the
loop `while (put fails) purge`; `attempt` is one call of that loop, so that other threads may act
between its calls. `Stamped` carries a ghost stamp along with a message.
-/

namespace Robofw.Core

/-- A FIFO that never holds more than `capacity` messages, oldest first. -/
structure MessageQueue (α : Type*) (capacity : ℕ) where
  items : List α
  bounded : items.length ≤ capacity

/-- The outcome of one call of the put-or-purge loop. -/
inductive Attempt where
  | done
  | full
  | purged
deriving DecidableEq, Repr

namespace MessageQueue

variable {α : Type*} {capacity : ℕ}

/-- The empty queue, which is also what a purge leaves. -/
def empty : MessageQueue α capacity := ⟨[], Nat.zero_le _⟩

/-- Append a message; `none` when the queue is full. -/
def put (queue : MessageQueue α capacity) (message : α) : Option (MessageQueue α capacity) :=
  if room : queue.items.length < capacity then
    some ⟨queue.items ++ [message], by rw [List.length_append]; exact room⟩
  else none

/-- Append the messages that fit, and tell which. -/
def putFitting (queue : MessageQueue α capacity) (messages : List α) :
    MessageQueue α capacity × List α :=
  let accepted := messages.take (capacity - queue.items.length)
  (⟨queue.items ++ accepted, by
    have bounded := queue.bounded
    have fits : accepted.length ≤ capacity - queue.items.length := List.length_take_le _ _
    rw [List.length_append]
    omega⟩, accepted)

/-- Take the oldest message; `none` when there is none. -/
def get (queue : MessageQueue α capacity) : Option (α × MessageQueue α capacity) :=
  match queue with
  | ⟨[], _⟩ => none
  | ⟨message :: rest, bounded⟩ => some (message, ⟨rest, Nat.le_of_succ_le bounded⟩)

/-- One call of `while (put fails) purge`: the purge when `purging`, otherwise the put. -/
def attempt (queue : MessageQueue α capacity) (purging : Bool) (message : α) :
    MessageQueue α capacity × Attempt :=
  if purging then (empty, .purged)
  else match queue.put message with
    | some next => (next, .done)
    | none => (queue, .full)

/-- The messages under another reading. -/
def map {β : Type*} (read : α → β) (queue : MessageQueue α capacity) : MessageQueue β capacity :=
  ⟨queue.items.map read, by rw [List.length_map]; exact queue.bounded⟩

/-- What a consumer's `get` leaves. -/
def afterGet (queue : MessageQueue α capacity) : MessageQueue α capacity :=
  match queue.get with
  | some (_, rest) => rest
  | none => queue

/-- The loop `while (put fails) purge` on a queue of one slot, run to its end: after a purge there is
room. -/
def putOrPurge (queue : MessageQueue α 1) (message : α) : MessageQueue α 1 :=
  (queue.put message).getD ⟨[message], Nat.le_refl 1⟩

@[simp] theorem items_empty : (empty : MessageQueue α capacity).items = [] := rfl

theorem put_eq_some {queue next : MessageQueue α capacity} {message : α}
    (success : queue.put message = some next) : next.items = queue.items ++ [message] := by
  unfold put at success
  split at success
  · exact congrArg items (Option.some.inj success).symm
  · contradiction

theorem put_eq_none_iff {queue : MessageQueue α capacity} {message : α} :
    queue.put message = none ↔ queue.items.length = capacity := by
  have bounded := queue.bounded
  unfold put
  split
  · simp only [reduceCtorEq, false_iff]; omega
  · simp only [true_iff]; omega

theorem get_eq_some {queue next : MessageQueue α capacity} {message : α}
    (taken : queue.get = some (message, next)) : queue.items = message :: next.items := by
  rcases queue with ⟨items, bounded⟩
  cases items with
  | nil => simp only [get, reduceCtorEq] at taken
  | cons head rest =>
    obtain ⟨rfl, rfl⟩ := Prod.mk.inj (Option.some.inj taken)
    rfl

/-- In a queue of one slot nothing waits behind the head. -/
theorem items_eq_nil {queue next : MessageQueue α 1} {message : α}
    (items : queue.items = message :: next.items) : next.items = [] := by
  have bounded := queue.bounded
  rw [items, List.length_cons] at bounded
  exact List.eq_nil_of_length_eq_zero (by omega)

theorem get_eq_none_iff {queue : MessageQueue α capacity} :
    queue.get = none ↔ queue.items = [] := by
  rcases queue with ⟨items, bounded⟩
  cases items <;> simp [get]

/-- A queue is the list of its messages. -/
theorem eq_of_items {queue other : MessageQueue α capacity} (same : queue.items = other.items) :
    queue = other := by
  cases queue
  cases other
  congr

/-- A get takes the oldest message. -/
theorem head_afterGet (queue : MessageQueue α capacity) :
    queue.items.head?.toList ++ queue.afterGet.items = queue.items := by
  unfold afterGet
  split
  case h_1 message rest taken => rw [get_eq_some taken]; rfl
  case h_2 taken => rw [get_eq_none_iff.mp taken]; rfl

@[simp] theorem items_map {β : Type*} (read : α → β) (queue : MessageQueue α capacity) :
    (queue.map read).items = queue.items.map read := rfl

theorem map_map_of_leftInverse {β : Type*} {read : α → β} {back : β → α}
    (inverse : ∀ message, back (read message) = message) (queue : MessageQueue α capacity) :
    (queue.map read).map back = queue := by
  apply eq_of_items
  rw [items_map, items_map, List.map_map]
  exact (List.map_congr_left fun message _ => inverse message).trans (List.map_id _)

theorem get_map {β : Type*} (read : α → β) (queue : MessageQueue α capacity) :
    (queue.map read).get = queue.get.map fun taken => (read taken.1, taken.2.map read) := by
  rcases queue with ⟨items, bounded⟩
  cases items <;> rfl

/-- The whole loop on a queue of one slot leaves its message alone. -/
@[simp] theorem items_putOrPurge (queue : MessageQueue α 1) (message : α) :
    (queue.putOrPurge message).items = [message] := by
  have bounded := queue.bounded
  unfold putOrPurge put
  split
  case isTrue room =>
    have none := List.eq_nil_of_length_eq_zero (by omega : queue.items.length = 0)
    simp only [Option.getD_some, none, List.nil_append]
  case isFalse => rfl

/-- A completed attempt was a put with room left, and it appended the message. -/
theorem attempt_done_iff {queue : MessageQueue α capacity} {purging : Bool} {message : α} :
    (queue.attempt purging message).2 = .done ↔
      purging = false ∧ queue.items.length < capacity := by
  have bounded := queue.bounded
  have full : queue.put message = none ↔ queue.items.length = capacity := put_eq_none_iff
  unfold attempt
  cases purging with
  | true => simp
  | false =>
    cases outcome : queue.put message with
    | none => have length := full.mp outcome; simp only [Bool.false_eq_true, if_false]; simp; omega
    | some next =>
      have length : queue.items.length ≠ capacity := by rw [Ne, ← full, outcome]; simp
      simp only [Bool.false_eq_true, if_false, true_iff, true_and]
      omega

/-- What one call of the loop can do to the queue. -/
theorem attempt_items (queue : MessageQueue α capacity) (purging : Bool) (message : α) :
    match (queue.attempt purging message).2 with
    | .done => (queue.attempt purging message).1.items = queue.items ++ [message]
    | .full => (queue.attempt purging message).1 = queue
    | .purged => (queue.attempt purging message).1 = empty := by
  unfold attempt
  cases purging with
  | true => rfl
  | false =>
    cases outcome : queue.put message with
    | none => rfl
    | some next => exact put_eq_some outcome

/-- A call of the loop adds its message at the back, when its put succeeds, and otherwise only drops. -/
theorem attempt_sublist {queue next : MessageQueue α capacity} {purging : Bool} {message : α}
    {outcome : Attempt} (effect : queue.attempt purging message = (next, outcome)) :
    next.items.Sublist (queue.items ++ if outcome = .done then [message] else []) := by
  have items := attempt_items queue purging message
  rw [effect] at items
  cases outcome with
  | done => exact (show next.items = _ from items) ▸ List.Sublist.refl _
  | full => exact (show next = queue from items) ▸ List.sublist_append_left _ _
  | purged => exact (show next = empty from items) ▸ List.nil_sublist _

/-- A step took `takes` from the front of a queue, put `puts` at its back, and otherwise only dropped. -/
def Delivers (before after : MessageQueue α capacity) (puts takes : List α) : Prop :=
  (takes ++ after.items).Sublist (before.items ++ puts)

namespace Delivers

variable {queue next : MessageQueue α capacity} {message : α}

theorem refl (queue : MessageQueue α capacity) (puts : List α) : Delivers queue queue puts [] :=
  List.sublist_append_left _ _

theorem get (taken : queue.get = some (message, next)) (puts : List α) :
    Delivers queue next puts [message] := by
  unfold Delivers
  rw [get_eq_some taken]
  exact List.sublist_append_left _ _

theorem put (success : queue.put message = some next) : Delivers queue next [message] [] := by
  unfold Delivers
  rw [put_eq_some success]
  exact List.Sublist.refl _

theorem purge (queue : MessageQueue α capacity) (puts : List α) : Delivers queue empty puts [] :=
  List.nil_sublist _

theorem attempt {purging : Bool} {outcome : Attempt}
    (effect : queue.attempt purging message = (next, outcome)) :
    Delivers queue next (if outcome = .done then [message] else []) [] := attempt_sublist effect

end Delivers

/-- A call of the loop adds nothing but its own message. -/
theorem mem_attempt {queue next : MessageQueue α capacity} {purging : Bool} {message other : α}
    {outcome : Attempt} (effect : queue.attempt purging message = (next, outcome))
    (member : other ∈ next.items) :
    other ∈ queue.items ∨ (outcome = .done ∧ other = message) := by
  have items := attempt_items queue purging message
  rw [effect] at items
  cases outcome <;> simp only at items
  · rw [items, List.mem_append, List.mem_singleton] at member
    exact member.imp id (fun same => ⟨rfl, same⟩)
  · rw [items] at member
    exact .inl member
  · rw [items] at member
    exact absurd member List.not_mem_nil

end MessageQueue

/-- A message with a ghost stamp that no code reads. -/
structure Stamped (α τ : Type*) where
  val : α
  stamp : τ
deriving DecidableEq, Repr

/-- A put into a queue of one slot whose messages are read with a stamp: it succeeds on an empty queue, so
its stamp is everyone's. -/
theorem MessageQueue.put_stamped {α τ : Type*} (queue : MessageQueue α 1) (message : α) (old new : τ) :
    (queue.map (⟨·, old⟩)).put (⟨message, new⟩ : Stamped α τ) =
      (queue.put message).map fun next => next.map (⟨·, new⟩) := by
  rcases queue with ⟨items, bounded⟩
  cases items <;> rfl

/-- A call of the loop on such a queue. -/
theorem MessageQueue.attempt_stamped {α τ : Type*} {queue next : MessageQueue α 1} {purging : Bool}
    {message : α} {outcome : Attempt} (attempted : queue.attempt purging message = (next, outcome))
    (old new : τ) : (queue.map (⟨·, old⟩)).attempt purging (⟨message, new⟩ : Stamped α τ) =
      (next.map (⟨·, if outcome = .done then new else old⟩), outcome) := by
  unfold attempt at attempted ⊢
  rw [put_stamped]
  split at attempted
  case isTrue purges =>
    obtain ⟨rfl, rfl⟩ := Prod.mk.inj attempted
    rw [if_pos purges]
    rfl
  case isFalse puts =>
    rw [if_neg puts]
    cases success : queue.put message with
    | some _ =>
      rw [success] at attempted
      obtain ⟨rfl, rfl⟩ := Prod.mk.inj attempted
      rfl
    | none =>
      rw [success] at attempted
      obtain ⟨rfl, rfl⟩ := Prod.mk.inj attempted
      rfl

/-- A queue of stamped messages after a mark: first the `old` ones, stamped up to the mark, then the
`new` ones. As long as an old one waits, all `count` messages put since the mark still wait. -/
inductive Parted {α : Type*} (items : List (Stamped α ℕ)) (mark count : ℕ) : Prop
  | intro (old new : List (Stamped α ℕ)) (split : items = old ++ new)
      (oldStamps : ∀ message ∈ old, message.stamp ≤ mark)
      (newStamps : ∀ message ∈ new, mark < message.stamp)
      (fewer : new.length ≤ count) (waiting : old ≠ [] → new.length = count)

namespace Parted

variable {α : Type*} {items rest : List (Stamped α ℕ)} {mark count : ℕ} {message : Stamped α ℕ}

/-- An empty queue is parted. -/
theorem nil : Parted ([] : List (Stamped α ℕ)) mark count :=
  ⟨[], [], rfl, by simp, by simp, Nat.zero_le _, by simp⟩

/-- Messages stamped up to the mark, with none put since, are all old. -/
theorem of_stamps (stamps : ∀ message ∈ items, message.stamp ≤ mark) : Parted items mark 0 :=
  ⟨items, [], (List.append_nil items).symm, stamps, by simp, Nat.le_refl _, fun _ => rfl⟩

/-- A message stamped after the mark joins the new ones and is counted. -/
theorem put (parted : Parted items mark count) (later : mark < message.stamp) :
    Parted (items ++ [message]) mark (count + 1) := by
  obtain ⟨old, new, rfl, oldStamps, newStamps, fewer, waiting⟩ := parted
  refine ⟨old, new ++ [message], List.append_assoc .., oldStamps, ?_, ?_, ?_⟩
  · intro other member
    rcases List.mem_append.mp member with member | member
    · exact newStamps other member
    · exact List.mem_singleton.mp member ▸ later
  · rw [List.length_append, List.length_singleton]
    omega
  · intro nonempty
    rw [List.length_append, List.length_singleton, waiting nonempty]

/-- The head leaves: an old one, as long as there is one. -/
theorem tail (parted : Parted (message :: rest) mark count) : Parted rest mark count := by
  obtain ⟨old, new, split, oldStamps, newStamps, fewer, waiting⟩ := parted
  cases old with
  | nil =>
    obtain rfl : message :: rest = new := split
    rw [List.length_cons] at fewer
    refine ⟨[], rest, rfl, oldStamps, ?_, by omega, by simp⟩
    exact fun other member => newStamps other (List.mem_cons_of_mem _ member)
  | cons head old =>
    refine ⟨old, new, (List.cons.inj split).2, ?_, newStamps, fewer, fun _ => waiting (by simp)⟩
    exact fun other member => oldStamps other (List.mem_cons_of_mem _ member)

/-- The head is a new message exactly when no more messages wait than were put since the mark. -/
theorem head_iff (parted : Parted (message :: rest) mark count) :
    mark < message.stamp ↔ (message :: rest).length ≤ count := by
  obtain ⟨old, new, split, oldStamps, newStamps, fewer, waiting⟩ := parted
  cases old with
  | nil =>
    obtain rfl : message :: rest = new := split
    exact ⟨fun _ => fewer, fun _ => newStamps message (List.mem_cons_self ..)⟩
  | cons head old =>
    obtain ⟨rfl, -⟩ := List.cons.inj split
    have earlier := oldStamps message (List.mem_cons_self ..)
    have total := waiting (by simp)
    rw [split, List.length_append, List.length_cons]
    constructor <;> intro <;> omega

end Parted

end Robofw.Core
