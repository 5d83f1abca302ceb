import Mathlib.Order.Lattice
import Mathlib.Data.Nat.Notation

/-! # Counting semaphores

A semaphore with a limit, between givers and one thread that waits for it without a timeout. A give
wakes a waiting thread and is used up by it; otherwise it is counted, up to the limit. So no permit is
left while the thread waits.
-/

namespace Robofw.Core

structure Semaphore (limit : ℕ) where
  count : ℕ
  waiting : Bool
  bounded : count ≤ limit
  exclusive : waiting = true → count = 0

namespace Semaphore

variable {limit : ℕ}

/-- A semaphore that nobody waits on. -/
def init (count : ℕ) (bounded : count ≤ limit) : Semaphore limit :=
  ⟨count, false, bounded, fun waits => absurd waits Bool.false_ne_true⟩

/-- Take a permit; without one the thread waits. The answer tells whether it goes on. -/
def take (sem : Semaphore limit) : Semaphore limit × Bool :=
  if 0 < sem.count then (init (sem.count - 1) (Nat.le_trans (Nat.sub_le _ _) sem.bounded), true)
  else (⟨0, true, Nat.zero_le _, fun _ => rfl⟩, false)

/-- Give a permit. The answer tells whether it woke the waiting thread. -/
def give (sem : Semaphore limit) : Semaphore limit × Bool :=
  if sem.waiting then (init sem.count sem.bounded, true)
  else (init (min (sem.count + 1) limit) (Nat.min_le_right _ _), false)

/-- A thread that does not go on found no permit. -/
theorem take_waits {sem next : Semaphore limit} (waits : sem.take = (next, false)) :
    sem.count = 0 := by
  unfold take at waits
  split at waits
  case isTrue => exact absurd (Prod.mk.inj waits).2 (by decide)
  case isFalse none => exact Nat.eq_zero_of_not_pos none

theorem waiting_take {sem next : Semaphore limit} (taken : sem.take = (next, true)) :
    next.waiting = false := by
  unfold take at taken
  split at taken
  · rw [← (Prod.mk.inj taken).1]
    rfl
  · exact absurd (Prod.mk.inj taken).2 (by decide)

@[simp] theorem waiting_give (sem : Semaphore limit) : sem.give.1.waiting = false := by
  unfold give
  split <;> rfl

/-- Only a waiting thread is woken. -/
theorem waiting_of_give {sem next : Semaphore limit} (given : sem.give = (next, true)) :
    sem.waiting = true := by
  unfold give at given
  split at given
  · assumption
  · exact absurd (Prod.mk.inj given).2 (by decide)

/-- A give that wakes nobody leaves a permit. -/
theorem count_give {sem next : Semaphore limit} (positive : 0 < limit)
    (given : sem.give = (next, false)) : 0 < next.count := by
  unfold give at given
  split at given
  · exact absurd (Prod.mk.inj given).2 (by decide)
  · rw [← (Prod.mk.inj given).1]
    exact Nat.lt_min.mpr ⟨Nat.succ_pos _, positive⟩

end Semaphore

end Robofw.Core
