import Mathlib

/-! # Ring buffers

A ring of `n` cells that is written at its index holds the last `n` values written, oldest first from
the index on. Cells that were never written still hold the fill, as if `n` fills had been written first.
-/

namespace Robofw.Core

variable {α : Type*}

/-- The last `n` values of a history that begins with `n` fills. -/
def recent (n : ℕ) (fill : α) (history : List α) : List α :=
  (List.replicate n fill ++ history).drop history.length

/-- A new value drops the oldest one. -/
theorem recent_concat {n : ℕ} (positive : 0 < n) (fill : α) (history : List α) (value : α) :
    recent n fill (history ++ [value]) = (recent n fill history).tail ++ [value] := by
  have inside : history.length + 1 ≤ (List.replicate n fill ++ history).length := by
    rw [List.length_append, List.length_replicate]
    omega
  rw [recent, recent, List.length_append, List.length_singleton, ← List.append_assoc,
    List.drop_append_of_le_length inside, List.tail_drop]

/-- Once `n` values have been written, no fill is left. -/
theorem recent_of_le {n : ℕ} {history : List α} (written : n ≤ history.length) (fill : α) :
    recent n fill history = history.drop (history.length - n) := by
  have skipped : history.length = n + (history.length - n) := by omega
  rw [recent, List.drop_append, List.length_replicate, List.drop_of_length_le (by simpa using written),
    List.nil_append]

/-- What a ring holds, from the index on. -/
def contents {n : ℕ} (cells : Vector α n) (index : Fin n) : List α := cells.toList.rotate index.val

theorem contents_perm {n : ℕ} (cells : Vector α n) (index : Fin n) :
    (contents cells index).Perm cells.toList := List.rotate_perm _ _

theorem rotate_set {cells : List α} {index : ℕ} (inside : index < cells.length) (value : α) :
    (cells.set index value).rotate (index + 1) = (cells.rotate index).tail ++ [value] := by
  have before : cells.rotate index = cells[index] :: cells.drop (index + 1) ++ cells.take index := by
    rw [List.rotate_eq_drop_append_take inside.le, List.drop_eq_getElem_cons inside]
  have written : cells.set index value =
      (cells.take index ++ [value]) ++ cells.drop (index + 1) := by
    rw [List.set_eq_take_append_cons_drop, if_pos inside, List.append_cons]
  have front : (cells.take index ++ [value]).length = index + 1 := by
    rw [List.length_append, List.length_take_of_le inside.le, List.length_singleton]
  calc (cells.set index value).rotate (index + 1)
      = cells.drop (index + 1) ++ (cells.take index ++ [value]) := by
        rw [written, ← front, List.rotate_append_length_eq]
    _ = (cells.rotate index).tail ++ [value] := by
        rw [before, List.cons_append, List.tail_cons, List.append_assoc]

/-- A write and a step of the index replace the oldest value by the new one. -/
theorem contents_set {n : ℕ} [NeZero n] (cells : Vector α n) (index : Fin n) (value : α) :
    contents (cells.set index.val value index.isLt) (index + 1) =
      (contents cells index).tail ++ [value] := by
  have inside : index.val < cells.toList.length := cells.length_toList.symm ▸ index.isLt
  have wraps := List.rotate_mod (cells.toList.set index.val value) (index.val + 1)
  rw [List.length_set, cells.length_toList] at wraps
  rw [contents, Fin.val_add, Fin.val_one', Nat.add_mod_mod, Vector.toList_set, wraps, rotate_set inside]
  rfl

/-- The ring has taken the values of the history. -/
def Holds {n : ℕ} (cells : Vector α n) (index : Fin n) (fill : α) (history : List α) : Prop :=
  contents cells index = recent n fill history

theorem holds_replicate {n : ℕ} [NeZero n] (fill : α) : Holds (Vector.replicate n fill) 0 fill [] := by
  rw [Holds, contents, Fin.val_zero, List.rotate_zero, recent, List.append_nil]
  exact Vector.toList_replicate

theorem Holds.push {n : ℕ} [NeZero n] {cells : Vector α n} {index : Fin n} {fill : α} {history : List α}
    (holds : Holds cells index fill history) (value : α) :
    Holds (cells.set index.val value index.isLt) (index + 1) fill (history ++ [value]) := by
  rw [Holds, contents_set, holds, recent_concat (NeZero.pos n)]

/-- A ring that has been filled adds up to its last values. -/
theorem Holds.sum_map {n : ℕ} {cells : Vector α n} {index : Fin n} {fill : α} {history : List α}
    (holds : Holds cells index fill history) (written : n ≤ history.length) (weight : α → ℤ) :
    (cells.toList.map weight).sum = ((history.drop (history.length - n)).map weight).sum := by
  rw [← recent_of_le written fill, ← holds]
  exact ((contents_perm cells index).map weight).symm.sum_eq

end Robofw.Core
