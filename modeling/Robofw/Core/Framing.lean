import Mathlib.Data.List.Perm.Basic
import Mathlib.Data.List.Rotate
import Mathlib.Data.Multiset.ZeroCons

/-! # Header-framed streams

A framed stream carries blocks of a fixed size that begin with a header. `blocks` parses a whole
list: skip to a header, take a block, and go on right after it. `feed` does the same one element at a
time, keeping the block that is still open; `feedAll_eq_blocks` says the two agree on every stream.

A receiver that joins a repeated block at an arbitrary point takes some rotation of it that begins
with a header. `mem_blocks_of_locks` and `blocks_drop_repeated` settle when that finds the block itself.
-/

namespace Robofw.Core

section

variable {α : Type*} {size : ℕ}

/-- A list of known length as a vector. -/
def vectorOf (items : List α) (length : items.length = size) : Vector α size :=
  ⟨items.toArray, length⟩

@[simp] theorem toList_vectorOf (items : List α) (length : items.length = size) :
    (vectorOf items length).toList = items := rfl

theorem vectorOf_eq {items : List α} {length : items.length = size} {block : Vector α size}
    (same : items = block.toList) : vectorOf items length = block :=
  Vector.toList_inj.mp ((toList_vectorOf items length).trans same)

theorem toList_getElem? (block : Vector α size) (index : Fin size) :
    block.toList[(index : ℕ)]? = some (block.get index) := by
  simp [Vector.get]

end

variable {α : Type*} [DecidableEq α] (header : α) (size : ℕ)

/-- The blocks of a stream; an incomplete last block is none. -/
def blocks : List α → List (Vector α size)
  | [] => []
  | first :: rest =>
    if first = header then
      if full : size ≤ (first :: rest).length then
        vectorOf ((first :: rest).take size) (List.length_take_of_le full) ::
          blocks (rest.drop (size - 1))
      else []
    else blocks rest
termination_by stream => stream.length
decreasing_by
  · rw [List.length_drop, List.length_cons]; omega
  · rw [List.length_cons]; omega

variable {header size}

@[simp] theorem blocks_nil : blocks header size [] = [] := by rw [blocks]

theorem blocks_skip {first : α} (other : first ≠ header) (rest : List α) :
    blocks header size (first :: rest) = blocks header size rest := by
  rw [blocks, if_neg other]

theorem blocks_short {stream : List α} (short : stream.length < size) :
    blocks header size stream = [] := by
  induction stream with
  | nil => exact blocks_nil
  | cons first rest ih =>
    rw [List.length_cons] at short
    rw [blocks, dif_neg (by rw [List.length_cons]; omega), ih (by omega), ite_self]

/-- Where a header stands in front of enough elements, a block is taken. -/
theorem blocks_full {first : α} (headed : first = header) {rest : List α}
    (full : size ≤ (first :: rest).length) :
    blocks header size (first :: rest) =
      vectorOf ((first :: rest).take size) (List.length_take_of_le full) ::
        blocks header size (rest.drop (size - 1)) := by
  rw [blocks, if_pos headed, dif_pos full]

/-- A block at the front of a stream is taken whole. -/
theorem blocks_append {block : Vector α size} (headed : block.toList.head? = some header)
    (rest : List α) :
    blocks header size (block.toList ++ rest) = block :: blocks header size rest := by
  obtain ⟨tail, items⟩ := List.head?_eq_some_iff.mp headed
  have length : block.toList.length = size := Vector.length_toList
  have left : (tail ++ rest).drop (size - 1) = rest := by
    rw [items, List.length_cons] at length
    exact List.drop_left' (by omega)
  have taken : (block.toList ++ rest).take size = block.toList := List.take_left' length
  rw [items, List.cons_append] at taken ⊢
  rw [blocks_full rfl, left, vectorOf_eq (taken.trans items.symm)]
  simp only [items, List.length_cons] at length
  rw [List.length_cons, List.length_append]
  omega

/-- One more element after the open block: the open block that remains, and a completed one. -/
def feed (header : α) (size : ℕ) (opened : List α) (next : α) :
    List α × Option (Vector α size) :=
  if opened = [] ∧ next ≠ header then ([], none)
  else if full : (opened ++ [next]).length = size then ([], some (vectorOf (opened ++ [next]) full))
  else (opened ++ [next], none)

theorem feed_skip {next : α} (other : next ≠ header) : feed header size [] next = ([], none) :=
  if_pos ⟨rfl, other⟩

theorem feed_full {opened : List α} {next : α} (taken : ¬ (opened = [] ∧ next ≠ header))
    (full : (opened ++ [next]).length = size) :
    feed header size opened next = ([], some (vectorOf (opened ++ [next]) full)) := by
  rw [feed, if_neg taken, dif_pos full]

theorem feed_more {opened : List α} {next : α} (taken : ¬ (opened = [] ∧ next ≠ header))
    (notFull : (opened ++ [next]).length ≠ size) :
    feed header size opened next = (opened ++ [next], none) := by
  rw [feed, if_neg taken, dif_neg notFull]

/-- The blocks completed while a stream is fed. -/
def feedAll (header : α) (size : ℕ) (opened : List α) : List α → List (Vector α size)
  | [] => []
  | next :: rest =>
    (feed header size opened next).2.toList ++
      feedAll header size (feed header size opened next).1 rest

/-- The block that is open after a stream was fed. -/
def openAfter (header : α) (size : ℕ) (opened : List α) : List α → List α
  | [] => opened
  | next :: rest => openAfter header size (feed header size opened next).1 rest

theorem openAfter_concat (opened stream : List α) (next : α) :
    openAfter header size opened (stream ++ [next]) =
      (feed header size (openAfter header size opened stream) next).1 := by
  induction stream generalizing opened with
  | nil => rfl
  | cons first rest ih => exact ih _

theorem feedAll_concat (opened stream : List α) (next : α) :
    feedAll header size opened (stream ++ [next]) = feedAll header size opened stream ++
      (feed header size (openAfter header size opened stream) next).2.toList := by
  induction stream generalizing opened with
  | nil => simp only [List.nil_append, feedAll, openAfter, List.append_nil]
  | cons first rest ih =>
    rw [List.cons_append, feedAll, feedAll, openAfter, ih, List.append_assoc]

/-- The elements of an open block: it begins with the header, and it is not full. -/
structure Opened (header : α) (size : ℕ) (opened : List α) : Prop where
  headed : ∀ first ∈ opened.head?, first = header
  short : opened.length < size

omit [DecidableEq α] in
theorem opened_nil (positive : 0 < size) : Opened header size [] := ⟨by simp, positive⟩

theorem Opened.head? {opened : List α} (isOpen : Opened header size opened) {next : α}
    (header_or_open : ¬ (opened = [] ∧ next ≠ header)) (rest : List α) :
    ((opened ++ [next]) ++ rest).head? = some header := by
  cases opened with
  | nil => simpa using header_or_open
  | cons first opened => simpa using isOpen.headed first rfl

theorem Opened.feed {opened : List α} (isOpen : Opened header size opened) (next : α) :
    Opened header size (feed header size opened next).1 := by
  have positive := isOpen.short
  unfold Robofw.Core.feed
  split
  case isTrue => exact opened_nil (by omega)
  case isFalse header_or_open =>
    split
    case isTrue => exact opened_nil (by omega)
    case isFalse notFull =>
      refine ⟨fun first member => ?_, ?_⟩
      · have head := isOpen.head? header_or_open []
        rw [List.append_nil] at head
        exact Option.some.inj (member.symm.trans head)
      · rw [List.length_append, List.length_singleton] at notFull ⊢
        omega

theorem Opened.openAfter {opened : List α} (isOpen : Opened header size opened) (stream : List α) :
    Opened header size (openAfter header size opened stream) := by
  induction stream generalizing opened with
  | nil => exact isOpen
  | cons next rest ih => exact ih (isOpen.feed next)

/-- Feeding a stream one element at a time completes exactly the blocks of the open block followed by
the stream. -/
theorem feedAll_eq_blocks {opened : List α} (isOpen : Opened header size opened) (stream : List α) :
    feedAll header size opened stream = blocks header size (opened ++ stream) := by
  induction stream generalizing opened with
  | nil => rw [feedAll, List.append_nil, blocks_short isOpen.short]
  | cons next rest ih =>
    have after := ih (isOpen.feed next)
    rw [feedAll, after]
    unfold feed
    split
    case isTrue skipped =>
      rw [skipped.1]
      exact (blocks_skip skipped.2 rest).symm
    case isFalse header_or_open =>
      have joined : opened ++ next :: rest = (opened ++ [next]) ++ rest := by simp
      rw [joined]
      split
      case isTrue full =>
        have head := isOpen.head? header_or_open []
        rw [List.append_nil] at head
        exact (@blocks_append _ _ _ _ (vectorOf (opened ++ [next]) full) head rest).symm
      case isFalse => rfl

/-- The block read cyclically from its element `k` on. -/
def rotated (block : Vector α size) (k : ℕ) : Vector α size :=
  vectorOf (block.toList.rotate k) (by rw [List.length_rotate, Vector.length_toList])

/-- A block sent a number of times in a row. -/
def repeated (copies : ℕ) (block : Vector α size) : List α :=
  (List.replicate copies block.toList).flatten

/-- Every header in the block starts a period of it. -/
def Locks (header : α) (block : Vector α size) : Prop :=
  ∀ k < size, block.toList[k]? = some header → rotated block k = block

instance (block : Vector α size) : Decidable (Locks header block) :=
  inferInstanceAs (Decidable (∀ k < size, block.toList[k]? = some header → rotated block k = block))

omit [DecidableEq α] in
theorem repeated_zero (block : Vector α size) : repeated 0 block = [] := rfl

omit [DecidableEq α] in
@[simp] theorem repeated_succ (copies : ℕ) (block : Vector α size) :
    repeated (copies + 1) block = block.toList ++ repeated copies block := by
  rw [repeated, List.replicate_succ, List.flatten_cons]
  rfl

omit [DecidableEq α] in
theorem toList_rotated {block : Vector α size} {front back : List α}
    (split : block.toList = front ++ back) :
    (rotated block front.length).toList = back ++ front := by
  rw [rotated, toList_vectorOf, split, List.rotate_append_length_eq]

omit [DecidableEq α] in
/-- Permuted lists that agree everywhere but at one position agree there too. -/
theorem eq_of_perm_of_agree {left right : List α} (perm : left.Perm right) (position : ℕ)
    (bound : position < left.length)
    (agree : ∀ other ≠ position, left[other]? = right[other]?) : left = right := by
  have bound' : position < right.length := perm.length_eq ▸ bound
  have erased : left.eraseIdx position = right.eraseIdx position := by
    apply List.ext_getElem?
    intro other
    rw [List.getElem?_eraseIdx, List.getElem?_eraseIdx]
    split <;> exact agree _ (by omega)
  have moved : (left[position] :: left.eraseIdx position).Perm
      (right[position] :: left.eraseIdx position) :=
    (List.getElem_cons_eraseIdx_perm bound).trans
      (perm.trans (erased ▸ (List.getElem_cons_eraseIdx_perm bound').symm))
  have same : left[position] = right[position] :=
    (Multiset.cons_inj_left (left.eraseIdx position : Multiset α)).mp (Multiset.coe_eq_coe.mpr moved)
  apply List.ext_getElem?
  intro other
  by_cases there : other = position
  · rw [there, List.getElem?_eq_getElem bound, List.getElem?_eq_getElem bound', same]
  · exact agree other there

omit [DecidableEq α] in
/-- A rotation that agrees with the block everywhere but at one position is the block. -/
theorem rotated_eq_of_agree {block : Vector α size} {k : ℕ} (position : Fin size)
    (agree : ∀ other ≠ position, (rotated block k).get other = block.get other) :
    rotated block k = block := by
  apply Vector.toList_inj.mp
  have perm : (rotated block k).toList.Perm block.toList := List.rotate_perm block.toList k
  refine eq_of_perm_of_agree perm position (by simp) (fun other there => ?_)
  rcases Nat.lt_or_ge other size with inside | outside
  · have read := toList_getElem? (rotated block k) ⟨other, inside⟩
    have read' := toList_getElem? block ⟨other, inside⟩
    rw [agree ⟨other, inside⟩ (fun same => there (congrArg Fin.val same))] at read
    exact read.trans read'.symm
  · rw [List.getElem?_eq_none (by simpa using outside), List.getElem?_eq_none (by simpa using outside)]

/-- From any point inside a copy of a locking block, the next copy is found. -/
theorem mem_blocks_of_suffix {block : Vector α size}
    (headed : block.toList.head? = some header) (locks : Locks header block) (front back : List α)
    (split : block.toList = front ++ back) :
    block ∈ blocks header size (back ++ block.toList) := by
  induction back generalizing front with
  | nil =>
    rw [List.nil_append, ← List.append_nil block.toList, blocks_append headed]
    exact List.mem_cons_self ..
  | cons first back ih =>
    by_cases start : first = header
    · have length : (front ++ first :: back).length = size := split ▸ Vector.length_toList
      have period : rotated block front.length = block := by
        refine locks front.length ?_ ?_
        · rw [List.length_append, List.length_cons] at length
          omega
        · rw [split, List.getElem?_append_right (Nat.le_refl _), Nat.sub_self, start]
          rfl
      have turned := toList_rotated split
      rw [period] at turned
      have joined : first :: back ++ block.toList = block.toList ++ first :: back := by
        conv_lhs => rw [split, ← List.append_assoc, ← turned]
      rw [joined, blocks_append headed]
      exact List.mem_cons_self ..
    · rw [List.cons_append, blocks_skip start]
      exact ih (front ++ [first]) (by simp [split])

/-- Two copies of a locking block are enough, whatever came before them. -/
theorem mem_blocks_of_locks {block : Vector α size} (headed : block.toList.head? = some header)
    (locks : Locks header block) (garbage : List α) :
    block ∈ blocks header size (garbage ++ repeated 2 block) := by
  have length : block.toList.length = size := Vector.length_toList
  have copies : repeated 2 block = block.toList ++ block.toList := by
    rw [repeated_succ, repeated_succ, repeated_zero, List.append_nil]
  rw [copies]
  match garbage with
  | [] =>
    rw [List.nil_append, blocks_append headed]
    exact List.mem_cons_self ..
  | first :: rest =>
    by_cases start : first = header
    · rw [List.cons_append, blocks_full start (by simp; omega)]
      refine List.mem_cons_of_mem _ ?_
      by_cases inside : size - 1 ≤ rest.length
      · rw [List.drop_append_of_le_length inside, ← copies]
        exact mem_blocks_of_locks headed locks (rest.drop (size - 1))
      · rw [List.drop_append, List.drop_eq_nil_of_le (by omega), List.nil_append,
          List.drop_append_of_le_length (by omega)]
        exact mem_blocks_of_suffix headed locks _ _ (List.take_append_drop _ _).symm
    · rw [List.cons_append, blocks_skip start, ← copies]
      exact mem_blocks_of_locks headed locks rest
termination_by garbage.length
decreasing_by
  · rw [List.length_drop, List.length_cons]; omega
  · rw [List.length_cons]; omega

/-- A receiver that stands before a header inside the block reads that rotation for ever. -/
theorem blocks_drop_repeated {block : Vector α size} {front back : List α}
    (split : block.toList = front ++ header :: back) (inside : front ≠ []) (copies : ℕ) :
    blocks header size (header :: back ++ repeated copies block) =
      List.replicate copies (rotated block front.length) := by
  have length : (front ++ header :: back).length = size := split ▸ Vector.length_toList
  have positive := List.length_pos_iff.mpr inside
  rw [List.length_append, List.length_cons] at length
  have turned := toList_rotated split
  induction copies with
  | zero =>
    rw [repeated_zero, List.append_nil]
    exact blocks_short (by simp; omega)
  | succ copies ih =>
    have joined : header :: back ++ repeated (copies + 1) block =
        (rotated block front.length).toList ++ (header :: back ++ repeated copies block) := by
      rw [turned, repeated_succ, split]
      simp only [List.append_assoc]
    rw [joined, blocks_append (by rw [turned]; rfl), ih, List.replicate_succ]

end Robofw.Core
