import Mathlib.Data.List.Range
import Mathlib.Logic.Function.Basic

/-!
# Ring buffers

A ring buffer keeps one of its cells free, so that a full buffer differs from an
empty one: it holds a queue of at most `size - 1` items.  Where the size is a power
of two, the remainders are the bit masks of the usual implementations.
-/

namespace IotLab.Library

/-- The cells from `getPtr` up to `putPtr` hold the items; cells beyond `size` are not
used. -/
structure RingBuffer (α : Type*) (size : ℕ) where
  data : ℕ → α
  putPtr : ℕ
  getPtr : ℕ
  putInside : putPtr < size
  getInside : getPtr < size

namespace RingBuffer

variable {α : Type*} {size : ℕ}

/-- The number of items. -/
def elements (ring : RingBuffer α size) : ℕ :=
  (ring.putPtr + size - ring.getPtr) % size

/-- The items, the oldest one first. -/
def contents (ring : RingBuffer α size) : List α :=
  (List.range ring.elements).map fun offset => ring.data ((ring.getPtr + offset) % size)

/-- Add an item; there is no result when the buffer is full. -/
def put (ring : RingBuffer α size) (item : α) : Option (RingBuffer α size) :=
  if ring.elements = size - 1 then none
  else
    some { ring with
      data := Function.update ring.data ring.putPtr item
      putPtr := (ring.putPtr + 1) % size
      putInside := Nat.mod_lt _ (Nat.zero_lt_of_lt ring.putInside) }

/-- Take the oldest item; there is no result when the buffer is empty. -/
def get (ring : RingBuffer α size) : Option (α × RingBuffer α size) :=
  if 0 < ring.elements then
    some (ring.data ring.getPtr,
      { ring with
        getPtr := (ring.getPtr + 1) % size
        getInside := Nat.mod_lt _ (Nat.zero_lt_of_lt ring.getInside) })
  else none

/-! ## Pointers -/

theorem succ_mod {pointer : ℕ} (inside : pointer < size) :
    (pointer + 1) % size = if pointer + 1 = size then 0 else pointer + 1 := by
  split
  · next wraps => rw [wraps, Nat.mod_self]
  · next stays => exact Nat.mod_eq_of_lt (by omega)

theorem add_mod_eq {pointer offset : ℕ} (inside : pointer < size) (near : offset < size) :
    (pointer + offset) % size =
      if pointer + offset < size then pointer + offset else pointer + offset - size := by
  split
  · next stays => exact Nat.mod_eq_of_lt stays
  · next wraps =>
      rw [Nat.mod_eq_sub_mod (not_lt.1 wraps)]
      exact Nat.mod_eq_of_lt (by omega)

theorem distance_eq {putPtr getPtr : ℕ} (put : putPtr < size) (get : getPtr < size) :
    (putPtr + size - getPtr) % size =
      if getPtr ≤ putPtr then putPtr - getPtr else putPtr + size - getPtr := by
  split
  · next ordered =>
      have shift : putPtr + size - getPtr = putPtr - getPtr + size := by omega
      rw [shift, Nat.add_mod_right]
      exact Nat.mod_eq_of_lt (by omega)
  · next wrapped => exact Nat.mod_eq_of_lt (by omega)

theorem distance_put {putPtr getPtr : ℕ} (put : putPtr < size) (get : getPtr < size)
    (free : (putPtr + size - getPtr) % size ≠ size - 1) :
    ((putPtr + 1) % size + size - getPtr) % size =
      (putPtr + size - getPtr) % size + 1 := by
  rw [distance_eq (Nat.mod_lt _ (Nat.zero_lt_of_lt put)) get, succ_mod put]
  rw [distance_eq put get] at free ⊢
  grind

theorem distance_get {putPtr getPtr : ℕ} (put : putPtr < size) (get : getPtr < size)
    (filled : 0 < (putPtr + size - getPtr) % size) :
    (putPtr + size - (getPtr + 1) % size) % size + 1 =
      (putPtr + size - getPtr) % size := by
  rw [distance_eq put (Nat.mod_lt _ (Nat.zero_lt_of_lt get)), succ_mod get]
  rw [distance_eq put get] at filled ⊢
  grind

@[simp] theorem length_contents (ring : RingBuffer α size) :
    ring.contents.length = ring.elements := by
  simp [contents]

theorem elements_lt (ring : RingBuffer α size) : ring.elements < size :=
  Nat.mod_lt _ (Nat.zero_lt_of_lt ring.putInside)

theorem index_eq_putPtr (ring : RingBuffer α size) {offset : ℕ} (near : offset < size) :
    (ring.getPtr + offset) % size = ring.putPtr ↔ offset = ring.elements := by
  have put := ring.putInside
  have get := ring.getInside
  rw [add_mod_eq get near, elements, distance_eq put get]
  grind

/-! ## The queue -/

theorem put_eq_none {ring : RingBuffer α size} {item : α} :
    ring.put item = none ↔ ring.contents.length = size - 1 := by
  rw [put, length_contents]
  split
  · next full => simp [full]
  · next free => simp [free]

/-- An item is added behind all others. -/
theorem contents_put {ring next : RingBuffer α size} {item : α}
    (added : ring.put item = some next) : next.contents = ring.contents ++ [item] := by
  have few := ring.elements_lt
  rw [put] at added
  split at added
  · cases added
  · next free =>
      cases added
      have count := distance_put ring.putInside ring.getInside free
      have last := (ring.index_eq_putPtr few).2 rfl
      simp only [contents, elements] at last ⊢
      rw [count, List.range_succ, List.map_append, List.map_singleton, last,
        Function.update_self]
      congr 1
      apply List.map_congr_left
      intro offset member
      have inside := List.mem_range.1 member
      apply Function.update_of_ne
      intro same
      exact inside.ne ((ring.index_eq_putPtr (inside.trans few)).1 same)

/-- The item that is taken was the first one. -/
theorem contents_get {ring next : RingBuffer α size} {item : α}
    (taken : ring.get = some (item, next)) : ring.contents = item :: next.contents := by
  have get := ring.getInside
  rw [RingBuffer.get] at taken
  split at taken
  · next filled =>
      cases taken
      have count := distance_get ring.putInside get filled
      simp only [contents, elements]
      rw [← count, List.range_succ_eq_map, List.map_cons, List.map_map]
      congr 1
      · rw [Nat.add_zero, Nat.mod_eq_of_lt get]
      · apply List.map_congr_left
        intro offset _
        rw [Nat.mod_add_mod]
        simp [Nat.add_assoc, Nat.add_comm 1]
  · cases taken

theorem get_eq_none {ring : RingBuffer α size} :
    ring.get = none ↔ ring.contents = [] := by
  rw [get, ← List.length_eq_zero_iff, length_contents]
  split
  · next filled => simp [filled.ne']
  · next empty => simpa using empty

end RingBuffer

end IotLab.Library
