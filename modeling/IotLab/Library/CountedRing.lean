import IotLab.Library.RingBuffer

/-!
# Rings with a count

A ring that keeps the index of its first item and the number of its items uses all of its
cells.  It holds a queue of at most `size` items.
-/

namespace IotLab.Library

/-- The `count` cells from `first` on hold the items, around the end of the ring. -/
structure CountedRing (α : Type*) (size : ℕ) where
  cells : ℕ → α
  first : ℕ
  count : ℕ
  firstInside : first < size
  countInside : count ≤ size

namespace CountedRing

variable {α : Type*} {size : ℕ}

/-- The items, the oldest one first. -/
def contents (ring : CountedRing α size) : List α :=
  (List.range ring.count).map fun offset => ring.cells ((ring.first + offset) % size)

/-- Add an item; there is no result when all cells are used. -/
def put (ring : CountedRing α size) (item : α) : Option (CountedRing α size) :=
  if free : ring.count < size then
    some { ring with
      cells := Function.update ring.cells ((ring.first + ring.count) % size) item
      count := ring.count + 1
      countInside := free }
  else none

/-- Take the oldest item; there is no result when there is none. -/
def take (ring : CountedRing α size) : Option (α × CountedRing α size) :=
  if 0 < ring.count then
    some (ring.cells ring.first,
      { ring with
        first := (ring.first + 1) % size
        count := ring.count - 1
        firstInside := Nat.mod_lt _ (Nat.zero_lt_of_lt ring.firstInside)
        countInside := (Nat.sub_le _ _).trans ring.countInside })
  else none

@[simp] theorem length_contents (ring : CountedRing α size) :
    ring.contents.length = ring.count := by
  simp [contents]

theorem index_injective (ring : CountedRing α size) {offset other : ℕ} (inside : offset < size)
    (otherInside : other < size)
    (same : (ring.first + offset) % size = (ring.first + other) % size) : offset = other := by
  have start := ring.firstInside
  rw [RingBuffer.add_mod_eq start inside, RingBuffer.add_mod_eq start otherInside] at same
  grind

/-! ## The queue -/

theorem put_eq_none {ring : CountedRing α size} {item : α} :
    ring.put item = none ↔ ring.contents.length = size := by
  have inside := ring.countInside
  rw [put, length_contents]
  split
  · next free => simp [free.ne]
  · next full => simp only [true_iff]; omega

/-- An item is added behind all others. -/
theorem contents_put {ring next : CountedRing α size} {item : α}
    (added : ring.put item = some next) : next.contents = ring.contents ++ [item] := by
  rw [put] at added
  split at added
  · next free =>
      cases added
      simp only [contents]
      rw [List.range_succ, List.map_append, List.map_singleton, Function.update_self]
      congr 1
      apply List.map_congr_left
      intro offset member
      have before := List.mem_range.1 member
      apply Function.update_of_ne
      intro same
      exact before.ne (ring.index_injective (before.trans free) free same)
  · cases added

theorem take_eq_none {ring : CountedRing α size} : ring.take = none ↔ ring.contents = [] := by
  rw [take, ← List.length_eq_zero_iff, length_contents]
  split
  · next filled => simp [filled.ne']
  · next empty => simpa using empty

/-- The item that is taken was the first one. -/
theorem contents_take {ring next : CountedRing α size} {item : α}
    (taken : ring.take = some (item, next)) : ring.contents = item :: next.contents := by
  rw [take] at taken
  split at taken
  · next filled =>
      cases taken
      have count : ring.count - 1 + 1 = ring.count := Nat.sub_add_cancel filled
      simp only [contents]
      rw [← count, List.range_succ_eq_map, List.map_cons, List.map_map]
      congr 1
      · rw [Nat.add_zero, Nat.mod_eq_of_lt ring.firstInside]
      · apply List.map_congr_left
        intro offset _
        rw [Nat.mod_add_mod]
        simp [Nat.add_assoc, Nat.add_comm 1]
  · cases taken

end CountedRing

end IotLab.Library
