import Mathlib.Data.List.Basic

/-!
# Items handed over in batches

Items are collected until a batch is full, or until somebody asks for what has been
collected so far.  Whatever the order of the two, the batches handed over and the
items that still wait are together the items that were put in.
-/

namespace IotLab.Library

variable {α : Type*}

/-- The items that wait and the batches handed over so far. -/
structure Batches (α : Type*) where
  pending : List α := []
  handed : List (List α) := []

namespace Batches

/-- All items, in the order of their arrival. -/
def contents (batches : Batches α) : List α :=
  batches.handed.flatten ++ batches.pending

/-- Hand over what waits. -/
def flush (batches : Batches α) : Batches α where
  pending := []
  handed := batches.handed ++ [batches.pending]

/-- Add an item and hand over a batch that has reached its capacity. -/
def put (capacity : ℕ) (batches : Batches α) (item : α) : Batches α :=
  let filled : Batches α := { batches with pending := batches.pending ++ [item] }
  if capacity ≤ filled.pending.length then filled.flush else filled

@[simp] theorem contents_flush (batches : Batches α) :
    batches.flush.contents = batches.contents := by
  simp [contents, flush]

@[simp] theorem contents_put (capacity : ℕ) (batches : Batches α) (item : α) :
    (batches.put capacity item).contents = batches.contents ++ [item] := by
  simp only [put]
  split
  · rw [contents_flush]
    simp [contents]
  · simp [contents]

end Batches

theorem perm_append_append (first more second others : List α) :
    ((first ++ more) ++ (second ++ others)).Perm ((first ++ second) ++ (more ++ others)) := by
  rw [List.append_assoc, List.append_assoc]
  refine List.Perm.append_left _ ?_
  rw [← List.append_assoc, ← List.append_assoc]
  exact List.perm_append_comm.append_right _

end IotLab.Library
