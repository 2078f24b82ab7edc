import Mathlib.Data.List.Basic

/-!
# Objects and references

A reference is the position of its object.  Objects are only added: an old
reference goes on reading the old object, also when the variable it was read from
has been given a new one since.
-/

namespace IotLab.Library

/-- The objects allocated so far. -/
structure Objects (α : Type*) where
  stored : List α := []

namespace Objects

variable {α : Type*}

/-- A reference is allocated. -/
def Valid (objects : Objects α) (reference : ℕ) : Prop :=
  reference < objects.stored.length

/-- The reference of a new object, and the objects with it. -/
def alloc (objects : Objects α) (object : α) : ℕ × Objects α :=
  (objects.stored.length, ⟨objects.stored ++ [object]⟩)

def get? (objects : Objects α) (reference : ℕ) : Option α :=
  objects.stored[reference]?

@[simp] theorem get?_alloc_self (objects : Objects α) (object : α) :
    (objects.alloc object).2.get? (objects.alloc object).1 = some object := by
  simp [alloc, get?]

theorem get?_alloc {objects : Objects α} {reference : ℕ}
    (valid : objects.Valid reference) (object : α) :
    (objects.alloc object).2.get? reference = objects.get? reference := by
  simp only [alloc, get?]
  exact List.getElem?_append_left valid

theorem valid_of_get? {objects : Objects α} {reference : ℕ} {object : α}
    (found : objects.get? reference = some object) : objects.Valid reference :=
  (List.getElem?_eq_some_iff.1 found).1

end Objects

end IotLab.Library
