import Mathlib.Data.List.AList
import Mathlib.Data.List.Nodup

/-!
# Values in parallel lists

A map gives every key a position, and lists hold the values of the keys at their
positions.  Such a list is the image of the list of keys under a table; a new key goes
to the end, and setting the value at a position changes the table at one key.
-/

namespace IotLab.Library

section Positions

variable {κ ν : Type*} [BEq κ] [LawfulBEq κ] {keys : List κ} {key : κ} {position : ℕ}

theorem getElem?_of_position (found : keys.idxOf? key = some position) :
    keys[position]? = some key := by
  obtain ⟨low, same, _⟩ := List.idxOf?_eq_some_iff.1 found
  rw [List.getElem?_eq_getElem low, same]

theorem getElem?_map_position (found : keys.idxOf? key = some position) (table : κ → ν) :
    (keys.map table)[position]? = some (table key) := by
  rw [List.getElem?_map, getElem?_of_position found, Option.map_some]

/-- Setting the value at the position of a key. -/
theorem map_set_position (unique : keys.Nodup)
    (found : keys.idxOf? key = some position) (table next : κ → ν)
    (others : ∀ other, other ≠ key → next other = table other) :
    (keys.map table).set position (next key) = keys.map next := by
  apply List.ext_getElem?
  intro index
  rw [List.getElem?_set, List.length_map, List.getElem?_map, List.getElem?_map]
  have here := getElem?_of_position found
  have low := (List.getElem?_eq_some_iff.1 here).1
  by_cases same : position = index
  · subst same
    rw [if_pos rfl, if_pos low, here, Option.map_some]
  · rw [if_neg same]
    cases at_ : keys[index]? with
    | none => rfl
    | some other =>
        have different : other ≠ key := by
          intro equal
          rw [equal, ← here] at at_
          exact same ((List.getElem?_inj low unique).1 at_.symm)
        rw [Option.map_some, Option.map_some, others other different]

theorem idxOf?_append_new [DecidableEq κ] (new : key ∉ keys) (other : κ) :
    (keys ++ [key]).idxOf? other =
      if other = key then some keys.length else keys.idxOf? other := by
  rw [List.idxOf?, List.findIdx?_append, List.findIdx?_singleton]
  by_cases same : other = key
  · subst same
    have absent : List.findIdx? (· == other) keys = none := by
      rw [List.findIdx?_eq_none_iff]
      intro seen member
      exact beq_false_of_ne fun equal => new (equal ▸ member)
    simp [absent]
  · simp [same, Ne.symm same]

end Positions

/-- Putting the entries of a map into another one. -/
theorem lookup_foldl_insert {κ ν ρ : Type*} [DecidableEq κ] (value : ν → ρ)
    (entries : List ((_ : κ) × ν)) (unique : entries.NodupKeys)
    (start : AList fun _ : κ => ρ) (key : κ) :
    (entries.foldl (fun map entry => map.insert entry.1 (value entry.2)) start).lookup key =
      match entries.dlookup key with
      | none => start.lookup key
      | some found => some (value found) := by
  induction entries generalizing start with
  | nil => rfl
  | cons entry rest ih =>
      obtain ⟨first, found⟩ := entry
      rw [List.nodupKeys_cons] at unique
      rw [List.foldl_cons, ih unique.2]
      by_cases same : key = first
      · subst same
        rw [List.dlookup_eq_none.2 unique.1, List.dlookup_cons_eq]
        exact AList.lookup_insert _
      · rw [List.dlookup_cons_ne _ _ same]
        cases rest.dlookup key with
        | none => exact AList.lookup_insert_ne same
        | some later => rfl

end IotLab.Library
