import Mathlib.Data.List.Induction
import Mathlib.Order.Lattice
import Mathlib.Tactic.Common

/-!
# Searching a least candidate

A loop looks at the items in order and keeps the first candidate with the least value.
Some items yield no candidate.
-/

namespace IotLab.Library

variable {K α β : Type*} [LinearOrder K]

/-- Keep the new candidate if it is strictly better, or the first one. -/
def keepLeast (best new : Option (K × β)) : Option (K × β) :=
  match new, best with
  | none, best => best
  | some candidate, none => some candidate
  | some candidate, some (least, result) =>
      if candidate.1 < least then some candidate else some (least, result)

/-- The search through the items. -/
def leastCandidate (candidate : α → Option (K × β)) (items : List α) : Option (K × β) :=
  items.foldl (fun best item => keepLeast best (candidate item)) none

/-- What the search has kept: a candidate that no other one is less than. -/
def LeastOf (candidate : α → Option (K × β)) (items : List α) (best : Option (K × β)) : Prop :=
  (∀ found, best = some found → ∃ item ∈ items, candidate item = some found) ∧
    ∀ item ∈ items, ∀ other, candidate item = some other →
      ∃ found, best = some found ∧ found.1 ≤ other.1

theorem keepLeast_eq_or (best new : Option (K × β)) :
    keepLeast best new = best ∨ keepLeast best new = new := by
  cases new with
  | none => exact .inl rfl
  | some candidate =>
      cases best with
      | none => exact .inr rfl
      | some before =>
          rw [keepLeast]
          split
          · exact .inr rfl
          · exact .inl rfl

theorem keepLeast_le_old (old : K × β) (new : Option (K × β)) :
    ∃ found, keepLeast (some old) new = some found ∧ found.1 ≤ old.1 := by
  cases new with
  | none => exact ⟨old, rfl, le_refl _⟩
  | some candidate =>
      rw [keepLeast]
      split
      · next less => exact ⟨candidate, rfl, le_of_lt less⟩
      · exact ⟨old, rfl, le_refl _⟩

theorem keepLeast_le_new (best : Option (K × β)) (candidate : K × β) :
    ∃ found, keepLeast best (some candidate) = some found ∧ found.1 ≤ candidate.1 := by
  cases best with
  | none => exact ⟨candidate, rfl, le_refl _⟩
  | some before =>
      rw [keepLeast]
      split
      · exact ⟨candidate, rfl, le_refl _⟩
      · next notLess => exact ⟨before, rfl, not_lt.1 notLess⟩

theorem LeastOf.keep {candidate : α → Option (K × β)} {items : List α}
    {best : Option (K × β)} (least : LeastOf candidate items best) (item : α) :
    LeastOf candidate (items ++ [item]) (keepLeast best (candidate item)) := by
  obtain ⟨among, below⟩ := least
  constructor
  · intro found kept
    cases keepLeast_eq_or best (candidate item) with
    | inl same =>
        obtain ⟨old, member, source⟩ := among found (same ▸ kept)
        exact ⟨old, List.mem_append_left _ member, source⟩
    | inr same =>
        exact ⟨item, List.mem_append_right _ (List.mem_singleton_self _), same ▸ kept⟩
  · intro current member other source
    cases List.mem_append.1 member with
    | inl old =>
        obtain ⟨found, rfl, low⟩ := below current old other source
        obtain ⟨next, kept, lower⟩ := keepLeast_le_old found (candidate item)
        exact ⟨next, kept, lower.trans low⟩
    | inr last =>
        rw [List.mem_singleton.1 last] at source
        rw [source]
        exact keepLeast_le_new best other

theorem leastOf_leastCandidate (candidate : α → Option (K × β)) (items : List α) :
    LeastOf candidate items (leastCandidate candidate items) := by
  induction items using List.reverseRecOn with
  | nil =>
      constructor
      · intro found none
        cases none
      · intro item member
        cases member
  | append_singleton items item ih =>
      rw [leastCandidate, List.foldl_append]
      exact ih.keep item

end IotLab.Library
