import Mathlib.Data.List.Perm.Basic

/-!
# Sorting by swaps of neighbours

A pass goes once through a list and swaps neighbours; the sort repeats passes until
one of them swaps nothing.  The number of passes is bounded by the first argument.
-/

namespace IotLab.Library

variable {α : Type*} {swaps : α → α → Bool}

/-- A pass over a list behind an element that is held: the new list and whether a
swap took place. -/
def swapPassFrom (swaps : α → α → Bool) : α → List α → List α × Bool
  | held, [] => ([held], false)
  | held, next :: rest =>
      if swaps held next then
        let passed := swapPassFrom swaps held rest
        (next :: passed.1, true)
      else
        let passed := swapPassFrom swaps next rest
        (held :: passed.1, passed.2)

/-- One pass. -/
def swapPass (swaps : α → α → Bool) : List α → List α × Bool
  | [] => ([], false)
  | first :: rest => swapPassFrom swaps first rest

/-- Passes until one swaps nothing. -/
def swapSort (swaps : α → α → Bool) : ℕ → List α → Option (List α)
  | 0, _ => none
  | passes + 1, list =>
      let passed := swapPass swaps list
      if passed.2 then swapSort swaps passes passed.1 else some passed.1

theorem swapPassFrom_perm (held : α) (rest : List α) :
    (swapPassFrom swaps held rest).1.Perm (held :: rest) := by
  induction rest generalizing held with
  | nil => exact .refl _
  | cons next rest ih =>
      rw [swapPassFrom]
      split
      · exact ((ih held).cons next).trans (.swap held next rest)
      · exact (ih next).cons held

theorem swapPass_perm (list : List α) : (swapPass swaps list).1.Perm list := by
  cases list with
  | nil => exact .refl _
  | cons first rest => exact swapPassFrom_perm first rest

theorem swapSort_perm {passes : ℕ} {list sorted : List α}
    (ends : swapSort swaps passes list = some sorted) : sorted.Perm list := by
  induction passes generalizing list with
  | zero => cases ends
  | succ passes ih =>
      simp only [swapSort] at ends
      split at ends
      · exact (ih ends).trans (swapPass_perm list)
      · cases ends
        exact swapPass_perm list

/-! ## The number of passes -/

/-- The pairs of elements in the wrong order. -/
def inversions (swaps : α → α → Bool) : List α → ℕ
  | [] => 0
  | first :: rest => rest.countP (swaps first) + inversions swaps rest

theorem countP_swapPassFrom (test : α → Bool) (held : α) (rest : List α) :
    (swapPassFrom swaps held rest).1.countP test = (held :: rest).countP test :=
  (swapPassFrom_perm held rest).countP_eq test

section Termination

variable (asymm : ∀ left right, swaps left right = true → swaps right left = false)
include asymm

/-- A pass removes an inversion if it swaps something. -/
theorem inversions_swapPassFrom (held : α) (rest : List α) :
    inversions swaps (swapPassFrom swaps held rest).1 +
        (if (swapPassFrom swaps held rest).2 then 1 else 0) ≤
      inversions swaps (held :: rest) := by
  induction rest generalizing held with
  | nil => exact Nat.le_refl _
  | cons next rest ih =>
      rw [swapPassFrom]
      by_cases swap : swaps held next = true
      · have later := Nat.le_trans (Nat.le_add_right _ _) (ih held)
        have back : (held :: rest).countP (swaps next) = rest.countP (swaps next) :=
          List.countP_cons_of_neg (by simp [asymm held next swap])
        have there : (next :: rest).countP (swaps held) = rest.countP (swaps held) + 1 :=
          List.countP_cons_of_pos swap
        rw [if_pos swap, if_pos rfl]
        simp only [inversions, countP_swapPassFrom, back, there] at later ⊢
        omega
      · have later := ih next
        rw [if_neg swap]
        simp only [inversions, countP_swapPassFrom, Nat.add_assoc] at later ⊢
        exact Nat.add_le_add_left later _

theorem inversions_swapPass (list : List α) (swapped : (swapPass swaps list).2 = true) :
    inversions swaps (swapPass swaps list).1 < inversions swaps list := by
  cases list with
  | nil => cases swapped
  | cons first rest =>
      have fewer := inversions_swapPassFrom asymm first rest
      rw [swapPass] at swapped
      rw [if_pos swapped] at fewer
      exact fewer

/-- More passes than inversions are enough. -/
theorem exists_swapSort {passes : ℕ} {list : List α}
    (enough : inversions swaps list < passes) :
    ∃ sorted, swapSort swaps passes list = some sorted := by
  induction passes generalizing list with
  | zero => exact absurd enough (Nat.not_lt_zero _)
  | succ passes ih =>
      simp only [swapSort]
      by_cases swapped : (swapPass swaps list).2 = true
      · rw [if_pos swapped]
        have fewer := inversions_swapPass asymm list swapped
        exact ih (by omega)
      · rw [if_neg swapped]
        exact ⟨_, rfl⟩

end Termination

/-! ## Passes by index -/

/-- A pass that reads and writes its list by index: `count` more steps from an index on.
There is no result when it leaves the list. -/
def swapLoop (swaps : α → α → Bool) : (count index : ℕ) → List α → Bool →
    Option (List α × Bool)
  | 0, _, list, swapped => some (list, swapped)
  | count + 1, index, list, swapped => do
      let left ← list[index]?
      let right ← list[index + 1]?
      if swaps left right then
        swapLoop swaps count (index + 1) ((list.set index right).set (index + 1) left) true
      else swapLoop swaps count (index + 1) list swapped

/-- Behind the elements that it has passed the loop is a pass. -/
theorem swapLoop_append (passed : List α) (held : α) (rest : List α) (swapped : Bool) :
    swapLoop swaps rest.length passed.length (passed ++ held :: rest) swapped =
      some (passed ++ (swapPassFrom swaps held rest).1,
        swapped || (swapPassFrom swaps held rest).2) := by
  induction rest generalizing passed held swapped with
  | nil => simp [swapLoop, swapPassFrom]
  | cons next rest ih =>
      have left : (passed ++ held :: next :: rest)[passed.length]? = some held := by simp
      have right : (passed ++ held :: next :: rest)[passed.length + 1]? = some next := by simp
      have behind : ∀ first : α, (passed ++ [first]).length = passed.length + 1 := by simp
      rw [List.length_cons, swapLoop, left, right, swapPassFrom]
      simp only [Option.bind_eq_bind, Option.bind_some]
      by_cases swap : swaps held next = true
      · have written : ((passed ++ held :: next :: rest).set passed.length next).set
            (passed.length + 1) held = (passed ++ [next]) ++ held :: rest := by
          simp
        rw [if_pos swap, if_pos swap, written, ← behind next, ih]
        simp
      · have shifted : passed ++ held :: next :: rest = (passed ++ [held]) ++ next :: rest := by
          simp
        rw [if_neg swap, if_neg swap, shifted, ← behind held, ih]
        simp

theorem swapLoop_eq (list : List α) :
    swapLoop swaps (list.length - 1) 0 list false = some (swapPass swaps list) := by
  cases list with
  | nil => rfl
  | cons first rest =>
      have pass := @swapLoop_append α swaps [] first rest false
      simpa [swapPass] using pass

end IotLab.Library
