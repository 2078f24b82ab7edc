import Mathlib.Data.List.Sort
import Mathlib.Order.Lattice

/-!
# Values by rank

The value of a rank is that element of a list which fewer elements are below than the
rank says, and at least as many are not above.  Sorting the list puts it at its place.
-/

namespace IotLab.Library

variable {α : Type*} [LinearOrder α]

/-- The element of a rank, counted from one. -/
structure IsRank (values : List α) (rank : ℕ) (limit : α) : Prop where
  member : limit ∈ values
  below : values.countP (fun value => value < limit) < rank
  notAbove : rank ≤ values.countP fun value => value ≤ limit

theorem IsRank.perm {values others : List α} {rank : ℕ} {limit : α}
    (isRank : IsRank values rank limit) (same : values.Perm others) :
    IsRank others rank limit where
  member := same.subset isRank.member
  below := same.countP_eq _ ▸ isRank.below
  notAbove := same.countP_eq _ ▸ isRank.notAbove

/-- The elements of an ordered list are at the places of their ranks. -/
theorem isRank_of_sorted {before after : List α} {limit : α}
    (sorted : (before ++ limit :: after).Pairwise (· ≤ ·)) :
    IsRank (before ++ limit :: after) (before.length + 1) limit := by
  obtain ⟨_, ordered, between⟩ := List.pairwise_append.1 sorted
  have behind := (List.pairwise_cons.1 ordered).1
  constructor
  · simp
  · have none : after.countP (fun value => value < limit) = 0 := by
      rw [List.countP_eq_zero]
      intro value member
      simpa using behind value member
    have few : before.countP (fun value => value < limit) ≤ before.length :=
      List.countP_le_length
    have self : (limit :: after).countP (fun value => value < limit) =
        after.countP fun value => value < limit := List.countP_cons_of_neg (by simp)
    rw [List.countP_append, self, none, Nat.add_zero]
    exact Nat.lt_succ_of_le few
  · have all : before.countP (fun value => value ≤ limit) = before.length := by
      rw [List.countP_eq_length]
      intro value member
      simpa using between value member limit List.mem_cons_self
    have self : (limit :: after).countP (fun value => value ≤ limit) =
        (after.countP fun value => value ≤ limit) + 1 := List.countP_cons_of_pos (by simp)
    rw [List.countP_append, self, all]
    exact Nat.add_le_add_left (Nat.le_add_left _ _) _

/-- The place of a rank in the sorted list. -/
theorem isRank_insertionSort {values : List α} {rank : ℕ} {limit : α}
    (found : (values.insertionSort (· ≤ ·))[rank]? = some limit) :
    IsRank values (rank + 1) limit := by
  obtain ⟨inside, there⟩ := List.getElem?_eq_some_iff.1 found
  have split : values.insertionSort (· ≤ ·) =
      (values.insertionSort (· ≤ ·)).take rank ++
        limit :: (values.insertionSort (· ≤ ·)).drop (rank + 1) := by
    rw [← there, List.getElem_cons_drop, List.take_append_drop]
  have length : ((values.insertionSort (· ≤ ·)).take rank).length = rank := by
    rw [List.length_take]
    omega
  have sorted := List.pairwise_insertionSort (· ≤ ·) values
  rw [split] at sorted
  have isRank := isRank_of_sorted sorted
  rw [← split, length] at isRank
  exact isRank.perm (List.perm_insertionSort _ _)

theorem IsRank.le_length_filter {values : List α} {rank : ℕ} {limit : α}
    (isRank : IsRank values rank limit) :
    rank ≤ (values.filter fun value => value ≤ limit).length :=
  List.countP_eq_length_filter ▸ isRank.notAbove

end IotLab.Library
