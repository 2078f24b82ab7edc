import Mathlib.Analysis.Convex.Combination
import Mathlib.Tactic.FieldSimp
import Mathlib.Tactic.Linarith
import Mathlib.Tactic.Module

/-!
# Means and the convex hull

The mean of some vectors lies in their convex hull.  Dividing their sum by a larger
number leaves it, apart from special positions of one or two vectors.
-/

namespace IotLab.Library

variable {K E : Type*} [Field K] [LinearOrder K] [IsStrictOrderedRing K]
variable [AddCommGroup E] [Module K E]

/-- The mean of a nonempty list of vectors. -/
theorem mean_mem_convexHull {vectors : List E} (some_ : vectors ≠ []) :
    ((1 : K) / vectors.length) • vectors.sum ∈ convexHull K {v | v ∈ vectors} := by
  have positive : (0 : K) < vectors.length := by
    exact_mod_cast List.length_pos_iff.2 some_
  have combination := (convex_convexHull K {v | v ∈ vectors}).sum_mem
    (t := (Finset.univ : Finset (Fin vectors.length)))
    (w := fun _ => (1 : K) / vectors.length) (z := fun index => vectors[index.val])
  have weights : ∑ _index : Fin vectors.length, (1 : K) / vectors.length = 1 := by
    rw [Finset.sum_const, Finset.card_univ, Fintype.card_fin, nsmul_eq_mul]
    exact mul_one_div_cancel positive.ne'
  rw [← Finset.smul_sum, Fin.sum_univ_getElem] at combination
  apply combination
  · intro index _
    positivity
  · exact weights
  · intro index _
    exact subset_convexHull K _ (List.getElem_mem index.isLt)

/-- A vector divided by two or more stays in place if it is zero. -/
theorem div_mem_convexHull_singleton {vector : E} {count : ℕ} (several : 2 ≤ count) :
    ((1 : K) / count) • vector ∈ convexHull K {vector} ↔ vector = 0 := by
  rw [convexHull_singleton, Set.mem_singleton_iff]
  constructor
  · intro same
    have less : (1 : K) / count ≠ 1 := by
      have large : (2 : K) ≤ count := by exact_mod_cast several
      intro one
      rw [div_eq_one_iff_eq (by linarith)] at one
      linarith
    have zero : ((1 : K) / count - 1) • vector = 0 := by
      rw [sub_smul, same, one_smul, sub_self]
    rcases smul_eq_zero.1 zero with one | vanishes
    · exact absurd (sub_eq_zero.1 one) less
    · exact vanishes
  · rintro rfl
    exact smul_zero _

/-- Two vectors such that the first is zero, or the second is its multiple by at most
a half or at least two. -/
def Apart (K : Type*) [Field K] [LinearOrder K] {E : Type*} [AddCommGroup E] [Module K E]
    (first second : E) : Prop :=
  first = 0 ∨ ∃ factor : K, second = factor • first ∧ (factor + factor ≤ 1 ∨ 1 + 1 ≤ factor)

/-- Two weights of at most two thirds and one third, up to the same shift, that give vectors
the same product. -/
theorem apart_of_smul_eq {first second : E} {t : K} (low : 0 ≤ t) (high : t ≤ 1)
    (balance : (2 / 3 - t) • first = (1 / 3 - t) • second) : Apart K first second := by
  by_cases middle : 1 / 3 - t = 0
  · left
    have third : 2 / 3 - t = 1 / 3 := by linarith
    rw [middle, zero_smul, third] at balance
    rcases smul_eq_zero.1 balance with impossible | zero
    · norm_num at impossible
    · exact zero
  · right
    refine ⟨(2 / 3 - t) / (1 / 3 - t), ?_, ?_⟩
    · rw [div_eq_inv_mul, mul_smul, balance, smul_smul, inv_mul_cancel₀ middle, one_smul]
    · rcases lt_or_gt_of_ne middle with negative | positive
      · left
        rw [← add_div, div_le_iff_of_neg negative]
        linarith
      · right
        rw [le_div_iff₀ positive]
        linarith

/-- The place of the third on the segment to a multiple. -/
theorem third_weight_mem {factor : K} (range : factor + factor ≤ 1 ∨ 1 + 1 ≤ factor) :
    0 ≤ (2 - factor) / (3 * (1 - factor)) ∧ (2 - factor) / (3 * (1 - factor)) ≤ 1 := by
  rcases range with small | large
  · have positive : 0 < 3 * (1 - factor) := by linarith
    constructor
    · apply div_nonneg _ positive.le
      linarith
    · rw [div_le_one positive]
      linarith
  · have negative : 3 * (1 - factor) < 0 := by linarith
    constructor
    · apply div_nonneg_of_nonpos _ negative.le
      linarith
    · rw [div_le_one_of_neg negative]
      linarith

/-- A third of the sum of two vectors lies between them if they are apart. -/
theorem third_mem_convexHull_pair {first second : E} :
    ((1 : K) / 3) • (first + second) ∈ convexHull K {first, second} ↔
      Apart K first second := by
  rw [convexHull_pair, segment_eq_image, Set.mem_image]
  constructor
  · rintro ⟨t, ⟨low, high⟩, point⟩
    apply apart_of_smul_eq low high
    apply sub_eq_zero.1
    calc
      (2 / 3 - t) • first - (1 / 3 - t) • second =
          ((1 - t) • first + t • second) - ((1 : K) / 3) • (first + second) := by
        module
      _ = 0 := sub_eq_zero.2 point
  · rintro (rfl | ⟨factor, rfl, range⟩)
    · refine ⟨1 / 3, ⟨by norm_num, by norm_num⟩, ?_⟩
      simp
    · have other : 1 - factor ≠ 0 := by
        rcases range with small | large
        · linarith
        · linarith
      refine ⟨(2 - factor) / (3 * (1 - factor)), third_weight_mem range, ?_⟩
      have scalar : (1 - (2 - factor) / (3 * (1 - factor))) +
          (2 - factor) / (3 * (1 - factor)) * factor = 1 / 3 * (1 + factor) := by
        field_simp
        ring
      calc
        (1 - (2 - factor) / (3 * (1 - factor))) • first +
              ((2 - factor) / (3 * (1 - factor))) • factor • first =
            ((1 - (2 - factor) / (3 * (1 - factor))) +
              (2 - factor) / (3 * (1 - factor)) * factor) • first := by
          rw [add_smul, mul_smul]
        _ = ((1 : K) / 3) • (first + factor • first) := by
          rw [scalar]
          module

end IotLab.Library
