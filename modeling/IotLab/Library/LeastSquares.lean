import Mathlib.Algebra.Order.BigOperators.Group.List
import Mathlib.Algebra.Order.Field.Basic
import Mathlib.Tactic.FieldSimp
import Mathlib.Tactic.Linarith
import Mathlib.Tactic.Ring

/-!
# Lines through the origin

A slope is a least-squares estimate for samples of two coordinates if no other slope has
smaller residuals.  Samples on one line have its slope as their only estimate.
-/

namespace IotLab.Library

variable {K : Type*} [Field K]

/-- The sum of the squares of the residuals. -/
def squaredResiduals (samples : List (K × K)) (slope : K) : K :=
  (samples.map fun sample => (sample.2 - slope * sample.1) ^ 2).sum

/-- The sum of the squares of the first coordinates. -/
def sumOfSquares (samples : List (K × K)) : K := (samples.map fun sample => sample.1 ^ 2).sum

/-- The sum of the products of the coordinates. -/
def sumOfProducts (samples : List (K × K)) : K :=
  (samples.map fun sample => sample.1 * sample.2).sum

theorem squaredResiduals_eq (samples : List (K × K)) (slope : K) :
    squaredResiduals samples slope = squaredResiduals samples 0 -
      2 * slope * sumOfProducts samples + slope ^ 2 * sumOfSquares samples := by
  induction samples with
  | nil => simp [squaredResiduals, sumOfProducts, sumOfSquares]
  | cons sample rest ih =>
      simp only [squaredResiduals, sumOfProducts, sumOfSquares, List.map_cons,
        List.sum_cons] at ih ⊢
      rw [ih]
      ring

section Ordered

variable [LinearOrder K] [IsStrictOrderedRing K] {samples : List (K × K)} {slope line : K}

/-- No other slope has smaller residuals. -/
def IsLeastSquares (samples : List (K × K)) (slope : K) : Prop :=
  ∀ other, squaredResiduals samples slope ≤ squaredResiduals samples other

theorem squaredResiduals_nonneg : 0 ≤ squaredResiduals samples slope := by
  apply List.sum_nonneg
  rw [List.forall_mem_map]
  exact fun sample _ => sq_nonneg _

theorem squaredResiduals_eq_zero_iff :
    squaredResiduals samples slope = 0 ↔ ∀ sample ∈ samples, sample.2 = slope * sample.1 := by
  induction samples with
  | nil => simp [squaredResiduals]
  | cons sample rest ih =>
      have parts : squaredResiduals (sample :: rest) slope =
          (sample.2 - slope * sample.1) ^ 2 + squaredResiduals rest slope := by
        simp [squaredResiduals]
      rw [parts, add_eq_zero_iff_of_nonneg (sq_nonneg _) squaredResiduals_nonneg, ih,
        List.forall_mem_cons, sq_eq_zero_iff, sub_eq_zero]

theorem IsLeastSquares.eq_of_line (best : IsLeastSquares samples slope)
    (onLine : ∀ sample ∈ samples, sample.2 = line * sample.1)
    (spread : ∃ sample ∈ samples, sample.1 ≠ 0) : slope = line := by
  have exact : squaredResiduals samples line = 0 := squaredResiduals_eq_zero_iff.2 onLine
  have least : squaredResiduals samples slope = 0 :=
    le_antisymm (exact ▸ best line) squaredResiduals_nonneg
  obtain ⟨sample, member, nonzero⟩ := spread
  have both : slope * sample.1 = line * sample.1 :=
    (squaredResiduals_eq_zero_iff.1 least sample member).symm.trans (onLine sample member)
  exact mul_right_cancel₀ nonzero both

theorem sumOfSquares_pos (spread : ∃ sample ∈ samples, sample.1 ≠ 0) :
    0 < sumOfSquares samples := by
  obtain ⟨sample, member, nonzero⟩ := spread
  have squares : ∀ square ∈ samples.map fun sample => sample.1 ^ 2, 0 ≤ square := by
    rw [List.forall_mem_map]
    exact fun sample _ => sq_nonneg _
  have part : sample.1 ^ 2 ≤ sumOfSquares samples :=
    List.single_le_sum squares _ (List.mem_map_of_mem member)
  exact (sq_pos_of_ne_zero nonzero).trans_le part

/-- The quotient of the sums is an estimate. -/
theorem isLeastSquares_quotient (spread : ∃ sample ∈ samples, sample.1 ≠ 0) :
    IsLeastSquares samples (sumOfProducts samples / sumOfSquares samples) := by
  have positive := sumOfSquares_pos spread
  intro other
  rw [squaredResiduals_eq samples other, squaredResiduals_eq samples (_ / _)]
  have square : 0 ≤ (other - sumOfProducts samples / sumOfSquares samples) ^ 2 *
      sumOfSquares samples := mul_nonneg (sq_nonneg _) positive.le
  have same : sumOfProducts samples =
      sumOfProducts samples / sumOfSquares samples * sumOfSquares samples :=
    (div_mul_cancel₀ _ positive.ne').symm
  generalize sumOfProducts samples / sumOfSquares samples = quotient at *
  rw [same]
  linarith [square]

end Ordered

end IotLab.Library
