import Mathlib.Analysis.SpecialFunctions.Pow.Real
import Mathlib.Tactic.FieldSimp
import Mathlib.Tactic.LinearCombination
import Mathlib.Tactic.Positivity

/-!
# Two circles in the plane

The usual construction of the points of two circles: from the first centre a distance
along the line of the centres, then a height to either side.  Both points have the
radii as their distances from the centres.
-/

namespace IotLab.Library

section Points

variable {a h u v d : ℝ}

theorem exists_direction {right up : ℝ} (positive : 0 < d)
    (square : d * d = right * right + up * up) :
    ∃ u v, right = d * u ∧ up = d * v ∧ u * u + v * v = 1 ∧
      ∀ value, value * right / d = value * u ∧ value * up / d = value * v := by
  have across : right = d * (right / d) := (mul_div_cancel₀ right positive.ne').symm
  have upward : up = d * (up / d) := (mul_div_cancel₀ up positive.ne').symm
  have unit : right / d * (right / d) + up / d * (up / d) = 1 := by
    field_simp
    linarith
  exact ⟨right / d, up / d, across, upward, unit,
    fun value => ⟨mul_div_assoc _ _ _, mul_div_assoc _ _ _⟩⟩

theorem sq_add_sq_first (unit : u * u + v * v = 1) :
    (a * u + h * v) * (a * u + h * v) + (a * v - h * u) * (a * v - h * u) =
      a * a + h * h := by
  linear_combination (a * a + h * h) * unit

theorem sq_add_sq_second (unit : u * u + v * v = 1) :
    ((a - d) * u + h * v) * ((a - d) * u + h * v) +
      ((a - d) * v - h * u) * ((a - d) * v - h * u) = a * a + h * h - 2 * (a * d) + d * d := by
  linear_combination ((a - d) * (a - d) + h * h) * unit

/-- A point at the distances of the construction is at the same place along the line of
the centres. -/
theorem along_of_common {x y first second : ℝ} (nonzero : d ≠ 0) (unit : u * u + v * v = 1)
    (onFirst : x * x + y * y = first * first)
    (onSecond : (x - d * u) * (x - d * u) + (y - d * v) * (y - d * v) = second * second)
    (along : 2 * (a * d) = first * first - second * second + d * d) :
    x * u + y * v = a := by
  have twice : 2 * (x * u + y * v) * d = 2 * a * d := by
    linear_combination onFirst - onSecond - along + d * d * unit
  have same := mul_right_cancel₀ nonzero twice
  linarith

/-- Such a point is one of the two that are constructed. -/
theorem eq_or_eq_of_common {x y radius : ℝ} (unit : u * u + v * v = 1)
    (onFirst : x * x + y * y = radius * radius) (along : x * u + y * v = a)
    (height : a * a + h * h = radius * radius) :
    (x = a * u + h * v ∧ y = a * v - h * u) ∨ (x = a * u - h * v ∧ y = a * v + h * u) := by
  have square : (x * v - y * u) * (x * v - y * u) = h * h := by
    have product : (x * u + y * v) * (x * u + y * v) + (x * v - y * u) * (x * v - y * u) =
        x * x + y * y := by
      linear_combination (x * x + y * y) * unit
    rw [along] at product
    linarith
  have across : x = a * u + (x * v - y * u) * v := by
    rw [← along]
    linear_combination -x * unit
  have upward : y = a * v - (x * v - y * u) * u := by
    rw [← along]
    linear_combination -y * unit
  cases mul_self_eq_mul_self_iff.1 square with
  | inl above =>
      rw [above] at across upward
      exact .inl ⟨across, upward⟩
  | inr below =>
      rw [below] at across upward
      exact .inr ⟨by linarith, by linarith⟩

end Points

section Heights

variable {first second d : ℝ}

/-- The height is real if the circles meet. -/
theorem sq_le_sq_of_meet (positive : 0 < d) (notInside : |first - second| ≤ d)
    (notApart : d ≤ first + second) :
    (first * first - second * second + d * d) / (2 * d) *
      ((first * first - second * second + d * d) / (2 * d)) ≤ first * first := by
  obtain ⟨low, high⟩ := abs_le.1 notInside
  have twice : 0 < 2 * d := by positivity
  have radius : 0 ≤ first := by linarith
  apply abs_le_iff_mul_self_le.1
  rw [abs_of_nonneg radius, abs_le]
  constructor
  · rw [le_div_iff₀ twice]
    nlinarith
  · rw [div_le_iff₀ twice]
    nlinarith

theorem two_mul_along (first second : ℝ) (nonzero : d ≠ 0) :
    2 * ((first * first - second * second + d * d) / (2 * d) * d) =
      first * first - second * second + d * d := by
  field_simp

theorem along_of_touching (positive : 0 < d) (touching : d = first + second) :
    (first * first - second * second + d * d) / (2 * d) = first := by
  rw [div_eq_iff (by positivity), touching]
  ring

end Heights

end IotLab.Library
