import IotLab.Library.PlaneCircles
import IotLab.Localization.Levels

/-!
# Meetings of circles

How two circles meet is decided by the distance of their centres and their radii.  Over
the reals the points of an intersection lie on both circles, so they determine the
radii.
-/

namespace IotLab.Localization

open IotLab.Library

section Meetings

variable {K : Type*} [Field K] [LinearOrder K] (sqrt : K → K)

/-- The state of the intersection of two circles. -/
def meeting (first second : Circle K) : Meeting := (intersect sqrt first second).1

theorem meeting_eq (first second : Circle K) :
    meeting sqrt first second =
      if first.radius + second.radius < distance sqrt first.center second.center then
        .noIntersect
      else if distance sqrt first.center second.center < |first.radius - second.radius| then
        .surrounded
      else if distance sqrt first.center second.center = 0 ∧ first.radius = second.radius then
        .coincidence
      else .intersect := by
  rw [meeting, intersect]
  dsimp only
  split
  · rfl
  split
  · rfl
  split
  · rfl
  split
  · rfl
  · rfl

theorem meeting_eq_intersect_iff (first second : Circle K) :
    meeting sqrt first second = .intersect ↔
      |first.radius - second.radius| ≤ distance sqrt first.center second.center ∧
        distance sqrt first.center second.center ≤ first.radius + second.radius ∧
          ¬ (distance sqrt first.center second.center = 0 ∧
            first.radius = second.radius) := by
  rw [meeting_eq]
  split
  · next apart => simp [not_le.2 apart]
  · next near =>
      split
      · next inside => simp [not_le.2 inside]
      · next outside =>
          split
          · next same => simp [same]
          · next different =>
              exact iff_of_true rfl ⟨not_lt.1 outside, not_lt.1 near, different⟩

theorem intersect_eq_of_ne {first second : Circle K}
    (none : meeting sqrt first second ≠ .intersect) :
    intersect sqrt first second = (meeting sqrt first second, []) := by
  cases twoOrNone_intersect sqrt first second with
  | inl two => exact absurd two.1 none
  | inr empty => exact Prod.ext rfl empty.2

end Meetings

/-! ## Meetings over the reals -/

section Reals

variable {first second : Circle ℝ}

theorem distance_nonneg (point other : Point ℝ) : 0 ≤ distance Real.sqrt point other :=
  Real.sqrt_nonneg _

theorem distance_mul_self (point other : Point ℝ) :
    distance Real.sqrt point other * distance Real.sqrt point other =
      (point.1 - other.1) * (point.1 - other.1) +
        (point.2 - other.2) * (point.2 - other.2) :=
  Real.mul_self_sqrt (add_nonneg (mul_self_nonneg _) (mul_self_nonneg _))

theorem distance_comm (point other : Point ℝ) :
    distance Real.sqrt point other = distance Real.sqrt other point := by
  rw [distance, distance]
  congr 1
  ring

theorem distance_eq_of_mul_self {point other : Point ℝ} {value : ℝ} (nonneg : 0 ≤ value)
    (square : (point.1 - other.1) * (point.1 - other.1) +
      (point.2 - other.2) * (point.2 - other.2) = value * value) :
    distance Real.sqrt point other = value := by
  rw [distance, square]
  exact Real.sqrt_mul_self nonneg

theorem distance_pos_of_intersect
    (met : meeting Real.sqrt first second = .intersect) :
    0 < distance Real.sqrt first.center second.center := by
  obtain ⟨outside, near, different⟩ := (meeting_eq_intersect_iff _ _ _).1 met
  apply lt_of_le_of_ne (distance_nonneg _ _)
  intro zero
  rw [← zero] at outside
  exact different ⟨zero.symm, sub_eq_zero.1 (abs_eq_zero.1 (le_antisymm outside
    (abs_nonneg _)))⟩

/-- A point that is constructed from the distance along the line of the centres and the
height has the radii as its distances from the centres. -/
theorem distance_constructed {center other : Point ℝ} {d a h radius otherRadius : ℝ}
    (positive : 0 < d)
    (square : d * d = (center.1 - other.1) * (center.1 - other.1) +
      (center.2 - other.2) * (center.2 - other.2))
    (height : a * a + h * h = radius * radius)
    (along : 2 * (a * d) = radius * radius - otherRadius * otherRadius + d * d)
    (radiusNonneg : 0 ≤ radius) (otherNonneg : 0 ≤ otherRadius) {point : Point ℝ}
    (same : point = (center.1 + a * (other.1 - center.1) / d + h * (other.2 - center.2) / d,
      center.2 + a * (other.2 - center.2) / d - h * (other.1 - center.1) / d)) :
    distance Real.sqrt center point = radius ∧
      distance Real.sqrt other point = otherRadius := by
  obtain ⟨u, v, firstTimes, secondTimes, unit, quotients⟩ :
      ∃ u v, other.1 - center.1 = d * u ∧ other.2 - center.2 = d * v ∧ u * u + v * v = 1 ∧
        ∀ value, value * (other.1 - center.1) / d = value * u ∧
          value * (other.2 - center.2) / d = value * v :=
    exists_direction positive (by linear_combination square)
  simp only [quotients] at same
  have across : point.1 = center.1 + (a * u + h * v) := by
    rw [same, add_assoc]
  have upward : point.2 = center.2 + (a * v - h * u) := by
    rw [same, add_sub_assoc]
  constructor
  · apply distance_eq_of_mul_self radiusNonneg
    rw [across, upward, ← height]
    linear_combination sq_add_sq_first (a := a) (h := h) unit
  · apply distance_eq_of_mul_self otherNonneg
    have left : other.1 = center.1 + d * u := by linarith
    have right : other.2 = center.2 + d * v := by linarith
    rw [across, upward, left, right]
    linear_combination sq_add_sq_second (a := a) (h := h) (d := d) unit + height - along

/-- The points of an intersection lie on both circles. -/
theorem distance_of_mem_intersect (firstNonneg : 0 ≤ first.radius)
    (secondNonneg : 0 ≤ second.radius) {point : Point ℝ}
    (member : point ∈ (intersect Real.sqrt first second).2) :
    distance Real.sqrt first.center point = first.radius ∧
      distance Real.sqrt second.center point = second.radius := by
  have met : meeting Real.sqrt first second = .intersect := by
    by_contra none
    rw [intersect_eq_of_ne _ none] at member
    cases member
  obtain ⟨outside, near, different⟩ := (meeting_eq_intersect_iff _ _ _).1 met
  have positive := distance_pos_of_intersect met
  have square := distance_mul_self first.center second.center
  have height := sq_le_sq_of_meet positive outside near
  have along := two_mul_along first.radius second.radius positive.ne'
  have root := Real.mul_self_sqrt (sub_nonneg.2 height)
  rw [intersect] at member
  dsimp only at member
  rw [if_neg (not_lt.2 near), if_neg (not_lt.2 outside), if_neg different] at member
  split at member
  · rw [List.mem_pair, or_self] at member
    exact distance_constructed positive square (by rw [root]; ring) along firstNonneg
      secondNonneg member
  · rw [List.mem_pair] at member
    cases member with
    | inl upper =>
        exact distance_constructed positive square (by rw [root]; ring) along firstNonneg
          secondNonneg upper
    | inr lower =>
        apply distance_constructed positive square (by rw [neg_mul_neg, root]; ring) along
          firstNonneg secondNonneg
        rw [lower]
        refine Prod.ext ?_ ?_
        · ring
        · ring

/-- The intersection of two circles whose distance and height are known. -/
theorem intersect_eq_of_height {first second : Circle ℝ} {d : ℝ} (a h : ℝ)
    (upper lower : Point ℝ) (dist : distance Real.sqrt first.center second.center = d)
    (positive : 0 < d)
    (outside : |first.radius - second.radius| ≤ d) (near : d ≤ first.radius + second.radius)
    (along : (first.radius * first.radius - second.radius * second.radius + d * d) /
      (2 * d) = a)
    (nonneg : 0 ≤ h) (height : first.radius * first.radius - a * a = h * h)
    (above : upper = (first.center.1 + a * (second.center.1 - first.center.1) / d +
        h * (second.center.2 - first.center.2) / d,
      first.center.2 + a * (second.center.2 - first.center.2) / d -
        h * (second.center.1 - first.center.1) / d))
    (under : lower = (first.center.1 + a * (second.center.1 - first.center.1) / d -
        h * (second.center.2 - first.center.2) / d,
      first.center.2 + a * (second.center.2 - first.center.2) / d +
        h * (second.center.1 - first.center.1) / d)) :
    intersect Real.sqrt first second = if d = first.radius + second.radius then
      (.intersect, [upper, upper]) else (.intersect, [upper, lower]) := by
  have root : Real.sqrt (first.radius * first.radius - a * a) = h := by
    rw [height, Real.sqrt_mul_self nonneg]
  have different : ¬ (d = 0 ∧ first.radius = second.radius) := fun both => positive.ne' both.1
  rw [intersect]
  simp only [dist, along, root, ← above, ← under]
  rw [if_neg (not_lt.2 near), if_neg (not_lt.2 outside), if_neg different]

/-- A circle with its centre on an axis. -/
def onAxis (x radius : ℝ) : Circle ℝ := { center := (x, 0), radius, mote := [], rssi := 0 }

@[simp] theorem onAxis_center (x radius : ℝ) : (onAxis x radius).center = (x, 0) := rfl

@[simp] theorem onAxis_radius (x radius : ℝ) : (onAxis x radius).radius = radius := rfl

@[simp] theorem onAxis_setRadius (x radius other : ℝ) :
    (onAxis x radius).setRadius other = onAxis x (max 0 other) := rfl

/-- A circle with its centre at natural numbers on an axis. -/
def natOnAxis (x radius : ℕ) : Circle ℝ := onAxis x radius

@[simp] theorem natOnAxis_eq (x radius : ℕ) : natOnAxis x radius = onAxis x radius := rfl

theorem natOnAxis_nonneg (x y z first second third : ℕ) : ∀ index,
    0 ≤ (![natOnAxis x first, natOnAxis y second, natOnAxis z third] index).radius := by
  intro index
  fin_cases index
  · exact Nat.cast_nonneg first
  · exact Nat.cast_nonneg second
  · exact Nat.cast_nonneg third

/-- A circle with natural numbers for its coordinates and its radius. -/
def natCircle (x y radius : ℕ) : Circle ℝ :=
  { center := (x, y), radius, mote := [], rssi := 0 }

theorem distance_onAxis (x y : ℝ) : distance Real.sqrt (x, 0) (y, 0) = |x - y| := by
  apply distance_eq_of_mul_self (abs_nonneg _)
  rw [abs_mul_abs_self]
  ring

theorem meeting_onAxis (x radius y other : ℝ) :
    meeting Real.sqrt (onAxis x radius) (onAxis y other) =
      if radius + other < |x - y| then .noIntersect
      else if |x - y| < |radius - other| then .surrounded
      else if |x - y| = 0 ∧ radius = other then .coincidence
      else .intersect := by
  rw [meeting_eq, onAxis, onAxis, distance_onAxis]

end Reals

end IotLab.Localization
