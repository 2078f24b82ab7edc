import IotLab.Localization.Meetings

/-!
# The common points of two circles

`Trilateration.intersect` divides by the distance of the centres and takes the root of a
difference.  Both are defined where it does so, and what it returns are exactly the
common points of the circles.
-/

namespace IotLab.Localization

open IotLab.Library

/-! ## Divisions and roots that are defined -/

section Checked

variable {K : Type*} [Field K] [LinearOrder K]

/-- A division by another number than zero. -/
def checkedDiv (value divisor : K) : Option K :=
  if divisor = 0 then none else some (value / divisor)

/-- The root of a number that is not negative. -/
def checkedSqrt (sqrt : K → K) (value : K) : Option K :=
  if value < 0 then none else some (sqrt value)

theorem checkedDiv_of_ne {value divisor : K} (nonzero : divisor ≠ 0) :
    checkedDiv value divisor = some (value / divisor) := if_neg nonzero

theorem checkedSqrt_of_nonneg (sqrt : K → K) {value : K} (nonneg : 0 ≤ value) :
    checkedSqrt sqrt value = some (sqrt value) := if_neg (not_lt.2 nonneg)

/-- `Trilateration.intersect` without a result if it divides by zero or takes the root of
a negative number. -/
def intersectChecked (sqrt : K → K) (first second : Circle K) :
    Option (Meeting × List (Point K)) := do
  let dx := first.center.1 - second.center.1
  let dy := first.center.2 - second.center.2
  let dist ← checkedSqrt sqrt (dx * dx + dy * dy)
  if first.radius + second.radius < dist then some (.noIntersect, [])
  else if dist < |first.radius - second.radius| then some (.surrounded, [])
  else if dist = 0 ∧ first.radius = second.radius then some (.coincidence, [])
  else
    let a ← checkedDiv
      (first.radius * first.radius - second.radius * second.radius + dist * dist) (twice dist)
    let h ← checkedSqrt sqrt (first.radius * first.radius - a * a)
    let right := second.center.1 - first.center.1
    let up := second.center.2 - first.center.2
    let cx2 := first.center.1 + (← checkedDiv (a * right) dist)
    let cy2 := first.center.2 + (← checkedDiv (a * up) dist)
    let intersection1 : Point K :=
      (cx2 + (← checkedDiv (h * up) dist), cy2 - (← checkedDiv (h * right) dist))
    let intersection2 : Point K :=
      (cx2 - (← checkedDiv (h * up) dist), cy2 + (← checkedDiv (h * right) dist))
    if dist = first.radius + second.radius then
      some (.intersect, [intersection1, intersection1])
    else some (.intersect, [intersection1, intersection2])

end Checked

/-! ## Circles over the reals -/

section Reals

variable {first second : Circle ℝ}

/-- Every division and every root is defined. -/
theorem intersectChecked_eq (first second : Circle ℝ) :
    intersectChecked Real.sqrt first second = some (intersect Real.sqrt first second) := by
  have root : checkedSqrt Real.sqrt
      ((first.center.1 - second.center.1) * (first.center.1 - second.center.1) +
        (first.center.2 - second.center.2) * (first.center.2 - second.center.2)) =
      some (distance Real.sqrt first.center second.center) :=
    checkedSqrt_of_nonneg _ (add_nonneg (mul_self_nonneg _) (mul_self_nonneg _))
  rw [intersectChecked, intersect, root]
  simp only [Option.bind_eq_bind, Option.bind_some]
  by_cases apart : first.radius + second.radius < distance Real.sqrt first.center second.center
  · rw [if_pos apart, if_pos apart]
  by_cases inside : distance Real.sqrt first.center second.center <
      |first.radius - second.radius|
  · rw [if_neg apart, if_neg apart, if_pos inside, if_pos inside]
  by_cases same : distance Real.sqrt first.center second.center = 0 ∧
      first.radius = second.radius
  · rw [if_neg apart, if_neg apart, if_neg inside, if_neg inside, if_pos same, if_pos same]
  have met : meeting Real.sqrt first second = .intersect :=
    (meeting_eq_intersect_iff _ _ _).2 ⟨not_lt.1 inside, not_lt.1 apart, same⟩
  have positive := distance_pos_of_intersect met
  have height := sub_nonneg.2
    (sq_le_sq_of_meet positive (not_lt.1 inside) (not_lt.1 apart))
  have divisor : 2 * distance Real.sqrt first.center second.center ≠ 0 :=
    mul_ne_zero two_ne_zero positive.ne'
  rw [if_neg apart, if_neg apart, if_neg inside, if_neg inside, if_neg same, if_neg same]
  simp only [twice, checkedDiv_of_ne divisor, checkedDiv_of_ne positive.ne', Option.bind_some,
    checkedSqrt_of_nonneg Real.sqrt height]
  split
  · rfl
  · rfl

/-- A common point is one of the two points of the construction. -/
theorem eq_or_eq_of_onBoth {d a h : ℝ} {center other point : Point ℝ} {radius otherRadius : ℝ}
    (positive : 0 < d) (dist : distance Real.sqrt center other = d)
    (height : a * a + h * h = radius * radius)
    (along : 2 * (a * d) = radius * radius - otherRadius * otherRadius + d * d)
    (onFirst : distance Real.sqrt center point = radius)
    (onSecond : distance Real.sqrt other point = otherRadius) :
    point = (center.1 + a * (other.1 - center.1) / d + h * (other.2 - center.2) / d,
        center.2 + a * (other.2 - center.2) / d - h * (other.1 - center.1) / d) ∨
      point = (center.1 + a * (other.1 - center.1) / d - h * (other.2 - center.2) / d,
        center.2 + a * (other.2 - center.2) / d + h * (other.1 - center.1) / d) := by
  have square := distance_mul_self center other
  have onFirst' := distance_mul_self center point
  have onSecond' := distance_mul_self other point
  rw [dist] at square
  rw [onFirst] at onFirst'
  rw [onSecond] at onSecond'
  obtain ⟨u, v, firstTimes, secondTimes, unit, quotients⟩ :
      ∃ u v, other.1 - center.1 = d * u ∧ other.2 - center.2 = d * v ∧ u * u + v * v = 1 ∧
        ∀ value, value * (other.1 - center.1) / d = value * u ∧
          value * (other.2 - center.2) / d = value * v :=
    exists_direction positive (by linear_combination square)
  have relative : (point.1 - center.1) * (point.1 - center.1) +
      (point.2 - center.2) * (point.2 - center.2) = radius * radius := by
    linear_combination -onFirst'
  have relative' : (point.1 - center.1 - d * u) * (point.1 - center.1 - d * u) +
      (point.2 - center.2 - d * v) * (point.2 - center.2 - d * v) =
        otherRadius * otherRadius := by
    rw [← firstTimes, ← secondTimes]
    linear_combination -onSecond'
  have place := along_of_common positive.ne' unit relative relative' along
  simp only [quotients, Prod.ext_iff]
  obtain ⟨across, upward⟩ | ⟨across, upward⟩ :=
    eq_or_eq_of_common unit relative place height
  · exact .inl ⟨by linarith, by linarith⟩
  · exact .inr ⟨by linarith, by linarith⟩

/-- A point on both circles. -/
def OnBoth (first second : Circle ℝ) (point : Point ℝ) : Prop :=
  distance Real.sqrt first.center point = first.radius ∧
    distance Real.sqrt second.center point = second.radius

/-- What is returned for circles that intersect are their common points. -/
theorem mem_intersect_iff (firstNonneg : 0 ≤ first.radius) (secondNonneg : 0 ≤ second.radius)
    (met : meeting Real.sqrt first second = .intersect) {point : Point ℝ} :
    point ∈ (intersect Real.sqrt first second).2 ↔ OnBoth first second point := by
  constructor
  · exact distance_of_mem_intersect firstNonneg secondNonneg
  · rintro ⟨onFirst, onSecond⟩
    obtain ⟨outside, near, different⟩ := (meeting_eq_intersect_iff _ _ _).1 met
    have positive := distance_pos_of_intersect met
    have height := sq_le_sq_of_meet positive outside near
    have along := two_mul_along first.radius second.radius positive.ne'
    have root := Real.mul_self_sqrt (sub_nonneg.2 height)
    have constructed := eq_or_eq_of_onBoth positive rfl (by rw [root]; ring) along onFirst
      onSecond
    rw [intersect]
    dsimp only
    rw [if_neg (not_lt.2 near), if_neg (not_lt.2 outside), if_neg different]
    split
    · next touching =>
        -- the height is zero, so both points are the first one
        rw [along_of_touching positive touching, sub_self, Real.sqrt_zero] at constructed ⊢
        simpa using constructed
    · exact List.mem_pair.2 constructed

theorem onBoth_comm {point : Point ℝ} : OnBoth first second point ↔ OnBoth second first point :=
  and_comm

theorem meeting_intersect_comm :
    meeting Real.sqrt first second = .intersect ↔ meeting Real.sqrt second first = .intersect := by
  rw [meeting_eq_intersect_iff, meeting_eq_intersect_iff, distance_comm second.center,
    abs_sub_comm second.radius, add_comm second.radius, @eq_comm ℝ second.radius]

/-- The four states by the distance of the centres and the radii. -/
theorem meeting_iff (firstNonneg : 0 ≤ first.radius) (secondNonneg : 0 ≤ second.radius) :
    (meeting Real.sqrt first second = .noIntersect ↔
        first.radius + second.radius < distance Real.sqrt first.center second.center) ∧
      (meeting Real.sqrt first second = .surrounded ↔
        distance Real.sqrt first.center second.center < |first.radius - second.radius|) ∧
      (meeting Real.sqrt first second = .coincidence ↔
        distance Real.sqrt first.center second.center = 0 ∧ first.radius = second.radius) := by
  have between : |first.radius - second.radius| ≤ first.radius + second.radius :=
    abs_sub_le_iff.2 ⟨by linarith, by linarith⟩
  rw [meeting_eq]
  by_cases apart : first.radius + second.radius < distance Real.sqrt first.center second.center
  · have outside := not_lt.2 (between.trans apart.le)
    have positive := (add_nonneg firstNonneg secondNonneg).trans_lt apart
    simp [apart, outside, positive.ne']
  by_cases inside : distance Real.sqrt first.center second.center <
      |first.radius - second.radius|
  · have different : ¬ (distance Real.sqrt first.center second.center = 0 ∧
        first.radius = second.radius) := by
      rintro ⟨_, same⟩
      rw [same, sub_self, abs_zero] at inside
      exact absurd (distance_nonneg _ _) (not_le.2 inside)
    rw [if_neg apart, if_pos inside]
    simp [apart, inside, different]
  rw [if_neg apart, if_neg inside]
  split
  · next same => simp [same, secondNonneg]
  · next different => simp [apart, inside, different]

/-- The intersection of two circles is exact. -/
theorem intersect_exact (firstNonneg : 0 ≤ first.radius) (secondNonneg : 0 ≤ second.radius) :
    intersectChecked Real.sqrt first second = some (intersect Real.sqrt first second) ∧
      (meeting Real.sqrt first second = .noIntersect ↔
        first.radius + second.radius < distance Real.sqrt first.center second.center) ∧
      (meeting Real.sqrt first second = .surrounded ↔
        distance Real.sqrt first.center second.center < |first.radius - second.radius|) ∧
      (meeting Real.sqrt first second = .coincidence ↔
        distance Real.sqrt first.center second.center = 0 ∧ first.radius = second.radius) ∧
      (meeting Real.sqrt first second = .intersect ↔
        |first.radius - second.radius| ≤ distance Real.sqrt first.center second.center ∧
          distance Real.sqrt first.center second.center ≤ first.radius + second.radius ∧
          ¬ (distance Real.sqrt first.center second.center = 0 ∧
            first.radius = second.radius)) ∧
      (meeting Real.sqrt first second = .intersect →
        (intersect Real.sqrt first second).2.length = 2 ∧
          (∀ point, point ∈ (intersect Real.sqrt first second).2 ↔
            distance Real.sqrt first.center point = first.radius ∧
              distance Real.sqrt second.center point = second.radius) ∧
          ∀ point, point ∈ (intersect Real.sqrt first second).2 ↔
            point ∈ (intersect Real.sqrt second first).2) := by
  obtain ⟨apart, inside, same⟩ := meeting_iff firstNonneg secondNonneg
  refine ⟨intersectChecked_eq first second, apart, inside, same,
    meeting_eq_intersect_iff Real.sqrt first second, fun met => ⟨?_, ?_, ?_⟩⟩
  · rw [(twoOrNone_intersect Real.sqrt first second).length_eq]
    exact if_pos met
  · exact fun point => mem_intersect_iff firstNonneg secondNonneg met
  · intro point
    rw [mem_intersect_iff firstNonneg secondNonneg met, onBoth_comm,
      mem_intersect_iff secondNonneg firstNonneg (meeting_intersect_comm.1 met)]

/-- The common points of two circles around points of an axis. -/
theorem intersect_exact_onAxis :
    ((3, 4) : Point ℝ) ∈ (intersect Real.sqrt (natOnAxis 0 5) (natOnAxis 6 5)).2 := by
  have nonneg : 0 ≤ (natOnAxis 0 5).radius := Nat.cast_nonneg 5
  have nonneg' : 0 ≤ (natOnAxis 6 5).radius := Nat.cast_nonneg 5
  have met : meeting Real.sqrt (natOnAxis 0 5) (natOnAxis 6 5) = .intersect := by
    rw [natOnAxis_eq, natOnAxis_eq, meeting_onAxis]
    norm_num
  apply (((intersect_exact nonneg nonneg').2.2.2.2.2 met).2.1 (3, 4)).2
  constructor
  · apply distance_eq_of_mul_self nonneg
    norm_num
  · apply distance_eq_of_mul_self nonneg'
    norm_num

end Reals

end IotLab.Localization
