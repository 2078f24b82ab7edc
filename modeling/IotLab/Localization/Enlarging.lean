import IotLab.Localization.Resizing

/-!
# The circles without intersections

The branch without points enlarges the circles 0 and 1 as long as they are apart, and
gives circle 2 a radius from that of circle 1 when it is apart from circle 0.  Circles
that are nested are left as they are.
-/

namespace IotLab.Localization

open IotLab.Library

section Steps

variable {K : Type*} [Field K] [LinearOrder K] (sqrt : K → K) (factor : K)

/-- Circle 2 after a step. -/
def nextThird (first second third : Circle K) : Circle K :=
  if first.radius + third.radius < distance sqrt first.center third.center then
    third.setRadius (second.radius * factor)
  else third

variable {sqrt} {first second third : Circle K}

omit [Field K] [LinearOrder K] in
theorem exists_vector (circles : Fin 3 → Circle K) :
    ∃ first second third, circles = ![first, second, third] := by
  refine ⟨circles 0, circles 1, circles 2, ?_⟩
  funext index
  fin_cases index
  all_goals rfl

theorem withRadius_zero (radius : K) :
    withRadius ![first, second, third] 0 radius = ![first.setRadius radius, second, third] := by
  funext index
  fin_cases index
  all_goals rfl

theorem withRadius_one (radius : K) :
    withRadius ![first, second, third] 1 radius = ![first, second.setRadius radius, third] := by
  funext index
  fin_cases index
  all_goals rfl

theorem withRadius_two (radius : K) :
    withRadius ![first, second, third] 2 radius = ![first, second, third.setRadius radius] := by
  funext index
  fin_cases index
  all_goals rfl

/-- A step whose first half is known. -/
theorem enlargeStep_of_firstHalf {circles enlarged : Fin 3 → Circle K}
    (half : (if (circles 0).radius + (circles 1).radius <
        distance sqrt (circles 0).center (circles 1).center then
      withRadius (withRadius circles 0 ((circles 0).radius * (5 / 4))) 1
        ((circles 1).radius * (5 / 4))
      else circles) = enlarged) :
    enlargeStep sqrt circles =
      if (enlarged 0).radius + (enlarged 2).radius <
          distance sqrt (enlarged 0).center (enlarged 2).center then
        withRadius enlarged 2 ((enlarged 1).radius * (5 / 4))
      else enlarged := by
  rw [← half]
  rfl

theorem secondHalf_eq :
    (if first.radius + third.radius < distance sqrt first.center third.center then
      withRadius ![first, second, third] 2 (second.radius * (5 / 4))
      else ![first, second, third]) =
      ![first, second, nextThird sqrt (5 / 4) first second third] := by
  rw [nextThird]
  split
  · exact withRadius_two _
  · rfl

theorem enlargeStep_of_apart
    (apart : first.radius + second.radius < distance sqrt first.center second.center) :
    enlargeStep sqrt ![first, second, third] =
      ![first.setRadius (first.radius * (5 / 4)), second.setRadius (second.radius * (5 / 4)),
        nextThird sqrt (5 / 4) (first.setRadius (first.radius * (5 / 4)))
          (second.setRadius (second.radius * (5 / 4))) third] := by
  have half : withRadius (withRadius ![first, second, third] 0 (first.radius * (5 / 4))) 1
      (second.radius * (5 / 4)) = ![first.setRadius (first.radius * (5 / 4)),
        second.setRadius (second.radius * (5 / 4)), third] := by
    rw [withRadius_zero, withRadius_one]
  rw [enlargeStep_of_firstHalf ((if_pos apart).trans half)]
  exact secondHalf_eq

theorem enlargeStep_of_near
    (near : distance sqrt first.center second.center ≤ first.radius + second.radius) :
    enlargeStep sqrt ![first, second, third] =
      ![first, second, nextThird sqrt (5 / 4) first second third] := by
  rw [enlargeStep_of_firstHalf (if_neg (not_lt.2 near))]
  exact secondHalf_eq

theorem nextThird_nextThird :
    nextThird sqrt factor first second (nextThird sqrt factor first second third) =
      nextThird sqrt factor first second third := by
  by_cases apart : first.radius + third.radius < distance sqrt first.center third.center
  · have once : nextThird sqrt factor first second third =
        third.setRadius (second.radius * factor) := if_pos apart
    rw [once, nextThird]
    split
    · rfl
    · rfl
  · have once : nextThird sqrt factor first second third = third := if_neg apart
    rw [once, once]

theorem iterate_enlargeStep_of_near
    (near : distance sqrt first.center second.center ≤ first.radius + second.radius)
    (count : ℕ) :
    (enlargeStep sqrt)^[count + 1] ![first, second, third] =
      ![first, second, nextThird sqrt (5 / 4) first second third] := by
  induction count with
  | zero => exact enlargeStep_of_near near
  | succ count ih =>
      rw [Function.iterate_succ_apply', ih, enlargeStep_of_near near, nextThird_nextThird]

end Steps

/-! ## The radii after some steps -/

section Growth

variable {K : Type*} [Field K] [LinearOrder K] (sqrt : K → K) (factor : K)
variable (first second third : Circle K)

/-- The radius of circle 2 after steps with the circles 0 and 1 apart. -/
def thirdRadius : ℕ → K
  | 0 => third.radius
  | count + 1 =>
      if first.radius * factor ^ (count + 1) + thirdRadius count <
          distance sqrt first.center third.center then
        second.radius * factor ^ (count + 2)
      else thirdRadius count

/-- The circles after steps with the circles 0 and 1 apart. -/
def grown (count : ℕ) : Fin 3 → Circle K :=
  ![first.setRadius (first.radius * factor ^ count),
    second.setRadius (second.radius * factor ^ count),
    third.setRadius (thirdRadius sqrt factor first second third count)]

variable {sqrt factor first second third}

theorem grown_zero
    (nonneg : 0 ≤ first.radius ∧ 0 ≤ second.radius ∧ 0 ≤ third.radius) :
    grown sqrt factor first second third 0 = ![first, second, third] := by
  rw [grown, thirdRadius, pow_zero, mul_one, mul_one, setRadius_of_nonneg nonneg.1,
    setRadius_of_nonneg nonneg.2.1, setRadius_of_nonneg nonneg.2.2]

variable [IsStrictOrderedRing K]

theorem setRadius_power {circle : Circle K} (nonneg : 0 ≤ circle.radius) (count : ℕ) :
    (circle.setRadius (circle.radius * (5 / 4) ^ count)).radius =
      circle.radius * (5 / 4) ^ count :=
  max_eq_right (mul_nonneg nonneg (by positivity))

theorem thirdRadius_nonneg
    (nonneg : 0 ≤ first.radius ∧ 0 ≤ second.radius ∧ 0 ≤ third.radius) (count : ℕ) :
    0 ≤ thirdRadius sqrt (5 / 4) first second third count := by
  induction count with
  | zero => exact nonneg.2.2
  | succ count ih =>
      rw [thirdRadius]
      split
      · exact mul_nonneg nonneg.2.1 (by positivity)
      · exact ih

/-- Circle 2 is given its next radius. -/
theorem nextThird_grown
    (nonneg : 0 ≤ first.radius ∧ 0 ≤ second.radius ∧ 0 ≤ third.radius) (count : ℕ) :
    nextThird sqrt (5 / 4) (first.setRadius (first.radius * (5 / 4) ^ (count + 1)))
        (second.setRadius (second.radius * (5 / 4) ^ (count + 1)))
        (third.setRadius (thirdRadius sqrt (5 / 4) first second third count)) =
      third.setRadius (thirdRadius sqrt (5 / 4) first second third (count + 1)) := by
  have same : (third.setRadius (thirdRadius sqrt (5 / 4) first second third count)).radius =
      thirdRadius sqrt (5 / 4) first second third count :=
    max_eq_right (thirdRadius_nonneg nonneg count)
  rw [nextThird, thirdRadius, setRadius_power nonneg.1, setRadius_power nonneg.2.1, same,
    mul_assoc, ← pow_succ]
  split
  · next apart => exact (congrArg third.setRadius (if_pos apart)).symm
  · next near => exact (congrArg third.setRadius (if_neg near)).symm

/-- One step more, as long as the circles 0 and 1 are apart. -/
theorem enlargeStep_grown
    (nonneg : 0 ≤ first.radius ∧ 0 ≤ second.radius ∧ 0 ≤ third.radius) {count : ℕ}
    (apart : (first.radius + second.radius) * (5 / 4) ^ count <
      distance sqrt first.center second.center) :
    enlargeStep sqrt (grown sqrt (5 / 4) first second third count) =
      grown sqrt (5 / 4) first second third (count + 1) := by
  have firstRadius := setRadius_power nonneg.1 count
  have secondRadius := setRadius_power nonneg.2.1 count
  have apart' : (first.setRadius (first.radius * (5 / 4) ^ count)).radius +
      (second.setRadius (second.radius * (5 / 4) ^ count)).radius <
        distance sqrt first.center second.center := by
    rw [firstRadius, secondRadius, ← add_mul]
    exact apart
  rw [grown, enlargeStep_of_apart apart', firstRadius, secondRadius, mul_assoc, ← pow_succ,
    mul_assoc, ← pow_succ, grown, ← nextThird_grown nonneg]
  rfl

theorem iterate_enlargeStep_of_apart
    (nonneg : 0 ≤ first.radius ∧ 0 ≤ second.radius ∧ 0 ≤ third.radius) {count : ℕ}
    (apart : ∀ before < count, (first.radius + second.radius) * (5 / 4) ^ before <
      distance sqrt first.center second.center) :
    (enlargeStep sqrt)^[count] ![first, second, third] =
      grown sqrt (5 / 4) first second third count := by
  induction count with
  | zero => exact (grown_zero nonneg).symm
  | succ count ih =>
      rw [Function.iterate_succ_apply',
        ih fun before less => apart before (Nat.lt_succ_of_lt less)]
      exact enlargeStep_grown nonneg (apart count (Nat.lt_succ_self count))

/-- After the steps with the circles 0 and 1 apart nothing changes. -/
theorem iterate_enlargeStep_grown
    (nonneg : 0 ≤ first.radius ∧ 0 ≤ second.radius ∧ 0 ≤ third.radius) {count : ℕ}
    (near : distance sqrt first.center second.center ≤
      (first.radius + second.radius) * (5 / 4) ^ (count + 1)) (more : ℕ) :
    (enlargeStep sqrt)^[more] (grown sqrt (5 / 4) first second third (count + 1)) =
      grown sqrt (5 / 4) first second third (count + 1) := by
  have near' : distance sqrt first.center second.center ≤
      (first.setRadius (first.radius * (5 / 4) ^ (count + 1))).radius +
        (second.setRadius (second.radius * (5 / 4) ^ (count + 1))).radius := by
    rw [setRadius_power nonneg.1, setRadius_power nonneg.2.1, ← add_mul]
    exact near
  cases more with
  | zero => rfl
  | succ more =>
      rw [grown, iterate_enlargeStep_of_near near', ← nextThird_grown nonneg,
        nextThird_nextThird]

/-- A property comes to hold if it does after steps with the circles 0 and 1 apart. -/
theorem exists_iterate_iff
    (nonneg : 0 ≤ first.radius ∧ 0 ≤ second.radius ∧ 0 ≤ third.radius)
    (apart : first.radius + second.radius < distance sqrt first.center second.center)
    (holds : (Fin 3 → Circle K) → Prop) :
    (∃ count, holds ((enlargeStep sqrt)^[count + 1] ![first, second, third])) ↔
      ∃ count, (first.radius + second.radius) * (5 / 4) ^ count <
          distance sqrt first.center second.center ∧
        holds (grown sqrt (5 / 4) first second third (count + 1)) := by
  have sum : 0 ≤ first.radius + second.radius := add_nonneg nonneg.1 nonneg.2.1
  constructor
  · rintro ⟨count, here⟩
    by_cases grows : ∀ before < count + 1, (first.radius + second.radius) * (5 / 4) ^ before <
        distance sqrt first.center second.center
    · rw [iterate_enlargeStep_of_apart nonneg grows] at here
      exact ⟨count, grows count (Nat.lt_succ_self count), here⟩
    · simp only [not_forall] at grows
      obtain ⟨some_, within, near⟩ := grows
      have start : (first.radius + second.radius) * (5 / 4) ^ 0 <
          distance sqrt first.center second.center := by
        rw [pow_zero, mul_one]
        exact apart
      -- the last of the steps that enlarge the circles
      obtain ⟨last, less, still, ends⟩ := exists_last (fun count =>
        (first.radius + second.radius) * (5 / 4) ^ count <
          distance sqrt first.center second.center) start near
      obtain ⟨more, rfl⟩ := Nat.exists_eq_add_of_le' (show last ≤ count by omega)
      refine ⟨last, still last (Nat.lt_succ_self last), ?_⟩
      rw [add_assoc, Function.iterate_add_apply, iterate_enlargeStep_of_apart nonneg still,
        iterate_enlargeStep_grown nonneg (not_lt.1 ends)] at here
      exact here
  · rintro ⟨count, apart', here⟩
    refine ⟨count, ?_⟩
    rw [iterate_enlargeStep_of_apart nonneg]
    · exact here
    · intro before less
      apply lt_of_le_of_lt _ apart'
      gcongr
      · norm_num
      · exact Nat.le_of_lt_succ less

end Growth

end IotLab.Localization
