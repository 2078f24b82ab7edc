import IotLab.Library.BoundedLoop
import IotLab.Localization.Meetings
import Mathlib.Tactic.Positivity

/-!
# The loops that change radii

Both loops repeat a step until a circle intersects one of the others.  The circle of the
branch for two points is resized by powers of its coefficient, and no point is lost: only
intersections are replaced that have the resized circle as their first one.
-/

namespace IotLab.Localization

open IotLab.Library

section Loops

variable {K : Type*} [Field K] [LinearOrder K] (sqrt : K → K)

/-- A circle intersects one of the other two. -/
def Meets (index : Fin 3) (circles : Fin 3 → Circle K) : Prop :=
  ∃ other, other ≠ index ∧ meeting sqrt (circles index) (circles other) = .intersect

instance (index : Fin 3) : DecidablePred (Meets sqrt index) :=
  fun _ => inferInstanceAs (Decidable (∃ _, _ ∧ _))

/-- The circles with another radius of one of them. -/
def withRadius (circles : Fin 3 → Circle K) (index : Fin 3) (radius : K) :
    Fin 3 → Circle K :=
  Function.update circles index ((circles index).setRadius radius)

/-- One step of the loop for the isolated circle. -/
def resizeStep (coeff : K) (index : Fin 3) (circles : Fin 3 → Circle K) :
    Fin 3 → Circle K :=
  withRadius circles index ((circles index).radius * coeff)

/-- The loop for the isolated circle ends. -/
def EndsResize (index : Fin 3) (circles : Fin 3 → Circle K) : Prop :=
  Meets sqrt index circles ∨ ¬ 0 < (circles index).radius

instance (index : Fin 3) : DecidablePred (EndsResize sqrt index) :=
  fun _ => inferInstanceAs (Decidable (_ ∨ _))

variable {sqrt}

theorem ne_index_iff : ∀ index other : Fin 3,
    other ≠ index ↔ other = index + 2 ∨ other = index + 1 := by
  decide

theorem meets_iff {index : Fin 3} {circles : Fin 3 → Circle K} :
    Meets sqrt index circles ↔
      meeting sqrt (circles index) (circles (index + 2)) = .intersect ∨
        meeting sqrt (circles index) (circles (index + 1)) = .intersect := by
  simp only [Meets, ne_index_iff, or_and_right, exists_or, exists_eq_left]

theorem resize_eq (coeff : K) (index : Fin 3) (again : ℕ) (circles : Fin 3 → Circle K) :
    (resize sqrt coeff index again circles).1 =
      repeatUntil (resizeStep coeff index) (EndsResize sqrt index) again circles := by
  induction again generalizing circles with
  | zero => rfl
  | succ again ih =>
      rw [resize, repeatUntil]
      by_cases ends : EndsResize sqrt index (resizeStep coeff index circles)
      · rw [if_pos ends]
        exact congrArg Prod.fst (if_pos (or_assoc.1 (ends.imp_left meets_iff.1)))
      · rw [if_neg ends, ← ih]
        exact congrArg Prod.fst (if_neg fun stop =>
          ends ((or_assoc.2 stop).imp_left meets_iff.2))

theorem enlarge_eq (again : ℕ) (circles : Fin 3 → Circle K) :
    (enlarge sqrt again circles).1 =
      repeatUntil (enlargeStep sqrt) (Meets sqrt 0) again circles := by
  induction again generalizing circles with
  | zero => rfl
  | succ again ih =>
      rw [enlarge, repeatUntil]
      by_cases met : Meets sqrt 0 (enlargeStep sqrt circles)
      · rw [if_pos met]
        exact congrArg Prod.fst (if_pos (meets_iff.1 met).symm)
      · rw [if_neg met, ← ih]
        exact congrArg Prod.fst (if_neg fun stop => met (meets_iff.2 stop.symm))

theorem finds_iff_meets (state : Correction K) (index : Fin 3) :
    state.Finds sqrt index ↔ Meets sqrt index (state.resized sqrt index).1 := by
  obtain ⟨_, first, second⟩ := resize_spec sqrt (coefficient sqrt state.circles index)
    index 10 state.circles
  rw [Correction.Finds, Correction.resized, first, second, meets_iff]
  rfl

theorem circles_afterResize (state : Correction K) (index : Fin 3) :
    (state.afterResize sqrt index).circles = (state.resized sqrt index).1 := rfl

end Loops

/-! ## The radii -/

section Radii

variable {K : Type*} [Field K] [LinearOrder K] {sqrt : K → K}
variable {circles : Fin 3 → Circle K} {index : Fin 3} {coeff : K}

theorem setRadius_of_nonneg {circle : Circle K} (nonneg : 0 ≤ circle.radius) :
    circle.setRadius circle.radius = circle := by
  rw [Circle.setRadius, max_eq_right nonneg]

theorem withRadius_self (circles : Fin 3 → Circle K) (index : Fin 3) (radius : K) :
    withRadius circles index radius index = (circles index).setRadius radius :=
  Function.update_self _ _ _

theorem withRadius_of_ne {other : Fin 3} (different : other ≠ index) (radius : K) :
    withRadius circles index radius other = circles other :=
  Function.update_of_ne different _ _

theorem withRadius_withRadius (radius again : K) :
    withRadius (withRadius circles index radius) index again =
      withRadius circles index again := by
  rw [withRadius, withRadius_self, withRadius, Function.update_idem]
  rfl

theorem withRadius_radius (nonneg : 0 ≤ (circles index).radius) :
    withRadius circles index (circles index).radius = circles := by
  rw [withRadius, setRadius_of_nonneg nonneg, Function.update_eq_self]

theorem coefficient_cases (sqrt : K → K) (circles : Fin 3 → Circle K) (index : Fin 3) :
    coefficient sqrt circles index = 3 / 4 ∨ coefficient sqrt circles index = 5 / 4 := by
  rw [coefficient]
  split
  · exact .inl rfl
  · exact .inr rfl

/-- The number of repetitions of the loop for the isolated circle. -/
def Resizings (sqrt : K → K) (index : Fin 3) (circles : Fin 3 → Circle K) (count : ℕ) :
    Prop :=
  Repeats (resizeStep (coefficient sqrt circles index) index) (EndsResize sqrt index) 10
    circles count

theorem exists_resizings (sqrt : K → K) (index : Fin 3) (circles : Fin 3 → Circle K) :
    ∃ count, Resizings sqrt index circles count := by
  obtain ⟨count, repeats, _⟩ := exists_repeats
    (resizeStep (coefficient sqrt circles index) index) (EndsResize sqrt index) 10 circles
  exact ⟨count, repeats⟩

variable [IsStrictOrderedRing K]

theorem coefficient_pos (sqrt : K → K) (circles : Fin 3 → Circle K) (index : Fin 3) :
    0 < coefficient sqrt circles index := by
  cases coefficient_cases sqrt circles index with
  | inl shrinks =>
      rw [shrinks]
      positivity
  | inr grows =>
      rw [grows]
      positivity

theorem iterate_resizeStep (nonneg : 0 ≤ (circles index).radius) (positive : 0 < coeff)
    (count : ℕ) :
    (resizeStep coeff index)^[count] circles =
      withRadius circles index ((circles index).radius * coeff ^ count) := by
  induction count with
  | zero => rw [pow_zero, mul_one, withRadius_radius nonneg, Function.iterate_zero, id]
  | succ count ih =>
      have before : 0 ≤ (circles index).radius * coeff ^ count := by positivity
      rw [Function.iterate_succ_apply', ih, resizeStep, withRadius_withRadius,
        withRadius_self, Circle.setRadius, max_eq_right before, pow_succ, mul_assoc]

theorem resized_circles {state : Correction K}
    (nonneg : 0 ≤ (state.circles index).radius) {count : ℕ}
    (resizings : Resizings sqrt index state.circles count) :
    (state.resized sqrt index).1 = withRadius state.circles index
      ((state.circles index).radius * coefficient sqrt state.circles index ^ (count + 1)) := by
  obtain ⟨other, repeats, same⟩ := exists_repeats
    (resizeStep (coefficient sqrt state.circles index) index) (EndsResize sqrt index) 10
    state.circles
  rw [Correction.resized, resize_eq, same, resizings.unique repeats,
    iterate_resizeStep nonneg (coefficient_pos sqrt _ _)]

/-- The loop finds an intersection if there is one for any of its eleven radii. -/
theorem finds_iff (state : Correction K) (nonneg : 0 ≤ (state.circles index).radius) :
    state.Finds sqrt index ↔ ∃ count ≤ 10, Meets sqrt index
      (withRadius state.circles index ((state.circles index).radius *
        coefficient sqrt state.circles index ^ (count + 1))) := by
  obtain ⟨last, resizings⟩ := exists_resizings sqrt index state.circles
  have positive := coefficient_pos sqrt state.circles index
  rw [finds_iff_meets, resized_circles nonneg resizings]
  constructor
  · exact fun met => ⟨last, resizings.bound, met⟩
  · rintro ⟨count, bound, met⟩
    obtain zero | grows := nonneg.eq_or_lt
    · -- a circle without radius keeps it
      rw [← zero, zero_mul] at met ⊢
      exact met
    · have ends := (stop_repeatUntil_iff _ _).2 ⟨count, bound, show EndsResize sqrt index
        ((resizeStep (coefficient sqrt state.circles index) index)^[count + 1]
          state.circles) from .inl (by rwa [iterate_resizeStep nonneg positive])⟩
      rw [← resize_eq, ← Correction.resized, resized_circles nonneg resizings] at ends
      apply ends.resolve_right
      rw [withRadius_self, Circle.setRadius, not_not]
      exact lt_max_of_lt_right (by positivity)

end Radii

/-! ## Radii are not negative -/

section Signs

variable {K : Type*} [Field K] [LinearOrder K] {sqrt : K → K}
variable {circles : Fin 3 → Circle K}

theorem withRadius_nonneg (nonneg : ∀ index, 0 ≤ (circles index).radius) (one : Fin 3)
    (radius : K) (index : Fin 3) : 0 ≤ (withRadius circles one radius index).radius := by
  by_cases same : index = one
  · rw [same, withRadius_self]
    exact le_max_left 0 radius
  · rw [withRadius_of_ne same]
    exact nonneg index

theorem enlargeStep_nonneg (nonneg : ∀ index, 0 ≤ (circles index).radius) :
    ∀ index, 0 ≤ (enlargeStep sqrt circles index).radius := by
  have enlarged : ∀ {circles : Fin 3 → Circle K}, (∀ index, 0 ≤ (circles index).radius) →
      ∀ index, 0 ≤ ((if (circles 0).radius + (circles 2).radius <
          distance sqrt (circles 0).center (circles 2).center then
        withRadius circles 2 ((circles 1).radius * (5 / 4)) else circles) index).radius := by
    intro circles nonneg
    split
    · exact withRadius_nonneg nonneg _ _
    · exact nonneg
  apply enlarged
  split
  · exact withRadius_nonneg (withRadius_nonneg nonneg 0 _) 1 _
  · exact nonneg

theorem iterate_enlargeStep_nonneg (nonneg : ∀ index, 0 ≤ (circles index).radius)
    (count : ℕ) : ∀ index, 0 ≤ ((enlargeStep sqrt)^[count] circles index).radius := by
  induction count with
  | zero => exact nonneg
  | succ count ih =>
      rw [Function.iterate_succ_apply']
      exact enlargeStep_nonneg ih

theorem Level.radius_nonneg (nonneg : ∀ index, 0 ≤ (circles index).radius) {depth : ℕ}
    {state : Correction K} (level : Level sqrt circles depth state) :
    ∀ index, 0 ≤ (state.circles index).radius := by
  induction level with
  | start => exact nonneg
  | @next depth state _ _ next ih =>
      obtain ⟨one, _, _, _, _, _, rfl⟩ | ⟨_, rfl⟩ := nextLevel_cases next
      · obtain ⟨⟨radius, same⟩, _⟩ := resize_spec sqrt
          (coefficient sqrt state.circles one) one 10 state.circles
        intro index
        rw [circles_afterResize, Correction.resized, same]
        exact withRadius_nonneg ih one radius index
      · obtain ⟨count, _, same⟩ := exists_repeats (enlargeStep sqrt) (Meets sqrt 0) 10
          state.circles
        intro index
        rw [Correction.afterEnlarge, enlarge_eq, same]
        exact iterate_enlargeStep_nonneg ih _ index

end Signs

/-! ## The points -/

section Points

variable {K : Type*}

theorem first_ne_of_isolatedIndex {intersections : List (Intersection K)} {index : Fin 3}
    (isolated : isolatedIndex intersections = some index) {inter : Intersection K}
    (member : inter ∈ intersections) (met : inter.state = .intersect) :
    inter.first ≠ index := by
  have free := List.find?_some isolated
  rw [Bool.not_eq_true', List.any_eq_false] at free
  intro same
  exact free inter member (by simp [met, same])

variable [Field K] [LinearOrder K] {sqrt : K → K}

/-- The branch for two points keeps the points. -/
theorem crossings_subset_afterResize {circles : Fin 3 → Circle K} {depth : ℕ}
    {state : Correction K} (level : Level sqrt circles depth state) {index : Fin 3}
    (isolated : isolatedIndex state.intersections = some index) :
    state.crossings ⊆ (state.afterResize sqrt index).crossings := by
  obtain ⟨met, same, sound⟩ := level.cached
  obtain ⟨_, first, second⟩ := resize_spec sqrt (coefficient sqrt state.circles index)
    index 10 state.circles
  intro crossing member
  obtain ⟨inter, among, point⟩ := List.mem_flatMap.1 member
  refine List.mem_flatMap.2 ⟨inter, List.mem_map.2 ⟨inter, among, ?_⟩, point⟩
  have intersects : inter.state = .intersect := by
    rw [same] at among
    obtain ⟨pair, _, rfl⟩ := List.mem_map.1 among
    cases sound pair with
    | inl two => exact two.1
    | inr none =>
        rw [none.2] at point
        cases point
  have different := first_ne_of_isolatedIndex isolated among intersects
  have other : inter.sameCircles (state.resized sqrt index).2.1 = false := by
    rw [Correction.resized, first]
    simp [Intersection.sameCircles, meet, different]
  have other' : inter.sameCircles (state.resized sqrt index).2.2 = false := by
    rw [Correction.resized, second]
    simp [Intersection.sameCircles, meet, different]
  rw [other, other']
  rfl

theorem nextLevel_of_crossings {circles : Fin 3 → Circle K} {depth : ℕ}
    {state : Correction K} (level : Level sqrt circles depth state)
    (points : state.crossings ≠ []) {after : ℕ × Correction K}
    (next : nextLevel sqrt depth state = some after) :
    depth < 10 ∧ after.1 = depth + 1 ∧ after.2.crossings ≠ [] := by
  obtain ⟨index, _, _, isolated, _, shallow, rfl⟩ | ⟨zero, _⟩ := nextLevel_cases next
  · refine ⟨shallow, rfl, fun none => points (List.subset_nil.1 ?_)⟩
    exact none ▸ crossings_subset_afterResize level isolated
  · exact absurd (List.length_eq_zero_iff.1 zero) points

end Points

end IotLab.Localization
