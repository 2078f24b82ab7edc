import IotLab.Localization.Enlarging

/-!
# The cached intersections and the circles

After radii have changed, two of the three intersections are computed again.  The branch
without points skips the pair of the circles 1 and 2.  The branch for two points computes
the pairs of the resized circle, but they are put back in the order of the circles only
if that circle comes first: after circle 1 has been resized the pair of the circles 0
and 1 stays as it was.
-/

namespace IotLab.Localization

open IotLab.Library

section Cache

variable {K : Type*} [Field K] [LinearOrder K] (sqrt : K → K)

/-- The list holds the intersections of the current circles. -/
def Fresh (state : Correction K) : Prop :=
  state.intersections = cached (pairMeetings sqrt state.circles)

/-- At every call the list holds the intersections of the circles at that time. -/
def CacheMatches (circles : Fin 3 → Circle K) : Prop :=
  ∀ depth state, Level sqrt circles depth state → Fresh sqrt state

/-- The circles 0 and 1 meet in the same way after circle 1 has been resized: it has no
radius, or they have no points before and after. -/
inductive KeepsResized (circles : Fin 3 → Circle K) : Prop where
  | noRadius (zero : (circles 1).radius = 0)
  | noPoints (none : meeting sqrt (circles 0) (circles 1) ≠ .intersect)
      (same : ∀ count, Resizings sqrt 1 circles count →
        meeting sqrt (circles 0) ((circles 1).setRadius ((circles 1).radius *
          coefficient sqrt circles 1 ^ (count + 1))) = meeting sqrt (circles 0) (circles 1))

/-- The circles 1 and 2 meet in the same way after the circles have been enlarged. -/
structure KeepsEnlarged (circles : Fin 3 → Circle K) : Prop where
  same : ∀ count, Repeats (enlargeStep sqrt) (Meets sqrt 0) 10 circles count →
    meeting sqrt ((enlargeStep sqrt)^[count + 1] circles 1)
      ((enlargeStep sqrt)^[count + 1] circles 2) = meeting sqrt (circles 1) (circles 2)

/-- The pair that a step does not compute again meets in the same way after it. -/
structure KeepsSkipped (state : Correction K) : Prop where
  resized : state.crossings.length = 2 → isolatedIndex state.intersections = some 1 →
    KeepsResized sqrt state.circles
  enlarged : state.crossings.length = 0 → KeepsEnlarged sqrt state.circles

/-! ## The pairs that are computed again -/

variable {sqrt}

omit [Field K] [LinearOrder K] in
theorem cached_eq_iff {met met' : Fin 3 × Fin 3 → Meeting × List (Point K)} :
    cached met = cached met' ↔ ∀ pair ∈ circlePairs, met pair = met' pair := by
  rw [cached, cached, List.map_inj_left]
  constructor
  · intro same pair member
    have fields := same pair member
    rw [Intersection.mk.injEq] at fields
    exact Prod.ext fields.2.2.1 fields.2.2.2
  · intro same pair member
    rw [same pair member]

omit [Field K] [LinearOrder K] in
theorem replaced_eq_iff {replaced : Fin 3 × Fin 3 → Prop} [DecidablePred replaced]
    {met met' : Fin 3 × Fin 3 → Meeting × List (Point K)} :
    (cached fun pair => if replaced pair then met' pair else met pair) = cached met' ↔
      ∀ pair ∈ circlePairs, ¬ replaced pair → met pair = met' pair := by
  rw [cached_eq_iff]
  apply forall₂_congr
  intro pair _
  by_cases new : replaced pair
  · rw [if_pos new]
    exact iff_of_true rfl fun old => absurd new old
  · rw [if_neg new]
    exact ⟨fun same _ => same, fun same => same new⟩

theorem fst_ne_snd : ∀ pair ∈ circlePairs, pair.1 ≠ pair.2 := by decide

theorem not_replaced_iff : ∀ index : Fin 3, ∀ pair ∈ circlePairs,
    ¬ (pair = (index, index + 2) ∨ pair = (index, index + 1)) ↔ pair.1 ≠ index := by
  decide

/-- Only the pairs with the resized circle as their second one are skipped. -/
theorem fresh_afterResize_iff {state : Correction K} (fresh : Fresh sqrt state)
    (index : Fin 3) :
    Fresh sqrt (state.afterResize sqrt index) ↔ ∀ pair ∈ circlePairs, pair.2 = index →
      pairMeetings sqrt state.circles pair =
        pairMeetings sqrt (state.resized sqrt index).1 pair := by
  rw [Fresh, intersections_afterResize fresh, circles_afterResize, replaced_eq_iff]
  apply forall₂_congr
  intro pair member
  rw [not_replaced_iff index pair member]
  by_cases last : pair.2 = index
  · have different : pair.1 ≠ index := last ▸ fst_ne_snd pair member
    exact ⟨fun same _ => same different, fun same _ => same last⟩
  · refine iff_of_true (fun different => ?_) fun same => absurd same last
    rw [pairMeetings, pairMeetings, resized_of_ne state different, resized_of_ne state last]

theorem fresh_afterEnlarge_iff {state : Correction K} (fresh : Fresh sqrt state) :
    Fresh sqrt (state.afterEnlarge sqrt) ↔
      intersect sqrt (state.circles 1) (state.circles 2) =
        intersect sqrt ((enlarge sqrt 10 state.circles).1 1)
          ((enlarge sqrt 10 state.circles).1 2) := by
  have enlarged : (state.afterEnlarge sqrt).circles = (enlarge sqrt 10 state.circles).1 := rfl
  rw [Fresh, intersections_afterEnlarge fresh, enlarged, replaced_eq_iff, circlePairs_eq]
  simp [pairMeetings]

theorem Fresh.met {state : Correction K} (fresh : Fresh sqrt state) :
    state.crossings.length =
      (if meeting sqrt (state.circles 0) (state.circles 1) = .intersect then 2 else 0) +
      ((if meeting sqrt (state.circles 0) (state.circles 2) = .intersect then 2 else 0) +
        (if meeting sqrt (state.circles 1) (state.circles 2) = .intersect then 2 else 0)) := by
  rw [length_crossings_cached fresh]
  exact congrArg₂ _ (twoOrNone_intersect sqrt _ _).length_eq
    (congrArg₂ _ (twoOrNone_intersect sqrt _ _).length_eq
      (twoOrNone_intersect sqrt _ _).length_eq)

end Cache

/-! ## Steps over the reals -/

section Reals

variable {first second : Circle ℝ}

/-- Circles with the same points have the same radii. -/
theorem radius_eq_of_intersect_eq (firstNonneg : 0 ≤ first.radius)
    (secondNonneg : 0 ≤ second.radius) {radius : ℝ} (radiusNonneg : 0 ≤ radius)
    (met : meeting Real.sqrt first second = .intersect)
    (same : intersect Real.sqrt first second =
      intersect Real.sqrt first (second.setRadius radius)) : second.radius = radius := by
  have two : (intersect Real.sqrt first second).2.length = 2 := by
    rw [(twoOrNone_intersect Real.sqrt first second).length_eq]
    exact if_pos met
  -- a common point fixes the radius about the centre
  obtain ⟨point, member⟩ := List.exists_mem_of_length_pos (two ▸ Nat.two_pos)
  have before := distance_of_mem_intersect firstNonneg secondNonneg member
  rw [same] at member
  have after := distance_of_mem_intersect firstNonneg (le_max_left 0 radius) member
  rw [← before.2, show second.center = (second.setRadius radius).center from rfl, after.2]
  exact max_eq_right radiusNonneg

theorem intersect_eq_iff (none : meeting Real.sqrt first second ≠ .intersect)
    {first' second' : Circle ℝ} :
    intersect Real.sqrt first second = intersect Real.sqrt first' second' ↔
      meeting Real.sqrt first' second' = meeting Real.sqrt first second := by
  constructor
  · exact fun same => (congrArg Prod.fst same).symm
  · intro same
    rw [intersect_eq_of_ne _ none, intersect_eq_of_ne _ (same ▸ none), same]

theorem coefficient_pow_ne_one (circles : Fin 3 → Circle ℝ) (index : Fin 3) (count : ℕ) :
    coefficient Real.sqrt circles index ^ (count + 1) ≠ 1 := by
  cases coefficient_cases Real.sqrt circles index with
  | inl shrinks =>
      rw [shrinks]
      exact (pow_lt_one₀ (by norm_num) (by norm_num) (Nat.succ_ne_zero count)).ne
  | inr grows =>
      rw [grows]
      exact (one_lt_pow₀ (by norm_num) (Nat.succ_ne_zero count)).ne'

theorem keepsResized_iff {state : Correction ℝ}
    (nonneg : ∀ index, 0 ≤ (state.circles index).radius) :
    pairMeetings Real.sqrt state.circles (0, 1) =
        pairMeetings Real.sqrt (state.resized Real.sqrt 1).1 (0, 1) ↔
      KeepsResized Real.sqrt state.circles := by
  obtain ⟨count, resizings⟩ := exists_resizings Real.sqrt 1 state.circles
  have others : (0 : Fin 3) ≠ 1 := by decide
  have factor := coefficient_pos Real.sqrt state.circles 1
  rw [resized_circles (nonneg 1) resizings, pairMeetings, pairMeetings,
    withRadius_of_ne others, withRadius_self]
  constructor
  · intro same
    by_cases met : meeting Real.sqrt (state.circles 0) (state.circles 1) = .intersect
    · apply KeepsResized.noRadius
      have radius := radius_eq_of_intersect_eq (nonneg 0) (nonneg 1)
        (mul_nonneg (nonneg 1) (pow_nonneg factor.le _)) met same
      exact (mul_right_eq_self₀.1 radius.symm).resolve_left (coefficient_pow_ne_one _ _ _)
    · refine .noPoints met fun other resizings' => ?_
      rw [resizings'.unique resizings]
      exact (intersect_eq_iff met).1 same
  · intro keeps
    cases keeps with
    | noRadius zero =>
      have same : (state.circles 1).setRadius ((state.circles 1).radius *
          coefficient Real.sqrt state.circles 1 ^ (count + 1)) = state.circles 1 := by
        rw [zero, zero_mul, ← zero, setRadius_of_nonneg (nonneg 1)]
      rw [same]
    | noPoints none keeps => exact (intersect_eq_iff none).2 (keeps count resizings)

theorem keepsEnlarged_iff {state : Correction ℝ}
    (none : meeting Real.sqrt (state.circles 1) (state.circles 2) ≠ .intersect) :
    intersect Real.sqrt (state.circles 1) (state.circles 2) =
        intersect Real.sqrt ((enlarge Real.sqrt 10 state.circles).1 1)
          ((enlarge Real.sqrt 10 state.circles).1 2) ↔
      KeepsEnlarged Real.sqrt state.circles := by
  obtain ⟨count, repeats, same⟩ := exists_repeats (enlargeStep Real.sqrt)
    (Meets Real.sqrt 0) 10 state.circles
  rw [enlarge_eq, same, intersect_eq_iff none]
  constructor
  · refine fun kept => ⟨fun other repeats' => ?_⟩
    rw [repeats'.unique repeats]
    exact kept
  · exact fun keeps => keeps.same count repeats

theorem isolatedIndex_of_two {state : Correction ℝ} (fresh : Fresh Real.sqrt state)
    (two : state.crossings.length = 2) {index : Fin 3}
    (isolated : isolatedIndex state.intersections = some index) : index = 0 ∨ index = 1 := by
  rw [fresh.met] at two
  rw [fresh, isolatedIndex_cached] at isolated
  change (if meeting Real.sqrt (state.circles 0) (state.circles 1) = .intersect ∨
      meeting Real.sqrt (state.circles 0) (state.circles 2) = .intersect then
      if meeting Real.sqrt (state.circles 1) (state.circles 2) = .intersect then some 2
      else some 1 else some 0) = some index at isolated
  grind

/-- A step leads to a fresh list exactly if the pair that it skips meets as before. -/
theorem fresh_next_iff {state : Correction ℝ} (fresh : Fresh Real.sqrt state)
    (nonneg : ∀ index, 0 ≤ (state.circles index).radius) {depth : ℕ}
    {level : ℕ × Correction ℝ} (next : nextLevel Real.sqrt depth state = some level) :
    Fresh Real.sqrt level.2 ↔ KeepsSkipped Real.sqrt state := by
  obtain ⟨index, two, _, isolated, _, _, rfl⟩ | ⟨zero, rfl⟩ := nextLevel_cases next
  · have enlarged : state.crossings.length = 0 → KeepsEnlarged Real.sqrt state.circles :=
      fun zero => absurd (two.symm.trans zero) (by decide)
    have noPair : ∀ pair ∈ circlePairs, pair.2 ≠ 0 := by decide
    have onePair : ∀ pair ∈ circlePairs, pair.2 = 1 → pair = (0, 1) := by decide
    rw [fresh_afterResize_iff fresh]
    -- circle 0 comes first in its pairs, circle 1 comes second in one
    obtain rfl | rfl := isolatedIndex_of_two fresh two isolated
    · refine iff_of_true (fun pair member last => absurd last (noPair pair member)) ⟨?_, enlarged⟩
      intro _ isolated'
      exact absurd (isolated.symm.trans isolated') (by decide)
    · have skipped : KeepsSkipped Real.sqrt state ↔ KeepsResized Real.sqrt state.circles :=
        ⟨fun keeps => keeps.resized two isolated, fun keeps => ⟨fun _ _ => keeps, enlarged⟩⟩
      rw [skipped, ← keepsResized_iff nonneg]
      constructor
      · exact fun kept => kept (0, 1) (by decide) rfl
      · intro kept pair member last
        rw [onePair pair member last]
        exact kept
  · have none : meeting Real.sqrt (state.circles 1) (state.circles 2) ≠ .intersect := by
      intro met
      rw [fresh.met, if_pos met] at zero
      omega
    have skipped : KeepsSkipped Real.sqrt state ↔ KeepsEnlarged Real.sqrt state.circles := by
      refine ⟨fun keeps => keeps.enlarged zero, fun keeps => ⟨fun two => ?_, fun _ => keeps⟩⟩
      exact absurd (two.symm.trans zero) (by decide)
    rw [fresh_afterEnlarge_iff fresh, skipped]
    exact keepsEnlarged_iff none

/-- At every call the list holds the intersections of the circles exactly if in every
step the pair that is not computed again meets as before. -/
theorem cacheMatches_iff {circles : Fin 3 → Circle ℝ}
    (nonneg : ∀ index, 0 ≤ (circles index).radius) :
    CacheMatches Real.sqrt circles ↔ ∀ depth state level, Level Real.sqrt circles depth state →
      nextLevel Real.sqrt depth state = some level → KeepsSkipped Real.sqrt state := by
  constructor
  · intro matches_ depth state level reached next
    exact (fresh_next_iff (matches_ depth state reached) (reached.radius_nonneg nonneg) next).1
      (matches_ _ _ (reached.next next))
  · intro keeps depth state reached
    induction reached with
    | start => exact rfl
    | @next depth state level before next ih =>
        exact (fresh_next_iff ih (before.radius_nonneg nonneg) next).2
          (keeps depth state level before next)

end Reals

/-! ## Three circles apart -/

section Apart

/-- Three circles in a row, apart from each other. -/
def apart : Fin 3 → Circle ℝ := ![natOnAxis 0 16, natOnAxis 40 16, natOnAxis 72 4]

theorem apart_eq : apart = ![onAxis 0 16, onAxis 40 16, onAxis 72 4] := by
  simp [apart]

theorem apart_nonneg : ∀ index, 0 ≤ (apart index).radius :=
  natOnAxis_nonneg 0 40 72 16 16 4

theorem distance_apart :
    distance Real.sqrt (onAxis 0 16).center (onAxis 40 16).center = 40 :=
  (distance_onAxis 0 40).trans (by norm_num)

theorem enlargeStep_apart :
    enlargeStep Real.sqrt apart = ![onAxis 0 20, onAxis 40 20, onAxis 72 25] := by
  have far : distance Real.sqrt ((0, 0) : Point ℝ) (72, 0) = 72 :=
    (distance_onAxis 0 72).trans (by norm_num)
  have between : (onAxis 0 16).radius + (onAxis 40 16).radius <
      distance Real.sqrt (onAxis 0 16).center (onAxis 40 16).center := by
    rw [distance_apart]
    norm_num
  rw [apart_eq, enlargeStep_of_apart between, nextThird, if_pos]
  · norm_num
  · norm_num [far]

theorem meets_enlargeStep_apart : Meets Real.sqrt 0 (enlargeStep Real.sqrt apart) := by
  rw [meets_iff, enlargeStep_apart]
  norm_num [meeting_onAxis]

/-- The circles 1 and 2 intersect after the first turn, but their intersection is not
computed again. -/
theorem not_cacheMatches_apart :
    ¬ ∀ circles : Fin 3 → Circle ℝ, (∀ index, 0 ≤ (circles index).radius) →
      CacheMatches Real.sqrt circles := by
  intro always
  have fresh : Fresh Real.sqrt (newCorrection Real.sqrt apart) := rfl
  have zero : (newCorrection Real.sqrt apart).crossings.length = 0 := by
    rw [fresh.met]
    simp only [newCorrection, apart_eq, Matrix.cons_val, meeting_onAxis]
    norm_num
    decide
  have enlarged : (enlarge Real.sqrt 10 apart).1 = enlargeStep Real.sqrt apart := by
    rw [enlarge_eq, repeatUntil, if_pos meets_enlargeStep_apart]
  have stale := always apart apart_nonneg _ _ (.next .start (nextLevel_of_zero zero 0))
  rw [fresh_afterEnlarge_iff fresh] at stale
  have kinds := congrArg Prod.fst stale
  change meeting Real.sqrt (apart 1) (apart 2) =
    meeting Real.sqrt ((enlarge Real.sqrt 10 apart).1 1) ((enlarge Real.sqrt 10 apart).1 2)
    at kinds
  rw [enlarged, enlargeStep_apart, apart_eq] at kinds
  simp only [Matrix.cons_val, meeting_onAxis] at kinds
  norm_num at kinds
  exact absurd kinds (by decide)

/-- Three circles in a row, each of which intersects both others. -/
def crossed : Fin 3 → Circle ℝ := ![natOnAxis 0 2, natOnAxis 2 2, natOnAxis 3 2]

theorem cacheMatches_crossed : CacheMatches Real.sqrt crossed := by
  have nonneg : ∀ index, 0 ≤ (crossed index).radius := natOnAxis_nonneg 0 2 3 2 2 2
  have fresh : Fresh Real.sqrt (newCorrection Real.sqrt crossed) := rfl
  have six : (newCorrection Real.sqrt crossed).crossings.length = 6 := by
    rw [fresh.met]
    simp only [newCorrection, crossed, Matrix.cons_val, natOnAxis_eq, meeting_onAxis]
    norm_num
  have last : nextLevel Real.sqrt 0 (newCorrection Real.sqrt crossed) = none := by
    simp [nextLevel, six]
  refine (cacheMatches_iff nonneg).2 fun depth state level reached next => ?_
  rw [(reached.eq_start last).2]
  constructor
  · exact fun two => absurd (six.symm.trans two) (by decide)
  · exact fun zero => absurd (six.symm.trans zero) (by decide)

end Apart

end IotLab.Localization
