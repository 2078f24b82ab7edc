import IotLab.Library.PlaneMeans
import IotLab.Localization.Enlarging
import IotLab.Localization.NearestPair
import IotLab.Localization.SixPoints

/-!
# The estimate and the points

Three branches set the position, each to a mean of points of the intersections.  The
others leave it as it was: that is a call at the greatest depth with two points again,
or with two points and an isolated circle that none of the eleven radii brings to an
intersection.
-/

namespace IotLab.Localization

open IotLab.Library

section Branches

variable {K : Type*} [Field K] [LinearOrder K] (sqrt : K → K)

/-- The fields with another position. -/
def Correction.placed (state : Correction K) (position : Point K) : Correction K :=
  { state with position }

/-- The branches that set the position. -/
def SetsPosition (state : Correction K) : Prop :=
  state.maxWeight sqrt = 3 ∨ (state.crossings.length = 6 ∧ state.maxWeight sqrt = 2) ∨
    (state.crossings.length = 4 ∧ state.maxWeight sqrt = 2)

instance (state : Correction K) : Decidable (SetsPosition sqrt state) :=
  inferInstanceAs (Decidable (_ ∨ _ ∨ _))

/-- With two points one of the radii of the circle that the search finds brings it to an
intersection, above the greatest depth. -/
def GoesOn (depth : ℕ) (state : Correction K) : Prop :=
  state.crossings.length = 2 ∧ depth < 10 ∧
    ∃ index, isolatedIndex state.intersections = some index ∧ ∃ count ≤ 10,
      Meets sqrt index (withRadius state.circles index ((state.circles index).radius *
        coefficient sqrt state.circles index ^ (count + 1)))

variable {sqrt}

/-! ## The position does not steer -/

section Placed

variable (state : Correction K) (position : Point K)

omit [Field K] [LinearOrder K] in
@[simp] theorem placed_crossings : (state.placed position).crossings = state.crossings := rfl

omit [Field K] [LinearOrder K] in
@[simp] theorem placed_intersections :
    (state.placed position).intersections = state.intersections := rfl

@[simp] theorem placed_maxWeight :
    (state.placed position).maxWeight sqrt = state.maxWeight sqrt := rfl

@[simp] theorem placed_finds (index : Fin 3) :
    (state.placed position).Finds sqrt index ↔ state.Finds sqrt index := Iff.rfl

@[simp] theorem placed_afterResize (index : Fin 3) :
    (state.placed position).afterResize sqrt index =
      (state.afterResize sqrt index).placed position := rfl

@[simp] theorem placed_afterEnlarge :
    (state.placed position).afterEnlarge sqrt = (state.afterEnlarge sqrt).placed position := rfl

end Placed

theorem nextLevel_placed (depth : ℕ) (state : Correction K) (position : Point K) :
    nextLevel sqrt depth (state.placed position) =
      (nextLevel sqrt depth state).map fun level => (level.1, level.2.placed position) := by
  rw [nextLevel, nextLevel]
  simp only [placed_maxWeight, placed_crossings, placed_intersections, placed_finds,
    placed_afterResize, placed_afterEnlarge]
  cases isolatedIndex state.intersections with
  | none =>
      simp only [apply_ite (Option.map _), Option.map_none, Option.map_some]
      rfl
  | some index =>
      simp only [apply_ite (Option.map _), Option.map_none, Option.map_some]
      rfl

theorem Level.exists_run {circles : Fin 3 → Circle K} {depth : ℕ} {state : Correction K}
    (level : Level sqrt circles depth state) :
    ∃ steps, ∀ position fuel,
      doCorrection sqrt (fuel + steps) 0 ((newCorrection sqrt circles).placed position) =
        doCorrection sqrt fuel depth (state.placed position) := by
  induction level with
  | start => exact ⟨0, fun _ _ => rfl⟩
  | @next depth state level _ next ih =>
      obtain ⟨steps, run⟩ := ih
      refine ⟨steps + 1, fun position fuel => ?_⟩
      rw [← add_assoc, Nat.add_right_comm, run, doCorrection_succ, nextLevel_placed, next]
      rfl

/-! ## The branches that set nothing -/

/-- The other branches leave the position as it was. -/
theorem lastLevel_of_not_sets {state : Correction K} (keeps : ¬ SetsPosition sqrt state) :
    ∃ result, lastLevel sqrt state = .ok result ∧ result.position = state.position := by
  obtain ⟨light, notSix, notFour⟩ : state.maxWeight sqrt ≠ 3 ∧
      ¬ (state.crossings.length = 6 ∧ state.maxWeight sqrt = 2) ∧
        ¬ (state.crossings.length = 4 ∧ state.maxWeight sqrt = 2) := by
    rw [SetsPosition, not_or, not_or] at keeps
    exact keeps
  rw [lastLevel, if_neg light, if_neg notSix, if_neg notFour]
  split
  · split
    · exact ⟨_, rfl, rfl⟩
    · split
      · exact ⟨_, rfl, rfl⟩
      · exact ⟨_, rfl, rfl⟩
  · exact ⟨_, rfl, rfl⟩

theorem nextLevel_of_sets {state : Correction K} (sets : SetsPosition sqrt state)
    (depth : ℕ) : nextLevel sqrt depth state = none := by
  obtain heavy | six | four := sets
  · exact (branch_heavy heavy depth).1
  · exact (branch_six six depth).1
  · exact (branch_four four depth).1

variable [IsStrictOrderedRing K]

/-- With points a call goes on exactly in the branch for two points. -/
theorem exists_nextLevel_iff {circles : Fin 3 → Circle K}
    (nonneg : ∀ index, 0 ≤ (circles index).radius) {depth : ℕ} {state : Correction K}
    (level : Level sqrt circles depth state) (keeps : ¬ SetsPosition sqrt state)
    (points : state.crossings ≠ []) :
    (∃ after, nextLevel sqrt depth state = some after) ↔ GoesOn sqrt depth state := by
  constructor
  · rintro ⟨after, next⟩
    obtain ⟨index, two, _, isolated, finds, shallow, _⟩ | ⟨zero, _⟩ := nextLevel_cases next
    · exact ⟨two, shallow, index, isolated,
        (finds_iff state (level.radius_nonneg nonneg index)).1 finds⟩
    · exact absurd (List.length_eq_zero_iff.1 zero) points
  · rintro ⟨two, shallow, index, isolated, met⟩
    have finds := (finds_iff state (level.radius_nonneg nonneg index)).2 met
    rw [SetsPosition, not_or, not_or] at keeps
    refine ⟨(depth + 1, state.afterResize sqrt index), ?_⟩
    rw [nextLevel, if_neg keeps.1, if_neg keeps.2.1, if_neg keeps.2.2, if_pos two, isolated]
    exact if_pos ⟨finds, shallow⟩

theorem nextLevel_eq_none {circles : Fin 3 → Circle K}
    (nonneg : ∀ index, 0 ≤ (circles index).radius) {depth : ℕ} {state : Correction K}
    (level : Level sqrt circles depth state) (keeps : ¬ SetsPosition sqrt state)
    (points : state.crossings ≠ []) (stops : ¬ GoesOn sqrt depth state) :
    nextLevel sqrt depth state = none := by
  rw [← exists_nextLevel_iff nonneg level keeps points] at stops
  exact Option.eq_none_iff_forall_ne_some.2 fun after next => stops ⟨after, next⟩

end Branches

/-! ## The branches that set the position -/

section Means

/-- The points of a list of crossings. -/
def pointsOf (crossings : List (Crossing ℝ)) : Set (Point ℝ) :=
  {point | ∃ crossing ∈ crossings, crossing.point = point}

variable {state : Correction ℝ}

theorem centroid_mem {points : Set (Point ℝ)} (convex : Convex ℝ points)
    {first second third : Point ℝ} (firstMember : first ∈ points)
    (secondMember : second ∈ points) (thirdMember : third ∈ points) :
    centroid first second third ∈ points := by
  have mean : centroid first second third =
      weightedMean [first, second, third] id fun _ => (1 : ℝ) := by
    refine Prod.ext ?_ ?_
    · norm_num [centroid, weightedMean, ← add_assoc]
    · norm_num [centroid, weightedMean, ← add_assoc]
  rw [mean]
  apply weightedMean_mem convex
  · simp [firstMember, secondMember, thirdMember]
  · simp
  · norm_num

theorem firstCentroid_mem {points : Set (Point ℝ)} (convex : Convex ℝ points)
    {list : List (Point ℝ)} (three : 3 ≤ list.length) (member : ∀ point ∈ list, point ∈ points) :
    firstCentroid list ∈ points := by
  match list, three with
  | first :: second :: third :: rest, _ =>
      exact centroid_mem convex (member _ (by simp)) (member _ (by simp)) (member _ (by simp))

theorem middle_mem {points : Set (Point ℝ)} (convex : Convex ℝ points)
    {first second : Point ℝ} (firstMember : first ∈ points) (secondMember : second ∈ points) :
    (half (first.1 + second.1), half (first.2 + second.2)) ∈ points := by
  have mean : (half (first.1 + second.1), half (first.2 + second.2)) =
      weightedMean [first, second] id fun _ => (1 : ℝ) := by
    refine Prod.ext ?_ ?_
    · norm_num [half, weightedMean]
    · norm_num [half, weightedMean]
  rw [mean]
  apply weightedMean_mem convex
  · simp [firstMember, secondMember]
  · simp
  · norm_num

theorem exists_maxWeight (heavy : state.maxWeight Real.sqrt ≠ 0) :
    ∃ crossing ∈ state.crossings,
      weight Real.sqrt state.circles crossing = state.maxWeight Real.sqrt := by
  have weights : (0 :: state.crossings.map (weight Real.sqrt state.circles)).max? =
      some (state.maxWeight Real.sqrt) := rfl
  cases List.mem_cons.1 (List.max?_mem weights) with
  | inl zero => exact absurd zero heavy
  | inr member => exact List.mem_map.1 member

/-- The weighted mean of the points in all circles. -/
theorem heaviest_mem (heavy : state.maxWeight Real.sqrt ≠ 0) :
    ∃ position ∈ convexHull ℝ (pointsOf state.crossings), ∀ before,
      (state.placed before).heaviest Real.sqrt = state.placed position := by
  obtain ⟨greatest, member, same⟩ := exists_maxWeight heavy
  obtain ⟨among, named⟩ : ∃ among, among = state.crossings.filter fun crossing =>
      state.maxWeight Real.sqrt ≤ weight Real.sqrt state.circles crossing := ⟨_, rfl⟩
  have chosen : greatest ∈ among := by
    rw [named, List.mem_filter]
    exact ⟨member, decide_eq_true same.ge⟩
  have positive : 0 < (among.map fun crossing =>
      (weight Real.sqrt state.circles crossing : ℝ)).sum := by
    apply List.sum_pos
    · intro value into
      obtain ⟨crossing, filtered, rfl⟩ := List.mem_map.1 into
      rw [named, List.mem_filter, decide_eq_true_eq] at filtered
      exact Nat.cast_pos.2 ((Nat.pos_of_ne_zero heavy).trans_le filtered.2)
    · exact List.ne_nil_of_mem (List.mem_map_of_mem chosen)
  refine ⟨weightedMean among Crossing.point
    fun crossing => (weight Real.sqrt state.circles crossing : ℝ), ?_, fun before => ?_⟩
  · apply weightedMean_mem (convex_convexHull ℝ _) _ (fun _ _ => Nat.cast_nonneg _) positive
    intro crossing filtered
    rw [named, List.mem_filter] at filtered
    exact subset_convexHull ℝ _ ⟨crossing, filtered.1, rfl⟩
  · rw [named] at positive ⊢
    exact if_pos positive

/-- A branch that sets the position sets it to a mean of points. -/
theorem lastLevel_of_sets {circles : Fin 3 → Circle ℝ} {depth : ℕ}
    (level : Level Real.sqrt circles depth state) (sets : SetsPosition Real.sqrt state) :
    ∃ position ∈ convexHull ℝ (pointsOf state.crossings), ∀ before,
      lastLevel Real.sqrt (state.placed before) = .ok (state.placed position) := by
  have convex := convex_convexHull ℝ (pointsOf state.crossings)
  have inside : ∀ crossing ∈ state.crossings,
      crossing.point ∈ convexHull ℝ (pointsOf state.crossings) :=
    fun crossing member => subset_convexHull ℝ _ ⟨crossing, member, rfl⟩
  obtain heavy | six | four := sets
  · have notZero : state.maxWeight Real.sqrt ≠ 0 := by rw [heavy]; decide
    obtain ⟨position, member, placed⟩ := heaviest_mem notZero
    refine ⟨position, member, fun before => ?_⟩
    have last := (branch_heavy (show (state.placed before).maxWeight Real.sqrt = 3 from heavy)
      depth).2
    exact last.trans (congrArg Except.ok (placed before))
  · refine ⟨firstCentroid (state.crossings.map Crossing.point), ?_, fun before => ?_⟩
    · apply firstCentroid_mem convex
      · rw [List.length_map, six.1]
        decide
      · exact List.forall_mem_map.2 inside
    · have last := (branch_six (show (state.placed before).crossings.length = 6 ∧
        (state.placed before).maxWeight Real.sqrt = 2 from six) depth).2
      have computed := nearestThree_six level six.1
      exact last.trans computed
  · obtain ⟨first, firstMember, second, secondMember, _, _, computed⟩ :=
      nearestPair_four level four.1
    refine ⟨_, middle_mem convex (inside first firstMember) (inside second secondMember),
      fun before => ?_⟩
    have last := (branch_four (show (state.placed before).crossings.length = 4 ∧
      (state.placed before).maxWeight Real.sqrt = 2 from four) depth).2
    exact last.trans computed

end Means

/-! ## The whole run -/

section Runs

/-- The points of the intersections that a run computes. -/
def computedPoints (circles : Fin 3 → Circle ℝ) : Set (Point ℝ) :=
  {point | ∃ depth state, Level Real.sqrt circles depth state ∧ point ∈ pointsOf state.crossings}

/-- Whatever the position was before, a run that returns leaves the same mean of
computed points. -/
def Estimates (circles : Fin 3 → Circle ℝ) : Prop :=
  ∃ position ∈ convexHull ℝ (computedPoints circles), ∀ before fuel result,
    doCorrection Real.sqrt fuel 0
        { newCorrection Real.sqrt circles with position := before } = .ok result →
      result.position = position

/-- Some pair of the circles intersects. -/
def SomePairMeets (circles : Fin 3 → Circle ℝ) : Prop :=
  ∃ pair ∈ circlePairs,
    meeting Real.sqrt (circles pair.1) (circles pair.2) = .intersect

variable {circles : Fin 3 → Circle ℝ}

theorem crossings_newCorrection_iff :
    (newCorrection Real.sqrt circles).crossings ≠ [] ↔ SomePairMeets circles := by
  have cache : (newCorrection Real.sqrt circles).intersections = cached fun pair =>
      intersect Real.sqrt (circles pair.1) (circles pair.2) :=
    intersections_newCorrection circles
  constructor
  · intro points
    obtain ⟨crossing, member⟩ := List.exists_mem_of_ne_nil _ points
    obtain ⟨among, here⟩ := (mem_crossings_cached cache).1 member
    refine ⟨_, among, ?_⟩
    by_contra none
    rw [intersect_eq_of_ne _ none] at here
    cases here
  · rintro ⟨pair, member, intersects⟩
    have two : (intersect Real.sqrt (circles pair.1) (circles pair.2)).2.length = 2 := by
      rw [(twoOrNone_intersect Real.sqrt _ _).length_eq]
      exact if_pos intersects
    obtain ⟨point, among⟩ := List.exists_mem_of_length_pos (two ▸ Nat.two_pos)
    have crossing : (⟨point, pair.1, pair.2⟩ : Crossing ℝ) ∈
        (newCorrection Real.sqrt circles).crossings :=
      (mem_crossings_cached cache).2 ⟨member, among⟩
    exact List.ne_nil_of_mem crossing

theorem Level.crossings_ne_nil (met : SomePairMeets circles) {depth : ℕ}
    {state : Correction ℝ} (level : Level Real.sqrt circles depth state) :
    state.crossings ≠ [] := by
  induction level with
  | start => exact crossings_newCorrection_iff.2 met
  | next before next ih => exact (nextLevel_of_crossings before ih next).2.2

/-- From a call on which all later ones set the position or go on, the position is the
same mean whatever it was before. -/
theorem Level.estimate (nonneg : ∀ index, 0 ≤ (circles index).radius)
    (met : SomePairMeets circles)
    (good : ∀ depth state, Level Real.sqrt circles depth state →
      SetsPosition Real.sqrt state ∨ GoesOn Real.sqrt depth state)
    {depth : ℕ} {state : Correction ℝ} (level : Level Real.sqrt circles depth state) :
    ∃ position ∈ convexHull ℝ (computedPoints circles), ∀ before fuel result,
      doCorrection Real.sqrt fuel depth (state.placed before) = .ok result →
        result.position = position := by
  -- the depth grows up to its bound
  induction left : 10 - depth using Nat.strong_induction_on generalizing depth state with
  | _ left ih =>
      by_cases sets : SetsPosition Real.sqrt state
      · obtain ⟨position, member, last⟩ := lastLevel_of_sets level sets
        refine ⟨position, convexHull_mono ?_ member, fun before fuel result returned => ?_⟩
        · exact fun point among => ⟨depth, state, level, among⟩
        · cases fuel with
          | zero => cases returned
          | succ fuel =>
              rw [doCorrection_succ, nextLevel_placed, nextLevel_of_sets sets, Option.map_none,
                last, Except.ok.injEq] at returned
              exact returned ▸ rfl
      · have goes := (good depth state level).resolve_left sets
        have points := level.crossings_ne_nil met
        obtain ⟨after, next⟩ := (exists_nextLevel_iff nonneg level sets points).2 goes
        obtain ⟨shallow, deeper, _⟩ := nextLevel_of_crossings level points next
        obtain ⟨position, member, later⟩ := ih (10 - after.1) (by omega) (level.next next) rfl
        refine ⟨position, member, fun before fuel result returned => ?_⟩
        cases fuel with
        | zero => cases returned
        | succ fuel =>
            rw [doCorrection_succ, nextLevel_placed, next, Option.map_some] at returned
            exact later before fuel result returned

/-- A run from circles with a pair that intersects leaves a mean of computed points
exactly if every call sets the position or goes on. -/
theorem estimates_iff (nonneg : ∀ index, 0 ≤ (circles index).radius)
    (met : SomePairMeets circles) :
    Estimates circles ↔ ∀ depth state, Level Real.sqrt circles depth state →
      SetsPosition Real.sqrt state ∨ GoesOn Real.sqrt depth state := by
  constructor
  · rintro ⟨position, _, always⟩ depth state level
    by_contra neither
    -- such a call is the last one and leaves the position alone
    obtain ⟨keeps, stops⟩ := not_or.1 neither
    have last := nextLevel_eq_none nonneg level keeps (level.crossings_ne_nil met) stops
    obtain ⟨steps, run⟩ := level.exists_run
    -- the run returns the position that it was given
    have returns : ∀ before, before = position := by
      intro before
      have keeps' : ¬ SetsPosition Real.sqrt (state.placed before) := keeps
      obtain ⟨result, returned, kept⟩ := lastLevel_of_not_sets keeps'
      have whole := run before 1
      rw [doCorrection_succ, nextLevel_placed, last, Option.map_none, returned] at whole
      exact kept.symm.trans (always before _ result whole)
    have different := (returns (0, 0)).trans (returns (1, 0)).symm
    exact absurd (congrArg Prod.fst different) (by norm_num)
  · intro good
    exact Level.start.estimate nonneg met good

end Runs

/-! ## Circles that touch -/

section Touching

/-- A circle far from two that touch. -/
def farFirst : Fin 3 → Circle ℝ := ![natOnAxis 1000 1, natOnAxis 0 1, natOnAxis 2 1]

theorem farFirst_eq : farFirst = ![onAxis 1000 1, onAxis 0 1, onAxis 2 1] := by
  simp [farFirst]

theorem farFirst_nonneg : ∀ index, 0 ≤ (farFirst index).radius :=
  natOnAxis_nonneg 1000 0 2 1 1 1

theorem intersect_farFirst :
    intersect Real.sqrt (farFirst 0) (farFirst 1) = (.noIntersect, []) ∧
      intersect Real.sqrt (farFirst 0) (farFirst 2) = (.noIntersect, []) ∧
      intersect Real.sqrt (farFirst 1) (farFirst 2) = (.intersect, [(1, 0), (1, 0)]) := by
  have dist : distance Real.sqrt ((0, 0) : Point ℝ) (2, 0) = 2 :=
    (distance_onAxis 0 2).trans (by norm_num)
  have apart : ∀ {x y : ℝ}, 2 < |x - y| →
      intersect Real.sqrt (onAxis x 1) (onAxis y 1) = (.noIntersect, []) := by
    intro x y far
    have none : meeting Real.sqrt (onAxis x 1) (onAxis y 1) = .noIntersect := by
      rw [meeting_onAxis]
      exact if_pos (by linarith)
    rw [intersect_eq_of_ne _ (by rw [none]; decide), none]
  rw [farFirst_eq]
  refine ⟨apart (by norm_num), apart (by norm_num), ?_⟩
  change intersect Real.sqrt (onAxis 0 1) (onAxis 2 1) = _
  rw [intersect_eq_of_height 1 0 (1, 0) (1, 0) dist]
  all_goals norm_num

theorem crossings_farFirst : (newCorrection Real.sqrt farFirst).crossings =
    [⟨(1, 0), 1, 2⟩, ⟨(1, 0), 1, 2⟩] := by
  obtain ⟨first, second, third⟩ := intersect_farFirst
  rw [crossings_cached (intersections_newCorrection farFirst)]
  simp only [first, second, third, List.map_cons, List.map_nil, List.nil_append]

theorem maxWeight_farFirst : (newCorrection Real.sqrt farFirst).maxWeight Real.sqrt = 2 := by
  have two : ∀ first second, weight Real.sqrt farFirst ⟨(1, 0), first, second⟩ = 2 := by
    intro first second
    simp only [weight, finRange_three, farFirst_eq, List.countP_cons, List.countP_nil,
      Matrix.cons_val, onAxis_center, onAxis_radius, distance_onAxis]
    norm_num
  have same : (newCorrection Real.sqrt farFirst).circles = farFirst := rfl
  rw [Correction.maxWeight, crossings_farFirst, same]
  simp [two]

/-- None of the eleven radii brings the first circle to another one. -/
theorem not_meets_farFirst {radius : ℝ} (nonneg : 0 ≤ radius) (small : radius ≤ 900) :
    ¬ Meets Real.sqrt 0 (withRadius farFirst 0 radius) := by
  have apart : ∀ {y : ℝ}, |1000 - y| = 1000 - y → y ≤ 2 →
      meeting Real.sqrt (onAxis 1000 radius) (onAxis y 1) = .noIntersect := by
    intro y side low
    rw [meeting_onAxis, side]
    exact if_pos (by linarith)
  have same : withRadius farFirst 0 radius =
      ![onAxis 1000 radius, onAxis 0 1, onAxis 2 1] := by
    rw [farFirst_eq, withRadius_zero, onAxis_setRadius, max_eq_right nonneg]
  rw [same, meets_iff]
  rintro (met | met)
  · exact absurd ((apart (by norm_num) (by norm_num)).symm.trans met) (by decide)
  · exact absurd ((apart (by norm_num) (by norm_num)).symm.trans met) (by decide)

theorem not_setsPosition_farFirst :
    ¬ SetsPosition Real.sqrt (newCorrection Real.sqrt farFirst) := by
  rw [SetsPosition, maxWeight_farFirst, crossings_farFirst]
  decide

theorem not_goesOn_farFirst : ¬ GoesOn Real.sqrt 0 (newCorrection Real.sqrt farFirst) := by
  rintro ⟨_, _, index, isolated, count, bound, meets⟩
  obtain ⟨first, second, _⟩ := intersect_farFirst
  rw [intersections_newCorrection, isolatedIndex_cached, first, second] at isolated
  obtain rfl : 0 = index := Option.some.inj isolated
  have circles : (newCorrection Real.sqrt farFirst).circles = farFirst := rfl
  have one : (farFirst 0).radius = 1 := by rw [farFirst_eq]; rfl
  rw [circles, one, one_mul] at meets
  refine not_meets_farFirst (pow_nonneg (coefficient_pos _ _ _).le _) ?_ meets
  have factor : coefficient Real.sqrt farFirst 0 ≤ 5 / 4 := by
    obtain shrinks | grows := coefficient_cases Real.sqrt farFirst 0
    · rw [shrinks]
      norm_num
    · exact grows.le
  calc coefficient Real.sqrt farFirst 0 ^ (count + 1)
      ≤ (5 / 4) ^ (count + 1) := pow_le_pow_left₀ (coefficient_pos _ _ _).le factor _
    _ ≤ (5 / 4) ^ 11 := pow_le_pow_right₀ (by norm_num) (by omega)
    _ ≤ 900 := by norm_num

/-- The run ends at once, and the position stays at the origin. -/
theorem not_position_mem_farFirst :
    ¬ ∀ circles : Fin 3 → Circle ℝ, (∀ index, 0 ≤ (circles index).radius) →
      SomePairMeets circles → ∀ fuel result,
        doCorrection Real.sqrt fuel 0 (newCorrection Real.sqrt circles) = .ok result →
          result.position ∈ convexHull ℝ (computedPoints circles) := by
  intro always
  have met : SomePairMeets farFirst := ⟨(1, 2), by decide, congrArg Prod.fst intersect_farFirst.2.2⟩
  have last := nextLevel_eq_none farFirst_nonneg .start not_setsPosition_farFirst
    (crossings_newCorrection_iff.2 met) not_goesOn_farFirst
  obtain ⟨result, returned, kept⟩ := lastLevel_of_not_sets not_setsPosition_farFirst
  have mean := always farFirst farFirst_nonneg met 1 result
    (by rw [doCorrection_succ, last]; exact returned)
  have points : computedPoints farFirst ⊆ {(1, 0)} := by
    rintro point ⟨depth, state, level, crossing, member, rfl⟩
    rw [(level.eq_start last).2, crossings_farFirst, List.mem_pair, or_self] at member
    rw [member]
    rfl
  have only := convexHull_mono points mean
  rw [convexHull_singleton, kept] at only
  exact absurd (congrArg Prod.fst only) (by norm_num [newCorrection])

/-- Three circles that touch in one point. -/
def kissing : Fin 3 → Circle ℝ := ![natOnAxis 0 1, natOnAxis 2 1, natOnAxis 4 3]

theorem kissing_eq : kissing = ![onAxis 0 1, onAxis 2 1, onAxis 4 3] := by
  simp [kissing]

theorem intersect_kissing :
    intersect Real.sqrt (kissing 0) (kissing 1) = (.intersect, [(1, 0), (1, 0)]) ∧
      intersect Real.sqrt (kissing 0) (kissing 2) = (.intersect, [(1, 0), (1, 0)]) ∧
      intersect Real.sqrt (kissing 1) (kissing 2) = (.intersect, [(1, 0), (1, 0)]) := by
  have two : distance Real.sqrt ((0, 0) : Point ℝ) (2, 0) = 2 :=
    (distance_onAxis 0 2).trans (by norm_num)
  have four : distance Real.sqrt ((0, 0) : Point ℝ) (4, 0) = 4 :=
    (distance_onAxis 0 4).trans (by norm_num)
  have inner : distance Real.sqrt ((2, 0) : Point ℝ) (4, 0) = 2 :=
    (distance_onAxis 2 4).trans (by norm_num)
  rw [kissing_eq]
  refine ⟨?_, ?_, ?_⟩
  · change intersect Real.sqrt (onAxis 0 1) (onAxis 2 1) = _
    rw [intersect_eq_of_height 1 0 (1, 0) (1, 0) two]
    all_goals norm_num
  · change intersect Real.sqrt (onAxis 0 1) (onAxis 4 3) = _
    rw [intersect_eq_of_height 1 0 (1, 0) (1, 0) four]
    all_goals norm_num
  · change intersect Real.sqrt (onAxis 2 1) (onAxis 4 3) = _
    rw [intersect_eq_of_height (-1) 0 (1, 0) (1, 0) inner]
    all_goals norm_num

theorem maxWeight_kissing : (newCorrection Real.sqrt kissing).maxWeight Real.sqrt = 3 := by
  have three : ∀ first second, weight Real.sqrt kissing ⟨(1, 0), first, second⟩ = 3 := by
    intro first second
    simp only [weight, finRange_three, kissing_eq, List.countP_cons, List.countP_nil,
      Matrix.cons_val, onAxis_center, onAxis_radius, distance_onAxis]
    norm_num
  have same : (newCorrection Real.sqrt kissing).circles = kissing := rfl
  obtain ⟨first, second, third⟩ := intersect_kissing
  rw [Correction.maxWeight, crossings_cached (intersections_newCorrection kissing), same]
  simp [first, second, third, three]

theorem estimates_kissing : Estimates kissing := by
  have nonneg : ∀ index, 0 ≤ (kissing index).radius := natOnAxis_nonneg 0 2 4 1 1 3
  have met : SomePairMeets kissing := ⟨(0, 1), by decide, congrArg Prod.fst intersect_kissing.1⟩
  have sets : SetsPosition Real.sqrt (newCorrection Real.sqrt kissing) := .inl maxWeight_kissing
  refine (estimates_iff nonneg met).2 fun depth state level => .inl ?_
  rw [(level.eq_start (nextLevel_of_sets sets 0)).2]
  exact sets

end Touching

end IotLab.Localization
