import IotLab.Localization.Algorithms

/-!
# The levels of the error correction

`doCorrection` calls itself after it has changed radii.  Every call is a level with the
circles, the intersections and the depth of that time.  The list of the intersections
always belongs to the same three pairs of circles, in the same order: an intersection
is replaced by one of the same circles in the same order only.
-/

namespace IotLab.Localization

section Levels

variable {K : Type*} [Field K] [LinearOrder K] (sqrt : K → K)

/-- The fields after the constructor, with the intersections of `execute`. -/
def newCorrection (circles : Fin 3 → Circle K) : Correction K where
  circles := circles
  intersections := circlePairs.map fun pair => meet sqrt circles pair.1 pair.2
  position := 0

/-- The loop of the branch for two points with the circle at an index. -/
def Correction.resized (state : Correction K) (index : Fin 3) :
    (Fin 3 → Circle K) × Intersection K × Intersection K :=
  resize sqrt (coefficient sqrt state.circles index) index 10 state.circles

/-- The loop has found an intersection. -/
def Correction.Finds (state : Correction K) (index : Fin 3) : Prop :=
  (state.resized sqrt index).2.1.state = .intersect ∨
    (state.resized sqrt index).2.2.state = .intersect

instance (state : Correction K) (index : Fin 3) : Decidable (state.Finds sqrt index) :=
  inferInstanceAs (Decidable (_ ∨ _))

/-- The fields after the loop of the branch for two points. -/
def Correction.afterResize (state : Correction K) (index : Fin 3) : Correction K where
  circles := (state.resized sqrt index).1
  intersections := replaceBy (state.resized sqrt index).2.1 (state.resized sqrt index).2.2
    state.intersections
  position := state.position

/-- The fields after the loop of the branch without points. -/
def Correction.afterEnlarge (state : Correction K) : Correction K where
  circles := (enlarge sqrt 10 state.circles).1
  intersections := replaceBy (enlarge sqrt 10 state.circles).2.1
    (enlarge sqrt 10 state.circles).2.2 state.intersections
  position := state.position

/-- The depth and the fields of the next call of `doCorrection`, if there is one. -/
def nextLevel (depth : ℕ) (state : Correction K) : Option (ℕ × Correction K) :=
  if state.maxWeight sqrt = 3 then none
  else if state.crossings.length = 6 ∧ state.maxWeight sqrt = 2 then none
  else if state.crossings.length = 4 ∧ state.maxWeight sqrt = 2 then none
  else if state.crossings.length = 2 then
    match isolatedIndex state.intersections with
    | none => none
    | some index =>
        if state.Finds sqrt index ∧ depth < 10 then
          some (depth + 1, state.afterResize sqrt index)
        else none
  else if state.crossings.length = 0 then some (0, state.afterEnlarge sqrt)
  else none

/-- What a call does that makes no further call. -/
def lastLevel (state : Correction K) : Except Failure (Correction K) :=
  if state.maxWeight sqrt = 3 then .ok (state.heaviest sqrt)
  else if state.crossings.length = 6 ∧ state.maxWeight sqrt = 2 then
    state.nearestThree sqrt
  else if state.crossings.length = 4 ∧ state.maxWeight sqrt = 2 then
    state.nearestPair sqrt
  else if state.crossings.length = 2 then
    match isolatedIndex state.intersections with
    | none => .ok state
    | some index =>
        if state.Finds sqrt index then .ok (state.afterResize sqrt index)
        else .ok { state with circles := (state.resized sqrt index).1 }
  else .ok state

/-- A call goes on with the next level, or is the last one. -/
theorem doCorrection_succ (fuel depth : ℕ) (state : Correction K) :
    doCorrection sqrt (fuel + 1) depth state =
      match nextLevel sqrt depth state with
      | some level => doCorrection sqrt fuel level.1 level.2
      | none => lastLevel sqrt state := by
  rw [doCorrection, nextLevel, lastLevel]
  by_cases heavy : state.maxWeight sqrt = 3
  · simp only [if_pos heavy]
  by_cases six : state.crossings.length = 6 ∧ state.maxWeight sqrt = 2
  · simp only [if_neg heavy, if_pos six]
  by_cases four : state.crossings.length = 4 ∧ state.maxWeight sqrt = 2
  · simp only [if_neg heavy, if_neg six, if_pos four]
  simp only [if_neg heavy, if_neg six, if_neg four]
  by_cases two : state.crossings.length = 2
  · simp only [if_pos two]
    cases isolatedIndex state.intersections with
    | none => rfl
    | some index =>
        change (if state.Finds sqrt index then
            (if depth < 10 then doCorrection sqrt fuel (depth + 1) (state.afterResize sqrt index)
            else .ok (state.afterResize sqrt index))
          else .ok { state with circles := (state.resized sqrt index).1 }) = _
        by_cases finds : state.Finds sqrt index
        · by_cases shallow : depth < 10
          · simp only [if_pos finds, if_pos shallow, if_pos (And.intro finds shallow)]
          · have deep : ¬ (state.Finds sqrt index ∧ depth < 10) := fun both => shallow both.2
            simp only [if_pos finds, if_neg shallow, if_neg deep]
        · have missed : ¬ (state.Finds sqrt index ∧ depth < 10) := fun both => finds both.1
          simp only [if_neg finds, if_neg missed]
  · simp only [if_neg two]
    by_cases zero : state.crossings.length = 0
    · simp only [if_pos zero]
      rfl
    · simp only [if_neg zero]

section Branches

variable {sqrt} {state : Correction K}

/-- The branch for a point in all circles ends the run. -/
theorem branch_heavy (heavy : state.maxWeight sqrt = 3) (depth : ℕ) :
    nextLevel sqrt depth state = none ∧ lastLevel sqrt state = .ok (state.heaviest sqrt) :=
  ⟨if_pos heavy, if_pos heavy⟩

/-- The branch for six points ends the run. -/
theorem branch_six (six : state.crossings.length = 6 ∧ state.maxWeight sqrt = 2) (depth : ℕ) :
    nextLevel sqrt depth state = none ∧ lastLevel sqrt state = state.nearestThree sqrt := by
  have light : state.maxWeight sqrt ≠ 3 := by rw [six.2]; decide
  rw [nextLevel, lastLevel, if_neg light, if_neg light, if_pos six, if_pos six]
  exact ⟨rfl, rfl⟩

/-- The branch for four points ends the run. -/
theorem branch_four (four : state.crossings.length = 4 ∧ state.maxWeight sqrt = 2)
    (depth : ℕ) :
    nextLevel sqrt depth state = none ∧ lastLevel sqrt state = state.nearestPair sqrt := by
  have light : state.maxWeight sqrt ≠ 3 := by rw [four.2]; decide
  have notSix : ¬ (state.crossings.length = 6 ∧ state.maxWeight sqrt = 2) :=
    fun six => absurd (four.1.symm.trans six.1) (by decide)
  rw [nextLevel, lastLevel, if_neg light, if_neg light, if_neg notSix, if_neg notSix,
    if_pos four, if_pos four]
  exact ⟨rfl, rfl⟩

end Branches

/-- The levels of a correction of three circles. -/
inductive Level (circles : Fin 3 → Circle K) : ℕ → Correction K → Prop where
  | start : Level circles 0 (newCorrection sqrt circles)
  | next {depth : ℕ} {state : Correction K} {level : ℕ × Correction K} :
      Level circles depth state → nextLevel sqrt depth state = some level →
        Level circles level.1 level.2

end Levels

/-! ## The cached intersections -/

section Cache

variable {K : Type*}

/-- The intersections of the three pairs, in the order of `execute`. -/
def cached (met : Fin 3 × Fin 3 → Meeting × List (Point K)) : List (Intersection K) :=
  circlePairs.map fun pair => ⟨pair.1, pair.2, (met pair).1, (met pair).2⟩

/-- An intersection has two points, others have none. -/
def TwoOrNone (met : Meeting × List (Point K)) : Prop :=
  (met.1 = .intersect ∧ met.2.length = 2) ∨ (met.1 ≠ .intersect ∧ met.2 = [])

theorem circlePairs_eq : circlePairs = [(0, 1), (0, 2), (1, 2)] := by decide

theorem finRange_three : List.finRange 3 = [0, 1, 2] := by decide

theorem cached_eq (met : Fin 3 × Fin 3 → Meeting × List (Point K)) :
    cached met =
      [⟨0, 1, (met (0, 1)).1, (met (0, 1)).2⟩, ⟨0, 2, (met (0, 2)).1, (met (0, 2)).2⟩,
        ⟨1, 2, (met (1, 2)).1, (met (1, 2)).2⟩] := by
  rw [cached, circlePairs_eq]
  rfl

/-- New intersections take the places of those with the same circles. -/
theorem replaceBy_cached (inter1 inter2 : Intersection K)
    (met : Fin 3 × Fin 3 → Meeting × List (Point K)) :
    replaceBy inter1 inter2 (cached met) = cached fun pair =>
      if pair = (inter1.first, inter1.second) then (inter1.state, inter1.points)
      else if pair = (inter2.first, inter2.second) then (inter2.state, inter2.points)
      else met pair := by
  rw [replaceBy, cached, cached, List.map_map]
  apply List.map_congr_left
  rintro ⟨first, second⟩ _
  simp only [Function.comp_apply, Intersection.sameCircles, Prod.mk.injEq,
    Bool.and_eq_true, decide_eq_true_eq]
  split
  · next same => rw [same.1, same.2]
  · split
    · next same => rw [same.1, same.2]
    · rfl

theorem crossings_cached {state : Correction K} {met : Fin 3 × Fin 3 → Meeting × List (Point K)}
    (same : state.intersections = cached met) :
    state.crossings =
      (met (0, 1)).2.map (fun point => ⟨point, 0, 1⟩) ++
        ((met (0, 2)).2.map (fun point => ⟨point, 0, 2⟩) ++
          (met (1, 2)).2.map fun point => ⟨point, 1, 2⟩) := by
  rw [Correction.crossings, same, cached_eq]
  simp

/-- The points of a pair are those of its intersection. -/
theorem mem_crossings_cached {state : Correction K}
    {met : Fin 3 × Fin 3 → Meeting × List (Point K)}
    (same : state.intersections = cached met) {crossing : Crossing K} :
    crossing ∈ state.crossings ↔ (crossing.first, crossing.second) ∈ circlePairs ∧
      crossing.point ∈ (met (crossing.first, crossing.second)).2 := by
  rw [Correction.crossings, same, cached, List.mem_flatMap]
  constructor
  · rintro ⟨inter, member, point⟩
    obtain ⟨pair, among, rfl⟩ := List.mem_map.1 member
    obtain ⟨position, here, rfl⟩ := List.mem_map.1 point
    exact ⟨among, here⟩
  · rintro ⟨among, here⟩
    exact ⟨_, List.mem_map_of_mem among, List.mem_map.2 ⟨crossing.point, here, rfl⟩⟩

theorem length_crossings_cached {state : Correction K}
    {met : Fin 3 × Fin 3 → Meeting × List (Point K)}
    (same : state.intersections = cached met) :
    state.crossings.length =
      (met (0, 1)).2.length + ((met (0, 2)).2.length + (met (1, 2)).2.length) := by
  rw [crossings_cached same]
  simp

theorem TwoOrNone.length_eq {met : Meeting × List (Point K)} (sound : TwoOrNone met) :
    met.2.length = if met.1 = .intersect then 2 else 0 := by
  cases sound with
  | inl two => rw [if_pos two.1, two.2]
  | inr none => rw [if_neg none.1, none.2, List.length_nil]

/-- The search looks at the first circles of the intersections only: it never arrives at
the third circle if one pair intersects. -/
theorem isolatedIndex_cached (met : Fin 3 × Fin 3 → Meeting × List (Point K)) :
    isolatedIndex (cached met) =
      if (met (0, 1)).1 = .intersect ∨ (met (0, 2)).1 = .intersect then
        if (met (1, 2)).1 = .intersect then some 2 else some 1
      else some 0 := by
  rw [isolatedIndex, cached_eq, finRange_three]
  by_cases first : (met (0, 1)).1 = .intersect
  · by_cases third : (met (1, 2)).1 = .intersect
    · simp [first, third]
    · simp [first, third]
  · by_cases second : (met (0, 2)).1 = .intersect
    · by_cases third : (met (1, 2)).1 = .intersect
      · simp [second, third]
      · simp [second, third]
    · simp [first, second]

end Cache

section Loops

variable {K : Type*} [Field K] [LinearOrder K] {sqrt : K → K}

theorem intersections_newCorrection (circles : Fin 3 → Circle K) :
    (newCorrection sqrt circles).intersections =
      cached fun pair => intersect sqrt (circles pair.1) (circles pair.2) := rfl

theorem twoOrNone_intersect (sqrt : K → K) (first second : Circle K) :
    TwoOrNone (intersect sqrt first second) := by
  rw [intersect]
  dsimp only
  split
  · exact .inr ⟨by simp, rfl⟩
  split
  · exact .inr ⟨by simp, rfl⟩
  split
  · exact .inr ⟨by simp, rfl⟩
  split
  · exact .inl ⟨rfl, rfl⟩
  · exact .inl ⟨rfl, rfl⟩

/-- The resizing changes one circle, and what it returns are its intersections. -/
theorem resize_spec (sqrt : K → K) (coeff : K) (index : Fin 3) (again : ℕ)
    (circles : Fin 3 → Circle K) :
    (∃ radius, (resize sqrt coeff index again circles).1 =
        Function.update circles index ((circles index).setRadius radius)) ∧
      (resize sqrt coeff index again circles).2.1 =
        meet sqrt (resize sqrt coeff index again circles).1 index (index + 2) ∧
      (resize sqrt coeff index again circles).2.2 =
        meet sqrt (resize sqrt coeff index again circles).1 index (index + 1) := by
  induction again generalizing circles with
  | zero => exact ⟨⟨_, rfl⟩, rfl, rfl⟩
  | succ again ih =>
      rw [resize]
      split
      · exact ⟨⟨_, rfl⟩, rfl, rfl⟩
      · refine ⟨?_, (ih _).2⟩
        obtain ⟨radius, later⟩ := (ih (Function.update circles index
          ((circles index).setRadius ((circles index).radius * coeff)))).1
        refine ⟨radius, ?_⟩
        rw [later, Function.update_idem, Function.update_self]
        rfl

theorem resized_of_ne (state : Correction K) {index other : Fin 3}
    (different : other ≠ index) : (state.resized sqrt index).1 other = state.circles other := by
  obtain ⟨radius, same⟩ := (resize_spec sqrt (coefficient sqrt state.circles index) index 10
    state.circles).1
  rw [Correction.resized, same, Function.update_of_ne different]

theorem enlarge_spec (sqrt : K → K) (again : ℕ) (circles : Fin 3 → Circle K) :
    (enlarge sqrt again circles).2.1 = meet sqrt (enlarge sqrt again circles).1 0 1 ∧
      (enlarge sqrt again circles).2.2 = meet sqrt (enlarge sqrt again circles).1 0 2 := by
  induction again generalizing circles with
  | zero => exact ⟨rfl, rfl⟩
  | succ again ih =>
      rw [enlarge]
      split
      · exact ⟨rfl, rfl⟩
      · exact ih _

/-- The intersections of the pairs of the circles. -/
def pairMeetings (sqrt : K → K) (circles : Fin 3 → Circle K) :
    Fin 3 × Fin 3 → Meeting × List (Point K) :=
  fun pair => intersect sqrt (circles pair.1) (circles pair.2)

theorem twoOrNone_pairMeetings (circles : Fin 3 → Circle K) (pair : Fin 3 × Fin 3) :
    TwoOrNone (pairMeetings sqrt circles pair) :=
  twoOrNone_intersect sqrt _ _

/-- The new intersections of two pairs take the places of the old ones. -/
theorem replaceBy_meet_cached (circles : Fin 3 → Circle K) (one other third fourth : Fin 3)
    (met : Fin 3 × Fin 3 → Meeting × List (Point K)) :
    replaceBy (meet sqrt circles one other) (meet sqrt circles third fourth) (cached met) =
      cached fun pair => if pair = (one, other) ∨ pair = (third, fourth) then
        pairMeetings sqrt circles pair else met pair := by
  rw [replaceBy_cached]
  congr 1
  funext pair
  change (if pair = (one, other) then pairMeetings sqrt circles (one, other)
    else if pair = (third, fourth) then pairMeetings sqrt circles (third, fourth)
    else met pair) = _
  by_cases first : pair = (one, other)
  · rw [if_pos first, if_pos (Or.inl first), first]
  · by_cases second : pair = (third, fourth)
    · rw [if_neg first, if_pos second, if_pos (Or.inr second), second]
    · rw [if_neg first, if_neg second, if_neg (not_or.2 ⟨first, second⟩)]

theorem intersections_afterResize {state : Correction K}
    {met : Fin 3 × Fin 3 → Meeting × List (Point K)}
    (same : state.intersections = cached met) (index : Fin 3) :
    (state.afterResize sqrt index).intersections = cached fun pair =>
      if pair = (index, index + 2) ∨ pair = (index, index + 1) then
        pairMeetings sqrt (state.resized sqrt index).1 pair
      else met pair := by
  obtain ⟨_, first, second⟩ := resize_spec sqrt
    (coefficient sqrt state.circles index) index 10 state.circles
  rw [Correction.afterResize, Correction.resized, first, second, same]
  exact replaceBy_meet_cached _ _ _ _ _ _

theorem intersections_afterEnlarge {state : Correction K}
    {met : Fin 3 × Fin 3 → Meeting × List (Point K)}
    (same : state.intersections = cached met) :
    (state.afterEnlarge sqrt).intersections = cached fun pair =>
      if pair = (0, 1) ∨ pair = (0, 2) then
        pairMeetings sqrt (enlarge sqrt 10 state.circles).1 pair
      else met pair := by
  obtain ⟨first, second⟩ := enlarge_spec sqrt 10 state.circles
  rw [Correction.afterEnlarge, first, second, same]
  exact replaceBy_meet_cached _ _ _ _ _ _

/-- The two ways to a next level. -/
theorem nextLevel_cases {depth : ℕ} {state : Correction K} {level : ℕ × Correction K}
    (next : nextLevel sqrt depth state = some level) :
    (∃ index, state.crossings.length = 2 ∧ state.maxWeight sqrt ≠ 3 ∧
      isolatedIndex state.intersections = some index ∧ state.Finds sqrt index ∧
        depth < 10 ∧ level = (depth + 1, state.afterResize sqrt index)) ∨
    (state.crossings.length = 0 ∧ level = (0, state.afterEnlarge sqrt)) := by
  rw [nextLevel] at next
  split at next
  · cases next
  next light =>
  split at next
  · cases next
  split at next
  · cases next
  split at next
  · next two =>
      cases isolated : isolatedIndex state.intersections with
      | none => simp [isolated] at next
      | some index =>
          simp only [isolated] at next
          split at next
          · next both =>
              rw [Option.some.injEq] at next
              exact .inl ⟨index, two, light, rfl, both.1, both.2, next.symm⟩
          · cases next
  · split at next
    · next zero =>
        rw [Option.some.injEq] at next
        exact .inr ⟨zero, next.symm⟩
    · cases next

theorem nextLevel_of_zero {state : Correction K} (zero : state.crossings.length = 0)
    (depth : ℕ) : nextLevel sqrt depth state = some (0, state.afterEnlarge sqrt) := by
  have light : state.maxWeight sqrt = 0 := by
    rw [Correction.maxWeight, List.length_eq_zero_iff.1 zero]
    rfl
  simp [nextLevel, light, zero]

/-- At every level the list holds intersections of the three pairs in the same
order. -/
theorem Level.cached {circles : Fin 3 → Circle K} {depth : ℕ} {state : Correction K}
    (level : Level sqrt circles depth state) :
    ∃ met, state.intersections = Localization.cached met ∧ ∀ pair, TwoOrNone (met pair) := by
  induction level with
  | start =>
      exact ⟨fun pair => intersect sqrt (circles pair.1) (circles pair.2), rfl,
        fun pair => twoOrNone_intersect sqrt _ _⟩
  | @next depth state level _ next ih =>
      obtain ⟨met, same, sound⟩ := ih
      obtain ⟨index, _, _, _, _, _, rfl⟩ | ⟨_, rfl⟩ := nextLevel_cases next
      · refine ⟨_, intersections_afterResize same index, fun pair => ?_⟩
        split
        · exact twoOrNone_pairMeetings _ _
        · exact sound pair
      · refine ⟨_, intersections_afterEnlarge same, fun pair => ?_⟩
        split
        · exact twoOrNone_pairMeetings _ _
        · exact sound pair

theorem Level.eq_start {circles : Fin 3 → Circle K}
    (last : nextLevel sqrt 0 (newCorrection sqrt circles) = none) {depth : ℕ}
    {state : Correction K} (level : Level sqrt circles depth state) :
    depth = 0 ∧ state = newCorrection sqrt circles := by
  induction level with
  | start => exact ⟨rfl, rfl⟩
  | next _ next same =>
      rw [same.1, same.2, last] at next
      cases next

end Loops

end IotLab.Localization
