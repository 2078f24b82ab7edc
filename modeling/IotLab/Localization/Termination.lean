import IotLab.Localization.CachedMeetings
import IotLab.Localization.Estimate

/-!
# Does the error correction return

With points the depth bounds the recursion, and the points stay.  Without points the
depth starts again at every call: the correction returns if the circles come to
intersect, which nested circles never do.
-/

namespace IotLab.Localization

open IotLab.Library

section Runs

variable {K : Type*} [Field K] [LinearOrder K] {sqrt : K → K}
variable {circles : Fin 3 → Circle K} {depth : ℕ} {state : Correction K}

theorem lastLevel_ok (level : Level sqrt circles depth state) :
    ∃ result, lastLevel sqrt state = .ok result := by
  by_cases sets : SetsPosition sqrt state
  · obtain heavy | six | four := sets
    · exact ⟨_, (branch_heavy heavy depth).2⟩
    · exact ⟨_, (branch_six six depth).2.trans (nearestThree_six level six.1)⟩
    · obtain ⟨first, _, second, _, _, _, computed⟩ := nearestPair_four level four.1
      exact ⟨_, (branch_four four depth).2.trans computed⟩
  · obtain ⟨result, returned, _⟩ := lastLevel_of_not_sets sets
    exact ⟨result, returned⟩

/-- A call with points returns: the depth grows up to its bound. -/
theorem returns_of_crossings (level : Level sqrt circles depth state)
    (points : state.crossings ≠ []) :
    ∃ fuel result, doCorrection sqrt fuel depth state = .ok result := by
  -- only calls without points start the depth again
  induction left : 10 - depth using Nat.strong_induction_on generalizing depth state with
  | _ left ih =>
      cases next : nextLevel sqrt depth state with
      | none =>
          obtain ⟨result, returned⟩ := lastLevel_ok level
          refine ⟨1, result, ?_⟩
          rw [doCorrection_succ, next]
          exact returned
      | some after =>
          obtain ⟨shallow, deeper, points'⟩ := nextLevel_of_crossings level points next
          obtain ⟨fuel, result, returned⟩ :=
            ih (10 - after.1) (by omega) (level.next next) points' rfl
          refine ⟨fuel + 1, result, ?_⟩
          rw [doCorrection_succ, next]
          exact returned

/-- After the enlarging there are points exactly if circle 0 intersects another one. -/
theorem crossings_afterEnlarge_iff (level : Level sqrt circles depth state)
    (none : state.crossings = []) :
    (state.afterEnlarge sqrt).crossings ≠ [] ↔
      Meets sqrt 0 (enlarge sqrt 10 state.circles).1 := by
  obtain ⟨met, same, _⟩ := level.cached
  have last : (met (1, 2)).2.length = 0 := by
    have lengths := length_crossings_cached same
    rw [none, List.length_nil] at lengths
    omega
  have skipped : ¬ (((1 : Fin 3), (2 : Fin 3)) = (0, 1) ∨ ((1 : Fin 3), (2 : Fin 3)) = (0, 2)) := by
    decide
  have length : ∀ pair : Fin 3 × Fin 3,
      (pairMeetings sqrt (enlarge sqrt 10 state.circles).1 pair).2.length =
        if meeting sqrt ((enlarge sqrt 10 state.circles).1 pair.1)
          ((enlarge sqrt 10 state.circles).1 pair.2) = .intersect then 2 else 0 :=
    fun pair => (twoOrNone_intersect sqrt _ _).length_eq
  rw [← List.length_pos_iff_ne_nil, length_crossings_cached (intersections_afterEnlarge same),
    if_pos (Or.inl rfl), if_pos (Or.inr rfl), if_neg skipped, last, length, length, meets_iff]
  grind

theorem meets_enlarge_iff (circles : Fin 3 → Circle K) :
    Meets sqrt 0 (enlarge sqrt 10 circles).1 ↔
      ∃ count ≤ 10, Meets sqrt 0 ((enlargeStep sqrt)^[count + 1] circles) := by
  rw [enlarge_eq]
  exact stop_repeatUntil_iff _ _

theorem enlarge_of_not_meets (none : ¬ Meets sqrt 0 (enlarge sqrt 10 circles).1) :
    (enlarge sqrt 10 circles).1 = (enlargeStep sqrt)^[11] circles := by
  rw [enlarge_eq] at none ⊢
  obtain ⟨count, repeats, same⟩ := exists_repeats (enlargeStep sqrt) (Meets sqrt 0) 10 circles
  rw [same] at none ⊢
  rw [repeats.last.resolve_left none]

theorem doCorrection_of_no_crossings (fuel : ℕ) (none : state.crossings = []) :
    doCorrection sqrt (fuel + 1) 0 state = doCorrection sqrt fuel 0 (state.afterEnlarge sqrt) := by
  rw [doCorrection_succ, nextLevel_of_zero (List.length_eq_zero_iff.2 none)]

theorem iterate_afterEnlarge (missed : ¬ Meets sqrt 0 (enlarge sqrt 10 state.circles).1)
    (count : ℕ) :
    (enlargeStep sqrt)^[count + 1] (state.afterEnlarge sqrt).circles =
      (enlargeStep sqrt)^[count + 11 + 1] state.circles := by
  rw [Correction.afterEnlarge, enlarge_of_not_meets missed, ← Function.iterate_add_apply,
    Nat.add_right_comm]

theorem Level.afterEnlarge (level : Level sqrt circles 0 state) (none : state.crossings = []) :
    Level sqrt circles 0 (state.afterEnlarge sqrt) :=
  level.next (nextLevel_of_zero (List.length_eq_zero_iff.2 none) 0)

/-- A call without points returns exactly if circle 0 comes to intersect another one. -/
theorem returns_iff_of_no_crossings (level : Level sqrt circles 0 state)
    (none : state.crossings = []) :
    (∃ fuel result, doCorrection sqrt fuel 0 state = .ok result) ↔
      ∃ count, Meets sqrt 0 ((enlargeStep sqrt)^[count + 1] state.circles) := by
  constructor
  · rintro ⟨fuel, result, returned⟩
    induction fuel generalizing state with
    | zero => cases returned
    | succ fuel ih =>
        by_cases met : Meets sqrt 0 (enlarge sqrt 10 state.circles).1
        · obtain ⟨count, _, here⟩ := (meets_enlarge_iff _).1 met
          exact ⟨count, here⟩
        · have none' := not_not.1 (mt (crossings_afterEnlarge_iff level none).1 met)
          rw [doCorrection_of_no_crossings fuel none] at returned
          obtain ⟨count, here⟩ := ih (level.afterEnlarge none) none' returned
          rw [iterate_afterEnlarge met] at here
          exact ⟨count + 11, here⟩
  · rintro ⟨count, here⟩
    induction count using Nat.strong_induction_on generalizing state with
    | _ count ih =>
        by_cases met : Meets sqrt 0 (enlarge sqrt 10 state.circles).1
        · have points := (crossings_afterEnlarge_iff level none).2 met
          obtain ⟨fuel, result, returned⟩ :=
            returns_of_crossings (level.afterEnlarge none) points
          exact ⟨fuel + 1, result, (doCorrection_of_no_crossings fuel none).trans returned⟩
        · -- the steps of this call are not enough
          have later : 11 ≤ count := by
            by_contra early
            exact met ((meets_enlarge_iff _).2 ⟨count, by omega, here⟩)
          obtain ⟨more, rfl⟩ := Nat.exists_eq_add_of_le' later
          rw [← iterate_afterEnlarge met] at here
          have none' := not_not.1 (mt (crossings_afterEnlarge_iff level none).1 met)
          obtain ⟨fuel, result, returned⟩ :=
            ih more (by omega) (level.afterEnlarge none) none' here
          exact ⟨fuel + 1, result, (doCorrection_of_no_crossings fuel none).trans returned⟩

end Runs

section Circles

variable {circles : Fin 3 → Circle ℝ}

/-- The correction of three circles returns. -/
def Returns (circles : Fin 3 → Circle ℝ) : Prop :=
  ∃ fuel result,
    doCorrection Real.sqrt fuel 0 (newCorrection Real.sqrt circles) = .ok result

/-- Circle 0 comes to intersect another one: while the circles 0 and 1 grow towards each
other or, if these are not apart, when circle 2 gets its radius. -/
inductive ComesToMeet (first second third : Circle ℝ) : Prop where
  | growing (count : ℕ)
      (apart : (first.radius + second.radius) * (5 / 4) ^ count <
        distance Real.sqrt first.center second.center)
      (meets : Meets Real.sqrt 0 (grown Real.sqrt (5 / 4) first second third (count + 1)))
  | third
      (near : distance Real.sqrt first.center second.center ≤ first.radius + second.radius)
      (apart : first.radius + third.radius < distance Real.sqrt first.center third.center)
      (meets : meeting Real.sqrt first (third.setRadius (second.radius * (5 / 4))) = .intersect)

section Three

variable {first second third : Circle ℝ}
variable (nonneg : 0 ≤ first.radius ∧ 0 ≤ second.radius ∧ 0 ≤ third.radius)

/-- Circles that are not apart meet if circle 2 gets a radius with which it does. -/
theorem meets_nextThird_iff (firstTwo : meeting Real.sqrt first second ≠ .intersect)
    (firstThird : meeting Real.sqrt first third ≠ .intersect) :
    Meets Real.sqrt 0 ![first, second, nextThird Real.sqrt (5 / 4) first second third] ↔
      first.radius + third.radius < distance Real.sqrt first.center third.center ∧
        meeting Real.sqrt first (third.setRadius (second.radius * (5 / 4))) = .intersect := by
  have last : Meets Real.sqrt 0 ![first, second, nextThird Real.sqrt (5 / 4) first second third] ↔
      meeting Real.sqrt first (nextThird Real.sqrt (5 / 4) first second third) = .intersect :=
    meets_iff.trans (or_iff_left firstTwo)
  rw [last]
  by_cases apart : first.radius + third.radius < distance Real.sqrt first.center third.center
  · rw [nextThird, if_pos apart, and_iff_right apart]
  · rw [nextThird, if_neg apart]
    exact iff_of_false firstThird fun both => apart both.1

include nonneg

theorem comesToMeet_iff (firstTwo : meeting Real.sqrt first second ≠ .intersect)
    (firstThird : meeting Real.sqrt first third ≠ .intersect) :
    (∃ count, Meets Real.sqrt 0
        ((enlargeStep Real.sqrt)^[count + 1] ![first, second, third])) ↔
      ComesToMeet first second third := by
  by_cases apart : first.radius + second.radius <
      distance Real.sqrt first.center second.center
  · rw [exists_iterate_iff nonneg apart]
    constructor
    · rintro ⟨count, still, meets⟩
      exact .growing count still meets
    · intro comes
      cases comes with
      | growing count still meets => exact ⟨count, still, meets⟩
      | third near => exact absurd apart (not_lt.2 near)
  · have near := not_lt.1 apart
    simp only [iterate_enlargeStep_of_near near, exists_const]
    rw [meets_nextThird_iff firstTwo firstThird]
    constructor
    · exact fun both => .third near both.1 both.2
    · intro comes
      cases comes with
      | third _ apart' meets => exact ⟨apart', meets⟩
      | growing count still =>
          -- the circles have not been apart after some turns only
          have sum : 0 ≤ first.radius + second.radius := add_nonneg nonneg.1 nonneg.2.1
          have more : (1 : ℝ) ≤ (5 / 4) ^ count := one_le_pow₀ (by norm_num)
          exact absurd ((le_mul_of_one_le_right sum more).trans_lt still) apart

end Three

theorem returns_iff_comesToMeet (nonneg : ∀ index, 0 ≤ (circles index).radius)
    (none : ¬ SomePairMeets circles) :
    Returns circles ↔ ComesToMeet (circles 0) (circles 1) (circles 2) := by
  have noCrossings : (newCorrection Real.sqrt circles).crossings = [] :=
    not_not.1 (mt crossings_newCorrection_iff.1 none)
  rw [Returns, returns_iff_of_no_crossings .start noCrossings]
  obtain ⟨first, second, third, rfl⟩ := exists_vector circles
  exact comesToMeet_iff ⟨nonneg 0, nonneg 1, nonneg 2⟩
    (fun met => none ⟨(0, 1), by decide, met⟩) fun met => none ⟨(0, 2), by decide, met⟩

/-- The correction returns exactly if a pair of circles intersects or circle 0 comes to
intersect another one. -/
theorem returns_iff (nonneg : ∀ index, 0 ≤ (circles index).radius) :
    Returns circles ↔
      SomePairMeets circles ∨ ComesToMeet (circles 0) (circles 1) (circles 2) := by
  by_cases met : SomePairMeets circles
  · refine iff_of_true ?_ (.inl met)
    exact returns_of_crossings .start (crossings_newCorrection_iff.2 met)
  · rw [or_iff_right met]
    exact returns_iff_comesToMeet nonneg met

/-! ## Nested circles -/

/-- Three circles around one point. -/
def nested : Fin 3 → Circle ℝ := ![natOnAxis 0 1, natOnAxis 0 2, natOnAxis 0 3]

/-- The circles are never changed, and the recursion never ends. -/
theorem not_returns_nested :
    ¬ ∀ circles : Fin 3 → Circle ℝ, (∀ index, 0 ≤ (circles index).radius) →
      Returns circles := by
  intro always
  have nonneg : ∀ index, 0 ≤ (nested index).radius := natOnAxis_nonneg 0 0 0 1 2 3
  have surrounded : ∀ pair ∈ circlePairs,
      meeting Real.sqrt (nested pair.1) (nested pair.2) = .surrounded := by
    rw [circlePairs_eq]
    simp only [List.forall_mem_cons, nested, Matrix.cons_val, natOnAxis_eq, meeting_onAxis]
    norm_num
  have none : ¬ SomePairMeets nested := by
    rintro ⟨pair, member, met⟩
    exact absurd ((surrounded pair member).symm.trans met) (by decide)
  have center : ∀ index, distance Real.sqrt (nested 0).center (nested index).center = 0 := by
    intro index
    fin_cases index
    all_goals norm_num [nested, distance_onAxis]
  cases (returns_iff_comesToMeet nonneg none).1 (always nested nonneg) with
  | growing count apart =>
      rw [center] at apart
      have sum := add_nonneg (nonneg 0) (nonneg 1)
      exact absurd apart (not_lt.2 (mul_nonneg sum (by positivity)))
  | third _ apart =>
      rw [center] at apart
      exact absurd apart (not_lt.2 (add_nonneg (nonneg 0) (nonneg 2)))

theorem returns_apart : Returns apart := by
  have nonneg : 0 ≤ (onAxis 0 16).radius ∧ 0 ≤ (onAxis 40 16).radius ∧
      0 ≤ (onAxis 72 4).radius := by
    norm_num
  have still : ((onAxis 0 16).radius + (onAxis 40 16).radius) * (5 / 4) ^ 0 <
      distance Real.sqrt (onAxis 0 16).center (onAxis 40 16).center := by
    rw [distance_apart]
    norm_num
  have once : grown Real.sqrt (5 / 4) (onAxis 0 16) (onAxis 40 16) (onAxis 72 4) 1 =
      enlargeStep Real.sqrt apart := by
    rw [← enlargeStep_grown nonneg still, grown_zero nonneg, apart_eq]
  refine (returns_iff apart_nonneg).2 (.inr ?_)
  rw [apart_eq]
  exact .growing 0 still (once ▸ meets_enlargeStep_apart)

end Circles

end IotLab.Localization
