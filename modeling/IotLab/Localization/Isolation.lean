import IotLab.Localization.Meetings

/-!
# The isolated circle

When one pair of circles intersects, the branch for two points looks for the circle that
is in no such pair.  The search marks the first circles of the intersections only: for
the first pair it finds the second circle of the pair.
-/

namespace IotLab.Localization

section Isolation

variable {K : Type*}

/-- Of the three pairs only this one intersects. -/
def OnlyPair (intersections : List (Intersection K)) (pair : Fin 3 × Fin 3) : Prop :=
  pair ∈ circlePairs ∧ ∀ inter ∈ intersections,
    inter.state = .intersect ↔ (inter.first, inter.second) = pair

variable {met : Fin 3 × Fin 3 → Meeting × List (Point K)} {pair : Fin 3 × Fin 3}
variable {isolated : Fin 3}

theorem OnlyPair.met_iff (only : OnlyPair (cached met) pair) (other : Fin 3 × Fin 3)
    (member : other ∈ circlePairs) : (met other).1 = .intersect ↔ other = pair :=
  only.2 _ (List.mem_map_of_mem member)

theorem isolatedIndex_eq_iff (only : OnlyPair (cached met) pair)
    (outside : isolated ≠ pair.1 ∧ isolated ≠ pair.2) :
    isolatedIndex (cached met) = some isolated ↔ pair ≠ (0, 1) := by
  have first := only.met_iff (0, 1) (by decide)
  have second := only.met_iff (0, 2) (by decide)
  have third := only.met_iff (1, 2) (by decide)
  have among := only.1
  rw [isolatedIndex_cached]
  simp only [first, second, third]
  clear first second third only
  revert pair isolated
  decide

variable [Field K] [LinearOrder K] {sqrt : K → K}

/-- When one pair intersects, the search finds the circle outside it and the branch for
two points leaves the others alone exactly if the pair is not that of the circles 0
and 1. -/
theorem isolated_resized_iff {circles : Fin 3 → Circle K} {depth : ℕ}
    {state : Correction K} (level : Level sqrt circles depth state)
    (only : OnlyPair state.intersections pair)
    (outside : isolated ≠ pair.1 ∧ isolated ≠ pair.2) :
    (isolatedIndex state.intersections = some isolated ∧
      ∀ index, isolatedIndex state.intersections = some index →
        ∀ other, other ≠ isolated →
          (state.resized sqrt index).1 other = state.circles other) ↔
      pair ≠ (0, 1) := by
  obtain ⟨met, same, _⟩ := level.cached
  rw [same] at only ⊢
  rw [← isolatedIndex_eq_iff only outside, and_iff_left_iff_imp]
  intro found index other_ other different
  rw [found, Option.some.injEq] at other_
  exact resized_of_ne state (other_ ▸ different)

end Isolation

/-! ## Three circles in a row -/

/-- Two circles that touch and one far away. -/
def touching : Fin 3 → Circle ℝ := ![natOnAxis 0 1, natOnAxis 2 1, natOnAxis 10 1]

/-- The same circles, the one far away first. -/
def touchingLast : Fin 3 → Circle ℝ := ![natOnAxis 10 1, natOnAxis 0 1, natOnAxis 2 1]

theorem onlyPair_newCorrection_iff (circles : Fin 3 → Circle ℝ) (pair : Fin 3 × Fin 3) :
    OnlyPair (newCorrection Real.sqrt circles).intersections pair ↔
      pair ∈ circlePairs ∧ ∀ other ∈ circlePairs,
        meeting Real.sqrt (circles other.1) (circles other.2) = .intersect ↔ other = pair := by
  rw [OnlyPair, newCorrection, List.forall_mem_map]
  rfl

theorem onlyPair_touching :
    OnlyPair (newCorrection Real.sqrt touching).intersections (0, 1) := by
  rw [onlyPair_newCorrection_iff, circlePairs_eq]
  refine ⟨by decide, ?_⟩
  simp only [List.forall_mem_cons, touching, Matrix.cons_val, natOnAxis_eq, meeting_onAxis]
  norm_num
  decide

theorem onlyPair_touchingLast :
    OnlyPair (newCorrection Real.sqrt touchingLast).intersections (1, 2) := by
  rw [onlyPair_newCorrection_iff, circlePairs_eq]
  refine ⟨by decide, ?_⟩
  simp only [List.forall_mem_cons, touchingLast, Matrix.cons_val, natOnAxis_eq, meeting_onAxis]
  norm_num
  decide

/-- Of the two circles that touch, the second one is taken for the isolated one. -/
theorem not_isolated_touching :
    ¬ ∀ (circles : Fin 3 → Circle ℝ) (pair : Fin 3 × Fin 3) (isolated : Fin 3),
      OnlyPair (newCorrection Real.sqrt circles).intersections pair →
        isolated ≠ pair.1 ∧ isolated ≠ pair.2 →
          isolatedIndex (newCorrection Real.sqrt circles).intersections = some isolated := by
  intro always
  have found := always touching (0, 1) 2 onlyPair_touching (by decide)
  have only := onlyPair_touching
  rw [intersections_newCorrection] at found only
  exact (isolatedIndex_eq_iff only (by decide)).1 found rfl

theorem isolated_touchingLast :
    isolatedIndex (newCorrection Real.sqrt touchingLast).intersections = some 0 ∧
      ∀ other : Fin 3, other ≠ 0 →
        ((newCorrection Real.sqrt touchingLast).resized Real.sqrt 0).1 other =
          touchingLast other := by
  have outside : (0 : Fin 3) ≠ ((1 : Fin 3), (2 : Fin 3)).1 ∧
      (0 : Fin 3) ≠ ((1 : Fin 3), (2 : Fin 3)).2 := by
    decide
  have begun : Level Real.sqrt touchingLast 0 (newCorrection Real.sqrt touchingLast) :=
    .start
  obtain ⟨found, kept⟩ :=
    (isolated_resized_iff begun onlyPair_touchingLast outside).2 (by decide)
  exact ⟨found, kept 0 found⟩

end IotLab.Localization
