import IotLab.Library.LeastCandidate
import IotLab.Localization.Levels
import Mathlib.Data.Rat.Sqrt

/-!
# The estimate from four points

With four points two pairs of circles intersect.  Every point then has a nearest point of
the other pair, and the two nearest of all are halved.
-/

namespace IotLab.Localization

open IotLab.Library

variable {K : Type*}

/-- Two points of the same pair of circles. -/
def SamePair (crossing other : Crossing K) : Prop :=
  crossing.first = other.first ∧ crossing.second = other.second

instance (crossing other : Crossing K) : Decidable (SamePair crossing other) :=
  inferInstanceAs (Decidable (_ ∧ _))

/-- Of four points each one has a point of another pair. -/
theorem exists_not_samePair {state : Correction K}
    {met : Fin 3 × Fin 3 → Meeting × List (Point K)}
    (same : state.intersections = cached met) (sound : ∀ pair, TwoOrNone (met pair))
    (four : state.crossings.length = 4) {crossing : Crossing K}
    (member : crossing ∈ state.crossings) :
    ∃ other ∈ state.crossings, ¬ SamePair crossing other := by
  have count := length_crossings_cached same
  obtain ⟨among, point⟩ := (mem_crossings_cached same).1 member
  by_contra! alone
  have empty : ∀ pair ∈ circlePairs, pair ≠ (crossing.first, crossing.second) →
      (met pair).2.length = 0 := by
    intro pair listed different
    rw [List.length_eq_zero_iff, List.eq_nil_iff_forall_not_mem]
    intro other here
    obtain ⟨first, second⟩ := alone ⟨other, pair.1, pair.2⟩
      ((mem_crossings_cached same).2 ⟨listed, here⟩)
    exact different (Prod.ext first.symm second.symm)
  have two : (met (crossing.first, crossing.second)).2.length ≤ 2 := by
    rw [(sound _).length_eq]
    split
    · exact le_refl 2
    · exact Nat.zero_le 2
  rw [circlePairs_eq] at among empty
  simp only [List.mem_cons, List.not_mem_nil, or_false] at among
  obtain pair | pair | pair := among
  all_goals
    rw [pair] at two empty
  · have second := empty (0, 2) (by decide) (by decide)
    have third := empty (1, 2) (by decide) (by decide)
    omega
  · have first := empty (0, 1) (by decide) (by decide)
    have third := empty (1, 2) (by decide) (by decide)
    omega
  · have first := empty (0, 1) (by decide) (by decide)
    have second := empty (0, 2) (by decide) (by decide)
    omega

section Search

variable [Field K] [LinearOrder K] {sqrt : K → K}

/-- The candidate of another point for the inner loop. -/
def otherCandidate (sqrt : K → K) (crossing other : Crossing K) : Option (K × Point K) :=
  if SamePair crossing other then none
  else some (distance sqrt crossing.point other.point, other.point)

/-- The inner loop searches the nearest point of another pair. -/
theorem nearestOther_eq (crossings : List (Crossing K)) {index : ℕ} {crossing : Crossing K}
    (here : (crossing, index) ∈ crossings.zipIdx) :
    nearestOther sqrt crossings index crossing =
      leastCandidate (otherCandidate sqrt crossing) crossings := by
  have projected : crossings = crossings.zipIdx.map Prod.fst := (List.zipIdx_map_fst 0 _).symm
  rw [nearestOther, leastCandidate]
  nth_rewrite 2 [projected]
  rw [List.foldl_map]
  apply List.foldl_ext
  rintro best ⟨other, position⟩ member
  by_cases same : SamePair crossing other
  · have skipped : ¬ (position ≠ index ∧ ¬ (crossing.first = other.first ∧
        crossing.second = other.second) ∧
          below (distance sqrt crossing.point other.point) best = true) :=
      fun all => all.2.1 same
    rw [if_neg skipped, otherCandidate, if_pos same, keepLeast]
  · have elsewhere : position ≠ index := by
      rintro rfl
      have first := List.mk_mem_zipIdx_iff_getElem?.1 here
      have second := List.mk_mem_zipIdx_iff_getElem?.1 member
      rw [first, Option.some.injEq] at second
      exact same (second ▸ ⟨rfl, rfl⟩)
    rw [otherCandidate, if_neg same]
    cases best with
    | none => exact if_pos ⟨elsewhere, same, rfl⟩
    | some before =>
        rw [keepLeast]
        by_cases less : distance sqrt crossing.point other.point < before.1
        · rw [if_pos less]
          exact if_pos ⟨elsewhere, same, decide_eq_true less⟩
        · rw [if_neg less]
          exact if_neg fun all => less (of_decide_eq_true all.2.2)

/-- The candidate of a point for the outer loop. -/
def pairCandidate (sqrt : K → K) (crossings : List (Crossing K)) (crossing : Crossing K) :
    Option (K × Point K × Point K) :=
  (leastCandidate (otherCandidate sqrt crossing) crossings).map fun found =>
    (found.1, crossing.point, found.2)

/-- The position that the outer loop leads to. -/
def Correction.between (state : Correction K) :
    Option (K × Point K × Point K) → Except Failure (Correction K)
  | none => .error .nullPointer
  | some (_, first, second) =>
      .ok { state with position := (half (first.1 + second.1), half (first.2 + second.2)) }

/-- A turn of the outer loop with the point that the inner one has found. -/
def keepPair (best : Option (K × Point K × Point K)) (point : Point K) :
    Option (K × Point K) → Option (K × Point K × Point K)
  | none => best
  | some (least, other) =>
      match best with
      | none => some (least, point, other)
      | some (min, _) => if least < min then some (least, point, other) else best

theorem nearestPair_eq_between (state : Correction K) :
    state.nearestPair sqrt = state.between (state.crossings.zipIdx.foldl
      (fun best current => keepPair best current.1.point
        (nearestOther sqrt state.crossings current.2 current.1)) none) := rfl

/-- The outer loop searches the least of the distances. -/
theorem nearestPair_eq (state : Correction K) :
    state.nearestPair sqrt =
      state.between (leastCandidate (pairCandidate sqrt state.crossings) state.crossings) := by
  have projected : state.crossings = state.crossings.zipIdx.map Prod.fst :=
    (List.zipIdx_map_fst 0 _).symm
  rw [nearestPair_eq_between, leastCandidate]
  congr 1
  nth_rewrite 4 [projected]
  rw [List.foldl_map]
  apply List.foldl_ext
  rintro best ⟨crossing, index⟩ member
  rw [nearestOther_eq state.crossings member, pairCandidate]
  cases leastCandidate (otherCandidate sqrt crossing) state.crossings with
  | none => rfl
  | some found =>
      cases best with
      | none => rfl
      | some before => rfl

/-- With four points every point has a nearest one of another pair as its candidate. -/
theorem exists_pairCandidate {circles : Fin 3 → Circle K} {depth : ℕ} {state : Correction K}
    (level : Level sqrt circles depth state) (four : state.crossings.length = 4)
    {crossing : Crossing K} (member : crossing ∈ state.crossings) :
    ∃ other ∈ state.crossings, ¬ SamePair crossing other ∧
      pairCandidate sqrt state.crossings crossing =
        some (distance sqrt crossing.point other.point, crossing.point, other.point) ∧
      ∀ third ∈ state.crossings, ¬ SamePair crossing third →
        distance sqrt crossing.point other.point ≤
          distance sqrt crossing.point third.point := by
  obtain ⟨met, same, sound⟩ := level.cached
  obtain ⟨among, least⟩ :=
    leastOf_leastCandidate (otherCandidate sqrt crossing) state.crossings
  obtain ⟨some_, someMember, different⟩ := exists_not_samePair same sound four member
  obtain ⟨found, kept, _⟩ := least some_ someMember _ (if_neg different)
  obtain ⟨other, otherMember, candidate⟩ := among found kept
  rw [otherCandidate] at candidate
  split at candidate
  · cases candidate
  · next unlike =>
      rw [Option.some.injEq] at candidate
      refine ⟨other, otherMember, unlike, ?_, ?_⟩
      · rw [pairCandidate, kept, ← candidate]
        rfl
      · intro third thirdMember thirdUnlike
        obtain ⟨again, same_, low⟩ := least third thirdMember _ (if_neg thirdUnlike)
        rw [kept, Option.some.injEq] at same_
        rw [← same_, ← candidate] at low
        exact low

/-- With four points the estimate is the midpoint of the two nearest points of different
pairs. -/
theorem nearestPair_four {circles : Fin 3 → Circle K} {depth : ℕ} {state : Correction K}
    (level : Level sqrt circles depth state) (four : state.crossings.length = 4) :
    ∃ first ∈ state.crossings, ∃ second ∈ state.crossings, ¬ SamePair first second ∧
      (∀ third ∈ state.crossings, ∀ fourth ∈ state.crossings, ¬ SamePair third fourth →
        distance sqrt first.point second.point ≤ distance sqrt third.point fourth.point) ∧
      state.nearestPair sqrt = .ok { state with
        position := (half (first.point.1 + second.point.1),
          half (first.point.2 + second.point.2)) } := by
  obtain ⟨among, least⟩ :=
    leastOf_leastCandidate (pairCandidate sqrt state.crossings) state.crossings
  obtain ⟨any, anyMember⟩ := List.exists_mem_of_length_pos (by omega : 0 < state.crossings.length)
  obtain ⟨_, _, _, candidate, _⟩ := exists_pairCandidate level four anyMember
  obtain ⟨found, kept, _⟩ := least any anyMember _ candidate
  obtain ⟨first, firstMember, firstCandidate⟩ := among found kept
  obtain ⟨second, secondMember, different, chosen, _⟩ :=
    exists_pairCandidate level four firstMember
  rw [chosen, Option.some.injEq] at firstCandidate
  refine ⟨first, firstMember, second, secondMember, different, ?_, ?_⟩
  · intro third thirdMember fourth fourthMember unlike
    obtain ⟨nearest, _, _, thirdCandidate, near⟩ := exists_pairCandidate level four thirdMember
    obtain ⟨again, same_, low⟩ := least third thirdMember _ thirdCandidate
    rw [kept, Option.some.injEq] at same_
    rw [← same_, ← firstCandidate] at low
    exact le_trans low (near fourth fourthMember unlike)
  · rw [nearestPair_eq, kept, ← firstCandidate, Correction.between]

/-- A call that reaches the branch for four points sets the position to the midpoint of
two points of different pairs, and no two such points are nearer to each other. -/
theorem doCorrection_four {circles : Fin 3 → Circle K} {depth : ℕ} {state : Correction K}
    (level : Level sqrt circles depth state) (four : state.crossings.length = 4)
    (two : state.maxWeight sqrt = 2) (fuel : ℕ) :
    ∃ first ∈ state.crossings, ∃ second ∈ state.crossings, ¬ SamePair first second ∧
      (∀ third ∈ state.crossings, ∀ fourth ∈ state.crossings, ¬ SamePair third fourth →
        distance sqrt first.point second.point ≤ distance sqrt third.point fourth.point) ∧
      doCorrection sqrt (fuel + 1) depth state = .ok { state with
        position := (half (first.point.1 + second.point.1),
          half (first.point.2 + second.point.2)) } := by
  obtain ⟨first, firstMember, second, secondMember, different, least, computed⟩ :=
    nearestPair_four level four
  refine ⟨first, firstMember, second, secondMember, different, least, ?_⟩
  have branch := branch_four ⟨four, two⟩ depth
  rw [doCorrection_succ, branch.1]
  exact branch.2.trans computed

end Search

/-- Three circles in a row, each one touching the next. -/
def circleRow : Fin 3 → Circle ℚ :=
  ![⟨(0, 0), 5, [], 0⟩, ⟨(10, 0), 5, [], 0⟩, ⟨(20, 0), 5, [], 0⟩]

theorem doCorrection_circleRow :
    ∃ first ∈ (newCorrection Rat.sqrt circleRow).crossings,
      ∃ second ∈ (newCorrection Rat.sqrt circleRow).crossings, ¬ SamePair first second ∧
        doCorrection Rat.sqrt 1 0 (newCorrection Rat.sqrt circleRow) =
          .ok { newCorrection Rat.sqrt circleRow with
            position := (half (first.point.1 + second.point.1),
              half (first.point.2 + second.point.2)) } := by
  obtain ⟨first, firstMember, second, secondMember, different, _, computed⟩ :=
    doCorrection_four (Level.start : Level Rat.sqrt circleRow 0 _) (by decide +kernel)
      (by decide +kernel) 0
  exact ⟨first, firstMember, second, secondMember, different, computed⟩

end IotLab.Localization
