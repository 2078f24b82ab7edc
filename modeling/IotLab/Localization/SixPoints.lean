import IotLab.Localization.Meetings
import Mathlib.Data.Rat.Sqrt

/-!
# The estimate from six points

With six points the position is meant to be the centroid of a point and its two nearest
ones.  The loops run to the number of the intersections, which is three: whatever the
distances are, the position is the centroid of the first three points.
-/

namespace IotLab.Localization

section Search

variable {K : Type*} [Field K] [LinearOrder K] (sqrt : K → K)

/-- The centroid of three points. -/
def centroid (first second third : Point K) : Point K :=
  ((first.1 + second.1 + third.1) / (3 : ℕ), (first.2 + second.2 + third.2) / (3 : ℕ))

/-- Two other points of a point such that no further one is nearer to it. -/
structure TwoNearest (points : List (Point K)) (index near next : Fin points.length) :
    Prop where
  distinct : index ≠ near ∧ index ≠ next ∧ near ≠ next
  nearest : ∀ other, other ≠ index → other ≠ near → other ≠ next →
    distance sqrt (points.get index) (points.get near) ≤
        distance sqrt (points.get index) (points.get other) ∧
      distance sqrt (points.get index) (points.get next) ≤
        distance sqrt (points.get index) (points.get other)

/-- The sum of the distances to two points. -/
def distanceSum (points : List (Point K)) (index near next : Fin points.length) : K :=
  distance sqrt (points.get index) (points.get near) +
    distance sqrt (points.get index) (points.get next)

/-- A point and its two nearest ones, with the least sum of their distances. -/
structure LeastTriple (points : List (Point K)) (index near next : Fin points.length) :
    Prop where
  nearest : TwoNearest sqrt points index near next
  least : ∀ index' near' next', TwoNearest sqrt points index' near' next' →
    distanceSum sqrt points index near next ≤ distanceSum sqrt points index' near' next'

/-- The centroid of such a point and its two nearest ones. -/
def BestCentroid (points : List (Point K)) (position : Point K) : Prop :=
  ∃ index near next, LeastTriple sqrt points index near next ∧
    position = centroid (points.get index) (points.get near) (points.get next)

/-- The first three points have the same sum as such a point and its two nearest ones. -/
def FirstThreeBalance (points : List (Point K)) : Prop :=
  ∃ index near next, LeastTriple sqrt points index near next ∧
    (points.take 3).sum = points.get index + points.get near + points.get next

instance (points : List (Point K)) (index near next : Fin points.length) :
    Decidable (TwoNearest sqrt points index near next) :=
  decidable_of_iff (_ ∧ _) ⟨fun both => ⟨both.1, both.2⟩, fun two => ⟨two.1, two.2⟩⟩

instance (points : List (Point K)) (index near next : Fin points.length) :
    Decidable (LeastTriple sqrt points index near next) :=
  decidable_of_iff (_ ∧ _) ⟨fun both => ⟨both.1, both.2⟩, fun least => ⟨least.1, least.2⟩⟩

instance (points : List (Point K)) : Decidable (FirstThreeBalance sqrt points) :=
  inferInstanceAs (Decidable (∃ _ _ _, _ ∧ _))

/-! ## The search in three points -/

variable {sqrt}

omit [Field K] in
theorem nearestStep_two (value other : K) (point second : Point K) :
    nearestStep (nearestStep (none, none) value point) other second =
      if other < value then (some (other, second), some (value, point))
      else (some (value, point), some (other, second)) := by
  have first : nearestStep (none, none) value point = (some (value, point), none) := rfl
  rw [first]
  by_cases less : other < value
  · simp [nearestStep, below, less]
  · simp [nearestStep, below, less]

/-- A point with two others that the inner loop has kept, all made of given points. -/
def Keeps (points : List (Point K)) (point : Point K) (nearest : Nearest K) : Prop :=
  ∃ near first next second, nearest = (some (near, first), some (next, second)) ∧
    [point, first, second].Perm points

omit [Field K] in
theorem keeps_nearestStep {points : List (Point K)} {value other : K}
    {point first second : Point K} (perm : [point, first, second].Perm points) :
    Keeps points point
      (nearestStep (nearestStep (none, none) value first) other second) := by
  rw [nearestStep_two]
  split
  · exact ⟨_, second, _, first, rfl,
      ((List.Perm.swap first second []).cons point).trans perm⟩
  · exact ⟨_, first, _, second, rfl, perm⟩

/-- What the outer loop has kept. -/
def KeptFrom (points : List (Point K)) (best : Option (K × Point K × Nearest K)) : Prop :=
  ∃ sum point nearest, best = some (sum, point, nearest) ∧ Keeps points point nearest

/-- A turn of the outer loop with the points that the inner one has kept. -/
def keepBest (sqrt : K → K) (best : Option (K × Point K × Nearest K)) (point : Point K)
    (nearest : Nearest K) : Except Failure (Option (K × Point K × Nearest K)) :=
  match nearest.1 with
  | none => .error .nullPointer
  | some (_, first) =>
      let sum := distance sqrt first point + distance sqrt first point
      match best with
      | none => .ok (some (sum, point, nearest))
      | some (min, _) => if sum < min then .ok (some (sum, point, nearest)) else .ok best

/-- A turn keeps the new triple or the old one. -/
theorem keptFrom_keepBest (sqrt : K → K) {points : List (Point K)}
    {best : Option (K × Point K × Nearest K)} (kept : best = none ∨ KeptFrom points best)
    {point : Point K} {nearest : Nearest K} (keeps : Keeps points point nearest) :
    ∃ next, keepBest sqrt best point nearest = .ok next ∧ KeptFrom points next := by
  obtain ⟨near, first, next, second, rfl, perm⟩ := keeps
  have new : ∀ sum, KeptFrom points
      (some (sum, point, some (near, first), some (next, second))) :=
    fun sum => ⟨sum, point, _, rfl, near, first, next, second, rfl, perm⟩
  cases best with
  | none => exact ⟨_, rfl, new _⟩
  | some before =>
      by_cases less : distance sqrt first point + distance sqrt first point < before.1
      · exact ⟨_, if_pos less, new _⟩
      · refine ⟨_, if_neg less, ?_⟩
        cases kept with
        | inl none => cases none
        | inr old => exact old

/-- The position that the outer loop leads to. -/
def Correction.around (state : Correction K) :
    Option (K × Point K × Nearest K) → Except Failure (Correction K)
  | some (_, point, some (_, first), some (_, second)) =>
      .ok { state with position := centroid point first second }
  | _ => .error .nullPointer

theorem nearestThree_eq (state : Correction K) :
    state.nearestThree sqrt =
      let points := (state.crossings.map Crossing.point).take state.intersections.length
      (points.zipIdx.foldlM (fun best current =>
        keepBest sqrt best current.1 (nearestTwo sqrt points current.2 current.1)) none).bind
          state.around := rfl

omit [LinearOrder K] in
/-- A kept triple leads to the centroid of the points. -/
theorem KeptFrom.around {first second third : Point K}
    {best : Option (K × Point K × Nearest K)} (kept : KeptFrom [first, second, third] best)
    (state : Correction K) :
    state.around best = .ok { state with position := centroid first second third } := by
  obtain ⟨sum, point, _, rfl, near, left, next, right, rfl, perm⟩ := kept
  have coordinate : ∀ coordinate : Point K → K,
      coordinate point + coordinate left + coordinate right =
        coordinate first + coordinate second + coordinate third := by
    intro coordinate
    have sums := (perm.map coordinate).sum_eq
    simp only [List.map_cons, List.map_nil, List.sum_cons, List.sum_nil, add_zero,
      ← add_assoc] at sums
    exact sums
  rw [Correction.around, centroid, coordinate Prod.fst, coordinate Prod.snd]
  rfl

/-- The search in three points keeps all three. -/
theorem nearestThree_of_three {state : Correction K} {first second third : Point K}
    (three : (state.crossings.map Crossing.point).take state.intersections.length =
      [first, second, third]) :
    state.nearestThree sqrt = .ok { state with position := centroid first second third } := by
  have zeroth : Keeps [first, second, third] first
      (nearestTwo sqrt [first, second, third] 0 first) :=
    keeps_nearestStep (List.Perm.refl _)
  have other : Keeps [first, second, third] second
      (nearestTwo sqrt [first, second, third] 1 second) :=
    keeps_nearestStep (List.Perm.swap _ _ _)
  have last : Keeps [first, second, third] third
      (nearestTwo sqrt [first, second, third] 2 third) :=
    keeps_nearestStep ((List.Perm.swap _ _ _).trans ((List.Perm.swap _ _ _).cons _))
  obtain ⟨best, turn, kept⟩ := keptFrom_keepBest sqrt (.inl rfl) zeroth
  obtain ⟨best', turn', kept'⟩ := keptFrom_keepBest sqrt (.inr kept) other
  obtain ⟨best'', turn'', kept''⟩ := keptFrom_keepBest sqrt (.inr kept') last
  have indexed : [first, second, third].zipIdx = [(first, 0), (second, 1), (third, 2)] := rfl
  rw [nearestThree_eq, three]
  simp only [indexed, List.foldlM_cons, List.foldlM_nil, turn, turn', turn'', bind,
    Except.bind, pure, Except.pure]
  exact kept''.around state

/-- The centroid of the first three points of a list. -/
def firstCentroid : List (Point K) → Point K
  | first :: second :: third :: _ => centroid first second third
  | _ => 0

/-- With six points the search looks at the first three of them. -/
theorem nearestThree_six {circles : Fin 3 → Circle K} {depth : ℕ} {state : Correction K}
    (level : Level sqrt circles depth state) (six : state.crossings.length = 6) :
    state.nearestThree sqrt = .ok { state with
      position := firstCentroid (state.crossings.map Crossing.point) } := by
  obtain ⟨met, same, _⟩ := level.cached
  have three : state.intersections.length = 3 := by
    rw [same, cached_eq]
    rfl
  have count : (state.crossings.map Crossing.point).length = 6 := by
    rw [List.length_map, six]
  match split : state.crossings.map Crossing.point, count with
  | first :: second :: third :: rest, _ =>
      apply nearestThree_of_three
      rw [three, split]
      rfl

theorem doCorrection_six {circles : Fin 3 → Circle K} {depth : ℕ} {state : Correction K}
    (level : Level sqrt circles depth state) (six : state.crossings.length = 6)
    (two : state.maxWeight sqrt = 2) (fuel : ℕ) :
    doCorrection sqrt (fuel + 1) depth state = .ok { state with
      position := firstCentroid (state.crossings.map Crossing.point) } := by
  have branch := branch_six ⟨six, two⟩ depth
  rw [doCorrection_succ, branch.1]
  exact branch.2.trans (nearestThree_six level six)

omit [LinearOrder K] in
theorem centroid_eq_iff [CharZero K] {first second third first' second' third' : Point K} :
    centroid first second third = centroid first' second' third' ↔
      first + second + third = first' + second' + third' := by
  have three : ((3 : ℕ) : K) ≠ 0 := Nat.cast_ne_zero.2 (by decide)
  simp only [centroid, Prod.ext_iff, Prod.fst_add, Prod.snd_add, div_left_inj' three]

/-- The centroid of the first three points is that of a least triple exactly if the sums
are the same. -/
theorem bestCentroid_first_iff [CharZero K] {points : List (Point K)}
    (six : points.length = 6) :
    BestCentroid sqrt points (firstCentroid points) ↔ FirstThreeBalance sqrt points := by
  match points, six with
  | first :: second :: third :: rest, _ =>
      have sum : ((first :: second :: third :: rest).take 3).sum = first + second + third := by
        simp only [List.take_succ_cons, List.take_zero, List.sum_cons, List.sum_nil, add_zero,
          add_assoc]
      simp only [BestCentroid, FirstThreeBalance, firstCentroid, centroid_eq_iff, sum]

/-- The estimate is the centroid of a point and its two nearest ones with the least sum
of distances exactly if these have the same sum as the first three points. -/
theorem doCorrection_six_iff [CharZero K] {circles : Fin 3 → Circle K} {depth : ℕ}
    {state : Correction K} (level : Level sqrt circles depth state)
    (six : state.crossings.length = 6) (two : state.maxWeight sqrt = 2) (fuel : ℕ) :
    (∃ position, BestCentroid sqrt (state.crossings.map Crossing.point) position ∧
      doCorrection sqrt (fuel + 1) depth state = .ok { state with position }) ↔
      FirstThreeBalance sqrt (state.crossings.map Crossing.point) := by
  have computed := doCorrection_six level six two fuel
  rw [← bestCentroid_first_iff ((List.length_map _).trans six)]
  constructor
  · rintro ⟨position, best, returned⟩
    rw [computed, Except.ok.injEq, Correction.mk.injEq] at returned
    rw [returned.2.2]
    exact best
  · intro best
    exact ⟨_, best, computed⟩

end Search

/-! ## Three circles around a gap -/

section Gap

/-- Two circles that intersect and a small one above that touches both. -/
def gap : Fin 3 → Circle ℝ := ![natOnAxis 0 15, natOnAxis 24 15, natCircle 12 16 5]

@[simp] theorem gap_zero : gap 0 = ⟨(0, 0), 15, [], 0⟩ := by
  simp [gap, onAxis]

@[simp] theorem gap_one : gap 1 = ⟨(24, 0), 15, [], 0⟩ := by
  simp [gap, onAxis]

@[simp] theorem gap_two : gap 2 = ⟨(12, 16), 5, [], 0⟩ := by
  simp [gap, natCircle]

theorem intersect_gap :
    intersect Real.sqrt (gap 0) (gap 1) = (.intersect, [(12, -9), (12, 9)]) ∧
      intersect Real.sqrt (gap 0) (gap 2) = (.intersect, [(9, 12), (9, 12)]) ∧
      intersect Real.sqrt (gap 1) (gap 2) = (.intersect, [(15, 12), (15, 12)]) := by
  have below : distance Real.sqrt (gap 0).center (gap 1).center = 24 :=
    distance_eq_of_mul_self (by norm_num) (by norm_num)
  have left : distance Real.sqrt (gap 0).center (gap 2).center = 20 :=
    distance_eq_of_mul_self (by norm_num) (by norm_num)
  have right : distance Real.sqrt (gap 1).center (gap 2).center = 20 :=
    distance_eq_of_mul_self (by norm_num) (by norm_num)
  refine ⟨?_, ?_, ?_⟩
  · rw [intersect_eq_of_height 12 9 (12, -9) (12, 9) below]
    all_goals norm_num
  · rw [intersect_eq_of_height 15 0 (9, 12) (9, 12) left]
    all_goals norm_num
  · rw [intersect_eq_of_height 15 0 (15, 12) (15, 12) right]
    all_goals norm_num

theorem crossings_gap : (newCorrection Real.sqrt gap).crossings =
    [⟨(12, -9), 0, 1⟩, ⟨(12, 9), 0, 1⟩, ⟨(9, 12), 0, 2⟩, ⟨(9, 12), 0, 2⟩, ⟨(15, 12), 1, 2⟩,
      ⟨(15, 12), 1, 2⟩] := by
  obtain ⟨below, left, right⟩ := intersect_gap
  rw [crossings_cached (intersections_newCorrection gap)]
  simp only [below, left, right, List.map_cons, List.map_nil, List.cons_append,
    List.nil_append]

theorem weight_gap : ∀ crossing ∈ (newCorrection Real.sqrt gap).crossings,
    weight Real.sqrt gap crossing = 2 := by
  rw [crossings_gap]
  simp only [List.forall_mem_cons, weight, finRange_three, List.countP_cons, List.countP_nil,
    distance, Real.sqrt_le_iff, gap_zero, gap_one, gap_two]
  norm_num

theorem maxWeight_gap : (newCorrection Real.sqrt gap).maxWeight Real.sqrt = 2 := by
  have weights : (newCorrection Real.sqrt gap).crossings.map
      (weight Real.sqrt (newCorrection Real.sqrt gap).circles) = List.replicate 6 2 := by
    rw [List.eq_replicate_iff, List.length_map, crossings_gap]
    refine ⟨rfl, ?_⟩
    rw [List.forall_mem_map, ← crossings_gap]
    exact weight_gap
  rw [Correction.maxWeight, weights]
  decide

section Points

variable {points : List (Point ℝ)}

theorem get_mem_tail {index : Fin points.length} (later : index.val ≠ 0) :
    points.get index ∈ points.tail := by
  obtain ⟨index, bound⟩ := index
  cases points with
  | nil => cases bound
  | cons point points =>
      cases index with
      | zero => exact absurd rfl later
      | succ index => exact List.get_mem points ⟨index, Nat.lt_of_succ_lt_succ bound⟩

variable (listed : points = [(12, -9), (12, 9), (9, 12), (9, 12), (15, 12), (15, 12)])

include listed

theorem distance_of_mem_tail :
    ∀ point ∈ points.tail, 18 ≤ distance Real.sqrt point (12, -9) ∧ 9 ≤ point.2 := by
  simp only [listed, List.tail_cons, List.forall_mem_cons, distance,
    Real.le_sqrt' (show (0 : ℝ) < 18 by norm_num)]
  norm_num

/-- The first point is none of three points with a short sum of distances. -/
theorem later_of_distanceSum_lt {index near next : Fin points.length}
    (nearest : TwoNearest Real.sqrt points index near next)
    (short : distanceSum Real.sqrt points index near next < 18) :
    index.val ≠ 0 ∧ near.val ≠ 0 ∧ next.val ≠ 0 := by
  obtain ⟨apart, apart', _⟩ := nearest.distinct
  have first : ∀ {other : Fin points.length}, other.val = 0 →
      points.get other = (12, -9) := by
    rintro ⟨other, bound⟩ zero
    cases zero
    cases listed
    rfl
  have far : ∀ {other one : Fin points.length}, other ≠ one → one.val = 0 →
      18 ≤ distance Real.sqrt (points.get other) (points.get one) := by
    intro other one different zero
    rw [first zero]
    have later : other.val ≠ 0 := fun again => different (Fin.ext (again.trans zero.symm))
    exact (distance_of_mem_tail listed _ (get_mem_tail later)).1
  have nearNonneg := distance_nonneg (points.get index) (points.get near)
  have nextNonneg := distance_nonneg (points.get index) (points.get next)
  rw [distanceSum] at short
  refine ⟨fun zero => ?_, fun zero => ?_, fun zero => ?_⟩
  · have long := far apart.symm zero
    rw [distance_comm] at long
    linarith
  · linarith [far apart zero]
  · linarith [far apart' zero]

/-- The two points in the third place and the second point are a short triple. -/
theorem exists_twoNearest : ∃ index near next : Fin points.length,
    TwoNearest Real.sqrt points index near next ∧
      distanceSum Real.sqrt points index near next < 18 := by
  cases listed
  refine ⟨⟨2, by decide⟩, ⟨3, by decide⟩, ⟨1, by decide⟩, ⟨by decide, ?_⟩, ?_⟩
  · rintro ⟨other, bound⟩ notIndex notNear notNext
    have among : other = 0 ∨ other = 4 ∨ other = 5 := by
      simp only [ne_eq, Fin.mk.injEq] at notIndex notNear notNext
      have six : other < 6 := bound
      omega
    obtain rfl | rfl | rfl := among
    all_goals
      constructor
      all_goals
        apply Real.sqrt_le_sqrt
        norm_num
  · have zero : distance Real.sqrt ((9, 12) : Point ℝ) (9, 12) = 0 :=
      distance_eq_of_mul_self le_rfl (by norm_num)
    have root : distance Real.sqrt ((9, 12) : Point ℝ) (12, 9) < 18 := by
      rw [distance, Real.sqrt_lt' (by norm_num)]
      norm_num
    exact (congrArg (· + _) zero).trans_lt ((zero_add _).trans_lt root)

theorem not_bestCentroid : ¬ BestCentroid Real.sqrt points (11, 4) := by
  rintro ⟨index, near, next, ⟨nearest, least⟩, same⟩
  obtain ⟨_, _, _, nearest', short⟩ := exists_twoNearest listed
  obtain ⟨index', near', next'⟩ :=
    later_of_distanceSum_lt listed nearest ((least _ _ _ nearest').trans_lt short)
  have high := (distance_of_mem_tail listed _ (get_mem_tail index')).2
  have high' := (distance_of_mem_tail listed _ (get_mem_tail near')).2
  have high'' := (distance_of_mem_tail listed _ (get_mem_tail next')).2
  have mean := congrArg Prod.snd same
  simp only [centroid, Nat.cast_ofNat] at mean
  linarith

end Points

/-- The first three points are taken, the first of which is far from all others. -/
theorem not_doCorrection_gap :
    ¬ ∀ (circles : Fin 3 → Circle ℝ) (fuel : ℕ),
      (newCorrection Real.sqrt circles).crossings.length = 6 →
        (newCorrection Real.sqrt circles).maxWeight Real.sqrt = 2 →
          ∃ position,
            BestCentroid Real.sqrt
              ((newCorrection Real.sqrt circles).crossings.map Crossing.point) position ∧
              doCorrection Real.sqrt (fuel + 1) 0 (newCorrection Real.sqrt circles) =
                .ok { newCorrection Real.sqrt circles with position } := by
  intro always
  have six : (newCorrection Real.sqrt gap).crossings.length = 6 := by
    rw [crossings_gap]
    rfl
  have listed : (newCorrection Real.sqrt gap).crossings.map Crossing.point =
      [(12, -9), (12, 9), (9, 12), (9, 12), (15, 12), (15, 12)] := by
    rw [crossings_gap]
    rfl
  obtain ⟨position, best, returned⟩ := always gap 0 six maxWeight_gap
  rw [doCorrection_six .start six maxWeight_gap, Except.ok.injEq, Correction.mk.injEq]
    at returned
  have low : firstCentroid ((newCorrection Real.sqrt gap).crossings.map Crossing.point) =
      (11, 4) := by
    rw [listed]
    norm_num [firstCentroid, centroid]
  rw [← returned.2.2, low] at best
  exact not_bestCentroid listed best

end Gap

/-- Three circles that touch each other, the centres on a right triangle. -/
def corner : Fin 3 → Circle ℚ :=
  ![⟨(0, 0), 10, [], 0⟩, ⟨(30, 0), 20, [], 0⟩, ⟨(0, 40), 30, [], 0⟩]

theorem doCorrection_corner :
    ∃ position, BestCentroid Rat.sqrt
        ((newCorrection Rat.sqrt corner).crossings.map Crossing.point) position ∧
      doCorrection Rat.sqrt 1 0 (newCorrection Rat.sqrt corner) =
        .ok { newCorrection Rat.sqrt corner with position } :=
  (doCorrection_six_iff (Level.start : Level Rat.sqrt corner 0 _) (by decide +kernel)
    (by decide +kernel) 0).2 (by decide +kernel)

end IotLab.Localization
