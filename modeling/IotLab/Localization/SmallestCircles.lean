import IotLab.Library.Binary64
import IotLab.Library.StableSort
import IotLab.Localization.Enlarging
import IotLab.Localization.Multilateration
import Mathlib.Data.Rat.Sqrt

/-!
# The circles that the trilateration works on

`Trilateration.execute` sorts its circles in place, corrects every combination of three
of the first three, which is one, and removes the circles behind them.  The objects stay
in the list: what the correction does to their radii is seen there.  The radii are doubles, and
one that is no number is never swapped: it divides the list into parts that are sorted.
-/

namespace IotLab.Localization

open IotLab.Library

/-! ## The code with its accesses -/

section Code

/-- The loop of both sorts: passes until one of them swaps nothing. -/
def sortLoop {α : Type*} (swaps : α → α → Bool) : ℕ → List α → Except Failure (List α)
  | 0, _ => .error .unfinished
  | passes + 1, list =>
      match swapLoop swaps (list.length - 1) 0 list false with
      | none => .error .indexOutOfBounds
      | some (list, swap) => if swap then sortLoop swaps passes list else .ok list

/-- The loops over `l`, `m` and `n`: the indices that they meet. -/
def combinations (k size : ℕ) : List (ℕ × ℕ × ℕ) :=
  let indices := fun start => List.range' start (min k size - start)
  (indices 0).flatMap fun l =>
    (indices (l + 1)).flatMap fun m => (indices (m + 1)).map fun n => (l, m, n)

/-- The loop that removes circles from the last one down to the index `k`. -/
def removeFrom {α : Type*} (k : ℕ) : (index : ℕ) → List α → List α
  | 0, list => list
  | index + 1, list =>
      if k ≤ index then removeFrom k index (list.eraseIdx index) else list

/-- The list after its objects at some indices have changed. -/
def setAll {α : Type*} (list : List α) (indices : List ℕ) (values : List α) : List α :=
  (indices.zip values).foldl (fun list place => list.set place.1 place.2) list

/-- The fields `circles`, `xgi` and `ygi`. -/
structure Trilateration (K : Type*) where
  circles : List (Circle K)
  xgi : List K := []
  ygi : List K := []

section Selection

variable {K : Type*} [LT K] [DecidableLT K]

/-- The loop that sorts `circles`. -/
def sortCircles : ℕ → List (Circle K) → Except Failure (List (Circle K)) :=
  sortLoop fun circle next => next.radius < circle.radius

omit [LT K] [DecidableLT K] in
/-- One round of the loops over the combinations; `correct` is `doCorrection` on three
circles with their intersections. -/
def correctCombination (correct : (Fin 3 → Circle K) → Except Failure (Correction K))
    (fields : Trilateration K) (indices : ℕ × ℕ × ℕ) : Except Failure (Trilateration K) := do
  let first ← getAt fields.circles indices.1
  let second ← getAt fields.circles indices.2.1
  let third ← getAt fields.circles indices.2.2
  let corrected ← correct ![first, second, third]
  .ok { circles := setAll fields.circles [indices.1, indices.2.1, indices.2.2]
          ((List.finRange 3).map corrected.circles)
        xgi := fields.xgi ++ [corrected.position.1]
        ygi := fields.ygi ++ [corrected.position.2] }

/-- `execute` from the sort of three circles or more to the removal of circles. -/
def Trilateration.select (correct : (Fin 3 → Circle K) → Except Failure (Correction K))
    (fuel : ℕ) (circles : List (Circle K)) : Except Failure (Trilateration K) := do
  let k := 3
  let circles ← sortCircles fuel circles
  let fields ← (combinations k circles.length).foldlM (correctCombination correct) { circles }
  .ok { fields with circles := removeFrom k fields.circles.length fields.circles }

end Selection

variable {K : Type*} [Field K] [LinearOrder K] (sqrt : K → K) (fuel : ℕ)

/-- `execute` with its loops: the position and the circles it keeps. -/
def Trilateration.execute (calibration : Calibration K) (anchors : List (Mote K))
    (data : List (GeolocationData K)) (mote : ℤ) :
    Except Failure (Point K × List (Circle K)) :=
  let circles := buildCircles calibration anchors mote data
  if 3 ≤ circles.length then do
    let fields ← Trilateration.select
      (fun temp => doCorrection sqrt fuel 0 (newCorrection sqrt temp)) fuel circles
    .ok ((fields.xgi.sum / fields.xgi.length, fields.ygi.sum / fields.ygi.length),
      fields.circles)
  else .ok (0, circles)

end Code

/-! ## The sorts -/

section Sorts

theorem sortLoop_eq {α : Type*} (swaps : α → α → Bool) (fuel : ℕ) (list : List α) :
    sortLoop swaps fuel list =
      match swapSort swaps fuel list with
      | none => .error .unfinished
      | some sorted => .ok sorted := by
  induction fuel generalizing list with
  | zero => rfl
  | succ fuel ih =>
      rw [sortLoop, swapLoop_eq, swapSort]
      dsimp only
      split
      · exact ih _
      · rfl

theorem sortLoop_ok_iff {α : Type*} {swaps : α → α → Bool} {fuel : ℕ} {list sorted : List α} :
    sortLoop swaps fuel list = .ok sorted ↔ swapSort swaps fuel list = some sorted := by
  rw [sortLoop_eq]
  cases swapSort swaps fuel list with
  | none => simp
  | some other => simp

theorem rssi_compares {K : Type*} (record next : GeolocationData K) :
    decide (record.rssi < next.rssi) = true ↔ ¬ record.rssi ≥ next.rssi := by
  rw [decide_eq_true_eq, ge_iff_le, not_le]

end Sorts

/-! ## What the correction changes -/

section Radii

variable {K : Type*} {circles changed : Fin 3 → Circle K}

/-- The circles are the same up to their radii. -/
def SameButRadius (circles changed : Fin 3 → Circle K) : Prop :=
  ∀ index, ∃ radius, changed index = { circles index with radius := radius }

theorem SameButRadius.refl (circles : Fin 3 → Circle K) : SameButRadius circles circles :=
  fun index => ⟨(circles index).radius, rfl⟩

theorem SameButRadius.trans {last : Fin 3 → Circle K} (first : SameButRadius circles changed)
    (second : SameButRadius changed last) : SameButRadius circles last := by
  intro index
  obtain ⟨_, same⟩ := first index
  obtain ⟨radius, next⟩ := second index
  refine ⟨radius, ?_⟩
  rw [next, same]

variable [Field K] [LinearOrder K]

theorem sameButRadius_withRadius (circles : Fin 3 → Circle K) (index : Fin 3) (radius : K) :
    SameButRadius circles (withRadius circles index radius) := by
  intro other
  by_cases here : other = index
  · subst here
    exact ⟨max 0 radius, withRadius_self circles other radius⟩
  · exact ⟨(circles other).radius, withRadius_of_ne here radius⟩

theorem sameButRadius_resize (sqrt : K → K) (coeff : K) (index : Fin 3) (again : ℕ)
    (circles : Fin 3 → Circle K) :
    SameButRadius circles (resize sqrt coeff index again circles).1 := by
  obtain ⟨radius, same⟩ := (resize_spec sqrt coeff index again circles).1
  rw [same]
  exact sameButRadius_withRadius circles index radius

theorem sameButRadius_enlargeStep (sqrt : K → K) (circles : Fin 3 → Circle K) :
    SameButRadius circles (enlargeStep sqrt circles) := by
  obtain ⟨enlarged, half⟩ : ∃ enlarged, (if (circles 0).radius + (circles 1).radius <
        distance sqrt (circles 0).center (circles 1).center then
      withRadius (withRadius circles 0 ((circles 0).radius * (5 / 4))) 1
        ((circles 1).radius * (5 / 4))
      else circles) = enlarged := ⟨_, rfl⟩
  have first : SameButRadius circles enlarged := by
    rw [← half]
    split
    · exact (sameButRadius_withRadius _ _ _).trans (sameButRadius_withRadius _ _ _)
    · exact .refl circles
  rw [enlargeStep_of_firstHalf half]
  split
  · exact first.trans (sameButRadius_withRadius _ _ _)
  · exact first

theorem sameButRadius_enlarge (sqrt : K → K) (again : ℕ) (circles : Fin 3 → Circle K) :
    SameButRadius circles (enlarge sqrt again circles).1 := by
  induction again generalizing circles with
  | zero => exact sameButRadius_enlargeStep sqrt circles
  | succ again ih =>
      rw [enlarge]
      split
      · exact sameButRadius_enlargeStep sqrt circles
      · exact (sameButRadius_enlargeStep sqrt circles).trans (ih _)

variable {sqrt : K → K} {state result : Correction K}

theorem circles_nearestThree (ends : state.nearestThree sqrt = .ok result) :
    result.circles = state.circles := by
  obtain ⟨nearest3, _, last⟩ := bind_eq_ok.1 ends
  split at last
  · cases last
    rfl
  · cases last

theorem circles_nearestPair (ends : state.nearestPair sqrt = .ok result) :
    result.circles = state.circles := by
  simp only [Correction.nearestPair] at ends
  split at ends
  · cases ends
  · cases ends
    rfl

theorem circles_heaviest : (state.heaviest sqrt).circles = state.circles := by
  simp only [Correction.heaviest]
  split
  · rfl
  · rfl

theorem sameButRadius_lastLevel (ends : lastLevel sqrt state = .ok result) :
    SameButRadius state.circles result.circles := by
  rw [lastLevel] at ends
  split at ends
  · cases ends
    rw [circles_heaviest]
    exact .refl _
  split at ends
  · rw [circles_nearestThree ends]
    exact .refl _
  split at ends
  · rw [circles_nearestPair ends]
    exact .refl _
  split at ends
  · split at ends
    · cases ends
      exact .refl _
    · split at ends
      · cases ends
        exact sameButRadius_resize _ _ _ _ _
      · cases ends
        exact sameButRadius_resize _ _ _ _ _
  · cases ends
    exact .refl _

/-- The correction changes nothing of its circles but their radii. -/
theorem sameButRadius_doCorrection {fuel depth : ℕ}
    (ends : doCorrection sqrt fuel depth state = .ok result) :
    SameButRadius state.circles result.circles := by
  induction fuel generalizing depth state with
  | zero => cases ends
  | succ fuel ih =>
      rw [doCorrection_succ] at ends
      cases next : nextLevel sqrt depth state with
      | none =>
          rw [next] at ends
          exact sameButRadius_lastLevel ends
      | some level =>
          rw [next] at ends
          have later := ih ends
          obtain ⟨index, _, _, _, _, _, rfl⟩ | ⟨_, rfl⟩ := nextLevel_cases next
          · exact (sameButRadius_resize _ _ _ _ _).trans later
          · exact (sameButRadius_enlarge _ _ _).trans later

end Radii

/-! ## The three circles -/

section Three

theorem removeFrom_length {α : Type*} (k : ℕ) (list : List α) :
    removeFrom k list.length list = list.take k := by
  induction size : list.length generalizing list with
  | zero =>
      rw [List.length_eq_zero_iff.1 size, List.take_nil]
      rfl
  | succ index ih =>
      rw [removeFrom]
      split
      · next above =>
          have shorter : list.eraseIdx index = list.take index := by
            rw [List.eraseIdx_eq_take_drop_succ, List.drop_of_length_le size.le, List.append_nil]
          rw [shorter, ih _ (by rw [List.length_take]; omega), List.take_take,
            Nat.min_eq_left above]
      · rw [List.take_of_length_le (by omega)]

theorem combinations_three {size : ℕ} (three : 3 ≤ size) : combinations 3 size = [(0, 1, 2)] := by
  rw [combinations, Nat.min_eq_left three]
  rfl

section Selection

variable {K : Type*} {correct : (Fin 3 → Circle K) → Except Failure (Correction K)}
variable {fuel : ℕ} {first second third : Circle K} {rest : List (Circle K)}

/-- The combination works on the first three circles. -/
theorem correctCombination_first :
    correctCombination correct { circles := first :: second :: third :: rest } (0, 1, 2) =
      (correct ![first, second, third] >>= fun corrected =>
        .ok { circles := corrected.circles 0 :: corrected.circles 1 :: corrected.circles 2 :: rest
              xgi := [corrected.position.1]
              ygi := [corrected.position.2] }) := by
  have at0 : getAt (first :: second :: third :: rest) ((0 : ℕ) : ℤ) = .ok first :=
    getAt_of_getElem? rfl
  have at1 : getAt (first :: second :: third :: rest) ((1 : ℕ) : ℤ) = .ok second :=
    getAt_of_getElem? rfl
  have at2 : getAt (first :: second :: third :: rest) ((2 : ℕ) : ℤ) = .ok third :=
    getAt_of_getElem? rfl
  rw [correctCombination]
  simp only [at0, at1, at2]
  rfl

variable [LT K] [DecidableLT K] {circles : List (Circle K)}

/-- What `execute` does with the sorted circles. -/
theorem select_of_sorted
    (sorts : sortCircles fuel circles = .ok (first :: second :: third :: rest)) :
    Trilateration.select correct fuel circles =
      (correct ![first, second, third] >>= fun corrected =>
        .ok { circles := (List.finRange 3).map corrected.circles
              xgi := [corrected.position.1]
              ygi := [corrected.position.2] }) := by
  have round := @correctCombination_first K correct first second third rest
  have one := @combinations_three (first :: second :: third :: rest).length
    (Nat.le_add_left 3 rest.length)
  simp only [Trilateration.select, sorts, bind, Except.bind, one, List.foldlM_cons,
    List.foldlM_nil, removeFrom_length] at round ⊢
  rw [round]
  cases correct ![first, second, third] with
  | error failure => rfl
  | ok corrected => simp [pure, Except.pure, finRange_three]

/-- The first three circles of the sorted list and the circles behind them; `rank` gives the
radii their order. -/
structure Smallest {κ : Type*} [LinearOrder κ] (rank : K → κ) (circles : List (Circle K))
    (three : Fin 3 → Circle K) (rest : List (Circle K)) : Prop where
  sorts : StablySorted (· ≤ ·) (fun circle => rank circle.radius) circles
    (three 0 :: three 1 :: three 2 :: rest)
  least : ∀ index, ∀ other ∈ rest, rank (three index).radius ≤ rank other.radius

/-- The three circles have been corrected, and the fields are those of the correction. -/
def Selects (correct : (Fin 3 → Circle K) → Except Failure (Correction K))
    (three : Fin 3 → Circle K) (fields : Trilateration K) : Prop :=
  ∃ corrected, correct three = .ok corrected ∧
    fields = { circles := (List.finRange 3).map corrected.circles
               xgi := [corrected.position.1]
               ygi := [corrected.position.2] }

omit [LT K] [DecidableLT K] in
theorem smallest_of_sorted {κ : Type*} [LinearOrder κ] {rank : K → κ}
    (sorts : StablySorted (· ≤ ·) (fun circle => rank circle.radius) circles
      (first :: second :: third :: rest)) :
    Smallest rank circles ![first, second, third] rest where
  sorts := sorts
  least := by
    intro index other behind
    have member : ![first, second, third] index ∈ [first, second, third] := by
      fin_cases index
      all_goals simp
    exact sorts.split rfl _ member other behind

/-- The correction works on the first three of the sorted circles. -/
theorem exists_selects {κ : Type*} [LinearOrder κ] (rank : K → κ) {fields : Trilateration K}
    (sorts : ∀ sorted, sortCircles fuel circles = .ok sorted →
      StablySorted (· ≤ ·) (fun circle => rank circle.radius) circles sorted)
    (three : 3 ≤ circles.length)
    (returns : Trilateration.select correct fuel circles = .ok fields) :
    ∃ smallest rest, Smallest rank circles smallest rest ∧ Selects correct smallest fields := by
  have run := returns
  rw [Trilateration.select] at run
  obtain ⟨sorted, ends, _⟩ := bind_eq_ok.1 run
  have stably := sorts sorted ends
  have many : 3 ≤ sorted.length := three.trans stably.perm.length_eq.ge
  match sorted, many with
  | first :: second :: third :: rest, _ =>
      rw [select_of_sorted ends] at returns
      obtain ⟨corrected, computed, last⟩ := bind_eq_ok.1 returns
      cases last
      exact ⟨_, rest, smallest_of_sorted stably, corrected, computed, rfl⟩

end Selection

/-! ## Doubles -/

section Doubles

variable {K : Type*} [LinearOrder K] {fuel : ℕ} {circles sorted : List (Circle (Double K))}

/-- The sort leaves the circles whose radii are no numbers and sorts what is between them. -/
theorem blocksSorted_sortCircles (ends : sortCircles fuel circles = .ok sorted) :
    BlocksSorted (· ≤ ·) (fun circle => circle.radius.rank) (fun circle => circle.radius = .nan)
      circles sorted := by
  refine blocksSorted_swapSort ?_ ?_ ?_ (sortLoop_ok_iff.1 ends)
  · intro circle never other
    rw [decide_eq_false_iff_not, decide_eq_false_iff_not, Double.lt_iff, Double.lt_iff]
    exact ⟨fun below => below.2.1 never, fun below => below.1 never⟩
  · intro left right same
    rw [decide_eq_false_iff_not, Double.lt_iff]
    exact fun below => below.2.2.ne same.symm
  · intro left right number other still
    rw [decide_eq_false_iff_not] at still
    exact Double.rank_le_of_not_lt number other still

theorem exists_sortCircles (circles : List (Circle (Double K))) :
    ∃ sorted, ∃ passes, ∀ fuel, passes ≤ fuel → sortCircles fuel circles = .ok sorted := by
  have asymm : ∀ left right : Circle (Double K), decide (right.radius < left.radius) = true →
      decide (left.radius < right.radius) = false := by
    intro left right swap
    rw [decide_eq_true_eq, Double.lt_iff] at swap
    rw [decide_eq_false_iff_not, Double.lt_iff]
    exact fun back => lt_asymm swap.2.2 back.2.2
  obtain ⟨sorted, ends⟩ := exists_swapSort asymm
    (Nat.lt_succ_self (inversions (fun left right : Circle (Double K) =>
      decide (right.radius < left.radius)) circles))
  exact ⟨sorted, _, fun fuel enough => sortLoop_ok_iff.2 (swapSort_of_le enough ends)⟩

end Doubles

/-! ## Exact numbers -/

section Exact

variable {K : Type*} [Field K] [LinearOrder K] {sqrt : K → K} {fuel : ℕ}
variable {calibration : Calibration K} {anchors : List (Mote K)}
variable {data : List (GeolocationData K)} {mote : ℤ}

omit [Field K] in
theorem stablySorted_sortCircles {circles sorted : List (Circle K)}
    (ends : sortCircles fuel circles = .ok sorted) :
    StablySorted (· ≤ ·) (fun circle => circle.radius) circles sorted := by
  refine stablySorted_of_swapSort ?_ ?_ (sortLoop_ok_iff.1 ends)
  · intro left right same
    exact decide_eq_false (not_lt.2 same.le)
  · intro left _ right _ still
    exact not_lt.1 (of_decide_eq_false still)

/-- The code with its loops computes what `trilaterate` does. -/
theorem Trilateration.execute_eq_trilaterate :
    Trilateration.execute sqrt fuel calibration anchors data mote =
      trilaterate sqrt fuel calibration anchors data mote := by
  by_cases three : 3 ≤ (buildCircles calibration anchors mote data).length
  · have passed := sortLoop_eq (fun circle next : Circle K => next.radius < circle.radius) fuel
      (buildCircles calibration anchors mote data)
    simp only [trilaterate, if_neg (Nat.not_lt.2 three)]
    cases ends : swapSort (fun circle next : Circle K => next.radius < circle.radius) fuel
        (buildCircles calibration anchors mote data) with
    | none =>
        rw [ends] at passed
        simp only [Trilateration.execute, if_pos three, Trilateration.select, sortCircles, passed]
        rfl
    | some sorted =>
        rw [ends] at passed
        have many : 3 ≤ sorted.length := three.trans (swapSort_perm ends).length_eq.ge
        match sorted, many with
        | first :: second :: third :: rest, _ =>
            simp only [Trilateration.execute, if_pos three, select_of_sorted passed]
            cases computed : doCorrection sqrt fuel 0
                (newCorrection sqrt ![first, second, third]) with
            | error failure =>
                rw [newCorrection] at computed
                simp [computed, bind, Except.bind]
            | ok corrected =>
                rw [newCorrection] at computed
                simp [computed, bind, Except.bind]
  · rw [Trilateration.execute, trilaterate]
    simp only [if_neg three, if_pos (Nat.lt_of_not_le three)]

/-- The position is that of the correction of three circles, and the list keeps these
objects with the radii that the correction leaves them with. -/
def WorksOn (sqrt : K → K) (fuel : ℕ) (three : Fin 3 → Circle K) (position : Point K)
    (kept : List (Circle K)) : Prop :=
  ∃ corrected, doCorrection sqrt fuel 0 (newCorrection sqrt three) = .ok corrected ∧
    position = corrected.position ∧ kept = (List.finRange 3).map corrected.circles ∧
      SameButRadius three corrected.circles

/-- A run works on the first three of the sorted circles. -/
theorem exists_smallest {position : Point K} {kept : List (Circle K)}
    (three : 3 ≤ (buildCircles calibration anchors mote data).length)
    (returns : Trilateration.execute sqrt fuel calibration anchors data mote =
      .ok (position, kept)) :
    ∃ smallest rest, Smallest id (buildCircles calibration anchors mote data) smallest rest ∧
      WorksOn sqrt fuel smallest position kept := by
  simp only [Trilateration.execute, if_pos three] at returns
  obtain ⟨fields, selected, last⟩ := bind_eq_ok.1 returns
  obtain ⟨smallest, rest, least, corrected, computed, rfl⟩ :=
    exists_selects id (fun _ => stablySorted_sortCircles) three selected
  cases last
  refine ⟨smallest, rest, least, corrected, computed, ?_, rfl,
    sameButRadius_doCorrection computed⟩
  simp

end Exact

section Sorted

variable {K : Type*} [Field K] [LinearOrder K]

/-- A circle of a radius. -/
def circleWith (radius : Double ℚ) : Circle (Double ℚ) :=
  ⟨(.number (0 : ℚ), .number (0 : ℚ)), radius, ['m'], .number (-20 : ℚ)⟩

/-- Radii of which the first one is infinite. -/
def finiteLater : List (Circle (Double ℚ)) :=
  [circleWith (.number ⊤), circleWith (.number (3 : ℚ)), circleWith (.number (3 : ℚ)),
    circleWith (.number (2 : ℚ))]

/-- Radii with one that is no number: an infinite one stays in front of smaller ones. -/
def undefinedBetween : List (Circle (Double ℚ)) :=
  [circleWith (.number ⊤), circleWith .nan, circleWith (.number (0 : ℚ)),
    circleWith (.number (1 : ℚ))]

end Sorted

end Three

end IotLab.Localization
