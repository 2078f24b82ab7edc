import IotLab.Library.Ranks
import IotLab.Library.Traversal
import IotLab.Localization.AnchorRecords

/-!
# The problem of the multilateration

`Multilateration.execute` sorts the shared list of records in place, collects positions
and distances in parallel lists, keeps those up to the distance of a rank, and gives the
optimizer a target with a model and its derivative.  Here every access to a list is
checked.
-/

namespace IotLab.Localization

open IotLab.Library

/-! ## The code with its accesses -/

section Code

/-- `list.get(index)`. -/
def getAt {α : Type*} (list : List α) (index : ℤ) : Except Failure α :=
  if index < 0 then .error .indexOutOfBounds
  else
    match list[index.toNat]? with
    | none => .error .indexOutOfBounds
    | some value => .ok value

variable {K : Type*} [Field K] [LinearOrder K]

/-- The loop that sorts `data`: passes until one of them swaps nothing. -/
def sortData : ℕ → List (GeolocationData K) → Except Failure (List (GeolocationData K))
  | 0, _ => .error .unfinished
  | passes + 1, data =>
      match swapLoop (fun record next => record.rssi < next.rssi) (data.length - 1) 0 data
        false with
      | none => .error .indexOutOfBounds
      | some (list, swap) => if swap then sortData passes list else .ok list

/-- The local lists `x`, `y` and `d`. -/
structure Collected (K : Type*) where
  x : List K := []
  y : List K := []
  d : List K := []

/-- One step of the loop that fills them. -/
def collectStep (calibration : Calibration K) (anchors : List (Mote K)) (mote : ℤ)
    (lists : Collected K) (record : GeolocationData K) : Collected K :=
  match anchorOf anchors mote record with
  | none => lists
  | some peer =>
      let de := calibration.estimateDistanceWalls record.rssi 0
      if 0 < de then
        { x := lists.x ++ [peer.lon]
          y := lists.y ++ [peer.lat]
          d := lists.d ++ [de] }
      else lists

/-- The fields `x`, `y`, `d` and `weights`. -/
structure Multilateration (K : Type*) where
  x : List K := []
  y : List K := []
  d : List K := []
  weights : List K := []

/-- `nb`. -/
def rankOf (size : ℕ) : ℕ := if 6 ≤ size then size / 2 else size

/-- The loop that retains measures: `count` more steps from an index on. -/
def retainLoop (lists : Collected K) (sorted : List K) (nb : ℕ) :
    (count index : ℕ) → Multilateration K → Except Failure (Multilateration K)
  | 0, _, fields => .ok fields
  | count + 1, index, fields => do
      let d ← getAt lists.d index
      let limit ← getAt sorted (nb - 1)
      if d ≤ limit then
        let x ← getAt lists.x index
        let y ← getAt lists.y index
        retainLoop lists sorted nb count (index + 1)
          { x := fields.x ++ [x]
            y := fields.y ++ [y]
            d := fields.d ++ [d]
            weights := fields.weights ++ [1 / (d * d)] }
      else retainLoop lists sorted nb count (index + 1) fields

/-- `execute` up to the call of the optimizer: the fields and the records in the order
it leaves them in. -/
def poseProblem (fuel : ℕ) (calibration : Calibration K) (anchors : List (Mote K))
    (data : List (GeolocationData K)) (mote : ℤ) :
    Except Failure (Multilateration K × List (GeolocationData K)) :=
  if data.isEmpty then .ok ({}, data)
  else do
    let data ← sortData fuel data
    let lists := data.foldl (collectStep calibration anchors mote) {}
    let sorted := lists.d.insertionSort (· ≤ ·)
    let nb := rankOf sorted.length
    if nb ≤ sorted.length then
      let fields ← retainLoop lists sorted nb lists.d.length 0 {}
      .ok (fields, data)
    else .ok ({}, data)

/-- `calculateTarget`. -/
def Multilateration.calculateTarget (fields : Multilateration K) : Except Failure (List K) :=
  (List.range fields.d.length).mapM fun (index : ℕ) => do
    .ok ((← getAt fields.d index) * (← getAt fields.d index))

/-- `jacobian`: the rows with their two columns. -/
def Multilateration.jacobian (fields : Multilateration K) (vector : Point K) :
    Except Failure (List (Point K)) :=
  (List.range fields.x.length).mapM fun (index : ℕ) => do
    .ok (twice (vector.1 - (← getAt fields.x index)),
      twice (vector.2 - (← getAt fields.y index)))

/-- `value`: the values of the model and its Jacobian. -/
def Multilateration.value (fields : Multilateration K) (vector : Point K) :
    Except Failure (List K × List (Point K)) := do
  let values ← (List.range fields.x.length).mapM fun (index : ℕ) => do
    let x ← getAt fields.x index
    let y ← getAt fields.y index
    .ok (vector.1 * vector.1 + vector.2 * vector.2 - twice vector.1 * x -
      twice vector.2 * y + x * x + y * y)
  .ok (values, ← fields.jacobian vector)

end Code

/-! ## Accesses inside the lists -/

section Accesses

variable {K : Type*}

theorem getAt_of_getElem? {α : Type*} {list : List α} {index : ℕ} {value : α}
    (found : list[index]? = some value) : getAt list index = .ok value := by
  rw [getAt, if_neg (by omega), Int.toNat_natCast, found]

theorem getAt_pred {α : Type*} {list : List α} {rank : ℕ} {value : α} (positive : 0 < rank)
    (found : list[rank - 1]? = some value) : getAt list (rank - 1) = .ok value := by
  have index : ((rank : ℤ) - 1) = ((rank - 1 : ℕ) : ℤ) := by omega
  rw [index]
  exact getAt_of_getElem? found

/-- The passes by index are those of the sort. -/
theorem sortData_eq (fuel : ℕ) (data : List (GeolocationData K)) :
    sortData fuel data =
      match swapSort (fun record next => record.rssi < next.rssi) fuel data with
      | none => .error .unfinished
      | some sorted => .ok sorted := by
  induction fuel generalizing data with
  | zero => rfl
  | succ fuel ih =>
      rw [sortData, swapLoop_eq, swapSort]
      dsimp only
      split
      · exact ih _
      · rfl

theorem exists_sortData (data : List (GeolocationData K)) :
    ∃ passes, ∀ fuel, passes ≤ fuel → ∃ sorted, sorted.Perm data ∧
      sortData fuel data = .ok sorted := by
  refine ⟨inversions (fun record next : GeolocationData K => record.rssi < next.rssi) data + 1,
    fun fuel enough => ?_⟩
  have asymm : ∀ left right : GeolocationData K,
      decide (left.rssi < right.rssi) = true → decide (right.rssi < left.rssi) = false := by
    intro left right less
    exact decide_eq_false (of_decide_eq_true less).le.not_gt
  obtain ⟨sorted, ends⟩ := exists_swapSort asymm enough
  refine ⟨sorted, swapSort_perm ends, ?_⟩
  rw [sortData_eq, ends]

/-- The local lists hold the measures of the records. -/
theorem foldl_collectStep [Field K] [LinearOrder K] (calibration : Calibration K)
    (anchors : List (Mote K)) (mote : ℤ) (data : List (GeolocationData K))
    (lists : Collected K) :
    data.foldl (collectStep calibration anchors mote) lists =
      let measures := data.filterMap (measureOf calibration anchors mote)
      ⟨lists.x ++ measures.map Measure.x, lists.y ++ measures.map Measure.y,
        lists.d ++ measures.map Measure.d⟩ := by
  induction data generalizing lists with
  | nil => simp
  | cons record rest ih =>
      rw [List.foldl_cons, ih, collectStep, List.filterMap_cons, measureOf]
      cases anchorOf anchors mote record with
      | none => rfl
      | some peer =>
          dsimp only
          split
          · simp
          · rfl

/-- The fields for a list of measures. -/
def fieldsOf (kept : List (Measure K)) : Multilateration K where
  x := kept.map Measure.x
  y := kept.map Measure.y
  d := kept.map Measure.d
  weights := kept.map Measure.weight

/-- Every measure has the inverse square of its distance as its weight. -/
def Weighed [Field K] (measures : List (Measure K)) : Prop :=
  ∀ measure ∈ measures, measure.weight = 1 / (measure.d * measure.d)

/-- The loop retains the measures up to the distance of the rank. -/
theorem retainLoop_append [Field K] [LinearOrder K] {sorted : List K} {nb : ℕ} {limit : K}
    (found : getAt sorted (nb - 1) = .ok limit) (passed rest kept : List (Measure K))
    (weighed : Weighed rest) :
    retainLoop ⟨(passed ++ rest).map Measure.x, (passed ++ rest).map Measure.y,
        (passed ++ rest).map Measure.d⟩ sorted nb rest.length passed.length (fieldsOf kept) =
      .ok (fieldsOf (kept ++ rest.filter fun measure => measure.d ≤ limit)) := by
  induction rest generalizing passed kept with
  | nil => simp [retainLoop]
  | cons measure rest ih =>
      have here : ∀ field : Measure K → K,
          getAt ((passed ++ measure :: rest).map field) passed.length = .ok (field measure) :=
        fun field => getAt_of_getElem? (by simp)
      have shifted : passed ++ measure :: rest = (passed ++ [measure]) ++ rest := by simp
      have behind : passed.length + 1 = (passed ++ [measure]).length := by simp
      have later : Weighed rest := fun other member => weighed other (List.mem_cons_of_mem _ member)
      have weight := weighed measure List.mem_cons_self
      rw [List.length_cons, retainLoop]
      simp only [here, found, bind, Except.bind]
      by_cases near : measure.d ≤ limit
      · have added : ({ x := (fieldsOf kept).x ++ [measure.x]
                        y := (fieldsOf kept).y ++ [measure.y]
                        d := (fieldsOf kept).d ++ [measure.d]
                        weights := (fieldsOf kept).weights ++ [1 / (measure.d * measure.d)] } :
            Multilateration K) = fieldsOf (kept ++ [measure]) := by
          simp [fieldsOf, weight]
        rw [if_pos near, added, shifted, behind, ih _ _ later,
          List.filter_cons_of_pos (by simpa using near)]
        simp
      · rw [if_neg near, shifted, behind, ih _ _ later,
          List.filter_cons_of_neg (by simpa using near)]

end Accesses

/-! ## The retained measures -/

section Retained

variable {K : Type*}

/-- What is retained of the measures. -/
structure Selection [LinearOrder K] (measures kept : List (Measure K)) : Prop where
  exact : measures = [] ∧ kept = [] ∨
    ∃ limit, IsRank (measures.map Measure.d) (rankOf measures.length) limit ∧
      kept = measures.filter fun measure => measure.d ≤ limit
  enough : rankOf measures.length ≤ kept.length
  nearest : ∀ near ∈ kept, ∀ far ∈ measures, far ∉ kept → near.d ≤ far.d

theorem rankOf_pos {size : ℕ} (some_ : 0 < size) : 0 < rankOf size := by
  rw [rankOf]
  split
  · omega
  · exact some_

theorem rankOf_le (size : ℕ) : rankOf size ≤ size := by
  rw [rankOf]
  split
  · omega
  · exact le_rfl

/-- A list of measures has a distance of its rank. -/
theorem exists_limit [LinearOrder K] {measures : List (Measure K)} (some_ : measures ≠ []) :
    ∃ limit, ((measures.map Measure.d).insertionSort (· ≤ ·))[rankOf measures.length - 1]? =
        some limit ∧
      IsRank (measures.map Measure.d) (rankOf measures.length) limit := by
  have size : 0 < measures.length := List.length_pos_iff.2 some_
  have positive := rankOf_pos size
  have inside : rankOf measures.length - 1 <
      ((measures.map Measure.d).insertionSort (· ≤ ·)).length := by
    have most := rankOf_le measures.length
    rw [List.length_insertionSort, List.length_map]
    omega
  have found := List.getElem?_eq_getElem inside
  refine ⟨_, found, ?_⟩
  have isRank := isRank_insertionSort found
  rwa [Nat.sub_add_cancel positive] at isRank

theorem retained_eq [LinearOrder K] {measures : List (Measure K)} {limit : K}
    (found : ((measures.map Measure.d).insertionSort (· ≤ ·))[rankOf measures.length - 1]? =
      some limit) :
    retained measures = measures.filter fun measure => measure.d ≤ limit := by
  have length : ((measures.map Measure.d).insertionSort (· ≤ ·)).length = measures.length := by
    simp
  rw [retained, length]
  rw [rankOf] at found
  rw [found]

theorem retained_subset [LinearOrder K] (measures : List (Measure K)) :
    retained measures ⊆ measures := by
  intro measure member
  by_cases none : measures = []
  · subst none
    exact member
  · obtain ⟨limit, found, _⟩ := exists_limit none
    rw [retained_eq found] at member
    exact (List.mem_filter.1 member).1

theorem selection_retained [LinearOrder K] (measures : List (Measure K)) :
    Selection measures (retained measures) := by
  by_cases none : measures = []
  · subst none
    exact ⟨.inl ⟨rfl, rfl⟩, Nat.zero_le _, fun near member => nomatch member⟩
  · obtain ⟨limit, found, isRank⟩ := exists_limit none
    rw [retained_eq found]
    refine ⟨.inr ⟨limit, isRank, rfl⟩, ?_, ?_⟩
    · have many := isRank.le_length_filter
      rw [List.filter_map, List.length_map] at many
      exact many
    · intro near kept far member dropped
      have below : near.d ≤ limit := by simpa using (List.mem_filter.1 kept).2
      have above : ¬ far.d ≤ limit := fun low =>
        dropped (List.mem_filter.2 ⟨member, by simpa using low⟩)
      exact below.trans (not_le.1 above).le

end Retained

/-! ## The measures of the records -/

section Measures

variable {K : Type*} [Field K] [LinearOrder K] {calibration : Calibration K}
variable {anchors : List (Mote K)} {mote : ℤ} {data : List (GeolocationData K)}

/-- The measure is that of the record: the position of the anchor and the estimated
distance. -/
structure IsMeasure (calibration : Calibration K) (anchors : List (Mote K)) (mote : ℤ)
    (record : GeolocationData K) (measure : Measure K) : Prop where
  position : ∃ anchor, SharesRecord anchors mote record anchor ∧
    (measure.x, measure.y) = (anchor.lon, anchor.lat)
  distance : measure.d = calibration.estimateDistanceWalls record.rssi 0

omit [Field K] [LinearOrder K] in
theorem sharesRecord_of_anchorOf {record : GeolocationData K} {anchor : Mote K}
    (found : anchorOf anchors mote record = some anchor) :
    SharesRecord anchors mote record anchor := by
  simp only [anchorOf, Bool.and_eq_true, decide_eq_true_eq] at found
  split at found
  · next dest =>
      cases found
      exact ⟨dest.2, .inl ⟨dest.1, rfl⟩⟩
  · split at found
    · next src =>
        cases found
        exact ⟨src.2, .inr ⟨src.1, rfl⟩⟩
    · cases found

/-- There is one measure for each record with an anchor. -/
theorem forall₂_measureOf
    (positive : ∀ record ∈ data, 0 < calibration.estimateDistanceWalls record.rssi 0) :
    List.Forall₂ (IsMeasure calibration anchors mote)
      (data.filter fun record => HasAnchor anchors mote record)
      (data.filterMap (measureOf calibration anchors mote)) := by
  induction data with
  | nil => exact .nil
  | cons record rest ih =>
      have later := ih fun other member => positive other (List.mem_cons_of_mem _ member)
      have distance := positive record List.mem_cons_self
      have some_ := @isSome_anchorOf_iff K anchors mote record
      rw [List.filterMap_cons, measureOf]
      cases found : anchorOf anchors mote record with
      | none =>
          rw [found] at some_
          have without : ¬ HasAnchor anchors mote record := fun has => nomatch some_.2 has
          rw [List.filter_cons_of_neg (by simpa using without)]
          exact later
      | some peer =>
          rw [found] at some_
          have has : HasAnchor anchors mote record := some_.1 rfl
          rw [List.filter_cons_of_pos (by simpa using has)]
          simp only [if_pos distance]
          exact .cons ⟨⟨peer, sharesRecord_of_anchorOf found, rfl⟩, rfl⟩ later

theorem weighed_measureOf : Weighed (data.filterMap (measureOf calibration anchors mote)) := by
  intro measure member
  obtain ⟨record, _, found⟩ := List.mem_filterMap.1 member
  simp only [measureOf] at found
  split at found
  · cases found
  · split at found
    · cases found
      rfl
    · cases found

/-- With enough passes the fields are those of the retained measures. -/
theorem poseProblem_eq {sorted : List (GeolocationData K)} {fuel : ℕ}
    (ends : sortData fuel data = .ok sorted) (some_ : data ≠ []) :
    poseProblem fuel calibration anchors data mote =
      .ok (fieldsOf (retained (sorted.filterMap (measureOf calibration anchors mote))),
        sorted) := by
  rw [poseProblem, if_neg (by simpa using some_)]
  simp only [ends, bind, Except.bind]
  rw [foldl_collectStep]
  dsimp only [List.nil_append]
  have weighed := @weighed_measureOf K _ _ calibration anchors mote sorted
  generalize sorted.filterMap (measureOf calibration anchors mote) = measures at weighed
  rw [if_pos (rankOf_le _)]
  simp only [List.length_map, List.length_insertionSort]
  by_cases none : measures = []
  · subst none
    rfl
  · obtain ⟨limit, found, _⟩ := exists_limit none
    have positive := rankOf_pos (List.length_pos_iff.2 none)
    have loop := retainLoop_append (getAt_pred positive found) [] measures [] weighed
    have empty : (fieldsOf [] : Multilateration K) = {} := rfl
    rw [retained_eq found]
    rw [List.nil_append, List.nil_append, List.length_nil, empty] at loop
    rw [loop]

end Measures

/-! ## The model and its derivative -/

section Model

variable {K : Type*} [Field K]

/-- The value of the model at a measure. -/
def Measure.modelAt (measure : Measure K) (vector : Point K) : K :=
  vector.1 * vector.1 + vector.2 * vector.2 - twice vector.1 * measure.x -
    twice vector.2 * measure.y + measure.x * measure.x + measure.y * measure.y

/-- Its row of the Jacobian. -/
def Measure.rowAt (measure : Measure K) (vector : Point K) : Point K :=
  (twice (vector.1 - measure.x), twice (vector.2 - measure.y))

/-- The square of the length of a vector. -/
def squareOf (vector : Point K) : K := vector.1 ^ 2 + vector.2 ^ 2

omit [Field K] in
theorem getAt_map {kept : List (Measure K)} {index : ℕ} {measure : Measure K}
    (found : kept[index]? = some measure) (field : Measure K → K) :
    getAt (kept.map field) index = .ok (field measure) :=
  getAt_of_getElem? (by rw [List.getElem?_map, found]; rfl)

theorem calculateTarget_eq (kept : List (Measure K)) :
    (fieldsOf kept).calculateTarget = .ok (kept.map fun measure => measure.d * measure.d) := by
  rw [Multilateration.calculateTarget, fieldsOf, List.length_map]
  apply mapM_range
  intro index measure found
  simp only [getAt_map found, bind, Except.bind]

theorem jacobian_eq (kept : List (Measure K)) (vector : Point K) :
    (fieldsOf kept).jacobian vector = .ok (kept.map fun measure => measure.rowAt vector) := by
  rw [Multilateration.jacobian, fieldsOf, List.length_map]
  apply mapM_range
  intro index measure found
  simp only [getAt_map found, bind, Except.bind]
  rfl

theorem value_eq (kept : List (Measure K)) (vector : Point K) :
    (fieldsOf kept).value vector =
      .ok (kept.map fun measure => measure.modelAt vector,
        kept.map fun measure => measure.rowAt vector) := by
  have values : ((List.range (fieldsOf kept).x.length).mapM fun (index : ℕ) => do
      let x ← getAt (fieldsOf kept).x index
      let y ← getAt (fieldsOf kept).y index
      .ok (vector.1 * vector.1 + vector.2 * vector.2 - twice vector.1 * x -
        twice vector.2 * y + x * x + y * y)) =
      (.ok (kept.map fun measure => measure.modelAt vector) : Except Failure (List K)) := by
    rw [fieldsOf, List.length_map]
    apply mapM_range
    intro index measure found
    simp only [getAt_map found, bind, Except.bind]
    rfl
  rw [Multilateration.value, values, jacobian_eq]
  rfl

theorem modelAt_sub (measure : Measure K) (vector : Point K) :
    measure.modelAt vector - measure.d * measure.d =
      squareOf (vector - (measure.x, measure.y)) - measure.d ^ 2 := by
  simp only [Measure.modelAt, twice, squareOf, Prod.fst_sub, Prod.snd_sub]
  ring

theorem modelAt_add (measure : Measure K) (vector step : Point K) :
    measure.modelAt (vector + step) - measure.modelAt vector -
      ((measure.rowAt vector).1 * step.1 + (measure.rowAt vector).2 * step.2) =
      squareOf step := by
  simp only [Measure.modelAt, Measure.rowAt, twice, squareOf, Prod.fst_add, Prod.snd_add]
  ring

/-- What the optimizer asks of the fields at a point and a step from it. -/
structure Models (fields : Multilateration K) (kept : List (Measure K))
    (vector step : Point K) (target values moved : List K) (rows next : List (Point K)) :
    Prop where
  calculateTarget : fields.calculateTarget = .ok target
  value : fields.value vector = .ok (values, rows)
  valueNext : fields.value (vector + step) = .ok (moved, next)
  lengths : target.length = kept.length ∧ values.length = kept.length ∧
    moved.length = kept.length ∧ rows.length = kept.length
  residual : ∀ (index : ℕ) (measure : Measure K), kept[index]? = some measure →
    ∃ wanted reached, target[index]? = some wanted ∧ values[index]? = some reached ∧
      reached - wanted = squareOf (vector - (measure.x, measure.y)) - measure.d ^ 2
  derivative : ∀ index < kept.length, ∃ reached later row, values[index]? = some reached ∧
    moved[index]? = some later ∧ rows[index]? = some row ∧
      later - reached - (row.1 * step.1 + row.2 * step.2) = squareOf step

theorem models_fieldsOf (kept : List (Measure K)) (vector step : Point K) :
    ∃ target values moved rows next,
      Models (fieldsOf kept) kept vector step target values moved rows next := by
  refine ⟨_, _, _, _, _, calculateTarget_eq kept, value_eq kept vector,
    value_eq kept (vector + step), by simp, ?_, ?_⟩
  · intro index measure found
    refine ⟨measure.d * measure.d, measure.modelAt vector, ?_, ?_, modelAt_sub measure vector⟩
    · rw [List.getElem?_map, found]
      rfl
    · rw [List.getElem?_map, found]
      rfl
  · intro index inside
    have found := List.getElem?_eq_getElem inside
    refine ⟨kept[index].modelAt vector, kept[index].modelAt (vector + step),
      kept[index].rowAt vector, ?_, ?_, ?_, modelAt_add kept[index] vector step⟩
    · rw [List.getElem?_map, found]
      rfl
    · rw [List.getElem?_map, found]
      rfl
    · rw [List.getElem?_map, found]
      rfl

end Model

/-! ## The problem -/

section Problem

variable {K : Type*} [Field K] [LinearOrder K] {calibration : Calibration K}
variable {anchors : List (Mote K)} {mote : ℤ} {data : List (GeolocationData K)}

/-- The fields pose the problem of the records in the order of `sorted`. -/
structure Posed (calibration : Calibration K) (anchors : List (Mote K)) (mote : ℤ)
    (sorted : List (GeolocationData K)) (fields : Multilateration K)
    (measures kept : List (Measure K)) : Prop where
  records : List.Forall₂ (IsMeasure calibration anchors mote)
    (sorted.filter fun record => HasAnchor anchors mote record) measures
  selection : Selection measures kept
  aligned : fields.x = kept.map Measure.x ∧ fields.y = kept.map Measure.y ∧
    fields.d = kept.map Measure.d ∧
      fields.weights = kept.map fun measure => 1 / measure.d ^ 2
  models : ∀ vector step, ∃ target values moved rows next,
    Models fields kept vector step target values moved rows next

/-- The multilateration poses the problem of the nearest measures. -/
theorem poseProblem_posed
    (positive : ∀ record ∈ data, 0 < calibration.estimateDistanceWalls record.rssi 0) :
    ∃ passes, ∀ fuel, passes ≤ fuel → ∃ fields sorted measures kept, sorted.Perm data ∧
      poseProblem fuel calibration anchors data mote = .ok (fields, sorted) ∧
      Posed calibration anchors mote sorted fields measures kept := by
  obtain ⟨passes, ends⟩ := exists_sortData data
  refine ⟨passes, fun fuel enough => ?_⟩
  obtain ⟨sorted, same, sorts⟩ := ends fuel enough
  have posed : poseProblem fuel calibration anchors data mote =
      .ok (fieldsOf (retained (sorted.filterMap (measureOf calibration anchors mote))),
        sorted) := by
    by_cases none : data = []
    · subst none
      rw [same.eq_nil]
      rfl
    · exact poseProblem_eq sorts none
  let measures := sorted.filterMap (measureOf calibration anchors mote)
  have selection : Selection measures (retained measures) := selection_retained measures
  refine ⟨_, sorted, measures, retained measures, same, posed, ?_⟩
  constructor
  · exact forall₂_measureOf fun record member => positive record (same.subset member)
  · exact selection
  · refine ⟨rfl, rfl, rfl, List.map_congr_left fun measure member => ?_⟩
    rw [weighed_measureOf measure (retained_subset _ member), sq]
  · exact models_fieldsOf _

/-- Two anchors at the distances 1 and 2 of a mote: both measures are retained. -/
theorem poseProblem_posed_twoAnchors :
    let left : Mote ℚ := ⟨1, ['a'], 0, 0⟩
    let right : Mote ℚ := ⟨2, ['b'], 0, 3⟩
    let mote : Mote ℚ := ⟨3, ['c'], 0, 0⟩
    let calibration : Calibration ℚ := ⟨fun rssi => -rssi, fun rssi _ => -rssi⟩
    ∃ passes, ∀ fuel, passes ≤ fuel → ∃ fields sorted,
      poseProblem fuel calibration [left, right] [⟨mote, right, -2⟩, ⟨left, mote, -1⟩] 3 =
        .ok (fields, sorted) ∧ 2 ≤ fields.d.length := by
  intro left right mote calibration
  obtain ⟨passes, poses⟩ := @poseProblem_posed ℚ _ _ calibration [left, right] 3
    [⟨mote, right, -2⟩, ⟨left, mote, -1⟩] (by decide)
  refine ⟨passes, fun fuel enough => ?_⟩
  obtain ⟨fields, sorted, measures, kept, same, ends, posed⟩ := poses fuel enough
  have all : (sorted.filter fun record => HasAnchor [left, right] 3 record).length = 2 := by
    rw [(same.filter _).length_eq]
    decide
  have two : measures.length = 2 := posed.records.length_eq.symm.trans all
  have many := posed.selection.enough
  refine ⟨fields, sorted, ends, ?_⟩
  rw [posed.aligned.2.2.1, List.length_map]
  rwa [two] at many

/-- `execute` with an optimizer, which throws `NoDataException` as `none`. -/
def Multilateration.execute (optimize : Multilateration K → Option (Point K)) (fuel : ℕ)
    (calibration : Calibration K) (anchors : List (Mote K)) (data : List (GeolocationData K))
    (mote : ℤ) : Except Failure (Point K × List (GeolocationData K)) := do
  let (fields, data) ← poseProblem fuel calibration anchors data mote
  .ok ((optimize fields).getD 0, data)

/-- The position by measures is that of the optimizer for the fields. -/
theorem execute_eq_multilaterate {optimize : Multilateration K → Option (Point K)}
    {ofMeasures : List (Measure K) → Point K}
    (throws : optimize (fieldsOf []) = none)
    (agrees : ∀ kept, kept ≠ [] → optimize (fieldsOf kept) = some (ofMeasures kept))
    (passes : ℕ) :
    Multilateration.execute optimize (passes + 1) calibration anchors data mote =
      multilaterate (passes + 1) ofMeasures calibration anchors data mote := by
  have position : ∀ kept, (optimize (fieldsOf kept)).getD 0 =
      if kept.isEmpty then 0 else ofMeasures kept := by
    intro kept
    cases kept with
    | nil => exact congrArg (Option.getD · 0) throws
    | cons measure rest =>
        rw [agrees _ (List.cons_ne_nil _ _)]
        rfl
  rw [multilaterate, Multilateration.execute]
  by_cases none : data = []
  · subst none
    have empty := position []
    simp only [poseProblem, List.isEmpty_nil, if_true, bind, Except.bind]
    exact congrArg (fun point => Except.ok (point, [])) empty
  · have passed := sortData_eq (passes + 1) data
    cases ends : swapSort (fun record next : GeolocationData K => record.rssi < next.rssi)
        (passes + 1) data with
    | none =>
        rw [ends] at passed
        simp only [poseProblem, if_neg (show ¬ data.isEmpty = true by simpa using none), passed,
          bind, Except.bind]
    | some sorted =>
        rw [ends] at passed
        rw [poseProblem_eq passed none]
        simp only [bind, Except.bind, position]

end Problem

end IotLab.Localization
