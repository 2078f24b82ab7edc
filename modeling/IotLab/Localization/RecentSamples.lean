import IotLab.Localization.CalibrationTables
import Mathlib.Tactic.IntervalCases

/-!
# The recent samples

The query joins the samples with the numbers up to a count and cuts, for each number, the
id at its place out of the ids of a measure.  A number beyond the last id gives the last
one again.
-/

namespace IotLab.Localization

open IotLab.Library

namespace CalibrationTables

variable {K : Type*}

/-- The samples of a measure. -/
def rowsOf (data : List (CalibrationData K)) (measureId : ℤ) : List (CalibrationData K) :=
  data.filter fun row => row.measure.id = measureId

/-- The samples of a measure, the most recent one first. -/
def recentOf (data : List (CalibrationData K)) (measureId : ℤ) : List (CalibrationData K) :=
  (rowsOf data measureId).insertionSort fun row other => row.id ≥ other.id

/-! ## The ids of a group -/

/-- The id at the place of the number, or the last id. -/
theorem selectedId_eq {number : ℤ} (positive : 1 ≤ number) {ids : List ℤ} (some_ : ids ≠ []) :
    some (selectedId number ids) =
      ((ids.insertionSort (· ≥ ·)).take number.toNat).getLast? := by
  have sorted : ids.insertionSort (· ≥ ·) ≠ [] := by
    rw [← List.length_pos_iff, List.length_insertionSort]
    exact List.length_pos_iff.2 some_
  have plain : ∀ value ∈ (ids.insertionSort (· ≥ ·)).map printInt, ',' ∉ value := by
    rw [List.forall_mem_map]
    exact fun id _ => not_mem_printInt (by decide) (by decide)
  have cast : number = (number.toNat : ℤ) := (Int.toNat_of_nonneg (by omega)).symm
  have taken : (ids.insertionSort (· ≥ ·)).take number.toNat ≠ [] := by
    rw [← List.length_pos_iff] at sorted ⊢
    rw [List.length_take]
    omega
  rw [selectedId, cast, substringIndex_take (by simpa using sorted) plain, Int.toNat_natCast,
    ← List.map_take]
  have fewer : ∀ value ∈ ((ids.insertionSort (· ≥ ·)).take number.toNat).map printInt,
      ',' ∉ value := by
    intro value member
    exact plain value (List.map_subset _ (List.take_subset _ _) member)
  rw [substringIndex_last (by simpa using taken) fewer, List.getLast_map, castSigned_printInt,
    List.getLast?_eq_some_getLast]

section Groups

variable {numbers : TinyintAsc} {count : ℤ} {data : List (CalibrationData K)}

theorem mem_keys {key : ℤ × ℤ} :
    key ∈ ((joined numbers count data).map groupKey).dedup ↔
      rowsOf data key.1 ≠ [] ∧ key.2 ∈ numbers.value ∧ 1 ≤ key.2 ∧ key.2 ≤ count := by
  rw [List.mem_dedup, List.mem_map]
  constructor
  · rintro ⟨⟨row, number⟩, member, rfl⟩
    obtain ⟨pair, range⟩ := List.mem_filter.1 member
    obtain ⟨there, number⟩ := List.mem_product.1 pair
    refine ⟨List.ne_nil_of_mem (List.mem_filter.2 ⟨there, decide_eq_true rfl⟩), number, ?_⟩
    exact of_decide_eq_true range
  · rintro ⟨some_, number, low, high⟩
    obtain ⟨row, member⟩ := List.exists_mem_of_ne_nil _ some_
    obtain ⟨there, same⟩ := List.mem_filter.1 member
    refine ⟨(row, key.2), List.mem_filter.2 ⟨List.mem_product.2 ⟨there, number⟩, ?_⟩, ?_⟩
    · simp [low, high]
    · rw [groupKey, of_decide_eq_true same]

/-- The group of a key holds the samples of the measure. -/
theorem ids_group {key : ℤ × ℤ} (number : key.2 ∈ numbers.value) (low : 1 ≤ key.2)
    (high : key.2 ≤ count) :
    ((joined numbers count data).filter fun pair => groupKey pair = key).map
        (fun pair => pair.1.id) =
      (rowsOf data key.1).map CalibrationData.id := by
  have one : (numbers.value.filter fun value => value = key.2) = [key.2] := by
    rw [List.filter_eq, List.count_eq_one_of_mem numbers.distinct number]
    rfl
  have chosen : ((joined numbers count data).filter fun pair => groupKey pair = key) =
      rowsOf data key.1 ×ˢ [key.2] := by
    rw [rowsOf, ← one, ← filter_product, joined, List.filter_filter]
    apply List.filter_congr
    intro pair _
    have range : pair.2 = key.2 → 1 ≤ pair.2 ∧ pair.2 ≤ count := by
      intro same
      rw [same]
      exact ⟨low, high⟩
    rw [Bool.eq_iff_iff]
    simp only [Bool.and_eq_true, decide_eq_true_eq, groupKey, Prod.ext_iff]
    exact ⟨fun both => both.1, fun both => ⟨both, range both.2⟩⟩
  have first := map_fst_product_singleton (rowsOf data key.1) key.2
  rw [chosen]
  nth_rewrite 2 [← first]
  rw [List.map_map]
  rfl

/-- The sample that is selected for a measure and a number. -/
def answer (data : List (CalibrationData K)) (key : ℤ × ℤ) : Option (CalibrationData K) :=
  ((recentOf data key.1).take key.2.toNat).getLast?

theorem map_id_recentOf (data : List (CalibrationData K)) (measureId : ℤ) :
    (recentOf data measureId).map CalibrationData.id =
      ((rowsOf data measureId).map CalibrationData.id).insertionSort (· ≥ ·) :=
  List.map_insertionSort _ _ _ _ fun _ _ _ _ => Iff.rfl

theorem mem_recentOf {measureId : ℤ} {row : CalibrationData K} :
    row ∈ recentOf data measureId ↔ row ∈ data ∧ row.measure.id = measureId := by
  rw [recentOf, List.mem_insertionSort, rowsOf, List.mem_filter, decide_eq_true_eq]

theorem mem_of_answer {key : ℤ × ℤ} {row : CalibrationData K}
    (found : answer data key = some row) : row ∈ data ∧ row.measure.id = key.1 := by
  have member := List.mem_of_getLast? found
  exact mem_recentOf.1 (List.take_subset _ _ member)

theorem answer_succ (measureId : ℤ) (index : ℕ) :
    answer data (measureId, (index : ℤ) + 1) =
      (recentOf data measureId)[index]?.or (recentOf data measureId).getLast? := by
  have place : ((index : ℤ) + 1).toNat = index + 1 := by omega
  rw [answer, place, List.getLast?_take, if_neg (Nat.succ_ne_zero _), Nat.add_sub_cancel]

theorem selectedId_group {key : ℤ × ℤ}
    (member : key ∈ ((joined numbers count data).map groupKey).dedup) :
    (answer data key).map CalibrationData.id =
      some (selectedId key.2 (((joined numbers count data).filter fun pair =>
        groupKey pair = key).map fun pair => pair.1.id)) := by
  obtain ⟨some_, number, low, high⟩ := mem_keys.1 member
  have ids : (rowsOf data key.1).map CalibrationData.id ≠ [] := by simpa using some_
  rw [ids_group number low high, selectedId_eq low ids, ← map_id_recentOf, ← List.map_take,
    List.getLast?_map, answer]

end Groups

section Tables

variable {tables : CalibrationTables K} {numbers : TinyintAsc} {count : ℤ}

theorem find_id {row : CalibrationData K} (member : row ∈ tables.data) :
    tables.find row.id = some row := by
  rw [find]
  cases found : tables.data.find? fun other => other.id = row.id with
  | none => exact absurd (decide_eq_true rfl) (List.find?_eq_none.1 found row member)
  | some other =>
      have same : other.id = row.id := by simpa using List.find?_some found
      rw [List.inj_on_of_nodup_map tables.distinctIds (List.mem_of_find?_eq_some found) member
        same]

/-- The result has the answer for each key. -/
theorem getLastDataForEachMote_eq :
    tables.getLastDataForEachMote numbers count =
      ((joined numbers count tables.data).map groupKey).dedup.map (answer tables.data) := by
  rw [getLastDataForEachMote, lastIds, groupBy, List.map_map, List.map_map]
  apply List.map_congr_left
  intro key member
  have selected := selectedId_group member
  cases found : answer tables.data key with
  | none =>
      rw [found] at selected
      cases selected
  | some row =>
      rw [found, Option.map_some, Option.some.injEq] at selected
      simp only [Function.comp_apply, ← selected]
      exact find_id (mem_of_answer found).1

end Tables

/-! ## One measure -/

/-- The samples that are selected for a measure. -/
def selectedOf (data : List (CalibrationData K)) (measureId : ℤ) (count : ℕ) :
    List (CalibrationData K) :=
  (List.range count).filterMap fun index : ℕ => answer data (measureId, (index : ℤ) + 1)

section Selected

variable {data : List (CalibrationData K)} {measureId : ℤ} {count : ℕ}

/-- Enough samples are selected in order. -/
theorem selectedOf_of_le (enough : count ≤ (recentOf data measureId).length) :
    selectedOf data measureId count = (recentOf data measureId).take count := by
  induction count with
  | zero => rfl
  | succ count ih =>
      have found := List.getElem?_eq_getElem (Nat.lt_of_succ_le enough)
      have here : [count].filterMap (fun index : ℕ => answer data (measureId, (index : ℤ) + 1)) =
          (recentOf data measureId)[count]?.toList := by
        rw [List.filterMap_cons_some (by rw [answer_succ, found]; rfl), found]
        rfl
      have earlier := ih (Nat.le_of_succ_le enough)
      rw [selectedOf] at earlier
      rw [selectedOf, List.range_succ, List.filterMap_append, earlier, here, List.take_add_one]

/-- As many samples are selected as there are numbers. -/
theorem length_selectedOf (some_ : recentOf data measureId ≠ []) :
    (selectedOf data measureId count).length = count := by
  induction count with
  | zero => rfl
  | succ count ih =>
      have answered : ∃ row, answer data (measureId, (count : ℤ) + 1) = some row := by
        rw [answer_succ, List.getLast?_eq_some_getLast some_]
        cases (recentOf data measureId)[count]? with
        | none => exact ⟨_, rfl⟩
        | some row => exact ⟨row, rfl⟩
      obtain ⟨row, found⟩ := answered
      have here : [count].filterMap (fun index : ℕ => answer data (measureId, (index : ℤ) + 1)) =
          [row] := by
        simp [found]
      rw [selectedOf] at ih
      rw [selectedOf, List.range_succ, List.filterMap_append, List.length_append, ih, here]
      rfl

theorem length_recentOf : (recentOf data measureId).length = (rowsOf data measureId).length := by
  rw [recentOf, List.length_insertionSort]

end Selected

/-! ## The result -/

section Result

variable {tables : CalibrationTables K} {numbers : TinyintAsc} {count : ℤ}

/-- The keys of a measure are the numbers up to the count. -/
theorem keys_perm {data : List (CalibrationData K)} {measureId : ℤ}
    (holds : ∀ value, 1 ≤ value → value ≤ count → value ∈ numbers.value)
    (some_ : rowsOf data measureId ≠ []) :
    ((((joined numbers count data).map groupKey).dedup).filter fun key =>
        key.1 = measureId).Perm
      ((List.range count.toNat).map fun index : ℕ => (measureId, (index : ℤ) + 1)) := by
  apply (List.perm_ext_iff_of_nodup _ _).2
  · intro key
    rw [List.mem_filter, mem_keys, decide_eq_true_eq, List.mem_map]
    constructor
    · rintro ⟨⟨_, _, low, high⟩, rfl⟩
      refine ⟨(key.2 - 1).toNat, List.mem_range.2 (by omega), Prod.ext rfl ?_⟩
      change ((key.2 - 1).toNat : ℤ) + 1 = key.2
      omega
    · rintro ⟨index, inside, rfl⟩
      have below := List.mem_range.1 inside
      exact ⟨⟨some_, holds _ (by omega) (by omega), by omega, by omega⟩, rfl⟩
  · exact (List.nodup_dedup _).filter _
  · apply List.nodup_range.map
    intro left right same
    have numbers : (left : ℤ) + 1 = right + 1 := congrArg Prod.snd same
    omega

/-- The result holds the most recent samples of each measure, each of them once. -/
def UsesRecentOnce (tables : CalibrationTables K) (numbers : TinyintAsc) (count : ℤ) : Prop :=
  ∃ rows : List (CalibrationData K),
    tables.getLastDataForEachMote numbers count = rows.map some ∧
    (∀ measureId, (rows.filter fun row => row.measure.id = measureId).Perm
      ((recentOf tables.data measureId).take count.toNat)) ∧
    rows.Nodup

/-- The samples of the result, measure by measure. -/
theorem exists_rows (holds : ∀ value, 1 ≤ value → value ≤ count → value ∈ numbers.value) :
    ∃ rows : List (CalibrationData K),
      tables.getLastDataForEachMote numbers count = rows.map some ∧
      ∀ measureId, (rowsOf tables.data measureId = [] →
          rows.filter (fun row => row.measure.id = measureId) = []) ∧
        (rowsOf tables.data measureId ≠ [] →
          (rows.filter fun row => row.measure.id = measureId).Perm
            (selectedOf tables.data measureId count.toNat)) := by
  have answered : ∀ key ∈ ((joined numbers count tables.data).map groupKey).dedup,
      (answer tables.data key).isSome = true := by
    intro key member
    have selected := congrArg Option.isSome (selectedId_group member)
    simpa using selected
  refine ⟨_, getLastDataForEachMote_eq.trans (map_eq_map_some answered), fun measureId => ?_⟩
  have parts := @filter_filterMap _ _ (answer tables.data)
    (fun key => decide (key.1 = measureId)) (fun row => decide (row.measure.id = measureId))
    (fun key row found => by rw [(mem_of_answer found).2])
    ((joined numbers count tables.data).map groupKey).dedup
  constructor
  · intro none
    rw [parts]
    have noKey : (((joined numbers count tables.data).map groupKey).dedup.filter fun key =>
        decide (key.1 = measureId)) = [] := by
      rw [List.filter_eq_nil_iff]
      intro key member same
      exact (mem_keys.1 member).1 ((of_decide_eq_true same).symm ▸ none)
    rw [noKey]
    rfl
  · intro some_
    rw [parts]
    have permuted := (keys_perm holds some_).filterMap (answer tables.data)
    rw [List.filterMap_map] at permuted
    exact permuted

/-- Rows that are once in the samples of their measure are once in the result. -/
theorem nodup_of_recent {rows : List (CalibrationData K)} {count : ℕ}
    (recent : ∀ measureId, (rows.filter fun row => row.measure.id = measureId).Perm
      ((recentOf tables.data measureId).take count)) : rows.Nodup := by
  classical
  have stored : tables.data.Nodup := List.Nodup.of_map _ tables.distinctIds
  rw [List.nodup_iff_count_le_one]
  intro row
  have sorted : (recentOf tables.data row.measure.id).Nodup :=
    (List.perm_insertionSort _ _).nodup_iff.2 (stored.filter _)
  have same : (rows.filter fun other => other.measure.id = row.measure.id).count row =
      rows.count row := List.count_filter (decide_eq_true rfl)
  rw [← same, (recent row.measure.id).count_eq]
  exact List.nodup_iff_count_le_one.1 (sorted.sublist (List.take_sublist _ _)) row

/-- Each recent sample is used once exactly if every measure with samples has as many as
the count. -/
theorem usesRecentOnce_iff
    (holds : ∀ value, 1 ≤ value → value ≤ count → value ∈ numbers.value) :
    UsesRecentOnce tables numbers count ↔
      ∀ measureId, rowsOf tables.data measureId ≠ [] →
        count ≤ (rowsOf tables.data measureId).length := by
  obtain ⟨rows, result, perMeasure⟩ := @exists_rows K tables numbers count holds
  constructor
  · rintro ⟨others, sameResult, recent, _⟩ measureId some_
    have same : others = rows := by
      apply List.map_injective_iff.2 (Option.some_injective _)
      exact sameResult.symm.trans result
    subst same
    have size := ((perMeasure measureId).2 some_).symm.trans (recent measureId)
    have length := size.length_eq
    have nonempty : recentOf tables.data measureId ≠ [] := by
      rw [← List.length_pos_iff, length_recentOf]
      exact List.length_pos_iff.2 some_
    rw [length_selectedOf nonempty, List.length_take, length_recentOf] at length
    omega
  · intro enough
    have recent : ∀ measureId, (rows.filter fun row => row.measure.id = measureId).Perm
        ((recentOf tables.data measureId).take count.toNat) := by
      intro measureId
      by_cases none : rowsOf tables.data measureId = []
      · rw [(perMeasure measureId).1 none, recentOf, none]
        simp
      · have fits := enough measureId none
        rw [← length_recentOf] at fits
        rw [← selectedOf_of_le (by omega)]
        exact (perMeasure measureId).2 none
    exact ⟨rows, result, recent, nodup_of_recent recent⟩

end Result

/-- A measure of two anchors, with samples of the given strengths. -/
def sampleTables (strengths : List ℚ) : CalibrationTables ℚ :=
  strengths.foldl (fun tables rssi => tables.addData ⟨1, ⟨1, ['a'], 0, 0⟩, ⟨2, ['b'], 0, 1⟩, 0⟩
    rssi 0) {}

/-- Two of three samples are used. -/
theorem usesRecentOnce_two :
    UsesRecentOnce (sampleTables [-40, -50, -60]) ⟨[1, 2], by decide⟩ 2 := by
  apply (@usesRecentOnce_iff ℚ (sampleTables [-40, -50, -60]) ⟨[1, 2], by decide⟩ 2 ?_).2
  · intro measureId some_
    by_cases same : measureId = 1
    · subst same
      decide +kernel
    · have none : rowsOf (sampleTables [-40, -50, -60]).data measureId = [] := by
        have other : ∀ row ∈ (sampleTables [-40, -50, -60]).data, row.measure.id = 1 := by
          decide +kernel
        rw [rowsOf, List.filter_eq_nil_iff]
        intro row member met
        exact same ((of_decide_eq_true met).symm.trans (other row member))
      exact absurd none some_
  · intro value low high
    interval_cases value
    · decide
    · decide

/-- With the count of `doCalibration` a single sample is used five times. -/
theorem not_usesRecentOnce_single :
    let tables := sampleTables [-40]
    let numbers : TinyintAsc := ⟨[1, 2, 3, 4, 5], by decide⟩
    (tables.getLastDataForEachMote numbers 5).length = 5 ∧
      ¬ UsesRecentOnce tables numbers 5 := by
  intro tables numbers
  let sample : CalibrationData ℚ := ⟨1, ⟨1, ⟨1, ['a'], 0, 0⟩, ⟨2, ['b'], 0, 1⟩, 0⟩, -40, 0⟩
  have repeated : tables.getLastDataForEachMote numbers 5 =
      (List.replicate 5 sample).map some := by decide +kernel
  refine ⟨by rw [repeated]; rfl, ?_⟩
  rintro ⟨rows, result, recent, _⟩
  have same : rows = List.replicate 5 sample :=
    List.map_injective_iff.2 (Option.some_injective _) (result.symm.trans repeated)
  have size := (recent 1).length_eq
  rw [same] at size
  revert size
  decide +kernel

end CalibrationTables

end IotLab.Localization
