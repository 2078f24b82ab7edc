import IotLab.Library.Binary64
import IotLab.Library.Sampling
import IotLab.Library.Traversal
import IotLab.Server.LossRatio
import IotLab.Server.Store
import Mathlib.Data.Rat.Floor
import Mathlib.Tactic.Linarith

/-!
# Averages for the charts

`DataDAO.getMeans` and `GeolocationDataDAO.getMeans` number the selected rows with a variable
of the session and divide them into at most as many blocks as values are asked for.  An
average is computed for each mote and label, or source and destination, of a block.
-/

namespace IotLab.Server

open IotLab.Library

/-! ## Numbers of the database -/

/-- A number rounded to an integer, half away from zero. -/
def roundHalfAway (value : ℚ) : ℤ :=
  if 0 ≤ value then ⌊value + 1 / 2⌋ else -⌊-value + 1 / 2⌋

/-- `AVG` of integers: a decimal with four digits. -/
def decimalMean (values : List ℚ) : ℚ := (roundHalfAway (rationalMean values * 10000) : ℚ) / 10000

/-- `(MAX(...) + MIN(...)) / 2` and `BigDecimal.longValue`. -/
def middle (first : ℤ) (others : List ℤ) : ℤ :=
  castInt (((others.foldl max first + others.foldl min first : ℤ) : ℚ) / 2)

/-! ## The data -/

/-- A row of `T1` in the query of `DataDAO.getMeans`; `timestamp` is that of
`unix_timestamp`. -/
structure SelectedData where
  value : ℚ
  labelId : ℤ
  label : Text
  experiment : ℤ
  timestamp : ℤ
  moteId : ℤ
  mac : Text
  deriving Repr, DecidableEq

/-- The fields of a `Data` that `DataDAO.getMeans` returns; a value `none` is infinite. -/
structure MeanData where
  value : Option ℚ
  labelId : ℤ
  label : Text
  timestamp : ℤ
  moteId : ℤ
  mac : Text
  ipv6 : Text
  experiment : ℤ
  deriving Repr, DecidableEq

/-- The row of a group, with `AVG` of doubles; fields without an aggregate function are those of
one of its rows. -/
def meanData : List (SelectedData × ℕ) → Option MeanData
  | [] => none
  | first :: rest => some
      { value := doubleMean ((first :: rest).map fun row => row.1.value)
        labelId := first.1.labelId
        label := first.1.label
        timestamp := middle first.1.timestamp (rest.map fun row => row.1.timestamp)
        moteId := first.1.moteId
        mac := first.1.mac
        ipv6 := first.1.mac
        experiment := first.1.experiment }

/-- `DataDAO.getMeans` on the selected rows, in the order of the query. -/
def DataDAO.getMeans (nb : ℕ) (rows : List SelectedData) : List MeanData :=
  (blockGroups (fun row => (row.moteId, row.labelId)) nb rows).filterMap fun group =>
    meanData group.2

/-! ## The records of the signals -/

/-- A row of `T1` in the query of `GeolocationDataDAO.getMeans`. -/
structure SelectedRssi where
  rssi : ℤ
  timestamp : ℤ
  src : ℤ
  dest : ℤ
  deriving Repr, DecidableEq

/-- A row of the query of `GeolocationDataDAO.getMeans`. -/
structure MeanRssi where
  value : ℚ
  timestamp : ℤ
  src : ℤ
  dest : ℤ
  deriving Repr, DecidableEq

/-- A row of the table `Sender`, with the address of its mote. -/
structure SenderRow where
  id : ℤ
  mac : Text
  deriving Repr, DecidableEq

/-- The fields of a `GeolocationData` that `GeolocationDataDAO.getMeans` returns. -/
structure MeanGeolocation where
  src : SenderRow
  dest : SenderRow
  rssi : ℤ
  timestamp : ℤ
  deriving Repr, DecidableEq

/-- The row of a group. -/
def meanRssi : List (SelectedRssi × ℕ) → Option MeanRssi
  | [] => none
  | first :: rest => some
      { value := decimalMean ((first :: rest).map fun row => (row.1.rssi : ℚ))
        timestamp := middle first.1.timestamp (rest.map fun row => row.1.timestamp)
        src := first.1.src
        dest := first.1.dest }

/-- `SenderDAO.find(id)`. -/
def findSender (senders : List SenderRow) (id : ℤ) : Except Failure SenderRow :=
  match senders.find? fun sender => sender.id = id with
  | none => .error (.dao "SenderDAO".toList "Mote not found".toList)
  | some sender => .ok sender

/-- The body of the loop of `GeolocationDataDAO.getMeans` over the rows of its query. -/
def toGeolocation (senders : List SenderRow) (row : MeanRssi) :
    Except Failure MeanGeolocation := do
  let srcMote ← findSender senders row.src
  let destMote ← findSender senders row.dest
  .ok ⟨srcMote, destMote, castInt row.value, row.timestamp⟩

/-- The rows of the query of `GeolocationDataDAO.getMeans`. -/
def meanRssis (nb : ℕ) (rows : List SelectedRssi) : List MeanRssi :=
  (blockGroups (fun row => (row.src, row.dest)) nb rows).filterMap fun group =>
    meanRssi group.2

/-- `GeolocationDataDAO.getMeans` on the selected rows, in the order of the query. -/
def GeolocationDataDAO.getMeans (senders : List SenderRow) (nb : ℕ) (rows : List SelectedRssi) :
    Except Failure (List MeanGeolocation) :=
  (meanRssis nb rows).mapM (toGeolocation senders)

/-! ## Rounding stays between integers -/

section Rounding

variable {value : ℚ} {bound : ℤ}

theorem castInt_of_nonneg (nonneg : 0 ≤ value) : castInt value = ⌊value⌋ := by
  rw [castInt, Rat.floor_def', Int.tdiv_eq_ediv_of_nonneg (Rat.num_nonneg.2 nonneg)]

@[simp] theorem castInt_neg (value : ℚ) : castInt (-value) = -castInt value := by
  rw [castInt, castInt, Rat.neg_num, Rat.neg_den, Int.neg_tdiv]

@[simp] theorem roundHalfAway_neg (value : ℚ) : roundHalfAway (-value) = -roundHalfAway value := by
  rcases lt_trichotomy value 0 with negative | rfl | positive
  · rw [roundHalfAway, roundHalfAway, if_pos (by linarith), if_neg (by linarith), neg_neg]
  · decide +kernel
  · rw [roundHalfAway, roundHalfAway, if_neg (by linarith), if_pos positive.le, neg_neg]

theorem le_castInt (least : (bound : ℚ) ≤ value) : bound ≤ castInt value := by
  rcases le_or_gt 0 value with nonneg | negative
  · rw [castInt_of_nonneg nonneg]
    exact Int.le_floor.2 least
  · have upper : castInt (-value) ≤ -bound := by
      rw [castInt_of_nonneg (by linarith)]
      have floor := Int.floor_le (-value)
      have below : ((⌊-value⌋ : ℤ) : ℚ) ≤ ((-bound : ℤ) : ℚ) := by
        push_cast
        linarith
      exact_mod_cast below
    rw [castInt_neg] at upper
    omega

theorem castInt_le (most : value ≤ bound) : castInt value ≤ bound := by
  have negated : ((-bound : ℤ) : ℚ) ≤ -value := by
    push_cast
    linarith
  have least := le_castInt negated
  rw [castInt_neg] at least
  omega

theorem le_roundHalfAway (least : (bound : ℚ) ≤ value) : bound ≤ roundHalfAway value := by
  rw [roundHalfAway]
  split
  · exact Int.le_floor.2 (by linarith)
  · have upper : ⌊-value + 1 / 2⌋ < -bound + 1 := by
      rw [Int.floor_lt]
      push_cast
      linarith
    omega

theorem roundHalfAway_le (most : value ≤ bound) : roundHalfAway value ≤ bound := by
  have negated : ((-bound : ℤ) : ℚ) ≤ -value := by
    push_cast
    linarith
  have least := le_roundHalfAway negated
  rw [roundHalfAway_neg] at least
  omega

/-- The mean of integers, rounded to four digits and cut off, is between two of them. -/
theorem castInt_decimalMean_between {values : List ℤ} (some_ : values ≠ []) :
    Between values (castInt (decimalMean (values.map Int.cast))) := by
  have nonempty : (values.map (Int.cast : ℤ → ℚ)) ≠ [] := by simpa using some_
  obtain ⟨⟨_, first, least⟩, _, second, most⟩ := rationalMean_between nonempty
  obtain ⟨low, lowMember, rfl⟩ := List.mem_map.1 first
  obtain ⟨high, highMember, rfl⟩ := List.mem_map.1 second
  refine ⟨⟨low, lowMember, le_castInt ?_⟩, high, highMember, castInt_le ?_⟩
  · have digits : low * 10000 ≤ roundHalfAway (rationalMean (values.map Int.cast) * 10000) :=
      le_roundHalfAway (by push_cast; linarith)
    rw [decimalMean, le_div_iff₀ (by norm_num)]
    exact_mod_cast digits
  · have digits : roundHalfAway (rationalMean (values.map Int.cast) * 10000) ≤ high * 10000 :=
      roundHalfAway_le (by push_cast; linarith)
    rw [decimalMean, div_le_iff₀ (by norm_num)]
    exact_mod_cast digits

end Rounding

/-! ## The averages -/

/-- How far the roundings of a sum and a quotient can take a mean. -/
def meanError (values : List ℚ) : ℚ :=
  roundingGrowth (values.length + 1) * ((values.map abs).sum / values.length + leastNormal)

/-- The mean up to the rounding, and between the least and the greatest number up to it, unless the
numbers are so great or so many that the sum can be infinite. -/
def RoundedMean (values : List ℚ) (average : Option ℚ) : Prop :=
  values.length < 2 ^ 52 → (values.map abs).sum + leastNormal ≤ safeSize →
    ∃ mean, average = some mean ∧ |mean - rationalMean values| ≤ meanError values ∧
      (∃ low ∈ values, low - meanError values ≤ mean) ∧
        ∃ high ∈ values, mean ≤ high + meanError values

/-- What `DataDAO.getMeans` promises. -/
def DataDAO.MeansSampled (nb : ℕ) (rows : List SelectedData) (means : List MeanData) : Prop :=
  DownSamples nb rows means (fun row => (row.moteId, row.labelId))
    (fun mean => (mean.moteId, mean.labelId))
    fun group mean => RoundedMean (group.map SelectedData.value) mean.value

/-- The same with averages that are exactly between their rows. -/
def DataDAO.MeansBetween (nb : ℕ) (rows : List SelectedData) (means : List MeanData) : Prop :=
  DownSamples nb rows means (fun row => (row.moteId, row.labelId))
    (fun mean => (mean.moteId, mean.labelId))
    fun group mean => ∃ value, mean.value = some value ∧
      Between (group.map SelectedData.value) value

/-- What `GeolocationDataDAO.getMeans` promises. -/
def GeolocationDataDAO.MeansSampled (nb : ℕ) (rows : List SelectedRssi)
    (means : List MeanGeolocation) : Prop :=
  DownSamples nb rows means (fun row => (row.src, row.dest))
    (fun mean => (mean.src.id, mean.dest.id))
    fun group mean => Between (group.map SelectedRssi.rssi) mean.rssi

section Averages

variable {nb : ℕ} {senders : List SenderRow}

theorem roundedMean_doubleMean {values : List ℚ} (some_ : values ≠ []) :
    RoundedMean values (doubleMean values) := by
  intro few small
  obtain ⟨mean, made, near⟩ := doubleMean_near some_ few small
  have error : |mean - rationalMean values| ≤ meanError values := near
  obtain ⟨⟨low, lowMember, least⟩, high, highMember, most⟩ := rationalMean_between some_
  obtain ⟨below, above⟩ := abs_le.1 error
  exact ⟨mean, made, error, ⟨low, lowMember, by linarith⟩, high, highMember, by linarith⟩

theorem DataDAO.meansSampled (positive : 0 < nb) (rows : List SelectedData) :
    DataDAO.MeansSampled nb rows (DataDAO.getMeans nb rows) := by
  refine downSamples_blockGroups positive fun group found some_ same => ?_
  cases group with
  | nil => exact absurd rfl some_
  | cons first rest =>
      refine ⟨_, rfl, same first List.mem_cons_self, ?_⟩
      rw [List.map_map]
      exact roundedMean_doubleMean (List.cons_ne_nil _ _)

theorem findSender_id {id : ℤ} {sender : SenderRow} (found : findSender senders id = .ok sender) :
    sender.id = id := by
  rw [findSender] at found
  split at found
  · cases found
  · next here =>
      cases found
      have own := List.find?_some here
      exact of_decide_eq_true own

theorem meanRssis_sampled (positive : 0 < nb) (rows : List SelectedRssi) :
    DownSamples nb rows (meanRssis nb rows) (fun row => (row.src, row.dest))
      (fun mean => (mean.src, mean.dest))
      fun group mean => Between (group.map SelectedRssi.rssi) (castInt mean.value) := by
  refine downSamples_blockGroups positive fun group found some_ same => ?_
  cases group with
  | nil => exact absurd rfl some_
  | cons first rest =>
      have between := castInt_decimalMean_between
        (List.cons_ne_nil first.1.rssi (rest.map fun row => row.1.rssi))
      rw [List.map_cons, List.map_map] at between
      refine ⟨_, rfl, same first List.mem_cons_self, ?_⟩
      rw [List.map_map]
      exact between

theorem GeolocationDataDAO.meansSampled (positive : 0 < nb) {rows : List SelectedRssi}
    {means : List MeanGeolocation}
    (returned : GeolocationDataDAO.getMeans senders nb rows = .ok means) :
    GeolocationDataDAO.MeansSampled nb rows means := by
  refine (meanRssis_sampled positive rows).of_forall₂ ?_
  refine (forall₂_of_mapM_ok returned).imp fun row mean made => ?_
  obtain ⟨src, first, more⟩ := bind_eq_ok.1 made
  obtain ⟨dest, second, last⟩ := bind_eq_ok.1 more
  cases last
  exact ⟨Prod.ext (findSender_id first) (findSender_id second), fun _ => id⟩

theorem findSender_isOk {id : ℤ} (known : id ∈ senders.map SenderRow.id) :
    ∃ sender, findSender senders id = .ok sender := by
  obtain ⟨sender, member, own⟩ := List.mem_map.1 known
  obtain ⟨first, here⟩ := exists_find?_eq_some
    (fun sender => sender.id = id) member (decide_eq_true own)
  exact ⟨first, by rw [findSender, here]⟩

/-- The averages are returned if sources and destinations are senders. -/
theorem GeolocationDataDAO.getMeans_isOk {rows : List SelectedRssi}
    (known : ∀ row ∈ rows, row.src ∈ senders.map SenderRow.id ∧
      row.dest ∈ senders.map SenderRow.id) :
    ∃ means, GeolocationDataDAO.getMeans senders nb rows = .ok means := by
  have every : ∀ row ∈ meanRssis nb rows, ∃ mean,
      toGeolocation senders row = .ok mean ∧ True := by
    intro row member
    obtain ⟨group, here, made⟩ := List.mem_filterMap.1 member
    have rows_ := ((mem_groupBy_iff group).1 here).2
    cases found : group.2 with
    | nil =>
        rw [found] at made
        cases made
    | cons first rest =>
        rw [found] at made rows_
        cases made
        have numbered : first ∈ rows.zipIdx :=
          List.mem_of_mem_filter (rows_ ▸ List.mem_cons_self)
        obtain ⟨src, dest⟩ := known first.1 (List.fst_mem_of_mem_zipIdx numbered)
        obtain ⟨srcMote, srcFound⟩ := findSender_isOk src
        obtain ⟨destMote, destFound⟩ := findSender_isOk dest
        exact ⟨_, bind_eq_ok.2 ⟨srcMote, srcFound, bind_eq_ok.2 ⟨destMote, destFound, rfl⟩⟩,
          trivial⟩
  obtain ⟨means, returned, _⟩ := mapM_ok every
  exact ⟨means, returned⟩

end Averages

/-- Both `getMeans` sample down to at most `nb` averages for each key.  Averages of doubles are
rounded. -/
theorem getMeans_downSamples {nb : ℕ} (positive : 0 < nb) :
    (∀ rows, DataDAO.MeansSampled nb rows (DataDAO.getMeans nb rows)) ∧
      ∀ senders rows,
        (∀ means, GeolocationDataDAO.getMeans senders nb rows = .ok means →
          GeolocationDataDAO.MeansSampled nb rows means) ∧
        ((∀ row ∈ rows, row.src ∈ senders.map SenderRow.id ∧
            row.dest ∈ senders.map SenderRow.id) →
          ∃ means, GeolocationDataDAO.getMeans senders nb rows = .ok means) :=
  ⟨DataDAO.meansSampled positive, fun _ _ =>
    ⟨fun _ => GeolocationDataDAO.meansSampled positive, GeolocationDataDAO.getMeans_isOk⟩⟩

/-- Three rows of two motes, and at most two values for each. -/
theorem getMeans_downSamples_three :
    DataDAO.MeansSampled 2
      [⟨20, 1, "temp".toList, 1, 100, 5, "1.0".toList⟩,
        ⟨30, 1, "temp".toList, 1, 101, 6, "2.0".toList⟩,
        ⟨40, 1, "temp".toList, 1, 102, 5, "1.0".toList⟩]
      (DataDAO.getMeans 2
        [⟨20, 1, "temp".toList, 1, 100, 5, "1.0".toList⟩,
          ⟨30, 1, "temp".toList, 1, 101, 6, "2.0".toList⟩,
          ⟨40, 1, "temp".toList, 1, 102, 5, "1.0".toList⟩]) :=
  (getMeans_downSamples (by decide)).1 _

/-- The double of 22.1. -/
def warm : ℚ := 3110298492652749 / 2 ^ 47

/-- Three rows of one mote with the same value. -/
def warmRows : List SelectedData :=
  [⟨warm, 1, "temp".toList, 1, 100, 5, "1.0".toList⟩,
    ⟨warm, 1, "temp".toList, 1, 101, 5, "1.0".toList⟩,
    ⟨warm, 1, "temp".toList, 1, 102, 5, "1.0".toList⟩]

/-- The average of the three equal values is a greater double. -/
theorem not_getMeans_between : ¬ DataDAO.MeansBetween 1 warmRows (DataDAO.getMeans 1 warmRows) := by
  intro between
  have above : ∀ mean ∈ DataDAO.getMeans 1 warmRows, ∀ value, mean.value = some value →
      warm < value := by
    decide +kernel
  have some_ : DataDAO.getMeans 1 warmRows ≠ [] := by decide +kernel
  have every : ∀ row ∈ warmRows.zipIdx, row.1.value = warm := by decide +kernel
  obtain ⟨groups, whole, averaged, _⟩ := between.counted
  generalize DataDAO.getMeans 1 warmRows = means at above some_ averaged
  cases averaged with
  | nil => exact some_ rfl
  | cons related _ =>
      obtain ⟨_, value, made, _, high, member, most⟩ := related
      rw [List.map_map, List.mem_map] at member
      obtain ⟨row, inside, rfl⟩ := member
      have greater := above _ List.mem_cons_self value made
      rw [← every row (whole.subset (List.mem_append_left _ inside))] at greater
      exact absurd most (not_le.2 greater)

end IotLab.Server
