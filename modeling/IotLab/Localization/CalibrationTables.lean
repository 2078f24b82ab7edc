import IotLab.Library.Sql
import IotLab.Localization.Calibration
import IotLab.Localization.Motes
import Mathlib.Analysis.Real.Sqrt

/-!
# Samples for the calibration

`doCalibration` stores the strengths of the signals between anchors as samples, each with
the measure of its pair of anchors, and calibrates with the last samples of each measure.
The table of measures has a unique key on the pair.
-/

namespace IotLab.Localization

open IotLab.Library

/-! ## The tables -/

/-- A row of the table `CalibrationMeasure`. -/
structure CalibrationMeasure (K : Type*) where
  id : ℤ
  first : Mote K
  second : Mote K
  wallNumber : ℤ
  deriving DecidableEq

/-- The columns of the unique key. -/
def CalibrationMeasure.pair {K : Type*} (measure : CalibrationMeasure K) : ℤ × ℤ :=
  (measure.first.id, measure.second.id)

/-- A row of the table `CalibrationData`, with its measure. -/
structure CalibrationData (K : Type*) where
  id : ℤ
  measure : CalibrationMeasure K
  rssi : K
  timestamp : ℤ
  deriving DecidableEq

/-- The two tables with the next values of their `AUTO_INCREMENT` columns. -/
structure CalibrationTables (K : Type*) where
  measures : List (CalibrationMeasure K) := []
  data : List (CalibrationData K) := []
  nextMeasure : ℤ := 1
  nextData : ℤ := 1
  distinctPairs : (measures.map CalibrationMeasure.pair).Nodup := by simp
  distinctIds : (data.map CalibrationData.id).Nodup := by simp
  below : ∀ row ∈ data, row.id < nextData := by simp

namespace CalibrationTables

section Rows

variable {K : Type*}

/-- `CalibrationMeasureDAO.find`; `none` is the `DAOException`. -/
def findMeasure (tables : CalibrationTables K) (first second : ℤ) :
    Option (CalibrationMeasure K) :=
  tables.measures.find? fun measure => measure.first.id = first ∧ measure.second.id = second

/-- `merge` of a new measure. -/
def addMeasure (tables : CalibrationTables K) (first second : Mote K) (wallNumber : ℤ) :
    CalibrationTables K :=
  if taken : ∃ measure ∈ tables.measures, measure.pair = (first.id, second.id) then tables
  else
    { tables with
      measures := tables.measures ++ [⟨tables.nextMeasure, first, second, wallNumber⟩]
      nextMeasure := tables.nextMeasure + 1
      distinctPairs := by
        rw [List.map_append, List.nodup_append]
        refine ⟨tables.distinctPairs, List.nodup_singleton _, ?_⟩
        intro pair member other last same
        rw [List.map_singleton, List.mem_singleton] at last
        rw [same, last] at member
        exact taken (List.mem_map.1 member) }

/-- `merge` of a new sample. -/
def addData (tables : CalibrationTables K) (measure : CalibrationMeasure K) (rssi : K)
    (timestamp : ℤ) : CalibrationTables K :=
  { tables with
    data := tables.data ++ [⟨tables.nextData, measure, rssi, timestamp⟩]
    nextData := tables.nextData + 1
    distinctIds := by
      rw [List.map_append, List.nodup_append]
      refine ⟨tables.distinctIds, List.nodup_singleton _, ?_⟩
      rintro id member other last rfl
      rw [List.map_singleton, List.mem_singleton] at last
      obtain ⟨row, there, same⟩ := List.mem_map.1 member
      exact absurd (tables.below row there) (by rw [same, last]; exact lt_irrefl _)
    below := by
      intro row member
      rcases List.mem_append.1 member with there | last
      · exact (tables.below row there).trans (lt_add_one _)
      · rw [List.mem_singleton] at last
        subst last
        exact lt_add_one _ }

/-- `CalibrationDataDAO.find`; `none` is `null`. -/
def find (tables : CalibrationTables K) (id : ℤ) : Option (CalibrationData K) :=
  tables.data.find? fun row => row.id = id

end Rows

end CalibrationTables

/-- The table `tinyint_asc`. -/
structure TinyintAsc where
  value : List ℤ
  distinct : value.Nodup

namespace CalibrationTables

variable {K : Type*}

/-- `FROM CalibrationData, tinyint_asc` with the condition on the number. -/
def joined (numbers : TinyintAsc) (count : ℤ) (data : List (CalibrationData K)) :
    List (CalibrationData K × ℤ) :=
  (data ×ˢ numbers.value).filter fun pair => 1 ≤ pair.2 ∧ pair.2 ≤ count

/-- `measure_id, value`. -/
def groupKey (pair : CalibrationData K × ℤ) : ℤ × ℤ := (pair.1.measure.id, pair.2)

/-- The id that is selected for a number from the concatenated ids of its group. -/
def selectedId (number : ℤ) (ids : List ℤ) : ℤ :=
  castSigned (substringIndex
    (substringIndex (groupConcat ((ids.insertionSort (· ≥ ·)).map printInt)) ',' number)
    ',' (-1))

/-- The native query of `getLastDataForEachMote`. -/
def lastIds (numbers : TinyintAsc) (count : ℤ) (data : List (CalibrationData K)) : List ℤ :=
  (groupBy groupKey (joined numbers count data)).map fun group =>
    selectedId group.1.2 (group.2.map fun pair => pair.1.id)

/-- `getLastDataForEachMote`. -/
def getLastDataForEachMote (tables : CalibrationTables K) (numbers : TinyintAsc)
    (count : ℤ) : List (Option (CalibrationData K)) :=
  (lastIds numbers count tables.data).map tables.find

end CalibrationTables

/-! ## The calibration -/

/-- `getDistance`. -/
noncomputable def CalibrationMeasure.getDistance (measure : CalibrationMeasure ℝ) : ℝ :=
  Real.sqrt ((measure.first.lon - measure.second.lon) *
      (measure.first.lon - measure.second.lon) +
    (measure.first.lat - measure.second.lat) * (measure.first.lat - measure.second.lat))

/-- `newSampleData` and `estimateRegressionParameters` of the regression without an
intercept: the parameters, some of them `NaN` as `none`, or no result for an exception. -/
abbrev Regression := List ℝ → List (List ℝ) → Option (List (Option ℝ))

/-- `calibrate` with the value of the field `alpha` before and after; there is no result
for an exception. -/
noncomputable def calibrate (regression : Regression) (alpha : ℝ)
    (calibrationData : List (CalibrationData ℝ)) : Option ℝ :=
  if 2 < calibrationData.length then do
    let xSample := calibrationData.map fun cd => [decibels cd.measure.getDistance]
    let ySample := calibrationData.map fun cd => cd.rssi - l0
    let parameters ← regression ySample xSample
    let parameter ← parameters[0]?
    some (parameter.getD alpha)
  else some alpha

/-! ## The samples of a batch -/

section Batch

variable {K : Type*} [IntCast K]

/-- The anchor at the last index with an id. -/
def lastAnchor (anchors : List (Mote K)) (id : ℤ) : Option (Mote K) :=
  anchors.foldl (fun found anchor => if anchor.id = id then some anchor else found) none

/-- One step of the loop over the records: without a measure for the pair, one is
created, and the record is not stored. -/
def storeSample (anchors : List (Mote K)) (timestamp : ℤ) (tables : CalibrationTables K)
    (record : GeolocationData K) : CalibrationTables K :=
  match lastAnchor anchors record.src.id, lastAnchor anchors record.dest.id with
  | some first, some second =>
      match tables.findMeasure first.id second.id with
      | some measure => tables.addData measure record.rssi timestamp
      | none => tables.addMeasure first second 0
  | _, _ => tables

def storeSamples (anchors : List (Mote K)) (timestamp : ℤ) (tables : CalibrationTables K)
    (values : List (GeolocationData K)) : CalibrationTables K :=
  values.foldl (storeSample anchors timestamp) tables

end Batch

/-- `doCalibration`: the tables and the field `alpha`.  There is no `alpha` when an
exception escapes. -/
noncomputable def doCalibration (regression : Regression) (numbers : TinyintAsc)
    (alpha : ℝ) (tables : CalibrationTables ℝ) (anchors : List (Mote ℝ))
    (values : List (GeolocationData ℝ)) (timestamp : ℤ) :
    CalibrationTables ℝ × Option ℝ :=
  if anchors.isEmpty then (tables, some alpha)
  else
    let stored := storeSamples anchors timestamp tables values
    let cdata := stored.getLastDataForEachMote numbers 5
    (stored,
      if cdata.isEmpty then some alpha
      else (cdata.mapM id).bind (calibrate regression alpha))

end IotLab.Localization
