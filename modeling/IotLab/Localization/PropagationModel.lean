import IotLab.Library.LeastSquares
import IotLab.Localization.CalibrationTables

/-!
# The propagation model

Samples that follow the propagation model are on a line through the origin in the
coordinates of the regression.  Its only least-squares estimate is the parameter of the
model, and the estimated distances are those of the model up to a factor.
-/

namespace IotLab.Localization

open IotLab.Library

/-- For one column of regressors, not all zero, the regression without an intercept
returns a least-squares estimate. -/
def EstimatesSlope (regression : Regression) : Prop :=
  ∀ samples : List (ℝ × ℝ), 2 < samples.length → (∃ sample ∈ samples, sample.1 ≠ 0) →
    ∃ slope, regression (samples.map Prod.snd) (samples.map fun sample => [sample.1]) =
      some [some slope] ∧ IsLeastSquares samples slope

/-- The coordinates of a sample. -/
noncomputable def coordinates (cd : CalibrationData ℝ) : ℝ × ℝ :=
  (decibels cd.measure.getDistance, cd.rssi - l0)

/-- The strength of the signal follows the model. -/
def FollowsModel (alpha : ℝ) (cd : CalibrationData ℝ) : Prop :=
  cd.rssi = l0 + alpha * decibels cd.measure.getDistance

theorem coordinates_of_followsModel {alpha : ℝ} {cd : CalibrationData ℝ}
    (follows : FollowsModel alpha cd) :
    (coordinates cd).2 = alpha * (coordinates cd).1 := by
  rw [coordinates, follows, add_sub_cancel_left]

theorem coordinates_ne_zero {cd : CalibrationData ℝ} (positive : 0 < cd.measure.getDistance)
    (other : cd.measure.getDistance ≠ 1) : (coordinates cd).1 ≠ 0 := by
  apply mul_ne_zero (by norm_num)
  exact Real.logb_ne_zero_of_pos_of_ne_one (by norm_num) positive other

theorem estimateDistance_distance {alpha distance : ℝ} (nonzero : alpha ≠ 0)
    (positive : 0 < distance) :
    (globalVirtualCalibration alpha).estimateDistance
        (l0 + 10 * alpha * Real.logb 10 distance) = 75 / 100 * distance := by
  rw [estimateDistance_model nonzero, Real.rpow_logb (by norm_num) (by norm_num) positive]

theorem strictAnti_estimateDistance {alpha : ℝ} (negative : alpha < 0) :
    StrictAnti (globalVirtualCalibration alpha).estimateDistance := by
  intro weak strong less
  have factor : 10 * alpha < 0 := mul_neg_of_pos_of_neg (by norm_num) negative
  have exponents : (strong - l0) / (10 * alpha) < (weak - l0) / (10 * alpha) :=
    div_lt_div_of_neg_of_lt factor (sub_lt_sub_right less l0)
  have powers := Real.rpow_lt_rpow_of_exponent_lt (by norm_num : (1 : ℝ) < 10) exponents
  exact mul_lt_mul_of_pos_left powers (by norm_num)

/-- Calibration recovers the parameter of the model. -/
theorem calibrate_recovers {regression : Regression} (estimates : EstimatesSlope regression)
    {alpha : ℝ} (nonzero : alpha ≠ 0) {data : List (CalibrationData ℝ)}
    (three : 3 ≤ data.length) (positive : ∀ cd ∈ data, 0 < cd.measure.getDistance)
    (varied : ∃ cd ∈ data, cd.measure.getDistance ≠ 1)
    (follows : ∀ cd ∈ data, FollowsModel alpha cd) (before : ℝ) :
    ∃ calibrated, calibrate regression before data = some calibrated ∧ calibrated = alpha ∧
      (∀ distance, 0 < distance →
        (globalVirtualCalibration calibrated).estimateDistance
          (l0 + 10 * alpha * Real.logb 10 distance) = 75 / 100 * distance) ∧
      (alpha < 0 → StrictAnti (globalVirtualCalibration calibrated).estimateDistance) := by
  have spread : ∃ sample ∈ data.map coordinates, sample.1 ≠ 0 := by
    obtain ⟨cd, member, other⟩ := varied
    exact ⟨coordinates cd, List.mem_map_of_mem member,
      coordinates_ne_zero (positive cd member) other⟩
  obtain ⟨slope, estimated, best⟩ :=
    estimates (data.map coordinates) (by rwa [List.length_map]) spread
  have same : slope = alpha := by
    apply best.eq_of_line _ spread
    rw [List.forall_mem_map]
    exact fun cd member => coordinates_of_followsModel (follows cd member)
  subst same
  refine ⟨slope, ?_, rfl, fun distance => estimateDistance_distance nonzero,
    strictAnti_estimateDistance⟩
  rw [List.map_map, List.map_map] at estimated
  have enough : 2 < data.length := three
  rw [calibrate, if_pos enough]
  exact Option.bind_eq_some_iff.2 ⟨[some slope], estimated, rfl⟩

/-- A regression on one column. -/
noncomputable def quotientRegression : Regression := fun ySample xSample =>
  let samples := (xSample.map List.sum).zip ySample
  some [some (sumOfProducts samples / sumOfSquares samples)]

theorem estimatesSlope_quotient : EstimatesSlope quotientRegression := by
  intro samples _ spread
  have columns : ((samples.map fun sample => [sample.1]).map List.sum).zip
      (samples.map Prod.snd) = samples := by
    rw [List.map_map, List.zip_map']
    simp
  refine ⟨_, rfl, ?_⟩
  rw [columns]
  exact isLeastSquares_quotient spread

/-- Two anchors with the same latitude. -/
def farMeasure (lon : ℝ) : CalibrationMeasure ℝ where
  id := 1
  first := ⟨1, ['a'], 0, 0⟩
  second := ⟨2, ['b'], 0, lon⟩
  wallNumber := 0

theorem getDistance_farMeasure : (farMeasure 10).getDistance = 10 := by
  have square : ((farMeasure 10).first.lon - (farMeasure 10).second.lon) *
      ((farMeasure 10).first.lon - (farMeasure 10).second.lon) +
        ((farMeasure 10).first.lat - (farMeasure 10).second.lat) *
          ((farMeasure 10).first.lat - (farMeasure 10).second.lat) = 10 ^ 2 := by
    simp only [farMeasure]
    norm_num
  rw [CalibrationMeasure.getDistance, square]
  exact Real.sqrt_sq (by norm_num)

/-- Three samples of the two anchors, in a model with the parameter -2. -/
theorem calibrate_recovers_farMeasure :
    ∃ calibrated, calibrate quotientRegression 0
        [⟨1, farMeasure 10, -40, 0⟩, ⟨2, farMeasure 10, -40, 1⟩, ⟨3, farMeasure 10, -40, 2⟩] =
      some calibrated ∧ calibrated = -2 := by
  have follows : ∀ id timestamp, FollowsModel (-2) ⟨id, farMeasure 10, -40, timestamp⟩ := by
    intro id timestamp
    rw [FollowsModel, getDistance_farMeasure, decibels, Real.logb_self_eq_one (by norm_num), l0]
    norm_num
  obtain ⟨calibrated, runs, recovers, _⟩ :=
    @calibrate_recovers quotientRegression estimatesSlope_quotient (-2) (by norm_num)
      [⟨1, farMeasure 10, -40, 0⟩, ⟨2, farMeasure 10, -40, 1⟩, ⟨3, farMeasure 10, -40, 2⟩]
      (by simp) (by simp [getDistance_farMeasure]) (by simp [getDistance_farMeasure])
      (by simp [follows]) 0
  exact ⟨calibrated, runs, recovers⟩

end IotLab.Localization
