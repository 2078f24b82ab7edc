import Mathlib.Analysis.SpecialFunctions.Log.Base
import Mathlib.Analysis.SpecialFunctions.Pow.Real

/-!
# Calibrations

A calibration estimates distances from signal strengths.  `GlobalVirtualCalibration`
uses a propagation model with one parameter.
-/

namespace IotLab.Localization

/-- The interface `Calibration`, as far as the algorithms use it. -/
structure Calibration (K : Type*) where
  estimateDistance : K → K
  estimateDistanceWalls : K → ℤ → K

/-- `l0`. -/
noncomputable def l0 : ℝ := -20

/-- `GlobalVirtualCalibration` with a value of its field `alpha`. -/
noncomputable def globalVirtualCalibration (alpha : ℝ) : Calibration ℝ :=
  let estimate := fun rssi : ℝ => 75 / 100 * (10 : ℝ) ^ ((rssi - l0) / (10 * alpha))
  { estimateDistance := estimate
    estimateDistanceWalls := fun rssi _ => estimate rssi }

/-- `10 * Math.log10`. -/
noncomputable def decibels (distance : ℝ) : ℝ := 10 * Real.logb 10 distance

theorem estimateDistance_pos (alpha rssi : ℝ) :
    0 < (globalVirtualCalibration alpha).estimateDistance rssi := by
  apply mul_pos
  · norm_num
  · exact Real.rpow_pos_of_pos (by norm_num) _

theorem estimateDistance_model {alpha : ℝ} (nonzero : alpha ≠ 0) (exponent : ℝ) :
    (globalVirtualCalibration alpha).estimateDistance (l0 + 10 * alpha * exponent) =
      75 / 100 * (10 : ℝ) ^ exponent := by
  have same : (l0 + 10 * alpha * exponent - l0) / (10 * alpha) = exponent := by
    rw [add_sub_cancel_left]
    exact mul_div_cancel_left₀ exponent (mul_ne_zero (by norm_num) nonzero)
  change 75 / 100 * (10 : ℝ) ^ ((l0 + 10 * alpha * exponent - l0) / (10 * alpha)) = _
  rw [same]

end IotLab.Localization
