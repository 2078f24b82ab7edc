import IotLab.Library.SwapSort
import IotLab.Localization.Circles
import IotLab.Localization.ErrorCorrection
import Mathlib.Data.Fin.VecNotation

/-!
# The three algorithms

Each algorithm computes a position of a mote from the records and leaves the origin
if it has too few of them.  The optimizer of the multilateration and the calibration
are parameters.
-/

namespace IotLab.Localization

open IotLab.Library

section Trilateration

variable {K : Type*} [Field K] [LinearOrder K] (sqrt : K → K) (fuel : ℕ)

/-- The pairs of different indices that the loops meet; `done` holds the pairs met
so far, in both orders. -/
def circlePairs : List (Fin 3 × Fin 3) :=
  let met := ((List.finRange 3).product (List.finRange 3)).foldl
    (fun (pairs, done) pair =>
      if pair.1 ≠ pair.2 ∧ pair ∉ done ∧ (pair.2, pair.2) ∉ done then
        (pairs ++ [pair], done ++ [pair, (pair.2, pair.1)])
      else (pairs, done))
    (([], []) : List (Fin 3 × Fin 3) × List (Fin 3 × Fin 3))
  met.1

example : circlePairs = [(0, 1), (0, 2), (1, 2)] := by decide

/-- `Trilateration.execute`: the position and the circles it keeps.  With `k = 3`
the loops over the circles make one combination, that of the first three. -/
def trilaterate (calibration : Calibration K) (anchors : List (Mote K))
    (data : List (GeolocationData K)) (mote : ℤ) :
    Except Failure (Point K × List (Circle K)) :=
  let circles := buildCircles calibration anchors mote data
  if circles.length < 3 then .ok (0, circles)
  else
    match swapSort (fun circle next => next.radius < circle.radius) fuel circles with
    | none => .error .unfinished
    | some (first :: second :: third :: _) => do
        let temp := ![first, second, third]
        let corrected ← doCorrection sqrt fuel 0
          { circles := temp
            intersections := circlePairs.map fun pair => meet sqrt temp pair.1 pair.2
            position := 0 }
        .ok (corrected.position, (List.finRange 3).map corrected.circles)
    | some _ => .error .indexOutOfBounds

end Trilateration

section Barycenter

variable {K : Type*} [Field K] [LinearOrder K]

/-- The other mote of a record of an anchor with the mote. -/
def peerOf (anchors : List (Mote K)) (mote : ℤ) (record : GeolocationData K) :
    Option (Mote K) :=
  if isAnchor anchors record.src.id || isAnchor anchors record.dest.id then
    if record.src.id = mote then some record.dest
    else if record.dest.id = mote then some record.src
    else none
  else none

/-- The sum of the weights and of the weighted positions. -/
structure Weighted (K : Type*) where
  sum : K
  x : K
  y : K

/-- One step of the loop of `Barycenter.execute`. -/
def barycenterStep (calibration : Calibration K) (anchors : List (Mote K)) (mote : ℤ)
    (weighted : Weighted K) (record : GeolocationData K) : Weighted K :=
  match peerOf anchors mote record with
  | none => weighted
  | some peer =>
      let d := calibration.estimateDistance record.rssi
      if 0 < d then
        { sum := weighted.sum + 1 / d
          x := weighted.x + peer.lon * (1 / d)
          y := weighted.y + peer.lat * (1 / d) }
      else weighted

/-- `Barycenter.execute`. -/
def barycenter (calibration : Calibration K) (anchors : List (Mote K))
    (data : List (GeolocationData K)) (mote : ℤ) : Point K :=
  let weighted := data.foldl (barycenterStep calibration anchors mote) ⟨0, 0, 0⟩
  if 0 < weighted.sum then (weighted.x / weighted.sum, weighted.y / weighted.sum)
  else (weighted.x, weighted.y)

end Barycenter

section Multilateration

variable {K : Type*} [Field K] [LinearOrder K]

/-- A measure for the optimizer: a position, a distance and its weight. -/
structure Measure (K : Type*) where
  x : K
  y : K
  d : K
  weight : K

/-- The anchor of a record of the mote with an anchor. -/
def anchorOf (anchors : List (Mote K)) (mote : ℤ) (record : GeolocationData K) :
    Option (Mote K) :=
  if record.src.id = mote && isAnchor anchors record.dest.id then some record.dest
  else if record.dest.id = mote && isAnchor anchors record.src.id then some record.src
  else none

/-- The measure of a record. -/
def measureOf (calibration : Calibration K) (anchors : List (Mote K)) (mote : ℤ)
    (record : GeolocationData K) : Option (Measure K) :=
  match anchorOf anchors mote record with
  | none => none
  | some peer =>
      let de := calibration.estimateDistanceWalls record.rssi 0
      if 0 < de then some { x := peer.lon, y := peer.lat, d := de, weight := 1 / (de * de) }
      else none

/-- The measures that are retained: those up to the distance of rank `nb`. -/
def retained (measures : List (Measure K)) : List (Measure K) :=
  let sorted := (measures.map Measure.d).insertionSort (· ≤ ·)
  let nb := if 6 ≤ sorted.length then sorted.length / 2 else sorted.length
  match sorted[nb - 1]? with
  | none => []
  | some limit => measures.filter fun measure => measure.d ≤ limit

/-- `Multilateration.execute`: the position and the records in the order it leaves
them in.  Without measures the optimizer throws `NoDataException`, which is
caught. -/
def multilaterate (fuel : ℕ) (optimize : List (Measure K) → Point K)
    (calibration : Calibration K) (anchors : List (Mote K))
    (data : List (GeolocationData K)) (mote : ℤ) :
    Except Failure (Point K × List (GeolocationData K)) :=
  match swapSort (fun record next => record.rssi < next.rssi) fuel data with
  | none => .error .unfinished
  | some sorted =>
      let measures := retained (sorted.filterMap (measureOf calibration anchors mote))
      .ok (if measures.isEmpty then 0 else optimize measures, sorted)

end Multilateration

end IotLab.Localization
