import IotLab.Localization.Geometry
import Mathlib.Data.Fintype.Fin

/-!
# The error correction of the trilateration

`ErrorCorrectionAlgorithm` looks for a position among the intersections of three
circles and changes radii until there are enough of them.  The objects of the class
`Circle` are shared: an intersection refers to its circles by their indices.
-/

namespace IotLab.Localization

/-- How a computation can fail to give a position. -/
inductive Failure where
  | nullPointer
  | indexOutOfBounds
  /-- A loop or a recursion needs more steps. -/
  | unfinished
  deriving Repr, DecidableEq

/-- An object of the class `Intersection`. -/
structure Intersection (K : Type*) where
  first : Fin 3
  second : Fin 3
  state : Meeting
  points : List (Point K)
  deriving DecidableEq

/-- An element of `intersectionPoints` with the circles of its intersection. -/
structure Crossing (K : Type*) where
  point : Point K
  first : Fin 3
  second : Fin 3
  deriving DecidableEq

/-- The fields of an `ErrorCorrectionAlgorithm`. -/
structure Correction (K : Type*) where
  circles : Fin 3 → Circle K
  intersections : List (Intersection K)
  /-- `xg` and `yg`. -/
  position : Point K

/-- `intersectionPoints` as `init` computes it. -/
def Correction.crossings {K : Type*} (state : Correction K) : List (Crossing K) :=
  state.intersections.flatMap fun inter =>
    inter.points.map fun point => ⟨point, inter.first, inter.second⟩

/-- `sameCircles`. -/
def Intersection.sameCircles {K : Type*} (inter other : Intersection K) : Bool :=
  inter.first = other.first && inter.second = other.second

/-- `getIndexOfCircleWithNoIntersectWithOthers`; only the first circles of the
intersections are looked at. -/
def isolatedIndex {K : Type*} (intersections : List (Intersection K)) :
    Option (Fin 3) :=
  (List.finRange 3).find? fun index =>
    !intersections.any fun inter => inter.state = .intersect && inter.first = index

/-- The loop that sets the intersections with the circles of new ones. -/
def replaceBy {K : Type*} (inter1 inter2 : Intersection K)
    (intersections : List (Intersection K)) : List (Intersection K) :=
  intersections.map fun inter =>
    if inter.sameCircles inter1 then inter1
    else if inter.sameCircles inter2 then inter2
    else inter

section Steps

variable {K : Type*} [Field K] [LinearOrder K] (sqrt : K → K)

/-- The intersection of two of the circles. -/
def meet (circles : Fin 3 → Circle K) (first second : Fin 3) : Intersection K :=
  let met := intersect sqrt (circles first) (circles second)
  { first, second, state := met.1, points := met.2 }

/-- The number of circles that a point lies in, up to a distance of 1. -/
def weight (circles : Fin 3 → Circle K) (crossing : Crossing K) : ℕ :=
  (List.finRange 3).countP fun index =>
    distance sqrt (circles index).center crossing.point ≤ (circles index).radius + 1

/-- `maxWeight`. -/
def Correction.maxWeight (state : Correction K) : ℕ :=
  (state.crossings.map (weight sqrt state.circles)).foldl max 0

/-- The branch for a point in all circles: the weighted mean of these points. -/
def Correction.heaviest (state : Correction K) : Correction K :=
  let heavy := state.crossings.filter fun crossing =>
    state.maxWeight sqrt ≤ weight sqrt state.circles crossing
  let weights := heavy.map fun crossing => (weight sqrt state.circles crossing : K)
  let sum := fun coordinate : Point K → K =>
    (heavy.map fun crossing =>
      coordinate crossing.point * weight sqrt state.circles crossing).sum
  if 0 < weights.sum then
    { state with position := (sum Prod.fst / weights.sum, sum Prod.snd / weights.sum) }
  else state

/-- `leastD` and `nearest`: the least distances so far with their points, the smaller
one first. -/
abbrev Nearest (K : Type*) := Option (K × Point K) × Option (K × Point K)

/-- A distance is below one that starts at `Double.MAX_VALUE`. -/
def below (value : K) : Option (K × Point K) → Bool
  | none => true
  | some (least, _) => value < least

/-- A step of the loop that keeps the two nearest points. -/
def nearestStep (nearest : Nearest K) (value : K) (point : Point K) : Nearest K :=
  let second := if below value nearest.2 then some (value, point) else nearest.2
  match second with
  | none => (nearest.1, second)
  | some (least, _) => if below least nearest.1 then (second, nearest.1)
      else (nearest.1, second)

/-- The two nearest of the first points to one of them. -/
def nearestTwo (points : List (Point K)) (index : ℕ) (point : Point K) : Nearest K :=
  (points.zipIdx).foldl (fun nearest other =>
    if other.2 = index then nearest
    else nearestStep nearest (distance sqrt point other.1) other.1) (none, none)

/-- The branch for six points: the loops run to the number of the intersections. -/
def Correction.nearestThree (state : Correction K) : Except Failure (Correction K) := do
  let points := (state.crossings.map Crossing.point).take state.intersections.length
  let nearest3 ← (points.zipIdx).foldlM (fun (best : Option (K × Point K × Nearest K)) current =>
    let nearest := nearestTwo sqrt points current.2 current.1
    match nearest.1 with
    | none => .error Failure.nullPointer
    | some (_, first) =>
        let sum := distance sqrt first current.1 + distance sqrt first current.1
        match best with
        | none => .ok (some (sum, current.1, nearest))
        | some (min, _) =>
            if sum < min then .ok (some (sum, current.1, nearest)) else .ok best) none
  match nearest3 with
  | some (_, point, some (_, first), some (_, second)) =>
      .ok { state with
        position := ((point.1 + first.1 + second.1) / 3,
          (point.2 + first.2 + second.2) / 3) }
  | _ => .error .nullPointer

/-- The nearest point of another pair of circles. -/
def nearestOther (crossings : List (Crossing K)) (index : ℕ) (crossing : Crossing K) :
    Option (K × Point K) :=
  (crossings.zipIdx).foldl (fun nearest other =>
    let value := distance sqrt crossing.point other.1.point
    if other.2 ≠ index ∧ ¬ (crossing.first = other.1.first ∧
        crossing.second = other.1.second) ∧ below value nearest
      then some (value, other.1.point) else nearest) none

/-- The branch for four points. -/
def Correction.nearestPair (state : Correction K) : Except Failure (Correction K) :=
  let nearest2 := (state.crossings.zipIdx).foldl
    (fun (best : Option (K × Point K × Point K)) current =>
      match nearestOther sqrt state.crossings current.2 current.1 with
      | none => best
      | some (least, other) =>
          match best with
          | none => some (least, current.1.point, other)
          | some (min, _) =>
              if least < min then some (least, current.1.point, other) else best) none
  match nearest2 with
  | none => .error .nullPointer
  | some (_, first, second) =>
      .ok { state with
        position := (half (first.1 + second.1), half (first.2 + second.2)) }

/-- The coefficient for the isolated circle: it shrinks if it surrounds another one. -/
def coefficient (circles : Fin 3 → Circle K) (index : Fin 3) : K :=
  if ∃ other, other ≠ index ∧ (circles other).radius < (circles index).radius ∧
      distance sqrt (circles index).center (circles other).center <
        |(circles index).radius - (circles other).radius|
    then 3 / 4 else 5 / 4

/-- The loop that resizes the isolated circle: one step and `again` more at most. -/
def resize (coeff : K) (index : Fin 3) :
    (again : ℕ) → (Fin 3 → Circle K) → (Fin 3 → Circle K) × Intersection K × Intersection K
  | again, circles =>
      let resized := Function.update circles index
        ((circles index).setRadius ((circles index).radius * coeff))
      let inter1 := meet sqrt resized index (index + 2)
      let inter2 := meet sqrt resized index (index + 1)
      match again with
      | 0 => (resized, inter1, inter2)
      | again + 1 =>
          if inter1.state = .intersect ∨ inter2.state = .intersect ∨
              ¬ 0 < (resized index).radius then (resized, inter1, inter2)
          else resize coeff index again resized

/-- One step of the loop that enlarges circles without intersections. -/
def enlargeStep (circles : Fin 3 → Circle K) : Fin 3 → Circle K :=
  let enlarged :=
    if (circles 0).radius + (circles 1).radius <
        distance sqrt (circles 0).center (circles 1).center then
      Function.update
        (Function.update circles 0 ((circles 0).setRadius ((circles 0).radius * (5 / 4))))
        1 ((circles 1).setRadius ((circles 1).radius * (5 / 4)))
    else circles
  -- the third radius is computed from the second one
  if (enlarged 0).radius + (enlarged 2).radius <
      distance sqrt (enlarged 0).center (enlarged 2).center then
    Function.update enlarged 2 ((enlarged 2).setRadius ((enlarged 1).radius * (5 / 4)))
  else enlarged

/-- The loop that enlarges the circles: one step and `again` more at most. -/
def enlarge : (again : ℕ) → (Fin 3 → Circle K) →
    (Fin 3 → Circle K) × Intersection K × Intersection K
  | again, circles =>
      let enlarged := enlargeStep sqrt circles
      let inter1 := meet sqrt enlarged 0 1
      let inter2 := meet sqrt enlarged 0 2
      match again with
      | 0 => (enlarged, inter1, inter2)
      | again + 1 =>
          if inter1.state = .intersect ∨ inter2.state = .intersect then
            (enlarged, inter1, inter2)
          else enlarge again enlarged

/-- `doCorrection` at a depth of the recursion. -/
def doCorrection : (fuel : ℕ) → (depth : ℕ) → Correction K →
    Except Failure (Correction K)
  | 0, _, _ => .error .unfinished
  | fuel + 1, depth, state =>
      if state.maxWeight sqrt = 3 then .ok (state.heaviest sqrt)
      else if state.crossings.length = 6 ∧ state.maxWeight sqrt = 2 then
        state.nearestThree sqrt
      else if state.crossings.length = 4 ∧ state.maxWeight sqrt = 2 then
        state.nearestPair sqrt
      else if state.crossings.length = 2 then
        match isolatedIndex state.intersections with
        | none => .ok state
        | some index =>
            let resized := resize sqrt (coefficient sqrt state.circles index) index 10
              state.circles
            if resized.2.1.state = .intersect ∨ resized.2.2.state = .intersect then
              let next := { state with
                circles := resized.1
                intersections := replaceBy resized.2.1 resized.2.2 state.intersections }
              if depth < 10 then doCorrection fuel (depth + 1) next else .ok next
            else .ok { state with circles := resized.1 }
      else if state.crossings.length = 0 then
        let enlarged := enlarge sqrt 10 state.circles
        doCorrection fuel 0 { state with
          circles := enlarged.1
          intersections := replaceBy enlarged.2.1 enlarged.2.2 state.intersections }
      else .ok state

end Steps

end IotLab.Localization
