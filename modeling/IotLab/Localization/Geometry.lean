import Mathlib.Algebra.Order.Field.Basic

/-!
# Circles and their intersections

The geometry of the trilateration over exact numbers.  `Math.sqrt` is a parameter:
over the reals it is the real square root.
-/

namespace IotLab.Localization

/-- A point; its coordinates are `getX` and `getY`. -/
abbrev Point (K : Type*) := K × K

/-- An object of the class `Circle`. -/
structure Circle (K : Type*) where
  center : Point K
  radius : K
  mote : List Char
  rssi : K
  deriving DecidableEq

variable {K : Type*} [Field K] [LinearOrder K]

/-- The constructor of `Circle`. -/
def newCircle (center : Point K) (radius : K) (mote : List Char) (rssi : K) : Circle K :=
  { center, radius := max 0 radius, mote, rssi }

/-- `setRadius`. -/
def Circle.setRadius (circle : Circle K) (radius : K) : Circle K :=
  { circle with radius := max 0 radius }

/-- The field `state` of an `Intersection`. -/
inductive Meeting where
  | intersect
  | noIntersect
  | surrounded
  | coincidence
  deriving Repr, DecidableEq

/-- The division by two of a mean of two numbers. -/
def half (value : K) : K :=
  value / 2

/-- The product with the literal two. -/
def twice (value : K) : K :=
  2 * value

section Sqrt

variable (sqrt : K → K)

/-- `Point.distance`. -/
def distance (point other : Point K) : K :=
  sqrt ((point.1 - other.1) * (point.1 - other.1) +
    (point.2 - other.2) * (point.2 - other.2))

/-- `Trilateration.intersect`: the state of the intersection and its points. -/
def intersect (first second : Circle K) : Meeting × List (Point K) :=
  let dist := distance sqrt first.center second.center
  if first.radius + second.radius < dist then (.noIntersect, [])
  else if dist < |first.radius - second.radius| then (.surrounded, [])
  else if dist = 0 ∧ first.radius = second.radius then (.coincidence, [])
  else
    let a := (first.radius * first.radius - second.radius * second.radius + dist * dist) /
      (2 * dist)
    let h := sqrt (first.radius * first.radius - a * a)
    let dx := second.center.1 - first.center.1
    let dy := second.center.2 - first.center.2
    let cx2 := first.center.1 + a * dx / dist
    let cy2 := first.center.2 + a * dy / dist
    let intersection1 : Point K := (cx2 + h * dy / dist, cy2 - h * dx / dist)
    let intersection2 : Point K := (cx2 - h * dy / dist, cy2 + h * dx / dist)
    if dist = first.radius + second.radius then
      (.intersect, [intersection1, intersection1])
    else (.intersect, [intersection1, intersection2])

end Sqrt

end IotLab.Localization
