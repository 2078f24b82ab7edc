import IotLab.Library.Traversal
import IotLab.Localization.Algorithms

/-!
# The combined position

`GeolocationManager.doLocalization` runs the enabled algorithms for every sender
that is no anchor and combines their positions with weights.  The weights of the
combined position are one over the number of the enabled algorithms, also of those
that have left the origin for want of data.
-/

namespace IotLab.Localization

inductive Algorithm where
  | trilateration
  | barycenter
  | multilateration
  deriving Repr, DecidableEq

/-- The state of the manager and what it is given. -/
structure Manager (K : Type*) where
  sqrt : K → K
  calibration : Calibration K
  optimize : List (Measure K) → Point K
  anchors : List (Mote K)
  /-- `isEnabled` of the services of the algorithms. -/
  enabled : Algorithm → Bool
  /-- `algoWeights`. -/
  algoWeights : Algorithm → Point K
  /-- A bound on the steps of each loop and recursion. -/
  fuel : ℕ

/-- What `doLocalization` adds for a sender. -/
structure Location (K : Type*) where
  sender : Mote K
  estimates : List (Algorithm × Point K)
  combined : Option (Point K)
  custom : Option (Point K)

/-- The records of the three algorithm objects. -/
abbrev Records (K : Type*) := Algorithm → List (GeolocationData K)

/-- The services in the order in which they are asked. -/
def Manager.enabledAlgorithms {K : Type*} (manager : Manager K) : List Algorithm :=
  [Algorithm.trilateration, .barycenter, .multilateration].filter manager.enabled

section Localize

variable {K : Type*} [Field K] [LinearOrder K]

/-- `execute` of an algorithm: the position and the records it leaves. -/
def Manager.execute (manager : Manager K) (data : List (GeolocationData K)) (mote : ℤ) :
    Algorithm → Except Failure (Point K × List (GeolocationData K))
  | .trilateration =>
      (trilaterate manager.sqrt manager.fuel manager.calibration manager.anchors data
        mote).map fun executed => (executed.1, data)
  | .barycenter =>
      .ok (Localization.barycenter manager.calibration manager.anchors data mote, data)
  | .multilateration =>
      multilaterate manager.fuel manager.optimize manager.calibration manager.anchors data
        mote

/-- The positions of some algorithms, one after the other. -/
def Manager.executeAll (manager : Manager K) (mote : ℤ) :
    List Algorithm → Records K → Except Failure (List (Algorithm × Point K) × Records K)
  | [], records => .ok ([], records)
  | algorithm :: rest, records => do
      let executed ← manager.execute (records algorithm) mote algorithm
      let later ← manager.executeAll mote rest
        (Function.update records algorithm executed.2)
      .ok ((algorithm, executed.1) :: later.1, later.2)

/-- The calls of `combine` with a pair of coefficients for each algorithm. -/
def combine (coefficients : Algorithm → Point K) (estimates : List (Algorithm × Point K)) :
    Point K :=
  estimates.foldl (fun combined estimate =>
    (combined.1 + estimate.2.1 * (coefficients estimate.1).1,
      combined.2 + estimate.2.2 * (coefficients estimate.1).2)) 0

/-- The body of the loop over the senders. -/
def Manager.localize (manager : Manager K) (records : Records K) (sender : Mote K) :
    Except Failure (Location K × Records K) := do
  let n := manager.enabledAlgorithms.length
  let c : K := 1 / n
  let executed ← manager.executeAll sender.id manager.enabledAlgorithms records
  let positions := if 0 < n then
      some (combine (fun _ => (c, c)) executed.1, combine manager.algoWeights executed.1)
    else none
  .ok ({ sender
         estimates := executed.1
         combined := positions.map Prod.fst
         custom := positions.map Prod.snd }, executed.2)

/-- The loop over the senders. -/
def Manager.localizeAll (manager : Manager K) :
    List (Mote K) → Records K → Except Failure (List (Location K))
  | [], _ => .ok []
  | sender :: rest, records => do
      let located ← manager.localize records sender
      let later ← manager.localizeAll rest located.2
      .ok (located.1 :: later)

/-- `doLocalization`, for the senders that `SenderDAO` knows and the records that
`GeolocationDataDAO` gives to the algorithms. -/
def Manager.doLocalization (manager : Manager K) (senders : List (Mote K))
    (records : Records K) : Except Failure (List (Location K)) :=
  manager.localizeAll
    (senders.filter fun sender => !isAnchor manager.anchors sender.id) records

/-- Every algorithm that is executed gives one position. -/
theorem executeAll_names {manager : Manager K} {mote : ℤ} {algorithms : List Algorithm}
    {records left : Records K} {estimates : List (Algorithm × Point K)}
    (executed : manager.executeAll mote algorithms records = .ok (estimates, left)) :
    estimates.map Prod.fst = algorithms := by
  induction algorithms generalizing records estimates left with
  | nil =>
      cases executed
      rfl
  | cons algorithm rest ih =>
      simp only [Manager.executeAll, IotLab.Library.bind_eq_ok] at executed
      obtain ⟨_, _, ⟨others, last⟩, later, same⟩ := executed
      cases same
      rw [List.map_cons, ih later]

end Localize

/-! ## Enough data -/

section Enough

variable {K : Type*} [Field K] [LinearOrder K]

/-- An algorithm has enough records to compute a position: three circles, a record
of an anchor with the mote, a measure. -/
def Manager.Enough (manager : Manager K) (data : List (GeolocationData K)) (mote : ℤ) :
    Algorithm → Prop
  | .trilateration =>
      3 ≤ (buildCircles manager.calibration manager.anchors mote data).length
  | .barycenter => ∃ record ∈ data, (peerOf manager.anchors mote record).isSome
  | .multilateration =>
      retained (data.filterMap (measureOf manager.calibration manager.anchors mote)) ≠ []

instance (manager : Manager K) (data : List (GeolocationData K)) (mote : ℤ) :
    DecidablePred (manager.Enough data mote)
  | .trilateration => inferInstanceAs (Decidable (_ ≤ _))
  | .barycenter => inferInstanceAs (Decidable (∃ record ∈ data, _))
  | .multilateration =>
      decidable_of_iff (¬ (retained (data.filterMap
        (measureOf manager.calibration manager.anchors mote))).isEmpty = true) <| by
          rw [List.isEmpty_iff]
          rfl

/-- The positions of the algorithms that had enough records. -/
def Manager.available (manager : Manager K) (records : Records K) (location : Location K) :
    List (Point K) :=
  (location.estimates.filter fun estimate =>
    manager.Enough (records estimate.1) location.sender.id estimate.1).map Prod.snd

end Enough

end IotLab.Localization
