import IotLab.Library.Window
import IotLab.Localization.Weights

/-!
# The tester of the algorithms

`GeolocationManager.doLocalization` gives every position it computes to the
`AlgorithmTester`, which keeps the latest ones of each algorithm, of the combined
positions and of the real ones in vectors of their own.  While the optimizer is
started, every localization ends with a regression over these vectors.
-/

namespace IotLab.Localization

open IotLab.Library

/-! ## The vectors -/

/-- The constants `REAL` to `COMBINED_OPTIMIZED`. -/
inductive VectorIndex where
  | real
  | trilateration
  | barycenter
  | multilateration
  | combined
  | combinedCustomized
  | combinedOptimized
  deriving Repr, DecidableEq

/-- The index of the vectors of an algorithm. -/
def Algorithm.index : Algorithm → VectorIndex
  | .trilateration => .trilateration
  | .barycenter => .barycenter
  | .multilateration => .multilateration

/-- The constant `VALUE_NB`. -/
def valueNb : ℕ := 200

/-- The stacks of an index. -/
structure Vectors (K : Type*) where
  errors : List K := []
  x : List K := []
  y : List K := []
  senders : List (Mote K) := []

/-- The fields of `AlgorithmTester`. -/
structure Tester (K : Type*) where
  optiEnabled : Bool := false
  vectors : VectorIndex → Vectors K := fun _ => {}

/-- The arguments of a call of `addResult`. -/
structure Result (K : Type*) where
  position : Point K
  sender : Mote K
  index : VectorIndex

/-- What the code uses of its libraries. -/
structure Libraries (K : Type*) where
  sqrt : K → K
  /-- The builder of a JSON object throws on `NaN` and the infinite numbers. -/
  finite : K → Bool
  /-- `newSampleData` and `estimateRegressionParameters`, which returns a parameter for
  each column of the sample, or `none` when one of them throws. -/
  estimate : List K → List (List K) → Option (List K)

/-- A position can be added to a JSON object. -/
def Libraries.encodes {K : Type*} (libraries : Libraries K) (position : Point K) : Bool :=
  libraries.finite position.1 && libraries.finite position.2

section Tester

variable {K : Type*} [Field K]

/-- The distance of a result from the position of its sender. -/
def Result.error (sqrt : K → K) (result : Result K) : K :=
  sqrt ((result.position.1 - result.sender.lon) * (result.position.1 - result.sender.lon) +
    (result.position.2 - result.sender.lat) * (result.position.2 - result.sender.lat))

/-- Push a result on the four stacks and trim each of them. -/
def Vectors.add (sqrt : K → K) (vectors : Vectors K) (result : Result K) : Vectors K where
  errors := keepLast valueNb (vectors.errors ++ [result.error sqrt])
  x := keepLast valueNb (vectors.x ++ [result.position.1])
  y := keepLast valueNb (vectors.y ++ [result.position.2])
  senders := keepLast valueNb (vectors.senders ++ [result.sender])

namespace Tester

/-- `init`. -/
def init (tester : Tester K) : Tester K :=
  { tester with vectors := fun _ => {} }

/-- `start`. -/
def start (tester : Tester K) : Tester K :=
  { tester with optiEnabled := true }.init

/-- `stop`. -/
def stop (tester : Tester K) : Tester K :=
  { tester with optiEnabled := false }

/-- `addResult`. -/
def addResult (sqrt : K → K) (tester : Tester K) (result : Result K) : Tester K :=
  { tester with
    vectors := Function.update tester.vectors result.index
      ((tester.vectors result.index).add sqrt result) }

/-! ## The optimizer -/

/-- The checks at the beginning of `optimize`. -/
def ready (tester : Tester K) (enabled : List Algorithm) : Bool :=
  !enabled.isEmpty &&
    (enabled.all fun algorithm =>
      (tester.vectors algorithm.index).x.length == valueNb &&
        (tester.vectors algorithm.index).y.length == valueNb) &&
    ((tester.vectors .real).x.length == valueNb &&
      (tester.vectors .real).x.length == valueNb)

/-- The entries at a position of the vectors of the enabled algorithms. -/
def entries (tester : Tester K) (enabled : List Algorithm) (axis : Vectors K → List K)
    (position : ℕ) : Option (List K) :=
  enabled.mapM fun algorithm => (axis (tester.vectors algorithm.index))[position]?

/-- The regression on one axis and the parameters added to a JSON object, or `none`
for an exception. -/
def parameters (libraries : Libraries K) (tester : Tester K) (enabled : List Algorithm)
    (axis : Vectors K → List K) : Option (List K) := do
  let xSample ← (List.range valueNb).mapM (tester.entries enabled axis)
  let ySample ← (List.range valueNb).mapM fun position =>
    (axis (tester.vectors .real))[position]?
  let params ← libraries.estimate ySample xSample
  if params.all libraries.finite then some params else none

/-- The result that the parameters give at a position. -/
def optimized (tester : Tester K) (enabled : List Algorithm) (xparam yparam : List K)
    (position : ℕ) : Option (Result K) := do
  let xs ← tester.entries enabled Vectors.x position
  let ys ← tester.entries enabled Vectors.y position
  let sender ← (tester.vectors .combined).senders[position]?
  some { position := ((List.zipWith (· * ·) xs xparam).sum,
           (List.zipWith (· * ·) ys yparam).sum)
         sender := sender
         index := .combinedOptimized }

/-- The loop that adds the optimized results, up to an exception. -/
def addOptimized (libraries : Libraries K) (enabled : List Algorithm)
    (xparam yparam : List K) : List ℕ → Tester K → Tester K
  | [], tester => tester
  | position :: rest, tester =>
      match tester.optimized enabled xparam yparam position with
      | none => tester
      | some result =>
          if libraries.encodes result.position then
            addOptimized libraries enabled xparam yparam rest
              (tester.addResult libraries.sqrt result)
          else tester

/-- `optimize`. -/
def optimize (libraries : Libraries K) (tester : Tester K) (enabled : List Algorithm) :
    Tester K :=
  if tester.ready enabled then
    match tester.parameters libraries enabled Vectors.x with
    | none => tester
    | some xparam =>
        match tester.parameters libraries enabled Vectors.y with
        | none => tester
        | some yparam =>
            addOptimized libraries enabled xparam yparam (List.range valueNb) tester
  else tester

end Tester

/-! ## A pass of the loop over the senders -/

/-- What the body of the loop is given: `execute` is the position that an algorithm
leaves, or `none` when it throws. -/
structure Pass (K : Type*) where
  sender : Mote K
  enabled : Algorithm → Bool
  weights : Algorithm → Point K
  execute : Algorithm → Option (Point K)

namespace Pass

def enabledAlgorithms (pass : Pass K) : List Algorithm :=
  [Algorithm.trilateration, .barycenter, .multilateration].filter pass.enabled

/-- The blocks of some algorithms: the results they add and the positions they combine,
or `none` when one of them throws. -/
def executeAll (libraries : Libraries K) (pass : Pass K) :
    List Algorithm → List (Result K) × Option (List (Algorithm × Point K))
  | [] => ([], some [])
  | algorithm :: rest =>
      match pass.execute algorithm with
      | none => ([], none)
      | some position =>
          if libraries.encodes position then
            let later := executeAll libraries pass rest
            ({ position, sender := pass.sender, index := algorithm.index } :: later.1,
              later.2.map fun estimates => (algorithm, position) :: estimates)
          else ([], none)

/-- The combined position and the one with the weights of the map. -/
def combinedPositions (pass : Pass K) (estimates : List (Algorithm × Point K)) :
    Point K × Point K :=
  let c : K := 1 / pass.enabledAlgorithms.length
  (combine (fun _ => (c, c)) estimates, combine pass.weights estimates)

/-- The calls of `addResult` and whether the body of the loop returns. -/
def perform (libraries : Libraries K) (pass : Pass K) : List (Result K) × Bool :=
  let executed := pass.executeAll libraries pass.enabledAlgorithms
  match executed.2 with
  | none => (executed.1, false)
  | some estimates =>
      if 0 < pass.enabledAlgorithms.length then
        let positions := pass.combinedPositions estimates
        if libraries.encodes positions.1 && libraries.encodes positions.2 then
          (executed.1 ++
            [{ position := positions.1, sender := pass.sender, index := .combined },
              { position := positions.2, sender := pass.sender,
                index := .combinedCustomized },
              { position := (pass.sender.lon, pass.sender.lat), sender := pass.sender,
                index := .real }], true)
        else (executed.1, false)
      else (executed.1, true)

end Pass

/-! ## The manager and the tester -/

/-- The services of `GeolocationManager`, its weights, and the tester. -/
structure State (K : Type*) where
  services : Text → Option Bool
  algoWeights : AlgoWeights K
  tester : Tester K

/-- What a localization reads from the database and from the algorithms.  The senders are
rows of one table. -/
structure Round (K : Type*) where
  anchors : List (Mote K)
  senders : List (Mote K)
  distinct : (senders.map Mote.id).Nodup
  execute : Algorithm → Mote K → Option (Point K)

/-- `getSendersWithoutAnchors`. -/
def Round.sendersWithoutAnchors (round : Round K) : List (Mote K) :=
  round.senders.filter fun sender => !isAnchor round.anchors sender.id

namespace State

/-- The services that `init` creates. -/
def initialServices (service : Text) : Option Bool :=
  if service = "geolocation".toList then some false
  else if service = "calibration".toList ∨ service = "localization".toList ∨
      service = Algorithm.trilateration.key ∨ service = Algorithm.barycenter.key ∨
      service = Algorithm.multilateration.key then some true
  else none

/-- The two objects after their construction. -/
def initial : State K where
  services := initialServices
  algoWeights := AlgoWeights.initial
  tester := {}

/-- `isEnabled`. -/
def isEnabled (state : State K) (service : Text) : Bool :=
  (state.services service).getD false

/-- `enable` and `disable`, which know the services of the map only. -/
def setEnabled (state : State K) (service : Text) (enabled : Bool) : State K :=
  if (state.services service).isSome then
    { state with services := Function.update state.services service (some enabled) }
  else state

/-- The pass for a sender. -/
def pass (state : State K) (round : Round K) (sender : Mote K) : Pass K where
  sender
  enabled algorithm := state.isEnabled algorithm.key
  weights := state.algoWeights.get
  execute algorithm := round.execute algorithm sender

/-- The passes that are begun: none follows one that throws. -/
def passes (libraries : Libraries K) (state : State K) (round : Round K) :
    List (Mote K) → List (Pass K)
  | [] => []
  | sender :: rest =>
      let pass := state.pass round sender
      if (pass.perform libraries).2 then pass :: passes libraries state round rest
      else [pass]

/-- The passes of a localization. -/
def roundPasses (libraries : Libraries K) (state : State K) (round : Round K) :
    List (Pass K) :=
  state.passes libraries round round.sendersWithoutAnchors

/-- The tester after the loop over the senders. -/
def looped (libraries : Libraries K) (state : State K) (round : Round K) : Tester K :=
  ((state.roundPasses libraries round).flatMap fun pass =>
    (pass.perform libraries).1).foldl (Tester.addResult libraries.sqrt) state.tester

/-- The loop over the senders returns. -/
def returns (libraries : Libraries K) (state : State K) (round : Round K) : Bool :=
  (state.roundPasses libraries round).all fun pass => (pass.perform libraries).2

/-- `enabledArr`. -/
def enabledArr (state : State K) : List Algorithm :=
  [Algorithm.barycenter, .multilateration, .trilateration].filter fun algorithm =>
    state.isEnabled algorithm.key

/-- `doLocalization`. -/
def doLocalization (libraries : Libraries K) (state : State K) (round : Round K) :
    State K :=
  let tester := state.looped libraries round
  { state with
    tester :=
      if state.returns libraries round && tester.optiEnabled then
        tester.optimize libraries state.enabledArr
      else tester }

end State

/-- A call of the tester or of the manager. -/
inductive Action (K : Type*) where
  | start
  | stop
  | enable (service : Text)
  | disable (service : Text)
  | setWeight (algo : Text) (weights : Point K)
  | doLocalization (round : Round K)

/-- The state after a call. -/
def State.step (libraries : Libraries K) (state : State K) : Action K → State K
  | .start => { state with tester := state.tester.start }
  | .stop => { state with tester := state.tester.stop }
  | .enable service => state.setEnabled service true
  | .disable service => state.setEnabled service false
  | .setWeight algo weights =>
      { state with algoWeights := state.algoWeights.setWeight algo weights }
  | .doLocalization round => state.doLocalization libraries round

end Tester

end IotLab.Localization
