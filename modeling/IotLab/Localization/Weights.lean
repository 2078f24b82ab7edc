import IotLab.Library.Json
import IotLab.Library.Traversal
import IotLab.Localization.Manager

/-!
# Weights posted by the geolocation page

The page posts a list of objects with a name and two weights, all of them JSON
strings.  `setAlgoWeights` prints each value as JSON text, with the quotes of a
string, and reads a number from that text.  The weights in the map are those of the
keys of the algorithms, and a quoted name is none of them.
-/

namespace IotLab.Localization

open IotLab.Library

/-! ## Numbers -/

/-- Digits with an optional point, an optional exponent and an optional suffix of the
type. -/
def parseNumeral (numeral : Text) : Option ℚ :=
  let literal :=
    if numeral.getLast? ∈ [some 'f', some 'F', some 'd', some 'D'] then numeral.dropLast
    else numeral
  let mantissa := literal.takeWhile fun char => char != 'e' && char != 'E'
  let whole := mantissa.takeWhile (· != '.')
  let fraction := (mantissa.dropWhile (· != '.')).tail
  let exponent :=
    match literal.dropWhile fun char => char != 'e' && char != 'E' with
    | [] => some 0
    | _ :: digits => parseInt digits
  match parseDigits (whole ++ fraction), exponent with
  | some digits, some exponent =>
      let value : ℚ := digits / 10 ^ fraction.length
      if exponent < 0 then some (value / 10 ^ exponent.natAbs)
      else some (value * 10 ^ exponent.natAbs)
  | _, _ => none

/-- `Double.parseDouble` on decimal numerals, or `none` for a
`NumberFormatException`. -/
def parseDouble (text : Text) : Option ℚ :=
  match trim text with
  | '-' :: numeral => (parseNumeral numeral).map fun value : ℚ => -value
  | '+' :: numeral => parseNumeral numeral
  | numeral => parseNumeral numeral

/-! ## The map of the weights -/

/-- The constants `TRILATERATION`, `BARYCENTER` and `MULTILATERATION`. -/
def Algorithm.key : Algorithm → Text
  | .trilateration => "trilateration".toList
  | .barycenter => "barycenter".toList
  | .multilateration => "multilateration".toList

/-- `algoWeights`: a map that has the keys of the algorithms. -/
structure AlgoWeights (K : Type*) where
  map : Text → Option (Point K)
  present : ∀ algorithm : Algorithm, (map algorithm.key).isSome = true

namespace AlgoWeights

variable {K : Type*}

/-- `setWeight`. -/
def setWeight (weights : AlgoWeights K) (algo : Text) (value : Point K) :
    AlgoWeights K where
  map := Function.update weights.map algo (some value)
  present algorithm := by
    rw [Function.update_apply]
    split
    · rfl
    · exact weights.present algorithm

/-- The weights of an algorithm. -/
def get (weights : AlgoWeights K) (algorithm : Algorithm) : Point K :=
  (weights.map algorithm.key).get (weights.present algorithm)

/-- The weights that `init` puts into the map. -/
def initial [Field K] : AlgoWeights K where
  map key :=
    if key = Algorithm.trilateration.key ∨ key = Algorithm.barycenter.key ∨
      key = Algorithm.multilateration.key then some (0.33, 0.33) else none
  present algorithm := by
    cases algorithm <;> rfl

end AlgoWeights

/-- The manager with the weights of a map. -/
def Manager.withWeights {K : Type*} (manager : Manager K) (weights : AlgoWeights K) :
    Manager K :=
  { manager with algoWeights := weights.get }

/-! ## The resource -/

/-- What a call of `setAlgoWeights` can throw. -/
inductive WeightsException where
  | nullPointer
  | numberFormat
  deriving Repr, DecidableEq

/-- A posted object. -/
abbrev JsonObject := List (Text × Json)

/-- `algo.get(key).toString()`. -/
def memberText (algo : JsonObject) (key : Text) : Except WeightsException Text :=
  match getMember algo key with
  | none => .error .nullPointer
  | some value => .ok value.toText

/-- `Double.parseDouble(algo.get(key).toString())`. -/
def memberDouble (algo : JsonObject) (key : Text) : Except WeightsException ℚ := do
  let text ← memberText algo key
  match parseDouble text with
  | none => .error .numberFormat
  | some value => .ok value

/-- The arguments of the call of `setWeight` for an object. -/
def weightArguments (algo : JsonObject) : Except WeightsException (Text × ℚ × ℚ) := do
  let name ← memberText algo "name".toList
  let xweight ← memberDouble algo "xweight".toList
  let yweight ← memberDouble algo "yweight".toList
  .ok (name, xweight, yweight)

/-- The loop of `setAlgoWeights`: weights that were set before an exception stay
set. -/
def setAlgoWeights {K : Type*} [Field K] : List JsonObject → AlgoWeights K →
    Except WeightsException Unit × AlgoWeights K
  | [], weights => (.ok (), weights)
  | algo :: rest, weights =>
      match weightArguments algo with
      | .error exception => (.error exception, weights)
      | .ok (name, xweight, yweight) =>
          setAlgoWeights rest (weights.setWeight name (xweight, yweight))

/-! ## What the page posts -/

/-- An object of the list of the page: the texts of its fields are decimal numbers. -/
structure PostedWeight where
  name : Algorithm
  xweight : Text
  yweight : Text
  xdecimal : (parseDouble xweight).isSome = true
  ydecimal : (parseDouble yweight).isSome = true

namespace PostedWeight

/-- The object, whose three fields are strings. -/
def toJson (posted : PostedWeight) : JsonObject :=
  [("name".toList, .string posted.name.key), ("xweight".toList, .string posted.xweight),
    ("yweight".toList, .string posted.yweight)]

/-- The weights the user asks for. -/
def weights {K : Type*} [Field K] (posted : PostedWeight) : Point K :=
  (((parseDouble posted.xweight).get posted.xdecimal : ℚ),
    ((parseDouble posted.yweight).get posted.ydecimal : ℚ))

end PostedWeight

/-- The weights that should be in force after a list has been posted. -/
def wantedWeights {K : Type*} [Field K] (old : Algorithm → Point K)
    (posted : List PostedWeight) : Algorithm → Point K :=
  posted.foldl (fun wanted weight => Function.update wanted weight.name weight.weights) old

/-- The sum of the weighted positions. -/
def weightedSum {K : Type*} [Field K] (weights : Algorithm → Point K)
    (estimates : List (Algorithm × Point K)) : Point K :=
  ((estimates.map fun estimate => (weights estimate.1).1 * estimate.2.1).sum,
    (estimates.map fun estimate => (weights estimate.1).2 * estimate.2.2).sum)

/-- A posted list is accepted, and the next localization computes the custom position of
every sender with its weights. -/
structure TakesEffect {K : Type*} [Field K] [LinearOrder K] (manager : Manager K)
    (weights : AlgoWeights K) (posted : List PostedWeight) : Prop where
  succeeds : (setAlgoWeights (posted.map PostedWeight.toJson) weights).1 = .ok ()
  custom : ∀ senders records locations,
    (manager.withWeights
        (setAlgoWeights (posted.map PostedWeight.toJson) weights).2).doLocalization
      senders records = .ok locations →
    ∀ location ∈ locations,
      location.estimates.map Prod.fst = manager.enabledAlgorithms ∧
        (manager.enabledAlgorithms ≠ [] →
          location.custom = some (weightedSum (wantedWeights weights.get posted)
            location.estimates))

/-! ## Quoted texts -/

theorem trim_quote (value : Text) : trim (quote value) = quote value := by
  apply trim_eq_self
  · intro char member
    cases member
    decide
  · intro char member
    rw [quote, ← List.cons_append, List.getLast?_concat] at member
    cases member
    decide

theorem parseDigits_quote (others : Text) : parseDigits ('"' :: others) = none := by
  simp [parseDigits]

theorem exists_literal_quote (rest : Text) :
    ∃ others, (if ('"' :: rest).getLast? ∈ [some 'f', some 'F', some 'd', some 'D'] then
      ('"' :: rest).dropLast else '"' :: rest) = '"' :: others := by
  split
  · next suffix =>
      cases rest with
      | nil => exact absurd suffix (by decide)
      | cons next others => exact ⟨(next :: others).dropLast, rfl⟩
  · exact ⟨rest, rfl⟩

/-- No number begins with a quote. -/
theorem parseNumeral_quote (rest : Text) : parseNumeral ('"' :: rest) = none := by
  obtain ⟨others, literal⟩ := exists_literal_quote rest
  rw [parseNumeral, literal]
  simp [parseDigits_quote]

theorem parseDouble_quote (value : Text) : parseDouble (quote value) = none := by
  rw [parseDouble, trim_quote]
  exact parseNumeral_quote _

theorem memberDouble_string {algo : JsonObject} {key value : Text}
    (member : getMember algo key = some (.string value)) :
    memberDouble algo key = .error .numberFormat := by
  simp only [memberDouble, memberText, member, Json.toText, bind, Except.bind,
    parseDouble_quote]

/-- Already the first object of the page throws. -/
theorem weightArguments_toJson (posted : PostedWeight) :
    weightArguments posted.toJson = .error .numberFormat := by
  have name : getMember posted.toJson "name".toList = some (.string posted.name.key) := rfl
  have xweight : getMember posted.toJson "xweight".toList =
    some (.string posted.xweight) := rfl
  rw [weightArguments, memberText, name, memberDouble_string xweight]
  rfl

/-- The name of an algorithm is not what any value prints as. -/
theorem toText_ne_key (value : Json) (algorithm : Algorithm) :
    value.toText ≠ algorithm.key := by
  intro same
  cases algorithm with
  | trilateration => exact absurd (Json.toText_of_isAlpha same rfl) (by decide)
  | barycenter => exact absurd (Json.toText_of_isAlpha same rfl) (by decide)
  | multilateration => exact absurd (Json.toText_of_isAlpha same rfl) (by decide)

/-- Whatever is posted, the weights of the algorithms stay. -/
theorem setAlgoWeights_get {K : Type*} [Field K] (posted : List JsonObject)
    (weights : AlgoWeights K) : (setAlgoWeights posted weights).2.get = weights.get := by
  induction posted generalizing weights with
  | nil => rfl
  | cons algo rest ih =>
      rw [setAlgoWeights]
      split
      · rfl
      · next name xweight yweight accepted =>
          rw [ih]
          funext algorithm
          have quoted : algorithm.key ≠ name := by
            simp only [weightArguments, memberText, bind_eq_ok] at accepted
            obtain ⟨text, named, _, _, _, _, same⟩ := accepted
            cases same
            split at named
            · cases named
            · next value _ =>
                cases named
                exact (toText_ne_key value algorithm).symm
          simp only [AlgoWeights.get, AlgoWeights.setWeight,
            Function.update_of_ne quoted]

/-! ## The next localization -/

section Localize

variable {K : Type*} [Field K]

/-- Combining with weights is summing. -/
theorem combine_eq_weightedSum (weights : Algorithm → Point K)
    (estimates : List (Algorithm × Point K)) :
    combine weights estimates = weightedSum weights estimates := by
  have run : ∀ start : Point K, estimates.foldl (fun combined estimate =>
      (combined.1 + estimate.2.1 * (weights estimate.1).1,
        combined.2 + estimate.2.2 * (weights estimate.1).2)) start =
        start + weightedSum weights estimates := by
    induction estimates with
    | nil => simp [weightedSum]
    | cons estimate rest ih =>
        intro start
        rw [List.foldl_cons, ih]
        ext
        · simp [weightedSum, mul_comm, add_assoc]
        · simp [weightedSum, mul_comm, add_assoc]
  rw [combine, run, zero_add]

variable [LinearOrder K] {manager : Manager K}

/-- Each enabled algorithm has one estimate, and the custom position is their sum with
the weights of the manager. -/
theorem localizeAll_custom {senders : List (Mote K)} {records : Records K}
    {locations : List (Location K)}
    (computed : manager.localizeAll senders records = .ok locations) :
    ∀ location ∈ locations,
      location.estimates.map Prod.fst = manager.enabledAlgorithms ∧
        (manager.enabledAlgorithms ≠ [] →
          location.custom = some (weightedSum manager.algoWeights location.estimates)) := by
  induction senders generalizing records locations with
  | nil =>
      cases computed
      intro location member
      cases member
  | cons sender rest ih =>
      simp only [Manager.localizeAll, Manager.localize, bind_eq_ok] at computed
      obtain ⟨located, ⟨⟨estimates, left⟩, executed, same⟩, others, later, all⟩ := computed
      cases all
      cases same
      intro location member
      cases List.mem_cons.1 member with
      | inl here =>
          subst here
          refine ⟨executeAll_names executed, fun some_ => ?_⟩
          have positive := List.length_pos_iff.2 some_
          simp only [if_pos positive, Option.map_some, combine_eq_weightedSum]
      | inr there => exact ih later location there

/-- A posted list takes effect only when it is empty. -/
theorem weights_take_effect_iff (manager : Manager K) (weights : AlgoWeights K)
    (posted : List PostedWeight) : TakesEffect manager weights posted ↔ posted = [] := by
  constructor
  · intro effect
    cases posted with
    | nil => rfl
    | cons first rest =>
        have succeeds := effect.succeeds
        rw [List.map_cons, setAlgoWeights, weightArguments_toJson] at succeeds
        cases succeeds
  · intro empty
    subst empty
    constructor
    · rfl
    · intro senders records locations computed
      exact localizeAll_custom computed

end Localize

/-- The list of the page with a weight of one half for each algorithm. -/
def halfWeights : List PostedWeight :=
  [Algorithm.barycenter, .multilateration, .trilateration].map fun name =>
    ⟨name, "0.5".toList, "0.5".toList, rfl, rfl⟩

/-- A manager without anchors, with all services enabled. -/
def plainManager : Manager ℚ where
  sqrt := id
  calibration := ⟨fun _ => 1, fun _ _ => 1⟩
  optimize := fun _ => 0
  anchors := []
  enabled := fun _ => true
  algoWeights := AlgoWeights.initial.get
  fuel := 1

/-- The list of the page is refused with a `NumberFormatException`. -/
theorem halfWeights_refused : ¬ TakesEffect plainManager .initial halfWeights := by
  intro effect
  have succeeds := effect.succeeds
  rw [halfWeights, List.map_cons, List.map_cons, setAlgoWeights,
    weightArguments_toJson] at succeeds
  cases succeeds

end IotLab.Localization
