import IotLab.Library.Placeholders
import IotLab.Library.Tokens
import IotLab.Library.Traversal
import IotLab.Server.Store

/-!
# The conditions of the queries

`DataDAO` and `GeolocationDataDAO` put the conditions of their queries together from the
parts of a path: names with hyphens between them, and a period.  They number the
placeholders with a counter `k`.  `getLossRatio` goes on with the numbers of
`buildCondition`, but starts with the number of the last parameter instead of the next one.
-/

namespace IotLab.Server

open IotLab.Library

/-- A parameter of a query. -/
inductive Parameter where
  | int (value : ℤ)
  | string (value : Text)
  | long (value : ℤ)
  deriving Repr, DecidableEq

/-- A condition with its parameters. -/
abbrev Condition := NumberedCondition Parameter

/-- The names in a text: `split("-")`. -/
def namesOf (text : Text) : List Text := splitEach (· == '-') text

/-- The block of a builder for a text of names; `names[0]` of no names does not exist. -/
def whereNamed (condition : Condition) (text first other : Text) :
    Except Failure Condition :=
  if text.length > 0 then
    match namesOf text with
    | [] => .error .indexOutOfBounds
    | name :: names =>
        .ok (condition.disjunction first other ")".toList (.string name)
          (names.map .string))
  else .ok condition

/-- The block of a builder for a period. -/
def whereBetween (condition : Condition) (fromTime toTime : ℤ) : Condition :=
  if fromTime ≠ 0 ∧ toTime ≠ 0 then
    ((((condition.predicate " AND o.timestamp>=FROM_UNIXTIME(".toList).text ") ".toList).predicate
      " AND o.timestamp<=FROM_UNIXTIME(".toList).text ") ".toList).add (.long fromTime)
        |>.add (.long toTime)
  else condition

/-- The condition that all builders start with. -/
def startCondition : Condition := NumberedCondition.start "1=1".toList

namespace DataDAO

/-- `DataDAO.buildCondition`. -/
def buildCondition (experiment : ℤ) (label mote : Text) : Except Failure Condition := do
  let condition := (startCondition.predicate " AND o.experiment.id=".toList).add (.int experiment)
  let condition ← whereNamed condition label " AND (o.label.label=".toList
    " OR o.label.label=".toList
  whereNamed condition mote " AND (o.mote.mote.mac=".toList " OR o.mote.mote.mac=".toList

/-- The condition of `DataDAO.getMeans`. -/
def getMeansCondition (experiment : ℤ) (label mote : Text) (fromTime toTime : ℤ) :
    Except Failure Condition := do
  let condition := (startCondition.predicate " AND o.experiment=".toList).add (.int experiment)
  let condition ← whereNamed condition label " AND (l.label=".toList " OR l.label=".toList
  let condition ← whereNamed condition mote " AND (m.mac=".toList " OR m.mac=".toList
  .ok (whereBetween condition fromTime toTime)

/-- The condition of `DataDAO.getLossRatio`: `k` is the number of parameters. -/
def getLossRatioCondition (experiment : ℤ) (mote : Text) (fromTime toTime : ℤ) :
    Except Failure Condition := do
  let condition ← buildCondition experiment "seq_no".toList mote
  .ok (whereBetween { condition with next := condition.parameters.length }
    fromTime toTime)

end DataDAO

namespace GeolocationDataDAO

/-- `GeolocationDataDAO.buildCondition`. -/
def buildCondition (src dest : Text) : Except Failure Condition := do
  let condition ← whereNamed startCondition src " AND (o.src.mote.mac=".toList
    " OR o.src.mote.mac=".toList
  whereNamed condition dest " AND (o.dest.mote.mac=".toList " OR o.dest.mote.mac=".toList

/-- The condition of `GeolocationDataDAO.getMeans`. -/
def getMeansCondition (src dest : Text) (fromTime toTime : ℤ) : Except Failure Condition := do
  let condition ← whereNamed startCondition src " AND (m1.mac=".toList " OR m1.mac=".toList
  let condition ← whereNamed condition dest " AND (m2.mac=".toList " OR m2.mac=".toList
  .ok (whereBetween condition fromTime toTime)

end GeolocationDataDAO

/-! ## What the predicates mean -/

/-- The predicates with their values. -/
abbrev Meaning := List (Text × Parameter)

/-- A disjunction for the names of a text. -/
def namedMeaning (text first other : Text) : Meaning :=
  if text.length > 0 then
    match namesOf text with
    | [] => []
    | name :: names => (first, .string name) :: names.map fun name => (other, .string name)
  else []

/-- The bounds of a period. -/
def periodMeaning (fromTime toTime : ℤ) : Meaning :=
  if fromTime ≠ 0 ∧ toTime ≠ 0 then
    [(" AND o.timestamp>=FROM_UNIXTIME(".toList, .long fromTime),
      (" AND o.timestamp<=FROM_UNIXTIME(".toList, .long toTime)]
  else []

/-- The meaning of `DataDAO.buildCondition`. -/
def DataDAO.meaning (experiment : ℤ) (label mote : Text) : Meaning :=
  [(" AND o.experiment.id=".toList, .int experiment)] ++
    namedMeaning label " AND (o.label.label=".toList " OR o.label.label=".toList ++
    namedMeaning mote " AND (o.mote.mote.mac=".toList " OR o.mote.mote.mac=".toList

/-- The meaning of the condition of `DataDAO.getMeans`. -/
def DataDAO.meansMeaning (experiment : ℤ) (label mote : Text) (fromTime toTime : ℤ) : Meaning :=
  [(" AND o.experiment=".toList, .int experiment)] ++
    namedMeaning label " AND (l.label=".toList " OR l.label=".toList ++
    namedMeaning mote " AND (m.mac=".toList " OR m.mac=".toList ++
    periodMeaning fromTime toTime

/-- The meaning of `GeolocationDataDAO.buildCondition`. -/
def GeolocationDataDAO.meaning (src dest : Text) : Meaning :=
  namedMeaning src " AND (o.src.mote.mac=".toList " OR o.src.mote.mac=".toList ++
    namedMeaning dest " AND (o.dest.mote.mac=".toList " OR o.dest.mote.mac=".toList

/-- The meaning of the condition of `GeolocationDataDAO.getMeans`. -/
def GeolocationDataDAO.meansMeaning (src dest : Text) (fromTime toTime : ℤ) : Meaning :=
  namedMeaning src " AND (m1.mac=".toList " OR m1.mac=".toList ++
    namedMeaning dest " AND (m2.mac=".toList " OR m2.mac=".toList ++
    periodMeaning fromTime toTime

/-- The condition that a builder puts together binds its placeholders. -/
def BoundTo (built : Except Failure Condition) (meaning : Meaning) : Prop :=
  ∀ condition, built = .ok condition → condition.Binds meaning

/-- All builders bind their placeholders. -/
structure PlaceholdersBound (experiment : ℤ) (label mote src dest : Text)
    (fromTime toTime : ℤ) : Prop where
  data : BoundTo (DataDAO.buildCondition experiment label mote)
    (DataDAO.meaning experiment label mote)
  dataMeans : BoundTo (DataDAO.getMeansCondition experiment label mote fromTime toTime)
    (DataDAO.meansMeaning experiment label mote fromTime toTime)
  lossRatio : BoundTo (DataDAO.getLossRatioCondition experiment mote fromTime toTime)
    (DataDAO.meaning experiment "seq_no".toList mote ++ periodMeaning fromTime toTime)
  geolocation : BoundTo (GeolocationDataDAO.buildCondition src dest)
    (GeolocationDataDAO.meaning src dest)
  geolocationMeans : BoundTo (GeolocationDataDAO.getMeansCondition src dest fromTime toTime)
    (GeolocationDataDAO.meansMeaning src dest fromTime toTime)

/-! ## Names -/

/-- A text of hyphens only, which has no names. -/
def OnlyHyphens (text : Text) : Prop := text ≠ [] ∧ ∀ char ∈ text, char = '-'

theorem namesOf_eq_nil_iff (text : Text) : namesOf text = [] ↔ OnlyHyphens text := by
  rw [namesOf, splitEach_eq_nil_iff]
  simp only [beq_iff_eq]
  rfl

/-! ## The blocks of the builders -/

section Blocks

variable {condition next : Condition} {meaning : Meaning} {text first other : Text}
  {fromTime toTime : ℤ}

theorem whereNamed_isOk_iff (condition : Condition) (text first other : Text) :
    (∃ next, whereNamed condition text first other = .ok next) ↔ ¬ OnlyHyphens text := by
  rw [whereNamed, ← namesOf_eq_nil_iff]
  by_cases some_ : text.length > 0
  · rw [if_pos some_]
    cases namesOf text with
    | nil => simp
    | cons name names => simp
  · rw [if_neg some_]
    have nil : text = [] := List.eq_nil_of_length_eq_zero (by omega)
    subst nil
    exact ⟨fun _ => by decide, fun _ => ⟨condition, rfl⟩⟩

theorem whereNamed_numbered (numbered : condition.Numbered meaning)
    (built : whereNamed condition text first other = .ok next) :
    next.Numbered (meaning ++ namedMeaning text first other) := by
  simp only [whereNamed] at built
  simp only [namedMeaning]
  split at built
  · next some_ =>
      rw [if_pos some_]
      cases names : namesOf text with
      | nil =>
          rw [names] at built
          cases built
      | cons name names' =>
          rw [names] at built
          cases built
          have all := numbered.disjunction first other ")".toList (.string name)
            (names'.map .string)
          rw [List.map_map] at all
          exact all
  · next empty =>
      cases built
      rw [if_neg empty, List.append_nil]
      exact numbered

theorem whereBetween_numbered (numbered : condition.Numbered meaning) (fromTime toTime : ℤ) :
    (whereBetween condition fromTime toTime).Numbered
      (meaning ++ periodMeaning fromTime toTime) := by
  simp only [whereBetween, periodMeaning]
  split
  · -- The parameters are added behind both predicates.
    have bounds := ((((numbered.bind " AND o.timestamp>=FROM_UNIXTIME(".toList
      (.long fromTime)).text ") ".toList).bind " AND o.timestamp<=FROM_UNIXTIME(".toList
        (.long toTime)).text ") ".toList)
    rw [List.append_assoc] at bounds
    exact bounds
  · rw [List.append_nil]
    exact numbered

/-- A counter that is one behind gives the last parameter no placeholder. -/
theorem not_binds_whereBetween (numbered : condition.Numbered meaning)
    (period : fromTime ≠ 0 ∧ toTime ≠ 0) (all : Meaning) :
    ¬ (whereBetween { condition with next := condition.parameters.length }
      fromTime toTime).Binds all := by
  intro binds
  have size : condition.parameters.length = meaning.length := by
    rw [numbered.parameters, List.length_map]
  have last := (Finset.ext_iff.1 binds.numbers (meaning.length + 2)).2
  rw [whereBetween, if_pos period] at last
  simp only [NumberedCondition.add, NumberedCondition.text, NumberedCondition.predicate,
    placeholderNumbers_append, placeholderNumbers, numbered.numbers, size, Finset.mem_Icc,
    List.mem_toFinset, List.mem_append, List.mem_cons, List.not_mem_nil, or_false,
    List.mem_range'_1, List.length_append, List.length_singleton] at last
  have behind := last ⟨by omega, by omega⟩
  omega

end Blocks

/-! ## The builders -/

section Builders

variable {experiment : ℤ} {label mote src dest : Text} {fromTime toTime : ℤ}
  {condition : Condition}

theorem numbered_start_experiment (text : Text) (experiment : ℤ) :
    ((startCondition.predicate text).add (Parameter.int experiment)).Numbered
      [(text, Parameter.int experiment)] :=
  (NumberedCondition.numbered_start "1=1".toList).bind text (Parameter.int experiment)

theorem DataDAO.numbered_buildCondition
    (built : DataDAO.buildCondition experiment label mote = .ok condition) :
    condition.Numbered (DataDAO.meaning experiment label mote) := by
  obtain ⟨labelled, first, second⟩ := bind_eq_ok.1 built
  have start := numbered_start_experiment " AND o.experiment.id=".toList experiment
  exact whereNamed_numbered (whereNamed_numbered start first) second

theorem DataDAO.numbered_getMeansCondition
    (built : DataDAO.getMeansCondition experiment label mote fromTime toTime = .ok condition) :
    condition.Numbered (DataDAO.meansMeaning experiment label mote fromTime toTime) := by
  obtain ⟨labelled, first, more⟩ := bind_eq_ok.1 built
  obtain ⟨named, second, last⟩ := bind_eq_ok.1 more
  cases last
  have start := numbered_start_experiment " AND o.experiment=".toList experiment
  exact whereBetween_numbered
    (whereNamed_numbered (whereNamed_numbered start first) second) fromTime toTime

theorem GeolocationDataDAO.numbered_buildCondition
    (built : GeolocationDataDAO.buildCondition src dest = .ok condition) :
    condition.Numbered (GeolocationDataDAO.meaning src dest) := by
  obtain ⟨named, first, second⟩ := bind_eq_ok.1 built
  exact whereNamed_numbered
    (whereNamed_numbered (NumberedCondition.numbered_start "1=1".toList) first) second

theorem GeolocationDataDAO.numbered_getMeansCondition
    (built : GeolocationDataDAO.getMeansCondition src dest fromTime toTime = .ok condition) :
    condition.Numbered (GeolocationDataDAO.meansMeaning src dest fromTime toTime) := by
  obtain ⟨named, first, more⟩ := bind_eq_ok.1 built
  obtain ⟨both, second, last⟩ := bind_eq_ok.1 more
  cases last
  exact whereBetween_numbered (whereNamed_numbered
    (whereNamed_numbered (NumberedCondition.numbered_start "1=1".toList) first) second)
      fromTime toTime

theorem DataDAO.buildCondition_isOk_iff (experiment : ℤ) (label mote : Text) :
    (∃ condition, DataDAO.buildCondition experiment label mote = .ok condition) ↔
      ¬ OnlyHyphens label ∧ ¬ OnlyHyphens mote := by
  constructor
  · rintro ⟨condition, built⟩
    obtain ⟨labelled, first, second⟩ := bind_eq_ok.1 built
    exact ⟨(whereNamed_isOk_iff _ _ _ _).1 ⟨labelled, first⟩,
      (whereNamed_isOk_iff _ _ _ _).1 ⟨condition, second⟩⟩
  · rintro ⟨labels, motes⟩
    obtain ⟨labelled, first⟩ := (whereNamed_isOk_iff _ _ _ _).2 labels
    obtain ⟨condition, second⟩ := (whereNamed_isOk_iff labelled _ _ _).2 motes
    exact ⟨condition, bind_eq_ok.2 ⟨labelled, first, second⟩⟩

theorem not_onlyHyphens_seqNo : ¬ OnlyHyphens "seq_no".toList :=
  fun hyphens => absurd (hyphens.2 's' (.head _)) (by decide)

/-- The condition of the loss ratio binds its placeholders if and only if it has no period. -/
theorem DataDAO.lossRatio_boundTo_iff (experiment : ℤ) (mote : Text) (fromTime toTime : ℤ) :
    BoundTo (DataDAO.getLossRatioCondition experiment mote fromTime toTime)
        (DataDAO.meaning experiment "seq_no".toList mote ++ periodMeaning fromTime toTime) ↔
      fromTime = 0 ∨ toTime = 0 ∨ OnlyHyphens mote := by
  constructor
  · intro bound
    by_contra fails
    simp only [not_or] at fails
    obtain ⟨fromSome, toSome, named⟩ := fails
    obtain ⟨condition, built⟩ := (DataDAO.buildCondition_isOk_iff experiment
      "seq_no".toList mote).2 ⟨not_onlyHyphens_seqNo, named⟩
    have whole : DataDAO.getLossRatioCondition experiment mote fromTime toTime = .ok _ :=
      bind_eq_ok.2 ⟨condition, built, rfl⟩
    exact not_binds_whereBetween (DataDAO.numbered_buildCondition built)
      ⟨fromSome, toSome⟩ _ (bound _ whole)
  · intro holds condition built
    obtain ⟨started, first, last⟩ := bind_eq_ok.1 built
    cases last
    have named : ¬ OnlyHyphens mote :=
      ((DataDAO.buildCondition_isOk_iff _ _ _).1 ⟨started, first⟩).2
    have noPeriod : ¬ (fromTime ≠ 0 ∧ toTime ≠ 0) := by
      rintro ⟨fromSome, toSome⟩
      rcases holds with none | none | none
      · exact fromSome none
      · exact toSome none
      · exact named none
    rw [whereBetween, if_neg noPeriod, periodMeaning, if_neg noPeriod, List.append_nil]
    -- Only the number of the next placeholder differs, and there is none.
    have binds := (DataDAO.numbered_buildCondition first).binds
    exact ⟨binds.numbers, binds.values⟩

end Builders

/-- All builders bind their placeholders if and only if there is no period, or the loss
ratio gets no condition. -/
theorem placeholdersBound_iff (experiment : ℤ) (label mote src dest : Text)
    (fromTime toTime : ℤ) :
    PlaceholdersBound experiment label mote src dest fromTime toTime ↔
      fromTime = 0 ∨ toTime = 0 ∨ OnlyHyphens mote := by
  rw [← DataDAO.lossRatio_boundTo_iff experiment mote fromTime toTime]
  refine ⟨PlaceholdersBound.lossRatio, fun lossRatio => ⟨?_, ?_, lossRatio, ?_, ?_⟩⟩
  · exact fun condition built => (DataDAO.numbered_buildCondition built).binds
  · exact fun condition built => (DataDAO.numbered_getMeansCondition built).binds
  · exact fun condition built => (GeolocationDataDAO.numbered_buildCondition built).binds
  · exact fun condition built => (GeolocationDataDAO.numbered_getMeansCondition built).binds

/-- The loss ratio of the mote `1.0` in a period compares the first bound with the mote. -/
theorem not_placeholdersBound_period :
    ¬ PlaceholdersBound 1 "temp".toList "1.0".toList [] [] 100 200 := by
  intro bound
  have binds := bound.lossRatio _ rfl
  exact absurd binds.numbers (by decide)

end IotLab.Server
