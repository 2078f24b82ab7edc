import IotLab.Library.Tokens
import IotLab.Library.Traversal
import IotLab.Server.Store

/-!
# The compare mode of the charts

`Get.traitementCompareMode` lays the data of several experiments on top of each other: each
datum gets its distance to the first datum of its experiment as its time, one hour earlier
because the charts show a time zone.  Only the data within two bounds, which are one hour
earlier as well, are kept.
-/

namespace IotLab.Server

open IotLab.Library

/-- A `Data` for a chart, with the fields of its mote and its experiment that are read. -/
structure ChartData where
  value : ℚ
  label : Text
  timestamp : ℤ
  mac : Text
  ipv6 : Text
  experimentId : ℤ
  comments : Text
  deriving Repr, DecidableEq

/-- `Integer.parseInt(st[index])`. -/
def parseField (fields : List Text) (index : ℕ) : Except Failure ℤ :=
  match fields[index]? with
  | none => .error .indexOutOfBounds
  | some field =>
      match parseSigned 32 field with
      | none => .error .numberFormat
      | some value => .ok value

/-- `Conversion.timeToTimestampLong`: the products of `int`s are `int`s, and the sum fits
in a `long`. -/
def timeToTimestampLong (text : Text) : Except Failure ℤ := do
  let fields := splitEach (· == ':') text
  let hours ← parseField fields 0
  let minutes ← parseField fields 1
  let seconds ← parseField fields 2
  .ok (wrapSigned 32 (wrapSigned 32 (hours * 60) * 60) * 1000 +
    wrapSigned 32 (minutes * 60) * 1000 + seconds * 1000)

/-- A bound of the compare mode: the parameter of the request or the default. -/
def compareBound (parameter : Option Text) (default : ℤ) : Except Failure ℤ :=
  match parameter with
  | none => .ok (default - 3600 * 1000)
  | some text => do
      let time ← timeToTimestampLong text
      .ok (time - 3600 * 1000)

/-- The inner loop: the datum moves to the first entry of `lExp` of its experiment. -/
def rebase (lExp : List ChartData) (d : ChartData) : ChartData :=
  match lExp.find? fun first => d.experimentId = first.experimentId with
  | none => d
  | some first =>
      { d with
        timestamp := wrapSigned 64 (d.timestamp - first.timestamp - 3600 * 1000)
        mac := d.ipv6
        ipv6 := d.ipv6 ++ ':' :: d.comments }

/-- The loop over the data. -/
def keepBetween (lExp : List ChartData) (timeBegin timeEnd : ℤ) (list : List ChartData) :
    List ChartData :=
  list.filterMap fun d =>
    let moved := rebase lExp d
    if moved.timestamp > timeBegin ∧ moved.timestamp < timeEnd then some moved else none

/-- `traitementCompareMode`; `lExp` is the result of its query. -/
def traitementCompareMode (list lExp : List ChartData) (beginCompare endCompare : Option Text) :
    Except Failure (List ChartData) := do
  let timeBegin ← compareBound beginCompare 0
  let timeEnd ← compareBound endCompare 9223372036854775807
  .ok (keepBetween lExp timeBegin timeEnd list)

/-! ## What is shown -/

/-- The list has the first datum of each experiment; times are those of a column of the type
`timestamp`. -/
structure GivesFirst (lExp list : List ChartData) : Prop where
  unique : ∀ first ∈ lExp, ∀ other ∈ lExp,
    first.experimentId = other.experimentId → first = other
  each : ∀ d ∈ list, ∃ first ∈ lExp, d.experimentId = first.experimentId
  earliest : ∀ d ∈ list, ∀ first ∈ lExp, d.experimentId = first.experimentId →
    first.timestamp ≤ d.timestamp
  stored : ∀ d ∈ list ++ lExp, 0 ≤ d.timestamp ∧ d.timestamp < 2147483648000

/-- A datum in a chart: the same one, with its offset less one hour as its time. -/
structure Moved (lExp : List ChartData) (d shown : ChartData) : Prop where
  value : shown.value = d.value
  label : shown.label = d.label
  experiment : shown.experimentId = d.experimentId
  time : ∃ first ∈ lExp, d.experimentId = first.experimentId ∧
    shown.timestamp = d.timestamp - first.timestamp - 3600 * 1000

/-- The offset of a datum has a property. -/
def HasOffset (lExp : List ChartData) (property : ℤ → Prop) (d : ChartData) : Prop :=
  ∃ first ∈ lExp, d.experimentId = first.experimentId ∧ property (d.timestamp - first.timestamp)

instance (lExp : List ChartData) (property : ℤ → Prop) [DecidablePred property]
    (d : ChartData) : Decidable (HasOffset lExp property d) :=
  inferInstanceAs (Decidable (∃ first ∈ lExp, _))

/-- The outcome is a list with exactly the expected data, in order. -/
def Shows (lExp expected : List ChartData) (outcome : Except Failure (List ChartData)) : Prop :=
  ∃ result, outcome = .ok result ∧ expected.Forall₂ (Moved lExp) result

/-! ## The loop -/

section Loop

variable {lExp list : List ChartData} {d : ChartData} {timeBegin timeEnd : ℤ}

theorem wrapSigned_long (value : ℤ) :
    wrapSigned 64 value =
      (value + 9223372036854775808) % 18446744073709551616 - 9223372036854775808 := rfl

theorem GivesFirst.find (given : GivesFirst lExp list) {first : ChartData} (here : first ∈ lExp)
    (own : d.experimentId = first.experimentId) :
    lExp.find? (fun first => d.experimentId = first.experimentId) = some first := by
  obtain ⟨other, there⟩ := exists_find?_eq_some
    (fun first => d.experimentId = first.experimentId) here (decide_eq_true own)
  have same := List.find?_some there
  rw [there, given.unique other (List.mem_of_find?_eq_some there) first here
    ((of_decide_eq_true same).symm.trans own)]

theorem GivesFirst.timestamp_rebase (given : GivesFirst lExp list) (member : d ∈ list)
    {first : ChartData} (here : first ∈ lExp) (own : d.experimentId = first.experimentId) :
    (rebase lExp d).timestamp = d.timestamp - first.timestamp - 3600 * 1000 := by
  have late := given.stored d (List.mem_append_left _ member)
  have early := given.stored first (List.mem_append_right _ here)
  rw [rebase, given.find here own]
  change wrapSigned 64 _ = _
  rw [wrapSigned_long]
  omega

theorem GivesFirst.moved_rebase (given : GivesFirst lExp list) (member : d ∈ list) :
    Moved lExp d (rebase lExp d) := by
  obtain ⟨first, here, own⟩ := given.each d member
  refine ⟨?_, ?_, ?_, first, here, own, given.timestamp_rebase member here own⟩
  all_goals rw [rebase, given.find here own]

theorem GivesFirst.hasOffset_iff (given : GivesFirst lExp list) {first : ChartData}
    (here : first ∈ lExp) (own : d.experimentId = first.experimentId) (property : ℤ → Prop) :
    HasOffset lExp property d ↔ property (d.timestamp - first.timestamp) := by
  constructor
  · rintro ⟨other, there, same, holds⟩
    rwa [given.unique other there first here (same.symm.trans own)] at holds
  · exact fun holds => ⟨first, here, own, holds⟩

/-- The bounds are excluded. -/
theorem GivesFirst.keepBetween_eq (given : GivesFirst lExp list) (timeBegin timeEnd : ℤ) :
    keepBetween lExp (timeBegin - 3600 * 1000) (timeEnd - 3600 * 1000) list =
      (list.filter fun d =>
        HasOffset lExp (fun offset => timeBegin < offset ∧ offset < timeEnd) d).map
        (rebase lExp) := by
  rw [keepBetween, ← List.filterMap_eq_map, List.filterMap_filter]
  refine List.filterMap_congr fun d member => ?_
  obtain ⟨first, here, own⟩ := given.each d member
  have time := given.timestamp_rebase member here own
  have within := given.hasOffset_iff here own fun offset =>
    timeBegin < offset ∧ offset < timeEnd
  by_cases between : timeBegin < d.timestamp - first.timestamp ∧
      d.timestamp - first.timestamp < timeEnd
  · rw [if_pos (by omega), if_pos (decide_eq_true (within.2 between))]
    rfl
  · rw [if_neg (by omega), if_neg]
    exact fun inside => between (within.1 (of_decide_eq_true inside))

theorem GivesFirst.shows_keepBetween (given : GivesFirst lExp list) (timeBegin timeEnd : ℤ) :
    Shows lExp (list.filter fun d =>
        HasOffset lExp (fun offset => timeBegin < offset ∧ offset < timeEnd) d)
      (.ok (keepBetween lExp (timeBegin - 3600 * 1000) (timeEnd - 3600 * 1000) list)) := by
  refine ⟨_, rfl, ?_⟩
  rw [given.keepBetween_eq, List.forall₂_map_right_iff, List.forall₂_same]
  exact fun d chosen => given.moved_rebase (List.mem_of_mem_filter chosen)

/-- A selection that is as large as one inside it selects the same elements. -/
theorem of_length_filter_eq {α : Type*} {list : List α} {wide narrow : α → Bool}
    (more : ∀ x ∈ list, narrow x = true → wide x = true)
    (size : (list.filter wide).length = (list.filter narrow).length) :
    ∀ x ∈ list, wide x = true → narrow x = true := by
  intro x member chosen
  have both : list.filter narrow = (list.filter wide).filter narrow := by
    rw [List.filter_filter]
    refine List.filter_congr fun other inside => ?_
    cases selected : narrow other with
    | false => rfl
    | true => rw [more other inside selected, Bool.and_self]
  have fewer : (list.filter narrow).Sublist (list.filter wide) := by
    rw [both]
    exact List.filter_sublist
  have same := fewer.eq_of_length size.symm
  have here : x ∈ list.filter wide := List.mem_filter.2 ⟨member, chosen⟩
  rw [← same] at here
  exact (List.mem_filter.1 here).2

/-- More data than those between the bounds are not shown. -/
theorem GivesFirst.shows_keepBetween_iff (given : GivesFirst lExp list) (timeBegin timeEnd : ℤ)
    {expected : ChartData → Bool}
    (more : ∀ d ∈ list, HasOffset lExp (fun offset => timeBegin < offset ∧ offset < timeEnd) d →
      expected d = true) :
    Shows lExp (list.filter expected)
        (.ok (keepBetween lExp (timeBegin - 3600 * 1000) (timeEnd - 3600 * 1000) list)) ↔
      ∀ d ∈ list, expected d = true →
        HasOffset lExp (fun offset => timeBegin < offset ∧ offset < timeEnd) d := by
  constructor
  · rintro ⟨result, returned, all⟩ d member chosen
    obtain rfl := Except.ok.inj returned
    -- As many data are expected as are between the bounds, so they are the same ones.
    have size := all.length_eq
    rw [given.keepBetween_eq timeBegin timeEnd, List.length_map] at size
    have within := of_length_filter_eq (fun other inside between =>
      more other inside (of_decide_eq_true between)) size d member chosen
    exact of_decide_eq_true within
  · intro within
    have same : list.filter expected = list.filter fun d => HasOffset lExp
        (fun offset => timeBegin < offset ∧ offset < timeEnd) d := by
      refine List.filter_congr fun d member => ?_
      rw [Bool.eq_iff_iff, decide_eq_true_eq]
      exact ⟨within d member, more d member⟩
    rw [same]
    exact given.shows_keepBetween timeBegin timeEnd

/-- Without bounds all data are shown if and only if none is as early as the first one of
its experiment. -/
theorem GivesFirst.shows_all_iff (given : GivesFirst lExp list) :
    Shows lExp list (traitementCompareMode list lExp none none) ↔
      ∀ d ∈ list, ¬ HasOffset lExp (fun offset => offset = 0) d := by
  have every : ∀ d ∈ list,
      HasOffset lExp (fun offset => 0 < offset ∧ offset < 9223372036854775807) d →
        (fun _ : ChartData => true) d = true := fun _ _ _ => rfl
  have shown := given.shows_keepBetween_iff 0 9223372036854775807 every
  rw [List.filter_true] at shown
  refine shown.trans (forall₂_congr fun d member => ?_)
  obtain ⟨first, here, own⟩ := given.each d member
  have late := given.earliest d member first here own
  have stored := given.stored d (List.mem_append_left _ member)
  have early := given.stored first (List.mem_append_right _ here)
  rw [given.hasOffset_iff here own, given.hasOffset_iff here own, forall_prop_of_true rfl]
  omega

/-- The data on a bound are not shown. -/
theorem GivesFirst.shows_closed_iff (given : GivesFirst lExp list) (timeBegin timeEnd : ℤ) :
    Shows lExp (list.filter fun d =>
        HasOffset lExp (fun offset => timeBegin ≤ offset ∧ offset ≤ timeEnd) d)
      (.ok (keepBetween lExp (timeBegin - 3600 * 1000) (timeEnd - 3600 * 1000) list)) ↔
      ∀ d ∈ list, HasOffset lExp (fun offset => timeBegin ≤ offset ∧ offset ≤ timeEnd) d →
        ¬ HasOffset lExp (fun offset => offset = timeBegin ∨ offset = timeEnd) d := by
  refine (given.shows_keepBetween_iff timeBegin timeEnd fun d _ strict => ?_).trans
    (forall₂_congr fun d member => ?_)
  · obtain ⟨first, here, own, above, below⟩ := strict
    exact decide_eq_true ⟨first, here, own, above.le, below.le⟩
  · obtain ⟨first, here, own⟩ := given.each d member
    rw [decide_eq_true_eq, given.hasOffset_iff here own, given.hasOffset_iff here own,
      given.hasOffset_iff here own]
    omega

end Loop

/-! ## The compare mode -/

theorem traitementCompareMode_of_bounds {list lExp : List ChartData}
    {beginCompare endCompare : Text} {timeBegin timeEnd : ℤ}
    (parsedBegin : timeToTimestampLong beginCompare = .ok timeBegin)
    (parsedEnd : timeToTimestampLong endCompare = .ok timeEnd) :
    traitementCompareMode list lExp (some beginCompare) (some endCompare) =
      .ok (keepBetween lExp (timeBegin - 3600 * 1000) (timeEnd - 3600 * 1000) list) :=
  bind_eq_ok.2 ⟨_, bind_eq_ok.2 ⟨timeBegin, parsedBegin, rfl⟩,
    bind_eq_ok.2 ⟨_, bind_eq_ok.2 ⟨timeEnd, parsedEnd, rfl⟩, rfl⟩⟩

/-- Without bounds all data are shown if and only if none is as early as the first one of
its experiment.  With bounds those strictly between them are shown; data on a bound are not. -/
theorem traitementCompareMode_iff {list lExp : List ChartData} (given : GivesFirst lExp list) :
    (Shows lExp list (traitementCompareMode list lExp none none) ↔
      ∀ d ∈ list, ¬ HasOffset lExp (fun offset => offset = 0) d) ∧
    ∀ beginCompare endCompare timeBegin timeEnd,
      timeToTimestampLong beginCompare = .ok timeBegin →
      timeToTimestampLong endCompare = .ok timeEnd →
      Shows lExp (list.filter fun d =>
          HasOffset lExp (fun offset => timeBegin < offset ∧ offset < timeEnd) d)
        (traitementCompareMode list lExp (some beginCompare) (some endCompare)) ∧
      (Shows lExp (list.filter fun d =>
          HasOffset lExp (fun offset => timeBegin ≤ offset ∧ offset ≤ timeEnd) d)
        (traitementCompareMode list lExp (some beginCompare) (some endCompare)) ↔
        ∀ d ∈ list, HasOffset lExp (fun offset => timeBegin ≤ offset ∧ offset ≤ timeEnd) d →
          ¬ HasOffset lExp (fun offset => offset = timeBegin ∨ offset = timeEnd) d) := by
  refine ⟨given.shows_all_iff, fun beginCompare endCompare timeBegin timeEnd first last => ?_⟩
  rw [traitementCompareMode_of_bounds first last]
  exact ⟨given.shows_keepBetween timeBegin timeEnd, given.shows_closed_iff timeBegin timeEnd⟩

/-- A datum a second behind the first one. -/
theorem traitementCompareMode_second :
    Shows [⟨20, "temp".toList, 5000, "1.0".toList, "1.0".toList, 1, "run".toList⟩]
      [⟨21, "temp".toList, 6000, "1.0".toList, "1.0".toList, 1, "run".toList⟩]
      (traitementCompareMode
        [⟨21, "temp".toList, 6000, "1.0".toList, "1.0".toList, 1, "run".toList⟩]
        [⟨20, "temp".toList, 5000, "1.0".toList, "1.0".toList, 1, "run".toList⟩] none none) :=
  (traitementCompareMode_iff ⟨by decide, by decide, by decide, by decide⟩).1.2 (by decide)

/-- The first datum of an experiment is not shown. -/
theorem not_shows_first :
    GivesFirst [⟨20, "temp".toList, 5000, "1.0".toList, "1.0".toList, 1, "run".toList⟩]
        [⟨20, "temp".toList, 5000, "1.0".toList, "1.0".toList, 1, "run".toList⟩] ∧
      ¬ Shows [⟨20, "temp".toList, 5000, "1.0".toList, "1.0".toList, 1, "run".toList⟩]
        [⟨20, "temp".toList, 5000, "1.0".toList, "1.0".toList, 1, "run".toList⟩]
        (traitementCompareMode
          [⟨20, "temp".toList, 5000, "1.0".toList, "1.0".toList, 1, "run".toList⟩]
          [⟨20, "temp".toList, 5000, "1.0".toList, "1.0".toList, 1, "run".toList⟩] none none) := by
  refine ⟨⟨by decide, by decide, by decide, by decide⟩, ?_⟩
  rintro ⟨result, returned, all⟩
  have nothing : result = [] := (Except.ok.inj returned).symm
  rw [nothing] at all
  cases all

end IotLab.Server
