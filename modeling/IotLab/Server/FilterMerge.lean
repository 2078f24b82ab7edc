import IotLab.Server.Conversion

/-!
# The merge of the filters

The loop of `convert` looks at one filter only and goes on to the next one where this
one is met.  A filter with an offset below 1 is met nowhere: it holds back all filters
behind it.
-/

namespace IotLab.Server

open IotLab.Library

/-- The strategy of the filter for a position, or the default strategy. -/
def lookupStrategy (default : Strategy) (filters : List Filter) (position : ℕ) : Strategy :=
  match filters.find? fun filter => filter.offset = (position : ℤ) + 1 with
  | none => default
  | some filter => (strategyNamed filter.className).getD default

/-- The values by a lookup at each position. -/
def lookupValues (default : Strategy) (data : List ℤ) (filters : List Filter) :
    Except Failure (List Converted) :=
  (List.range data.length).mapM fun position =>
    convertAt (lookupStrategy default filters position) data position

/-- The exception that is thrown first. -/
def ThrowsFirst (strategies : ℕ → Strategy) (data : List ℤ) (reason : Failure) : Prop :=
  ∃ position < data.length, (strategies position).execute data position = .error reason ∧
    ∀ earlier < position, ∃ value, (strategies earlier).execute data earlier = .ok value

section Outcomes

variable {default strategy other : Strategy} {data : List ℤ} {filters : List Filter}
variable {position : ℕ}

theorem convertAt_eq_error_iff {reason : Failure} :
    convertAt strategy data position = .error reason ↔
      strategy.execute data position = .error reason := by
  rw [convertAt]
  cases strategy.execute data position with
  | error failure => simp [Except.map]
  | ok value => simp [Except.map]

theorem convertAt_succeeds_iff :
    (∃ converted, convertAt strategy data position = .ok converted) ↔
      ∃ value, strategy.execute data position = .ok value := by
  rw [convertAt]
  cases strategy.execute data position with
  | error failure => simp [Except.map]
  | ok value => simp [Except.map]

theorem convertAt_eq_convertAt_iff :
    convertAt strategy data position = convertAt other data position ↔
      strategy.execute data position = other.execute data position := by
  rw [convertAt, convertAt]
  cases strategy.execute data position <;> cases other.execute data position <;>
    simp [Except.map]

theorem mapM_convertAt_eq_error_iff {strategies : ℕ → Strategy} {reason : Failure} :
    ((List.range data.length).mapM fun position =>
        convertAt (strategies position) data position) = .error reason ↔
      ThrowsFirst strategies data reason := by
  rw [mapM_range_eq_error_iff, ThrowsFirst]
  simp only [convertAt_eq_error_iff, convertAt_succeeds_iff]

/-! ## Filters that are all served -/

theorem liveFilters_eq_self (positive : ∀ filter ∈ filters, 0 < filter.offset)
    (built : ∀ filter ∈ filters, (strategyNamed filter.className).isSome) :
    liveFilters filters = filters ∧ filters.dropWhile usable = [] := by
  have all : ∀ filter ∈ filters, usable filter = true := by
    intro filter member
    rw [usable, decide_eq_true (positive filter member), built filter member]
    rfl
  have whole : liveFilters filters = filters := List.takeWhile_eq_self_iff.2 all
  exact ⟨whole, List.dropWhile_eq_nil_iff.2 all⟩

/-- Without an offset below 1 the merge is the lookup. -/
theorem convertLoop_of_positive (sorted : Sorted filters)
    (positive : ∀ filter ∈ filters, 0 < filter.offset)
    (built : ∀ filter ∈ filters, (strategyNamed filter.className).isSome) :
    convertLoop default data (List.range data.length) filters [] =
      lookupValues default data filters := by
  obtain ⟨whole, nothing⟩ := liveFilters_eq_self positive built
  have kept : keptPositions filters data.length = List.range data.length := by
    rw [keptPositions, List.filter_eq_self]
    intro position _
    rw [skipped, nothing]
    rfl
  rw [convertLoop_eq sorted, kept, lookupValues]
  apply mapM_congr
  intro position _
  have same : strategyAt default filters position =
      lookupStrategy default filters position := by
    rw [strategyAt, whole]
    rfl
  rw [same]

/-! ## A filter that is never met -/

/-- The first filter is never met: all integers get the default strategy. -/
theorem convertLoop_of_stuck (sorted : Sorted filters) {stuck : Filter}
    (member : stuck ∈ filters) (low : stuck.offset ≤ 0) :
    convertLoop default data (List.range data.length) filters [] =
      (List.range data.length).mapM (convertAt default data) := by
  have whole : ∀ found : Except Failure (List Converted),
      found.map (fun found => [] ++ found) = found := by
    intro found
    cases found <;> rfl
  rw [convertLoop_blocked, whole]
  intro position _ filter head
  cases filters with
  | nil => cases head
  | cons first later =>
      have least : first.offset ≤ 0 := by
        rcases List.mem_cons.1 member with rfl | behind
        · exact low
        · exact ((List.pairwise_cons.1 sorted).1 stuck behind).le.trans low
      cases head
      omega

/-- The strategies of the filters make no difference to the default one. -/
def LikeDefault (default : Strategy) (data : List ℤ) (filters : List Filter) : Prop :=
  ∀ filter ∈ filters, ∀ position < data.length, filter.offset = (position : ℤ) + 1 →
    ∀ strategy ∈ strategyNamed filter.className,
      strategy.execute data position = default.execute data position

theorem likeDefault_iff (sorted : Sorted filters)
    (built : ∀ filter ∈ filters, (strategyNamed filter.className).isSome) :
    (∀ position ∈ List.range data.length, convertAt default data position =
        convertAt (lookupStrategy default filters position) data position) ↔
      LikeDefault default data filters := by
  simp only [List.mem_range, convertAt_eq_convertAt_iff]
  constructor
  · intro same filter member position inside met strategy named
    have here := same position inside
    simp only [lookupStrategy, find?_offset sorted member met, Option.mem_def.1 named,
      Option.getD_some] at here
    exact here.symm
  · intro like position inside
    rw [lookupStrategy]
    cases found : filters.find? fun filter => filter.offset = (position : ℤ) + 1 with
    | none => rfl
    | some filter =>
        have member := List.mem_of_find?_eq_some found
        have met : filter.offset = (position : ℤ) + 1 := by
          simpa using List.find?_some found
        obtain ⟨strategy, named⟩ := Option.isSome_iff_exists.1 (built filter member)
        simp only [named, Option.getD_some]
        exact (like filter member position inside met strategy named).symm

/-- The merge equals the lookup exactly if no offset is below 1 or the filters make no
difference. -/
theorem convertLoop_eq_lookupValues_iff (sorted : Sorted filters)
    (built : ∀ filter ∈ filters, (strategyNamed filter.className).isSome) :
    convertLoop default data (List.range data.length) filters [] =
        lookupValues default data filters ↔
      (∀ filter ∈ filters, 0 < filter.offset) ∨ LikeDefault default data filters ∨
        ∃ reason, ThrowsFirst (fun _ => default) data reason ∧
          ThrowsFirst (lookupStrategy default filters) data reason := by
  by_cases positive : ∀ filter ∈ filters, 0 < filter.offset
  · exact iff_of_true (convertLoop_of_positive sorted positive built) (.inl positive)
  · rw [or_iff_right positive]
    push Not at positive
    obtain ⟨stuck, member, low⟩ := positive
    rw [convertLoop_of_stuck sorted member low, lookupValues, mapM_eq_mapM_iff,
      likeDefault_iff sorted built]
    simp only [← mapM_convertAt_eq_error_iff]

end Outcomes

/-- A filter for the third integer of a line. -/
theorem convertLoop_eq_lookupValues_third :
    let filters := [(⟨3, Strategy.temperature.className, [], 4⟩ : Filter)]
    convertLoop .doubleDefault [0, 4, 250] (List.range 3) filters [] =
      lookupValues .doubleDefault [0, 4, 250] filters := by
  intro filters
  refine (@convertLoop_eq_lookupValues_iff .doubleDefault [0, 4, 250] filters ?_ ?_).2
    (.inl ?_)
  · exact List.pairwise_singleton _ _
  · decide
  · decide

/-- A filter with the offset 0 takes the strategy of the third integer away. -/
theorem not_convertLoop_eq_lookupValues :
    ¬ ∀ (default : Strategy) (data : List ℤ) (filters : List Filter), Sorted filters →
      (∀ filter ∈ filters, (strategyNamed filter.className).isSome) →
        convertLoop default data (List.range data.length) filters [] =
          lookupValues default data filters := by
  intro always
  have same := always .doubleDefault [0, 4, 250]
    [⟨0, Strategy.humidity.className, [], 4⟩, ⟨3, Strategy.temperature.className, [], 4⟩]
    (by simp [Sorted]) (by decide)
  revert same
  decide +kernel

end IotLab.Server
