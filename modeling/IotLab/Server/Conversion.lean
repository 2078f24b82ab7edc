import IotLab.Library.Traversal
import IotLab.Server.InputStream
import Mathlib.Data.List.Nodup

/-!
# What a conversion computes

The loop of `convert` keeps one index into the sorted filters.  It serves the
filters in order until it meets one that it cannot serve: one with an offset that is
not positive, or one whose strategy cannot be built.  From there on every integer
gets the default strategy, except the one at the offset of the strategy that cannot
be built, which yields no value.
-/

namespace IotLab.Server

open IotLab.Library

/-- A filter that the loop can serve when it reaches it. -/
def usable (filter : Filter) : Bool :=
  decide (0 < filter.offset) && (strategyNamed filter.className).isSome

/-- The filters that are served. -/
def liveFilters (filters : List Filter) : List Filter := filters.takeWhile usable

/-- The loop leaves out the integer at a position. -/
def skipped (filters : List Filter) (position : ℕ) : Bool :=
  (filters.dropWhile usable).head?.any fun filter => filter.offset = (position : ℤ) + 1

/-- The positions that yield a value, in order. -/
def keptPositions (filters : List Filter) (length : ℕ) : List ℕ :=
  (List.range length).filter fun position => !skipped filters position

/-- The strategy that is used at a position that is not left out. -/
def strategyAt (default : Strategy) (filters : List Filter) (position : ℕ) : Strategy :=
  match (liveFilters filters).find? fun filter => filter.offset = (position : ℤ) + 1 with
  | none => default
  | some filter => (strategyNamed filter.className).getD default

/-- One value of the conversion. -/
def convertAt (strategy : Strategy) (data : List ℤ) (position : ℕ) :
    Except Failure Converted :=
  (strategy.execute data position).map fun value => ⟨position, value⟩

section Loop

variable {default : Strategy} {data : List ℤ} {filters : List Filter}
variable {values : List Converted}

theorem convertAt_bind {strategy : Strategy} {position : ℕ} {positions : List ℕ}
    {convert : ℕ → Except Failure Converted}
    (here : convert position = convertAt strategy data position) :
    (do
        let value ← strategy.execute data position
        (positions.mapM convert).map fun found =>
          (values ++ [⟨position, value⟩]) ++ found) =
      ((position :: positions).mapM convert).map fun found => values ++ found := by
  rw [List.mapM_cons, here, convertAt]
  cases strategy.execute data position with
  | error failure => rfl
  | ok value =>
      cases positions.mapM convert with
      | error failure => rfl
      | ok found =>
          simp [bind, pure, Except.bind, Except.pure, Except.map]

/-- A filter whose offset is not met holds the loop back for good. -/
theorem convertLoop_blocked {positions : List ℕ}
    (unmet : ∀ position ∈ positions, ∀ filter ∈ filters.head?,
      (position : ℤ) + 1 ≠ filter.offset) :
    convertLoop default data positions filters values =
      (positions.mapM (convertAt default data)).map fun found => values ++ found := by
  induction positions generalizing values with
  | nil =>
      simp [convertLoop, pure, Except.pure, Except.map]
  | cons position rest ih =>
      have later : ∀ value, convertLoop default data rest filters
          (values ++ [⟨position, value⟩]) =
        (rest.mapM (convertAt default data)).map fun found =>
          (values ++ [⟨position, value⟩]) ++ found := by
        intro value
        exact ih fun other member => unmet other (List.mem_cons_of_mem _ member)
      rw [← convertAt_bind rfl]
      cases filters with
      | nil => simp only [convertLoop, later]
      | cons filter others =>
          have here := unmet position List.mem_cons_self filter rfl
          simp only [convertLoop, if_neg here, later]

theorem liveFilters_find_none {position : ℕ}
    (above : ∀ filter ∈ filters, (position : ℤ) + 1 < filter.offset) :
    (liveFilters filters).find? (fun filter => filter.offset = (position : ℤ) + 1) =
      none := by
  apply List.find?_eq_none.2
  intro filter member
  have larger := above filter (List.takeWhile_subset _ member)
  simp only [decide_eq_true_eq]
  omega

theorem strategyAt_above {position : ℕ}
    (above : ∀ filter ∈ filters, (position : ℤ) + 1 < filter.offset) :
    strategyAt default filters position = default := by
  rw [strategyAt, liveFilters_find_none above]

theorem skipped_above {position : ℕ}
    (above : ∀ filter ∈ filters, (position : ℤ) + 1 < filter.offset) :
    skipped filters position = false := by
  rw [skipped, Option.any_eq_false]
  intro filter head
  have member := List.mem_of_mem_head? head
  have larger := above filter (List.dropWhile_subset _ member)
  apply decide_eq_false
  omega

section Served

variable {filter : Filter} {later : List Filter} {strategy : Strategy}

theorem skipped_cons (serves : usable filter = true) (position : ℕ) :
    skipped (filter :: later) position = skipped later position := by
  rw [skipped, List.dropWhile_cons_of_pos serves, skipped]

theorem strategyAt_cons_ne (serves : usable filter = true) {position : ℕ}
    (other : filter.offset ≠ (position : ℤ) + 1) :
    strategyAt default (filter :: later) position =
      strategyAt default later position := by
  rw [strategyAt, liveFilters, List.takeWhile_cons_of_pos serves, strategyAt, liveFilters]
  rw [List.find?_cons_of_neg]
  simpa using other

theorem strategyAt_cons_eq (serves : usable filter = true) {position : ℕ}
    (met : filter.offset = (position : ℤ) + 1)
    (named : strategyNamed filter.className = some strategy) :
    strategyAt default (filter :: later) position = strategy := by
  rw [strategyAt, liveFilters, List.takeWhile_cons_of_pos serves]
  rw [List.find?_cons_of_pos (by simpa using met)]
  simp only [named, Option.getD_some]

end Served

section Held

variable {filter : Filter} {later : List Filter}

theorem strategyAt_cons_unusable (held : usable filter = false) (position : ℕ) :
    strategyAt default (filter :: later) position = default := by
  rw [strategyAt, liveFilters, List.takeWhile_cons_of_neg (by simp [held])]
  rfl

theorem skipped_cons_unusable (held : usable filter = false) (position : ℕ) :
    skipped (filter :: later) position =
      decide (filter.offset = (position : ℤ) + 1) := by
  rw [skipped, List.dropWhile_cons_of_neg (by simp [held])]
  rfl

end Held

/-- The values of a list of positions. -/
def convertedAt (default : Strategy) (data : List ℤ) (filters : List Filter)
    (positions : List ℕ) : Except Failure (List Converted) :=
  (positions.filter fun position => !skipped filters position).mapM fun position =>
    convertAt (strategyAt default filters position) data position

/-- Positions at which two lists of filters do the same have the same values. -/
theorem convertedAt_congr {others : List Filter} {positions : List ℕ}
    (same : ∀ position ∈ positions, skipped filters position = skipped others position ∧
      strategyAt default filters position = strategyAt default others position) :
    convertedAt default data filters positions =
      convertedAt default data others positions := by
  have kept : (positions.filter fun position => !skipped filters position) =
      positions.filter fun position => !skipped others position := by
    apply List.filter_congr
    intro position member
    rw [(same position member).1]
  rw [convertedAt, convertedAt, kept]
  apply mapM_congr
  intro position member
  rw [(same position (List.mem_of_mem_filter member)).2]

/-- Positions without a filter get the default strategy. -/
theorem convertedAt_default {positions : List ℕ}
    (plain : ∀ position ∈ positions, skipped filters position = false ∧
      strategyAt default filters position = default) :
    convertedAt default data filters positions =
      positions.mapM (convertAt default data) := by
  have kept : (positions.filter fun position => !skipped filters position) =
      positions := by
    apply List.filter_eq_self.2
    intro position member
    rw [(plain position member).1]
    rfl
  rw [convertedAt, kept]
  apply mapM_congr
  intro position member
  rw [(plain position member).2]

theorem convertedAt_cons_skipped {position : ℕ} {positions : List ℕ}
    (left : skipped filters position = true) :
    convertedAt default data filters (position :: positions) =
      convertedAt default data filters positions := by
  rw [convertedAt, convertedAt, List.filter_cons_of_neg (by rw [left]; simp)]

theorem convertedAt_cons {strategy : Strategy} {position : ℕ} {positions : List ℕ}
    (kept : skipped filters position = false)
    (here : strategyAt default filters position = strategy) :
    (do
        let value ← strategy.execute data position
        (convertedAt default data filters positions).map fun found =>
          (values ++ [⟨position, value⟩]) ++ found) =
      (convertedAt default data filters (position :: positions)).map fun found =>
        values ++ found := by
  rw [convertedAt, convertedAt, List.filter_cons_of_pos (by rw [kept]; rfl)]
  apply convertAt_bind
  rw [here]

section Step

variable {filter : Filter} {later : List Filter} {start count : ℕ}

theorem offset_ne_of_mem_range' (met : (start : ℤ) + 1 = filter.offset) :
    ∀ position ∈ List.range' (start + 1) count, filter.offset ≠ (position : ℤ) + 1 := by
  intro position member
  have from_ := (List.mem_range'_1.1 member).1
  omega

/-- The loop leaves out the position of a filter without a strategy and stays at this
filter. -/
theorem convertLoop_unbuilt (met : (start : ℤ) + 1 = filter.offset)
    (named : strategyNamed filter.className = none) :
    convertLoop default data (start :: List.range' (start + 1) count) (filter :: later)
        values =
      (convertedAt default data (filter :: later)
        (start :: List.range' (start + 1) count)).map fun found => values ++ found := by
  have held : usable filter = false := by simp [usable, named]
  have beyond : ∀ position ∈ List.range' (start + 1) count,
      filter.offset ≠ (position : ℤ) + 1 := offset_ne_of_mem_range' met
  rw [convertedAt_cons_skipped, convertedAt_default]
  · simp only [convertLoop, if_pos met, named]
    apply convertLoop_blocked
    intro position member other head
    cases head
    exact (beyond position member).symm
  · intro position member
    refine ⟨?_, strategyAt_cons_unusable held position⟩
    rw [skipped_cons_unusable held]
    exact decide_eq_false (beyond position member)
  · rw [skipped_cons_unusable held]
    exact decide_eq_true met.symm

/-- The loop serves a filter and goes on with the later ones. -/
theorem convertLoop_served {strategy : Strategy} (sorted : Sorted (filter :: later))
    (met : (start : ℤ) + 1 = filter.offset)
    (named : strategyNamed filter.className = some strategy)
    (rest : ∀ values, convertLoop default data (List.range' (start + 1) count) later values =
      (convertedAt default data later (List.range' (start + 1) count)).map fun found =>
        values ++ found) :
    convertLoop default data (start :: List.range' (start + 1) count) (filter :: later)
        values =
      (convertedAt default data (filter :: later)
        (start :: List.range' (start + 1) count)).map fun found => values ++ found := by
  have serves : usable filter = true := by
    have positive : 0 < filter.offset := by omega
    simp [usable, named, positive]
  have same : convertedAt default data later (List.range' (start + 1) count) =
      convertedAt default data (filter :: later) (List.range' (start + 1) count) := by
    apply convertedAt_congr
    intro position member
    exact ⟨(skipped_cons serves position).symm,
      (strategyAt_cons_ne serves (offset_ne_of_mem_range' met position member)).symm⟩
  have kept : skipped (filter :: later) start = false := by
    rw [skipped_cons serves]
    exact skipped_above (sorted.behind met.le)
  simp only [convertLoop, if_pos met, named, rest, same]
  exact convertedAt_cons kept (strategyAt_cons_eq serves met.symm named)

end Step

/-- The loop from a position on, with filters that are still ahead. -/
theorem convertLoop_eq_convertedAt {start count : ℕ} (sorted : Sorted filters)
    (ahead : ∀ filter ∈ filters, (start : ℤ) < filter.offset) :
    convertLoop default data (List.range' start count) filters values =
      (convertedAt default data filters (List.range' start count)).map fun found =>
        values ++ found := by
  induction count generalizing start filters values with
  | zero => simp [convertLoop, convertedAt, pure, Except.pure, Except.map]
  | succ count ih =>
      rw [List.range'_succ]
      cases filters with
      | nil =>
          rw [convertLoop_blocked (by simp), convertedAt_default]
          intro position _
          exact ⟨rfl, rfl⟩
      | cons filter later =>
          have first := ahead filter List.mem_cons_self
          by_cases met : (start : ℤ) + 1 = filter.offset
          · cases named : strategyNamed filter.className with
            | none => exact convertLoop_unbuilt met named
            | some strategy =>
                apply convertLoop_served sorted met named
                intro values
                apply ih sorted.of_cons
                rw [Nat.cast_succ]
                exact sorted.behind met.le
          · have above : ∀ other ∈ filter :: later, (start : ℤ) + 1 < other.offset := by
              apply sorted.above
              omega
            have rest : ∀ values, convertLoop default data
                (List.range' (start + 1) count) (filter :: later) values =
              (convertedAt default data (filter :: later)
                (List.range' (start + 1) count)).map fun found => values ++ found := by
              intro values
              apply ih sorted
              rw [Nat.cast_succ]
              exact above
            simp only [convertLoop, if_neg met, rest]
            exact convertedAt_cons (skipped_above above) (strategyAt_above above)

/-- The conversion computes the value at each kept position, in order. -/
theorem convertLoop_eq (sorted : Sorted filters) :
    convertLoop default data (List.range data.length) filters [] =
      (keptPositions filters data.length).mapM fun position =>
        convertAt (strategyAt default filters position) data position := by
  have whole : ∀ found : Except Failure (List Converted),
      found.map (fun found => [] ++ found) = found := by
    intro found
    cases found <;> rfl
  have range := List.range_eq_range' (n := data.length)
  cases filters with
  | nil =>
      rw [range, convertLoop_eq_convertedAt sorted (by simp), whole, ← range]
      rfl
  | cons filter later =>
      by_cases positive : 0 < filter.offset
      · rw [range, convertLoop_eq_convertedAt sorted (sorted.above positive), whole, ← range]
        rfl
      · have unmet : ∀ position : ℕ, filter.offset ≠ (position : ℤ) + 1 := by
          intro position
          omega
        have held : usable filter = false := by
          rw [usable, decide_eq_false positive, Bool.false_and]
        rw [convertLoop_blocked, whole]
        · refine (convertedAt_default ?_).symm
          intro position _
          refine ⟨?_, strategyAt_cons_unusable held position⟩
          rw [skipped_cons_unusable held]
          exact decide_eq_false (unmet position)
        · intro position _ other head
          cases head
          exact (unmet position).symm

end Loop

/-! ## The result of a conversion -/

section Result

variable {default : Strategy} {data : List ℤ} {filters : List Filter}

theorem eq_of_offset {left right : Filter} (sorted : Sorted filters)
    (leftMember : left ∈ filters) (rightMember : right ∈ filters)
    (same : left.offset = right.offset) : left = right := by
  have distinct : (filters.map Filter.offset).Nodup :=
    List.pairwise_map.2 (sorted.imp fun less => less.ne)
  exact List.inj_on_of_nodup_map distinct leftMember rightMember same

theorem find?_offset {filter : Filter} {position : ℕ} (sorted : Sorted filters)
    (member : filter ∈ filters) (met : filter.offset = (position : ℤ) + 1) :
    filters.find? (fun filter => filter.offset = (position : ℤ) + 1) = some filter := by
  cases found : filters.find? fun filter => filter.offset = (position : ℤ) + 1 with
  | none =>
      have unmet := List.find?_eq_none.1 found filter member
      exact absurd (decide_eq_true met) unmet
  | some other =>
      have otherMet : other.offset = (position : ℤ) + 1 := by
        simpa using List.find?_some found
      rw [eq_of_offset sorted (List.mem_of_find?_eq_some found) member
        (otherMet.trans met.symm)]

/-- The positions of a strategy are those of its filters that are served. -/
theorem strategyAt_eq_iff {strategy : Strategy} {position : ℕ} (sorted : Sorted filters)
    (special : default ≠ strategy) :
    strategyAt default filters position = strategy ↔
      ∃ filter ∈ liveFilters filters, filter.offset = (position : ℤ) + 1 ∧
        strategyNamed filter.className = some strategy := by
  constructor
  · intro used
    cases found : (liveFilters filters).find? fun filter =>
        filter.offset = (position : ℤ) + 1 with
    | none =>
        simp only [strategyAt, found] at used
        exact absurd used special
    | some filter =>
        simp only [strategyAt, found] at used
        have member := List.mem_of_find?_eq_some found
        have met := List.find?_some found
        have serves := List.mem_takeWhile_imp member
        rw [usable, Bool.and_eq_true] at serves
        rcases Option.isSome_iff_exists.1 serves.2 with ⟨name, named⟩
        rw [named, Option.getD_some] at used
        exact ⟨filter, member, of_decide_eq_true met, used ▸ named⟩
  · rintro ⟨filter, member, met, named⟩
    have live : Sorted (liveFilters filters) := sorted.sublist (List.takeWhile_sublist _)
    simp only [strategyAt, find?_offset live member met, named, Option.getD_some]

theorem skipped_of_live {filter : Filter} {position : ℕ} (sorted : Sorted filters)
    (member : filter ∈ liveFilters filters)
    (above : (position : ℤ) + 1 ≤ filter.offset) : skipped filters position = false := by
  have parts : Sorted (liveFilters filters ++ filters.dropWhile usable) := by
    rw [liveFilters, List.takeWhile_append_dropWhile]
    exact sorted
  rw [skipped, Option.any_eq_false]
  intro other head
  have larger := (List.pairwise_append.1 parts).2.2 filter member other
    (List.mem_of_mem_head? head)
  apply decide_eq_false
  omega

/-! A strategy fails at the end of the line or at a sign only. -/

theorem readInt_of_lt {position : ℕ} (inside : position < data.length) :
    readInt data position = .ok data[position] := by
  rw [readInt, List.getElem?_eq_getElem inside]

theorem readInt_of_le {position : ℕ} (outside : data.length ≤ position) :
    readInt data position = .error .indexOutOfBounds := by
  rw [readInt, List.getElem?_eq_none outside]

theorem execute_of_ne {strategy : Strategy} {position : ℕ}
    (other : strategy ≠ .batteryRemaining) (inside : position < data.length) :
    strategy.execute data position = .ok (strategy.convertInt data[position]) := by
  rw [Strategy.execute, readInt_of_lt inside]
  cases strategy with
  | batteryRemaining => exact absurd rfl other
  | _ => rfl

theorem execute_batteryRemaining_end {position : ℕ} (last : position + 1 = data.length) :
    Strategy.batteryRemaining.execute data position = .error .indexOutOfBounds := by
  rw [Strategy.execute, readInt_of_lt (by omega), readInt_of_le last.ge]
  rfl

theorem execute_batteryRemaining {position : ℕ} {part : ℤ}
    (next : part ∈ data[position + 1]?) :
    ∃ whole, Strategy.batteryRemaining.execute data position =
      batteryRemainingValue whole part := by
  rcases List.getElem?_eq_some_iff.1 next with ⟨inside, rfl⟩
  rw [Strategy.execute, readInt_of_lt (Nat.lt_of_succ_lt inside), readInt_of_lt inside]
  exact ⟨_, rfl⟩

theorem batteryRemainingValue_neg {whole part : ℤ} (negative : part < 0) :
    batteryRemainingValue whole part = .error .numberFormat := by
  rw [batteryRemainingValue, (parseDecimal_printInt whole part).2 negative]

theorem batteryRemainingValue_nonneg (whole : ℤ) {part : ℤ} (fits : 0 ≤ part) :
    ∃ value, batteryRemainingValue whole part = .ok (.number value) := by
  cases parsed : parseDecimal (printInt whole ++ '.' :: printInt part) with
  | none =>
      have negative := (parseDecimal_printInt whole part).1 parsed
      omega
  | some value =>
      refine ⟨value, ?_⟩
      rw [batteryRemainingValue, parsed]

/-- A filter that is served reads a decimal number whose second part is negative. -/
def NegativePart (filters : List Filter) (data : List ℤ) : Prop :=
  ∃ filter ∈ liveFilters filters,
    strategyNamed filter.className = some .batteryRemaining ∧
      ∃ part ∈ data[filter.offset.toNat]?, part < 0

/-- A filter that is served reads a decimal number behind the last integer. -/
def MissingPart (filters : List Filter) (data : List ℤ) : Prop :=
  ∃ filter ∈ liveFilters filters,
    strategyNamed filter.className = some .batteryRemaining ∧
      filter.offset = data.length

theorem convertAt_of_last {position : ℕ} (last : position + 1 = data.length) :
    convertAt .batteryRemaining data position = .error .indexOutOfBounds := by
  rw [convertAt, execute_batteryRemaining_end last]
  rfl

theorem convertAt_of_negative {position : ℕ} {part : ℤ}
    (there : part ∈ data[position + 1]?) (negative : part < 0) :
    convertAt .batteryRemaining data position = .error .numberFormat := by
  rcases execute_batteryRemaining there with ⟨whole, executed⟩
  rw [convertAt, executed, batteryRemainingValue_neg negative]
  rfl

/-- What one step of the conversion can do. -/
theorem convertAt_cases (strategy : Strategy) {position : ℕ}
    (inside : position < data.length) :
    (strategy = .batteryRemaining ∧ position + 1 = data.length ∧
      convertAt strategy data position = .error .indexOutOfBounds) ∨
    (strategy = .batteryRemaining ∧ (∃ part ∈ data[position + 1]?, part < 0) ∧
      convertAt strategy data position = .error .numberFormat) ∨
    ∃ value, convertAt strategy data position = .ok ⟨position, value⟩ ∧
      ((∃ text, value = .address text) ↔ strategy = .moteAddr) := by
  by_cases battery : strategy = .batteryRemaining
  · subst battery
    by_cases last : position + 1 = data.length
    · exact .inl ⟨rfl, last, convertAt_of_last last⟩
    · right
      have next : position + 1 < data.length := by omega
      have there := List.getElem?_eq_getElem next
      by_cases negative : data[position + 1] < 0
      · exact .inl ⟨rfl, ⟨_, there, negative⟩, convertAt_of_negative there negative⟩
      · right
        rcases execute_batteryRemaining there with ⟨whole, executed⟩
        rcases batteryRemainingValue_nonneg whole (not_lt.1 negative) with ⟨value, parsed⟩
        refine ⟨.number value, ?_, by simp⟩
        rw [convertAt, executed, parsed]
        rfl
  · right
    right
    refine ⟨strategy.convertInt data[position], ?_, ?_⟩
    · rw [convertAt, execute_of_ne battery inside]
      rfl
    · cases strategy <;> simp [Strategy.convertInt]

theorem mem_keptPositions {length position : ℕ} :
    position ∈ keptPositions filters length ↔
      position < length ∧ skipped filters position = false := by
  simp [keptPositions]

theorem keptPositions_sorted (filters : List Filter) (length : ℕ) :
    (keptPositions filters length).Pairwise (· < ·) :=
  List.pairwise_lt_range.filter _

section Plain

variable (sorted : Sorted filters) (plain : default ≠ .batteryRemaining)
include sorted plain

/-- A step fails with a number format if it meets a negative part. -/
theorem negativePart_iff :
    NegativePart filters data ↔ ∃ position ∈ keptPositions filters data.length,
      strategyAt default filters position = .batteryRemaining ∧
        ∃ part ∈ data[position + 1]?, part < 0 := by
  constructor
  · rintro ⟨filter, member, named, part, there, negative⟩
    have serves := List.mem_takeWhile_imp member
    rw [usable, Bool.and_eq_true] at serves
    have positive := of_decide_eq_true serves.1
    rcases List.getElem?_eq_some_iff.1 there with ⟨inside, _⟩
    have met : filter.offset = ((filter.offset.toNat - 1 : ℕ) : ℤ) + 1 := by omega
    have next : filter.offset.toNat - 1 + 1 = filter.offset.toNat := by omega
    refine ⟨filter.offset.toNat - 1, ?_, ?_, part, ?_, negative⟩
    · exact mem_keptPositions.2
        ⟨by omega, skipped_of_live sorted member met.ge⟩
    · exact (strategyAt_eq_iff sorted plain).2 ⟨filter, member, met, named⟩
    · rw [next]
      exact there
  · rintro ⟨position, _, battery, part, there, negative⟩
    rcases (strategyAt_eq_iff sorted plain).1 battery with ⟨filter, member, met, named⟩
    refine ⟨filter, member, named, part, ?_, negative⟩
    rw [met]
    exact there

theorem missingPart_iff :
    MissingPart filters data ↔ ∃ position ∈ keptPositions filters data.length,
      strategyAt default filters position = .batteryRemaining ∧
        position + 1 = data.length := by
  constructor
  · rintro ⟨filter, member, named, last⟩
    have serves := List.mem_takeWhile_imp member
    rw [usable, Bool.and_eq_true] at serves
    have positive := of_decide_eq_true serves.1
    have met : filter.offset = ((data.length - 1 : ℕ) : ℤ) + 1 := by omega
    refine ⟨data.length - 1, ?_, ?_, by omega⟩
    · exact mem_keptPositions.2
        ⟨by omega, skipped_of_live sorted member met.ge⟩
    · exact (strategyAt_eq_iff sorted plain).2 ⟨filter, member, met, named⟩
  · rintro ⟨position, _, battery, last⟩
    rcases (strategyAt_eq_iff sorted plain).1 battery with ⟨filter, member, met, named⟩
    refine ⟨filter, member, named, ?_⟩
    omega

/-- Every failure of a step is one of these two. -/
theorem failing_iff :
    (∃ position ∈ keptPositions filters data.length, ∃ reason,
        convertAt (strategyAt default filters position) data position = .error reason) ↔
      NegativePart filters data ∨ MissingPart filters data := by
  constructor
  · rintro ⟨position, kept, reason, fails⟩
    rcases convertAt_cases (strategyAt default filters position)
        (mem_keptPositions.1 kept).1 with
      ⟨battery, last, _⟩ | ⟨battery, negative, _⟩ | ⟨value, outcome, _⟩
    · exact .inr ((missingPart_iff sorted plain).2 ⟨position, kept, battery, last⟩)
    · exact .inl ((negativePart_iff sorted plain).2 ⟨position, kept, battery, negative⟩)
    · rw [outcome] at fails
      cases fails
  · rintro (negative | missing)
    · rcases (negativePart_iff sorted plain).1 negative with
        ⟨position, kept, battery, part, there, below⟩
      exact ⟨position, kept, _, battery ▸ convertAt_of_negative there below⟩
    · rcases (missingPart_iff sorted plain).1 missing with ⟨position, kept, battery, last⟩
      exact ⟨position, kept, _, battery ▸ convertAt_of_last last⟩

/-- A negative part is met before the end of the line. -/
theorem not_negativePart_of_last {before after : List ℕ} {first : ℕ}
    (split : keptPositions filters data.length = before ++ first :: after)
    (fine : ∀ position ∈ before, ∃ converted,
      convertAt (strategyAt default filters position) data position = .ok converted)
    (last : first + 1 = data.length) : ¬ NegativePart filters data := by
  intro negative
  rcases (negativePart_iff sorted plain).1 negative with
    ⟨other, otherKept, battery, part, there, below⟩
  have inside := (List.getElem?_eq_some_iff.1 there).1
  have ordered := keptPositions_sorted filters data.length
  have earlier : other ∈ before := by
    rw [split] at otherKept ordered
    rcases List.mem_append.1 otherKept with earlier | later
    · exact earlier
    · rcases List.mem_cons.1 later with rfl | later
      · omega
      · have larger := (List.pairwise_cons.1 (List.pairwise_append.1 ordered).2.1).1
          other later
        omega
  rcases fine other earlier with ⟨value, converted⟩
  simp only [battery, convertAt_of_negative there below] at converted
  cases converted

variable (data) in
/-- What a conversion can do: a negative part is met before the end of the line, so
its exception comes first. -/
theorem convertLoop_cases :
    (convertLoop default data (List.range data.length) filters [] =
        .error .numberFormat ∧ NegativePart filters data) ∨
    (convertLoop default data (List.range data.length) filters [] =
        .error .indexOutOfBounds ∧
      ¬ NegativePart filters data ∧ MissingPart filters data) ∨
    (¬ NegativePart filters data ∧ ¬ MissingPart filters data ∧
      ∃ values, convertLoop default data (List.range data.length) filters [] =
          .ok values ∧
        List.Forall₂ (fun position converted => converted.position = position ∧
            ((∃ text, converted.value = .address text) ↔
              strategyAt default filters position = .moteAddr))
          (keptPositions filters data.length) values) := by
  rw [convertLoop_eq sorted]
  by_cases fails : ∃ position ∈ keptPositions filters data.length, ∃ reason,
      convertAt (strategyAt default filters position) data position = .error reason
  · rcases fails with ⟨position, kept, reason, fails⟩
    rcases exists_first_failure (f := fun position =>
        convertAt (strategyAt default filters position) data position) kept fails with
      ⟨before, first, after, reason, split, fine, firstFails⟩
    have firstKept : first ∈ keptPositions filters data.length := by
      rw [split]
      simp
    rw [split, mapM_error fine firstFails]
    rcases convertAt_cases (strategyAt default filters first)
        (mem_keptPositions.1 firstKept).1 with
      ⟨battery, last, outcome⟩ | ⟨battery, negative, outcome⟩ | ⟨value, outcome, _⟩
    · right
      left
      rw [outcome] at firstFails
      cases firstFails
      refine ⟨rfl, not_negativePart_of_last sorted plain split fine last, ?_⟩
      exact (missingPart_iff sorted plain).2 ⟨first, firstKept, battery, last⟩
    · left
      rw [outcome] at firstFails
      cases firstFails
      exact ⟨rfl, (negativePart_iff sorted plain).2 ⟨first, firstKept, battery, negative⟩⟩
    · rw [outcome] at firstFails
      cases firstFails
  · right
    right
    have neither := not_or.1 fun either => fails ((failing_iff sorted plain).2 either)
    refine ⟨neither.1, neither.2, ?_⟩
    apply mapM_ok
    intro position kept
    rcases convertAt_cases (strategyAt default filters position)
        (mem_keptPositions.1 kept).1 with
      ⟨_, _, outcome⟩ | ⟨_, _, outcome⟩ | ⟨value, outcome, address⟩
    · exact absurd ⟨position, kept, _, outcome⟩ fails
    · exact absurd ⟨position, kept, _, outcome⟩ fails
    · exact ⟨_, outcome, rfl, address⟩

end Plain

end Result

end IotLab.Server
