import IotLab.Server.Conversion
import IotLab.Server.DataStream

/-!
# Labels

The loop of `convert` finds the filter of an integer by its offset, `postConvert`
the label of a value by the index of the value.  The two agree for every line that
is not refused if the filters cover all positions of the line and the filters at
which index and offset differ have equal labels.
-/

namespace IotLab.Server

open IotLab.Library

/-- A filter for the position has the label. -/
def Labelled (filters : List Filter) (position : ℕ) (label : Text) : Prop :=
  ∃ filter ∈ filters, filter.offset = (position : ℤ) + 1 ∧ filter.label = label

/-- A conversion that throws no index error and gives every value the label of the
filter for the position of its integer. -/
def LabelsStay (store : Store) (stream : InputStream) : Prop :=
  let result := (stream.convertData store .doubleDefault).2
  result ≠ .error .indexOutOfBounds ∧
    ∀ rows, result = .ok rows → ∀ row ∈ rows,
      Labelled (store.filters.find stream.type.id) row.position row.label

/-! ## When labels stay -/

/-- Every position of the line has a filter. -/
def Covered (filters : List Filter) (length : ℕ) : Prop :=
  ∀ position < length, ∃ filter ∈ filters, filter.offset = (position : ℤ) + 1

/-- The filter with the index of a value has the label of the filter for its
position. -/
def Aligned (filters : List Filter) (length : ℕ) : Prop :=
  ∀ index position : ℕ, (keptPositions filters length)[index]? = some position →
    ∀ indexed ∈ filters[index]?, ∀ own ∈ filters, own.offset = (position : ℤ) + 1 →
      indexed.label = own.label

/-- A filter that is served makes a value an address, and the labels reach up to
it. -/
def AddressReached (filters : List Filter) (length : ℕ) : Prop :=
  ∃ filter ∈ liveFilters filters,
    strategyNamed filter.className = some .moteAddr ∧
      filter.offset ≤ length ∧ filter.offset ≤ filters.length + 1

/-- The line is refused for another reason than an index, or its labels fit. -/
def LabelsFit (store : Store) (stream : InputStream) : Prop :=
  let filters := store.filters.find stream.type.id
  let length := stream.data.length
  NegativePart filters stream.data ∨
    (¬ MissingPart filters stream.data ∧ nodeIdOffset < length ∧
      ((∃ nodeId ∈ stream.data[nodeIdOffset]?, ¬ store.Accepts (moteAddress nodeId)) ∨
        (∀ experiment, store.getActiveExperiment ≠ .ok experiment) ∨
          AddressReached filters length ∨ (Covered filters length ∧ Aligned filters length)))

/-! ## The loop over the values -/

section Values

variable {filters : List Filter} {timestamp : ℤ} {mote : Text}
variable {experiment : Experiment}

/-- The values from an index on meet an address before the filters end. -/
def AddressFrom (filters : List Filter) (index : ℕ) (values : List Converted) : Prop :=
  ∃ (offset : ℕ) (text : Text) (converted : Converted),
    values[offset]? = some converted ∧ converted.value = .address text ∧
      index + offset ≤ filters.length

/-- The values from an index on have a filter of that index with the right label. -/
def LabelledFrom (filters : List Filter) (index : ℕ) (values : List Converted) : Prop :=
  ∀ (offset : ℕ) (converted : Converted), values[offset]? = some converted →
    ∃ filter, filters[index + offset]? = some filter ∧
      Labelled filters converted.position filter.label

theorem addressFrom_cons {index : ℕ} {converted : Converted} {rest : List Converted} :
    AddressFrom filters index (converted :: rest) ↔
      ((∃ text, converted.value = .address text) ∧ index ≤ filters.length) ∨
        AddressFrom filters (index + 1) rest := by
  constructor
  · rintro ⟨offset, text, found, there, address, inside⟩
    cases offset with
    | zero =>
        cases there
        exact .inl ⟨⟨text, address⟩, inside⟩
    | succ offset =>
        refine .inr ⟨offset, text, found, there, address, ?_⟩
        omega
  · rintro (⟨⟨text, address⟩, inside⟩ | ⟨offset, text, found, there, address, inside⟩)
    · exact ⟨0, text, converted, rfl, address, inside⟩
    · refine ⟨offset + 1, text, found, there, address, ?_⟩
      omega

theorem labelledFrom_cons {index : ℕ} {converted : Converted} {rest : List Converted} :
    LabelledFrom filters index (converted :: rest) ↔
      (∃ filter, filters[index]? = some filter ∧
        Labelled filters converted.position filter.label) ∧
      LabelledFrom filters (index + 1) rest := by
  have shift : ∀ offset, index + 1 + offset = index + (offset + 1) := by
    intro offset
    omega
  constructor
  · intro every
    refine ⟨every 0 converted rfl, ?_⟩
    intro offset found there
    rw [shift]
    exact every (offset + 1) found there
  · rintro ⟨first, later⟩ offset found there
    cases offset with
    | zero =>
        cases there
        exact first
    | succ offset =>
        rw [← shift]
        exact later offset found there

theorem addressFrom_cons_number {index : ℕ} {converted : Converted}
    {rest : List Converted} {number : ℚ} (value : converted.value = .number number) :
    AddressFrom filters index (converted :: rest) ↔
      AddressFrom filters (index + 1) rest := by
  rw [addressFrom_cons]
  apply or_iff_right
  rintro ⟨⟨text, address⟩, _⟩
  rw [value] at address
  cases address

theorem not_addressFrom_beyond {index : ℕ} {values : List Converted}
    (beyond : filters.length < index) : ¬ AddressFrom filters index values := by
  rintro ⟨offset, text, converted, _, _, inside⟩
  omega

/-- The filter with the index of the first value decides about its label. -/
theorem labelledFrom_cons_of_getElem? {index : ℕ} {converted : Converted}
    {rest : List Converted} {filter : Filter} (found : filters[index]? = some filter) :
    LabelledFrom filters index (converted :: rest) ↔
      Labelled filters converted.position filter.label ∧
        LabelledFrom filters (index + 1) rest := by
  rw [labelledFrom_cons, found]
  apply and_congr_left
  intro _
  constructor
  · rintro ⟨other, there, label⟩
    cases there
    exact label
  · intro label
    exact ⟨filter, rfl, label⟩

/-- What the loop over the values can do. -/
theorem labelValues_cases {index : ℕ} {values : List Converted}
    (inside : index ≤ filters.length) :
    (labelValues filters timestamp mote experiment index values = .error .classCast ∧
      AddressFrom filters index values) ∨
    (labelValues filters timestamp mote experiment index values =
        .error .indexOutOfBounds ∧
      ¬ AddressFrom filters index values ∧ ¬ LabelledFrom filters index values) ∨
    (¬ AddressFrom filters index values ∧
      ∃ rows, labelValues filters timestamp mote experiment index values = .ok rows ∧
        ((∀ row ∈ rows, Labelled filters row.position row.label) ↔
          LabelledFrom filters index values)) := by
  induction values generalizing index with
  | nil =>
      right
      right
      refine ⟨?_, [], rfl, ?_⟩
      · rintro ⟨offset, text, converted, there, _⟩
        cases there
      · refine iff_of_true (by simp) ?_
        intro offset converted there
        cases there
  | cons converted rest ih =>
      rw [labelValues]
      cases value : converted.value with
      | address text =>
          left
          exact ⟨rfl, addressFrom_cons.2 (.inl ⟨⟨text, value⟩, inside⟩)⟩
      | number number =>
          rw [addressFrom_cons_number value]
          cases found : filters[index]? with
          | none =>
              have last : filters.length ≤ index := List.getElem?_eq_none_iff.1 found
              right
              left
              refine ⟨rfl, not_addressFrom_beyond (Nat.lt_succ_of_le last), ?_⟩
              rw [labelledFrom_cons, found]
              rintro ⟨⟨filter, there, _⟩, _⟩
              cases there
          | some filter =>
              rw [labelledFrom_cons_of_getElem? found]
              have next : index + 1 ≤ filters.length :=
                (List.getElem?_eq_some_iff.1 found).1
              rcases ih next with ⟨outcome, address⟩ | ⟨outcome, noAddress, unlabelled⟩ |
                ⟨noAddress, rows, outcome, labels⟩
              · left
                simp only [outcome]
                exact ⟨rfl, address⟩
              · right
                left
                simp only [outcome]
                exact ⟨rfl, noAddress, fun every => unlabelled every.2⟩
              · right
                right
                simp only [outcome]
                refine ⟨noAddress, _, rfl, ?_⟩
                rw [List.forall_mem_cons, labels]

end Values

/-! ## Indices and positions -/

section Positions

variable {filters : List Filter} {length : ℕ}

/-- Up to the last filter that is served, the value of a position has its index. -/
theorem keptPositions_of_live {filter : Filter} {position : ℕ} (sorted : Sorted filters)
    (member : filter ∈ liveFilters filters) (met : filter.offset = (position : ℤ) + 1)
    (inside : position < length) :
    (keptPositions filters length)[position]? = some position := by
  have parts : length = (position + 1) + (length - (position + 1)) := by omega
  have first : ((List.range (position + 1)).filter fun position =>
      !skipped filters position) = List.range (position + 1) := by
    apply List.filter_eq_self.2
    intro earlier below
    have small := List.mem_range.1 below
    rw [skipped_of_live sorted member (by omega)]
    rfl
  rw [keptPositions, parts, List.range_add, List.filter_append, first]
  rw [List.getElem?_append_left (by simp), List.getElem?_range (Nat.lt_succ_self _)]

/-- Filters that cover a line are at least as many as its integers. -/
theorem length_le_of_covered (covered : Covered filters length) :
    length ≤ filters.length := by
  have distinct : ((List.range length).map fun position : ℕ => (position : ℤ) + 1).Nodup := by
    apply List.nodup_range.map
    intro left right same
    have shifted : (left : ℤ) + 1 = right + 1 := same
    omega
  have subset : (List.range length).map (fun position : ℕ => (position : ℤ) + 1) ⊆
      filters.map Filter.offset := by
    intro offset member
    rcases List.mem_map.1 member with ⟨position, inside, rfl⟩
    rcases covered position (List.mem_range.1 inside) with ⟨filter, there, met⟩
    exact List.mem_map.2 ⟨filter, there, met⟩
  have bound := (List.subperm_of_subset distinct subset).length_le
  rw [List.length_map, List.length_map, List.length_range] at bound
  exact bound

variable {default : Strategy} {values : List Converted}

/-- The values of a conversion, seen at the filters. -/
def ValuesOf (default : Strategy) (filters : List Filter) (length : ℕ)
    (values : List Converted) : Prop :=
  List.Forall₂ (fun position converted => converted.position = position ∧
      ((∃ text, converted.value = .address text) ↔
        strategyAt default filters position = .moteAddr))
    (keptPositions filters length) values

theorem addressFrom_iff (sorted : Sorted filters) (plain : default ≠ .moteAddr)
    (converts : ValuesOf default filters length values) :
    AddressFrom filters 0 values ↔ AddressReached filters length := by
  constructor
  · rintro ⟨index, text, converted, there, address, inside⟩
    rcases (forall₂_getElem? converts index).2 converted there with
      ⟨position, kept, _, isAddress⟩
    rcases (strategyAt_eq_iff sorted plain).1 (isAddress.1 ⟨text, address⟩) with
      ⟨filter, live, met, named⟩
    have member := List.mem_of_getElem? kept
    have within := (mem_keptPositions.1 member).1
    have same : index = position := by
      have other := keptPositions_of_live sorted live met within
      have distinct := (keptPositions_sorted filters length).imp fun less => less.ne
      rcases List.getElem?_eq_some_iff.1 kept with ⟨keptInside, keptAt⟩
      rcases List.getElem?_eq_some_iff.1 other with ⟨otherInside, otherAt⟩
      exact (List.Nodup.getElem_inj_iff distinct).1 (keptAt.trans otherAt.symm)
    refine ⟨filter, live, named, ?_, ?_⟩
    · omega
    · omega
  · rintro ⟨filter, live, named, within, reached⟩
    have serves := List.mem_takeWhile_imp live
    rw [usable, Bool.and_eq_true] at serves
    have positive := of_decide_eq_true serves.1
    have met : filter.offset = ((filter.offset.toNat - 1 : ℕ) : ℤ) + 1 := by omega
    have kept : (keptPositions filters length)[filter.offset.toNat - 1]? =
        some (filter.offset.toNat - 1) :=
      keptPositions_of_live sorted live met (by omega)
    rcases (forall₂_getElem? converts _).1 _ kept with ⟨converted, there, _, isAddress⟩
    rcases isAddress.2 ((strategyAt_eq_iff sorted plain).2 ⟨filter, live, met, named⟩) with
      ⟨text, address⟩
    refine ⟨_, text, converted, there, address, ?_⟩
    omega

theorem labelledFrom_iff (sorted : Sorted filters)
    (converts : ValuesOf default filters length values) :
    LabelledFrom filters 0 values ↔ Covered filters length ∧ Aligned filters length := by
  constructor
  · intro every
    constructor
    · intro position inside
      cases left : skipped filters position with
      | true =>
          rw [skipped, Option.any_eq_true] at left
          rcases left with ⟨filter, head, met⟩
          exact ⟨filter, List.dropWhile_subset _ (List.mem_of_mem_head? head),
            of_decide_eq_true met⟩
      | false =>
          have member := mem_keptPositions.2 ⟨inside, left⟩
          rcases List.getElem?_of_mem member with ⟨index, kept⟩
          rcases (forall₂_getElem? converts index).1 position kept with
            ⟨converted, there, same, _⟩
          rcases every index converted there with ⟨_, _, own, ownMember, met, _⟩
          exact ⟨own, ownMember, same ▸ met⟩
    · intro index position kept indexed atIndex own member met
      rcases (forall₂_getElem? converts index).1 position kept with
        ⟨converted, there, same, _⟩
      rcases every index converted there with ⟨filter, found, other, otherMember, otherMet, label⟩
      rw [Nat.zero_add] at found
      cases found.symm.trans atIndex
      rw [← label, eq_of_offset sorted otherMember member]
      rw [otherMet, met, same]
  · rintro ⟨covered, aligned⟩ index converted there
    rcases (forall₂_getElem? converts index).2 converted there with ⟨position, kept, same, _⟩
    have inside : index < filters.length := by
      have indexInside := (List.getElem?_eq_some_iff.1 kept).1
      have few : (keptPositions filters length).length ≤ length := by
        have bound := List.length_filter_le (fun position => !skipped filters position)
          (List.range length)
        rwa [List.length_range] at bound
      exact (indexInside.trans_le few).trans_le (length_le_of_covered covered)
    have atIndex := List.getElem?_eq_getElem inside
    rcases covered position (mem_keptPositions.1 (List.mem_of_getElem? kept)).1 with
      ⟨own, member, met⟩
    refine ⟨filters[index], ?_, own, member, same ▸ met, ?_⟩
    · rw [Nat.zero_add]
      exact atIndex
    · exact (aligned index position kept _ atIndex own member met).symm

/-- Usable filters that cover a line have consecutive offsets along it. -/
theorem offset_of_covered {start : ℤ} {index : ℕ} (sorted : Sorted filters)
    (ahead : ∀ filter ∈ filters, start < filter.offset)
    (covered : ∀ position < length, ∃ filter ∈ filters,
      filter.offset = start + (position : ℤ) + 1) (inside : index < length) :
    ∃ filter, filters[index]? = some filter ∧ filter.offset = start + (index : ℤ) + 1 := by
  induction filters generalizing start index length with
  | nil =>
      rcases covered index inside with ⟨_, member, _⟩
      cases member
  | cons filter later ih =>
      have first : filter.offset = start + 1 := by
        have above := ahead filter List.mem_cons_self
        rcases covered 0 (by omega) with ⟨other, member, met⟩
        rcases List.mem_cons.1 member with rfl | member
        · simpa using met
        · have larger := sorted.behind le_rfl other member
          omega
      cases index with
      | zero =>
          refine ⟨filter, rfl, ?_⟩
          simpa using first
      | succ index =>
          have rest : ∀ position < length - 1, ∃ other ∈ later,
              other.offset = start + 1 + (position : ℤ) + 1 := by
            intro position below
            rcases covered (position + 1) (by omega) with ⟨other, member, met⟩
            rcases List.mem_cons.1 member with rfl | member
            · omega
            · refine ⟨other, member, ?_⟩
              omega
          have before : index < length - 1 := by omega
          rcases ih sorted.of_cons (sorted.behind first.ge) rest before with
            ⟨other, there, met⟩
          refine ⟨other, there, ?_⟩
          omega

/-- Index and offset agree if all filters are usable and cover the line. -/
theorem aligned_of_usable (sorted : Sorted filters)
    (serve : ∀ filter ∈ filters, usable filter = true) (covered : Covered filters length) :
    Aligned filters length := by
  have ahead : ∀ filter ∈ filters, 0 < filter.offset := by
    intro filter member
    have serves := serve filter member
    rw [usable, Bool.and_eq_true] at serves
    exact of_decide_eq_true serves.1
  have none : filters.dropWhile usable = [] := List.dropWhile_eq_nil_iff.2 serve
  have kept : keptPositions filters length = List.range length := by
    apply List.filter_eq_self.2
    intro position _
    rw [skipped, none]
    rfl
  intro index position here indexed atIndex own member met
  rw [kept] at here
  rcases List.getElem?_eq_some_iff.1 here with ⟨inside, value⟩
  rw [List.length_range] at inside
  rw [List.getElem_range] at value
  rcases offset_of_covered sorted ahead (by simpa [Covered] using covered) inside with
    ⟨filter, there, offset⟩
  cases there.symm.trans atIndex
  rw [eq_of_offset sorted (List.mem_of_getElem? there) member]
  omega

end Positions

/-! ## The whole conversion -/

theorem getActiveExperiment_error {store : Store} {failure : Failure}
    (fails : store.getActiveExperiment = .error failure) :
    failure ≠ .indexOutOfBounds := by
  rw [Store.getActiveExperiment] at fails
  split at fails
  · cases fails
    simp
  · cases fails
  · cases fails
    simp

/-- Labels stay on their integers exactly if they fit. -/
theorem labelsStay_iff (store : Store) {stream : InputStream}
    (valid : stream.checkValidity = .ok ()) :
    LabelsStay store stream ↔ LabelsFit store stream := by
  have sorted := store.filters.sorted_find stream.type.id
  have loop := convertLoop_cases stream.data sorted
    (by decide : Strategy.doubleDefault ≠ .batteryRemaining)
  simp only [LabelsStay, LabelsFit, InputStream.convertData, InputStream.convertValues,
    valid, bind, Except.bind]
  rcases loop with ⟨outcome, negative⟩ | ⟨outcome, noNegative, missing⟩ |
    ⟨noNegative, noMissing, values, outcome, converts⟩
  · simp [outcome, negative]
  · simp [outcome, noNegative, missing]
  · simp only [outcome, noNegative, noMissing, InputStream.postConvertData]
    by_cases long : nodeIdOffset < stream.data.length
    · rw [readInt_of_lt long]
      have node := List.getElem?_eq_getElem long
      rcases mergeSender_cases store (moteAddress stream.data[nodeIdOffset]) with
        ⟨accepts, merged⟩ | ⟨refuses, merged⟩
      swap
      · simp [getMote, merged, refuses, long]
      have taken :
          ¬ ∃ nodeId ∈ stream.data[nodeIdOffset]?, ¬ store.Accepts (moteAddress nodeId) := by
        rw [node]
        rintro ⟨_, ⟨⟩, refuses⟩
        exact refuses accepts
      simp only [getMote, merged, taken, false_or]
      cases active : store.getActiveExperiment with
      | error failure =>
          have other := getActiveExperiment_error active
          simp [long, other, bind, Except.bind]
      | ok experiment =>
          have address := addressFrom_iff sorted
            (by decide : Strategy.doubleDefault ≠ .moteAddr) converts
          have labels := labelledFrom_iff sorted converts
          have refused : ¬ ∀ other, (.ok experiment : Except Failure Experiment) ≠ .ok other :=
            fun every => every experiment rfl
          simp only [bind, Except.bind, long, refused, not_false_eq_true, true_and,
            false_or, ← address, ← labels]
          rcases labelValues_cases (Nat.zero_le _) with
            ⟨result, reached⟩ | ⟨result, noAddress, unlabelled⟩ |
              ⟨noAddress, rows, result, labelled⟩
          · rw [result]
            simp [reached]
          · rw [result]
            simp [noAddress, unlabelled]
          · rw [result]
            simp [noAddress, ← labelled]
    · rw [readInt_of_le (not_lt.1 long)]
      simp [long]

/-! ## A gap among the filters -/

/-- A filter of the type 0 that keeps its integer and is labelled with its offset. -/
def plainFilter (offset : ℤ) : Filter :=
  { offset
    className := "DoubleDefaultStrategy".toList
    label := printInt offset
    type := 0 }

/-- A store with an active experiment and filters of the type 0. -/
def labelStore (filters : FilterTable) : Store :=
  { types := [⟨0, "DataStream".toList, 7⟩]
    filters
    experiments := [⟨1, true⟩] }

/-- A line of seven integers. -/
def shortStream : InputStream :=
  { streamName := "DataStream".toList
    timestamp := 1400000000000
    data := [0, 0, 5, 1, 2, 0, 258]
    type := ⟨0, "DataStream".toList, 7⟩ }

def coveredStore : Store :=
  labelStore
    { rows := [1, 2, 3, 4, 5, 6, 7].map plainFilter
      unique := by decide }

theorem labelsStay_coveredStore : LabelsStay coveredStore shortStream := by
  have covered : Covered (coveredStore.filters.find 0) 7 := by
    change ∀ position < (7 : ℕ), ∃ filter ∈ coveredStore.filters.find 0,
      filter.offset = (position : ℤ) + 1
    decide
  have serve : ∀ filter ∈ coveredStore.filters.find 0, usable filter = true := by decide
  have noBattery : ∀ filter ∈ liveFilters (coveredStore.filters.find 0),
      strategyNamed filter.className ≠ some .batteryRemaining := by decide
  have valid : shortStream.checkValidity = .ok () := rfl
  apply (labelsStay_iff coveredStore valid).2
  refine .inr ⟨?_, by decide, .inr (.inr (.inr ⟨covered, ?_⟩))⟩
  · rintro ⟨filter, member, battery, _⟩
    exact noBattery filter member battery
  · exact aligned_of_usable (coveredStore.filters.sorted_find 0) serve covered

/-- Seven filters with a gap at the offset 7. -/
def gapStore : Store :=
  labelStore
    { rows := [1, 2, 3, 4, 5, 6, 8].map plainFilter
      unique := by decide }

/-- Behind the gap an integer gets the label of the next offset. -/
theorem not_labelsStay_gapStore :
    shortStream.checkValidity = .ok () ∧ ¬ LabelsStay gapStore shortStream := by
  refine ⟨rfl, ?_⟩
  intro stays
  have label := stays.2 _ rfl
    { value := 258
      label := printInt 8
      timestamp := 1400000000000
      mote := moteAddress 258
      experiment := ⟨1, true⟩
      position := 6 } (by decide +kernel)
  have unlabelled : ∀ filter ∈ gapStore.filters.find 0, filter.offset ≠ ((6 : ℕ) : ℤ) + 1 := by
    decide
  rcases label with ⟨filter, member, met, _⟩
  exact unlabelled filter member met

end IotLab.Server
