import IotLab.Server.DataResource
import IotLab.Server.GeolocStream
import IotLab.Server.Labels

/-!
# What a conversion creates

A conversion that throws has still created the motes that it looked up before.  It
creates nothing at all exactly when it stops early enough, with known motes only.
-/

namespace IotLab.Server

open IotLab.Library

/-! ## What a conversion changes -/

/-- Two stores differ in their senders only. -/
def SendersOnly (store after : Store) : Prop :=
  after = { store with senders := after.senders }

theorem SendersOnly.refl (store : Store) : SendersOnly store store := rfl

theorem sendersOnly_withSender (store : Store) (address : Text) :
    SendersOnly store (store.withSender address) := by
  rw [SendersOnly, Store.withSender]
  split <;> rfl

theorem SendersOnly.trans {store middle after : Store} (first : SendersOnly store middle)
    (second : SendersOnly middle after) : SendersOnly store after := by
  rw [SendersOnly] at first second ⊢
  rw [second, first]

theorem sendersOnly_convertData (store : Store) (stream : InputStream)
    (default : Strategy) : SendersOnly store (stream.convertData store default).1 := by
  rw [InputStream.convertData]
  cases stream.convertValues store default with
  | error failure => rfl
  | ok values =>
      simp only [InputStream.postConvertData]
      cases readInt stream.data nodeIdOffset with
      | error failure => rfl
      | ok nodeId =>
          rcases mergeSender_cases store (moteAddress nodeId) with ⟨_, merged⟩ | ⟨_, merged⟩
          · simp only [getMote, merged]
            exact sendersOnly_withSender store _
          · simp only [getMote, merged]
            exact .refl store

theorem sendersOnly_readSamples (data : List ℤ) (src : Text) (timestamp : ℤ)
    (count index : ℕ) (store : Store) :
    SendersOnly store (readSamples data src timestamp count index store).1 := by
  induction count generalizing index store with
  | zero => rfl
  | succ count ih =>
      rw [readSamples]
      cases readInt data index with
      | error failure => rfl
      | ok neighbor =>
          rcases mergeSender_cases store (moteAddress neighbor) with ⟨_, merged⟩ | ⟨_, merged⟩
          · have added := sendersOnly_withSender store (moteAddress neighbor)
            simp only [getMote, merged]
            cases readInt data (index + 1) with
            | error failure => exact added
            | ok rssi => exact added.trans (ih (index + 2) _)
          · simp only [getMote, merged]
            exact .refl store

theorem sendersOnly_convertGeoloc (store : Store) (stream : InputStream)
    (default : Strategy) : SendersOnly store (stream.convertGeoloc store default).1 := by
  rw [InputStream.convertGeoloc]
  cases stream.convertValues store default with
  | error failure => rfl
  | ok values =>
      simp only [InputStream.postConvertGeoloc]
      cases readInt stream.data geolocNodeIdOffset with
      | error failure => rfl
      | ok nodeId =>
          rcases mergeSender_cases store (moteAddress nodeId) with ⟨_, merged⟩ | ⟨_, merged⟩
          · have added := sendersOnly_withSender store (moteAddress nodeId)
            simp only [getMote, merged]
            cases readInt stream.data dataNbOffset with
            | error failure => exact added
            | ok nb => exact added.trans (sendersOnly_readSamples _ _ _ _ _ _)
          · simp only [getMote, merged]
            exact .refl store

/-! ## What a conversion creates -/

/-- The address is known already. -/
def Store.Knows (store : Store) (nodeId : ℤ) : Prop := moteAddress nodeId ∈ store.senders

instance (store : Store) (nodeId : ℤ) : Decidable (store.Knows nodeId) :=
  inferInstanceAs (Decidable (_ ∈ _))

theorem senders_withSender (store : Store) (nodeId : ℤ) :
    (store.withSender (moteAddress nodeId)).senders = store.senders ↔
      store.Knows nodeId := by
  rw [Store.withSender, Store.Knows]
  split
  · next known => simp [known]
  · next unknown => simp [unknown]

theorem withSender_of_knows {store : Store} {nodeId : ℤ} (knows : store.Knows nodeId) :
    store.withSender (moteAddress nodeId) = store := if_pos knows

theorem accepts_of_knows {store : Store} {nodeId : ℤ} (knows : store.Knows nodeId) :
    store.Accepts (moteAddress nodeId) := fun _ => knows

/-- The conversion throws before it computes the values. -/
def ConversionFails (store : Store) (stream : InputStream) : Prop :=
  stream.checkValidity ≠ .ok () ∨
    NegativePart (store.filters.find stream.type.id) stream.data ∨
      MissingPart (store.filters.find stream.type.id) stream.data

/-- The conversion throws, or its values are those of the kept positions. -/
theorem convertValues_cases (store : Store) (stream : InputStream) :
    (ConversionFails store stream ∧
      ∃ failure, stream.convertValues store .doubleDefault = .error failure) ∨
    (¬ ConversionFails store stream ∧
      ∃ values, stream.convertValues store .doubleDefault = .ok values ∧
        ValuesOf .doubleDefault (store.filters.find stream.type.id) stream.data.length
          values) := by
  have loop := convertLoop_cases stream.data (store.filters.sorted_find stream.type.id)
    (by decide : Strategy.doubleDefault ≠ .batteryRemaining)
  simp only [ConversionFails, InputStream.convertValues, bind, Except.bind]
  cases valid : stream.checkValidity with
  | error failure => exact .inl ⟨.inl (by simp), failure, rfl⟩
  | ok _ =>
      obtain ⟨outcome, negative⟩ | ⟨outcome, _, missing⟩ |
        ⟨noNegative, noMissing, values, outcome, converts⟩ := loop
      · exact .inl ⟨.inr (.inl negative), _, outcome⟩
      · exact .inl ⟨.inr (.inr missing), _, outcome⟩
      · exact .inr ⟨by simp [noNegative, noMissing], values, outcome, converts⟩

/-- Rows are made of the values when no address is met and every value has a filter of
its index. -/
theorem labelValues_ok_iff {filters : List Filter} {timestamp : ℤ} {mote : Text}
    {experiment : Experiment} {index : ℕ} {values : List Converted}
    (inside : index ≤ filters.length) :
    (∃ rows, labelValues filters timestamp mote experiment index values = .ok rows) ↔
      ¬ AddressFrom filters index values ∧ index + values.length ≤ filters.length := by
  induction values generalizing index with
  | nil =>
      have none : ¬ AddressFrom filters index [] := by simp [AddressFrom]
      simp [labelValues, none, inside]
  | cons converted rest ih =>
      rw [labelValues]
      cases value : converted.value with
      | address text =>
          have reached : AddressFrom filters index (converted :: rest) :=
            addressFrom_cons.2 (.inl ⟨⟨text, value⟩, inside⟩)
          simp [reached]
      | number number =>
          rw [addressFrom_cons_number value]
          cases found : filters[index]? with
          | none =>
              have last := List.getElem?_eq_none_iff.1 found
              constructor
              · rintro ⟨rows, labelled⟩
                cases labelled
              · rintro ⟨_, enough⟩
                rw [List.length_cons] at enough
                omega
          | some filter =>
              have next : index + 1 ≤ filters.length :=
                (List.getElem?_eq_some_iff.1 found).1
              have shift : index + (converted :: rest).length =
                  index + 1 + rest.length := by
                rw [List.length_cons]
                omega
              rw [shift, ← ih next]
              simp only [bind_eq_ok]
              constructor
              · rintro ⟨_, later, outcome, _⟩
                exact ⟨later, outcome⟩
              · rintro ⟨later, outcome⟩
                exact ⟨_, later, outcome, rfl⟩

/-- Every value makes a row. -/
theorem labelValues_length {filters : List Filter} {timestamp : ℤ} {mote : Text}
    {experiment : Experiment} {index : ℕ} {values : List Converted} {rows : List Data}
    (labelled : labelValues filters timestamp mote experiment index values = .ok rows) :
    rows.length = values.length := by
  induction values generalizing index rows with
  | nil =>
      rw [labelValues] at labelled
      cases labelled
      rfl
  | cons converted rest ih =>
      rw [labelValues] at labelled
      cases value : converted.value with
      | address text =>
          rw [value] at labelled
          cases labelled
      | number number =>
          cases found : filters[index]? with
          | none =>
              rw [value, found] at labelled
              cases labelled
          | some filter =>
              simp only [value, found, bind_eq_ok] at labelled
              obtain ⟨later, outcome, made⟩ := labelled
              cases made
              rw [List.length_cons, List.length_cons, ih outcome]

/-- One position at most is left out. -/
theorem keptPositions_ne_nil (filters : List Filter) {length : ℕ} (long : 1 < length) :
    keptPositions filters length ≠ [] := by
  intro none
  have left : ∀ position < length, skipped filters position = true := by
    intro position inside
    cases kept : skipped filters position with
    | true => rfl
    | false =>
        have member := mem_keptPositions.2 ⟨inside, kept⟩
        rw [none] at member
        cases member
  have first := left 0 (by omega)
  have second := left 1 long
  rw [skipped, Option.any_eq_true] at first second
  obtain ⟨filter, head, met⟩ := first
  obtain ⟨other, otherHead, otherMet⟩ := second
  rw [head] at otherHead
  cases otherHead
  simp only [decide_eq_true_eq] at met otherMet
  omega

/-- A data stream whose conversion creates nothing: it throws before a row is made, and
before the mote is added or with a known one. -/
def DataStops (store : Store) (stream : InputStream) : Prop :=
  let filters := store.filters.find stream.type.id
  let length := stream.data.length
  ConversionFails store stream ∨
    ∀ nodeId ∈ stream.data[nodeIdOffset]?, ¬ store.Accepts (moteAddress nodeId) ∨
      store.Knows nodeId ∧
        ((∀ experiment, store.getActiveExperiment ≠ .ok experiment) ∨
          AddressReached filters length ∨
            filters.length < (keptPositions filters length).length)

/-- The loop over the values makes no row. -/
theorem labelValues_nil_iff {filters : List Filter} {timestamp : ℤ} {mote : Text}
    {experiment : Experiment} {length : ℕ} {values : List Converted}
    (sorted : Sorted filters) (long : 1 < length)
    (converts : ValuesOf .doubleDefault filters length values) :
    (∀ rows, labelValues filters timestamp mote experiment 0 values = .ok rows →
        rows = []) ↔
      AddressReached filters length ∨
        filters.length < (keptPositions filters length).length := by
  have created : (∃ rows, labelValues filters timestamp mote experiment 0 values =
      .ok rows) ↔ _ := labelValues_ok_iff (Nat.zero_le filters.length)
  have address := addressFrom_iff sorted
    (by decide : Strategy.doubleDefault ≠ .moteAddr) converts
  have same : (keptPositions filters length).length = values.length := converts.length_eq
  rw [address, Nat.zero_add, ← same] at created
  constructor
  · intro none
    by_contra neither
    rw [not_or, not_lt] at neither
    obtain ⟨rows, labelled⟩ := created.2 neither
    have empty : rows.length = 0 := by rw [none rows labelled, List.length_nil]
    rw [labelValues_length labelled, ← same, List.length_eq_zero_iff] at empty
    exact keptPositions_ne_nil filters long empty
  · intro stops rows labelled
    have both := created.1 ⟨rows, labelled⟩
    cases stops with
    | inl reached => exact absurd reached both.1
    | inr few => exact absurd both.2 (not_le.2 few)

theorem convertData_nothing_iff (store : Store) (stream : InputStream) :
    ((∀ rows, (stream.convertData store .doubleDefault).2 = .ok rows → rows = []) ∧
        (stream.convertData store .doubleDefault).1.senders = store.senders) ↔
      DataStops store stream := by
  have sorted := store.filters.sorted_find stream.type.id
  rw [InputStream.convertData, DataStops]
  obtain ⟨fails, failure, outcome⟩ | ⟨runs, values, outcome, converts⟩ :=
    convertValues_cases store stream
  · simp [outcome, fails]
  · simp only [outcome, runs, false_or, InputStream.postConvertData]
    by_cases long : nodeIdOffset < stream.data.length
    · have many : 1 < stream.data.length := lt_trans (by decide) long
      rw [readInt_of_lt long]
      simp only [List.getElem?_eq_getElem long, Option.mem_some_iff, forall_eq', getMote]
      rcases mergeSender_cases store (moteAddress stream.data[nodeIdOffset]) with
        ⟨accepts, merged⟩ | ⟨refuses, merged⟩
      · simp only [merged, accepts, not_true_eq_false, false_or, senders_withSender]
        cases store.getActiveExperiment with
        | error failure => simp [bind, Except.bind]
        | ok experiment =>
            simp only [bind, Except.bind, labelValues_nil_iff sorted many converts]
            simp [and_comm]
      · simp [merged, refuses]
    · rw [readInt_of_le (not_lt.1 long)]
      simp [List.getElem?_eq_none (not_lt.1 long)]

/-! ## The samples of a geolocation stream -/

section Samples

variable {data : List ℤ} {src : Text} {timestamp : ℤ} {count index : ℕ}

/-- What a step of the loop can do: it is behind the line, its address is refused, its second
integer is behind the line, or it makes a row. -/
theorem readSamples_cases (data : List ℤ) (src : Text) (timestamp : ℤ) (count index : ℕ)
    (store : Store) :
    (data[index]? = none ∧
      readSamples data src timestamp (count + 1) index store =
        (store, .error .indexOutOfBounds)) ∨
    ∃ neighbor, data[index]? = some neighbor ∧
      ((¬ store.Accepts (moteAddress neighbor) ∧
        readSamples data src timestamp (count + 1) index store =
          (store, .error .duplicateMote)) ∨
      store.Accepts (moteAddress neighbor) ∧
        ((data.length = index + 1 ∧
          readSamples data src timestamp (count + 1) index store =
            (store.withSender (moteAddress neighbor), .error .indexOutOfBounds)) ∨
        ∃ rssi, data[index + 1]? = some rssi ∧
          readSamples data src timestamp (count + 1) index store =
            ((readSamples data src timestamp count (index + 2)
                (store.withSender (moteAddress neighbor))).1,
              (readSamples data src timestamp count (index + 2)
                (store.withSender (moteAddress neighbor))).2.map fun rows =>
                  ⟨src, moteAddress neighbor, rssi, timestamp⟩ :: rows))) := by
  rw [readSamples]
  by_cases inside : index < data.length
  · refine .inr ⟨data[index], List.getElem?_eq_getElem inside, ?_⟩
    rcases mergeSender_cases store (moteAddress data[index]) with
      ⟨accepts, merged⟩ | ⟨refuses, merged⟩
    · refine .inr ⟨accepts, ?_⟩
      by_cases next : index + 1 < data.length
      · refine .inr ⟨data[index + 1], List.getElem?_eq_getElem next, ?_⟩
        simp only [readInt_of_lt inside, readInt_of_lt next, getMote, merged]
      · refine .inl ⟨by omega, ?_⟩
        simp only [readInt_of_lt inside, readInt_of_le (not_lt.1 next), getMote, merged]
    · refine .inl ⟨refuses, ?_⟩
      simp only [readInt_of_lt inside, getMote, merged]
  · refine .inl ⟨List.getElem?_eq_none (not_lt.1 inside), ?_⟩
    simp only [readInt_of_le (not_lt.1 inside)]

theorem subset_withSender (store : Store) (address : Text) :
    store.senders ⊆ (store.withSender address).senders :=
  fun _ member => mem_withSender_iff.2 (.inl member)

/-- The loop over the samples keeps all senders. -/
theorem subset_readSamples (store : Store) :
    store.senders ⊆ (readSamples data src timestamp count index store).1.senders := by
  induction count generalizing index store with
  | zero => exact List.Subset.refl _
  | succ count ih =>
      obtain ⟨_, outcome⟩ |
        ⟨neighbor, _, ⟨_, outcome⟩ | ⟨_, ⟨_, outcome⟩ | ⟨rssi, _, outcome⟩⟩⟩ :=
          readSamples_cases data src timestamp count index store
      · rw [outcome]
        exact List.Subset.refl _
      · rw [outcome]
        exact List.Subset.refl _
      · rw [outcome]
        exact subset_withSender _ _
      · rw [outcome]
        exact List.Subset.trans (subset_withSender _ _) (ih _)

/-- The addresses that the loop looks up. -/
def Meets (data : List ℤ) (count index : ℕ) (neighbor : ℤ) : Prop :=
  ∃ step < count, data[index + 2 * step]? = some neighbor

theorem meets_succ {neighbor : ℤ} :
    Meets data (count + 1) index neighbor ↔
      data[index]? = some neighbor ∨ Meets data count (index + 2) neighbor := by
  simp only [Meets, Nat.exists_lt_succ_left, Nat.mul_zero, Nat.add_zero, Nat.mul_add,
    Nat.mul_one, Nat.add_assoc, Nat.add_comm 2]

theorem not_meets_beyond {neighbor : ℤ} (beyond : data.length ≤ index) :
    ¬ Meets data count index neighbor := by
  intro ⟨step, _, there⟩
  rw [List.getElem?_eq_none (by omega)] at there
  cases there

/-- The loop meets an address that is refused, behind known ones only. -/
def Refused (store : Store) (data : List ℤ) (count index : ℕ) : Prop :=
  ∃ step < count, (∃ neighbor ∈ data[index + 2 * step]?, ¬ store.Accepts (moteAddress neighbor)) ∧
    ∀ earlier < step, ∀ neighbor ∈ data[index + 2 * earlier]?, store.Knows neighbor

/-- The first address is refused, or it is known and a later one is. -/
theorem refused_succ {neighbor : ℤ} (found : data[index]? = some neighbor) :
    Refused store data (count + 1) index ↔
      ¬ store.Accepts (moteAddress neighbor) ∨
        store.Knows neighbor ∧ Refused store data count (index + 2) := by
  have shift : ∀ step, index + 2 * (step + 1) = index + 2 + 2 * step := by omega
  rw [Refused, Refused, Nat.exists_lt_succ_left]
  simp only [Nat.mul_zero, Nat.add_zero, found, Option.mem_some_iff, exists_eq_left',
    Nat.not_lt_zero, IsEmpty.forall_iff, implies_true, and_true, shift]
  refine or_congr_right ?_
  constructor
  · rintro ⟨step, below, refuses, known⟩
    refine ⟨?_, step, below, refuses, fun earlier before => ?_⟩
    · exact known 0 (Nat.succ_pos step) neighbor found
    · rw [← shift]
      exact known (earlier + 1) (Nat.succ_lt_succ before)
  · rintro ⟨knows, step, below, refuses, known⟩
    refine ⟨step, below, refuses, fun earlier before => ?_⟩
    cases earlier with
    | zero =>
        rintro _ first
        cases found.symm.trans first
        exact knows
    | succ earlier =>
        rw [shift]
        exact known earlier (Nat.lt_of_succ_lt_succ before)

/-- The loop ends normally unless it runs over the end of the line or meets an address that is
refused. -/
theorem readSamples_ok_iff (store : Store) :
    (∃ rows, (readSamples data src timestamp count index store).2 = .ok rows) ↔
      (count = 0 ∨ index + 2 * count ≤ data.length) ∧
        ∀ neighbor, Meets data count index neighbor → store.Accepts (moteAddress neighbor) := by
  induction count generalizing index store with
  | zero => simp [readSamples, Meets]
  | succ count ih =>
      obtain ⟨outside, outcome⟩ | ⟨neighbor, found,
        ⟨refuses, outcome⟩ | ⟨accepts, ⟨last, outcome⟩ | ⟨rssi, next, outcome⟩⟩⟩ :=
          readSamples_cases data src timestamp count index store
      · have inside := List.getElem?_eq_none_iff.1 outside
        have beyond : ¬ index + 2 * (count + 1) ≤ data.length := by omega
        simp [outcome, beyond]
      · have meets : Meets data (count + 1) index neighbor := meets_succ.2 (.inl found)
        rw [outcome]
        refine iff_of_false (fun ⟨rows, made⟩ => by cases made) fun both => ?_
        exact refuses (both.2 neighbor meets)
      · have beyond : ¬ index + 2 * (count + 1) ≤ data.length := by omega
        simp [outcome, beyond]
      · have ends : (∃ rows, (readSamples data src timestamp count (index + 2)
            (store.withSender (moteAddress neighbor))).2 = .ok rows) ↔ _ := ih _
        have inside := (List.getElem?_eq_some_iff.1 next).1
        have shift : (count = 0 ∨ index + 2 + 2 * count ≤ data.length) ↔
            count + 1 = 0 ∨ index + 2 * (count + 1) ≤ data.length := by omega
        simp only [accepts_withSender_iff accepts] at ends
        simp only [meets_succ, found, Option.some.injEq, or_imp, forall_and, forall_eq', accepts,
          true_and]
        rw [outcome, ← shift, ← ends]
        cases (readSamples data src timestamp count (index + 2)
            (store.withSender (moteAddress neighbor))).2 with
        | error failure => simp [Except.map]
        | ok rows => simp [Except.map]

theorem readSamples_length {store : Store} {rows : List GeolocationData}
    (made : (readSamples data src timestamp count index store).2 = .ok rows) :
    rows.length = count := by
  induction count generalizing index store rows with
  | zero =>
      cases made
      rfl
  | succ count ih =>
      obtain ⟨_, outcome⟩ |
        ⟨neighbor, _, ⟨_, outcome⟩ | ⟨_, ⟨_, outcome⟩ | ⟨rssi, _, outcome⟩⟩⟩ :=
          readSamples_cases data src timestamp count index store
      · rw [outcome] at made
        cases made
      · rw [outcome] at made
        cases made
      · rw [outcome] at made
        cases made
      · rw [outcome] at made
        cases later : (readSamples data src timestamp count (index + 2)
            (store.withSender (moteAddress neighbor))).2 with
        | error failure =>
            rw [later] at made
            cases made
        | ok rows =>
            rw [later] at made
            cases made
            rw [List.length_cons, ih later]

/-- The loop makes no row exactly when it asks for none, runs over the end or meets an address
that is refused. -/
theorem readSamples_nil_iff (store : Store) :
    (∀ rows, (readSamples data src timestamp count index store).2 = .ok rows →
        rows = []) ↔
      (count = 0 ∨ data.length < index + 2 * count) ∨
        ∃ neighbor, Meets data count index neighbor ∧ ¬ store.Accepts (moteAddress neighbor) := by
  have ends : (∃ rows, (readSamples data src timestamp count index store).2 = .ok rows) ↔
      _ := readSamples_ok_iff store
  constructor
  · intro none
    by_contra neither
    simp only [not_or, not_lt, not_exists, not_and, not_not] at neither
    obtain ⟨rows, made⟩ := ends.2 ⟨.inr neither.1.2, neither.2⟩
    have empty := readSamples_length made
    rw [none rows made, List.length_nil] at empty
    exact neither.1.1 empty.symm
  · intro stops rows made
    have size := readSamples_length made
    obtain ⟨inside, accepts⟩ := ends.1 ⟨rows, made⟩
    rcases stops with (zero | beyond) | ⟨neighbor, meets, refuses⟩
    · exact List.length_eq_zero_iff.1 (size.trans zero)
    · have zero : count = 0 := by omega
      exact List.length_eq_zero_iff.1 (size.trans zero)
    · exact absurd (accepts neighbor meets) refuses

/-- The loop adds no sender exactly when it meets known addresses only, up to one that is
refused. -/
theorem readSamples_senders (store : Store) :
    (readSamples data src timestamp count index store).1.senders = store.senders ↔
      Refused store data count index ∨
        ∀ neighbor, Meets data count index neighbor → store.Knows neighbor := by
  induction count generalizing index with
  | zero => simp [readSamples, Meets]
  | succ count ih =>
      obtain ⟨outside, outcome⟩ | ⟨neighbor, found,
        ⟨refuses, outcome⟩ | ⟨accepts, ⟨last, outcome⟩ | ⟨rssi, next, outcome⟩⟩⟩ :=
          readSamples_cases data src timestamp count index store
      · have end_ := List.getElem?_eq_none_iff.1 outside
        have further : data.length ≤ index + 2 := end_.trans (Nat.le_add_right _ _)
        simp [outcome, meets_succ, outside, not_meets_beyond further]
      · simp [outcome, refused_succ found, refuses]
      · have further : data.length ≤ index + 2 := by omega
        have none : ¬ Refused store data count (index + 2) := by
          rintro ⟨step, _, ⟨other, there, _⟩, _⟩
          rw [List.getElem?_eq_none (by omega)] at there
          cases there
        simp [outcome, refused_succ found, accepts, none, meets_succ, found,
          not_meets_beyond further, senders_withSender]
      · rw [outcome, refused_succ found]
        by_cases knows : store.Knows neighbor
        · simp [withSender_of_knows knows, ih, accepts, knows, meets_succ, found, or_imp,
            forall_and]
        · constructor
          · intro same
            have later : (store.withSender (moteAddress neighbor)).senders ⊆ store.senders := by
              rw [← same]
              exact subset_readSamples _
            exact absurd (later (mem_withSender_iff.2 (.inr rfl))) knows
          · rintro ((refuses | ⟨known, _⟩) | every)
            · exact absurd accepts refuses
            · exact absurd known knows
            · exact absurd (every neighbor (meets_succ.2 (.inl found))) knows

theorem exists_meets_of_refused {store : Store} (refused : Refused store data count index) :
    ∃ neighbor, Meets data count index neighbor ∧ ¬ store.Accepts (moteAddress neighbor) := by
  obtain ⟨step, below, ⟨neighbor, there, refuses⟩, _⟩ := refused
  exact ⟨neighbor, ⟨step, below, there⟩, refuses⟩

/-- The loop makes no row and adds no sender. -/
theorem readSamples_nothing_iff (store : Store) :
    ((∀ rows, (readSamples data src timestamp count index store).2 = .ok rows → rows = []) ∧
        (readSamples data src timestamp count index store).1.senders = store.senders) ↔
      Refused store data count index ∨
        (∀ neighbor, Meets data count index neighbor → store.Knows neighbor) ∧
          (count = 0 ∨ data.length < index + 2 * count) := by
  rw [readSamples_nil_iff, readSamples_senders]
  constructor
  · rintro ⟨stops, refused | every⟩
    · exact .inl refused
    · refine .inr ⟨every, stops.resolve_right ?_⟩
      rintro ⟨neighbor, meets, refuses⟩
      exact refuses (accepts_of_knows (every neighbor meets))
  · rintro (refused | ⟨every, stops⟩)
    · exact ⟨.inr (exists_meets_of_refused refused), .inl refused⟩
    · exact ⟨.inl stops, .inr every⟩

end Samples

/-- The number of samples that a count asks for, in the arithmetic of `int`. -/
def neighborCount (data : List ℤ) (nb : ℤ) : ℕ :=
  stepsOfTwo firstNeighborId (wrapSigned 32
    (min (wrapSigned 32 (nb * 2)) ((data.length : ℤ) - dataNbOffset) + firstNeighborId))

/-- A geolocation stream whose conversion creates nothing: all addresses that it looks up are
known, up to one that is refused if there is one, and else it reads no sample or runs over the
end of the line. -/
def GeolocStops (store : Store) (stream : InputStream) : Prop :=
  ConversionFails store stream ∨
    ∀ nodeId ∈ stream.data[geolocNodeIdOffset]?, ¬ store.Accepts (moteAddress nodeId) ∨
      store.Knows nodeId ∧
        ∀ nb ∈ stream.data[dataNbOffset]?,
          Refused store stream.data (neighborCount stream.data nb) firstNeighborId ∨
            (∀ neighbor, Meets stream.data (neighborCount stream.data nb) firstNeighborId
              neighbor → store.Knows neighbor) ∧
            (neighborCount stream.data nb = 0 ∨
              stream.data.length < firstNeighborId + 2 * neighborCount stream.data nb)

theorem convertGeoloc_nothing_iff (store : Store) (stream : InputStream) :
    ((∀ rows, (stream.convertGeoloc store .doubleDefault).2 = .ok rows → rows = []) ∧
        (stream.convertGeoloc store .doubleDefault).1.senders = store.senders) ↔
      GeolocStops store stream := by
  rw [InputStream.convertGeoloc, GeolocStops]
  obtain ⟨fails, failure, outcome⟩ | ⟨runs, values, outcome, _⟩ :=
    convertValues_cases store stream
  · simp [outcome, fails]
  · simp only [outcome, runs, false_or, InputStream.postConvertGeoloc]
    cases found : stream.data[geolocNodeIdOffset]? with
    | none => simp [readInt, found]
    | some nodeId =>
        simp only [readInt, found, getMote, Option.mem_some_iff, forall_eq']
        rcases mergeSender_cases store (moteAddress nodeId) with
          ⟨accepts, merged⟩ | ⟨refuses, merged⟩
        · simp only [merged, accepts, not_true_eq_false, false_or]
          by_cases knows : store.Knows nodeId
          · cases count : stream.data[dataNbOffset]? with
            | none => simp [withSender_of_knows knows, knows]
            | some nb =>
                simp only [withSender_of_knows knows, knows, Option.mem_some_iff, forall_eq',
                  true_and]
                exact readSamples_nothing_iff store
          · simp only [knows, false_and, iff_false, not_and]
            intro _ same
            have later : (store.withSender (moteAddress nodeId)).senders ⊆ store.senders := by
              rw [← same]
              split
              · exact List.Subset.refl _
              · exact subset_readSamples _
            exact knows (later (mem_withSender_iff.2 (.inr rfl)))
        · simp [merged, refuses]

/-! ## The motes that are looked up -/

theorem labelValues_mote {filters : List Filter} {timestamp : ℤ} {mote : Text}
    {experiment : Experiment} {index : ℕ} {values : List Converted} {rows : List Data}
    (labelled : labelValues filters timestamp mote experiment index values = .ok rows) :
    ∀ row ∈ rows, row.mote = mote := by
  induction values generalizing index rows with
  | nil =>
      cases labelled
      intro row member
      cases member
  | cons converted rest ih =>
      rw [labelValues] at labelled
      cases value : converted.value with
      | address text =>
          rw [value] at labelled
          cases labelled
      | number number =>
          cases found : filters[index]? with
          | none =>
              rw [value, found] at labelled
              cases labelled
          | some filter =>
              simp only [value, found, bind_eq_ok] at labelled
              obtain ⟨later, outcome, made⟩ := labelled
              cases made
              rw [List.forall_mem_cons]
              exact ⟨rfl, ih outcome⟩

/-- The conversion of data looks up the mote of its rows. -/
theorem convertData_senders {store : Store} {stream : InputStream} {rows : List Data}
    (made : (stream.convertData store .doubleDefault).2 = .ok rows) :
    ∀ row ∈ rows, (stream.convertData store .doubleDefault).1 =
      store.withSender row.mote := by
  revert made
  rw [InputStream.convertData]
  cases stream.convertValues store .doubleDefault with
  | error failure =>
      intro made
      cases made
  | ok values =>
      simp only [InputStream.postConvertData]
      cases readInt stream.data nodeIdOffset with
      | error failure =>
          intro made
          cases made
      | ok nodeId =>
          rcases mergeSender_cases store (moteAddress nodeId) with ⟨_, merged⟩ | ⟨_, merged⟩
          · simp only [getMote, merged, bind_eq_ok]
            rintro ⟨experiment, _, labelled⟩ row member
            rw [labelValues_mote labelled row member]
          · simp only [getMote, merged]
            intro made
            cases made

/-- The loop over the samples looks up the destinations of its rows in order. -/
theorem readSamples_rows {data : List ℤ} {src : Text} {timestamp : ℤ} {count index : ℕ}
    {store : Store} {rows : List GeolocationData}
    (made : (readSamples data src timestamp count index store).2 = .ok rows) :
    (∀ row ∈ rows, row.src = src) ∧
      (readSamples data src timestamp count index store).1 =
        (rows.map GeolocationData.dest).foldl Store.withSender store := by
  induction count generalizing index store rows with
  | zero =>
      cases made
      exact ⟨fun _ member => (List.not_mem_nil member).elim, rfl⟩
  | succ count ih =>
      obtain ⟨_, outcome⟩ |
        ⟨neighbor, _, ⟨_, outcome⟩ | ⟨_, ⟨_, outcome⟩ | ⟨rssi, _, outcome⟩⟩⟩ :=
          readSamples_cases data src timestamp count index store
      · rw [outcome] at made
        cases made
      · rw [outcome] at made
        cases made
      · rw [outcome] at made
        cases made
      · rw [outcome] at made ⊢
        cases later : (readSamples data src timestamp count (index + 2)
            (store.withSender (moteAddress neighbor))).2 with
        | error failure =>
            rw [later] at made
            cases made
        | ok others =>
            rw [later] at made
            cases made
            obtain ⟨sources, senders⟩ := ih later
            rw [List.forall_mem_cons]
            exact ⟨⟨rfl, sources⟩, senders⟩

/-- The conversion of samples looks up the source of its rows, then the
destinations. -/
theorem convertGeoloc_senders {store : Store} {stream : InputStream}
    {row : GeolocationData} {rows : List GeolocationData}
    (made : (stream.convertGeoloc store .doubleDefault).2 = .ok (row :: rows)) :
    (stream.convertGeoloc store .doubleDefault).1 =
      (row.src :: (row :: rows).map GeolocationData.dest).foldl Store.withSender
        store := by
  revert made
  rw [InputStream.convertGeoloc]
  cases stream.convertValues store .doubleDefault with
  | error failure =>
      intro made
      cases made
  | ok values =>
      simp only [InputStream.postConvertGeoloc]
      cases readInt stream.data geolocNodeIdOffset with
      | error failure =>
          intro made
          cases made
      | ok nodeId =>
          rcases mergeSender_cases store (moteAddress nodeId) with ⟨_, merged⟩ | ⟨_, merged⟩
          · simp only [getMote, merged]
            cases readInt stream.data dataNbOffset with
            | error failure =>
                intro made
                cases made
            | ok nb =>
                intro made
                obtain ⟨sources, senders⟩ := readSamples_rows made
                rw [List.forall_mem_cons] at sources
                rw [List.foldl_cons, sources.1]
                exact senders
          · simp only [getMote, merged]
            intro made
            cases made

end IotLab.Server
