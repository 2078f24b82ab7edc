import IotLab.Localization.CalibrationTables

/-!
# The samples of a batch

A record between two anchors is stored with the measure of its pair.  The first record of
a pair without a measure only creates the measure.
-/

namespace IotLab.Localization

open IotLab.Library

section Anchors

variable {K : Type*} {anchors : List (Mote K)} {id : ℤ}

theorem lastAnchor_append (anchor : Mote K) :
    lastAnchor (anchors ++ [anchor]) id =
      if anchor.id = id then some anchor else lastAnchor anchors id := by
  simp [lastAnchor]

theorem isAnchor_append (anchor : Mote K) :
    isAnchor (anchors ++ [anchor]) id = (isAnchor anchors id || decide (anchor.id = id)) := by
  simp [isAnchor]

theorem id_lastAnchor {anchor : Mote K} (found : lastAnchor anchors id = some anchor) :
    anchor.id = id := by
  induction anchors using List.reverseRecOn with
  | nil => cases found
  | append_singleton anchors last ih =>
      rw [lastAnchor_append] at found
      by_cases same : last.id = id
      · rw [if_pos same, Option.some_inj] at found
        rw [← found, same]
      · rw [if_neg same] at found
        exact ih found

theorem isSome_lastAnchor : (lastAnchor anchors id).isSome = isAnchor anchors id := by
  induction anchors using List.reverseRecOn with
  | nil => rfl
  | append_singleton anchors last ih =>
      rw [lastAnchor_append, isAnchor_append]
      by_cases same : last.id = id
      · rw [if_pos same, decide_eq_true same, Bool.or_true]
        rfl
      · rw [if_neg same, decide_eq_false same, Bool.or_false, ih]

end Anchors

namespace CalibrationTables

section Rows

variable {K : Type*} {tables : CalibrationTables K} {first second : ℤ}

theorem mem_of_findMeasure {measure : CalibrationMeasure K}
    (found : tables.findMeasure first second = some measure) :
    measure ∈ tables.measures ∧ measure.first.id = first ∧ measure.second.id = second := by
  rw [findMeasure] at found
  exact ⟨List.mem_of_find?_eq_some found, by simpa using List.find?_some found⟩

theorem findMeasure_addMeasure {newFirst newSecond : Mote K} {wallNumber : ℤ}
    (other : ¬ (newFirst.id = first ∧ newSecond.id = second)) :
    (tables.addMeasure newFirst newSecond wallNumber).findMeasure first second =
      tables.findMeasure first second := by
  rw [addMeasure]
  split
  · rfl
  · rw [findMeasure, List.find?_append, List.find?_singleton, decide_eq_false other]
    exact Option.or_none

theorem data_addMeasure {newFirst newSecond : Mote K} {wallNumber : ℤ} :
    (tables.addMeasure newFirst newSecond wallNumber).data = tables.data := by
  rw [addMeasure]
  split <;> rfl

end Rows

end CalibrationTables

section Batch

variable {K : Type*} {anchors : List (Mote K)} {timestamp : ℤ}

/-- Source and destination are anchors. -/
def AnchorToAnchor (anchors : List (Mote K)) (record : GeolocationData K) : Prop :=
  isAnchor anchors record.src.id = true ∧ isAnchor anchors record.dest.id = true

instance (record : GeolocationData K) : Decidable (AnchorToAnchor anchors record) :=
  inferInstanceAs (Decidable (_ ∧ _))

variable [IntCast K] {tables : CalibrationTables K} {record : GeolocationData K}

/-- The sample of a record: its strength, and the measure of its ordered pair. -/
def IsSampleOf (measures : List (CalibrationMeasure K)) (timestamp : ℤ)
    (record : GeolocationData K) (row : CalibrationData K) : Prop :=
  row.rssi = record.rssi ∧ row.timestamp = timestamp ∧ row.measure ∈ measures ∧
    row.measure.first.id = record.src.id ∧ row.measure.second.id = record.dest.id

/-- What one step does. -/
theorem storeSample_cases (anchors : List (Mote K)) (timestamp : ℤ)
    (tables : CalibrationTables K) (record : GeolocationData K) :
    (¬ AnchorToAnchor anchors record ∧ storeSample anchors timestamp tables record = tables) ∨
    (∃ measure, AnchorToAnchor anchors record ∧
      tables.findMeasure record.src.id record.dest.id = some measure ∧
      storeSample anchors timestamp tables record =
        tables.addData measure record.rssi timestamp) ∨
    (∃ first second, AnchorToAnchor anchors record ∧
      tables.findMeasure record.src.id record.dest.id = none ∧
      first.id = record.src.id ∧ second.id = record.dest.id ∧
      storeSample anchors timestamp tables record = tables.addMeasure first second 0) := by
  rw [AnchorToAnchor, ← isSome_lastAnchor, ← isSome_lastAnchor, storeSample]
  cases src : lastAnchor anchors record.src.id with
  | none => exact .inl ⟨fun both => Bool.false_ne_true both.1, rfl⟩
  | some first =>
      cases dest : lastAnchor anchors record.dest.id with
      | none => exact .inl ⟨fun both => Bool.false_ne_true both.2, rfl⟩
      | some second =>
          have firstId := id_lastAnchor src
          have secondId := id_lastAnchor dest
          rw [← firstId, ← secondId]
          cases found : tables.findMeasure first.id second.id with
          | some measure => exact .inr (.inl ⟨measure, ⟨rfl, rfl⟩, rfl, by simp only [found]⟩)
          | none =>
              exact .inr (.inr ⟨first, second, ⟨rfl, rfl⟩, rfl, rfl, rfl, by simp only [found]⟩)

theorem storeSamples_cons (rest : List (GeolocationData K)) :
    storeSamples anchors timestamp tables (record :: rest) =
      storeSamples anchors timestamp (storeSample anchors timestamp tables record) rest :=
  rfl

/-- The rows that a batch adds are the samples of its records between anchors. -/
def StoresSamples (before after : CalibrationTables K) (anchors : List (Mote K))
    (values : List (GeolocationData K)) (timestamp : ℤ) : Prop :=
  ∃ added, after.data = before.data ++ added ∧
    List.Forall₂ (IsSampleOf after.measures timestamp)
      (values.filter fun record => AnchorToAnchor anchors record) added

/-! ## Batches of known pairs -/

/-- The pairs of the records between anchors have measures. -/
def KnownPairs (tables : CalibrationTables K) (anchors : List (Mote K))
    (values : List (GeolocationData K)) : Prop :=
  ∀ record ∈ values, AnchorToAnchor anchors record →
    (tables.findMeasure record.src.id record.dest.id).isSome = true

/-- With a measure for each pair, the measures stay and every sample is stored. -/
theorem storeSamples_known {values : List (GeolocationData K)}
    (known : KnownPairs tables anchors values) :
    (storeSamples anchors timestamp tables values).measures = tables.measures ∧
      StoresSamples tables (storeSamples anchors timestamp tables values) anchors values
        timestamp := by
  induction values generalizing tables with
  | nil => exact ⟨rfl, [], (List.append_nil _).symm, .nil⟩
  | cons record rest ih =>
      have here := known record List.mem_cons_self
      have later : KnownPairs tables anchors rest :=
        fun other member => known other (List.mem_cons_of_mem _ member)
      rw [storeSamples_cons]
      rcases storeSample_cases anchors timestamp tables record with
        ⟨noPair, same⟩ | ⟨measure, pair, found, added⟩ | ⟨_, _, pair, unknown, _⟩
      · obtain ⟨measures, rows, data, samples⟩ := ih later
        rw [same]
        refine ⟨measures, rows, data, ?_⟩
        rwa [List.filter_cons_of_neg (by simpa using noPair)]
      · have kept : KnownPairs (tables.addData measure record.rssi timestamp) anchors rest :=
          later
        obtain ⟨measures, rows, data, samples⟩ := ih kept
        obtain ⟨member, first, second⟩ := CalibrationTables.mem_of_findMeasure found
        rw [added]
        refine ⟨measures, ⟨tables.nextData, measure, record.rssi, timestamp⟩ :: rows, ?_, ?_⟩
        · rw [data]
          exact List.append_assoc _ _ _
        · rw [List.filter_cons_of_pos (by simpa using pair)]
          refine .cons ⟨rfl, rfl, ?_, first, second⟩ samples
          rw [measures]
          exact member
      · rw [unknown] at here
        exact absurd (here pair) Bool.false_ne_true

/-! ## Batches with a new pair -/

/-- The records between anchors of a batch. -/
def pairCount (anchors : List (Mote K)) (values : List (GeolocationData K)) : ℕ :=
  (values.filter fun record => AnchorToAnchor anchors record).length

omit [IntCast K] in
theorem pairCount_cons (rest : List (GeolocationData K)) :
    pairCount anchors (record :: rest) =
      (if AnchorToAnchor anchors record then 1 else 0) + pairCount anchors rest := by
  by_cases pair : AnchorToAnchor anchors record
  · rw [if_pos pair, pairCount, List.filter_cons_of_pos (by simpa using pair),
      List.length_cons, pairCount, Nat.add_comm]
  · rw [if_neg pair, pairCount, List.filter_cons_of_neg (by simpa using pair), pairCount,
      Nat.zero_add]

theorem length_storeSample_le :
    (storeSample anchors timestamp tables record).data.length ≤
      tables.data.length + if AnchorToAnchor anchors record then 1 else 0 := by
  rcases storeSample_cases anchors timestamp tables record with
    ⟨_, same⟩ | ⟨measure, pair, _, added⟩ | ⟨_, _, _, _, _, _, created⟩
  · rw [same]
    exact Nat.le_add_right _ _
  · rw [added, if_pos pair, CalibrationTables.addData, List.length_append]
    rfl
  · rw [created, CalibrationTables.data_addMeasure]
    exact Nat.le_add_right _ _

theorem length_storeSamples_le (values : List (GeolocationData K)) :
    (storeSamples anchors timestamp tables values).data.length ≤
      tables.data.length + pairCount anchors values := by
  induction values generalizing tables with
  | nil => exact Nat.le_refl _
  | cons record rest ih =>
      have step := @length_storeSample_le K anchors timestamp _ tables record
      have later := @ih (storeSample anchors timestamp tables record)
      rw [storeSamples_cons, pairCount_cons]
      omega

theorem findMeasure_storeSample {first second : ℤ}
    (other : ¬ (record.src.id = first ∧ record.dest.id = second)) :
    (storeSample anchors timestamp tables record).findMeasure first second =
      tables.findMeasure first second := by
  rcases storeSample_cases anchors timestamp tables record with
    ⟨_, same⟩ | ⟨_, _, _, added⟩ | ⟨newFirst, newSecond, _, _, src, dest, created⟩
  · rw [same]
  · rw [added]
    rfl
  · rw [created]
    apply CalibrationTables.findMeasure_addMeasure
    rwa [src, dest]

/-- The first record of a new pair is not stored. -/
theorem length_storeSamples_lt {values : List (GeolocationData K)}
    (unknown : ∃ record ∈ values, AnchorToAnchor anchors record ∧
      tables.findMeasure record.src.id record.dest.id = none) :
    (storeSamples anchors timestamp tables values).data.length <
      tables.data.length + pairCount anchors values := by
  induction values generalizing tables with
  | nil => obtain ⟨_, member, _⟩ := unknown; cases member
  | cons head rest ih =>
      obtain ⟨record, member, pair, missing⟩ := unknown
      rw [storeSamples_cons, pairCount_cons]
      by_cases same : head.src.id = record.src.id ∧ head.dest.id = record.dest.id
      · -- the head has the pair itself: its step creates the measure
        have headPair : AnchorToAnchor anchors head := by
          rwa [AnchorToAnchor, same.1, same.2]
        have created : (storeSample anchors timestamp tables head).data = tables.data := by
          rcases storeSample_cases anchors timestamp tables head with
            ⟨noPair, _⟩ | ⟨measure, _, found, _⟩ | ⟨_, _, _, _, _, _, created⟩
          · exact absurd headPair noPair
          · rw [same.1, same.2, missing] at found
            cases found
          · rw [created, CalibrationTables.data_addMeasure]
        have later := @length_storeSamples_le K anchors timestamp _
          (storeSample anchors timestamp tables head) rest
        rw [created] at later
        rw [if_pos headPair]
        omega
      · have among : record ∈ rest := by
          rcases List.mem_cons.1 member with rfl | among
          · exact absurd ⟨rfl, rfl⟩ same
          · exact among
        have still := (@findMeasure_storeSample K anchors timestamp _ tables head _ _ same).trans
          missing
        have later := ih ⟨record, among, pair, still⟩
        have step := @length_storeSample_le K anchors timestamp _ tables head
        omega

theorem storeSamples_iff {values : List (GeolocationData K)} :
    StoresSamples tables (storeSamples anchors timestamp tables values) anchors values
      timestamp ↔ KnownPairs tables anchors values := by
  constructor
  · rintro ⟨added, data, samples⟩ record member pair
    by_contra missing
    have fewer := @length_storeSamples_lt K anchors timestamp _ tables values
      ⟨record, member, pair, by simpa using missing⟩
    rw [data, List.length_append, ← samples.length_eq] at fewer
    exact absurd fewer (lt_irrefl _)
  · exact fun known => (storeSamples_known known).2

end Batch

/-! ## The result -/

section Result

variable {regression : Regression} {numbers : TinyintAsc} {alpha : ℝ}
  {tables : CalibrationTables ℝ} {anchors : List (Mote ℝ)}
  {values : List (GeolocationData ℝ)} {timestamp : ℤ}

theorem fst_doCalibration :
    (doCalibration regression numbers alpha tables anchors values timestamp).1 =
      storeSamples anchors timestamp tables values := by
  cases anchors with
  | nil =>
      induction values with
      | nil => rfl
      | cons _ _ ih => exact ih
  | cons anchor rest => rfl

/-- `doCalibration` stores the samples of the records between anchors exactly if each of
their pairs has a measure before the batch. -/
theorem doCalibration_storesSamples_iff :
    StoresSamples tables
        (doCalibration regression numbers alpha tables anchors values timestamp).1
        anchors values timestamp ↔
      ∀ record ∈ values, AnchorToAnchor anchors record →
        (tables.findMeasure record.src.id record.dest.id).isSome = true := by
  rw [fst_doCalibration]
  exact storeSamples_iff

end Result

/-- The first record of a pair is dropped. -/
theorem not_doCalibration_storesSamples :
    let first : Mote ℝ := ⟨1, ['a'], 0, 0⟩
    let second : Mote ℝ := ⟨2, ['b'], 0, 1⟩
    let record : GeolocationData ℝ := ⟨first, second, -40⟩
    let after := (doCalibration (fun _ _ => none) ⟨[1, 2, 3, 4, 5], by decide⟩ 3 {}
      [first, second] [record] 0).1
    after.data = [] ∧ ¬ StoresSamples {} after [first, second] [record] 0 := by
  intro first second record after
  have nothing : after.data = [] := rfl
  refine ⟨nothing, ?_⟩
  rintro ⟨added, data, samples⟩
  rw [nothing] at data
  have none : added = [] := (List.append_eq_nil_iff.1 data.symm).2
  subst none
  have length := samples.length_eq
  cases length

end IotLab.Localization
