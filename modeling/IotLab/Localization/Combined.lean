import IotLab.Library.Mean
import IotLab.Localization.Manager

/-!
# Where the combined position lies

An algorithm without enough records leaves the origin, which is then combined like
a position.  So the combined position is the sum of the positions that there are,
divided by the number of the enabled algorithms.
-/

namespace IotLab.Localization

open IotLab.Library

/-! ## One algorithm -/

/-- The measure with the limiting distance is retained itself. -/
theorem retained_ne_nil {K : Type*} [LinearOrder K] {measures : List (Measure K)} :
    retained measures ≠ [] ↔ measures ≠ [] := by
  constructor
  · rintro some_ rfl
    exact some_ rfl
  · intro some_
    have positive : 0 < measures.length := List.length_pos_iff.2 some_
    have length : ((measures.map Measure.d).insertionSort (· ≤ ·)).length =
        measures.length := by simp
    have inside : (if 6 ≤ ((measures.map Measure.d).insertionSort (· ≤ ·)).length then
        ((measures.map Measure.d).insertionSort (· ≤ ·)).length / 2
      else ((measures.map Measure.d).insertionSort (· ≤ ·)).length) - 1 <
        ((measures.map Measure.d).insertionSort (· ≤ ·)).length := by
      rw [length]
      split
      · omega
      · omega
    rw [retained, List.getElem?_eq_getElem inside]
    have member := List.getElem_mem inside
    rw [List.mem_insertionSort] at member
    rcases List.mem_map.1 member with ⟨measure, there, limit⟩
    apply List.ne_nil_of_mem (a := measure)
    rw [List.mem_filter]
    exact ⟨there, by simp [limit]⟩

section Execute

variable {K : Type*} [Field K] [LinearOrder K] {manager : Manager K}
variable {data left : List (GeolocationData K)} {mote : ℤ} {position : Point K}

theorem barycenter_of_none
    (none : ∀ record ∈ data, peerOf manager.anchors mote record = none) :
    barycenter manager.calibration manager.anchors data mote = 0 := by
  have untouched : data.foldl (barycenterStep manager.calibration manager.anchors mote)
      ⟨0, 0, 0⟩ = ⟨0, 0, 0⟩ := by
    induction data with
    | nil => rfl
    | cons record rest ih =>
        rw [List.foldl_cons, barycenterStep, none record List.mem_cons_self]
        exact ih fun other member => none other (List.mem_cons_of_mem _ member)
  rw [barycenter, untouched]
  simp

theorem enough_multilateration :
    manager.Enough data mote .multilateration ↔
      ∃ record ∈ data,
        (measureOf manager.calibration manager.anchors mote record).isSome := by
  rw [Manager.Enough, retained_ne_nil, Ne, List.filterMap_eq_nil_iff]
  constructor
  · intro notAll
    by_contra none
    apply notAll
    intro record member
    cases found : measureOf manager.calibration manager.anchors mote record with
    | none => rfl
    | some measure => exact absurd ⟨record, member, by rw [found]; rfl⟩ none
  · rintro ⟨record, member, found⟩ all
    rw [all record member] at found
    cases found

/-- What an execution leaves is as good as what it was given, and without enough
records the position is the origin. -/
structure Executed (manager : Manager K) (data left : List (GeolocationData K))
    (mote : ℤ) (position : Point K) (algorithm : Algorithm) : Prop where
  keeps : ∀ other, manager.Enough left other algorithm ↔
    manager.Enough data other algorithm
  origin : ¬ manager.Enough data mote algorithm → position = 0

theorem executed_of_execute {algorithm : Algorithm}
    (executed : manager.execute data mote algorithm = .ok (position, left)) :
    Executed manager data left mote position algorithm := by
  cases algorithm with
  | trilateration =>
      rw [Manager.execute] at executed
      cases located : trilaterate manager.sqrt manager.fuel manager.calibration
          manager.anchors data mote with
      | error failure =>
          rw [located] at executed
          cases executed
      | ok result =>
          rw [located] at executed
          cases executed
          refine ⟨fun _ => Iff.rfl, ?_⟩
          intro few
          rw [trilaterate, if_pos (not_le.1 few)] at located
          cases located
          rfl
  | barycenter =>
      cases executed
      refine ⟨fun _ => Iff.rfl, ?_⟩
      intro none
      apply barycenter_of_none
      intro record member
      cases peer : peerOf manager.anchors mote record with
      | none => rfl
      | some other => exact absurd ⟨record, member, by rw [peer]; rfl⟩ none
  | multilateration =>
      rw [Manager.execute, multilaterate] at executed
      cases sorts : swapSort (fun record next => decide (record.rssi < next.rssi))
          manager.fuel data with
      | none =>
          rw [sorts] at executed
          cases executed
      | some sorted =>
          rw [sorts] at executed
          have permuted := swapSort_perm sorts
          have keeps : ∀ other, manager.Enough sorted other .multilateration ↔
              manager.Enough data other .multilateration := by
            intro other
            rw [enough_multilateration, enough_multilateration]
            simp only [permuted.mem_iff]
          cases executed
          refine ⟨keeps, ?_⟩
          intro none
          have empty : retained (left.filterMap
              (measureOf manager.calibration manager.anchors mote)) = [] :=
            not_not.1 fun some_ => none ((keeps mote).1 some_)
          rw [empty]
          rfl

end Execute

/-! ## One sender -/

section Sender

variable {K : Type*} [Field K] [LinearOrder K] {manager : Manager K}

/-- Two states of the records are as good as each other. -/
def AsGood (manager : Manager K) (records others : Records K) : Prop :=
  ∀ algorithm mote, manager.Enough (records algorithm) mote algorithm ↔
    manager.Enough (others algorithm) mote algorithm

theorem asGood_update {records : Records K} {left : List (GeolocationData K)}
    {algorithm : Algorithm} (keeps : ∀ mote, manager.Enough left mote algorithm ↔
      manager.Enough (records algorithm) mote algorithm) :
    AsGood manager (Function.update records algorithm left) records := by
  intro other mote
  by_cases same : other = algorithm
  · subst same
    rw [Function.update_self]
    exact keeps mote
  · rw [Function.update_of_ne same]

/-- The positions of algorithms without enough records, and the records that are left. -/
theorem executeAll_spec {mote : ℤ} {algorithms : List Algorithm} {records left : Records K}
    {estimates : List (Algorithm × Point K)}
    (executed : manager.executeAll mote algorithms records = .ok (estimates, left)) :
    AsGood manager left records ∧
      ∀ estimate ∈ estimates,
        ¬ manager.Enough (records estimate.1) mote estimate.1 → estimate.2 = 0 := by
  induction algorithms generalizing records estimates left with
  | nil =>
      cases executed
      exact ⟨fun _ _ => Iff.rfl, by simp⟩
  | cons algorithm rest ih =>
      rw [Manager.executeAll] at executed
      cases first : manager.execute (records algorithm) mote algorithm with
      | error failure =>
          rw [first] at executed
          cases executed
      | ok result =>
          rw [first] at executed
          cases later : manager.executeAll mote rest
              (Function.update records algorithm result.2) with
          | error failure =>
              simp only [bind, Except.bind, later] at executed
              cases executed
          | ok others =>
              simp only [bind, Except.bind, later] at executed
              cases executed
              have spec := executed_of_execute first
              rcases ih later with ⟨good, origin⟩
              have update := asGood_update spec.keeps
              refine ⟨?_, ?_⟩
              · intro other mote
                exact (good other mote).trans (update other mote)
              · intro estimate member none
                rcases List.mem_cons.1 member with rfl | member
                · exact spec.origin none
                · apply origin estimate member
                  exact fun enough => none ((update estimate.1 mote).1 enough)

/-- What is computed for a sender. -/
structure Located (manager : Manager K) (records : Records K) (location : Location K) :
    Prop where
  names : location.estimates.map Prod.fst = manager.enabledAlgorithms
  origin : ∀ estimate ∈ location.estimates,
    ¬ manager.Enough (records estimate.1) location.sender.id estimate.1 → estimate.2 = 0
  combined : ∀ position, location.combined = some position →
    0 < manager.enabledAlgorithms.length ∧
      position = combine (fun _ => (1 / (manager.enabledAlgorithms.length : K),
        1 / (manager.enabledAlgorithms.length : K))) location.estimates

theorem located_of_localize {records left : Records K} {sender : Mote K}
    {location : Location K}
    (computed : manager.localize records sender = .ok (location, left)) :
    Located manager records location ∧ AsGood manager left records := by
  rw [Manager.localize] at computed
  cases all : manager.executeAll sender.id manager.enabledAlgorithms records with
  | error failure =>
      simp only [bind, Except.bind, all] at computed
      cases computed
  | ok executed =>
      simp only [bind, Except.bind, all] at computed
      cases computed
      rcases executeAll_spec all with ⟨good, origin⟩
      refine ⟨⟨executeAll_names all, origin, ?_⟩, good⟩
      intro position combined
      by_cases some_ : 0 < manager.enabledAlgorithms.length
      · rw [if_pos some_] at combined
        cases combined
        exact ⟨some_, rfl⟩
      · rw [if_neg some_] at combined
        cases combined

theorem Located.of_asGood {records others : Records K} {location : Location K}
    (located : Located manager records location) (good : AsGood manager records others) :
    Located manager others location := by
  refine ⟨located.names, ?_, located.combined⟩
  intro estimate member none
  apply located.origin estimate member
  exact fun enough => none ((good estimate.1 location.sender.id).1 enough)

/-- Every sender is located as if it were the only one. -/
theorem located_of_localizeAll {senders : List (Mote K)} {records : Records K}
    {locations : List (Location K)}
    (computed : manager.localizeAll senders records = .ok locations) :
    ∀ location ∈ locations, Located manager records location := by
  induction senders generalizing records locations with
  | nil =>
      cases computed
      simp
  | cons sender rest ih =>
      rw [Manager.localizeAll] at computed
      cases first : manager.localize records sender with
      | error failure =>
          simp only [bind, Except.bind, first] at computed
          cases computed
      | ok located =>
          cases later : manager.localizeAll rest located.2 with
          | error failure =>
              simp only [bind, Except.bind, first, later] at computed
              cases computed
          | ok others =>
              simp only [bind, Except.bind, first, later] at computed
              cases computed
              rcases located_of_localize first with ⟨here, good⟩
              intro location member
              rcases List.mem_cons.1 member with rfl | member
              · exact here
              · exact (ih later location member).of_asGood good

end Sender

/-! ## The sum of the positions -/

section Sum

variable {K : Type*} [Field K]

/-- Equal coefficients multiply the sum of the positions. -/
theorem combine_eq_smul (c : K) (estimates : List (Algorithm × Point K)) :
    combine (fun _ => (c, c)) estimates = c • (estimates.map Prod.snd).sum := by
  have run : ∀ start : Point K, estimates.foldl (fun combined estimate =>
      (combined.1 + estimate.2.1 * c, combined.2 + estimate.2.2 * c)) start =
        start + c • (estimates.map Prod.snd).sum := by
    induction estimates with
    | nil => simp
    | cons estimate rest ih =>
        intro start
        rw [List.foldl_cons, ih, List.map_cons, List.sum_cons, smul_add, ← add_assoc]
        congr 1
        ext
        · simp [mul_comm]
        · simp [mul_comm]
  rw [combine, run, zero_add]

variable [LinearOrder K] {manager : Manager K} {records : Records K} {location : Location K}

/-- Algorithms without enough records add nothing. -/
theorem Located.sum_available (located : Located manager records location) :
    (location.estimates.map Prod.snd).sum = (manager.available records location).sum := by
  have part : ∀ estimates : List (Algorithm × Point K),
      (∀ estimate ∈ estimates, ¬ manager.Enough (records estimate.1) location.sender.id
        estimate.1 → estimate.2 = 0) →
      (estimates.map Prod.snd).sum = ((estimates.filter fun estimate =>
        manager.Enough (records estimate.1) location.sender.id estimate.1).map
          Prod.snd).sum := by
    intro estimates origin
    induction estimates with
    | nil => rfl
    | cons estimate rest ih =>
        have later := ih fun other member => origin other (List.mem_cons_of_mem _ member)
        rw [List.map_cons, List.sum_cons, later]
        by_cases enough : manager.Enough (records estimate.1) location.sender.id estimate.1
        · rw [List.filter_cons_of_pos (by simpa using enough), List.map_cons, List.sum_cons]
        · rw [List.filter_cons_of_neg (by simpa using enough),
            origin estimate List.mem_cons_self enough, zero_add]
  exact part location.estimates located.origin

theorem Located.length_available (located : Located manager records location) :
    (manager.available records location).length ≤ manager.enabledAlgorithms.length := by
  rw [Manager.available, List.length_map, ← located.names, List.length_map]
  exact List.length_filter_le _ _

end Sum

/-! ## The convex hull -/

section Hull

variable {K : Type*} [Field K] [LinearOrder K]

/-- As many positions as enabled algorithms; or a single one, at the origin; or two
that are apart. -/
def Fits (count : ℕ) (positions : List (Point K)) : Prop :=
  positions.length = count ∨ positions = [0] ∨
    ∃ first second, positions = [first, second] ∧ Apart K first second

variable [IsStrictOrderedRing K]

theorem sum_div_mem_convexHull_iff {count : ℕ} {positions : List (Point K)}
    (few : positions.length ≤ count) (three : count ≤ 3) (some_ : 0 < count) :
    ((1 : K) / count) • positions.sum ∈ convexHull K {point | point ∈ positions} ↔
      Fits count positions := by
  by_cases all : positions.length = count
  · have nonempty : positions ≠ [] := by
      rintro rfl
      exact some_.ne all
    have mean := mean_mem_convexHull (K := K) nonempty
    rw [all] at mean
    exact iff_of_true mean (.inl all)
  · match positions, few, all with
    | [], _, all =>
        refine iff_of_false (by simp) ?_
        rintro (same | single | ⟨first, second, pair, _⟩)
        · exact all same
        · cases single
        · cases pair
    | [point], few, all =>
        have alone : {other | other ∈ [point]} = {point} := by
          ext other
          simp
        have several : 2 ≤ count := by
          simp only [List.length_cons, List.length_nil] at few all
          omega
        rw [alone, List.sum_singleton, div_mem_convexHull_singleton several]
        constructor
        · rintro rfl
          exact .inr (.inl rfl)
        · rintro (same | single | ⟨first, second, pair, _⟩)
          · exact absurd same all
          · cases single
            rfl
          · cases pair
    | [first, second], few, all =>
        have both : {other | other ∈ [first, second]} = {first, second} := by
          ext other
          simp
        have three : count = 3 := by
          simp only [List.length_cons, List.length_nil] at few all
          omega
        have sum : [first, second].sum = first + second := by simp
        rw [both, sum, three, Nat.cast_ofNat, third_mem_convexHull_pair]
        constructor
        · intro apart
          exact .inr (.inr ⟨first, second, rfl, apart⟩)
        · rintro (same | single | ⟨left, right, pair, apart⟩)
          · exact absurd same (three ▸ all)
          · cases single
          · cases pair
            exact apart
    | _ :: _ :: _ :: _, few, all =>
        simp only [List.length_cons] at few all
        omega

end Hull

/-! ## One record of an anchor -/

/-- The anchor at (9, 9) has heard the mote. -/
noncomputable def cornerRecord : GeolocationData ℝ := ⟨farMote, nearMote, -20⟩

noncomputable def cornerManager (enabled : Algorithm → Bool) : Manager ℝ :=
  { sqrt := Real.sqrt
    calibration := globalVirtualCalibration (-1)
    optimize := fun _ => 0
    anchors := [farMote]
    enabled
    algoWeights := fun _ => (0.33, 0.33)
    fuel := 5 }

theorem length_buildCircles_corner :
    (buildCircles (globalVirtualCalibration (-1)) [farMote] 2 [cornerRecord]).length = 1 := by
  have incoming : Incoming [farMote] 2 cornerRecord :=
    ⟨rfl, by simp [cornerRecord, farMote], rfl⟩
  rw [buildCircles_cons incoming]
  rfl

theorem execute_trilateration_corner (enabled : Algorithm → Bool) :
    (cornerManager enabled).execute [cornerRecord] 2 .trilateration =
      .ok (0, [cornerRecord]) := by
  have few : (buildCircles (cornerManager enabled).calibration (cornerManager enabled).anchors 2
      [cornerRecord]).length < 3 := by
    change (buildCircles (globalVirtualCalibration (-1)) [farMote] 2
      [cornerRecord]).length < 3
    rw [length_buildCircles_corner]
    decide
  rw [Manager.execute, trilaterate, if_pos few]
  rfl

theorem execute_barycenter_corner (enabled : Algorithm → Bool) :
    (cornerManager enabled).execute [cornerRecord] 2 .barycenter =
      .ok ((9, 9), [cornerRecord]) := by
  have distance : (globalVirtualCalibration (-1)).estimateDistance cornerRecord.rssi =
      3 / 4 := estimateDistance_twenty
  have peer : peerOf [farMote] 2 cornerRecord = some farMote := rfl
  have position : barycenter (globalVirtualCalibration (-1)) [farMote] [cornerRecord] 2 =
      (9, 9) := by
    rw [barycenter, List.foldl_cons, List.foldl_nil, barycenterStep, peer]
    norm_num [distance, farMote]
  rw [Manager.execute]
  exact congrArg (fun point => Except.ok (point, [cornerRecord])) position

/-- The response for one sender that is no anchor. -/
theorem doLocalization_singleton {manager : Manager ℝ} {records left : Records ℝ}
    {sender : Mote ℝ} {estimates : List (Algorithm × Point ℝ)}
    (free : isAnchor manager.anchors sender.id = false)
    (some_ : 0 < manager.enabledAlgorithms.length)
    (executed : manager.executeAll sender.id manager.enabledAlgorithms records =
      .ok (estimates, left)) :
    manager.doLocalization [sender] records =
      .ok [{ sender
             estimates
             combined := some (combine (fun _ =>
               (1 / (manager.enabledAlgorithms.length : ℝ),
                 1 / (manager.enabledAlgorithms.length : ℝ))) estimates)
             custom := some (combine manager.algoWeights estimates) }] := by
  rw [Manager.doLocalization, List.filter_cons_of_pos (by simp [free]), List.filter_nil]
  simp only [Manager.localizeAll, Manager.localize, executed, bind, Except.bind,
    if_pos some_, Option.map_some]

/-- The barycenter and nothing else. -/
def barycenterOnly (algorithm : Algorithm) : Bool := algorithm = .barycenter

/-- The trilateration and the barycenter. -/
def twoAlgorithms (algorithm : Algorithm) : Bool := algorithm ≠ .multilateration

theorem executeAll_cons {manager : Manager ℝ} {mote : ℤ} {algorithm : Algorithm}
    {rest : List Algorithm} {records final : Records ℝ} {position : Point ℝ}
    {left : List (GeolocationData ℝ)} {estimates : List (Algorithm × Point ℝ)}
    (first : manager.execute (records algorithm) mote algorithm = .ok (position, left))
    (later : manager.executeAll mote rest (Function.update records algorithm left) =
      .ok (estimates, final)) :
    manager.executeAll mote (algorithm :: rest) records =
      .ok ((algorithm, position) :: estimates, final) := by
  simp only [Manager.executeAll, first, later, bind, Except.bind]

theorem executeAll_barycenterOnly :
    ∃ left, (cornerManager barycenterOnly).executeAll nearMote.id [.barycenter]
      (fun _ => [cornerRecord]) = .ok ([(.barycenter, (9, 9))], left) :=
  ⟨_, executeAll_cons (execute_barycenter_corner barycenterOnly) rfl⟩

theorem executeAll_twoAlgorithms :
    ∃ left, (cornerManager twoAlgorithms).executeAll nearMote.id
      [.trilateration, .barycenter] (fun _ => [cornerRecord]) =
        .ok ([(.trilateration, 0), (.barycenter, (9, 9))], left) :=
  ⟨_, executeAll_cons (execute_trilateration_corner twoAlgorithms)
    (executeAll_cons (execute_barycenter_corner twoAlgorithms) rfl)⟩

theorem enough_barycenter_corner (enabled : Algorithm → Bool) :
    (cornerManager enabled).Enough [cornerRecord] nearMote.id .barycenter :=
  ⟨cornerRecord, List.mem_cons_self, rfl⟩

theorem available_barycenterOnly {combined custom : Option (Point ℝ)} :
    (cornerManager barycenterOnly).available (fun _ => [cornerRecord])
      ⟨nearMote, [(.barycenter, (9, 9))], combined, custom⟩ = [(9, 9)] := by
  rw [Manager.available, List.filter_cons_of_pos]
  · rfl
  · exact decide_eq_true (enough_barycenter_corner barycenterOnly)

theorem available_twoAlgorithms {combined custom : Option (Point ℝ)} :
    (cornerManager twoAlgorithms).available (fun _ => [cornerRecord])
      ⟨nearMote, [(.trilateration, 0), (.barycenter, (9, 9))], combined, custom⟩ =
        [(9, 9)] := by
  rw [Manager.available, List.filter_cons_of_neg, List.filter_cons_of_pos]
  · rfl
  · exact decide_eq_true (enough_barycenter_corner twoAlgorithms)
  · have few : ¬ (cornerManager twoAlgorithms).Enough [cornerRecord] nearMote.id
        .trilateration := by
      change ¬ 3 ≤ (buildCircles (globalVirtualCalibration (-1)) [farMote] 2
        [cornerRecord]).length
      rw [length_buildCircles_corner]
      decide
    simpa using few

end IotLab.Localization
