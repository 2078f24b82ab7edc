import IotLab.Library.PlaneMeans
import IotLab.Localization.AnchorRecords

/-!
# The barycenter

`Barycenter.execute` asks whether one end of a record is an anchor and takes the end that
is not the mote.  For a mote that is no anchor the two fit together: what is taken is an
anchor, and the loop adds one term for each record of the mote with an anchor.
-/

namespace IotLab.Localization

open IotLab.Library

section Loop

variable {K : Type*} [Field K] [LinearOrder K]

/-- An anchor with the weight of a record. -/
structure AnchorTerm (K : Type*) where
  anchor : Mote K
  weight : K

/-- The position of the anchor of a term. -/
def AnchorTerm.position (term : AnchorTerm K) : Point K :=
  (term.anchor.lon, term.anchor.lat)

/-- One term for each record of the mote with an anchor, weighted by the inverse of the
estimated distance. -/
def anchorTerms (calibration : Calibration K) (anchors : List (Mote K)) (mote : ℤ)
    (data : List (GeolocationData K)) : List (AnchorTerm K) :=
  data.filterMap fun record => (anchorOf anchors mote record).map fun peer =>
    ⟨peer, 1 / calibration.estimateDistance record.rssi⟩

/-- The sums over a list of terms. -/
def sumTerms (terms : List (AnchorTerm K)) : Weighted K where
  sum := (terms.map AnchorTerm.weight).sum
  x := (terms.map fun term => term.position.1 * term.weight).sum
  y := (terms.map fun term => term.position.2 * term.weight).sum

variable {calibration : Calibration K} {anchors : List (Mote K)} {mote : ℤ}
variable {data : List (GeolocationData K)}

omit [LinearOrder K] in
/-- There is one term for each record with an anchor. -/
theorem forall₂_anchorTerms (noAnchor : isAnchor anchors mote = false) :
    List.Forall₂ (fun record term => SharesRecord anchors mote record term.anchor ∧
        term.weight = 1 / calibration.estimateDistance record.rssi)
      (data.filter fun record => HasAnchor anchors mote record)
      (anchorTerms calibration anchors mote data) := by
  induction data with
  | nil => exact .nil
  | cons record rest ih =>
      rw [anchorTerms, List.filterMap_cons]
      cases found : anchorOf anchors mote record with
      | none =>
          have without : ¬ HasAnchor anchors mote record := by
            rw [hasAnchor_iff]
            rintro ⟨anchor, shares⟩
            rw [(anchorOf_eq_some_iff noAnchor).2 shares] at found
            cases found
          rw [List.filter_cons_of_neg (by simpa using without)]
          exact ih
      | some anchor =>
          have shares := (anchorOf_eq_some_iff noAnchor).1 found
          have with_ : HasAnchor anchors mote record := hasAnchor_iff.2 ⟨anchor, shares⟩
          rw [List.filter_cons_of_pos (by simpa using with_)]
          exact .cons ⟨shares, rfl⟩ ih

omit [LinearOrder K] in
theorem exists_of_mem_anchorTerms (noAnchor : isAnchor anchors mote = false)
    {term : AnchorTerm K} (member : term ∈ anchorTerms calibration anchors mote data) :
    ∃ record ∈ data, SharesRecord anchors mote record term.anchor ∧
      term.weight = 1 / calibration.estimateDistance record.rssi := by
  rw [anchorTerms, List.mem_filterMap] at member
  obtain ⟨record, among, found⟩ := member
  obtain ⟨anchor, there, rfl⟩ := Option.map_eq_some_iff.1 found
  exact ⟨record, among, (anchorOf_eq_some_iff noAnchor).1 there, rfl⟩

omit [LinearOrder K] in
theorem sumTerms_perm {terms others : List (AnchorTerm K)} (same : terms.Perm others) :
    sumTerms terms = sumTerms others := by
  rw [sumTerms, sumTerms, (same.map _).sum_eq, (same.map _).sum_eq, (same.map _).sum_eq]

/-- The loop adds the terms of the records. -/
theorem foldl_barycenterStep (noAnchor : isAnchor anchors mote = false)
    (positive : ∀ record ∈ data, 0 < calibration.estimateDistance record.rssi)
    (start : Weighted K) :
    data.foldl (barycenterStep calibration anchors mote) start =
      let added := sumTerms (anchorTerms calibration anchors mote data)
      ⟨start.sum + added.sum, start.x + added.x, start.y + added.y⟩ := by
  induction data generalizing start with
  | nil => simp [anchorTerms, sumTerms]
  | cons record rest ih =>
      have later := ih fun other member => positive other (List.mem_cons_of_mem _ member)
      rw [List.foldl_cons, later, barycenterStep, peerOf_eq_anchorOf noAnchor]
      cases found : anchorOf anchors mote record with
      | none => simp [anchorTerms, found]
      | some peer =>
          have distance := positive record List.mem_cons_self
          simp only [if_pos distance, anchorTerms, List.filterMap_cons, found,
            Option.map_some, sumTerms, List.map_cons, List.sum_cons, add_assoc]
          rfl

theorem foldl_eq_sumTerms (noAnchor : isAnchor anchors mote = false)
    (positive : ∀ record ∈ data, 0 < calibration.estimateDistance record.rssi) :
    data.foldl (barycenterStep calibration anchors mote) ⟨0, 0, 0⟩ =
      sumTerms (anchorTerms calibration anchors mote data) := by
  rw [foldl_barycenterStep noAnchor positive]
  simp

end Loop

section Mean

variable {K : Type*} [Field K] [LinearOrder K] [IsStrictOrderedRing K]
variable {calibration : Calibration K} {anchors : List (Mote K)} {mote : ℤ}
variable {data : List (GeolocationData K)}

theorem anchorTerms_weight_pos (noAnchor : isAnchor anchors mote = false)
    (positive : ∀ record ∈ data, 0 < calibration.estimateDistance record.rssi)
    {term : AnchorTerm K} (member : term ∈ anchorTerms calibration anchors mote data) :
    0 < term.weight := by
  obtain ⟨record, among, _, weight⟩ := exists_of_mem_anchorTerms noAnchor member
  rw [weight]
  exact one_div_pos.2 (positive record among)

theorem sum_pos_iff {terms : List (AnchorTerm K)} (positive : ∀ term ∈ terms, 0 < term.weight) :
    0 < (sumTerms terms).sum ↔ terms ≠ [] := by
  constructor
  · rintro sum rfl
    exact lt_irrefl _ sum
  · intro some_
    apply List.sum_pos
    · exact List.forall_mem_map.2 positive
    · simpa using some_

/-- The anchors that share a record with the mote. -/
def sharedPositions (anchors : List (Mote K)) (mote : ℤ) (data : List (GeolocationData K)) :
    Set (Point K) :=
  {position | ∃ record ∈ data, ∃ anchor, SharesRecord anchors mote record anchor ∧
    position = (anchor.lon, anchor.lat)}

omit [LinearOrder K] [IsStrictOrderedRing K] in
theorem anchorTerms_eq_nil_iff (noAnchor : isAnchor anchors mote = false) :
    anchorTerms calibration anchors mote data = [] ↔
      ∀ record ∈ data, ¬ HasAnchor anchors mote record := by
  rw [← List.length_eq_zero_iff, ← (forall₂_anchorTerms noAnchor).length_eq,
    List.length_eq_zero_iff, List.filter_eq_nil_iff]
  simp

theorem barycenter_eq (noAnchor : isAnchor anchors mote = false)
    (positive : ∀ record ∈ data, 0 < calibration.estimateDistance record.rssi) :
    barycenter calibration anchors data mote =
      if anchorTerms calibration anchors mote data = [] then 0
      else weightedMean (anchorTerms calibration anchors mote data) AnchorTerm.position
        AnchorTerm.weight := by
  have sum := sum_pos_iff fun term => anchorTerms_weight_pos noAnchor positive
  rw [barycenter, foldl_eq_sumTerms noAnchor positive]
  by_cases none : anchorTerms calibration anchors mote data = []
  · rw [if_pos none, if_neg (mt sum.1 (not_not.2 none)), none]
    rfl
  · rw [if_neg none, if_pos (sum.2 none)]
    rfl

omit [IsStrictOrderedRing K] in
theorem barycenter_perm (noAnchor : isAnchor anchors mote = false)
    (positive : ∀ record ∈ data, 0 < calibration.estimateDistance record.rssi)
    {other : List (GeolocationData K)} (same : other.Perm data) :
    barycenter calibration anchors other mote = barycenter calibration anchors data mote := by
  have sums : sumTerms (anchorTerms calibration anchors mote other) =
      sumTerms (anchorTerms calibration anchors mote data) :=
    sumTerms_perm (same.filterMap _)
  rw [barycenter, barycenter, foldl_eq_sumTerms noAnchor positive, ← sums,
    foldl_eq_sumTerms noAnchor fun record member => positive record (same.subset member)]

/-- The position is the mean of the anchors that share a record with the mote. -/
theorem barycenter_mean (noAnchor : isAnchor anchors mote = false)
    (positive : ∀ record ∈ data, 0 < calibration.estimateDistance record.rssi) :
    let terms := anchorTerms calibration anchors mote data
    let loop := data.foldl (barycenterStep calibration anchors mote) ⟨0, 0, 0⟩
    let position := barycenter calibration anchors data mote
    List.Forall₂ (fun record term => SharesRecord anchors mote record term.anchor ∧
          term.weight = 1 / calibration.estimateDistance record.rssi)
        (data.filter fun record => HasAnchor anchors mote record) terms ∧
      (terms ≠ [] →
        position = weightedMean terms AnchorTerm.position AnchorTerm.weight ∧
          position ∈ convexHull K (sharedPositions anchors mote data)) ∧
      (∀ other, other.Perm data → barycenter calibration anchors other mote = position) ∧
      (¬ 0 < loop.sum ↔ ∀ record ∈ data, ¬ HasAnchor anchors mote record) ∧
      (¬ 0 < loop.sum → position = 0) := by
  intro terms loop position
  have weights : ∀ term ∈ terms, 0 < term.weight :=
    fun term => anchorTerms_weight_pos noAnchor positive
  have computed := barycenter_eq noAnchor positive
  have sum : 0 < loop.sum ↔ terms ≠ [] := by
    rw [show loop = sumTerms terms from foldl_eq_sumTerms noAnchor positive]
    exact sum_pos_iff weights
  refine ⟨forall₂_anchorTerms noAnchor, fun some_ => ?_, fun other same => ?_, ?_, ?_⟩
  · rw [if_neg some_] at computed
    refine ⟨computed, ?_⟩
    rw [show position = _ from computed]
    apply weightedMean_mem (convex_convexHull K _)
    · intro term member
      obtain ⟨record, among, shares, _⟩ := exists_of_mem_anchorTerms noAnchor member
      exact subset_convexHull K _ ⟨record, among, term.anchor, shares, rfl⟩
    · exact fun term member => (weights term member).le
    · exact (sum_pos_iff weights).2 some_
  · exact barycenter_perm noAnchor positive same
  · rw [sum, not_not]
    exact anchorTerms_eq_nil_iff noAnchor
  · intro none
    rw [sum, not_not] at none
    rw [if_pos none] at computed
    exact computed

/-- Two anchors at the distances 1 and 2 of a mote. -/
theorem barycenter_mean_twoAnchors :
    let left : Mote ℚ := ⟨1, ['a'], 0, 0⟩
    let right : Mote ℚ := ⟨2, ['b'], 0, 3⟩
    let mote : Mote ℚ := ⟨3, ['c'], 0, 0⟩
    let calibration : Calibration ℚ := ⟨fun rssi => -rssi, fun rssi _ => -rssi⟩
    barycenter calibration [left, right] [⟨left, mote, -1⟩, ⟨mote, right, -2⟩] 3 = (1, 0) := by
  intro left right mote calibration
  have mean := (@barycenter_mean ℚ _ _ _ calibration [left, right] 3
    [⟨left, mote, -1⟩, ⟨mote, right, -2⟩] rfl (by decide)).2.1
  rw [(mean (by decide)).1]
  decide +kernel

end Mean

end IotLab.Localization
