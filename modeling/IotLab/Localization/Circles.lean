import IotLab.Localization.Calibration
import IotLab.Localization.Geometry
import IotLab.Localization.Motes

/-!
# The circles of the trilateration

The loop of `Trilateration.execute` over the records makes a circle of each record
from an anchor to the mote, and averages the radius of the circle of an anchor with
a record from the mote to this anchor, if the circle is there already.
-/

namespace IotLab.Localization

section Records

variable {K : Type*}

/-- A record from an anchor to the mote. -/
def Incoming (anchors : List (Mote K)) (mote : ℤ) (record : GeolocationData K) : Prop :=
  isAnchor anchors record.src.id = true ∧ record.src.id ≠ mote ∧ record.dest.id = mote

/-- A record from the mote to an anchor. -/
def Outgoing (anchors : List (Mote K)) (mote : ℤ) (record : GeolocationData K) : Prop :=
  isAnchor anchors record.dest.id = true ∧ record.src.id = mote ∧ record.dest.id ≠ mote

instance (anchors : List (Mote K)) (mote : ℤ) (record : GeolocationData K) :
    Decidable (Incoming anchors mote record) :=
  inferInstanceAs (Decidable (_ ∧ _ ∧ _))

instance (anchors : List (Mote K)) (mote : ℤ) (record : GeolocationData K) :
    Decidable (Outgoing anchors mote record) :=
  inferInstanceAs (Decidable (_ ∧ _ ∧ _))

theorem not_outgoing_of_incoming {anchors : List (Mote K)} {mote : ℤ}
    {record : GeolocationData K} (incoming : Incoming anchors mote record) :
    ¬ Outgoing anchors mote record :=
  fun outgoing => incoming.2.1 outgoing.2.1

/-- A record from an anchor to the mote and one from the mote to the same anchor. -/
def TwoWay (anchors : List (Mote K)) (mote : ℤ) (first second : GeolocationData K) :
    Prop :=
  Incoming anchors mote first ∧ Outgoing anchors mote second ∧
    second.dest.id = first.src.id

variable {anchors : List (Mote K)} {mote : ℤ} {latest : LatestData K}
variable {first second : GeolocationData K}

theorem LatestData.nodup (latest : LatestData K) : latest.data.Nodup :=
  latest.distinct.of_map

/-- Records to the anchor of an incoming record are the second half of a two-way
pair, and there is one at most. -/
theorem eq_of_outgoing (pair : TwoWay anchors mote first second)
    (firstMember : first ∈ latest.data) (secondMember : second ∈ latest.data)
    {other : GeolocationData K} (member : other ∈ latest.data)
    (outgoing : Outgoing anchors mote other) (same : other.dest.mac = first.src.mac) :
    other = second := by
  have dest := latest.sameMac _ (dest_mem_motesOf member) _ (src_mem_motesOf firstMember) same
  apply latest.eq_of_ids member secondMember
  · rw [outgoing.2.1, pair.2.1.2.1]
  · rw [dest, pair.2.2]

theorem mem_of_split {data before after : List (GeolocationData K)}
    {first : GeolocationData K} (split : data = before ++ first :: after) :
    first ∈ data := by
  rw [split]
  exact List.mem_append_right _ List.mem_cons_self

theorem mem_of_mem_after {data before after : List (GeolocationData K)}
    {first record : GeolocationData K} (split : data = before ++ first :: after)
    (later : record ∈ after) : record ∈ data := by
  rw [split]
  exact List.mem_append_right _ (List.mem_cons_of_mem _ later)

/-- Whether a record comes later is seen at the split at the earlier one. -/
theorem pair_sublist_iff {data before after : List (GeolocationData K)}
    {first second : GeolocationData K} (split : data = before ++ first :: after)
    (nodup : data.Nodup) : [first, second].Sublist data ↔ second ∈ after := by
  subst split
  induction before with
  | nil =>
      rw [List.nil_append, List.cons_sublist_cons', List.singleton_sublist]
      constructor
      · rintro (pair | ⟨_, member⟩)
        · have absent := (List.nodup_cons.1 nodup).1
          exact absurd (pair.subset List.mem_cons_self) absent
        · exact member
      · intro member
        exact .inr ⟨rfl, member⟩
  | cons record rest ih =>
      rw [List.cons_append] at nodup
      have parts := List.nodup_cons.1 nodup
      rw [List.cons_append, List.cons_sublist_cons', ← ih parts.2]
      constructor
      · rintro (pair | ⟨rfl, _⟩)
        · exact pair
        · exact absurd (List.mem_append_right _ List.mem_cons_self) parts.1
      · exact .inl

/-- No other record comes from the anchor of an incoming record. -/
theorem src_mac_ne_of_incoming {before after : List (GeolocationData K)}
    (split : latest.data = before ++ first :: after)
    (incoming : Incoming anchors mote first) :
    ∀ record ∈ before ++ after, Incoming anchors mote record →
      record.src.mac ≠ first.src.mac := by
  intro record member fromAnchor same
  have nodup := latest.nodup
  rw [split] at nodup
  have absent := (List.nodup_middle.1 nodup).notMem
  have firstMember := mem_of_split split
  have inside : record ∈ latest.data := by
    rcases List.mem_append.1 member with left | right
    · rw [split]
      exact List.mem_append_left _ left
    · exact mem_of_mem_after split right
  have src := latest.sameMac _ (src_mem_motesOf inside) _ (src_mem_motesOf firstMember) same
  have equal : record = first := by
    apply latest.eq_of_ids inside firstMember
    · rw [src]
    · rw [fromAnchor.2.2, incoming.2.2]
  exact absent (equal ▸ member)

end Records

section Loop

variable {K : Type*} [Field K] [LinearOrder K] (calibration : Calibration K)

/-- The circle of a record from an anchor. -/
def circleOf (record : GeolocationData K) : Circle K :=
  newCircle (record.src.lon, record.src.lat)
    (calibration.estimateDistance record.rssi) record.src.mac record.rssi

/-- The circle of an anchor with a record to the anchor. -/
def averaged (record : GeolocationData K) (circle : Circle K) : Circle K :=
  if circle.mote = record.dest.mac then
    { circle with
      radius := half (circle.radius + calibration.estimateDistance record.rssi)
      rssi := half (circle.rssi + record.rssi) }
  else circle

variable (anchors : List (Mote K)) (mote : ℤ)

/-- One step of the loop of `Trilateration.execute` that builds the circles. -/
def circleStep (circles : List (Circle K)) (record : GeolocationData K) :
    List (Circle K) :=
  if Incoming anchors mote record then circles ++ [circleOf calibration record]
  else if Outgoing anchors mote record then circles.map (averaged calibration record)
  else circles

/-- The circles after the loop. -/
def buildCircles (data : List (GeolocationData K)) : List (Circle K) :=
  data.foldl (circleStep calibration anchors mote) []

end Loop

/-! ## What a patch keeps -/

section Patch

variable {K : Type*} [Field K] {calibration : Calibration K} {anchors : List (Mote K)}
variable {mote : ℤ}

/-- What the records behind the record of a circle make of it. -/
def patched (calibration : Calibration K) (anchors : List (Mote K)) (mote : ℤ)
    (later : List (GeolocationData K)) (circle : Circle K) : Circle K :=
  later.foldl (fun circle record =>
    if Outgoing anchors mote record then averaged calibration record circle else circle)
    circle

/-- A patched circle keeps its mote and its centre. -/
theorem patched_keeps (later : List (GeolocationData K)) (circle : Circle K) :
    (patched calibration anchors mote later circle).mote = circle.mote ∧
      (patched calibration anchors mote later circle).center = circle.center := by
  induction later generalizing circle with
  | nil => exact ⟨rfl, rfl⟩
  | cons record rest ih =>
      have step : ∀ circle : Circle K, (averaged calibration record circle).mote = circle.mote ∧
          (averaged calibration record circle).center = circle.center := by
        intro circle
        rw [averaged]
        split
        · exact ⟨rfl, rfl⟩
        · exact ⟨rfl, rfl⟩
      rw [patched, List.foldl_cons]
      by_cases outgoing : Outgoing anchors mote record
      · rw [if_pos outgoing]
        have later := ih (averaged calibration record circle)
        exact ⟨later.1.trans (step circle).1, later.2.trans (step circle).2⟩
      · rw [if_neg outgoing]
        exact ih circle

theorem filter_map_patched (later : List (GeolocationData K)) (circles : List (Circle K))
    (mac : Text) :
    (circles.map (patched calibration anchors mote later)).filter
        (fun circle => circle.mote = mac) =
      (circles.filter fun circle => circle.mote = mac).map
        (patched calibration anchors mote later) := by
  rw [List.filter_map]
  congr 1
  apply List.filter_congr
  intro circle _
  rw [Function.comp_apply, (patched_keeps later circle).1]

end Patch

/-! ## The circles of a list of records -/

section Spec

variable {K : Type*} [Field K] [LinearOrder K] {calibration : Calibration K}
variable {anchors : List (Mote K)} {mote : ℤ}

/-- The loop patches the circles that are there and adds new ones. -/
theorem foldl_circleStep (data : List (GeolocationData K)) (circles : List (Circle K)) :
    data.foldl (circleStep calibration anchors mote) circles =
      circles.map (patched calibration anchors mote data) ++
        buildCircles calibration anchors mote data := by
  induction data generalizing circles with
  | nil =>
      have same : patched calibration anchors mote [] = id := rfl
      rw [same, List.map_id, buildCircles]
      simp
  | cons record rest ih =>
      have unfolded : buildCircles calibration anchors mote (record :: rest) =
          rest.foldl (circleStep calibration anchors mote)
            (circleStep calibration anchors mote [] record) := rfl
      rw [List.foldl_cons, ih, unfolded, ih (circleStep calibration anchors mote [] record),
        ← List.append_assoc]
      congr 1
      by_cases incoming : Incoming anchors mote record
      · have kept : ∀ circle, patched calibration anchors mote (record :: rest) circle =
            patched calibration anchors mote rest circle := by
          intro circle
          rw [patched, List.foldl_cons, if_neg (not_outgoing_of_incoming incoming)]
          rfl
        simp [circleStep, incoming, kept]
      · by_cases outgoing : Outgoing anchors mote record
        · have patch : ∀ circle, patched calibration anchors mote (record :: rest) circle =
              patched calibration anchors mote rest (averaged calibration record circle) := by
            intro circle
            rw [patched, List.foldl_cons, if_pos outgoing]
            rfl
          simp [circleStep, incoming, outgoing, patch]
        · have kept : ∀ circle, patched calibration anchors mote (record :: rest) circle =
              patched calibration anchors mote rest circle := by
            intro circle
            rw [patched, List.foldl_cons, if_neg outgoing]
            rfl
          simp [circleStep, incoming, outgoing, kept]

theorem buildCircles_append (before after : List (GeolocationData K)) :
    buildCircles calibration anchors mote (before ++ after) =
      (buildCircles calibration anchors mote before).map
          (patched calibration anchors mote after) ++
        buildCircles calibration anchors mote after := by
  rw [buildCircles, List.foldl_append, foldl_circleStep]
  rfl

theorem buildCircles_cons {record : GeolocationData K}
    (incoming : Incoming anchors mote record) (after : List (GeolocationData K)) :
    buildCircles calibration anchors mote (record :: after) =
      patched calibration anchors mote after (circleOf calibration record) ::
        buildCircles calibration anchors mote after := by
  have unfolded : buildCircles calibration anchors mote (record :: after) =
      after.foldl (circleStep calibration anchors mote)
        (circleStep calibration anchors mote [] record) := rfl
  rw [unfolded, foldl_circleStep, circleStep, if_pos incoming]
  rfl

theorem buildCircles_cons_of_not {record : GeolocationData K}
    (other : ¬ Incoming anchors mote record) (after : List (GeolocationData K)) :
    buildCircles calibration anchors mote (record :: after) =
      buildCircles calibration anchors mote after := by
  have first : circleStep calibration anchors mote [] record = [] := by
    rw [circleStep, if_neg other, List.map_nil, ite_self]
  rw [buildCircles, List.foldl_cons, first]
  rfl

/-- Every circle comes from a record of an anchor. -/
theorem mem_buildCircles {data : List (GeolocationData K)} {circle : Circle K} :
    circle ∈ buildCircles calibration anchors mote data ↔
      ∃ before record after, data = before ++ record :: after ∧
        Incoming anchors mote record ∧
        circle = patched calibration anchors mote after (circleOf calibration record) := by
  constructor
  · intro member
    induction data with
    | nil => cases member
    | cons record rest ih =>
        by_cases incoming : Incoming anchors mote record
        · rw [buildCircles_cons incoming] at member
          rcases List.mem_cons.1 member with rfl | member
          · exact ⟨[], record, rest, rfl, incoming, rfl⟩
          · rcases ih member with ⟨before, other, after, split, fromAnchor, same⟩
            exact ⟨record :: before, other, after, by rw [split, List.cons_append],
              fromAnchor, same⟩
        · rw [buildCircles_cons_of_not incoming] at member
          rcases ih member with ⟨before, other, after, split, fromAnchor, same⟩
          exact ⟨record :: before, other, after, by rw [split, List.cons_append],
            fromAnchor, same⟩
  · rintro ⟨before, record, after, rfl, incoming, rfl⟩
    rw [buildCircles_append, buildCircles_cons incoming]
    exact List.mem_append_right _ List.mem_cons_self

end Spec

/-! ## Anchors with records in both directions -/

section TwoWay

variable {K : Type*} [Field K] {calibration : Calibration K} {anchors : List (Mote K)}
variable {mote : ℤ}

theorem patched_of_none {later : List (GeolocationData K)} {circle : Circle K}
    (none : ∀ record ∈ later, Outgoing anchors mote record →
      record.dest.mac ≠ circle.mote) :
    patched calibration anchors mote later circle = circle := by
  induction later with
  | nil => rfl
  | cons record rest ih =>
      have step : (if Outgoing anchors mote record then averaged calibration record circle
          else circle) = circle := by
        by_cases outgoing : Outgoing anchors mote record
        · have other := none record List.mem_cons_self outgoing
          rw [if_pos outgoing, averaged, if_neg other.symm]
        · rw [if_neg outgoing]
      rw [patched, List.foldl_cons, step]
      exact ih fun record member => none record (List.mem_cons_of_mem _ member)

theorem patched_of_one {before after : List (GeolocationData K)}
    {record : GeolocationData K} {circle : Circle K}
    (outgoing : Outgoing anchors mote record) (same : circle.mote = record.dest.mac)
    (others : ∀ other ∈ before ++ after, Outgoing anchors mote other →
      other.dest.mac ≠ circle.mote) :
    patched calibration anchors mote (before ++ record :: after) circle =
      averaged calibration record circle := by
  have first : patched calibration anchors mote before circle = circle :=
    patched_of_none fun other member => others other (List.mem_append_left _ member)
  have last : patched calibration anchors mote after (averaged calibration record circle) =
      averaged calibration record circle := by
    apply patched_of_none
    intro other member toAnchor
    have kept : (averaged calibration record circle).mote = circle.mote := by
      rw [averaged, if_pos same]
    rw [kept]
    exact others other (List.mem_append_right _ member) toAnchor
  rw [patched] at first last
  rw [patched, List.foldl_append, first, List.foldl_cons, if_pos outgoing, last]

end TwoWay

section Latest

variable {K : Type*} [Field K] [LinearOrder K] {calibration : Calibration K}
variable {anchors : List (Mote K)} {mote : ℤ} {latest : LatestData K}
variable {first second : GeolocationData K} {before after : List (GeolocationData K)}

variable (calibration) in
/-- The radius of the circle of an anchor with records in both directions. -/
theorem radius_of_twoWay (split : latest.data = before ++ first :: after)
    (pair : TwoWay anchors mote first second) (member : second ∈ latest.data) :
    (patched calibration anchors mote after (circleOf calibration first)).radius =
      if [first, second].Sublist latest.data then
        half (max 0 (calibration.estimateDistance first.rssi) +
          calibration.estimateDistance second.rssi)
      else max 0 (calibration.estimateDistance first.rssi) := by
  have firstMember := mem_of_split split
  have unique : ∀ record ∈ after, Outgoing anchors mote record →
      record.dest.mac = first.src.mac → record = second := by
    intro record later outgoing same
    exact eq_of_outgoing pair firstMember member (mem_of_mem_after split later) outgoing
      same
  by_cases comesLater : second ∈ after
  · rw [if_pos ((pair_sublist_iff split latest.nodup).2 comesLater)]
    rcases List.append_of_mem comesLater with ⟨between, behind, parts⟩
    have once : second ∉ between ++ behind := by
      have nodup := latest.nodup
      rw [split, parts] at nodup
      have tail := (List.nodup_cons.1 (List.nodup_append.1 nodup).2.1).2
      exact (List.nodup_middle.1 tail).notMem
    have sameMac : (circleOf calibration first).mote = second.dest.mac := by
      have sameMote := latest.sameId _ (dest_mem_motesOf member) _
        (src_mem_motesOf firstMember) pair.2.2
      rw [sameMote]
      rfl
    rw [parts, patched_of_one pair.2.1 sameMac, averaged, if_pos sameMac]
    · rfl
    · intro other otherMember outgoing same
      have later : other ∈ after := by
        rw [parts]
        rcases List.mem_append.1 otherMember with left | right
        · exact List.mem_append_left _ left
        · exact List.mem_append_right _ (List.mem_cons_of_mem _ right)
      exact once (unique other later outgoing same ▸ otherMember)
  · rw [if_neg fun earlier => comesLater ((pair_sublist_iff split latest.nodup).1 earlier)]
    rw [patched_of_none]
    · rfl
    · intro record later outgoing same
      exact comesLater (unique record later outgoing same ▸ later)

variable (calibration) in
theorem filter_buildCircles_eq_nil {data : List (GeolocationData K)} {mac : Text}
    (others : ∀ record ∈ data, Incoming anchors mote record → record.src.mac ≠ mac) :
    (buildCircles calibration anchors mote data).filter
      (fun circle => circle.mote = mac) = [] := by
  apply List.filter_eq_nil_iff.2
  intro circle member
  rcases mem_buildCircles.1 member with ⟨left, record, right, parts, fromAnchor, rfl⟩
  have different := others record (mem_of_split parts) fromAnchor
  rw [(patched_keeps right _).1]
  exact fun same => different (of_decide_eq_true same)

/-- An anchor with a record to the mote has one circle. -/
theorem filter_buildCircles (split : latest.data = before ++ first :: after)
    (incoming : Incoming anchors mote first) :
    (buildCircles calibration anchors mote latest.data).filter
        (fun circle => circle.mote = first.src.mac) =
      [patched calibration anchors mote after (circleOf calibration first)] := by
  have others := src_mac_ne_of_incoming split incoming
  have left := filter_buildCircles_eq_nil calibration
    fun record member => others record (List.mem_append_left _ member)
  have right := filter_buildCircles_eq_nil calibration
    fun record member => others record (List.mem_append_right _ member)
  rw [split, buildCircles_append, buildCircles_cons incoming, List.filter_append,
    filter_map_patched, left, List.map_nil, List.nil_append, List.filter_cons_of_pos, right]
  rw [(patched_keeps after _).1]
  exact decide_eq_true rfl

theorem patched_of_oneWay (split : latest.data = before ++ first :: after)
    (incoming : Incoming anchors mote first)
    (alone : ∀ second ∈ latest.data, ¬ TwoWay anchors mote first second) :
    patched calibration anchors mote after (circleOf calibration first) =
      circleOf calibration first := by
  apply patched_of_none
  intro record later outgoing same
  have member := mem_of_mem_after split later
  have dest := latest.sameMac _ (dest_mem_motesOf member) _
    (src_mem_motesOf (mem_of_split split)) same
  exact alone record member ⟨incoming, outgoing, by rw [dest]⟩

end Latest

/-! ## The order of the records -/

section Shapes

variable {K : Type*}

/-- The mote, the centre and the radius of a circle. -/
def Circle.shape (circle : Circle K) : Text × Point K × K :=
  (circle.mote, circle.center, circle.radius)

/-- Two lists of circles hold the same motes, centres and radii. -/
def SameCircles (circles others : List (Circle K)) : Prop :=
  ∀ shape, shape ∈ circles.map Circle.shape ↔ shape ∈ others.map Circle.shape

theorem SameCircles.radius {circles others : List (Circle K)}
    (same : SameCircles circles others) (radius : K) :
    radius ∈ circles.map Circle.radius ↔ radius ∈ others.map Circle.radius := by
  have half : ∀ {left right : List (Circle K)}, SameCircles left right →
      radius ∈ left.map Circle.radius → radius ∈ right.map Circle.radius := by
    intro left right equal member
    rcases List.mem_map.1 member with ⟨circle, inside, rfl⟩
    rcases List.mem_map.1 ((equal _).1 (List.mem_map.2 ⟨circle, inside, rfl⟩)) with
      ⟨other, otherInside, shape⟩
    refine List.mem_map.2 ⟨other, otherInside, ?_⟩
    exact congrArg (fun shape : Text × Point K × K => shape.2.2) shape
  exact ⟨half same, half fun shape => (same shape).symm⟩

end Shapes

section Order

variable {K : Type*} [Field K] [LinearOrder K]

/-- Every anchor with records in both directions has one circle, around the anchor
and with the mean of the two estimated distances as its radius. -/
def MeanRadii (calibration : Calibration K) (anchors : List (Mote K)) (mote : ℤ)
    (data : List (GeolocationData K)) : Prop :=
  ∀ first ∈ data, ∀ second ∈ data, TwoWay anchors mote first second →
    ∃ circle, (buildCircles calibration anchors mote data).filter
        (fun circle => circle.mote = first.src.mac) = [circle] ∧
      circle.center = (first.src.lon, first.src.lat) ∧
      circle.radius = half (calibration.estimateDistance first.rssi +
        calibration.estimateDistance second.rssi)

/-- For every such anchor the record to the mote comes first and its estimated
distance is not negative, or it comes last and its distance alone is the mean. -/
def IncomingFirst (calibration : Calibration K) (anchors : List (Mote K)) (mote : ℤ)
    (data : List (GeolocationData K)) : Prop :=
  ∀ first ∈ data, ∀ second ∈ data, TwoWay anchors mote first second →
    if [first, second].Sublist data then 0 ≤ calibration.estimateDistance first.rssi
    else max 0 (calibration.estimateDistance first.rssi) =
      half (calibration.estimateDistance first.rssi +
        calibration.estimateDistance second.rssi)

variable [IsStrictOrderedRing K] {calibration : Calibration K} {anchors : List (Mote K)}
variable {mote : ℤ}

theorem half_max_add_iff {first second : K} :
    half (max 0 first + second) = half (first + second) ↔ 0 ≤ first := by
  rw [half, half, div_left_inj' two_ne_zero, add_left_inj, max_eq_right_iff]

theorem meanRadii_iff (latest : LatestData K) :
    MeanRadii calibration anchors mote latest.data ↔
      IncomingFirst calibration anchors mote latest.data := by
  apply forall₂_congr
  intro first firstMember
  apply forall₂_congr
  intro second secondMember
  apply forall_congr'
  intro pair
  rcases List.append_of_mem firstMember with ⟨before, after, split⟩
  have radius := radius_of_twoWay calibration split pair secondMember
  have center : (patched calibration anchors mote after (circleOf calibration first)).center =
      (circleOf calibration first).center := (patched_keeps after _).2
  rw [filter_buildCircles split pair.1]
  have exact_ : (∃ circle, [patched calibration anchors mote after
        (circleOf calibration first)] = [circle] ∧
      circle.center = (first.src.lon, first.src.lat) ∧
      circle.radius = half (calibration.estimateDistance first.rssi +
        calibration.estimateDistance second.rssi)) ↔
      (patched calibration anchors mote after (circleOf calibration first)).radius =
        half (calibration.estimateDistance first.rssi +
          calibration.estimateDistance second.rssi) := by
    constructor
    · rintro ⟨circle, same, _, mean⟩
      cases same
      exact mean
    · intro mean
      exact ⟨_, rfl, center, mean⟩
  rw [exact_, radius]
  split
  · exact half_max_add_iff
  · exact Iff.rfl

theorem radius_eq_mean {latest : LatestData K} {first second : GeolocationData K}
    {before after : List (GeolocationData K)}
    (ordered : IncomingFirst calibration anchors mote latest.data)
    (split : latest.data = before ++ first :: after)
    (pair : TwoWay anchors mote first second) (member : second ∈ latest.data) :
    (patched calibration anchors mote after (circleOf calibration first)).radius =
      half (calibration.estimateDistance first.rssi +
        calibration.estimateDistance second.rssi) := by
  have condition := ordered first (mem_of_split split) second member pair
  rw [radius_of_twoWay calibration split pair member]
  by_cases earlier : [first, second].Sublist latest.data
  · rw [if_pos earlier] at condition ⊢
    exact half_max_add_iff.2 condition
  · rw [if_neg earlier] at condition ⊢
    exact condition

theorem shape_mem_of_perm {latest other : LatestData K}
    (permuted : latest.data.Perm other.data)
    (ordered : IncomingFirst calibration anchors mote latest.data)
    (otherOrdered : IncomingFirst calibration anchors mote other.data)
    {shape : Text × Point K × K}
    (member : shape ∈ (buildCircles calibration anchors mote latest.data).map
      Circle.shape) :
    shape ∈ (buildCircles calibration anchors mote other.data).map Circle.shape := by
  rcases List.mem_map.1 member with ⟨circle, built, rfl⟩
  rcases mem_buildCircles.1 built with ⟨before, first, after, split, incoming, rfl⟩
  have firstMember : first ∈ other.data := permuted.subset (mem_of_split split)
  rcases List.append_of_mem firstMember with ⟨left, right, parts⟩
  have radius : (patched calibration anchors mote after (circleOf calibration first)).radius =
      (patched calibration anchors mote right (circleOf calibration first)).radius := by
    by_cases paired : ∃ second ∈ latest.data, TwoWay anchors mote first second
    · rcases paired with ⟨second, secondMember, pair⟩
      rw [radius_eq_mean ordered split pair secondMember,
        radius_eq_mean otherOrdered parts pair (permuted.subset secondMember)]
    · have alone : ∀ second ∈ latest.data, ¬ TwoWay anchors mote first second :=
        fun second inside pair => paired ⟨second, inside, pair⟩
      rw [patched_of_oneWay split incoming alone, patched_of_oneWay parts incoming]
      intro second inside
      exact alone second (permuted.symm.subset inside)
  refine List.mem_map.2 ⟨patched calibration anchors mote right (circleOf calibration first),
    mem_buildCircles.2 ⟨left, first, right, parts, incoming, rfl⟩, ?_⟩
  rw [Circle.shape, Circle.shape, radius, (patched_keeps right _).1, (patched_keeps right _).2,
    (patched_keeps after _).1, (patched_keeps after _).2]

/-- Two orders of the same records give the same circles, with mean radii for the
anchors with records in both directions, exactly if these records come in the right
order in both. -/
theorem circles_independent_iff {latest other : LatestData K}
    (permuted : latest.data.Perm other.data) :
    (SameCircles (buildCircles calibration anchors mote latest.data)
        (buildCircles calibration anchors mote other.data) ∧
      MeanRadii calibration anchors mote latest.data ∧
      MeanRadii calibration anchors mote other.data) ↔
    IncomingFirst calibration anchors mote latest.data ∧
      IncomingFirst calibration anchors mote other.data := by
  rw [meanRadii_iff, meanRadii_iff]
  constructor
  · rintro ⟨_, ordered, otherOrdered⟩
    exact ⟨ordered, otherOrdered⟩
  · rintro ⟨ordered, otherOrdered⟩
    refine ⟨?_, ordered, otherOrdered⟩
    intro shape
    constructor
    · exact shape_mem_of_perm permuted ordered otherOrdered
    · exact shape_mem_of_perm permuted.symm otherOrdered ordered

end Order

/-! ## Two records of one anchor -/

theorem estimateDistance_twenty :
    (globalVirtualCalibration (-1)).estimateDistance ((-20 : ℤ) : ℝ) = 3 / 4 := by
  have model : ((-20 : ℤ) : ℝ) = l0 + 10 * -1 * 0 := by
    rw [l0]
    norm_num
  rw [model, estimateDistance_model (by norm_num), Real.rpow_zero]
  norm_num

theorem estimateDistance_thirty :
    (globalVirtualCalibration (-1)).estimateDistance ((-30 : ℤ) : ℝ) = 15 / 2 := by
  have model : ((-30 : ℤ) : ℝ) = l0 + 10 * -1 * 1 := by
    rw [l0]
    norm_num
  rw [model, estimateDistance_model (by norm_num), Real.rpow_one]
  norm_num

noncomputable def nearAnchor : Mote ℝ := { id := 1, mac := "1.0".toList, lat := 0, lon := 0 }

noncomputable def nearMote : Mote ℝ := { id := 2, mac := "2.0".toList, lat := 0, lon := 1 }

noncomputable def farMote : Mote ℝ := { id := 3, mac := "3.0".toList, lat := 9, lon := 9 }

/-- The anchor has heard the mote. -/
noncomputable def heardByAnchor : GeolocationData ℝ := ⟨nearAnchor, nearMote, -20⟩

/-- The mote has heard the anchor. -/
noncomputable def heardByMote : GeolocationData ℝ := ⟨nearMote, nearAnchor, -30⟩

/-- Two other motes have heard each other. -/
noncomputable def heardElsewhere : GeolocationData ℝ := ⟨farMote, nearAnchor, -60⟩

noncomputable def heard : List (GeolocationData ℝ) :=
  [heardByAnchor, heardByMote, heardElsewhere]

/-- The three records in an order. -/
noncomputable def heardInOrder (data : List (GeolocationData ℝ))
    (permuted : data.Perm heard) : LatestData ℝ where
  data
  distinct := by
    apply (permuted.map _).nodup_iff.2
    simp [heard, heardByAnchor, heardByMote, heardElsewhere, nearAnchor, nearMote, farMote]
  sameId := by
    have same : ∀ mote ∈ motesOf heard, ∀ other ∈ motesOf heard,
        mote.id = other.id → mote = other := by
      simp [motesOf, heard, heardByAnchor, heardByMote, heardElsewhere, nearAnchor,
        nearMote, farMote]
    intro mote member other otherMember
    exact same mote ((permuted.flatMap_right _).subset member) other
      ((permuted.flatMap_right _).subset otherMember)
  sameMac := by
    have same : ∀ mote ∈ motesOf heard, ∀ other ∈ motesOf heard,
        mote.mac = other.mac → mote = other := by
      simp [motesOf, heard, heardByAnchor, heardByMote, heardElsewhere, nearAnchor,
        nearMote, farMote]
    intro mote member other otherMember
    exact same mote ((permuted.flatMap_right _).subset member) other
      ((permuted.flatMap_right _).subset otherMember)

theorem incoming_heardByAnchor : Incoming [nearAnchor] 2 heardByAnchor :=
  ⟨rfl, by simp [heardByAnchor, nearAnchor], rfl⟩

theorem outgoing_heardByMote : Outgoing [nearAnchor] 2 heardByMote :=
  ⟨rfl, rfl, by simp [heardByMote, nearAnchor]⟩

theorem eq_of_twoWay_heard {first second : GeolocationData ℝ} (firstMember : first ∈ heard)
    (secondMember : second ∈ heard) (pair : TwoWay [nearAnchor] 2 first second) :
    first = heardByAnchor ∧ second = heardByMote := by
  simp only [heard, List.mem_cons, List.not_mem_nil, or_false] at firstMember secondMember
  have incoming := pair.1
  have outgoing := pair.2.1
  constructor
  · rcases firstMember with rfl | rfl | rfl
    · rfl
    · exact absurd rfl incoming.2.1
    · exact absurd incoming.1 (by simp [isAnchor, heardElsewhere, nearAnchor, farMote])
  · rcases secondMember with rfl | rfl | rfl
    · exact absurd rfl outgoing.2.2
    · rfl
    · exact absurd outgoing.2.1 (by simp [heardElsewhere, farMote])

theorem incomingFirst_heard {data : List (GeolocationData ℝ)} (permuted : data.Perm heard)
    (order : [heardByAnchor, heardByMote].Sublist data) :
    IncomingFirst (globalVirtualCalibration (-1)) [nearAnchor] 2 data := by
  intro first firstMember second secondMember pair
  rcases eq_of_twoWay_heard (permuted.subset firstMember) (permuted.subset secondMember)
    pair with ⟨rfl, rfl⟩
  rw [if_pos order]
  exact (estimateDistance_pos _ _).le

noncomputable def anchorFirst : LatestData ℝ := heardInOrder heard (.refl _)

theorem perm_elsewhereFirst :
    ([heardElsewhere] ++ [heardByAnchor, heardByMote]).Perm heard :=
  List.perm_append_comm

/-- The third record has come to the front. -/
noncomputable def elsewhereFirst : LatestData ℝ := heardInOrder _ perm_elsewhereFirst

theorem circles_independent_elsewhereFirst :
    SameCircles
        (buildCircles (globalVirtualCalibration (-1)) [nearAnchor] 2 anchorFirst.data)
        (buildCircles (globalVirtualCalibration (-1)) [nearAnchor] 2 elsewhereFirst.data) ∧
      MeanRadii (globalVirtualCalibration (-1)) [nearAnchor] 2 anchorFirst.data ∧
      MeanRadii (globalVirtualCalibration (-1)) [nearAnchor] 2 elsewhereFirst.data := by
  have permuted : anchorFirst.data.Perm elsewhereFirst.data := perm_elsewhereFirst.symm
  apply (circles_independent_iff permuted).2
  constructor
  · apply incomingFirst_heard (.refl _)
    exact List.sublist_append_left [heardByAnchor, heardByMote] [heardElsewhere]
  · apply incomingFirst_heard perm_elsewhereFirst
    exact List.sublist_append_right [heardElsewhere] [heardByAnchor, heardByMote]

/-- The record of the mote has come to the front. -/
noncomputable def moteFirst : LatestData ℝ :=
  heardInOrder [heardByMote, heardByAnchor, heardElsewhere] (.swap _ _ _)

theorem not_incoming_heardByMote : ¬ Incoming [nearAnchor] 2 heardByMote :=
  fun incoming => incoming.2.1 rfl

theorem not_incoming_heardElsewhere : ¬ Incoming [nearAnchor] 2 heardElsewhere := by
  intro incoming
  have anchor := incoming.1
  simp [isAnchor, heardElsewhere, nearAnchor, farMote] at anchor

theorem not_outgoing_heardElsewhere : ¬ Outgoing [nearAnchor] 2 heardElsewhere := by
  intro outgoing
  have src := outgoing.2.1
  simp [heardElsewhere, farMote] at src

theorem radius_anchorFirst :
    (buildCircles (globalVirtualCalibration (-1)) [nearAnchor] 2 anchorFirst.data).map
      Circle.radius = [33 / 8] := by
  have twenty := estimateDistance_twenty
  have thirty := estimateDistance_thirty
  have mac : (circleOf (globalVirtualCalibration (-1)) heardByAnchor).mote =
    heardByMote.dest.mac := rfl
  change (buildCircles _ _ _ [heardByAnchor, heardByMote, heardElsewhere]).map _ = _
  rw [buildCircles_cons incoming_heardByAnchor,
    buildCircles_cons_of_not not_incoming_heardByMote,
    buildCircles_cons_of_not not_incoming_heardElsewhere]
  rw [patched, List.foldl_cons, if_pos outgoing_heardByMote, List.foldl_cons,
    if_neg not_outgoing_heardElsewhere, averaged, if_pos mac]
  change [half (max 0 ((globalVirtualCalibration (-1)).estimateDistance ((-20 : ℤ) : ℝ)) +
    (globalVirtualCalibration (-1)).estimateDistance ((-30 : ℤ) : ℝ))] = [33 / 8]
  rw [twenty, thirty, half]
  norm_num

theorem radius_moteFirst :
    (buildCircles (globalVirtualCalibration (-1)) [nearAnchor] 2 moteFirst.data).map
      Circle.radius = [3 / 4] := by
  have twenty := estimateDistance_twenty
  change (buildCircles _ _ _ [heardByMote, heardByAnchor, heardElsewhere]).map _ = _
  rw [buildCircles_cons_of_not not_incoming_heardByMote,
    buildCircles_cons incoming_heardByAnchor,
    buildCircles_cons_of_not not_incoming_heardElsewhere]
  rw [patched, List.foldl_cons, if_neg not_outgoing_heardElsewhere]
  change [max 0 ((globalVirtualCalibration (-1)).estimateDistance ((-20 : ℤ) : ℝ))] = [3 / 4]
  rw [twenty]
  norm_num

/-- The order of two records decides about the radius. -/
theorem circles_depend_on_order :
    anchorFirst.data.Perm moteFirst.data ∧
    ¬ SameCircles
      (buildCircles (globalVirtualCalibration (-1)) [nearAnchor] 2 anchorFirst.data)
      (buildCircles (globalVirtualCalibration (-1)) [nearAnchor] 2 moteFirst.data) ∧
    ¬ MeanRadii (globalVirtualCalibration (-1)) [nearAnchor] 2 moteFirst.data := by
  refine ⟨.swap _ _ _, ?_, ?_⟩
  · intro same
    have radius := same.radius (33 / 8)
    rw [radius_anchorFirst, radius_moteFirst] at radius
    norm_num at radius
  · intro means
    rcases means heardByAnchor (List.mem_cons_of_mem _ List.mem_cons_self) heardByMote
      List.mem_cons_self ⟨incoming_heardByAnchor, outgoing_heardByMote, rfl⟩ with
      ⟨circle, found, _, mean⟩
    have built : circle ∈ buildCircles (globalVirtualCalibration (-1)) [nearAnchor] 2
        moteFirst.data := by
      apply List.mem_of_mem_filter
      rw [found]
      exact List.mem_cons_self
    have radius := List.mem_map_of_mem (f := Circle.radius) built
    change circle.radius = half ((globalVirtualCalibration (-1)).estimateDistance
      ((-20 : ℤ) : ℝ) + (globalVirtualCalibration (-1)).estimateDistance ((-30 : ℤ) : ℝ)) at mean
    rw [radius_moteFirst, List.mem_singleton, mean, estimateDistance_twenty,
      estimateDistance_thirty, half] at radius
    norm_num at radius

end IotLab.Localization
