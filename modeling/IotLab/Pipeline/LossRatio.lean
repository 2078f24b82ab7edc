import IotLab.Firmware.Sink
import IotLab.Server.LossRatio
import Mathlib.Algebra.BigOperators.Ring.Finset
import Mathlib.Algebra.Order.Field.Rat
import Mathlib.Tactic.FieldSimp
import Mathlib.Tactic.Ring

/-!
# Loss ratios of received emissions

A mote numbers its emissions with a byte that wraps from 255 to 128.  Modulo 128 this
is the number of the emission, so as long as no 127 emissions in a row are lost the
server reconstructs how many have been sent.
-/

namespace IotLab.Pipeline

open IotLab.Library IotLab.Server
open IotLab.Firmware hiding Text

/-- The row of an emission that has been received. -/
structure Reception where
  nodeId : ℤ
  emission : ℕ
  row : Data
  emitted : 0 < emission
  mote : row.mote = moteAddress nodeId
  value : row.value = ((seqnoOf emission).val : ℚ)

/-- The received emissions of a mote, in order. -/
def emissionsOf (received : List Reception) (mac : Text) : List ℕ :=
  (received.filter fun reception => reception.row.mote = mac).map Reception.emission

/-- A fraction as a `double`; `none` is `NaN`. -/
def fractionOf (part whole : ℕ) : Option ℚ :=
  if whole = 0 then none else some ((part : ℚ) / whole)

/-! ## The tally of a mote -/

/-- The cast of a sequence number, modulo 128. -/
theorem castInt_seqnoOf (emission : ℕ) :
    (castInt ((seqnoOf emission).val : ℚ)).tmod 128 = ((emission % 128 : ℕ) : ℤ) := by
  have cast : castInt ((seqnoOf emission).val : ℚ) = ((seqnoOf emission).val : ℤ) := by
    simp [castInt]
  rw [cast, Int.tmod_eq_emod_of_nonneg (Int.natCast_nonneg _), ← seqnoOf_mod]
  rfl

theorem valuesOf_received (received : List Reception) (mac : Text) :
    valuesOf (received.map Reception.row) mac =
      (emissionsOf received mac).map fun emission => ((seqnoOf emission).val : ℚ) := by
  rw [valuesOf, emissionsOf, List.filter_map, List.map_map, List.map_map]
  apply List.map_congr_left
  intro reception _
  exact reception.value

/-- The tally of the emissions behind one that has been counted. -/
theorem foldl_add_near (emission : ℕ) (rest : List ℕ) (near : Near 128 (emission :: rest))
    (received theory : ℤ) :
    (rest.map fun later => ((seqnoOf later).val : ℚ)).foldl Tally.add
        ⟨received, theory, ((emission % 128 : ℕ) : ℤ)⟩ =
      ⟨received + rest.length,
        theory + ((emission :: rest).getLast (List.cons_ne_nil _ _) - emission),
        (((emission :: rest).getLast (List.cons_ne_nil _ _) % 128 : ℕ) : ℤ)⟩ := by
  induction rest generalizing emission received theory with
  | nil => simp
  | cons next rest ih =>
      obtain ⟨⟨increasing, close⟩, later⟩ := List.isChain_cons_cons.1 near
      have step : (Tally.mk received theory ((emission % 128 : ℕ) : ℤ)).add
          ((seqnoOf next).val : ℚ) =
            ⟨received + 1, theory + ((next : ℤ) - emission), ((next % 128 : ℕ) : ℤ)⟩ := by
        rw [Tally.add, castInt_seqnoOf, if_pos (Int.natCast_nonneg _)]
        congr 2
        exact @serialDistance_mod 128 _ _ increasing close
      rw [List.map_cons, List.foldl_cons, step, ih next later]
      rw [List.getLast_cons (List.cons_ne_nil next rest), List.length_cons]
      congr 1
      · push_cast
        ring
      · ring

/-- The tally of near emissions: all of them, and the length of their span. -/
theorem tallyOf_near {received : List Reception} {mac : Text}
    (near : Near 128 (emissionsOf received mac)) (some_ : emissionsOf received mac ≠ []) :
    (tallyOf (received.map Reception.row) mac).received =
        (emissionsOf received mac).length ∧
      (tallyOf (received.map Reception.row) mac).theory + 1 =
        (span (emissionsOf received mac)).card := by
  rw [tallyOf, valuesOf_received]
  cases split : emissionsOf received mac with
  | nil => exact absurd split some_
  | cons first rest =>
      rw [split] at near
      have start : Tally.start.add ((seqnoOf first).val : ℚ) =
          ⟨1, 0, ((first % 128 : ℕ) : ℤ)⟩ := by
        rw [Tally.add, castInt_seqnoOf]
        rfl
      rw [List.map_cons, List.foldl_cons, start, foldl_add_near first rest near,
        card_span_cons first rest near]
      constructor
      · rw [List.length_cons]
        push_cast
        ring
      · ring

/-! ## The ratios -/

theorem lossOf_eq_fractionOf {received lost all : ℕ} (parts : received + lost = all) :
    lossOf received all = fractionOf lost all := by
  rw [lossOf, fractionOf]
  by_cases none : all = 0
  · simp [none]
  · have nonzero : (all : ℚ) ≠ 0 := Nat.cast_ne_zero.2 none
    rw [if_neg (Int.natCast_ne_zero.2 none), if_neg none, Option.some.injEq]
    have sum : (received : ℚ) + lost = all := by exact_mod_cast parts
    rw [Int.cast_natCast, Int.cast_natCast]
    rw [← sum] at nonzero ⊢
    field_simp
    ring

/-- The received emissions of every mote are in order, and two consecutive ones are at
most 127 emissions apart. -/
def ReceivedInOrder (received : List Reception) : Prop :=
  ∀ mac ∈ motesOf (received.map Reception.row), Near 128 (emissionsOf received mac)

instance (received : List Reception) : Decidable (ReceivedInOrder received) :=
  inferInstanceAs (Decidable (∀ mac ∈ motesOf _, Near 128 _))

theorem emissionsOf_ne_nil {received : List Reception} {mac : Text}
    (member : mac ∈ motesOf (received.map Reception.row)) :
    emissionsOf received mac ≠ [] := by
  rw [motesOf, List.mem_toFinset, List.map_map, List.mem_map] at member
  obtain ⟨reception, among, same⟩ := member
  apply List.ne_nil_of_mem (a := reception.emission)
  exact List.mem_map_of_mem (List.mem_filter.2 ⟨among, decide_eq_true same⟩)

theorem moteAddress_ne_all (nodeId : ℤ) : moteAddress nodeId ≠ "all".toList := by
  intro same
  have point : '.' ∈ moteAddress nodeId :=
    List.mem_append_right _ List.mem_cons_self
  rw [same] at point
  exact absurd point (by decide)

/-- With in-order reception the counter of a mote is the number of emissions from its
first to its last received one, and the loss ratios are the fractions that are
missing. -/
theorem getLossRatio_inOrder (received : List Reception) (inOrder : ReceivedInOrder received) :
    let data := received.map Reception.row
    ∃ counters ratios, countRows data = .ok counters ∧ getLossRatio data = .ok ratios ∧
      (∀ mac ∈ motesOf data,
        counters.theoryOf mac = some (((span (emissionsOf received mac)).card : ℤ) - 1) ∧
        ratios.lookup mac = some (fractionOf (missing (emissionsOf received mac)).card
          (span (emissionsOf received mac)).card)) ∧
      ratios.lookup "all".toList =
        some (fractionOf (∑ mac ∈ motesOf data, (missing (emissionsOf received mac)).card)
          (∑ mac ∈ motesOf data, (span (emissionsOf received mac)).card)) := by
  intro data
  have tallies : ∀ mac ∈ motesOf data,
      (tallyOf data mac).received = (emissionsOf received mac).length ∧
        (tallyOf data mac).theory + 1 = (span (emissionsOf received mac)).card :=
    fun mac member => tallyOf_near (inOrder mac member) (emissionsOf_ne_nil member)
  have parts : ∀ mac ∈ motesOf data, (emissionsOf received mac).length +
      (missing (emissionsOf received mac)).card = (span (emissionsOf received mac)).card :=
    fun mac member => (inOrder mac member).length_add_missing
  obtain ⟨counters, macs, counted, represents, motes⟩ := represents_countRows data
  obtain ⟨ratios, computed, single, all⟩ := getLossRatio_eq data
  refine ⟨counters, ratios, counted, computed, ?_, ?_⟩
  · intro mac member
    obtain ⟨received_, theory⟩ := tallies mac member
    constructor
    · rw [counters.theoryOf_of_represents represents]
      · rw [← theory, add_sub_cancel_right]
      · exact (motes mac).2 (List.mem_toFinset.1 member)
    · have different : mac ≠ "all".toList := by
        obtain ⟨row, among, same⟩ := List.mem_map.1 (List.mem_toFinset.1 member)
        obtain ⟨reception, _, rfl⟩ := List.mem_map.1 among
        rw [← same, reception.mote]
        exact moteAddress_ne_all reception.nodeId
      rw [single mac member different, received_, theory,
        lossOf_eq_fractionOf (parts mac member)]
  · have receivedSum : ∑ mac ∈ motesOf data, (tallyOf data mac).received =
        ((∑ mac ∈ motesOf data, (emissionsOf received mac).length : ℕ) : ℤ) := by
      rw [Nat.cast_sum]
      exact Finset.sum_congr rfl fun mac member => (tallies mac member).1
    have theorySum : ∑ mac ∈ motesOf data, ((tallyOf data mac).theory + 1) =
        ((∑ mac ∈ motesOf data, (span (emissionsOf received mac)).card : ℕ) : ℤ) := by
      rw [Nat.cast_sum]
      exact Finset.sum_congr rfl fun mac member => (tallies mac member).2
    rw [all, receivedSum, theorySum]
    apply congrArg
    apply lossOf_eq_fractionOf
    rw [← Finset.sum_add_distrib]
    exact Finset.sum_congr rfl parts

/-- The row of an emission of a mote. -/
def receive (nodeId : ℤ) (emission : ℕ) (emitted : 0 < emission) : Reception where
  nodeId := nodeId
  emission := emission
  row :=
    { value := ((seqnoOf emission).val : ℚ)
      label := "seq_no".toList
      timestamp := 0
      mote := moteAddress nodeId
      experiment := ⟨1, true⟩
      position := 0 }
  emitted := emitted
  mote := rfl
  value := rfl

/-- Two motes; the first one wraps and loses emission 256, the second one loses two. -/
def receivedSample : List Reception :=
  [receive 257 254 (by decide), receive 258 1 (by decide), receive 257 255 (by decide),
    receive 258 4 (by decide), receive 257 257 (by decide)]

theorem getLossRatio_receivedSample :
    ∃ counters ratios, countRows (receivedSample.map Reception.row) = .ok counters ∧
      getLossRatio (receivedSample.map Reception.row) = .ok ratios ∧
        counters.theoryOf (moteAddress 257) = some 3 ∧
        ratios.lookup (moteAddress 257) = some (some (1 / 4)) ∧
        ratios.lookup "all".toList = some (some (3 / 8)) := by
  obtain ⟨counters, ratios, counted, computed, single, all⟩ :=
    getLossRatio_inOrder receivedSample (by decide +kernel)
  obtain ⟨theory, ratio⟩ := single (moteAddress 257) (by decide +kernel)
  refine ⟨counters, ratios, counted, computed, theory.trans ?_, ratio.trans ?_, all.trans ?_⟩
  · decide +kernel
  · decide +kernel
  · decide +kernel

end IotLab.Pipeline
