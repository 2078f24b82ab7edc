import IotLab.Server.LossRatio
import Mathlib.Algebra.BigOperators.Ring.Finset
import Mathlib.Algebra.Order.BigOperators.Group.Finset
import Mathlib.Algebra.Order.Field.Basic
import Mathlib.Tactic.Linarith

/-!
# Bounds of the loss ratios

Every row of a mote counts one as received, and every row but the first one counts at
least one as expected.  So a mote has not more received than expected rows, the first one
added.  Without any row nothing is added, and the ratio of all motes is that of nothing
to nothing.
-/

namespace IotLab.Server

open IotLab.Library

/-- The values of rows with the label `seq_no`. -/
def SeqNoValues (data : List Data) : Prop :=
  ∀ row ∈ data, 0 ≤ row.value ∧ row.value ≤ 255

instance (data : List Data) : Decidable (SeqNoValues data) :=
  inferInstanceAs (Decidable (∀ row ∈ data, _))

/-- Every ratio has a denominator and is from 0 on below 1, and that of all motes is the
ratio of the sums. -/
def WellDefinedRatios (data : List Data) : Prop :=
  ∃ ratios, getLossRatio data = .ok ratios ∧
    (∀ mac entry, ratios.lookup mac = some entry →
      ∃ ratio, entry = some ratio ∧ 0 ≤ ratio ∧ ratio < 1) ∧
    ratios.lookup "all".toList =
      some (lossOf (∑ mac ∈ motesOf data, (tallyOf data mac).received)
        (∑ mac ∈ motesOf data, ((tallyOf data mac).theory + 1)))

theorem lossOf_mem {received theory : ℤ} (some_ : 0 < received) (fewer : received ≤ theory) :
    ∃ ratio, lossOf received theory = some ratio ∧ 0 ≤ ratio ∧ ratio < 1 := by
  have positive : (0 : ℚ) < theory := by exact_mod_cast lt_of_lt_of_le some_ fewer
  have share : (received : ℚ) / theory ≤ 1 :=
    (div_le_one positive).2 (by exact_mod_cast fewer)
  have counted : (0 : ℚ) < received / theory := div_pos (by exact_mod_cast some_) positive
  refine ⟨1 - received / theory, if_neg (by omega), ?_, ?_⟩
  · linarith
  · linarith

/-! ## The counters of a mote -/

/-- What holds of the counters of a mote between its rows. -/
structure Tally.Bounded (tally : Tally) : Prop where
  expected : tally.received ≤ tally.theory + 1
  started : 0 ≤ tally.last ∨ tally.received = 0 ∧ tally.theory = 0

section Tallies

variable {tally : Tally} {value : ℚ} {data : List Data} {mac : Text}

theorem Tally.bounded_start : Tally.start.Bounded := ⟨by decide, .inr ⟨rfl, rfl⟩⟩

/-- A row keeps the bounds. -/
theorem Tally.Bounded.add (bounded : tally.Bounded) (nonneg : 0 ≤ value) :
    (tally.add value).Bounded := by
  have next : 0 ≤ (castInt value).tmod 128 :=
    Int.tmod_nonneg 128 (Int.tdiv_nonneg (Rat.num_nonneg.2 nonneg) (Int.natCast_nonneg _))
  refine ⟨?_, .inl next⟩
  have expected := bounded.expected
  simp only [Tally.add]
  by_cases started : 0 ≤ tally.last
  · have distance : 1 ≤ serialDistance 128 tally.last ((castInt value).tmod 128) :=
      le_max_left _ _
    rw [if_pos started]
    omega
  · -- The first row of a mote is the one that is added to the expected ones.
    obtain ⟨nothing, none⟩ := bounded.started.resolve_left started
    rw [if_neg started]
    omega

theorem foldl_add_bounded {values : List ℚ} (bounded : tally.Bounded)
    (nonneg : ∀ value ∈ values, 0 ≤ value) : (values.foldl Tally.add tally).Bounded := by
  induction values generalizing tally with
  | nil => exact bounded
  | cons value rest ih =>
      exact ih (bounded.add (nonneg value List.mem_cons_self))
        fun other member => nonneg other (List.mem_cons_of_mem _ member)

theorem tallyOf_bounded (values : SeqNoValues data) : (tallyOf data mac).Bounded := by
  refine foldl_add_bounded Tally.bounded_start fun value member => ?_
  obtain ⟨row, chosen, rfl⟩ := List.mem_map.1 member
  exact (values row (List.mem_of_mem_filter chosen)).1

theorem received_foldl_add (values : List ℚ) :
    (values.foldl Tally.add tally).received = tally.received + values.length := by
  induction values generalizing tally with
  | nil => exact (Int.add_zero _).symm
  | cons value rest ih =>
      rw [List.foldl_cons, ih, List.length_cons, Nat.cast_succ]
      change tally.received + 1 + _ = _
      omega

theorem received_tallyOf (data : List Data) (mac : Text) :
    (tallyOf data mac).received = (valuesOf data mac).length := by
  rw [tallyOf, received_foldl_add]
  exact Int.zero_add _

theorem received_tallyOf_pos (member : mac ∈ motesOf data) :
    0 < (tallyOf data mac).received := by
  obtain ⟨row, here, rfl⟩ := List.mem_map.1 (List.mem_toFinset.1 member)
  rw [received_tallyOf, Int.natCast_pos]
  refine List.length_pos_of_mem (a := row.value) (List.mem_map.2 ⟨row, ?_, rfl⟩)
  exact List.mem_filter.2 ⟨here, decide_eq_true rfl⟩

theorem motesOf_nonempty (some_ : data ≠ []) : (motesOf data).Nonempty := by
  obtain ⟨row, here⟩ := List.exists_mem_of_ne_nil data some_
  exact ⟨row.mote, List.mem_toFinset.2 (List.mem_map_of_mem here)⟩

/-! ## The counters are small -/

theorem serialDistance_le (last next : ℤ) : serialDistance 128 last next ≤ 127 := by
  have small := Int.tmod_lt_of_pos (next - last + 128) (b := 128) (by decide)
  exact max_le (by decide) (by omega)

/-- A row adds at most 127 to the expected rows. -/
theorem theory_foldl_add_le (tally : Tally) (values : List ℚ) :
    (values.foldl Tally.add tally).theory ≤ tally.theory + 127 * values.length := by
  induction values generalizing tally with
  | nil => simp
  | cons value rest ih =>
      have step : (tally.add value).theory ≤ tally.theory + 127 := by
        have distance := serialDistance_le tally.last ((castInt value).tmod 128)
        simp only [Tally.add]
        split
        · omega
        · omega
      have later := ih (tally.add value)
      rw [List.foldl_cons, List.length_cons, Nat.cast_succ]
      omega

theorem theory_tallyOf_le (data : List Data) (mac : Text) :
    (tallyOf data mac).theory ≤ 127 * (tallyOf data mac).received := by
  rw [received_tallyOf]
  exact (theory_foldl_add_le Tally.start (valuesOf data mac)).trans (Int.zero_add _).le

theorem sum_received (data : List Data) :
    ∑ mac ∈ motesOf data, (tallyOf data mac).received = data.length := by
  have counted := List.sum_toFinset_count_eq_length (data.map Data.mote)
  rw [List.length_map] at counted
  rw [← counted, Nat.cast_sum]
  refine Finset.sum_congr rfl fun mac _ => ?_
  rw [received_tallyOf, valuesOf, List.length_map]
  unfold List.count
  rw [List.countP_map, List.countP_eq_length_filter]
  congr 2

/-- The `int` counters do not overflow on fewer than `2 ^ 24` rows. -/
theorem sum_theory_lt (few : data.length < 2 ^ 24) :
    ∑ mac ∈ motesOf data, ((tallyOf data mac).theory + 1) < 2 ^ 31 := by
  have each : ∀ mac ∈ motesOf data,
      (tallyOf data mac).theory + 1 ≤ 128 * (tallyOf data mac).received := by
    intro mac member
    have bound := theory_tallyOf_le data mac
    have received := received_tallyOf_pos member
    omega
  calc ∑ mac ∈ motesOf data, ((tallyOf data mac).theory + 1)
    _ ≤ ∑ mac ∈ motesOf data, 128 * (tallyOf data mac).received := Finset.sum_le_sum each
    _ = 128 * (data.length : ℤ) := by rw [← Finset.mul_sum, sum_received]
    _ < 2 ^ 31 := by omega

end Tallies

/-! ## The ratios -/

/-- The ratios are well defined if and only if there is a row. -/
theorem getLossRatio_wellDefined_iff {data : List Data} (values : SeqNoValues data) :
    WellDefinedRatios data ↔ data ≠ [] := by
  constructor
  · rintro ⟨ratios, computed, bounds, all⟩ rfl
    obtain ⟨ratio, undefined, _⟩ := bounds _ _ all
    cases undefined
  · intro some_
    obtain ⟨ratios, computed, entries, all⟩ := getLossRatio_lookup data
    refine ⟨ratios, computed, fun mac entry found => ?_, all⟩
    by_cases whole : mac = "all".toList
    · rw [whole, all] at found
      obtain rfl := Option.some_inj.1 found
      refine lossOf_mem ?_ ?_
      · exact Finset.sum_pos (fun mac member => received_tallyOf_pos member)
          (motesOf_nonempty some_)
      · exact Finset.sum_le_sum fun mac _ => (tallyOf_bounded values).expected
    · rw [entries mac whole] at found
      by_cases known : mac ∈ motesOf data
      · rw [if_pos known] at found
        obtain rfl := Option.some_inj.1 found
        exact lossOf_mem (received_tallyOf_pos known) (tallyOf_bounded values).expected
      · rw [if_neg known] at found
        cases found

/-- Two rows of one mote. -/
theorem wellDefinedRatios_two :
    WellDefinedRatios [⟨127, "seq_no".toList, 0, "1.0".toList, ⟨1, true⟩, 0⟩,
      ⟨2, "seq_no".toList, 1, "1.0".toList, ⟨1, true⟩, 0⟩] :=
  (getLossRatio_wellDefined_iff (by decide)).2 (by decide)

/-- Without rows the ratio of all motes is that of nothing to nothing. -/
theorem not_wellDefinedRatios_nil : ¬ WellDefinedRatios [] := by
  rintro ⟨ratios, computed, bounds, all⟩
  obtain ⟨ratio, undefined, _⟩ := bounds _ _ all
  cases undefined

end IotLab.Server
