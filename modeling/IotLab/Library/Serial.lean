import Mathlib.Data.Int.Interval
import Mathlib.Data.List.Chain
import Mathlib.Order.Interval.Finset.Nat
import Mathlib.Tactic.Common

/-!
# Serial numbers

A sender numbers its items; the receiver knows the numbers up to a modulus only.  As
long as fewer items than the modulus are lost in a row, the distances of the residues
are those of the numbers, and their sum over a run is the length of the run.
-/

namespace IotLab.Library

/-- Increasing numbers of which two neighbours are less than the modulus apart. -/
def Near (modulus : ℕ) (numbers : List ℕ) : Prop :=
  numbers.IsChain fun last next => last < next ∧ next < last + modulus

instance (modulus : ℕ) (numbers : List ℕ) : Decidable (Near modulus numbers) :=
  inferInstanceAs (Decidable (numbers.IsChain _))

/-- The distance from a residue to the next one, of a different number. -/
def serialDistance (modulus last next : ℤ) : ℤ :=
  max 1 ((next - last + modulus).tmod modulus)

section Distance

variable {modulus last next : ℕ}

theorem serialDistance_mod (increasing : last < next) (near : next < last + modulus) :
    serialDistance modulus ((last % modulus : ℕ) : ℤ) ((next % modulus : ℕ) : ℤ) =
      (next : ℤ) - last := by
  have positive : 0 < modulus := by omega
  have lastLt := Nat.mod_lt last positive
  have residue : (((next % modulus : ℕ) : ℤ) - ((last % modulus : ℕ) : ℤ) + modulus) %
      modulus = (next : ℤ) - last := by
    have small : ((next : ℤ) - last) % modulus = (next : ℤ) - last :=
      Int.emod_eq_of_lt (by omega) (by omega)
    rw [Int.add_emod_right, Int.natCast_mod, Int.natCast_mod, ← Int.sub_emod, small]
  rw [serialDistance, Int.tmod_eq_emod_of_nonneg (by omega), residue]
  omega

end Distance

/-! ## The numbers that are missing -/

/-- The numbers from the first to the last one. -/
def span (numbers : List ℕ) : Finset ℕ :=
  Finset.Icc (numbers.head?.getD 1) (numbers.getLast?.getD 0)

/-- The numbers between the first and the last one that are not there. -/
def missing (numbers : List ℕ) : Finset ℕ :=
  (span numbers).filter fun number => number ∉ numbers

section Missing

variable {modulus : ℕ} {numbers : List ℕ}

theorem Near.pairwise (near : Near modulus numbers) : numbers.Pairwise (· < ·) :=
  List.isChain_iff_pairwise.1 (near.imp fun _ _ both => both.1)

theorem Near.nodup (near : Near modulus numbers) : numbers.Nodup :=
  near.pairwise.imp fun less => Nat.ne_of_lt less

/-- All numbers lie between the first and the last one. -/
theorem Near.mem_span (near : Near modulus numbers) {number : ℕ}
    (member : number ∈ numbers) : number ∈ span numbers := by
  have sorted := near.pairwise.imp fun less => Nat.le_of_lt less
  cases numbers with
  | nil => cases member
  | cons first rest =>
      rw [span, Finset.mem_Icc]
      constructor
      · cases List.mem_cons.1 member with
        | inl same => simp [same]
        | inr later => exact List.rel_of_pairwise_cons sorted later
      · rw [List.getLast?_eq_some_getLast (List.cons_ne_nil first rest), Option.getD_some]
        exact sorted.rel_getLast member

theorem Near.length_add_missing (near : Near modulus numbers) :
    numbers.length + (missing numbers).card = (span numbers).card := by
  have present : ((span numbers).filter fun number => number ∈ numbers) =
      numbers.toFinset := by
    ext number
    rw [Finset.mem_filter, List.mem_toFinset]
    exact ⟨fun both => both.2, fun member => ⟨near.mem_span member, member⟩⟩
  have parts := Finset.card_filter_add_card_filter_not (s := span numbers)
    fun number => number ∈ numbers
  rw [present, List.toFinset_card_of_nodup near.nodup] at parts
  exact parts

theorem card_span_cons (first : ℕ) (rest : List ℕ) (near : Near modulus (first :: rest)) :
    ((span (first :: rest)).card : ℤ) =
      ((first :: rest).getLast (List.cons_ne_nil _ _) : ℤ) - first + 1 := by
  have inside := near.mem_span (List.getLast_mem (List.cons_ne_nil first rest))
  rw [span, Finset.mem_Icc] at inside
  rw [span, Nat.card_Icc, List.head?_cons, Option.getD_some,
    List.getLast?_eq_some_getLast (List.cons_ne_nil first rest), Option.getD_some]
  have low : first ≤ (first :: rest).getLast (List.cons_ne_nil _ _) := by
    simpa using inside.1
  omega

end Missing

end IotLab.Library
