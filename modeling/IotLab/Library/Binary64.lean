import Mathlib.Algebra.Order.BigOperators.Group.List
import Mathlib.Algebra.Order.Field.Power
import Mathlib.Algebra.Order.Ring.Pow
import Mathlib.Data.Int.Log
import Mathlib.Data.Rat.Floor
import Mathlib.Order.WithBotTop
import Mathlib.Tactic.FieldSimp
import Mathlib.Tactic.Linarith
import Mathlib.Tactic.Positivity
import Mathlib.Tactic.Ring

/-!
# Doubles

A number is rounded to the nearest double, which has 53 binary digits and none below the
exponent -1074, and to the even one of two.  A sum of numbers in which each addition is rounded,
and the mean that comes from it, have a relative error that grows with the number of roundings.
A double that is no number is neither below nor above any other one.
-/

namespace IotLab.Library

/-- The nearest integer, and the even one of two. -/
def roundHalfEven (value : ℚ) : ℤ :=
  if value - ⌊value⌋ < 1 / 2 ∨ value - ⌊value⌋ = 1 / 2 ∧ ⌊value⌋ % 2 = 0 then ⌊value⌋
  else ⌊value⌋ + 1

/-- The exponent of the last digit of a double near a number. -/
def lastExponent (value : ℚ) : ℤ := max (Int.log 2 |value|) (-1022) - 52

/-- The nearest double, if there were no greatest one. -/
def nearestDouble (value : ℚ) : ℚ :=
  roundHalfEven (value / 2 ^ lastExponent value) * 2 ^ lastExponent value

/-- The double of a result; `none` is an infinite one. -/
def toDouble (value : ℚ) : Option ℚ :=
  if |nearestDouble value| < 2 ^ 1024 then some (nearestDouble value) else none

/-- The sum of some doubles, one addition after the other. -/
def doubleSum (values : List ℚ) : Option ℚ :=
  values.foldlM (fun sum value => toDouble (sum + value)) 0

/-- The mean of some doubles. -/
def doubleMean (values : List ℚ) : Option ℚ := do
  let sum ← doubleSum values
  toDouble (sum / values.length)

/-- The relative error of one rounding. -/
def unitRoundoff : ℚ := 1 / 2 ^ 53

/-- The least double with 53 digits. -/
def leastNormal : ℚ := 2 ^ (-1022 : ℤ)

/-- Twice a number of this size is no infinite double. -/
def safeSize : ℚ := 2 ^ 1022

/-- The relative error of several roundings. -/
def roundingGrowth (steps : ℕ) : ℚ := (1 + unitRoundoff) ^ steps - 1

theorem unitRoundoff_pos : 0 < unitRoundoff := by
  rw [unitRoundoff]
  positivity

theorem leastNormal_pos : 0 < leastNormal := zpow_pos two_pos _

theorem roundingGrowth_nonneg (steps : ℕ) : 0 ≤ roundingGrowth steps :=
  sub_nonneg.2 (one_le_pow₀ (by linarith [unitRoundoff_pos]))

theorem roundingGrowth_succ (steps : ℕ) :
    roundingGrowth (steps + 1) = (1 + unitRoundoff) * roundingGrowth steps + unitRoundoff := by
  rw [roundingGrowth, roundingGrowth, pow_succ]
  ring

/-- Fewer than `2 ^ 52` roundings at most double a number. -/
theorem roundingGrowth_le_one {steps : ℕ} (few : steps ≤ 2 ^ 52) : roundingGrowth steps ≤ 1 := by
  have unit : unitRoundoff = 1 / 2 ^ 53 := rfl
  have bernoulli : 1 + steps * (-unitRoundoff) ≤ (1 + -unitRoundoff) ^ steps :=
    one_add_mul_le_pow (by rw [unit]; norm_num) steps
  have half : 1 / 2 ≤ (1 + -unitRoundoff) ^ steps := by
    have count : (steps : ℚ) ≤ 2 ^ 52 := by exact_mod_cast few
    have product : steps * unitRoundoff ≤ 2 ^ 52 * unitRoundoff :=
      mul_le_mul_of_nonneg_right count unitRoundoff_pos.le
    have limit : (2 : ℚ) ^ 52 * unitRoundoff = 1 / 2 := by
      rw [unit]
      norm_num
    linarith
  have inverse : (1 + unitRoundoff) ^ steps * (1 + -unitRoundoff) ^ steps ≤ 1 := by
    rw [← mul_pow]
    refine pow_le_one₀ ?_ ?_
    · rw [unit]
      norm_num
    · nlinarith [unitRoundoff_pos]
  have grown : 0 < (1 + unitRoundoff) ^ steps := pow_pos (by linarith [unitRoundoff_pos]) _
  rw [roundingGrowth]
  nlinarith

/-! ## Comparisons -/

/-- What a double stands for: no number, a number of `K` or an infinite one. -/
inductive Double (K : Type*) where
  | nan
  | number (value : WithBot (WithTop K))
  deriving DecidableEq

namespace Double

variable {K : Type*}

/-- The place of a number among the numbers. -/
def rank : Double K → WithBot (WithTop K)
  | nan => ⊥
  | number value => value

variable [LinearOrder K]

/-- No comparison with `nan` holds. -/
instance : LT (Double K) where
  lt left right := left ≠ nan ∧ right ≠ nan ∧ left.rank < right.rank

instance : DecidableLT (Double K) := fun left right =>
  inferInstanceAs (Decidable (left ≠ nan ∧ right ≠ nan ∧ left.rank < right.rank))

theorem lt_iff {left right : Double K} :
    left < right ↔ left ≠ nan ∧ right ≠ nan ∧ left.rank < right.rank := Iff.rfl

theorem rank_le_of_not_lt {left right : Double K} (number : left ≠ nan) (other : right ≠ nan)
    (still : ¬ right < left) : left.rank ≤ right.rank :=
  not_lt.1 fun below => still ⟨other, number, below⟩

end Double

/-! ## One rounding -/

theorem abs_roundHalfEven_sub_le (value : ℚ) : |(roundHalfEven value : ℚ) - value| ≤ 1 / 2 := by
  have below := Int.floor_le value
  have above := Int.lt_floor_add_one value
  rw [roundHalfEven, abs_le]
  split
  · next down =>
      have near : value - ⌊value⌋ ≤ 1 / 2 := down.elim le_of_lt fun half => half.1.le
      constructor <;> linarith
  · next up =>
      have far : ¬ value - ⌊value⌋ < 1 / 2 := fun near => up (.inl near)
      push_cast
      constructor <;> linarith

/-- The error is half the last digit. -/
theorem abs_nearestDouble_sub_le (value : ℚ) :
    |nearestDouble value - value| ≤ unitRoundoff * (|value| + leastNormal) := by
  rcases eq_or_ne value 0 with rfl | nonzero
  · have zero : nearestDouble 0 = 0 := by
      rw [nearestDouble, zero_div]
      simp [roundHalfEven]
    rw [zero, sub_zero, abs_zero, zero_add]
    exact (mul_pos unitRoundoff_pos leastNormal_pos).le
  · have digit : (0 : ℚ) < 2 ^ lastExponent value := zpow_pos two_pos _
    have error : |nearestDouble value - value| ≤ 1 / 2 * 2 ^ lastExponent value := by
      have whole : nearestDouble value - value =
          (roundHalfEven (value / 2 ^ lastExponent value) - value / 2 ^ lastExponent value) *
            2 ^ lastExponent value := by
        rw [nearestDouble, sub_mul, div_mul_cancel₀ _ digit.ne']
      rw [whole, abs_mul, abs_of_pos digit]
      exact mul_le_mul_of_nonneg_right (abs_roundHalfEven_sub_le _) digit.le
    have leading : (2 : ℚ) ^ max (Int.log 2 |value|) (-1022) ≤ |value| + leastNormal := by
      have size : (2 : ℚ) ^ Int.log 2 |value| ≤ |value| := by
        exact_mod_cast Int.zpow_log_le_self (by decide) (abs_pos.2 nonzero)
      rcases max_cases (Int.log 2 |value|) (-1022) with ⟨same, _⟩ | ⟨same, _⟩
      · rw [same]
        linarith [leastNormal_pos]
      · rw [same, ← leastNormal]
        linarith [abs_nonneg value]
    have last : 1 / 2 * (2 : ℚ) ^ lastExponent value =
        unitRoundoff * 2 ^ max (Int.log 2 |value|) (-1022) := by
      rw [lastExponent, zpow_sub₀ two_ne_zero, unitRoundoff]
      norm_num
      ring
    rw [last] at error
    exact error.trans (mul_le_mul_of_nonneg_left leading unitRoundoff_pos.le)

/-! ## Several roundings -/

/-- A double is near a number after some roundings of results of the given size. -/
def NearAfter (steps : ℕ) (size exact double : ℚ) : Prop :=
  |exact| ≤ size ∧ |double - exact| ≤ roundingGrowth steps * (size + leastNormal)

theorem NearAfter.size_nonneg {steps : ℕ} {size exact double : ℚ}
    (near : NearAfter steps size exact double) : 0 ≤ size :=
  (abs_nonneg exact).trans near.1

/-- One more rounding. -/
theorem NearAfter.toDouble {steps : ℕ} {size exact double : ℚ}
    (near : NearAfter steps size exact double) (few : steps < 2 ^ 52)
    (small : size + leastNormal ≤ safeSize) :
    ∃ rounded, Library.toDouble double = some rounded ∧
      NearAfter (steps + 1) size exact rounded := by
  have positive : 0 ≤ size + leastNormal :=
    add_nonneg near.size_nonneg leastNormal_pos.le
  have rounding := abs_nearestDouble_sub_le double
  have double_le : |double| ≤ |exact| + |double - exact| := by
    have parts := abs_add_le exact (double - exact)
    rwa [add_sub_cancel] at parts
  have unit : 0 ≤ unitRoundoff := unitRoundoff_pos.le
  have error : |nearestDouble double - exact| ≤
      roundingGrowth (steps + 1) * (size + leastNormal) := by
    calc |nearestDouble double - exact|
        ≤ |nearestDouble double - double| + |double - exact| := abs_sub_le _ _ _
      _ ≤ unitRoundoff * (|exact| + |double - exact| + leastNormal) + |double - exact| := by
          refine add_le_add_left (rounding.trans ?_) _
          exact mul_le_mul_of_nonneg_left (add_le_add_left double_le _) unit
      _ = (1 + unitRoundoff) * |double - exact| + unitRoundoff * (|exact| + leastNormal) := by ring
      _ ≤ (1 + unitRoundoff) * (roundingGrowth steps * (size + leastNormal)) +
            unitRoundoff * (size + leastNormal) := by
          refine add_le_add (mul_le_mul_of_nonneg_left near.2 (by linarith)) ?_
          exact mul_le_mul_of_nonneg_left (add_le_add_left near.1 _) unit
      _ = roundingGrowth (steps + 1) * (size + leastNormal) := by
          rw [roundingGrowth_succ]
          ring
  have bounded : |nearestDouble double| < 2 ^ 1024 := by
    have parts := abs_add_le exact (nearestDouble double - exact)
    rw [add_sub_cancel] at parts
    have growth := mul_le_mul_of_nonneg_right (roundingGrowth_le_one few) positive
    have twice : |nearestDouble double| ≤ 2 * safeSize := by
      linarith [near.1, leastNormal_pos]
    refine twice.trans_lt ?_
    rw [safeSize, ← pow_succ']
    exact pow_lt_pow_right₀ one_lt_two (by decide)
  exact ⟨nearestDouble double, if_pos bounded, near.1, error⟩

/-- The sum of numbers, from a sum that is near already. -/
theorem foldlM_toDouble_near {steps : ℕ} {size exact double : ℚ} {values : List ℚ}
    (near : NearAfter steps size exact double) (few : steps + values.length ≤ 2 ^ 52)
    (small : size + (values.map abs).sum + leastNormal ≤ safeSize) :
    ∃ sum, values.foldlM (fun sum value => toDouble (sum + value)) double = some sum ∧
      NearAfter (steps + values.length) (size + (values.map abs).sum) (exact + values.sum) sum := by
  induction values generalizing steps size exact double with
  | nil =>
      refine ⟨double, rfl, ?_⟩
      simpa using near
  | cons value rest ih =>
      rw [List.length_cons] at few
      rw [List.map_cons, List.sum_cons] at small
      have later : 0 ≤ (rest.map abs).sum := List.sum_nonneg fun other member => by
        obtain ⟨term, _, rfl⟩ := List.mem_map.1 member
        exact abs_nonneg term
      have added : NearAfter steps (size + |value|) (exact + value) (double + value) := by
        refine ⟨(abs_add_le _ _).trans (add_le_add_left near.1 _), ?_⟩
        rw [add_sub_add_right_eq_sub]
        refine near.2.trans (mul_le_mul_of_nonneg_left ?_ (roundingGrowth_nonneg steps))
        linarith [abs_nonneg value]
      obtain ⟨rounded, first, one⟩ := added.toDouble (by omega) (by linarith)
      obtain ⟨sum, others, all⟩ := ih one (by omega) (by linarith)
      refine ⟨sum, ?_, ?_⟩
      · rw [List.foldlM_cons, first]
        exact others
      · have count : steps + 1 + rest.length = steps + (value :: rest).length := by
          rw [List.length_cons]
          omega
        rw [count, add_assoc size, add_assoc exact] at all
        simpa using all

/-- The mean of some doubles that are not too great is near the exact one. -/
theorem doubleMean_near {values : List ℚ} (some_ : values ≠ []) (few : values.length < 2 ^ 52)
    (small : (values.map abs).sum + leastNormal ≤ safeSize) :
    ∃ mean, doubleMean values = some mean ∧
      |mean - values.sum / values.length| ≤ roundingGrowth (values.length + 1) *
        ((values.map abs).sum / values.length + leastNormal) := by
  have start : NearAfter 0 0 0 0 := by
    refine ⟨by simp, ?_⟩
    simp [roundingGrowth]
  obtain ⟨sum, added, near⟩ := foldlM_toDouble_near start
    (by rw [zero_add]; exact few.le) (by rwa [zero_add] : 0 + (values.map abs).sum + _ ≤ _)
  rw [zero_add, zero_add, zero_add] at near
  have count : (1 : ℚ) ≤ values.length := by
    exact_mod_cast List.length_pos_iff.2 some_
  have positive : (0 : ℚ) < values.length := by linarith
  have divided : NearAfter values.length ((values.map abs).sum / values.length)
      (values.sum / values.length) (sum / values.length) := by
    constructor
    · rw [abs_div, abs_of_pos positive]
      exact div_le_div_of_nonneg_right near.1 positive.le
    · rw [← sub_div, abs_div, abs_of_pos positive, div_le_iff₀ positive]
      refine near.2.trans ?_
      rw [mul_assoc, add_mul, div_mul_cancel₀ _ positive.ne']
      refine mul_le_mul_of_nonneg_left ?_ (roundingGrowth_nonneg _)
      have least := mul_le_mul_of_nonneg_left count leastNormal_pos.le
      linarith
  have quotient : (values.map abs).sum / values.length ≤ (values.map abs).sum :=
    div_le_self near.size_nonneg count
  obtain ⟨mean, rounded, close⟩ := divided.toDouble few (by linarith)
  refine ⟨mean, ?_, close.2⟩
  rw [doubleMean, doubleSum, added]
  exact rounded

end IotLab.Library
