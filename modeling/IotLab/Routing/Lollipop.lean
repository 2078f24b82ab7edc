import Mathlib.Algebra.Order.Ring.Int
import Mathlib.Logic.Function.Iterate

/-!
# Lollipop counters

The versions of a DODAG are counted from 240 up to 255 and from there around the values below
128.  `lollipop_greater_than` tells which of two versions is newer, as long as not too many
increments lie between them.
-/

namespace IotLab.Routing

/-- `RPL_LOLLIPOP_INIT`. -/
def lollipopInit : ℕ := 255 - 16 + 1

/-- `RPL_LOLLIPOP_INCREMENT`. -/
def lollipopIncrement (counter : ℕ) : ℕ :=
  if counter > 127 then (counter + 1) &&& 255 else (counter + 1) &&& 127

/-- `lollipop_greater_than`. -/
def lollipopGreaterThan (a b : ℤ) : Bool :=
  if a > 127 ∧ b ≤ 127 then 255 + 1 + b - a > 16
  else (a > b ∧ a - b < 16) ∨ (a < b ∧ b - a > 127 + 1 - 16)

/-- The value of a counter after some increments. -/
def versionAt (count : ℕ) : ℕ := lollipopIncrement^[count] lollipopInit

theorem lollipopIncrement_eq (counter : ℕ) :
    lollipopIncrement counter =
      if counter > 127 then (counter + 1) % 256 else (counter + 1) % 128 := by
  rw [lollipopIncrement, Nat.and_two_pow_sub_one_eq_mod _ 8, Nat.and_two_pow_sub_one_eq_mod _ 7]

theorem versionAt_succ (count : ℕ) : versionAt (count + 1) = lollipopIncrement (versionAt count) :=
  Function.iterate_succ_apply' _ _ _

/-- The first values are those of the stick, the later ones go around. -/
theorem versionAt_eq (count : ℕ) :
    versionAt count = if count < 16 then 240 + count else (count - 16) % 128 := by
  induction count with
  | zero => rfl
  | succ count ih =>
      rw [versionAt_succ, ih, lollipopIncrement_eq]
      rcases Nat.lt_trichotomy count 15 with stick | rfl | circle
      · rw [if_pos (by omega : count < 16), if_pos (by omega), if_pos (by omega)]
        omega
      · rfl
      · rw [if_neg (by omega : ¬ count < 16), if_neg (by omega), if_neg (by omega)]
        omega

/-- When the comparison of two values says what the numbers of increments say: the newer value
is found newer, and the older one is not. -/
def Comparable (newer older : ℕ) : Prop :=
  (older ≤ newer + 16 ∨ 16 ≤ newer ∧ older ≤ newer + 112) ∧ (newer ≤ older + 15 ∨ older < 16)

instance (newer older : ℕ) : Decidable (Comparable newer older) :=
  inferInstanceAs (Decidable (_ ∧ _))

theorem versionAt_of_lt {count : ℕ} (stick : count < 16) : versionAt count = 240 + count := by
  rw [versionAt_eq, if_pos stick]

theorem versionAt_of_le {count : ℕ} (circle : 16 ≤ count) :
    versionAt count = (count - 16) % 128 := by
  rw [versionAt_eq, if_neg (Nat.not_lt_of_le circle)]

theorem lollipopGreaterThan_iff {a b : ℤ} :
    lollipopGreaterThan a b = true ↔
      a > 127 ∧ b ≤ 127 ∧ 256 + b - a > 16 ∨
        ¬ (a > 127 ∧ b ≤ 127) ∧ (a > b ∧ a - b < 16 ∨ a < b ∧ b - a > 112) := by
  rw [lollipopGreaterThan]
  split
  · rw [decide_eq_true_iff]
    omega
  · rw [decide_eq_true_iff]
    omega

theorem lollipopGreaterThan_versionAt {newer older : ℕ} (comparable : Comparable newer older) :
    lollipopGreaterThan (versionAt newer) (versionAt older) = decide (older < newer) := by
  obtain ⟨behind, ahead⟩ := comparable
  rw [Bool.eq_iff_iff, lollipopGreaterThan_iff, decide_eq_true_iff]
  rcases Nat.lt_or_ge newer 16 with newStick | newCircle
  · rcases Nat.lt_or_ge older 16 with oldStick | oldCircle
    · rw [versionAt_of_lt newStick, versionAt_of_lt oldStick]
      omega
    · rw [versionAt_of_lt newStick, versionAt_of_le oldCircle]
      omega
  · rcases Nat.lt_or_ge older 16 with oldStick | oldCircle
    · rw [versionAt_of_le newCircle, versionAt_of_lt oldStick]
      omega
    · rw [versionAt_of_le newCircle, versionAt_of_le oldCircle]
      omega

end IotLab.Routing
