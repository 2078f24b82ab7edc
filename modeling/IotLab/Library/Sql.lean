import IotLab.Library.Decimal
import Mathlib.Data.List.Dedup
import Mathlib.Data.List.ProdSigma
import Mathlib.Data.List.TakeDrop
import Mathlib.Data.List.TakeWhile

/-!
# Groups of rows and lists in a text

A query groups the rows of a table by a key and can put the values of a group into one
text, from which pieces are cut out again.
-/

namespace IotLab.Library

/-! ## Groups -/

section Groups

variable {α β κ : Type*} [DecidableEq κ]

/-- `GROUP BY`: each key with its rows. -/
def groupBy (key : α → κ) (rows : List α) : List (κ × List α) :=
  (rows.map key).dedup.map fun group => (group, rows.filter fun row => key row = group)

/-- Conditions on the rows of two tables choose from each of them. -/
theorem filter_product (rows : List α) (others : List β) (p : α → Bool) (q : β → Bool) :
    ((rows ×ˢ others).filter fun pair => p pair.1 && q pair.2) =
      rows.filter p ×ˢ others.filter q := by
  induction rows with
  | nil => rfl
  | cons row rest ih =>
      rw [List.product_cons, List.filter_append, ih, List.filter_map]
      by_cases chosen : p row = true
      · rw [List.filter_cons_of_pos chosen, List.product_cons]
        congr 2
        apply List.filter_congr
        intro other _
        simp [chosen]
      · rw [List.filter_cons_of_neg chosen]
        have none : others.filter ((fun pair : α × β => p pair.1 && q pair.2) ∘
            fun other => (row, other)) = [] := by
          rw [List.filter_eq_nil_iff]
          intro other _
          simp [chosen]
        rw [none]
        rfl

/-- What is chosen of the answers are the answers to what is chosen. -/
theorem filter_filterMap {answer : α → Option β} {p : α → Bool} {q : β → Bool}
    (same : ∀ x y, answer x = some y → q y = p x) (xs : List α) :
    (xs.filterMap answer).filter q = (xs.filter p).filterMap answer := by
  induction xs with
  | nil => rfl
  | cons x rest ih =>
      cases found : answer x with
      | none =>
          rw [List.filterMap_cons_none found, ih]
          by_cases chosen : p x = true
          · rw [List.filter_cons_of_pos chosen, List.filterMap_cons_none found]
          · rw [List.filter_cons_of_neg chosen]
      | some y =>
          have decides := same x y found
          rw [List.filterMap_cons_some found]
          by_cases chosen : p x = true
          · rw [List.filter_cons_of_pos (decides.trans chosen), ih,
              List.filter_cons_of_pos chosen, List.filterMap_cons_some found]
          · rw [List.filter_cons_of_neg (decides ▸ chosen), ih, List.filter_cons_of_neg chosen]

theorem map_eq_map_some {answer : α → Option β} {xs : List α}
    (answered : ∀ x ∈ xs, (answer x).isSome = true) :
    xs.map answer = (xs.filterMap answer).map some := by
  induction xs with
  | nil => rfl
  | cons x rest ih =>
      obtain ⟨y, found⟩ := Option.isSome_iff_exists.1 (answered x List.mem_cons_self)
      have later := ih fun other member => answered other (List.mem_cons_of_mem _ member)
      rw [List.filterMap_cons_some found, List.map_cons, List.map_cons, later, found]

theorem map_fst_product_singleton (rows : List α) (other : β) :
    (rows ×ˢ [other]).map Prod.fst = rows := by
  induction rows with
  | nil => rfl
  | cons row rest ih =>
      rw [List.product_cons, List.map_append, ih]
      rfl

end Groups

/-! ## Lists in a text -/

/-- `GROUP_CONCAT`. -/
def groupConcat (values : List (List Char)) : List Char := [','].intercalate values

/-- `SUBSTRING_INDEX`: the text before the delimiter of a number, or behind it when it is
counted from the end. -/
def substringIndex (text : List Char) (delimiter : Char) (count : ℤ) : List Char :=
  let pieces := text.splitOn delimiter
  [delimiter].intercalate
    (if 0 ≤ count then pieces.take count.toNat
    else pieces.drop (pieces.length - (-count).toNat))

/-- `CAST(... AS SIGNED)`: an optional sign and the digits behind it. -/
def castSigned : List Char → ℤ
  | '-' :: rest => -(leadingDigits rest : ℤ)
  | '+' :: rest => leadingDigits rest
  | text => leadingDigits text

section Texts

variable {values : List (List Char)}

theorem splitOn_groupConcat (some_ : values ≠ []) (plain : ∀ value ∈ values, ',' ∉ value) :
    (groupConcat values).splitOn ',' = values :=
  List.splitOn_intercalate ',' plain some_

theorem substringIndex_take (some_ : values ≠ []) (plain : ∀ value ∈ values, ',' ∉ value)
    (count : ℕ) :
    substringIndex (groupConcat values) ',' count = groupConcat (values.take count) := by
  simp only [substringIndex, splitOn_groupConcat some_ plain]
  rw [if_pos (Int.natCast_nonneg _), Int.toNat_natCast, groupConcat]

theorem substringIndex_last (some_ : values ≠ []) (plain : ∀ value ∈ values, ',' ∉ value) :
    substringIndex (groupConcat values) ',' (-1) = values.getLast some_ := by
  simp only [substringIndex, splitOn_groupConcat some_ plain]
  have last : values.drop (values.length - 1) = [values.getLast some_] :=
    List.drop_length_sub_one some_
  rw [if_neg (by decide)]
  change [','].intercalate (values.drop (values.length - 1)) = _
  rw [last]
  simp

theorem castSigned_of_digit {char : Char} {rest : List Char}
    (digit : char.isDigit = true) :
    castSigned (char :: rest) = leadingDigits (char :: rest) := by
  simp only [castSigned]
  split
  · next equality =>
      cases equality
      exact absurd digit (by decide)
  · next equality =>
      cases equality
      exact absurd digit (by decide)
  · rfl

/-- A printed integer is read back. -/
theorem castSigned_printInt (value : ℤ) : castSigned (printInt value) = value := by
  rw [printInt]
  by_cases negative : value < 0
  · rw [if_pos negative, castSigned, leadingDigits_toDigits]
    omega
  · rw [if_neg negative]
    cases printed : Nat.toDigits 10 value.natAbs with
    | nil => exact absurd printed Nat.toDigits_ne_nil
    | cons char rest =>
        have digit : char.isDigit = true :=
          isDigit_of_mem_toDigits (printed ▸ List.mem_cons_self)
        rw [castSigned_of_digit digit, ← printed, leadingDigits_toDigits]
        omega

end Texts

end IotLab.Library
