import Mathlib.Algebra.Group.Int.Defs
import Mathlib.Data.Int.Notation
import Mathlib.Data.List.Basic
import Mathlib.Data.List.TakeWhile
import Mathlib.Data.Rat.Defs
import Mathlib.Tactic.Common

/-!
# Decimal numerals

Printing and reading of integers in base ten, as `printf`, `Integer.parseInt`
and their relatives do it.  Text is a list of characters.  Reading a printed
integer gives it back, and a printed integer contains nothing but digits and a
leading minus sign.
-/

namespace IotLab.Library

/-- Print an integer in base ten, with a minus sign when it is negative. -/
def printInt (value : ℤ) : List Char :=
  if value < 0 then '-' :: Nat.toDigits 10 value.natAbs
  else Nat.toDigits 10 value.natAbs

/-- The value of a nonempty string of digits. -/
def parseDigits (text : List Char) : Option ℕ :=
  if text ≠ [] ∧ text.all Char.isDigit then
    some (Nat.ofDigitChars 10 text 0)
  else
    none

/-- Read a whole string as an integer: an optional sign, then digits only. -/
def parseInt : List Char → Option ℤ
  | '-' :: digits => (parseDigits digits).map fun value : ℕ => -(value : ℤ)
  | '+' :: digits => (parseDigits digits).map fun value : ℕ => (value : ℤ)
  | digits => (parseDigits digits).map fun value : ℕ => (value : ℤ)

/-- The value of the digits at the start of a string. -/
def leadingDigits (text : List Char) : ℕ :=
  Nat.ofDigitChars 10 (text.takeWhile Char.isDigit) 0

@[simp] theorem printInt_natCast (value : ℕ) :
    printInt value = Nat.toDigits 10 value := by
  simp [printInt]

theorem isDigit_of_mem_toDigits {value : ℕ} {char : Char}
    (member : char ∈ Nat.toDigits 10 value) : char.isDigit = true :=
  Nat.isDigit_of_mem_toDigits (by decide) (by decide) member

theorem not_mem_toDigits {value : ℕ} {char : Char}
    (notDigit : char.isDigit = false) : char ∉ Nat.toDigits 10 value := by
  intro member
  simp [isDigit_of_mem_toDigits member] at notDigit

@[simp] theorem parseDigits_toDigits (value : ℕ) :
    parseDigits (Nat.toDigits 10 value) = some value := by
  have digits : (Nat.toDigits 10 value).all Char.isDigit = true := by
    rw [List.all_eq_true]
    intro char member
    exact isDigit_of_mem_toDigits member
  rw [parseDigits, if_pos ⟨Nat.toDigits_ne_nil, digits⟩]
  rw [Nat.ofDigitChars_ten_toDigits]

theorem leadingDigits_toDigits (value : ℕ) :
    leadingDigits (Nat.toDigits 10 value) = value := by
  have all : (Nat.toDigits 10 value).takeWhile Char.isDigit =
      Nat.toDigits 10 value := by
    rw [List.takeWhile_eq_self_iff]
    intro char member
    exact isDigit_of_mem_toDigits member
  rw [leadingDigits, all, Nat.ofDigitChars_ten_toDigits]

/-- Without a sign in front, an integer is read as a string of digits. -/
theorem parseInt_of_digit {char : Char} {rest : List Char}
    (digit : char.isDigit = true) :
    parseInt (char :: rest) =
      (parseDigits (char :: rest)).map fun value : ℕ => (value : ℤ) := by
  simp only [parseInt]
  split
  · next equality =>
      cases equality
      exact absurd digit (by decide)
  · next equality =>
      cases equality
      exact absurd digit (by decide)
  · rfl

theorem parseInt_toDigits (value : ℕ) :
    parseInt (Nat.toDigits 10 value) = some (value : ℤ) := by
  cases printed : Nat.toDigits 10 value with
  | nil => exact absurd printed Nat.toDigits_ne_nil
  | cons char rest =>
      have member : char ∈ Nat.toDigits 10 value := by simp [printed]
      have digit := isDigit_of_mem_toDigits member
      rw [parseInt_of_digit digit, ← printed, parseDigits_toDigits]
      rfl

@[simp] theorem parseInt_printInt (value : ℤ) :
    parseInt (printInt value) = some value := by
  by_cases negative : value < 0
  · rw [printInt, if_pos negative]
    simp only [parseInt, parseDigits_toDigits, Option.map_some,
      Option.some.injEq]
    omega
  · rw [printInt, if_neg negative, parseInt_toDigits, Option.some.injEq]
    omega

theorem printInt_ne_nil (value : ℤ) : printInt value ≠ [] := by
  rw [printInt]
  split
  · exact List.cons_ne_nil _ _
  · exact Nat.toDigits_ne_nil

/-- Characters other than digits and the minus sign do not occur in a printed
integer. -/
theorem not_mem_printInt {value : ℤ} {char : Char}
    (notDigit : char.isDigit = false) (notMinus : char ≠ '-') :
    char ∉ printInt value := by
  rw [printInt]
  split
  · simp [notMinus, not_mem_toDigits notDigit]
  · exact not_mem_toDigits notDigit

/-! ## Machine integers -/

/-- The value fits into a signed integer of the given number of bits. -/
def FitsSigned (bits : ℕ) (value : ℤ) : Prop :=
  -2 ^ (bits - 1) ≤ value ∧ value < 2 ^ (bits - 1)

instance (bits : ℕ) (value : ℤ) : Decidable (FitsSigned bits value) :=
  inferInstanceAs (Decidable (_ ∧ _))

/-- Read a signed integer of the given number of bits; a larger value is no
numeral of the type. -/
def parseSigned (bits : ℕ) (text : List Char) : Option ℤ :=
  (parseInt text).filter fun value => FitsSigned bits value

theorem parseSigned_printInt {bits : ℕ} {value : ℤ} (fits : FitsSigned bits value) :
    parseSigned bits (printInt value) = some value := by
  rw [parseSigned, parseInt_printInt, Option.filter_some, if_pos]
  simpa using fits

/-- Assignment to a signed integer of the given number of bits. -/
def wrapSigned (bits : ℕ) (value : ℤ) : ℤ :=
  (value + 2 ^ (bits - 1)) % 2 ^ bits - 2 ^ (bits - 1)

/-! ## Decimal fractions -/

/-- A decimal fraction without a sign: digits, a point and digits. -/
def parseFraction (text : List Char) : Option ℚ :=
  match text.dropWhile Char.isDigit with
  | '.' :: fraction =>
      match parseDigits (text.takeWhile Char.isDigit), parseDigits fraction with
      | some whole, some part => some (whole + part / 10 ^ fraction.length)
      | _, _ => none
  | _ => none

/-- A decimal fraction with an optional sign. -/
def parseDecimal : List Char → Option ℚ
  | '-' :: rest => (parseFraction rest).map fun value : ℚ => -value
  | '+' :: rest => parseFraction rest
  | text => parseFraction text

theorem parseFraction_toDigits (whole : ℕ) (fraction : List Char) :
    parseFraction (Nat.toDigits 10 whole ++ '.' :: fraction) =
      (parseDigits fraction).map fun part : ℕ =>
        (whole : ℚ) + part / 10 ^ fraction.length := by
  have digits : ∀ char ∈ Nat.toDigits 10 whole, char.isDigit = true :=
    fun _ member => isDigit_of_mem_toDigits member
  have front : (Nat.toDigits 10 whole ++ '.' :: fraction).takeWhile Char.isDigit =
      Nat.toDigits 10 whole := by
    rw [List.takeWhile_append_of_pos digits, List.takeWhile_cons_of_neg (by decide),
      List.append_nil]
  have back : (Nat.toDigits 10 whole ++ '.' :: fraction).dropWhile Char.isDigit =
      '.' :: fraction := by
    rw [List.dropWhile_append_of_pos digits, List.dropWhile_cons_of_neg (by decide)]
  simp only [parseFraction, front, back, parseDigits_toDigits]
  cases parseDigits fraction <;> rfl

/-- Behind the point no sign is allowed. -/
theorem parseDecimal_printInt (whole part : ℤ) :
    parseDecimal (printInt whole ++ '.' :: printInt part) = none ↔ part < 0 := by
  have fraction : parseDigits (printInt part) = none ↔ part < 0 := by
    simp only [printInt]
    split
    · next negative => simp [parseDigits, negative]
    · next nonnegative => simp [parseDigits_toDigits, nonnegative]
  have unsigned : parseFraction
      (Nat.toDigits 10 whole.natAbs ++ '.' :: printInt part) = none ↔ part < 0 := by
    rw [parseFraction_toDigits, Option.map_eq_none_iff]
    exact fraction
  rw [printInt]
  split
  · rw [List.cons_append, parseDecimal, Option.map_eq_none_iff]
    exact unsigned
  · cases digits : Nat.toDigits 10 whole.natAbs with
    | nil => exact absurd digits Nat.toDigits_ne_nil
    | cons char rest =>
        have isDigit : char.isDigit = true := by
          apply isDigit_of_mem_toDigits
          rw [digits]
          exact List.mem_cons_self
        rw [digits] at unsigned
        rw [List.cons_append] at unsigned ⊢
        simp only [parseDecimal]
        split
        · next equality =>
            cases equality
            exact absurd isDigit (by decide)
        · next equality =>
            cases equality
            exact absurd isDigit (by decide)
        · exact unsigned

end IotLab.Library
