import IotLab.Library.Decimal
import Mathlib.Data.List.TakeWhile

/-!
# C strings

The functions of the C library that line-oriented firmware uses on text:
`strtok` with one delimiter, `atoi` and the zero test of `strncmp`.  A buffer is a
list of characters and the string in it ends before the first NUL.  The lemmas
say how a token survives when more text follows it, which is what matters when a
buffer is longer than the message that was written into it.
-/

namespace IotLab.Library

/-- The string at the start of a buffer: everything before the first NUL. -/
def cString (buffer : List Char) : List Char :=
  buffer.takeWhile (· != '\x00')

/-- `strtok`: skip delimiters, return the next token and what follows the
delimiter that ends it, or `none` for the null pointer. -/
def strtok (delimiter : Char) (text : List Char) :
    Option (List Char × List Char) :=
  match text.dropWhile (· == delimiter) with
  | [] => none
  | char :: rest =>
      some ((char :: rest).takeWhile (· != delimiter),
        ((char :: rest).dropWhile (· != delimiter)).tail)

/-- `isspace` in the C locale. -/
def isSpace (char : Char) : Bool :=
  char = ' ' || char = '\t' || char = '\n' || char = '\x0b' || char = '\x0c' ||
    char = '\r'

/-- `atoi` over unbounded integers: white space, an optional sign, digits.  The
caller reduces the result to the width of its type. -/
def atoi (text : List Char) : ℤ :=
  match text.dropWhile isSpace with
  | '-' :: rest => -(leadingDigits rest : ℤ)
  | '+' :: rest => leadingDigits rest
  | digits => leadingDigits digits

/-- `strncmp(left, right, count) == 0` for strings without NUL. -/
def strncmpEq (left right : List Char) (count : ℕ) : Bool :=
  left.take count == right.take count

/-! ## Buffers -/

theorem nul_not_mem_cString (buffer : List Char) :
    '\x00' ∉ cString buffer := by
  intro member
  have differs := List.mem_takeWhile_imp member
  simp at differs

theorem cString_append {text : List Char} (noNul : '\x00' ∉ text)
    (tail : List Char) : cString (text ++ tail) = text ++ cString tail := by
  apply List.takeWhile_append_of_pos
  intro char member
  have differs : char ≠ '\x00' := fun equality => noNul (equality ▸ member)
  simpa using differs

/-! ## Tokens -/

/-- The token found behind leading delimiters extends up to the next delimiter
of what follows it. -/
theorem strtok_eq {delimiter : Char} {blanks token : List Char}
    (blank : ∀ char ∈ blanks, char = delimiter)
    (nonempty : token ≠ []) (clean : delimiter ∉ token) (tail : List Char) :
    strtok delimiter (blanks ++ (token ++ tail)) =
      some (token ++ tail.takeWhile (· != delimiter),
        (tail.dropWhile (· != delimiter)).tail) := by
  cases token with
  | nil => exact absurd rfl nonempty
  | cons char chars =>
      have skipped : (blanks ++ (char :: chars ++ tail)).dropWhile (· == delimiter) =
          char :: (chars ++ tail) := by
        rw [List.dropWhile_append_of_pos]
        · rw [List.cons_append, List.dropWhile_cons_of_neg]
          intro equality
          apply clean
          simp only [beq_iff_eq] at equality
          simp [equality]
        · intro other member
          simpa using blank other member
      have inside : ∀ other ∈ char :: chars, (other != delimiter) = true := by
        intro other member
        have differs : other ≠ delimiter :=
          fun equality => clean (equality ▸ member)
        simpa using differs
      rw [strtok, skipped]
      simp only [Option.some.injEq, Prod.mk.injEq]
      rw [← List.cons_append]
      constructor
      · exact List.takeWhile_append_of_pos inside
      · rw [List.dropWhile_append_of_pos inside]

/-- A token that is followed by the delimiter is returned together with the text
after the delimiter. -/
theorem strtok_token {delimiter : Char} {token : List Char}
    (nonempty : token ≠ []) (clean : delimiter ∉ token) (rest : List Char) :
    strtok delimiter (token ++ delimiter :: rest) = some (token, rest) := by
  have found : strtok delimiter ([] ++ (token ++ delimiter :: rest)) = _ :=
    strtok_eq (by simp) nonempty clean (delimiter :: rest)
  simpa using found

/-- What a successful `strtok` says about its argument. -/
theorem strtok_spec {delimiter : Char} {text token rest : List Char}
    (split : strtok delimiter text = some (token, rest)) :
    ∃ blanks tail, text = blanks ++ (token ++ tail) ∧
      (∀ char ∈ blanks, char = delimiter) ∧ token ≠ [] ∧ delimiter ∉ token ∧
      tail.takeWhile (· != delimiter) = [] ∧ rest = tail.tail := by
  rw [strtok] at split
  cases skipped : text.dropWhile (· == delimiter) with
  | nil => simp [skipped] at split
  | cons char chars =>
      simp only [skipped, Option.some.injEq, Prod.mk.injEq] at split
      have notBlank : (char == delimiter) = false := by
        have head := List.head?_dropWhile_not (· == delimiter) text
        simpa [skipped] using head
      have differs : (char != delimiter) = true := by
        simpa [bne] using notBlank
      refine ⟨text.takeWhile (· == delimiter),
        (char :: chars).dropWhile (· != delimiter), ?_, ?_, ?_, ?_, ?_, ?_⟩
      · rw [← split.1, List.takeWhile_append_dropWhile, ← skipped,
          List.takeWhile_append_dropWhile]
      · intro other member
        simpa using List.mem_takeWhile_imp member
      · rw [← split.1,
          List.takeWhile_cons_of_pos (p := (· != delimiter)) differs]
        exact List.cons_ne_nil _ _
      · intro member
        rw [← split.1] at member
        simpa using List.mem_takeWhile_imp member
      · rw [List.takeWhile_eq_nil_iff]
        intro positive
        have head := List.head_dropWhile_not (· != delimiter)
          (List.ne_nil_of_length_pos positive)
        simpa [List.head_eq_getElem] using head
      · exact split.2.symm

/-- Text appended to a string leaves a token alone that is already closed by a
delimiter. -/
theorem strtok_append {delimiter : Char} {text token rest : List Char}
    (split : strtok delimiter text = some (token, rest)) (closed : rest ≠ [])
    (extra : List Char) :
    strtok delimiter (text ++ extra) = some (token, rest ++ extra) := by
  rcases strtok_spec split with
    ⟨blanks, tail, rfl, blank, nonempty, clean, stops, rfl⟩
  rw [List.append_assoc, List.append_assoc,
    strtok_eq blank nonempty clean (tail ++ extra)]
  cases tail with
  | nil => exact absurd rfl closed
  | cons stop others =>
      have isDelimiter : stop = delimiter := by simpa using stops
      subst isDelimiter
      simp

theorem strtok_append_prefix {delimiter : Char} {text token rest : List Char}
    (split : strtok delimiter text = some (token, rest)) (extra : List Char) :
    ∃ longer remaining,
      strtok delimiter (text ++ extra) = some (longer, remaining) ∧
        token <+: longer := by
  rcases strtok_spec split with ⟨blanks, tail, rfl, blank, nonempty, clean, _, _⟩
  rw [List.append_assoc, List.append_assoc,
    strtok_eq blank nonempty clean (tail ++ extra)]
  exact ⟨_, _, rfl, List.prefix_append _ _⟩

/-! ## Numbers and comparisons -/

/-- `atoi` reads a printed natural number back. -/
@[simp] theorem atoi_toDigits (value : ℕ) :
    atoi (Nat.toDigits 10 value) = value := by
  cases printed : Nat.toDigits 10 value with
  | nil => exact absurd printed Nat.toDigits_ne_nil
  | cons char rest =>
      have member : char ∈ Nat.toDigits 10 value := by simp [printed]
      have digit := isDigit_of_mem_toDigits member
      have notSpace : ¬isSpace char = true := by
        intro space
        simp only [isSpace, Bool.or_eq_true, decide_eq_true_eq] at space
        rcases space with ((((rfl | rfl) | rfl) | rfl) | rfl) | rfl <;>
          exact absurd digit (by decide)
      have value_eq := leadingDigits_toDigits value
      rw [printed] at value_eq
      rw [atoi]
      rw [List.dropWhile_cons_of_neg notSpace]
      split
      · next equality =>
          cases equality
          exact absurd digit (by decide)
      · next equality =>
          cases equality
          exact absurd digit (by decide)
      · rw [value_eq]

theorem strncmpEq_of_prefix {word token longer : List Char}
    (extends_ : token <+: longer)
    (matched : strncmpEq word token word.length = true) :
    strncmpEq word longer word.length = true := by
  rcases extends_ with ⟨extra, rfl⟩
  simp only [strncmpEq, List.take_length, beq_iff_eq] at matched ⊢
  have long : word.length ≤ token.length := by
    have lengths := congrArg List.length matched
    simp only [List.length_take] at lengths
    omega
  rw [List.take_append_of_le_length long]
  exact matched

end IotLab.Library
