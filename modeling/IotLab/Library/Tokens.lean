import IotLab.Library.CString
import IotLab.Library.Decimal

/-!
# Lines of tokens

The functions of the Java library that take a line of text apart: `String.trim`
and `String.split` with a single separator or with runs of separators.  Tokens
joined by one blank each are found again by all of them.
-/

namespace IotLab.Library

/-- The characters that `String.trim` removes. -/
def isTrimmed (char : Char) : Bool := char ≤ ' '

/-- `String.trim`. -/
def trim (text : List Char) : List Char :=
  ((text.dropWhile isTrimmed).reverse.dropWhile isTrimmed).reverse

/-- The regular expression `[ \t]`. -/
def isBlank (char : Char) : Bool := char = ' ' || char = '\t'

/-- Trailing empty strings are not part of the result of `String.split`. -/
def dropTrailingEmpty (pieces : List (List Char)) : List (List Char) :=
  (pieces.reverse.dropWhile List.isEmpty).reverse

/-- `String.split` at every single separator; without a separator the text itself
is the only piece. -/
def splitEach (separator : Char → Bool) (text : List Char) : List (List Char) :=
  if text.any separator then dropTrailingEmpty (text.splitOnP separator)
  else [text]

/-- The pieces between runs of separators: only the first one can be empty. -/
def mergeRuns : List (List Char) → List (List Char)
  | [] => []
  | first :: rest => first :: rest.filter fun piece => !piece.isEmpty

/-- `String.split` at every run of separators. -/
def splitRuns (separator : Char → Bool) (text : List Char) : List (List Char) :=
  if text.any separator then
    dropTrailingEmpty (mergeRuns (text.splitOnP separator))
  else [text]

/-- Tokens with one blank between them. -/
def joinBlank (tokens : List (List Char)) : List Char :=
  [' '].intercalate tokens

/-- A nonempty text of characters above the blank. -/
structure Visible (token : List Char) : Prop where
  nonempty : token ≠ []
  above : ∀ char ∈ token, ' ' < char

/-! ## Visible characters -/

theorem isTrimmed_of_above {char : Char} (above : ' ' < char) :
    isTrimmed char = false := by
  simp only [isTrimmed, decide_eq_false_iff_not, Char.not_le]
  exact above

theorem isSpace_of_above {char : Char} (above : ' ' < char) :
    isSpace char = false := by
  cases space : isSpace char with
  | false => rfl
  | true =>
      simp only [isSpace, Bool.or_eq_true, decide_eq_true_eq] at space
      rcases space with ((((rfl | rfl) | rfl) | rfl) | rfl) | rfl <;>
        exact absurd above (by decide)

theorem isBlank_of_above {char : Char} (above : ' ' < char) :
    isBlank char = false := by
  cases blank : isBlank char with
  | false => rfl
  | true =>
      simp only [isBlank, Bool.or_eq_true, decide_eq_true_eq] at blank
      rcases blank with rfl | rfl <;> exact absurd above (by decide)

/-- Printed integers are visible. -/
theorem visible_printInt (value : ℤ) : Visible (printInt value) := by
  constructor
  · exact printInt_ne_nil value
  · intro char member
    have digit : ∀ digits, char ∈ Nat.toDigits 10 digits → ' ' < char := by
      intro digits inside
      have isDigit := isDigit_of_mem_toDigits inside
      simp only [Char.isDigit, Bool.and_eq_true, decide_eq_true_eq] at isDigit
      have below : ' '.val < '0'.val := by decide
      exact UInt32.lt_of_lt_of_le below isDigit.1
    simp only [printInt] at member
    split at member
    · rcases List.mem_cons.1 member with rfl | inside
      · decide
      · exact digit _ inside
    · exact digit _ member

/-! ## Joined tokens -/

theorem joinBlank_cons {token : List Char} {rest : List (List Char)}
    (more : rest ≠ []) :
    joinBlank (token :: rest) = token ++ ' ' :: joinBlank rest := by
  simp only [joinBlank, List.intercalate_cons_of_ne_nil more, List.append_assoc,
    List.singleton_append]

@[simp] theorem joinBlank_singleton (token : List Char) :
    joinBlank [token] = token := by
  simp [joinBlank]

theorem joinBlank_eq_append (token : List Char) (rest : List (List Char)) :
    joinBlank (token :: rest) = token ++ rest.flatMap fun other => ' ' :: other := by
  induction rest generalizing token with
  | nil => simp
  | cons next others ih =>
      rw [joinBlank_cons (List.cons_ne_nil _ _), ih, List.flatMap_cons,
        List.cons_append]

/-- A character of joined tokens is a blank or belongs to a token. -/
theorem mem_joinBlank {char : Char} {tokens : List (List Char)}
    (member : char ∈ joinBlank tokens) :
    char = ' ' ∨ ∃ token ∈ tokens, char ∈ token := by
  cases tokens with
  | nil => simp [joinBlank] at member
  | cons token rest =>
      rw [joinBlank_eq_append] at member
      rcases List.mem_append.1 member with first | later
      · exact .inr ⟨token, List.mem_cons_self, first⟩
      · rcases List.mem_flatMap.1 later with ⟨other, inside, found⟩
        rcases List.mem_cons.1 found with blank | within
        · exact .inl blank
        · exact .inr ⟨other, List.mem_cons_of_mem _ inside, within⟩

variable {separator : Char → Bool} {tokens : List (List Char)}

/-- Splitting finds the joined tokens. -/
theorem splitOnP_joinBlank (blank : separator ' ' = true)
    (above : ∀ char, ' ' < char → separator char = false) (some_ : tokens ≠ [])
    (visible : ∀ token ∈ tokens, Visible token) :
    (joinBlank tokens).splitOnP separator = tokens := by
  induction tokens with
  | nil => exact absurd rfl some_
  | cons token rest ih =>
      have clean : ∀ char ∈ token, separator char = false := fun char member =>
        above char ((visible token List.mem_cons_self).above char member)
      cases rest with
      | nil =>
          rw [joinBlank_singleton]
          exact List.splitOnP_eq_singleton clean
      | cons next others =>
          have more : next :: others ≠ [] := List.cons_ne_nil _ _
          rw [joinBlank_cons more,
            List.splitOnP_append_cons_of_forall_mem clean ' ' blank, ih more]
          intro other member
          exact visible other (List.mem_cons_of_mem _ member)

theorem dropTrailingEmpty_of_nonempty (nonempty : ∀ token ∈ tokens, token ≠ []) :
    dropTrailingEmpty tokens = tokens := by
  have kept : tokens.reverse.dropWhile List.isEmpty = tokens.reverse := by
    cases backwards : tokens.reverse with
    | nil => rfl
    | cons last others =>
        apply List.dropWhile_cons_of_neg
        have member : last ∈ tokens := by
          rw [← List.mem_reverse, backwards]
          exact List.mem_cons_self
        simpa using nonempty last member
  rw [dropTrailingEmpty, kept, List.reverse_reverse]

theorem dropTrailingEmpty_of_visible (visible : ∀ token ∈ tokens, Visible token) :
    dropTrailingEmpty tokens = tokens :=
  dropTrailingEmpty_of_nonempty fun token member => (visible token member).nonempty

/-- Between separators only there is nothing but empty texts. -/
theorem forall_splitOnP_isEmpty_iff (text : List Char) :
    (∀ piece ∈ text.splitOnP separator, piece.isEmpty = true) ↔
      ∀ char ∈ text, separator char = true := by
  induction text with
  | nil => simp
  | cons char rest ih =>
      rw [List.splitOnP_cons_eq_if_modifyHead]
      by_cases blank : separator char = true
      · rw [if_pos blank]
        simpa [blank] using ih
      · rw [if_neg blank]
        obtain ⟨piece, pieces, equality⟩ := List.exists_cons_of_ne_nil
          (List.splitOnP_ne_nil separator rest)
        simp [equality, blank]

/-- Nothing is left of a text of separators. -/
theorem splitEach_eq_nil_iff (text : List Char) :
    splitEach separator text = [] ↔ text ≠ [] ∧ ∀ char ∈ text, separator char = true := by
  simp only [splitEach]
  split
  · next found =>
      have nonempty : text ≠ [] := by
        rintro rfl
        cases found
      rw [dropTrailingEmpty, List.reverse_eq_nil_iff, List.dropWhile_eq_nil_iff,
        and_iff_right nonempty, ← forall_splitOnP_isEmpty_iff]
      simp only [List.mem_reverse]
  · next none =>
      simp only [List.cons_ne_nil, false_iff, not_and, not_forall]
      intro nonempty
      obtain ⟨char, member⟩ := List.exists_mem_of_ne_nil text nonempty
      exact ⟨char, member, fun blank => none (List.any_eq_true.2 ⟨char, member, blank⟩)⟩

theorem mergeRuns_of_visible (visible : ∀ token ∈ tokens, Visible token) :
    mergeRuns tokens = tokens := by
  cases tokens with
  | nil => rfl
  | cons first rest =>
      simp only [mergeRuns, List.cons.injEq, true_and, List.filter_eq_self]
      intro token member
      simpa using (visible token (List.mem_cons_of_mem _ member)).nonempty

theorem splitEach_joinBlank (blank : separator ' ' = true)
    (above : ∀ char, ' ' < char → separator char = false) (some_ : tokens ≠ [])
    (visible : ∀ token ∈ tokens, Visible token) :
    splitEach separator (joinBlank tokens) = tokens := by
  have pieces := splitOnP_joinBlank blank above some_ visible
  simp only [splitEach]
  split
  · rw [pieces]
    exact dropTrailingEmpty_of_visible visible
  · next none =>
      have whole := List.splitOnP_eq_singleton (p := separator)
        (by simpa using none)
      exact whole.symm.trans pieces

theorem splitRuns_joinBlank (blank : separator ' ' = true)
    (above : ∀ char, ' ' < char → separator char = false) (some_ : tokens ≠ [])
    (visible : ∀ token ∈ tokens, Visible token) :
    splitRuns separator (joinBlank tokens) = tokens := by
  have pieces := splitOnP_joinBlank blank above some_ visible
  simp only [splitRuns]
  split
  · rw [pieces, mergeRuns_of_visible visible]
    exact dropTrailingEmpty_of_visible visible
  · next none =>
      have whole := List.splitOnP_eq_singleton (p := separator)
        (by simpa using none)
      exact whole.symm.trans pieces

/-- A text that begins and ends with visible characters is not trimmed. -/
theorem trim_eq_self {text : List Char}
    (first : ∀ char ∈ text.head?, ' ' < char)
    (last : ∀ char ∈ text.getLast?, ' ' < char) : trim text = text := by
  have front : text.dropWhile isTrimmed = text := by
    cases text with
    | nil => rfl
    | cons char rest =>
        apply List.dropWhile_cons_of_neg
        simpa using isTrimmed_of_above (first char rfl)
  have back : text.reverse.dropWhile isTrimmed = text.reverse := by
    cases backwards : text.reverse with
    | nil => rfl
    | cons char rest =>
        apply List.dropWhile_cons_of_neg
        have final : char ∈ text.getLast? := by
          rw [List.getLast?_eq_head?_reverse, backwards]
          rfl
        simpa using isTrimmed_of_above (last char final)
  rw [trim, front, back, List.reverse_reverse]

theorem joinBlank_ne_nil (some_ : tokens ≠ [])
    (visible : ∀ token ∈ tokens, Visible token) : joinBlank tokens ≠ [] := by
  cases tokens with
  | nil => exact absurd rfl some_
  | cons token rest =>
      cases rest with
      | nil =>
          rw [joinBlank_singleton]
          exact (visible token List.mem_cons_self).nonempty
      | cons next others =>
          rw [joinBlank_cons (List.cons_ne_nil _ _)]
          simp

theorem trim_joinBlank (visible : ∀ token ∈ tokens, Visible token) :
    trim (joinBlank tokens) = joinBlank tokens := by
  apply trim_eq_self
  · cases tokens with
    | nil => simp [joinBlank]
    | cons token rest =>
        intro char member
        have first := visible token List.mem_cons_self
        apply first.above
        cases token with
        | nil => exact absurd rfl first.nonempty
        | cons head tail =>
            cases rest with
            | nil =>
                rw [joinBlank_singleton] at member
                exact List.mem_of_mem_head? member
            | cons next others =>
                rw [joinBlank_cons (List.cons_ne_nil _ _)] at member
                cases member
                exact List.mem_cons_self
  · induction tokens with
    | nil => simp [joinBlank]
    | cons token rest ih =>
        intro char member
        cases rest with
        | nil =>
            rw [joinBlank_singleton] at member
            exact (visible token List.mem_cons_self).above char
              (List.mem_of_mem_getLast? member)
        | cons next others =>
            have restVisible : ∀ other ∈ next :: others, Visible other :=
              fun other inside => visible other (List.mem_cons_of_mem _ inside)
            have more := List.cons_ne_nil next others
            have final := List.getLast?_eq_some_getLast (joinBlank_ne_nil more restVisible)
            rw [joinBlank_cons more, List.getLast?_append,
              List.getLast?_cons_of_ne_nil (joinBlank_ne_nil more restVisible),
              final, Option.some_or, ← final] at member
            exact ih restVisible char member

/-! ## Pieces that are not empty -/

theorem mem_dropTrailingEmpty {piece : List Char} {pieces : List (List Char)}
    (nonempty : piece ≠ []) :
    piece ∈ dropTrailingEmpty pieces ↔ piece ∈ pieces := by
  have split := List.takeWhile_append_dropWhile (p := List.isEmpty) (l := pieces.reverse)
  have notTaken : piece ∉ pieces.reverse.takeWhile List.isEmpty := by
    intro member
    exact nonempty (List.isEmpty_iff.1 (List.mem_takeWhile_imp member))
  have reversed : piece ∈ pieces ↔ piece ∈ pieces.reverse := List.mem_reverse.symm
  rw [dropTrailingEmpty, List.mem_reverse, reversed, ← split, List.mem_append]
  simp [notTaken]

theorem mem_splitEach {separator : Char → Bool} {text piece : List Char}
    (nonempty : piece ≠ []) :
    piece ∈ splitEach separator text ↔ piece ∈ text.splitOnP separator := by
  rw [splitEach]
  split
  · exact mem_dropTrailingEmpty nonempty
  · next none =>
      rw [List.splitOnP_eq_singleton]
      simpa using none

end IotLab.Library
