import IotLab.Library.Decimal
import IotLab.Library.Tokens

/-!
# JSON values and their text

`Json.toText` is the JSON text of a value, which is what a value prints as.  A
string is printed with its quotes, so its text is never the string itself, and no
number can be read from it.
-/

namespace IotLab.Library

/-- The text of a number: it begins with a digit or a minus sign. -/
structure JsonNumber where
  text : List Char
  numeral : ∃ char rest, text = char :: rest ∧ (char = '-' ∨ char.isDigit = true)

/-- A JSON value. -/
inductive Json where
  | null
  | boolean (value : Bool)
  | number (value : JsonNumber)
  | string (value : List Char)
  | array (items : List Json)
  | object (members : List (List Char × Json))

/-- A hexadecimal digit. -/
def hexDigit (value : ℕ) : Char := Nat.digitChar (value % 16)

/-- A character inside of a string. -/
def escapeChar (char : Char) : List Char :=
  if char = '"' then ['\\', '"']
  else if char = '\\' then ['\\', '\\']
  else if char = '\x08' then ['\\', 'b']
  else if char = '\x0c' then ['\\', 'f']
  else if char = '\n' then ['\\', 'n']
  else if char = '\r' then ['\\', 'r']
  else if char = '\t' then ['\\', 't']
  else if char < ' ' then
    ['\\', 'u', '0', '0', hexDigit (char.toNat / 16), hexDigit char.toNat]
  else [char]

/-- A string between quotes. -/
def quote (value : List Char) : List Char := '"' :: (value.flatMap escapeChar ++ ['"'])

mutual

/-- `Json.toString`. -/
def Json.toText : Json → List Char
  | .null => "null".toList
  | .boolean true => "true".toList
  | .boolean false => "false".toList
  | .number value => value.text
  | .string value => quote value
  | .array items => '[' :: ([','].intercalate (itemTexts items) ++ [']'])
  | .object members => '\x7b' :: ([','].intercalate (memberTexts members) ++ ['\x7d'])

def itemTexts : List Json → List (List Char)
  | [] => []
  | item :: rest => item.toText :: itemTexts rest

def memberTexts : List (List Char × Json) → List (List Char)
  | [] => []
  | (key, value) :: rest => (quote key ++ ':' :: value.toText) :: memberTexts rest

end

/-- `JsonObject.get`: the last member with a key. -/
def getMember (members : List (List Char × Json)) (key : List Char) :
    Option Json :=
  (members.reverse.find? fun member => member.1 == key).map Prod.snd

theorem not_isDigit_of_isAlpha {char : Char} (letter : char.isAlpha = true) :
    char.isDigit = false := by
  have letter : (decide ('A'.val ≤ char.val ∧ char.val ≤ 'Z'.val) ||
      decide ('a'.val ≤ char.val) && decide (char.val ≤ 'z'.val)) = true := letter
  have above : 'A'.toNat ≤ char.toNat := by
    simp only [Bool.or_eq_true, Bool.and_eq_true, decide_eq_true_eq] at letter
    cases letter with
    | inl upper => exact UInt32.le_iff_toNat_le.1 upper.1
    | inr lower =>
        exact le_trans (by decide : 'A'.toNat ≤ 'a'.toNat) (UInt32.le_iff_toNat_le.1 lower.1)
  rw [Bool.eq_false_iff]
  intro digit
  have below : char.toNat ≤ '9'.toNat := (Char.isDigit_iff_toNat.1 digit).2
  exact absurd (above.trans below) (by decide)

/-- The texts that some value prints as and that begin with a letter. -/
theorem Json.toText_of_isAlpha {value : Json} {char : Char} {rest : List Char}
    (printed : value.toText = char :: rest) (letter : char.isAlpha = true) :
    char :: rest ∈ ["null".toList, "true".toList, "false".toList] := by
  cases value with
  | null =>
      rw [← printed, Json.toText]
      decide
  | boolean value =>
      cases value <;> rw [← printed, Json.toText] <;> decide
  | number value =>
      obtain ⟨first, others, text, numeral⟩ := value.numeral
      rw [Json.toText, text] at printed
      cases printed
      cases numeral with
      | inl minus =>
          subst minus
          exact absurd letter (by decide)
      | inr digit =>
          exact absurd digit (by simp [not_isDigit_of_isAlpha letter])
  | string value =>
      rw [Json.toText, quote] at printed
      cases printed
      exact absurd letter (by decide)
  | array items =>
      rw [Json.toText] at printed
      cases printed
      exact absurd letter (by decide)
  | object members =>
      rw [Json.toText] at printed
      cases printed
      exact absurd letter (by decide)

end IotLab.Library
