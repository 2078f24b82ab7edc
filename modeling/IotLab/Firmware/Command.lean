import IotLab.Library.CString

/-!
# Command lines

A command is the text `<version> <word> <argument>`.  The sink reads it from the
serial line, accepts it when its version is new and multicasts the whole line; a
sender parses the same text again.  This module holds what both sides share: the
words that are recognised, the conversions to the mote's integer types and the
reading of the version and the word from a text.
-/

namespace IotLab.Firmware

open IotLab.Library

/-- Text on the mote, without its terminating NUL. -/
abbrev Text := List Char

/-- Assignment to a `uint16_t`. -/
def toUInt16 (value : ℤ) : ℕ := (value % 65536).toNat

/-- Assignment to a `uint8_t`. -/
def toUInt8 (value : ℤ) : ℕ := (value % 256).toNat

/-- `counter++` on an `int8_t`, which wraps from 127 to -128. -/
def int8Succ (value : ℤ) : ℤ := (value + 129) % 256 - 128

theorem int8Succ_eq {value : ℤ} (low : -128 ≤ value) (high : value < 127) :
    int8Succ value = value + 1 := by
  rw [int8Succ]
  omega

theorem toUInt16_natCast {value : ℕ} (bounded : value < 65536) :
    toUInt16 value = value := by
  rw [toUInt16]
  omega

/-- The commands that reach the senders. -/
inductive CommandKind where
  | start
  | stop
  | dataPeriod
  | txpower
  | resetCvn
  deriving Repr, DecidableEq

/-- The word that `strncmp` looks for. -/
def CommandKind.word : CommandKind → Text
  | .start => "START".toList
  | .stop => "STOP".toList
  | .dataPeriod => "DATA_PERIOD".toList
  | .txpower => "TXPOWER".toList
  | .resetCvn => "RESET_CVN".toList

/-- `strncmp(word, command, strlen(word)) == 0`. -/
def CommandKind.matches (kind : CommandKind) (command : Text) : Bool :=
  strncmpEq kind.word command kind.word.length

/-- The branch of `sender_command_check` that a command word selects, tested in
the order of the source. -/
def senderBranch (command : Text) : Option CommandKind :=
  if CommandKind.start.matches command then some .start
  else if CommandKind.stop.matches command then some .stop
  else if CommandKind.dataPeriod.matches command then some .dataPeriod
  else if CommandKind.txpower.matches command then some .txpower
  else if CommandKind.resetCvn.matches command then some .resetCvn
  else none

theorem CommandKind.eq_of_matches {left right : CommandKind} {command : Text}
    (leftMatches : left.matches command = true)
    (rightMatches : right.matches command = true) : left = right := by
  simp only [CommandKind.matches, strncmpEq, List.take_length,
    beq_iff_eq] at leftMatches rightMatches
  have short : left.word.take (min left.word.length right.word.length) =
      right.word.take (min left.word.length right.word.length) := by
    rw [leftMatches, rightMatches, List.take_take, List.take_take]
    congr 1
    simp only [List.length_take]
    omega
  cases left <;> cases right <;> first | rfl | exact absurd short (by decide)

/-- The branch taken is the kind whose word the command begins with. -/
theorem senderBranch_eq_some {command : Text} {kind : CommandKind} :
    senderBranch command = some kind ↔ kind.matches command = true := by
  constructor
  · intro branch
    rw [senderBranch] at branch
    split at branch
    · cases branch
      assumption
    split at branch
    · cases branch
      assumption
    split at branch
    · cases branch
      assumption
    split at branch
    · cases branch
      assumption
    split at branch
    · cases branch
      assumption
    · cases branch
  · intro matched
    have only : ∀ other, CommandKind.matches other command = true → other = kind :=
      fun other otherMatched => CommandKind.eq_of_matches otherMatched matched
    rw [senderBranch]
    cases kind <;> simp [matched] <;> grind

/-! ## Reading a command text -/

/-- The version in front of a command, as a `uint16_t`. -/
def commandVersion (text : Text) : ℕ :=
  match strtok ' ' text with
  | none => 0
  | some (token, _) => toUInt16 (atoi token)

/-- The command word and the text after it. -/
def commandWord (text : Text) : Option (Text × Text) :=
  match strtok ' ' text with
  | none => none
  | some (_, rest) => strtok ' ' rest

/-- The kind of a command text, if the senders know its word. -/
def commandKind (text : Text) : Option CommandKind :=
  match commandWord text with
  | none => none
  | some (word, _) => senderBranch word

/-- The token after the command word. -/
def commandArgument (text : Text) : Option Text :=
  match commandWord text with
  | none => none
  | some (_, argument) => (strtok ' ' argument).map Prod.fst

/-- The senders execute the command: every kind but `RESET_CVN` needs an
argument. -/
def commandComplete (text : Text) (kind : CommandKind) : Prop :=
  kind = .resetCvn ∨ (commandArgument text).isSome = true

instance (text : Text) (kind : CommandKind) : Decidable (commandComplete text kind) :=
  inferInstanceAs (Decidable (_ ∨ _))

/-- The text has a first token. -/
def HasVersion (text : Text) : Prop := (strtok ' ' text).isSome = true

/-- The text has a second token. -/
def HasWord (text : Text) : Prop := (commandWord text).isSome = true

instance (text : Text) : Decidable (HasVersion text) :=
  inferInstanceAs (Decidable (_ = true))

instance (text : Text) : Decidable (HasWord text) := inferInstanceAs (Decidable (_ = true))

section Tokens

variable {text token rest : Text}

theorem hasVersion_of_strtok (first : strtok ' ' text = some (token, rest)) :
    HasVersion text := by
  rw [HasVersion, first]
  rfl

theorem not_hasVersion_of_strtok (first : strtok ' ' text = none) : ¬ HasVersion text := by
  rw [HasVersion, first]
  exact Bool.false_ne_true

theorem hasWord_iff_of_strtok (first : strtok ' ' text = some (token, rest)) :
    HasWord text ↔ (strtok ' ' rest).isSome = true := by
  rw [HasWord, commandWord, first]

theorem commandVersion_of_strtok (first : strtok ' ' text = some (token, rest)) :
    commandVersion text = toUInt16 (atoi token) := by
  rw [commandVersion, first]

theorem commandVersion_of_not_hasVersion (absent : ¬ HasVersion text) :
    commandVersion text = 0 := by
  cases first : strtok ' ' text with
  | none => rw [commandVersion, first]
  | some pair => exact absurd (hasVersion_of_strtok first) absent

theorem hasVersion_of_hasWord (word : HasWord text) : HasVersion text := by
  cases first : strtok ' ' text with
  | none =>
      rw [HasWord, commandWord, first] at word
      cases word
  | some pair => exact hasVersion_of_strtok first

theorem hasWord_of_commandWord {found : Text × Text} (word : commandWord text = some found) :
    HasWord text :=
  Option.isSome_iff_exists.2 ⟨found, word⟩

theorem hasWord_of_commandKind {kind : CommandKind} (known : commandKind text = some kind) :
    HasWord text := by
  cases word : commandWord text with
  | none =>
      rw [commandKind, word] at known
      cases known
  | some found => exact hasWord_of_commandWord word

end Tokens

/-- Text appended to a command changes neither its version nor its kind: the
version is closed by a blank and the word can only get longer. -/
theorem command_append {text : Text} {kind : CommandKind}
    (known : commandKind text = some kind) (extra : Text) :
    commandVersion (text ++ extra) = commandVersion text ∧
      commandKind (text ++ extra) = some kind := by
  rw [commandKind, commandWord] at known
  cases first : strtok ' ' text with
  | none => simp [first] at known
  | some pair =>
      rcases pair with ⟨token, rest⟩
      cases second : strtok ' ' rest with
      | none => simp [first, second] at known
      | some found =>
          rcases found with ⟨word, argument⟩
          simp only [first, second] at known
          have closed : rest ≠ [] := by
            intro empty
            simp [empty, strtok] at second
          have versionToken := strtok_append first closed extra
          rcases strtok_append_prefix second extra with
            ⟨longer, remaining, wordToken, extends_⟩
          constructor
          · simp only [commandVersion, first, versionToken]
          · simp only [commandKind, commandWord, versionToken, wordToken]
            rw [senderBranch_eq_some] at known ⊢
            exact strncmpEq_of_prefix extends_ known

end IotLab.Firmware
