import IotLab.Firmware.SenderCommand
import IotLab.Firmware.SinkCommand

/-!
# The tokens that are used

`command_sink_check` and `sender_command_check` hand the results of `strtok` to `atoi` and
`strncmp`.  Only the third token is compared with `NULL` before; a text without a first or a
second token makes them read a null pointer.
-/

namespace IotLab.Firmware

open IotLab.Library

/-- The results of `strtok` that `command_sink_check` hands to `atoi` and `strncmp`, up to a
null pointer. -/
def sinkTokens (state : SinkState) (data : Text) : List (Option Text) :=
  let line := cString data
  match strtok ' ' line with
  | none => [none]
  | some (token, rest) =>
      let cvn := toUInt16 (atoi token)
      if cvn = 0 then [some token]
      else if state.ccvn < cvn then
        match strtok ' ' rest with
        | none => [some token, none]
        | some (command, argument) =>
            [some token, some command] ++
              if sinkBranch command = some (.sender .txpower) then
                -- a missing value is found before it is used
                match strtok ' ' argument with
                | none => []
                | some (value, _) => [some value]
              else []
      else [some token]

/-- The results of `strtok` that `sender_command_check` hands to `atoi` and `strncmp`, and
to the modules, which compare their names. -/
def senderTokens (state : SenderState) (buffer : Text) : List (Option Text) :=
  let text := cString buffer
  match strtok ' ' text with
  | none => [none]
  | some (token, rest) =>
      let cvn := toUInt16 (atoi token)
      if state.ccvn ≤ cvn then
        match strtok ' ' rest with
        | none => [some token, none]
        | some (command, argument) =>
            [some token, some command] ++
              match senderBranch command with
              | none => []
              | some .resetCvn => []
              | some _ =>
                  match strtok ' ' argument with
                  | none => []
                  | some (value, _) => [some value]
      else [some token]

/-! ## Null tokens -/

theorem sinkTokens_nonnull_iff (state : SinkState) (data : Text) :
    none ∉ sinkTokens state data ↔
      HasVersion (cString data) ∧
        (commandVersion (cString data) ≤ state.ccvn ∨ HasWord (cString data)) := by
  simp only [sinkTokens]
  cases first : strtok ' ' (cString data) with
  | none => simp [not_hasVersion_of_strtok first]
  | some pair =>
      obtain ⟨token, rest⟩ := pair
      simp only [hasVersion_of_strtok first, hasWord_iff_of_strtok first, true_and,
        ← commandVersion_of_strtok first]
      split
      · next zero => simp [zero]
      · split
        · next newer =>
            cases second : strtok ' ' rest with
            | none => simp [newer]
            | some found =>
                simp only [Option.isSome_some, or_true, iff_true]
                split
                · cases strtok ' ' found.2 with
                  | none => simp
                  | some value => simp
                · simp
        · next older => simp [Nat.not_lt.1 older]

theorem senderTokens_nonnull_iff (state : SenderState) (buffer : Text) :
    none ∉ senderTokens state buffer ↔
      HasVersion (cString buffer) ∧
        (commandVersion (cString buffer) < state.ccvn ∨ HasWord (cString buffer)) := by
  simp only [senderTokens]
  cases first : strtok ' ' (cString buffer) with
  | none => simp [not_hasVersion_of_strtok first]
  | some pair =>
      obtain ⟨token, rest⟩ := pair
      simp only [hasVersion_of_strtok first, hasWord_iff_of_strtok first, true_and,
        ← commandVersion_of_strtok first]
      split
      · next passes =>
          cases second : strtok ' ' rest with
          | none => simp [passes]
          | some found =>
              simp only [Option.isSome_some, or_true, iff_true]
              cases senderBranch found.1 with
              | none => simp
              | some kind =>
                  cases kind with
                  | resetCvn => simp
                  | start | stop | dataPeriod | txpower =>
                      cases strtok ' ' found.2 with
                      | none => simp
                      | some value => simp
      · next older => simp [Nat.not_le.1 older]

/-- No null token is used if and only if there is a first token and, unless the version is
refused, a second one. -/
theorem tokens_nonnull_iff (sink : SinkState) (sender : SenderState) (text : Text) :
    (none ∉ sinkTokens sink text ↔
      HasVersion (cString text) ∧
        (commandVersion (cString text) ≤ sink.ccvn ∨ HasWord (cString text))) ∧
    (none ∉ senderTokens sender text ↔
      HasVersion (cString text) ∧
        (commandVersion (cString text) < sender.ccvn ∨ HasWord (cString text))) :=
  ⟨sinkTokens_nonnull_iff sink text, senderTokens_nonnull_iff sender text⟩

/-- An empty line on the sink, and a version without a word on a sender. -/
theorem tokens_null : none ∈ sinkTokens {} [] ∧ none ∈ senderTokens {} "7".toList := by
  decide

/-! ## The verdicts -/

/-- The sink uses a null pointer if and only if its verdict says so. -/
theorem sinkTokens_null_iff (state : SinkState) (data : Text) :
    none ∈ sinkTokens state data ↔
      (sinkCommandCheck state data).verdict = .nullVersion ∨
        (sinkCommandCheck state data).verdict = .nullCommand := by
  rw [← not_iff_not, sinkTokens_nonnull_iff]
  have all := sinkCommandCheck_cases state data
  generalize sinkCommandCheck state data = reply at all ⊢
  cases all with
  | nullVersion absent => simp [absent]
  | noVersion version zero => simp [version, zero]
  | obsolete version _ older => simp [version, older]
  | nullCommand _ newer absent => simp [absent, Nat.not_le.2 newer]
  | executed command argument _ known =>
      have word := hasWord_of_commandWord known
      have used := sinkExecute_verdict { ccvn := commandVersion (cString data) }
        (cString data) command argument
      simp [word, hasVersion_of_hasWord word, used]

/-- A sender uses a null pointer if and only if its verdict says so. -/
theorem senderTokens_null_iff (state : SenderState) (buffer : Text) :
    none ∈ senderTokens state buffer ↔
      (senderCommandCheck state buffer).verdict = .nullToken := by
  rw [← not_iff_not, senderTokens_nonnull_iff]
  have all := senderCommandCheck_cases state buffer
  generalize senderCommandCheck state buffer = reply at all ⊢
  cases all with
  | noVersion absent => simp [absent]
  | obsolete version older => simp [version, older]
  | noWord _ passes absent => simp [absent, Nat.not_lt.2 passes]
  | unhandled _ word _ => simp [word, hasVersion_of_hasWord word]
  | incomplete kind _ known _ | executed kind _ _ known _ _ =>
      have word := hasWord_of_commandKind known
      simp [word, hasVersion_of_hasWord word, SenderState.finish]

end IotLab.Firmware
