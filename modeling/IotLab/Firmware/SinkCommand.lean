import IotLab.Firmware.Command

/-!
# Commands on the sink

`command_sink_check` runs when a line arrives on the serial port.  A line must
have a version that is greater than the stored one.  The commands for the senders
are multicast as they came, the others are handled on the sink itself.
-/

namespace IotLab.Firmware

open IotLab.Library

/-- The static variable `ccvn`. -/
structure SinkState where
  ccvn : ℕ := 0
  deriving Repr, DecidableEq

/-- Calls out of `command_sink_check`. -/
inductive SinkCall where
  | strdup (text : Text)
  | free
  | printf (text : Text)
  | multicastSend (text : Text)
  | printSinkIdDvn
  | rplRepairRoot
  | setTxpower (power : ℕ)
  deriving Repr, DecidableEq

/-- How `command_sink_check` ends. -/
inductive SinkVerdict where
  /-- The null pointer of the first `strtok` is handed to `atoi`. -/
  | nullVersion
  | noVersion
  | obsolete
  /-- The null pointer of the second `strtok` is handed to `strncmp`. -/
  | nullCommand
  | multicast (kind : CommandKind)
  | handled
  | incomplete
  | unhandled
  deriving Repr, DecidableEq

/-- The line passed the test of its version, which is now stored. -/
def SinkVerdict.accepted : SinkVerdict → Bool
  | .nullVersion | .noVersion | .obsolete => false
  | .nullCommand | .multicast _ | .handled | .incomplete | .unhandled => true

structure SinkReply where
  state : SinkState
  verdict : SinkVerdict
  calls : List SinkCall
  deriving Repr, DecidableEq

/-- The branches of the chain of comparisons. -/
inductive SinkBranch where
  | sender (kind : CommandKind)
  | sinkIdDvn
  | globalRepair
  deriving Repr, DecidableEq

/-- The branch of `command_sink_check` that a command word selects, tested in the
order of the source. -/
def sinkBranch (command : Text) : Option SinkBranch :=
  if CommandKind.start.matches command then some (.sender .start)
  else if CommandKind.stop.matches command then some (.sender .stop)
  else if CommandKind.dataPeriod.matches command then some (.sender .dataPeriod)
  else if strncmpEq command "SINK_ID_DVN".toList 11 then some .sinkIdDvn
  else if strncmpEq command "GLOBAL_REPAIR".toList 13 then some .globalRepair
  else if CommandKind.txpower.matches command then some (.sender .txpower)
  else if CommandKind.resetCvn.matches command then some (.sender .resetCvn)
  else none

/-- The line `Received command : <word>`. -/
def receivedCommand (command : Text) : SinkCall :=
  .printf ("Received command : ".toList ++ command ++ ['\n'])

/-- The part of `command_sink_check` behind the version test. -/
def sinkExecute (state : SinkState) (line command argument : Text) : SinkReply :=
  match sinkBranch command with
  | some (.sender .txpower) =>
      match strtok ' ' argument with
      -- the source returns here without freeing the backup
      | none =>
          ⟨state, .incomplete, [.strdup line, receivedCommand command,
            .printf "The value of the txpower is missing\n".toList]⟩
      | some (value, _) =>
          ⟨state, .multicast .txpower, [.strdup line, receivedCommand command,
            .setTxpower (toUInt8 (atoi value)), .multicastSend line, .free]⟩
  | some (.sender .resetCvn) =>
      ⟨{ ccvn := 0 }, .multicast .resetCvn, [.strdup line,
        .printf "Reset command version number\n".toList, .multicastSend line,
        .free]⟩
  | some (.sender kind) =>
      ⟨state, .multicast kind, [.strdup line, receivedCommand command,
        .multicastSend line, .free]⟩
  | some .sinkIdDvn =>
      ⟨state, .handled, [.strdup line, .printSinkIdDvn, .free]⟩
  | some .globalRepair =>
      ⟨state, .handled, [.strdup line,
        .printf "Initiating global repair\n".toList, .rplRepairRoot, .free]⟩
  | none =>
      ⟨state, .unhandled, [.strdup line,
        .printf ("Unhandled command: ".toList ++ command ++ ['\n']), .free]⟩

/-- `command_sink_check` on a line of the serial port. -/
def sinkCommandCheck (state : SinkState) (data : Text) : SinkReply :=
  let line := cString data
  match strtok ' ' line with
  | none => ⟨state, .nullVersion, [.strdup line]⟩
  | some (token, rest) =>
      let cvn := toUInt16 (atoi token)
      if cvn = 0 then
        ⟨state, .noVersion, [.strdup line,
          .printf "Command must have a version number\n".toList]⟩
      else if state.ccvn < cvn then
        match strtok ' ' rest with
        | none => ⟨{ ccvn := cvn }, .nullCommand, [.strdup line]⟩
        | some (command, argument) =>
            sinkExecute { ccvn := cvn } line command argument
      else
        ⟨state, .obsolete, [.strdup line,
          .printf "Obsolete command version number\n".toList, .free]⟩

/-! ## The cases of a line -/

/-- All that `command_sink_check` can do with a line: use a null pointer, refuse the version,
or store it and go on with the word. -/
inductive SinkCase (state : SinkState) (line : Text) : SinkReply → Prop where
  | nullVersion :
      ¬ HasVersion line → SinkCase state line ⟨state, .nullVersion, [.strdup line]⟩
  | noVersion :
      HasVersion line → commandVersion line = 0 →
      SinkCase state line ⟨state, .noVersion, [.strdup line,
        .printf "Command must have a version number\n".toList]⟩
  | obsolete :
      HasVersion line → commandVersion line ≠ 0 → commandVersion line ≤ state.ccvn →
      SinkCase state line ⟨state, .obsolete, [.strdup line,
        .printf "Obsolete command version number\n".toList, .free]⟩
  | nullCommand :
      HasVersion line → state.ccvn < commandVersion line → ¬ HasWord line →
      SinkCase state line ⟨{ ccvn := commandVersion line }, .nullCommand, [.strdup line]⟩
  | executed (command argument : Text) :
      state.ccvn < commandVersion line → commandWord line = some (command, argument) →
      SinkCase state line (sinkExecute { ccvn := commandVersion line } line command argument)

theorem sinkCommandCheck_cases (state : SinkState) (data : Text) :
    SinkCase state (cString data) (sinkCommandCheck state data) := by
  rw [sinkCommandCheck]
  cases first : strtok ' ' (cString data) with
  | none => exact .nullVersion (not_hasVersion_of_strtok first)
  | some pair =>
      obtain ⟨token, rest⟩ := pair
      have version := hasVersion_of_strtok first
      simp only [← commandVersion_of_strtok first]
      split
      · next zero => exact .noVersion version zero
      · next some_ =>
          split
          · next newer =>
              cases second : strtok ' ' rest with
              | none =>
                  apply SinkCase.nullCommand version newer
                  simp [hasWord_iff_of_strtok first, second]
              | some found =>
                  obtain ⟨command, argument⟩ := found
                  apply SinkCase.executed command argument newer
                  simp only [commandWord, first, second]
          · next older => exact .obsolete version some_ (Nat.not_lt.1 older)

/-! ## The reply to a line -/

/-- The text handed to `multicast_send`, if any. -/
def SinkCall.forwarded : SinkCall → Option Text
  | .multicastSend text => some text
  | _ => none

/-- The datagrams sent by the call. -/
def SinkReply.forwarded (reply : SinkReply) : List Text :=
  reply.calls.filterMap SinkCall.forwarded

/-- The stored version after a line of a kind has been multicast. -/
def SinkState.afterMulticast (version : ℕ) (kind : CommandKind) : SinkState :=
  { ccvn := if kind = .resetCvn then 0 else version }

/-- What `command_sink_check` can do with a line: refuse its version, store the
version without telling the senders, or multicast the line. -/
inductive SinkOutcome (state : SinkState) (line : Text) (reply : SinkReply) :
    Prop where
  | refused :
      commandVersion line ≤ state.ccvn → reply.state = state →
      reply.verdict.accepted = false → reply.forwarded = [] →
      SinkOutcome state line reply
  | silent :
      state.ccvn < commandVersion line →
      reply.state = { ccvn := commandVersion line } →
      reply.verdict.accepted = true →
      (∀ kind, reply.verdict ≠ .multicast kind) → reply.forwarded = [] →
      SinkOutcome state line reply
  | multicast (kind : CommandKind) :
      state.ccvn < commandVersion line → commandKind line = some kind →
      reply.state = .afterMulticast (commandVersion line) kind →
      reply.verdict = .multicast kind → reply.forwarded = [line] →
      SinkOutcome state line reply

/-- The words that the sink multicasts are the words that the senders know. -/
theorem sinkBranch_sender {command : Text} {kind : CommandKind}
    (branch : sinkBranch command = some (.sender kind)) :
    senderBranch command = some kind := by
  rw [senderBranch_eq_some]
  rw [sinkBranch] at branch
  split at branch
  · cases branch
    assumption
  split at branch
  · cases branch
    assumption
  split at branch
  · cases branch
    assumption
  split at branch
  · cases branch
  split at branch
  · cases branch
  split at branch
  · cases branch
    assumption
  split at branch
  · cases branch
    assumption
  · cases branch

/-- The part behind the version test never refuses a line. -/
theorem sinkExecute_outcome {state : SinkState} {line command argument : Text}
    (word : commandWord line = some (command, argument))
    (passes : state.ccvn < commandVersion line) :
    SinkOutcome state line
      (sinkExecute { ccvn := commandVersion line } line command argument) := by
  cases branch : sinkBranch command with
  | none =>
      simp only [sinkExecute, branch]
      exact .silent passes rfl rfl (by simp) rfl
  | some found =>
      cases found with
      | sinkIdDvn =>
          simp only [sinkExecute, branch]
          exact .silent passes rfl rfl (by simp) rfl
      | globalRepair =>
          simp only [sinkExecute, branch]
          exact .silent passes rfl rfl (by simp) rfl
      | sender kind =>
          have known : commandKind line = some kind := by
            simp only [commandKind, word, sinkBranch_sender branch]
          cases kind with
          | txpower =>
              simp only [sinkExecute, branch]
              cases strtok ' ' argument with
              | none => exact .silent passes rfl rfl (by simp) rfl
              | some pair => exact .multicast _ passes known rfl rfl rfl
          | start | stop | dataPeriod | resetCvn =>
              simp only [sinkExecute, branch]
              exact .multicast _ passes known rfl rfl rfl

theorem sinkCommandCheck_outcome (state : SinkState) (data : Text) :
    SinkOutcome state (cString data) (sinkCommandCheck state data) := by
  have all := sinkCommandCheck_cases state data
  generalize sinkCommandCheck state data = reply at all ⊢
  cases all with
  | nullVersion absent =>
      have none : commandVersion (cString data) = 0 := commandVersion_of_not_hasVersion absent
      exact .refused (none ▸ Nat.zero_le _) rfl rfl rfl
  | noVersion _ zero => exact .refused (zero ▸ Nat.zero_le _) rfl rfl rfl
  | obsolete _ _ older => exact .refused older rfl rfl rfl
  | nullCommand _ passes _ => exact .silent passes rfl rfl (by simp) rfl
  | executed command argument passes word => exact sinkExecute_outcome word passes

theorem sinkCommandCheck_accepted {state : SinkState} {data : Text}
    (passes : state.ccvn < commandVersion (cString data)) :
    (sinkCommandCheck state data).verdict.accepted = true := by
  cases sinkCommandCheck_outcome state data with
  | refused refused => omega
  | silent _ _ accepted _ _ => exact accepted
  | multicast kind _ _ _ verdict => rw [verdict]; rfl

theorem sinkCommandCheck_ccvn_le {state : SinkState} {data : Text}
    (passes : state.ccvn < commandVersion (cString data)) :
    (sinkCommandCheck state data).state.ccvn ≤ commandVersion (cString data) := by
  cases sinkCommandCheck_outcome state data with
  | refused refused => omega
  | silent _ stored => rw [stored]
  | multicast kind _ _ stored =>
      rw [stored]
      rw [SinkState.afterMulticast]
      split
      · exact Nat.zero_le _
      · exact le_refl _

theorem sinkExecute_verdict (state : SinkState) (line command argument : Text) :
    (sinkExecute state line command argument).verdict ≠ .nullVersion ∧
      (sinkExecute state line command argument).verdict ≠ .nullCommand := by
  rw [sinkExecute]
  cases sinkBranch command with
  | none => simp
  | some branch =>
      cases branch with
      | sinkIdDvn | globalRepair => simp
      | sender kind =>
          cases kind with
          | txpower => cases strtok ' ' argument <;> simp
          | start | stop | dataPeriod | resetCvn => simp

theorem sinkCommandCheck_ne_nullCommand (state : SinkState) {data : Text}
    (word : commandWord (cString data) ≠ none) :
    (sinkCommandCheck state data).verdict ≠ .nullCommand := by
  have all := sinkCommandCheck_cases state data
  generalize sinkCommandCheck state data = reply at all ⊢
  cases all with
  | nullVersion | noVersion | obsolete => simp
  | nullCommand _ _ absent => exact absurd (Option.isSome_iff_ne_none.2 word) absent
  | executed command argument _ _ => exact (sinkExecute_verdict _ _ command argument).2

/-! ## Receiving a sequence of lines -/

/-- The replies to a sequence of lines, in order. -/
def sinkReplies : SinkState → List Text → List SinkReply
  | _, [] => []
  | state, line :: rest =>
      let reply := sinkCommandCheck state line
      reply :: sinkReplies reply.state rest

/-- The state after a sequence of lines. -/
def sinkAfter (state : SinkState) (lines : List Text) : SinkState :=
  lines.foldl (fun current line => (sinkCommandCheck current line).state) state

@[simp] theorem sinkAfter_append (state : SinkState) (first second : List Text) :
    sinkAfter state (first ++ second) = sinkAfter (sinkAfter state first) second :=
  List.foldl_append

theorem sinkReplies_append (state : SinkState) (first second : List Text) :
    sinkReplies state (first ++ second) =
      sinkReplies state first ++ sinkReplies (sinkAfter state first) second := by
  induction first generalizing state with
  | nil => rfl
  | cons line rest ih =>
      simp only [List.cons_append, sinkReplies, ih]
      rfl

end IotLab.Firmware
