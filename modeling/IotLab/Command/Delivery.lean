import IotLab.Firmware.SinkCommand
import IotLab.Server.CommandManager
import Mathlib.Data.List.Forall2

/-!
# Messages of the server on the sink

The server sends its messages in one order and the sink reads them in that order.
A message is accepted when its version, as a `uint16_t`, is above the version the
sink stores; the lemmas say what the sink stores afterwards.
-/

namespace IotLab.Command

open IotLab.Library
open IotLab.Firmware
open IotLab.Server

/-- The sink accepts the message: it passes the version test and, unless the
command is blank for a C program, no null pointer is compared. -/
def Accepted (emission : Emission) (reply : SinkReply) : Prop :=
  reply.verdict.accepted = true ∧
    ((∃ char ∈ cString emission.command, char ≠ ' ') →
      reply.verdict ≠ .nullCommand)

/-- The lines that the sink gets. -/
def serialLines (sent : List Emission) : List Text :=
  sent.map Emission.text

/-- The version that a sink stores after everything in `sent`, if it stored `ccvn`
before. -/
def storedVersion (ccvn : ℕ) (sent : List Emission) : ℕ :=
  (sinkAfter { ccvn } (serialLines sent)).ccvn

/-- The sink accepts all of `sent`, in order. -/
def AllAccepted (ccvn : ℕ) (sent : List Emission) : Prop :=
  List.Forall₂ Accepted sent (sinkReplies { ccvn } (serialLines sent))

/-- The command of a message is found behind the version. -/
theorem commandWord_commandMessage {version : ℕ} {command : Text}
    (visible : ∃ char ∈ cString command, char ≠ ' ') :
    commandWord (cString (commandMessage version command)) ≠ none := by
  have noNul : '\x00' ∉ Nat.toDigits 10 version := not_mem_toDigits (by decide)
  have read : cString (commandMessage version command) =
      Nat.toDigits 10 version ++ ' ' :: cString command := by
    rw [commandMessage, cString_append noNul]
    rfl
  rw [read, commandWord,
    strtok_token Nat.toDigits_ne_nil (blank_not_mem_toDigits version)]
  intro missing
  rcases visible with ⟨char, member, notBlank⟩
  simp only [strtok] at missing
  cases skipped : (cString command).dropWhile (· == ' ') with
  | cons head rest => simp [skipped] at missing
  | nil =>
      rw [List.dropWhile_eq_nil_iff] at skipped
      exact notBlank (by simpa using skipped char member)

theorem accepted_of_lt {state : SinkState} {emission : Emission}
    (passes : state.ccvn < emission.version) (bounded : emission.version < 65536) :
    Accepted emission (sinkCommandCheck state emission.text) := by
  have version : commandVersion (cString emission.text) = emission.version := by
    rw [Emission.text, commandVersion_commandMessage, toUInt16_natCast bounded]
  constructor
  · apply sinkCommandCheck_accepted
    rw [version]
    exact passes
  · intro visible
    exact sinkCommandCheck_ne_nullCommand state
      (commandWord_commandMessage visible)

theorem AllAccepted.append {ccvn : ℕ} {sent : List Emission} {emission : Emission}
    (all : AllAccepted ccvn sent)
    (passes : storedVersion ccvn sent < emission.version)
    (bounded : emission.version < 65536) :
    AllAccepted ccvn (sent ++ [emission]) := by
  rw [AllAccepted, serialLines] at *
  rw [List.map_append, sinkReplies_append]
  apply List.rel_append all
  exact .cons (accepted_of_lt passes bounded) .nil

theorem AllAccepted.reply {ccvn : ℕ} {sent : List Emission}
    (all : AllAccepted ccvn sent) :
    ∀ reply ∈ sinkReplies { ccvn } (serialLines sent),
      reply.verdict.accepted = true := by
  rw [AllAccepted] at all
  generalize sinkReplies { ccvn } (serialLines sent) = replies at all ⊢
  induction all with
  | nil => simp
  | cons accepted _ ih =>
      intro reply member
      rcases List.mem_cons.1 member with rfl | later
      · exact accepted.1
      · exact ih reply later

theorem storedVersion_append_le {ccvn : ℕ} {sent : List Emission}
    {emission : Emission} (passes : storedVersion ccvn sent < emission.version)
    (bounded : emission.version < 65536) :
    storedVersion ccvn (sent ++ [emission]) ≤ emission.version := by
  have version : commandVersion (cString emission.text) = emission.version := by
    rw [Emission.text, commandVersion_commandMessage, toUInt16_natCast bounded]
  rw [storedVersion, serialLines] at *
  rw [List.map_append, sinkAfter_append]
  calc
    _ ≤ commandVersion (cString emission.text) :=
      sinkCommandCheck_ccvn_le (by rw [version]; exact passes)
    _ = emission.version := version

/-- The message of an automatic reset. -/
def resetMessage : Text := "65535 RESET_CVN".toList

theorem commandMessage_reset : commandMessage 65535 resetCommand = resetMessage := by
  decide

theorem sinkCommandCheck_resetMessage {state : SinkState}
    (passes : state.ccvn < 65535) :
    (sinkCommandCheck state resetMessage).state = { ccvn := 0 } := by
  have first : strtok ' ' (cString resetMessage) =
      some ("65535".toList, "RESET_CVN".toList) := by decide
  have second : strtok ' ' "RESET_CVN".toList = some ("RESET_CVN".toList, []) := by
    decide
  have version : toUInt16 (atoi "65535".toList) = 65535 := by decide
  have branch : sinkBranch "RESET_CVN".toList = some (.sender .resetCvn) := by decide
  rw [sinkCommandCheck]
  simp only [first, version, second]
  rw [if_neg (by decide), if_pos passes]
  simp only [sinkExecute, branch]

theorem storedVersion_append_reset {ccvn : ℕ} {sent : List Emission}
    {emission : Emission} (passes : storedVersion ccvn sent < 65535)
    (reset : emission.text = resetMessage) :
    storedVersion ccvn (sent ++ [emission]) = 0 := by
  rw [storedVersion, serialLines] at *
  rw [List.map_append, sinkAfter_append, List.map_singleton, reset]
  exact congrArg SinkState.ccvn (sinkCommandCheck_resetMessage passes)

end IotLab.Command
