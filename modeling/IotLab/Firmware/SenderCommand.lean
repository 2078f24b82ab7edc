import IotLab.Firmware.Command
import Mathlib.Logic.Function.Basic

/-!
# Commands on a sender

`sender_command_check` runs when a datagram arrives on the multicast port.  It
compares the version of the command with the one it stores, executes the command
and sends the text again while fewer than `MAX_REPEAT` copies of this kind have
been counted.  The static variables are the state; the calls that leave the
function are listed in the order in which they are made.
-/

namespace IotLab.Firmware

open IotLab.Library

/-- The number of times the message is repeated by a sender. -/
def maxRepeat : ℤ := 3

/-- The static variables: `ccvn` and the five `int8_t` counters. -/
structure SenderState where
  ccvn : ℕ := 0
  counter : CommandKind → ℤ := fun _ => 0

/-- Calls out of `sender_command_check`. -/
inductive SenderCall where
  | strdup (text : Text)
  | free
  | senderStartModules (name : Text)
  | senderStopModules (name : Text)
  | setDataPeriod (period : ℕ)
  | setTxpower (power : ℕ)
  | multicastSend (text : Text)
  deriving Repr, DecidableEq

/-- How `sender_command_check` ends. -/
inductive SenderVerdict where
  /-- A null pointer from `strtok` is handed to `atoi` or `strncmp`. -/
  | nullToken
  | obsolete
  | unhandled
  | incomplete (kind : CommandKind)
  | executed (kind : CommandKind)
  deriving Repr, DecidableEq

structure SenderReply where
  state : SenderState
  verdict : SenderVerdict
  calls : List SenderCall

/-- The text handed to `multicast_send`, if any. -/
def SenderCall.forwarded : SenderCall → Option Text
  | .multicastSend text => some text
  | _ => none

/-- The datagrams sent by the call. -/
def SenderReply.forwarded (reply : SenderReply) : List Text :=
  reply.calls.filterMap SenderCall.forwarded

/-- Which counters a newer version sets back to zero: the one of `RESET_CVN` is
left alone by version 65535. -/
def restartsCounter (version : ℕ) (kind : CommandKind) : Prop :=
  kind = .resetCvn → version < 65535

instance (version : ℕ) (kind : CommandKind) :
    Decidable (restartsCounter version kind) :=
  inferInstanceAs (Decidable (_ → _))

/-- The state after a version that is not obsolete has been stored. -/
def SenderState.accept (state : SenderState) (version : ℕ) : SenderState :=
  if state.ccvn < version then
    { ccvn := version
      counter := fun kind =>
        if restartsCounter version kind then 0 else state.counter kind }
  else state

/-- `RESET_CVN` sets the stored version back to zero, other kinds leave it. -/
def SenderState.reset (state : SenderState) (kind : CommandKind) : SenderState :=
  if kind = .resetCvn then { state with ccvn := 0 } else state

/-- Count one more executed copy of a kind. -/
def SenderState.count (state : SenderState) (kind : CommandKind) : SenderState :=
  { state with
    counter := Function.update state.counter kind (int8Succ (state.counter kind)) }

/-- What the branch of a kind calls with the token after the command word. -/
def CommandKind.calls (kind : CommandKind) (value : Text) : List SenderCall :=
  match kind with
  | .start => [.senderStartModules value]
  | .stop => [.senderStopModules value]
  | .dataPeriod => [.setDataPeriod (toUInt16 (atoi value))]
  | .txpower => [.setTxpower (toUInt8 (atoi value))]
  | .resetCvn => []

/-- The end of an executed branch: count the copy, forward the backup while the
counter is below `MAX_REPEAT` and release the backup. -/
def SenderState.finish (state : SenderState) (text : Text) (kind : CommandKind)
    (calls : List SenderCall) : SenderReply :=
  let counted := (state.reset kind).count kind
  { state := counted
    verdict := .executed kind
    calls := .strdup text :: calls ++
      (if counted.counter kind < maxRepeat then [.multicastSend text] else []) ++
      [.free] }

/-- `sender_command_check` on a datagram for the multicast port: `buffer` is what
`uip_appdata` points to. -/
def senderCommandCheck (state : SenderState) (buffer : Text) : SenderReply :=
  let text := cString buffer
  match strtok ' ' text with
  | none => ⟨state, .nullToken, [.strdup text]⟩
  | some (token, rest) =>
      let cvn := toUInt16 (atoi token)
      if state.ccvn ≤ cvn then
        let accepted := state.accept cvn
        match strtok ' ' rest with
        | none => ⟨accepted, .nullToken, [.strdup text]⟩
        | some (command, argument) =>
            match senderBranch command with
            | none => ⟨accepted, .unhandled, [.strdup text, .free]⟩
            | some .resetCvn => accepted.finish text .resetCvn []
            | some kind =>
                match strtok ' ' argument with
                -- the source returns here without freeing the backup
                | none => ⟨accepted, .incomplete kind, [.strdup text]⟩
                | some (value, _) =>
                    accepted.finish text kind (kind.calls value)
      else ⟨state, .obsolete, [.strdup text, .free]⟩

/-! ## The state after one datagram -/

@[simp] theorem SenderState.count_ccvn (state : SenderState) (kind : CommandKind) :
    (state.count kind).ccvn = state.ccvn := rfl

@[simp] theorem SenderState.reset_counter (state : SenderState)
    (kind : CommandKind) : (state.reset kind).counter = state.counter := by
  rw [SenderState.reset]
  split <;> rfl

theorem SenderState.reset_ccvn (state : SenderState) (kind : CommandKind) :
    (state.reset kind).ccvn = if kind = .resetCvn then 0 else state.ccvn := by
  rw [SenderState.reset]
  split <;> rfl

theorem SenderState.accept_ccvn {state : SenderState} {version : ℕ}
    (passes : state.ccvn ≤ version) : (state.accept version).ccvn = version := by
  rw [SenderState.accept]
  split
  · rfl
  · omega

theorem SenderState.accept_counter (state : SenderState) (version : ℕ)
    (kind : CommandKind) :
    (state.accept version).counter kind =
      if state.ccvn < version ∧ restartsCounter version kind then 0
      else state.counter kind := by
  rw [SenderState.accept]
  by_cases newer : state.ccvn < version <;> simp [newer]

/-- The branches themselves send nothing, so the forwarded text is decided by the
counter alone. -/
theorem SenderState.finish_forwarded (state : SenderState) (text : Text)
    (kind : CommandKind) (value : Text) :
    (state.finish text kind (kind.calls value)).forwarded =
      if int8Succ (state.counter kind) < maxRepeat then [text] else [] := by
  have counted : ((state.reset kind).count kind).counter kind =
      int8Succ (state.counter kind) := by
    simp [SenderState.count]
  simp only [SenderReply.forwarded, SenderState.finish, counted]
  cases kind <;> split <;>
    simp [CommandKind.calls, List.filterMap_cons, SenderCall.forwarded]

/-! ## The cases of a datagram -/

/-- All that `sender_command_check` can do with a text: use a null pointer, refuse the
version, or store it and end at an unknown word, at a missing argument or with the
execution of a command. -/
inductive SenderCase (state : SenderState) (text : Text) : SenderReply → Prop where
  | noVersion :
      ¬ HasVersion text → SenderCase state text ⟨state, .nullToken, [.strdup text]⟩
  | obsolete :
      HasVersion text → commandVersion text < state.ccvn →
      SenderCase state text ⟨state, .obsolete, [.strdup text, .free]⟩
  | noWord :
      HasVersion text → state.ccvn ≤ commandVersion text → ¬ HasWord text →
      SenderCase state text
        ⟨state.accept (commandVersion text), .nullToken, [.strdup text]⟩
  | unhandled :
      state.ccvn ≤ commandVersion text → HasWord text → commandKind text = none →
      SenderCase state text
        ⟨state.accept (commandVersion text), .unhandled, [.strdup text, .free]⟩
  | incomplete (kind : CommandKind) :
      state.ccvn ≤ commandVersion text → commandKind text = some kind →
      ¬ commandComplete text kind →
      SenderCase state text
        ⟨state.accept (commandVersion text), .incomplete kind, [.strdup text]⟩
  | executed (kind : CommandKind) (value : Text) :
      state.ccvn ≤ commandVersion text → commandKind text = some kind →
      commandComplete text kind → (kind = .resetCvn ∨ commandArgument text = some value) →
      SenderCase state text
        ((state.accept (commandVersion text)).finish text kind (kind.calls value))

theorem senderCommandCheck_cases (state : SenderState) (buffer : Text) :
    SenderCase state (cString buffer) (senderCommandCheck state buffer) := by
  rw [senderCommandCheck]
  cases first : strtok ' ' (cString buffer) with
  | none => exact .noVersion (not_hasVersion_of_strtok first)
  | some pair =>
      obtain ⟨token, rest⟩ := pair
      have version := hasVersion_of_strtok first
      have second_iff := hasWord_iff_of_strtok first
      simp only [← commandVersion_of_strtok first]
      split
      · next passes =>
          cases second : strtok ' ' rest with
          | none => exact .noWord version passes (by simp [second_iff, second])
          | some found =>
              obtain ⟨word, argument⟩ := found
              have branch : commandKind (cString buffer) = senderBranch word := by
                simp only [commandKind, commandWord, first, second]
              have value : commandArgument (cString buffer) =
                  (strtok ' ' argument).map Prod.fst := by
                simp only [commandArgument, commandWord, first, second]
              dsimp only
              cases known : senderBranch word with
              | none =>
                  exact .unhandled passes (by simp [second_iff, second]) (branch.trans known)
              | some kind =>
                  have same := branch.trans known
                  cases kind with
                  | resetCvn => exact .executed _ [] passes same (.inl rfl) (.inl rfl)
                  | start | stop | dataPeriod | txpower =>
                      cases third : strtok ' ' argument with
                      | none =>
                          apply SenderCase.incomplete _ passes same
                          simp [commandComplete, value, third]
                      | some pair =>
                          apply SenderCase.executed _ pair.1 passes same
                          · simp [commandComplete, value, third]
                          · simp [value, third]
      · next refused => exact .obsolete version (not_le.1 refused)

/-! ## Datagrams of a known kind -/

/-- What `sender_command_check` can do with a text whose word is known: refuse the
version, stop at a missing argument after the version has been stored, or
execute the command. -/
inductive SenderOutcome (state : SenderState) (text : Text) (kind : CommandKind) :
    SenderReply → Prop where
  | obsolete :
      commandVersion text < state.ccvn →
      SenderOutcome state text kind
        ⟨state, .obsolete, [.strdup text, .free]⟩
  | incomplete :
      state.ccvn ≤ commandVersion text → ¬commandComplete text kind →
      SenderOutcome state text kind
        ⟨state.accept (commandVersion text), .incomplete kind, [.strdup text]⟩
  | executed (value : Text) :
      state.ccvn ≤ commandVersion text → commandComplete text kind →
      SenderOutcome state text kind
        ((state.accept (commandVersion text)).finish text kind (kind.calls value))

theorem senderCommandCheck_outcome (state : SenderState) {buffer : Text}
    {kind : CommandKind} (known : commandKind (cString buffer) = some kind) :
    SenderOutcome state (cString buffer) kind (senderCommandCheck state buffer) := by
  have word := hasWord_of_commandKind known
  have all := senderCommandCheck_cases state buffer
  generalize senderCommandCheck state buffer = reply at all ⊢
  cases all with
  | noVersion absent => exact absurd (hasVersion_of_hasWord word) absent
  | obsolete _ older => exact .obsolete older
  | noWord _ _ absent => exact absurd word absent
  | unhandled _ _ unknown =>
      rw [known] at unknown
      cases unknown
  | incomplete other passes same missing =>
      obtain rfl := Option.some.inj (known.symm.trans same)
      exact .incomplete passes missing
  | executed other value passes same complete =>
      obtain rfl := Option.some.inj (known.symm.trans same)
      exact .executed value passes complete

/-- A datagram whose text begins with a known command is treated like that
command, whatever the buffer holds behind it. -/
theorem senderCommandCheck_extended (state : SenderState) {text : Text}
    {kind : CommandKind} (noNul : '\x00' ∉ text)
    (known : commandKind text = some kind) (tail : Text) :
    commandVersion (cString (text ++ tail)) = commandVersion text ∧
      SenderOutcome state (cString (text ++ tail)) kind
        (senderCommandCheck state (text ++ tail)) := by
  have appended := cString_append noNul tail
  have kept := command_append known (cString tail)
  rw [← appended] at kept
  exact ⟨kept.1, senderCommandCheck_outcome state kept.2⟩

end IotLab.Firmware
