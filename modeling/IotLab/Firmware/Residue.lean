import IotLab.Firmware.SenderCommand
import IotLab.Firmware.SinkCommand

/-!
# What lies behind a datagram

`multicast_send` transmits `strlen` bytes, so a datagram ends without a NUL, and
`sender_command_check` reads on in the receive buffer until it finds one there.
Two runs on one datagram differ only in that residue.  The version is closed by a
blank and the word can only get longer, but the last token takes the residue in,
and so does the text that is sent again.
-/

namespace IotLab.Firmware

open IotLab.Library

/-! ## The effect of a command -/

/-- The modules of `udp-sender.c`, in the order of the array. -/
inductive SenderModule where
  | command
  | geoloc
  | data
  deriving Repr, DecidableEq

def SenderModule.name : SenderModule → Text
  | .command => "COMMAND".toList
  | .geoloc => "GEOLOC".toList
  | .data => "DATA".toList

/-- The modules that `sender_start_modules` and `sender_stop_modules` find for a
name. -/
def selectedModules (name : Text) : List SenderModule :=
  [.command, .geoloc, .data].filter fun module =>
    strncmpEq name "ALL".toList 3 ||
      strncmpEq module.name name module.name.length

/-- What a command does to its mote. -/
inductive SenderEffect where
  | started (modules : List SenderModule)
  | stopped (modules : List SenderModule)
  | dataPeriod (period : ℕ)
  | txpower (power : ℕ)
  deriving Repr, DecidableEq

def SenderCall.effect : SenderCall → Option SenderEffect
  | .senderStartModules name => some (.started (selectedModules name))
  | .senderStopModules name => some (.stopped (selectedModules name))
  | .setDataPeriod period => some (.dataPeriod period)
  | .setTxpower power => some (.txpower power)
  | .strdup _ | .free | .multicastSend _ => none

/-- The effects of the calls of a reply, in order. -/
def SenderReply.effects (reply : SenderReply) : List SenderEffect :=
  reply.calls.filterMap SenderCall.effect

/-- Two replies leave the same state, have the same effects and send the same
bytes. -/
structure SameReply (left right : SenderReply) : Prop where
  state : left.state = right.state
  effects : left.effects = right.effects
  forwarded : left.forwarded = right.forwarded

/-- The effects of a command of a kind with an argument. -/
def CommandKind.effects (kind : CommandKind) (value : Text) : List SenderEffect :=
  (kind.calls value).filterMap SenderCall.effect

/-! ## The datagrams of the network -/

/-- The datagrams that a sink multicasts for a line, and those that a sender
forwards for a datagram, whatever its buffer holds behind it. -/
inductive SentDatagram : Text → Prop where
  | sink (state : SinkState) (line : Text) {text : Text} :
      text ∈ (sinkCommandCheck state line).forwarded → SentDatagram text
  | sender (state : SenderState) (tail : Text) {received text : Text} :
      SentDatagram received →
      text ∈ (senderCommandCheck state (received ++ tail)).forwarded →
      SentDatagram text

/-- A sent datagram has no NUL and begins with a command that the senders know. -/
theorem SentDatagram.known {text : Text} (sent : SentDatagram text) :
    '\x00' ∉ text ∧ ∃ kind, commandKind text = some kind := by
  induction sent with
  | sink state line member =>
      cases sinkCommandCheck_outcome state line with
      | refused _ _ _ forwarded =>
          rw [forwarded] at member
          cases member
      | silent _ _ _ _ forwarded =>
          rw [forwarded] at member
          cases member
      | multicast kind _ known _ _ forwarded =>
          rw [forwarded] at member
          cases List.mem_singleton.1 member
          exact ⟨nul_not_mem_cString line, kind, known⟩
  | sender state tail _ member ih =>
      obtain ⟨noNul, kind, known⟩ := ih
      have whole := (command_append known (cString tail)).2
      rw [← cString_append noNul] at whole
      have outcome := (senderCommandCheck_extended state noNul known tail).2
      generalize senderCommandCheck state _ = reply at outcome member
      cases outcome with
      | obsolete => cases member
      | incomplete => cases member
      | executed value =>
          rw [SenderState.finish_forwarded] at member
          split at member
          · cases List.mem_singleton.1 member
            exact ⟨nul_not_mem_cString _, kind, whole⟩
          · cases member

/-! ## One run -/

/-- What `sender_command_check` makes of a text of a known kind. -/
def commandReply (state : SenderState) (text : Text) (kind : CommandKind) :
    SenderReply :=
  if commandVersion text < state.ccvn then ⟨state, .obsolete, [.strdup text, .free]⟩
  else
    let accepted := state.accept (commandVersion text)
    if kind = .resetCvn then accepted.finish text .resetCvn []
    else
      match commandArgument text with
      | none => ⟨accepted, .incomplete kind, [.strdup text]⟩
      | some value => accepted.finish text kind (kind.calls value)

theorem commandReply_obsolete {state : SenderState} {text : Text} {kind : CommandKind}
    (obsolete : commandVersion text < state.ccvn) :
    commandReply state text kind = ⟨state, .obsolete, [.strdup text, .free]⟩ :=
  if_pos obsolete

theorem commandReply_incomplete {state : SenderState} {text : Text}
    {kind : CommandKind} (passes : state.ccvn ≤ commandVersion text)
    (incomplete : ¬ commandComplete text kind) :
    commandReply state text kind =
      ⟨state.accept (commandVersion text), .incomplete kind, [.strdup text]⟩ := by
  rw [commandComplete, not_or] at incomplete
  rw [commandReply, if_neg (not_lt.2 passes)]
  simp only [if_neg incomplete.1]
  cases missing : commandArgument text with
  | none => rfl
  | some value => simp [missing] at incomplete

theorem senderCommandCheck_eq (state : SenderState) {buffer : Text}
    {kind : CommandKind} (known : commandKind (cString buffer) = some kind) :
    senderCommandCheck state buffer = commandReply state (cString buffer) kind := by
  have word := hasWord_of_commandKind known
  have all := senderCommandCheck_cases state buffer
  generalize senderCommandCheck state buffer = reply at all ⊢
  cases all with
  | noVersion absent => exact absurd (hasVersion_of_hasWord word) absent
  | obsolete _ older => exact (commandReply_obsolete older).symm
  | noWord _ _ absent => exact absurd word absent
  | unhandled _ _ unknown =>
      rw [known] at unknown
      cases unknown
  | incomplete other passes same missing =>
      obtain rfl := Option.some.inj (known.symm.trans same)
      exact (commandReply_incomplete passes missing).symm
  | executed other value passes same _ given =>
      obtain rfl := Option.some.inj (known.symm.trans same)
      rw [commandReply, if_neg (not_lt.2 passes)]
      by_cases reset : kind = .resetCvn
      · subst reset
        exact (if_pos rfl).symm
      · rw [given.resolve_left reset]
        exact (if_neg reset).symm

theorem senderCommandCheck_residue (state : SenderState) {text : Text}
    {kind : CommandKind} (noNul : '\x00' ∉ text)
    (known : commandKind text = some kind) (tail : Text) :
    senderCommandCheck state (text ++ tail) =
      commandReply state (text ++ cString tail) kind := by
  have whole := (command_append known (cString tail)).2
  rw [← cString_append noNul] at whole ⊢
  exact senderCommandCheck_eq state whole

/-! ## The parts of a reply -/

/-- The effects of a text of a kind: those of its argument, and none without one. -/
def argumentEffects (text : Text) (kind : CommandKind) : List SenderEffect :=
  match commandArgument text with
  | none => []
  | some value => kind.effects value

/-- The counter of a kind is below `MAX_REPEAT` when a command of the version has
been counted. -/
def RepeatsAgain (state : SenderState) (version : ℕ) (kind : CommandKind) : Prop :=
  int8Succ (if state.ccvn < version ∧ restartsCounter version kind then 0
    else state.counter kind) < maxRepeat

instance (state : SenderState) (version : ℕ) (kind : CommandKind) :
    Decidable (RepeatsAgain state version kind) :=
  inferInstanceAs (Decidable (_ < _))

theorem SenderState.finish_effects (state : SenderState) (text : Text)
    (kind : CommandKind) (value : Text) :
    (state.finish text kind (kind.calls value)).effects = kind.effects value := by
  simp only [SenderReply.effects, SenderState.finish, CommandKind.effects]
  cases kind <;> split <;>
    simp [CommandKind.calls, List.filterMap_cons, SenderCall.effect]

/-- An executed command ends in `finish` with the effects of its argument. -/
theorem commandReply_complete {state : SenderState} {text : Text} {kind : CommandKind}
    (passes : state.ccvn ≤ commandVersion text) (complete : commandComplete text kind) :
    ∃ value, kind.effects value = argumentEffects text kind ∧
      commandReply state text kind =
        (state.accept (commandVersion text)).finish text kind (kind.calls value) := by
  rw [commandReply, if_neg (not_lt.2 passes)]
  by_cases reset : kind = .resetCvn
  · subst reset
    refine ⟨[], ?_, if_pos rfl⟩
    rw [argumentEffects]
    cases commandArgument text <;> rfl
  · have present := complete.resolve_left reset
    cases found : commandArgument text with
    | none => simp [found] at present
    | some value =>
        refine ⟨value, ?_, if_neg reset⟩
        simp only [argumentEffects, found]

theorem int8Succ_ne (value : ℤ) : int8Succ value ≠ value := by
  rw [int8Succ]
  omega

theorem SenderState.count_ne (state : SenderState) (kind : CommandKind) :
    (state.reset kind).count kind ≠ state := by
  intro same
  have counters := congrFun (congrArg SenderState.counter same) kind
  rw [SenderState.count, SenderState.reset_counter] at counters
  simp only [Function.update_self] at counters
  exact int8Succ_ne _ counters

/-! ## Two runs -/

/-- Two residues of a command make no difference: its version is obsolete, or its
argument is missing with both of them, or it is complete with both, they give the
argument the same meaning, and they are equal if the text is sent again. -/
def SameMeaning (state : SenderState) (text : Text) (kind : CommandKind)
    (left right : Text) : Prop :=
  commandVersion text < state.ccvn ∨
    (¬ commandComplete (text ++ left) kind ∧ ¬ commandComplete (text ++ right) kind) ∨
    (commandComplete (text ++ left) kind ∧ commandComplete (text ++ right) kind ∧
      argumentEffects (text ++ left) kind = argumentEffects (text ++ right) kind ∧
      (RepeatsAgain state (commandVersion text) kind → left = right))

instance (state : SenderState) (text : Text) (kind : CommandKind) (left right : Text) :
    Decidable (SameMeaning state text kind left right) :=
  inferInstanceAs (Decidable (_ ∨ _ ∨ _))

theorem not_sameReply {state : SenderState} {left right : Text} {kind : CommandKind}
    (version : commandVersion right = commandVersion left)
    (passes : state.ccvn ≤ commandVersion left)
    (complete : commandComplete left kind)
    (incomplete : ¬ commandComplete right kind) :
    (commandReply state left kind).state ≠ (commandReply state right kind).state := by
  obtain ⟨value, _, executed⟩ := commandReply_complete passes complete
  rw [executed, commandReply_incomplete (version ▸ passes) incomplete, version]
  exact SenderState.count_ne _ kind

/-- Two complete runs agree when the arguments mean the same and, if the text is
sent again, the residues are equal. -/
theorem sameReply_complete {state : SenderState} {text left right : Text}
    {kind : CommandKind} (passes : state.ccvn ≤ commandVersion text)
    (leftVersion : commandVersion (text ++ left) = commandVersion text)
    (rightVersion : commandVersion (text ++ right) = commandVersion text)
    (leftComplete : commandComplete (text ++ left) kind)
    (rightComplete : commandComplete (text ++ right) kind) :
    SameReply (commandReply state (text ++ left) kind)
        (commandReply state (text ++ right) kind) ↔
      argumentEffects (text ++ left) kind = argumentEffects (text ++ right) kind ∧
        (RepeatsAgain state (commandVersion text) kind → left = right) := by
  obtain ⟨leftValue, leftEffects, leftReply⟩ :=
    commandReply_complete (leftVersion ▸ passes) leftComplete
  obtain ⟨rightValue, rightEffects, rightReply⟩ :=
    commandReply_complete (rightVersion ▸ passes) rightComplete
  have counter : (state.accept (commandVersion text)).counter kind =
      if state.ccvn < commandVersion text ∧
        restartsCounter (commandVersion text) kind then 0 else state.counter kind :=
    SenderState.accept_counter state (commandVersion text) kind
  rw [leftReply, rightReply, leftVersion, rightVersion, ← leftEffects, ← rightEffects]
  constructor
  · intro same
    have effects := same.effects
    have forwarded := same.forwarded
    rw [SenderState.finish_effects, SenderState.finish_effects] at effects
    rw [SenderState.finish_forwarded, SenderState.finish_forwarded, counter] at forwarded
    refine ⟨effects, fun repeats => ?_⟩
    rw [RepeatsAgain] at repeats
    rw [if_pos repeats, if_pos repeats] at forwarded
    exact List.append_cancel_left (List.singleton_inj.1 forwarded)
  · intro same
    obtain ⟨effects, residues⟩ := same
    constructor
    · rfl
    · rw [SenderState.finish_effects, SenderState.finish_effects, effects]
    · rw [SenderState.finish_forwarded, SenderState.finish_forwarded, counter]
      by_cases repeats : RepeatsAgain state (commandVersion text) kind
      · rw [residues repeats]
      · rw [RepeatsAgain] at repeats
        rw [if_neg repeats, if_neg repeats]

/-- A sender treats a datagram the same with two contents of its receive buffer
exactly when the two residues make no difference to the command. -/
theorem sender_independent_of_residue_iff {text : Text} {kind : CommandKind}
    (sent : SentDatagram text) (known : commandKind text = some kind)
    (state : SenderState) (left right : Text) :
    SameReply (senderCommandCheck state (text ++ left))
        (senderCommandCheck state (text ++ right)) ↔
      SameMeaning state text kind (cString left) (cString right) := by
  have noNul := sent.known.1
  have leftVersion := (command_append known (cString left)).1
  have rightVersion := (command_append known (cString right)).1
  rw [senderCommandCheck_residue state noNul known left,
    senderCommandCheck_residue state noNul known right, SameMeaning]
  cases Nat.lt_or_ge (commandVersion text) state.ccvn with
  | inl obsolete =>
      rw [commandReply_obsolete (leftVersion ▸ obsolete),
        commandReply_obsolete (rightVersion ▸ obsolete)]
      exact iff_of_true ⟨rfl, rfl, rfl⟩ (Or.inl obsolete)
  | inr passes =>
      have notObsolete := not_lt.2 passes
      have leftPasses := leftVersion.symm ▸ passes
      have rightPasses := rightVersion.symm ▸ passes
      by_cases leftComplete : commandComplete (text ++ cString left) kind
      · by_cases rightComplete : commandComplete (text ++ cString right) kind
        · rw [sameReply_complete passes leftVersion rightVersion leftComplete
            rightComplete]
          simp [notObsolete, leftComplete, rightComplete]
        · have differs := not_sameReply (rightVersion.trans leftVersion.symm) leftPasses
            leftComplete rightComplete
          simp only [notObsolete, leftComplete, rightComplete, not_true_eq_false,
            not_false_eq_true, false_and, and_false, and_true, or_self, iff_false]
          exact fun same => differs same.state
      · by_cases rightComplete : commandComplete (text ++ cString right) kind
        · have differs := not_sameReply (leftVersion.trans rightVersion.symm) rightPasses
            rightComplete leftComplete
          simp only [notObsolete, leftComplete, rightComplete, not_true_eq_false,
            not_false_eq_true, false_and, and_false, or_self, iff_false]
          exact fun same => differs same.state.symm
        · rw [commandReply_incomplete leftPasses leftComplete,
            commandReply_incomplete rightPasses rightComplete, leftVersion, rightVersion]
          exact iff_of_true ⟨rfl, rfl, rfl⟩ (Or.inr (Or.inl ⟨leftComplete, rightComplete⟩))

theorem stop_independent_of_residue :
    SameReply (senderCommandCheck {} ("2 STOP ALL".toList ++ "\x00".toList))
      (senderCommandCheck {} ("2 STOP ALL".toList ++ "\x00ONE".toList)) :=
  (sender_independent_of_residue_iff
    (.sink ⟨1⟩ "2 STOP ALL".toList (by decide)) (by decide : _ = some CommandKind.stop)
    {} "\x00".toList "\x00ONE".toList).2 (by decide)

/-- The period of an earlier command, `1 DATA_PERIOD 300`, is still in the buffer
when a shorter one arrives: the mote sets 300 instead of 3. -/
theorem residue_changes_period :
    SentDatagram "2 DATA_PERIOD 3".toList ∧
      ¬ SameReply (senderCommandCheck {} ("2 DATA_PERIOD 3".toList ++ "\x00".toList))
        (senderCommandCheck {} ("2 DATA_PERIOD 3".toList ++ "00\x00".toList)) := by
  constructor
  · exact .sink ⟨1⟩ "2 DATA_PERIOD 3".toList (by decide)
  · intro same
    exact absurd same.effects (by decide)

end IotLab.Firmware
