import IotLab.Firmware.TokenUse
import IotLab.Library.Runs
import Mathlib.Algebra.Ring.Int.Defs

/-!
# The backups of command texts

Both handlers of commands copy their text with `strdup`, since `strtok` changes it, and
`free` the copy at their end.  Some paths return before.  A copy that is not released stays
for good: no later command releases it.
-/

namespace IotLab.Firmware

open IotLab.Library

/-- The change of the number of live copies. -/
def SinkCall.copies : SinkCall → ℤ
  | .strdup _ => 1
  | .free => -1
  | _ => 0

/-- The change of the number of live copies. -/
def SenderCall.copies : SenderCall → ℤ
  | .strdup _ => 1
  | .free => -1
  | _ => 0

/-- The change of the number of live copies by a line. -/
def SinkReply.copies (reply : SinkReply) : ℤ := (reply.calls.map SinkCall.copies).sum

/-- The change of the number of live copies by a datagram. -/
def SenderReply.copies (reply : SenderReply) : ℤ := (reply.calls.map SenderCall.copies).sum

/-- The state of the handler on the sink with the number of live copies. -/
structure SinkHeap where
  state : SinkState := {}
  live : ℤ := 0
  deriving Repr, DecidableEq

/-- The state of the handler on a sender with the number of live copies. -/
structure SenderHeap where
  state : SenderState := {}
  live : ℤ := 0

/-- A line arrives at the sink. -/
def sinkHeapStep (heap : SinkHeap) (line : Text) : Option SinkHeap :=
  let reply := sinkCommandCheck heap.state line
  some ⟨reply.state, heap.live + reply.copies⟩

/-- A datagram arrives at a sender. -/
def senderHeapStep (heap : SenderHeap) (buffer : Text) : Option SenderHeap :=
  let reply := senderCommandCheck heap.state buffer
  some ⟨reply.state, heap.live + reply.copies⟩

/-- The sink reaches the end of its handler: the version is not zero, and if it is new there
is a word, and a value for `TXPOWER`. -/
def SinkReleases (state : SinkState) (line : Text) : Prop :=
  commandVersion line ≠ 0 ∧
    (commandVersion line ≤ state.ccvn ∨
      HasWord line ∧ (commandKind line = some .txpower → commandComplete line .txpower))

/-- A sender reaches the end of its handler: there is a version, and if it is not obsolete
there is a word, and an argument if the word needs one. -/
def SenderReleases (state : SenderState) (text : Text) : Prop :=
  HasVersion text ∧
    (commandVersion text < state.ccvn ∨
      HasWord text ∧ ∀ kind, commandKind text = some kind → commandComplete text kind)

instance (state : SinkState) (line : Text) : Decidable (SinkReleases state line) :=
  inferInstanceAs (Decidable (_ ∧ _))

/-! ## One command -/

section Commands

variable {command : Text}

/-- The sink and the senders know the same commands for the radio. -/
theorem sinkBranch_txpower_iff :
    sinkBranch command = some (.sender .txpower) ↔ senderBranch command = some .txpower := by
  refine ⟨sinkBranch_sender, fun known => ?_⟩
  rw [senderBranch_eq_some] at known
  have other : ∀ kind : CommandKind, kind ≠ .txpower → kind.matches command = false := by
    intro kind apart
    rw [Bool.eq_false_iff]
    exact fun matched => apart (CommandKind.eq_of_matches matched known)
  have word : command.take 7 = "TXPOWER".toList := by
    simp only [CommandKind.matches, strncmpEq, beq_iff_eq] at known
    exact known.symm
  have first : command.head? = some 'T' := by
    have start := congrArg List.head? word
    rw [List.head?_take, if_neg (by decide)] at start
    exact start
  have head : ∀ text : Text, text.head? ≠ some 'T' → ∀ count, 0 < count →
      strncmpEq command text count = false := by
    intro text starts count positive
    rw [Bool.eq_false_iff, strncmpEq]
    intro same
    have start := congrArg List.head? (beq_iff_eq.1 same)
    rw [List.head?_take, List.head?_take, if_neg positive.ne', if_neg positive.ne', first]
      at start
    exact starts start.symm
  rw [sinkBranch, other .start (by decide), other .stop (by decide),
    other .dataPeriod (by decide), head "SINK_ID_DVN".toList (by decide) 11 (by decide),
    head "GLOBAL_REPAIR".toList (by decide) 13 (by decide), known]
  rfl

theorem sinkExecute_copies (state : SinkState) (line command argument : Text) :
    (sinkExecute state line command argument).copies =
      if sinkBranch command = some (.sender .txpower) ∧ strtok ' ' argument = none then 1
      else 0 := by
  rw [sinkExecute]
  cases branch : sinkBranch command with
  | none => rfl
  | some found =>
      cases found with
      | sinkIdDvn | globalRepair => rfl
      | sender kind =>
          cases kind with
          | txpower =>
              cases strtok ' ' argument with
              | none => rfl
              | some value => rfl
          | start | stop | dataPeriod | resetCvn => rfl

theorem finish_copies (state : SenderState) (text : Text) (kind : CommandKind) (value : Text) :
    (state.finish text kind (kind.calls value)).copies = 0 := by
  simp only [SenderReply.copies, SenderState.finish]
  cases kind <;> split <;> rfl

/-- A line changes the number of copies by one unless the handler reaches its end. -/
theorem sinkCommandCheck_copies (state : SinkState) (data : Text) :
    (sinkCommandCheck state data).copies = 0 ↔ SinkReleases state (cString data) := by
  rw [SinkReleases]
  have all := sinkCommandCheck_cases state data
  generalize sinkCommandCheck state data = reply at all ⊢
  cases all with
  | nullVersion absent =>
      simp [commandVersion_of_not_hasVersion absent, SinkReply.copies, SinkCall.copies]
  | noVersion _ zero => simp [zero, SinkReply.copies, SinkCall.copies]
  | obsolete _ some_ older => exact iff_of_true rfl ⟨some_, .inl older⟩
  | nullCommand _ newer absent =>
      simp [absent, Nat.not_le.2 newer, SinkReply.copies, SinkCall.copies]
  | executed command argument newer known =>
      have word := hasWord_of_commandWord known
      have kind : commandKind (cString data) = senderBranch command := by
        simp only [commandKind, known]
      have value : commandArgument (cString data) = (strtok ' ' argument).map Prod.fst := by
        simp only [commandArgument, known]
      rw [and_iff_right (Nat.ne_of_gt (Nat.zero_lt_of_lt newer)),
        or_iff_right (Nat.not_le.2 newer), and_iff_right word]
      simp only [sinkExecute_copies, sinkBranch_txpower_iff, kind, commandComplete, value,
        Option.isSome_map]
      cases strtok ' ' argument with
      | none => simp
      | some found => simp

/-- A datagram changes the number of copies by one unless the handler reaches its end. -/
theorem senderCommandCheck_copies (state : SenderState) (buffer : Text) :
    (senderCommandCheck state buffer).copies = 0 ↔ SenderReleases state (cString buffer) := by
  rw [SenderReleases]
  have all := senderCommandCheck_cases state buffer
  generalize senderCommandCheck state buffer = reply at all ⊢
  cases all with
  | noVersion absent => simp [absent, SenderReply.copies, SenderCall.copies]
  | obsolete version older => exact iff_of_true rfl ⟨version, .inl older⟩
  | noWord _ passes absent =>
      simp [absent, Nat.not_lt.2 passes, SenderReply.copies, SenderCall.copies]
  | unhandled _ word unknown =>
      refine iff_of_true rfl ⟨hasVersion_of_hasWord word, .inr ⟨word, ?_⟩⟩
      intro kind known
      rw [unknown] at known
      cases known
  | incomplete kind passes known missing =>
      simp [known, missing, Nat.not_lt.2 passes, SenderReply.copies, SenderCall.copies]
  | executed kind value passes known complete _ =>
      have word := hasWord_of_commandKind known
      refine iff_of_true (finish_copies _ _ kind value)
        ⟨hasVersion_of_hasWord word, .inr ⟨word, ?_⟩⟩
      intro other same
      rw [known] at same
      exact Option.some.inj same ▸ complete

end Commands

/-! ## Runs -/

/-- All copies are released between the events of a run if and only if every event reaches
the end of its handler. -/
theorem backups_released_iff (sink : SinkState) (sender : SenderState)
    (lines buffers : List Text) :
    ((∀ before, before <+: lines → ∀ heap,
        run sinkHeapStep ⟨sink, 0⟩ before = some heap → heap.live = 0) ↔
      EveryStep sinkHeapStep (fun heap line => SinkReleases heap.state (cString line))
        ⟨sink, 0⟩ lines) ∧
    ((∀ before, before <+: buffers → ∀ heap,
        run senderHeapStep ⟨sender, 0⟩ before = some heap → heap.live = 0) ↔
      EveryStep senderHeapStep (fun heap buffer => SenderReleases heap.state (cString buffer))
        ⟨sender, 0⟩ buffers) := by
  constructor
  · refine everyStep_iff_invariant (fun heap : SinkHeap => heap.live = 0) ?_ rfl lines
    intro heap line released
    refine ⟨_, rfl, ?_⟩
    rw [← sinkCommandCheck_copies, released, Int.zero_add]
  · refine everyStep_iff_invariant (fun heap : SenderHeap => heap.live = 0) ?_ rfl buffers
    intro heap buffer released
    refine ⟨_, rfl, ?_⟩
    rw [← senderCommandCheck_copies, released, Int.zero_add]

/-- A line without a version, and a `START` without the name of a module, leave a copy. -/
theorem backups_not_released :
    (run sinkHeapStep {} ["0 START".toList]).map SinkHeap.live = some 1 ∧
      (run senderHeapStep {} ["1 START".toList]).map SenderHeap.live = some 1 := by
  decide

end IotLab.Firmware
