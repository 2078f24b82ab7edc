import IotLab.Library.Runs
import IotLab.Firmware.SenderCommand
import IotLab.Firmware.SinkCommand

/-!
# The multicast network

One sink and any number of senders.  A command that the sink multicasts is an
issue; every datagram, the sink's own or a copy sent again by a sender, carries
the issue it goes back to.  Datagrams stay available once they are sent: a run
delivers any of them to any sender, in any order and any number of times, behind
it whatever the receive buffer happens to hold.  A datagram that is never
delivered is lost.

Only the texts travel.  Issues, sources and logs are kept for the properties.
-/

namespace IotLab.Command

open IotLab.Library
open IotLab.Firmware

/-- A command multicast by the sink. -/
structure Issue where
  /-- The number of commands issued before. -/
  index : ℕ
  /-- The number of `RESET_CVN` commands issued before. -/
  epoch : ℕ
  line : Text
  kind : CommandKind
  deriving Repr, DecidableEq

def Issue.version (issue : Issue) : ℕ := commandVersion issue.line

structure Datagram (ι : Type*) where
  /-- The sender, or `none` for the sink. -/
  source : Option ι
  issue : Issue
  text : Text
  deriving Repr, DecidableEq

/-- What a sender did with one datagram. -/
structure Reception where
  issue : Issue
  /-- The version was above the stored one. -/
  newer : Bool
  verdict : SenderVerdict
  /-- The text was sent again. -/
  forwarded : Bool
  deriving Repr, DecidableEq

structure NetworkState (ι : Type*) where
  sink : SinkState := {}
  issues : List Issue := []
  sent : List (Datagram ι) := []
  sender : ι → SenderState := fun _ => {}
  /-- The receptions of each sender, newest first. -/
  log : ι → List Reception := fun _ => []
  /-- The deliveries so far: a datagram, by its position in `sent`, and who got
  it. -/
  delivered : List (ℕ × ι) := []

inductive NetworkAction (ι : Type*) where
  /-- A line arrives on the serial port of the sink. -/
  | sinkLine (line : Text)
  /-- A datagram, by its position in `sent`, arrives at a sender whose receive
  buffer holds `tail` behind it. -/
  | deliver (index : ℕ) (receiver : ι) (tail : Text)
  deriving Repr, DecidableEq

section

variable {ι : Type*}

/-- The issue of a line that the sink multicasts now. -/
def NetworkState.nextIssue (state : NetworkState ι) (line : Text)
    (kind : CommandKind) : Issue :=
  { index := state.issues.length
    epoch := state.issues.countP fun issue => issue.kind = .resetCvn
    line
    kind }

/-- The sink handles a line. -/
def NetworkState.receiveLine (state : NetworkState ι) (line : Text) :
    NetworkState ι :=
  let reply := sinkCommandCheck state.sink line
  match reply.verdict with
  | .multicast kind =>
      let issue := state.nextIssue (cString line) kind
      { state with
        sink := reply.state
        issues := state.issues ++ [issue]
        sent := state.sent ++ reply.forwarded.map fun text => ⟨none, issue, text⟩ }
  | _ => { state with sink := reply.state }

variable [DecidableEq ι]

/-- A sender handles a datagram. -/
def NetworkState.receive (state : NetworkState ι) (index : ℕ)
    (datagram : Datagram ι) (receiver : ι) (tail : Text) : NetworkState ι :=
  let buffer := datagram.text ++ tail
  let before := state.sender receiver
  let reply := senderCommandCheck before buffer
  let reception : Reception :=
    { issue := datagram.issue
      newer := before.ccvn < commandVersion (cString buffer)
      verdict := reply.verdict
      forwarded := !reply.forwarded.isEmpty }
  { state with
    sender := Function.update state.sender receiver reply.state
    log := Function.update state.log receiver (reception :: state.log receiver)
    sent := state.sent ++ reply.forwarded.map fun text =>
      ⟨some receiver, datagram.issue, text⟩
    delivered := (index, receiver) :: state.delivered }

def networkStep (state : NetworkState ι) :
    NetworkAction ι → Option (NetworkState ι)
  | .sinkLine line => some (state.receiveLine line)
  | .deliver index receiver tail =>
      match state.sent[index]? with
      | none => none
      | some datagram => some (state.receive index datagram receiver tail)

end

/-! ## What one action does -/

section

variable {ι : Type*}

/-- The text of a datagram begins with the line that was issued, and that line is
a command for the senders. -/
structure Carries (issues : List Issue) (datagram : Datagram ι) : Prop where
  issued : datagram.issue ∈ issues
  begins : datagram.issue.line <+: datagram.text
  noNul : '\x00' ∉ datagram.text

structure WellFormed (state : NetworkState ι) : Prop where
  known : ∀ issue ∈ state.issues, commandKind issue.line = some issue.kind
  carries : ∀ datagram ∈ state.sent, Carries state.issues datagram

/-- What the sink does with a line: nothing is issued, or the line is issued and
multicast. -/
inductive LineOutcome (state : NetworkState ι) (line : Text) :
    NetworkState ι → Prop where
  | silent (sink : SinkState) :
      sink = state.sink ∨ state.sink.ccvn < sink.ccvn →
      LineOutcome state line { state with sink }
  | issued (kind : CommandKind) :
      state.sink.ccvn < commandVersion (cString line) →
      commandKind (cString line) = some kind →
      LineOutcome state line
        { state with
          sink := .afterMulticast (commandVersion (cString line)) kind
          issues := state.issues ++ [state.nextIssue (cString line) kind]
          sent := state.sent ++
            [⟨none, state.nextIssue (cString line) kind, cString line⟩] }

theorem NetworkState.receiveLine_of_not_multicast {state : NetworkState ι}
    {line : Text}
    (other : ∀ kind, (sinkCommandCheck state.sink line).verdict ≠ .multicast kind) :
    state.receiveLine line =
      { state with sink := (sinkCommandCheck state.sink line).state } := by
  rw [NetworkState.receiveLine]
  cases verdict : (sinkCommandCheck state.sink line).verdict with
  | multicast kind => exact absurd verdict (other kind)
  | nullVersion | noVersion | obsolete | nullCommand | handled | incomplete
  | unhandled => rfl

theorem NetworkState.receiveLine_outcome (state : NetworkState ι) (line : Text) :
    LineOutcome state line (state.receiveLine line) := by
  cases sinkCommandCheck_outcome state.sink line with
  | refused _ stored rejected _ =>
      rw [NetworkState.receiveLine_of_not_multicast]
      · exact .silent _ (.inl stored)
      · intro kind verdict
        simp [verdict, SinkVerdict.accepted] at rejected
  | silent newer stored _ other _ =>
      rw [NetworkState.receiveLine_of_not_multicast other]
      apply LineOutcome.silent _ (.inr _)
      rw [stored]
      exact newer
  | multicast kind newer known stored verdict forwarded =>
      simp only [NetworkState.receiveLine, verdict, forwarded, stored,
        List.map_singleton]
      exact .issued kind newer known

/-- What a sender does with the text of a datagram of an issue, and how it is
logged. -/
inductive Handled (before : SenderState) (issue : Issue) (text : Text) :
    SenderState → Reception → Prop where
  | obsolete :
      issue.version < before.ccvn →
      Handled before issue text before
        { issue, newer := false, verdict := .obsolete, forwarded := false }
  | incomplete :
      before.ccvn ≤ issue.version → ¬commandComplete text issue.kind →
      Handled before issue text (before.accept issue.version)
        { issue
          newer := before.ccvn < issue.version
          verdict := .incomplete issue.kind
          forwarded := false }
  | executed :
      before.ccvn ≤ issue.version → commandComplete text issue.kind →
      Handled before issue text
        (((before.accept issue.version).reset issue.kind).count issue.kind)
        { issue
          newer := before.ccvn < issue.version
          verdict := .executed issue.kind
          forwarded := int8Succ ((before.accept issue.version).counter issue.kind) <
            maxRepeat }

/-- A datagram is treated like the command it goes back to. -/
theorem WellFormed.outcome {state : NetworkState ι} (wellFormed : WellFormed state)
    {datagram : Datagram ι} (member : datagram ∈ state.sent)
    (sender : SenderState) (tail : Text) :
    commandVersion (cString (datagram.text ++ tail)) = datagram.issue.version ∧
      SenderOutcome sender (cString (datagram.text ++ tail)) datagram.issue.kind
        (senderCommandCheck sender (datagram.text ++ tail)) := by
  have carries := wellFormed.carries datagram member
  have known := wellFormed.known datagram.issue carries.issued
  rcases carries.begins with ⟨more, text⟩
  have whole := command_append known more
  rw [text] at whole
  have kept := senderCommandCheck_extended sender carries.noNul whole.2 tail
  exact ⟨kept.1.trans whole.1, kept.2⟩

/-- The log entry of a datagram says what its receiver did, and the datagrams sent
again are copies of the text that was read. -/
theorem SenderOutcome.handled {before : SenderState} {issue : Issue} {text : Text}
    {reply : SenderReply} (outcome : SenderOutcome before text issue.kind reply)
    (version : commandVersion text = issue.version) :
    Handled before issue text reply.state
        { issue
          newer := before.ccvn < issue.version
          verdict := reply.verdict
          forwarded := !reply.forwarded.isEmpty } ∧
      reply.forwarded = if !reply.forwarded.isEmpty then [text] else [] := by
  cases outcome with
  | obsolete refused =>
      rw [version] at refused
      have older : decide (before.ccvn < issue.version) = false := by
        simpa using le_of_lt refused
      refine ⟨?_, rfl⟩
      rw [older]
      exact .obsolete refused
  | incomplete passes missing =>
      rw [version] at passes ⊢
      exact ⟨.incomplete passes missing, rfl⟩
  | executed value passes complete =>
      rw [version] at passes ⊢
      rw [SenderState.finish_forwarded]
      have handled := Handled.executed passes complete
      by_cases repeats : int8Succ ((before.accept issue.version).counter issue.kind) <
          maxRepeat
      · rw [decide_eq_true repeats] at handled
        rw [if_pos repeats]
        exact ⟨handled, rfl⟩
      · rw [decide_eq_false repeats] at handled
        rw [if_neg repeats]
        exact ⟨handled, rfl⟩

theorem Carries.append {issues : List Issue} {datagram : Datagram ι}
    (carries : Carries issues datagram) (issue : Issue) :
    Carries (issues ++ [issue]) datagram :=
  { carries with issued := List.mem_append_left _ carries.issued }

theorem WellFormed.receiveLine {state next : NetworkState ι} {line : Text}
    (wellFormed : WellFormed state) (outcome : LineOutcome state line next) :
    WellFormed next := by
  cases outcome with
  | silent sink _ => exact ⟨wellFormed.known, wellFormed.carries⟩
  | issued kind _ known =>
      constructor
      · intro issue member
        rcases List.mem_append.1 member with earlier | last
        · exact wellFormed.known issue earlier
        · rw [List.mem_singleton.1 last]
          exact known
      · intro datagram member
        rcases List.mem_append.1 member with earlier | last
        · exact (wellFormed.carries datagram earlier).append _
        · rw [List.mem_singleton.1 last]
          exact
            { issued := List.mem_append_right _ (List.mem_singleton_self _)
              begins := List.prefix_refl _
              noNul := nul_not_mem_cString line }

theorem Carries.copy {issues : List Issue} {datagram : Datagram ι}
    (carries : Carries issues datagram) (source : ι) (tail : Text) :
    Carries issues
      (⟨some source, datagram.issue, cString (datagram.text ++ tail)⟩ :
        Datagram ι) := by
  have whole : datagram.text <+: cString (datagram.text ++ tail) := by
    rw [cString_append carries.noNul]
    exact List.prefix_append _ _
  exact
    { issued := carries.issued
      begins := carries.begins.trans whole
      noNul := nul_not_mem_cString _ }

theorem Handled.issue_eq {before after : SenderState} {issue : Issue}
    {text : Text} {reception : Reception}
    (handled : Handled before issue text after reception) : reception.issue = issue := by
  cases handled <;> rfl

theorem wellFormed_initially : WellFormed ({} : NetworkState ι) :=
  ⟨fun _ member => absurd member List.not_mem_nil,
    fun _ member => absurd member List.not_mem_nil⟩

variable [DecidableEq ι]

/-- The state after a datagram, given what the receiver did with it. -/
def NetworkState.afterDelivery (state : NetworkState ι) (index : ℕ)
    (receiver : ι) (text : Text) (after : SenderState) (reception : Reception) :
    NetworkState ι :=
  { state with
    sender := Function.update state.sender receiver after
    log := Function.update state.log receiver (reception :: state.log receiver)
    sent := state.sent ++
      if reception.forwarded then [⟨some receiver, reception.issue, text⟩] else []
    delivered := (index, receiver) :: state.delivered }

/-- Everything a delivery can do. -/
theorem WellFormed.deliver {state next : NetworkState ι}
    (wellFormed : WellFormed state) {index : ℕ} {receiver : ι} {tail : Text}
    (stepped : networkStep state (.deliver index receiver tail) = some next) :
    ∃ datagram ∈ state.sent, ∃ after reception,
      state.sent[index]? = some datagram ∧
        Handled (state.sender receiver) datagram.issue
          (cString (datagram.text ++ tail)) after reception ∧
          next = state.afterDelivery index receiver
            (cString (datagram.text ++ tail)) after reception := by
  simp only [networkStep] at stepped
  cases found : state.sent[index]? with
  | none => simp [found] at stepped
  | some datagram =>
      simp only [found, Option.some.injEq] at stepped
      have member := List.mem_of_getElem? found
      have outcome := wellFormed.outcome member (state.sender receiver) tail
      have handled := SenderOutcome.handled outcome.2 outcome.1
      refine ⟨datagram, member, _, _, rfl, handled.1, ?_⟩
      rw [← stepped, NetworkState.receive, NetworkState.afterDelivery, outcome.1]
      congr 2
      conv_lhs => rw [handled.2]
      split <;> rfl

theorem WellFormed.step {state next : NetworkState ι} {action : NetworkAction ι}
    (wellFormed : WellFormed state)
    (stepped : networkStep state action = some next) : WellFormed next := by
  cases action with
  | sinkLine line =>
      simp only [networkStep, Option.some.injEq] at stepped
      exact wellFormed.receiveLine (stepped ▸ state.receiveLine_outcome line)
  | deliver index receiver tail =>
      rcases wellFormed.deliver stepped with
        ⟨datagram, member, after, reception, _, handled, rfl⟩
      constructor
      · exact wellFormed.known
      · intro other otherMember
        rcases List.mem_append.1 otherMember with earlier | copy
        · exact wellFormed.carries other earlier
        · split at copy
          · rw [List.mem_singleton.1 copy, handled.issue_eq]
            exact (wellFormed.carries datagram member).copy receiver tail
          · cases copy

end

end IotLab.Command
