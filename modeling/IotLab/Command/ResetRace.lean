import IotLab.Library.Runs
import IotLab.Command.Delivery

/-!
# Interleaved connections

`sendCommand` is synchronized, `resetCommandVersionNumber` is not: its two
assignments to `commandVersionNumber` are steps of their own when it is called
from `openConnection`.  A run interleaves any number of connections with calls of
`sendCommand`.
-/

namespace IotLab.Command

open IotLab.Library
open IotLab.Firmware
open IotLab.Server

/-- How far a call of `openConnection` has come. -/
inductive OpenStage where
  | called
  /-- The session is in the queue. -/
  | queued
  /-- `commandVersionNumber = 65535` has been executed. -/
  | assigned
  /-- The nested `sendCommand(RESET_COMMAND, true)` has returned. -/
  | announced
  /-- `commandVersionNumber = 1` has been executed. -/
  | restored
  | finished
  deriving Repr, DecidableEq

/-- The server and the calls of `openConnection`, named by their sessions. -/
structure RaceState where
  server : ServerState := {}
  stage : ℕ → OpenStage := fun _ => .called

inductive RaceAction where
  /-- The next step of the call of `openConnection` for a session. -/
  | advance (id : ℕ)
  /-- One synchronized call of `sendCommand`. -/
  | sendCommand (command : Text)
  deriving Repr, DecidableEq

/-- Execute one step of a call of `openConnection`. -/
def OpenStage.execute (server : ServerState) (id : ℕ) :
    OpenStage → Option (ServerState × OpenStage)
  | .called => some (server.enqueue id commandType, .queued)
  | .queued => some ({ server with commandVersionNumber := 65535 }, .assigned)
  | .assigned => some ((sendReset server).2, .announced)
  | .announced => some ({ server with commandVersionNumber := 1 }, .restored)
  | .restored => some ((sendCommandSinkInfo server).2, .finished)
  | .finished => none

def raceStep (state : RaceState) : RaceAction → Option RaceState
  | .advance id =>
      match (state.stage id).execute state.server id with
      | none => none
      | some (server, stage) =>
          some { server, stage := Function.update state.stage id stage }
  | .sendCommand command =>
      some { state with server := (Server.sendCommand state.server command).2 }

/-! ## The property -/

/-- No message of the list is `65535 RESET_CVN`. -/
abbrev ResetFree (sent : List Emission) : Prop :=
  ∀ emission ∈ sent, emission.text ≠ resetMessage

/-- Between two messages `65535 RESET_CVN` the versions are strictly increasing. -/
def Increasing (sent : List Emission) : Prop :=
  ∀ segment, segment <:+: sent → ResetFree segment →
    segment.Pairwise fun earlier later => earlier.version < later.version

/-- The versions increase between resets and a sink that gets the messages in
this order rejects none. -/
def WellVersioned (sent : List Emission) : Prop :=
  Increasing sent ∧ AllAccepted 0 sent

/-- The next step of a call does not disturb another one: the nested reset is not
sent with a number that another call has already used up, and the number is set
back to 1 only directly after `65535 RESET_CVN`. -/
def OpenStage.Undisturbed (server : ServerState) : OpenStage → Prop
  | .assigned => server.commandVersionNumber ≤ 65535
  | .announced => server.sent.getLast?.map Emission.text = some resetMessage
  | .called | .queued | .restored | .finished => True

instance (server : ServerState) :
    (stage : OpenStage) → Decidable (stage.Undisturbed server)
  | .assigned => inferInstanceAs (Decidable (_ ≤ _))
  | .announced => inferInstanceAs (Decidable (_ = _))
  | .called | .queued | .restored | .finished => isTrue trivial

def Undisturbed (state : RaceState) : RaceAction → Prop
  | .sendCommand _ => True
  | .advance id => (state.stage id).Undisturbed state.server

instance (state : RaceState) :
    (action : RaceAction) → Decidable (Undisturbed state action)
  | .sendCommand _ => isTrue trivial
  | .advance id =>
      inferInstanceAs (Decidable ((state.stage id).Undisturbed state.server))

/-! ## What one message preserves -/

/-- A number is unused since the last reset: it is above the version that the sink
stores and above everything sent since then. -/
structure Unused (number : ℕ) (sent : List Emission) : Prop where
  stored : storedVersion 0 sent < number
  later : ∀ segment, segment <:+ sent → ResetFree segment →
    ∀ emission ∈ segment, emission.version < number

structure Ordered (sent : List Emission) : Prop where
  increasing : Increasing sent
  accepted : AllAccepted 0 sent
  small : storedVersion 0 sent < 65535
  afterReset : ∀ earlier last, sent = earlier ++ [last] →
    last.text = resetMessage → storedVersion 0 sent = 0

/-- The invariant: the messages are well versioned so far and the next number is
unused, or a reset comes before the next command. -/
structure RaceInvariant (server : ServerState) : Prop where
  ordered : Ordered server.sent
  next : 65535 ≤ server.commandVersionNumber ∨
    Unused server.commandVersionNumber server.sent

theorem Emission.version_of_reset {emission : Emission}
    (reset : emission.text = resetMessage) : toUInt16 emission.version = 65535 := by
  have version := commandVersion_commandMessage emission.version emission.command
  rw [← Emission.text, reset] at version
  rw [← version]
  decide

/-- A segment of a longer list either ends with the new message or is older. -/
theorem Increasing.append {sent : List Emission} {emission : Emission}
    (increasing : Increasing sent)
    (above : emission.text ≠ resetMessage →
      ∀ segment, segment <:+ sent → ResetFree segment →
        ∀ earlier ∈ segment, earlier.version < emission.version) :
    Increasing (sent ++ [emission]) := by
  intro segment contained free
  rcases List.infix_concat_iff.1 contained with last | earlier
  · rcases List.suffix_concat_iff.1 last with rfl | ⟨prior, rfl, suffix⟩
    · exact .nil
    · have priorFree : ResetFree prior := fun other member =>
        free other (List.mem_append_left _ member)
      have notReset : emission.text ≠ resetMessage :=
        free emission (List.mem_append_right _ (List.mem_singleton_self _))
      rw [List.pairwise_append]
      refine ⟨increasing prior suffix.isInfix priorFree, List.pairwise_singleton _ _, ?_⟩
      intro other member last final
      rw [List.mem_singleton.1 final]
      exact above notReset prior suffix priorFree other member
  · exact increasing segment earlier free

/-- A command with an unused number below 65535. -/
theorem Ordered.emit {sent : List Emission} (ordered : Ordered sent)
    (emission : Emission) (unused : Unused emission.version sent)
    (below : emission.version < 65535) :
    Ordered (sent ++ [emission]) ∧
      Unused (emission.version + 1) (sent ++ [emission]) := by
  have bounded : emission.version < 65536 := Nat.lt_succ_of_lt below
  have stored := storedVersion_append_le unused.stored bounded
  have notReset : emission.text ≠ resetMessage := by
    intro reset
    have version := Emission.version_of_reset reset
    rw [toUInt16_natCast bounded] at version
    omega
  constructor
  · exact
      { increasing := ordered.increasing.append fun _ => unused.later
        accepted := ordered.accepted.append unused.stored bounded
        small := Nat.lt_of_le_of_lt stored below
        afterReset := by
          intro earlier last split reset
          rw [← (List.append_inj' split rfl).2 |> List.singleton_inj.1] at reset
          exact absurd reset notReset }
  · constructor
    · exact Nat.lt_succ_of_le stored
    · intro segment suffix free other member
      rcases List.suffix_concat_iff.1 suffix with rfl | ⟨prior, rfl, priorSuffix⟩
      · cases member
      · rcases List.mem_append.1 member with earlier | last
        · have priorFree : ResetFree prior := fun other member =>
            free other (List.mem_append_left _ member)
          exact Nat.lt_succ_of_lt
            (unused.later prior priorSuffix priorFree other earlier)
        · rw [List.mem_singleton.1 last]
          exact Nat.lt_succ_self _

/-- The message `65535 RESET_CVN`, after which 1 is unused. -/
theorem Ordered.emitReset {sent : List Emission} (ordered : Ordered sent)
    (emission : Emission) (version : emission.version = 65535)
    (reset : emission.text = resetMessage) :
    Ordered (sent ++ [emission]) ∧ Unused 1 (sent ++ [emission]) := by
  have stored := storedVersion_append_reset ordered.small reset
  constructor
  · exact
      { increasing := ordered.increasing.append fun other => absurd reset other
        accepted := ordered.accepted.append (version ▸ ordered.small)
          (by rw [version]; decide)
        small := by rw [stored]; decide
        afterReset := fun _ _ _ _ => stored }
  · constructor
    · rw [stored]
      exact Nat.zero_lt_one
    · intro segment suffix free other member
      rcases List.suffix_concat_iff.1 suffix with rfl | ⟨prior, rfl, _⟩
      · cases member
      · have last := free emission (List.mem_append_right _ (List.mem_singleton_self _))
        exact absurd reset last

/-! ## What one step preserves -/

theorem RaceInvariant.emit {server : ServerState} (invariant : RaceInvariant server)
    (below : server.commandVersionNumber < 65535) (command : Text) (reset : Bool) :
    RaceInvariant (server.emit command reset) := by
  rcases invariant.next with above | unused
  · omega
  · have emitted := invariant.ordered.emit
      ⟨server.commandVersionNumber, command, reset,
        server.receivers commandType⟩ unused below
    exact ⟨emitted.1, .inr emitted.2⟩

theorem RaceInvariant.reset {server : ServerState} (invariant : RaceInvariant server)
    (gateway : 0 < server.connectedGatewayNumber) :
    RaceInvariant (resetCommandVersionNumber server).2 := by
  rw [resetCommandVersionNumber_eq gateway]
  have emitted := invariant.ordered.emitReset
    ⟨65535, resetCommand, true, server.receivers commandType⟩ rfl
    commandMessage_reset
  exact ⟨emitted.1, .inr emitted.2⟩

theorem RaceInvariant.sendCommand {server : ServerState}
    (invariant : RaceInvariant server) (command : Text) :
    RaceInvariant (Server.sendCommand server command).2 := by
  rcases Nat.eq_zero_or_pos server.connectedGatewayNumber with none | gateway
  · rw [sendCommand_of_no_gateway command none]
    exact invariant
  rcases Nat.lt_or_ge server.commandVersionNumber 65535 with below | above
  · rw [sendCommand_of_lt command gateway below]
    exact invariant.emit below command false
  · rw [sendCommand_of_ge command gateway above]
    apply (invariant.reset gateway).emit
    rw [resetCommandVersionNumber_eq gateway]
    change 1 < 65535
    decide

/-- The nested call of `sendCommand`. -/
theorem RaceInvariant.sendReset {server : ServerState}
    (invariant : RaceInvariant server)
    (atMost : server.commandVersionNumber ≤ 65535) :
    RaceInvariant (Server.sendReset server).2 := by
  rcases Nat.eq_zero_or_pos server.connectedGatewayNumber with none | gateway
  · have unchanged : (Server.sendReset server).2 = server := by
      simp [Server.sendReset, sendCommandBody, none]
    rw [unchanged]
    exact invariant
  rw [sendReset_eq gateway]
  rcases Nat.lt_or_eq_of_le atMost with below | full
  · exact invariant.emit below resetCommand true
  · have emitted := invariant.ordered.emitReset
      ⟨server.commandVersionNumber, resetCommand, true,
        server.receivers commandType⟩ full
      (by rw [Emission.text, full]; exact commandMessage_reset)
    refine ⟨emitted.1, .inl ?_⟩
    change 65535 ≤ server.commandVersionNumber + 1
    omega

theorem RaceInvariant.step {state next : RaceState} {action : RaceAction}
    (invariant : RaceInvariant state.server)
    (undisturbed : Undisturbed state action)
    (stepped : raceStep state action = some next) : RaceInvariant next.server := by
  cases action with
  | sendCommand command =>
      simp only [raceStep, Option.some.injEq] at stepped
      subst stepped
      exact invariant.sendCommand command
  | advance id =>
      simp only [raceStep, Undisturbed] at stepped undisturbed
      cases stage : state.stage id with
      | called =>
          simp only [stage, OpenStage.execute, Option.some.injEq] at stepped
          subst stepped
          exact ⟨invariant.ordered, invariant.next⟩
      | queued =>
          simp only [stage, OpenStage.execute, Option.some.injEq] at stepped
          subst stepped
          exact ⟨invariant.ordered, .inl (le_refl _)⟩
      | assigned =>
          simp only [stage, OpenStage.execute, OpenStage.Undisturbed,
            Option.some.injEq] at stepped undisturbed
          subst stepped
          exact invariant.sendReset undisturbed
      | announced =>
          simp only [stage, OpenStage.execute, OpenStage.Undisturbed,
            Option.some.injEq] at stepped undisturbed
          subst stepped
          rcases Option.map_eq_some_iff.1 undisturbed with ⟨last, final, reset⟩
          rcases List.getLast?_eq_some_iff.1 final with ⟨earlier, split⟩
          refine ⟨invariant.ordered, .inr ⟨?_, ?_⟩⟩
          · change storedVersion 0 state.server.sent < 1
            rw [invariant.ordered.afterReset earlier last split reset]
            exact Nat.zero_lt_one
          · intro segment suffix free other member
            change segment <:+ state.server.sent at suffix
            rw [split] at suffix
            rcases List.suffix_concat_iff.1 suffix with rfl | ⟨prior, rfl, _⟩
            · cases member
            · have final := free last
                (List.mem_append_right _ (List.mem_singleton_self _))
              exact absurd reset final
      | restored =>
          simp only [stage, OpenStage.execute, Option.some.injEq] at stepped
          subst stepped
          exact invariant.sendCommand sinkInfoCommand
      | finished => simp [stage, OpenStage.execute] at stepped

/-! ## Whole runs -/

theorem raceInvariant_initially : RaceInvariant ({} : RaceState).server := by
  refine ⟨⟨?_, .nil, by decide, ?_⟩, .inr ⟨by decide, ?_⟩⟩
  · intro segment contained free
    rw [List.infix_nil.1 contained]
    exact .nil
  · intro earlier last split
    simp at split
  · intro segment suffix free emission member
    rw [List.suffix_nil.1 suffix] at member
    cases member

/-- In a run in which no call of `openConnection` is disturbed, the versions
increase strictly between two resets and the sink rejects nothing. -/
theorem wellVersioned_of_undisturbed (actions : List RaceAction) (state : RaceState)
    (undisturbed : EveryStep raceStep Undisturbed {} actions)
    (executed : run raceStep {} actions = some state) :
    WellVersioned state.server.sent := by
  have invariant : RaceInvariant state.server :=
    undisturbed.preserves (fun state => RaceInvariant state.server)
      (fun _ _ _ invariant condition stepped => invariant.step condition stepped)
      raceInvariant_initially executed
  exact ⟨invariant.ordered.increasing, invariant.ordered.accepted⟩

/-- Two connections one after the other, with commands in between. -/
theorem wellVersioned_of_undisturbed_reconnect :
    ∃ state,
      run raceStep {} (List.replicate 5 (.advance 0) ++
        .sendCommand "START ALL".toList :: List.replicate 5 (.advance 1)) =
          some state ∧
        WellVersioned state.server.sent :=
  ⟨_, rfl, wellVersioned_of_undisturbed
    (List.replicate 5 (.advance 0) ++
      .sendCommand "START ALL".toList :: List.replicate 5 (.advance 1))
    _ (by decide) rfl⟩

/-- A command between the nested reset and the assignment of 1: its version is
used again for the command that asks for the sink's address. -/
def disturbedConnection : List RaceAction :=
  [.advance 0, .advance 0, .advance 0, .sendCommand "START ALL".toList,
    .advance 0, .advance 0]

theorem disturbedConnection_not_wellVersioned :
    ∃ state, run raceStep {} disturbedConnection = some state ∧
      ¬Increasing state.server.sent ∧ ¬AllAccepted 0 state.server.sent := by
  refine ⟨_, rfl, ?_, ?_⟩
  · intro increasing
    have used := increasing
      [⟨1, "START ALL".toList, false, [0]⟩, ⟨1, sinkInfoCommand, false, [0]⟩]
      ⟨List.replicate 2 ⟨65535, resetCommand, true, [0]⟩, [], by decide⟩ (by decide)
    exact absurd used (by decide)
  · intro accepted
    exact absurd accepted.reply (by decide)

end IotLab.Command
