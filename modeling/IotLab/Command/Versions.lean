import IotLab.Command.Delivery

/-!
# Server and sink agree on versions

The server counts the commands it has sent since the last reset, the sink stores
the version of the last command it accepted.  When every operation of the server
is executed as a whole, the stored version stays below the number the server will
use next, and that number never exceeds 65535.
-/

namespace IotLab.Command

open IotLab.Firmware
open IotLab.Server

/-- A text that can be submitted as a command: not blank and on one line. -/
structure CommandText where
  text : Text
  visible : ∃ char ∈ text, char ≠ ' '
  noBreak : '\n' ∉ text ∧ '\r' ∉ text

/-- The operations of the server that send to the gateways. -/
inductive ServerOperation where
  /-- A logged-in user opens a session of the command type. -/
  | openConnection (id : ℕ)
  | sendCommand (command : CommandText)

def ServerOperation.execute (state : ServerState) : ServerOperation → ServerState
  | .openConnection id => Server.openConnection state id commandType true
  | .sendCommand command => (Server.sendCommand state command.text).2

/-- The state after a sequence of operations on a freshly started server. -/
def serve (operations : List ServerOperation) : ServerState :=
  operations.foldl ServerOperation.execute {}

/-- The range of a version: an automatic reset is `65535 RESET_CVN`, everything
else stays below. -/
def InRange (emission : Emission) : Prop :=
  if emission.reset then emission.text = resetMessage
  else 1 ≤ emission.version ∧ emission.version ≤ 65534

/-- What was sent so far is in range and a sink that stored `ccvn` accepts it. -/
structure Agreed (ccvn : ℕ) (server : ServerState) : Prop where
  gateway : 0 < server.connectedGatewayNumber
  inRange : ∀ emission ∈ server.sent, InRange emission
  accepted : AllAccepted ccvn server.sent

/-- The invariant between two operations: the sink is behind the server. -/
structure InStep (ccvn : ℕ) (server : ServerState) : Prop
    extends Agreed ccvn server where
  behind : storedVersion ccvn server.sent < server.commandVersionNumber
  bounded : server.commandVersionNumber ≤ 65535

/-! ## What one message preserves -/

/-- A message with a version above the stored one keeps server and sink agreed. -/
theorem Agreed.emit {ccvn : ℕ} {server : ServerState} (agreed : Agreed ccvn server)
    {command : Text} {reset : Bool}
    (behind : storedVersion ccvn server.sent < server.commandVersionNumber)
    (bounded : server.commandVersionNumber < 65536)
    (inRange : ∀ recipients, InRange
      ⟨server.commandVersionNumber, command, reset, recipients⟩) :
    Agreed ccvn (server.emit command reset) := by
  constructor
  · exact agreed.gateway
  · intro emission member
    rcases List.mem_append.1 member with earlier | last
    · exact agreed.inRange emission earlier
    · rw [List.mem_singleton.1 last]
      exact inRange _
  · exact agreed.accepted.append behind bounded

/-- A command keeps the sink behind the server. -/
theorem InStep.emit {ccvn : ℕ} {server : ServerState} (inStep : InStep ccvn server)
    (below : server.commandVersionNumber < 65535) (command : Text) :
    InStep ccvn (server.emit command false) := by
  have positive : 0 < server.commandVersionNumber := by
    exact Nat.zero_lt_of_lt inStep.behind
  have inRange : ∀ recipients, InRange
      ⟨server.commandVersionNumber, command, false, recipients⟩ :=
    fun _ => ⟨positive, Nat.le_of_lt_succ below⟩
  have stored : storedVersion ccvn (server.emit command false).sent ≤
      server.commandVersionNumber :=
    storedVersion_append_le inStep.behind (Nat.lt_succ_of_lt below)
  exact
    { toAgreed := inStep.toAgreed.emit inStep.behind (Nat.lt_succ_of_lt below) inRange
      behind := Nat.lt_succ_of_le stored
      bounded := below }

/-- A reset brings server and sink in step whatever the server counted before. -/
theorem Agreed.reset {ccvn : ℕ} {server : ServerState} (agreed : Agreed ccvn server)
    (small : storedVersion ccvn server.sent < 65535) :
    InStep ccvn (resetCommandVersionNumber server).2 := by
  rw [resetCommandVersionNumber_eq agreed.gateway]
  have assigned : Agreed ccvn { server with commandVersionNumber := 65535 } :=
    ⟨agreed.gateway, agreed.inRange, agreed.accepted⟩
  have sent : Agreed ccvn
      (({ server with commandVersionNumber := 65535 } : ServerState).emit
        resetCommand true) :=
    assigned.emit small (Nat.lt_succ_self 65535) (fun _ => commandMessage_reset)
  have stored : storedVersion ccvn
      (({ server with commandVersionNumber := 65535 } : ServerState).emit
        resetCommand true).sent = 0 :=
    storedVersion_append_reset small commandMessage_reset
  exact
    { gateway := sent.gateway
      inRange := sent.inRange
      accepted := sent.accepted
      behind := by
        change storedVersion ccvn _ < 1
        rw [stored]
        exact Nat.zero_lt_one
      bounded := by
        change 1 ≤ 65535
        decide }

/-! ## What one operation preserves -/

theorem InStep.sendCommand {ccvn : ℕ} {server : ServerState}
    (inStep : InStep ccvn server) (command : Text) :
    InStep ccvn (Server.sendCommand server command).2 := by
  rcases Nat.lt_or_ge server.commandVersionNumber 65535 with below | above
  · rw [sendCommand_of_lt command inStep.gateway below]
    exact inStep.emit below command
  · have small : storedVersion ccvn server.sent < 65535 :=
      Nat.lt_of_lt_of_le inStep.behind inStep.bounded
    have renewed := inStep.toAgreed.reset small
    rw [sendCommand_of_ge command inStep.gateway above]
    apply renewed.emit
    rw [resetCommandVersionNumber_eq inStep.gateway]
    change 1 < 65535
    decide

theorem Agreed.openConnection {ccvn : ℕ} {server : ServerState} {id : ℕ}
    (agreed : Agreed ccvn (server.enqueue id commandType))
    (small : storedVersion ccvn server.sent < 65535) :
    InStep ccvn (Server.openConnection server id commandType true) := by
  have renewed := agreed.reset small
  exact renewed.sendCommand sinkInfoCommand

theorem InStep.execute {ccvn : ℕ} {server : ServerState}
    (inStep : InStep ccvn server) (operation : ServerOperation) :
    InStep ccvn (operation.execute server) := by
  cases operation with
  | openConnection id =>
      apply Agreed.openConnection
      · exact
          { gateway := by
              rw [ServerState.connectedGatewayNumber_enqueue]
              exact Nat.succ_pos _
            inRange := inStep.inRange
            accepted := inStep.accepted }
      · exact Nat.lt_of_lt_of_le inStep.behind inStep.bounded
  | sendCommand command => exact inStep.sendCommand command.text

/-! ## Whole runs -/

theorem InStep.executeAll {ccvn : ℕ} {server : ServerState}
    (inStep : InStep ccvn server) (operations : List ServerOperation) :
    InStep ccvn (operations.foldl ServerOperation.execute server) := by
  induction operations generalizing server with
  | nil => exact inStep
  | cons operation rest ih => exact ih (inStep.execute operation)

theorem inStep_serve {ccvn : ℕ} (small : ccvn < 65535) (id : ℕ)
    (operations : List ServerOperation) :
    InStep ccvn (serve (.openConnection id :: operations)) := by
  have opened : InStep ccvn (Server.openConnection {} id commandType true) := by
    apply Agreed.openConnection
    · exact ⟨Nat.succ_pos 0, by simp [ServerState.enqueue], .nil⟩
    · exact small
  exact opened.executeAll operations

/-- Server and sink agree on versions: after the first session has been opened,
the automatic reset is `65535 RESET_CVN`, every other message has a version in
1..65534, and a sink that gets all messages in order accepts each of them. -/
theorem server_sink_agree (id : ℕ) (operations : List ServerOperation) (ccvn : ℕ)
    (small : ccvn < 65535) :
    let sent := (serve (.openConnection id :: operations)).sent
    (∀ emission ∈ sent, emission.reset = true →
        emission.text = "65535 RESET_CVN".toList) ∧
      (∀ emission ∈ sent, emission.reset = false →
        1 ≤ emission.version ∧ emission.version ≤ 65534) ∧
      List.Forall₂ Accepted sent
        (sinkReplies { ccvn } (sent.map Emission.text)) := by
  have inStep := inStep_serve small id operations
  refine ⟨?_, ?_, inStep.accepted⟩
  · intro emission member automatic
    have inRange := inStep.inRange emission member
    rwa [InRange, if_pos automatic] at inRange
  · intro emission member typed
    have inRange := inStep.inRange emission member
    rwa [InRange, if_neg (by simp [typed])] at inRange

/-- A session, a typed reset and another session. -/
theorem server_sink_agree_reconnect :
    let operations : List ServerOperation :=
      [.sendCommand ⟨resetCommand, ⟨'R', by decide⟩, by decide⟩, .openConnection 8]
    let sent := (serve (.openConnection 7 :: operations)).sent
    65534 < 65535 ∧
      (∀ emission ∈ sent, emission.reset = true →
          emission.text = "65535 RESET_CVN".toList) ∧
        (∀ emission ∈ sent, emission.reset = false →
          1 ≤ emission.version ∧ emission.version ≤ 65534) ∧
        List.Forall₂ Accepted sent
          (sinkReplies { ccvn := 65534 } (sent.map Emission.text)) :=
  ⟨by decide, server_sink_agree 7 _ 65534 (by decide)⟩

end IotLab.Command
