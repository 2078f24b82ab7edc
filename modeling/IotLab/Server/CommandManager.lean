import IotLab.Firmware.Command

/-!
# The command manager and its sessions

`CommandManager` stamps each command with a version number and hands it to
`WebSocket.send`, which sends it to the open sessions of the command type.  A
session is queued when it is opened and stays queued when it closes.
`resetCommandVersionNumber` calls `sendCommand` and is called by it; the nested
call has `reset` set and never comes back, so the recursion has depth two.
-/

namespace IotLab.Server

open IotLab.Firmware

/-- The session type of the gateways, `CommandManager.TYPE`. -/
def commandType : ℤ := 30

/-- `RESET_COMMAND`. -/
def resetCommand : Text := "RESET_CVN".toList

/-- `SINK_INFO_COMMAND`. -/
def sinkInfoCommand : Text := "SINK_ID_DVN".toList

/-- A websocket session with its user property `type`. -/
structure Session where
  id : ℕ
  type : ℤ
  isOpen : Bool := true
  deriving Repr, DecidableEq

/-- The text of the JSON field `command`. -/
def commandMessage (version : ℕ) (command : Text) : Text :=
  Nat.toDigits 10 version ++ ' ' :: command

/-- One call of `WebSocket.send`: what was sent and to which sessions. -/
structure Emission where
  version : ℕ
  command : Text
  /-- The argument `reset` of the call of `sendCommand`. -/
  reset : Bool
  recipients : List ℕ
  deriving Repr, DecidableEq

def Emission.text (emission : Emission) : Text :=
  commandMessage emission.version emission.command

/-- The static fields of `CommandManager` and `WebSocket` and everything sent so
far, oldest first. -/
structure ServerState where
  commandVersionNumber : ℕ := 1
  queue : List Session := []
  sent : List Emission := []
  deriving Repr, DecidableEq

/-- `WebSocket.getConnectedGatewayNumber`: closed sessions are counted as well. -/
def ServerState.connectedGatewayNumber (state : ServerState) : ℕ :=
  state.queue.countP fun session => session.type = commandType

/-- The sessions that `WebSocket.send` reaches. -/
def ServerState.receivers (state : ServerState) (type : ℤ) : List ℕ :=
  (state.queue.filter fun session => session.isOpen && session.type = type).map
    Session.id

/-- `WebSocket.send(TYPE, ...)` followed by `commandVersionNumber++`. -/
def ServerState.emit (state : ServerState) (command : Text) (reset : Bool) :
    ServerState :=
  { state with
    commandVersionNumber := state.commandVersionNumber + 1
    sent := state.sent ++
      [{ version := state.commandVersionNumber
         command
         reset
         recipients := state.receivers commandType }] }

/-- The body of `sendCommand(command, reset)`, given what its call of
`resetCommandVersionNumber` does. -/
def sendCommandBody (resetVersion : ServerState → ServerState) (state : ServerState)
    (command : Text) (reset : Bool) : Bool × ServerState :=
  if state.connectedGatewayNumber > 0 then
    let ready :=
      if state.commandVersionNumber ≥ 65535 ∧ reset = false then
        resetVersion state
      else state
    (true, ready.emit command reset)
  else (false, state)

/-- `sendCommand(RESET_COMMAND, true)`, which leaves the version number alone. -/
def sendReset (state : ServerState) : Bool × ServerState :=
  sendCommandBody id state resetCommand true

/-- `resetCommandVersionNumber`. -/
def resetCommandVersionNumber (state : ServerState) : Bool × ServerState :=
  let nested := sendReset { state with commandVersionNumber := 65535 }
  (nested.1, { nested.2 with commandVersionNumber := 1 })

/-- `sendCommand(command)`. -/
def sendCommand (state : ServerState) (command : Text) : Bool × ServerState :=
  sendCommandBody (fun current => (resetCommandVersionNumber current).2) state
    command false

/-- `sendCommandSinkInfo`. -/
def sendCommandSinkInfo (state : ServerState) : Bool × ServerState :=
  sendCommand state sinkInfoCommand

/-- `queue.add(session)`. -/
def ServerState.enqueue (state : ServerState) (id : ℕ) (type : ℤ) : ServerState :=
  { state with queue := state.queue ++ [{ id, type }] }

/-- `WebSocket.openConnection`. -/
def openConnection (state : ServerState) (id : ℕ) (type : ℤ) (loggedIn : Bool) :
    ServerState :=
  if type = commandType ∧ loggedIn = false then state
  else
    let queued := state.enqueue id type
    if type = commandType then
      (sendCommandSinkInfo (resetCommandVersionNumber queued).2).2
    else queued

/-! ## Gateways in the queue -/

theorem ServerState.connectedGatewayNumber_enqueue (state : ServerState) (id : ℕ) :
    (state.enqueue id commandType).connectedGatewayNumber =
      state.connectedGatewayNumber + 1 := by
  simp [ServerState.connectedGatewayNumber, ServerState.enqueue]

/-! ## Sending with a gateway -/

theorem sendReset_eq {state : ServerState}
    (gateway : 0 < state.connectedGatewayNumber) :
    sendReset state = (true, state.emit resetCommand true) := by
  simp [sendReset, sendCommandBody, gateway]

/-- A reset sends `65535 RESET_CVN` and starts again at version 1. -/
theorem resetCommandVersionNumber_eq {state : ServerState}
    (gateway : 0 < state.connectedGatewayNumber) :
    resetCommandVersionNumber state =
      (true,
        { ({ state with commandVersionNumber := 65535 } : ServerState).emit
            resetCommand true with commandVersionNumber := 1 }) := by
  have same : 0 < ({ state with commandVersionNumber := 65535 } :
      ServerState).connectedGatewayNumber := gateway
  simp only [resetCommandVersionNumber, sendReset_eq same]

theorem sendCommand_of_lt {state : ServerState} (command : Text)
    (gateway : 0 < state.connectedGatewayNumber)
    (below : state.commandVersionNumber < 65535) :
    sendCommand state command = (true, state.emit command false) := by
  have noReset : ¬65535 ≤ state.commandVersionNumber := by omega
  simp [sendCommand, sendCommandBody, gateway, noReset]

theorem sendCommand_of_ge {state : ServerState} (command : Text)
    (gateway : 0 < state.connectedGatewayNumber)
    (above : 65535 ≤ state.commandVersionNumber) :
    sendCommand state command =
      (true, (resetCommandVersionNumber state).2.emit command false) := by
  simp [sendCommand, sendCommandBody, gateway, above]

theorem sendCommand_of_no_gateway {state : ServerState} (command : Text)
    (noGateway : state.connectedGatewayNumber = 0) :
    sendCommand state command = (false, state) := by
  simp [sendCommand, sendCommandBody, noGateway]

/-! ## Reading a message on the sink -/

theorem blank_not_mem_toDigits (version : ℕ) : ' ' ∉ Nat.toDigits 10 version :=
  Library.not_mem_toDigits (by decide)

theorem commandVersion_commandMessage (version : ℕ) (command : Text) :
    commandVersion (Library.cString (commandMessage version command)) =
      toUInt16 version := by
  have noNul : '\x00' ∉ Nat.toDigits 10 version :=
    Library.not_mem_toDigits (by decide)
  have read : Library.cString (commandMessage version command) =
      Nat.toDigits 10 version ++ ' ' :: Library.cString command := by
    rw [commandMessage, Library.cString_append noNul]
    rfl
  rw [read, commandVersion,
    Library.strtok_token Nat.toDigits_ne_nil (blank_not_mem_toDigits version)]
  simp

end IotLab.Server
