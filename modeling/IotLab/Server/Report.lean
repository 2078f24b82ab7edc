import IotLab.Server.CommandManager
import Mathlib.Data.List.Induction

/-!
# What a submitted command reports

`sendCommand` counts the sessions of the command type to decide whether it sends,
and `WebSocket.send` reaches those that are open.  A session stays queued when it
closes, so the two agree as long as a gateway is connected or none ever was.
-/

namespace IotLab.Server

open IotLab.Firmware

/-- The closing of a session, seen by any session. -/
def Session.onClose (closed : ℕ) (session : Session) : Session :=
  if session.id = closed then { session with isOpen := false } else session

/-- `WebSocket.onClose`: the session is not open any more, the queue keeps it. -/
def ServerState.onClose (state : ServerState) (id : ℕ) : ServerState :=
  { state with queue := state.queue.map (Session.onClose id) }

@[simp] theorem Session.onClose_id (closed : ℕ) (session : Session) :
    (session.onClose closed).id = session.id := by
  simp only [Session.onClose]
  split <;> rfl

@[simp] theorem Session.onClose_type (closed : ℕ) (session : Session) :
    (session.onClose closed).type = session.type := by
  simp only [Session.onClose]
  split <;> rfl

@[simp] theorem Session.onClose_isOpen (closed : ℕ) (session : Session) :
    (session.onClose closed).isOpen = true ↔
      session.isOpen = true ∧ session.id ≠ closed := by
  simp only [Session.onClose]
  split <;> simp_all

/-- The operations on the sessions and the command of a user. -/
inductive SessionOperation where
  | openConnection (id : ℕ) (type : ℤ) (loggedIn : Bool)
  | onClose (id : ℕ)
  | sendCommand (command : Text)

def SessionOperation.execute (state : ServerState) : SessionOperation → ServerState
  | .openConnection id type loggedIn => Server.openConnection state id type loggedIn
  | .onClose id => state.onClose id
  | .sendCommand command => (Server.sendCommand state command).2

/-- The server after a history of operations. -/
def serveSessions (history : List SessionOperation) : ServerState :=
  history.foldl SessionOperation.execute {}

/-- A gateway is queued and its session is open. -/
def ServerState.GatewayOpen (state : ServerState) : Prop :=
  ∃ session ∈ state.queue, session.isOpen = true ∧ session.type = commandType

/-- The command was sent to a session of the command type that is open. -/
def Delivered (state after : ServerState) (command : Text) : Prop :=
  ∃ emission ∈ after.sent.drop state.sent.length,
    emission.reset = false ∧ emission.command = command ∧
      ∃ session ∈ state.queue, session.isOpen = true ∧ session.type = commandType ∧
        session.id ∈ emission.recipients

instance (state after : ServerState) (command : Text) :
    Decidable (Delivered state after command) :=
  inferInstanceAs (Decidable (∃ emission ∈ after.sent.drop state.sent.length,
    emission.reset = false ∧ emission.command = command ∧
      ∃ session ∈ state.queue, session.isOpen = true ∧ session.type = commandType ∧
        session.id ∈ emission.recipients))

/-- A call of `sendCommand` that is delivered returns true, and one that is not
returns false and keeps the version number. -/
def Truthful (state : ServerState) (command : Text) : Prop :=
  let call := sendCommand state command
  (Delivered state call.2 command → call.1 = true) ∧
    (¬ Delivered state call.2 command →
      call.1 = false ∧ call.2.commandVersionNumber = state.commandVersionNumber)

/-! ## One call -/

/-- With a gateway in the queue the command is sent last, a reset may come first,
and the number changes. -/
theorem sendCommand_sent {state : ServerState}
    (gateway : 0 < state.connectedGatewayNumber) (command : Text) :
    ∃ version resets,
      (∀ emission ∈ resets, Emission.reset emission = true) ∧
      (sendCommand state command).1 = true ∧
      (sendCommand state command).2.sent = state.sent ++ (resets ++
        [⟨version, command, false, state.receivers commandType⟩]) ∧
      (sendCommand state command).2.commandVersionNumber ≠
        state.commandVersionNumber := by
  cases Nat.lt_or_ge state.commandVersionNumber 65535 with
  | inl below =>
      rw [sendCommand_of_lt command gateway below]
      refine ⟨state.commandVersionNumber, [], ?_, rfl, rfl, Nat.succ_ne_self _⟩
      intro emission member
      cases member
  | inr above =>
      rw [sendCommand_of_ge command gateway above, resetCommandVersionNumber_eq gateway]
      refine ⟨1, [⟨65535, resetCommand, true, state.receivers commandType⟩], ?_, rfl,
        ?_, ?_⟩
      · intro emission member
        cases List.mem_singleton.1 member
        rfl
      · exact List.append_assoc _ _ _
      · intro same
        have two : state.commandVersionNumber = 2 := same.symm
        omega

theorem ServerState.mem_receivers {state : ServerState} {id : ℕ} {type : ℤ} :
    id ∈ state.receivers type ↔
      ∃ session ∈ state.queue,
        (session.isOpen = true ∧ session.type = type) ∧ session.id = id := by
  simp [ServerState.receivers, and_assoc]

theorem ServerState.connectedGatewayNumber_pos {state : ServerState} :
    0 < state.connectedGatewayNumber ↔
      ∃ session ∈ state.queue, session.type = commandType := by
  simp [ServerState.connectedGatewayNumber, List.countP_pos_iff]

/-- With a gateway in the queue a command is delivered if an open one is there. -/
theorem delivered_iff {state : ServerState}
    (gateway : 0 < state.connectedGatewayNumber) (command : Text) :
    Delivered state (sendCommand state command).2 command ↔ state.GatewayOpen := by
  obtain ⟨version, resets, allResets, _, sent, _⟩ := sendCommand_sent gateway command
  rw [Delivered, sent, List.drop_left]
  constructor
  · intro delivered
    obtain ⟨_, _, _, _, session, member, isOpen, type, _⟩ := delivered
    exact ⟨session, member, isOpen, type⟩
  · intro gatewayOpen
    obtain ⟨session, member, isOpen, type⟩ := gatewayOpen
    refine ⟨_, List.mem_append_right resets (List.mem_singleton_self _), rfl, rfl,
      session, member, isOpen, type, ?_⟩
    exact ServerState.mem_receivers.2 ⟨session, member, ⟨isOpen, type⟩, rfl⟩

/-- A call is truthful exactly when an open gateway or no gateway at all is queued. -/
theorem truthful_iff (state : ServerState) (command : Text) :
    Truthful state command ↔
      state.GatewayOpen ∨ ∀ session ∈ state.queue, session.type ≠ commandType := by
  cases Nat.eq_zero_or_pos state.connectedGatewayNumber with
  | inl none =>
      have noGateway : ∀ session ∈ state.queue, session.type ≠ commandType := by
        intro session member type
        have counted := ServerState.connectedGatewayNumber_pos.2 ⟨session, member, type⟩
        omega
      refine iff_of_true ?_ (Or.inr noGateway)
      rw [Truthful, sendCommand_of_no_gateway command none]
      constructor
      · intro delivered
        obtain ⟨_, _, _, _, session, member, _, type, _⟩ := delivered
        exact absurd type (noGateway session member)
      · intro _
        exact ⟨rfl, rfl⟩
  | inr gateway =>
      obtain ⟨_, _, _, returned, _, _⟩ := sendCommand_sent gateway command
      have counted : ¬ ∀ session ∈ state.queue, session.type ≠ commandType := by
        intro noGateway
        obtain ⟨session, member, type⟩ :=
          ServerState.connectedGatewayNumber_pos.1 gateway
        exact noGateway session member type
      rw [Truthful, delivered_iff gateway, returned]
      simp [counted]

/-! ## The history of the sessions -/

/-- The server has accepted a gateway. -/
def EverConnected (history : List SessionOperation) : Prop :=
  ∃ id, .openConnection id commandType true ∈ history

/-- A gateway was accepted and has not been closed since. -/
def StillOpen (history : List SessionOperation) (id : ℕ) : Prop :=
  ∃ before after,
    history = before ++ .openConnection id commandType true :: after ∧
      .onClose id ∉ after

@[simp] theorem serveSessions_append (history : List SessionOperation)
    (operation : SessionOperation) :
    serveSessions (history ++ [operation]) =
      operation.execute (serveSessions history) := by
  simp [serveSessions]

theorem not_stillOpen_nil (id : ℕ) : ¬ StillOpen [] id := by
  intro stillOpen
  obtain ⟨before, after, split, _⟩ := stillOpen
  cases before <;> cases split

/-- What one more operation does to a gateway. -/
theorem stillOpen_append {history : List SessionOperation}
    {operation : SessionOperation} {id : ℕ} :
    StillOpen (history ++ [operation]) id ↔
      operation = .openConnection id commandType true ∨
        StillOpen history id ∧ operation ≠ .onClose id := by
  constructor
  · intro stillOpen
    obtain ⟨before, after, split, kept⟩ := stillOpen
    cases List.eq_nil_or_concat after with
    | inl last =>
        subst last
        left
        exact (List.append_inj' split rfl).2 |> List.singleton_inj.1
    | inr more =>
        obtain ⟨earlier, last, concat⟩ := more
        subst concat
        right
        have same : history ++ [operation] =
            (before ++ .openConnection id commandType true :: earlier) ++ [last] := by
          rw [split]
          simp
        obtain ⟨prefixes, lasts⟩ := List.append_inj' same rfl
        cases List.singleton_inj.1 lasts
        simp only [List.concat_eq_append, List.mem_append, List.mem_singleton,
          not_or] at kept
        exact ⟨⟨before, earlier, prefixes, kept.1⟩, fun closed => kept.2 closed.symm⟩
  · intro stillOpen
    cases stillOpen with
    | inl opened =>
        subst opened
        exact ⟨history, [], rfl, List.not_mem_nil⟩
    | inr kept =>
        obtain ⟨⟨before, after, split, notClosed⟩, other⟩ := kept
        refine ⟨before, after ++ [operation], by simp [split], ?_⟩
        simp only [List.mem_append, List.mem_singleton, not_or]
        exact ⟨notClosed, fun closed => other closed.symm⟩

theorem ServerState.emit_queue (state : ServerState) (command : Text) (reset : Bool) :
    (state.emit command reset).queue = state.queue := rfl

theorem sendReset_queue (state : ServerState) :
    (sendReset state).2.queue = state.queue := by
  simp only [sendReset, sendCommandBody]
  split
  · simp [ServerState.emit_queue]
  · rfl

theorem resetCommandVersionNumber_queue (state : ServerState) :
    (resetCommandVersionNumber state).2.queue = state.queue := by
  simp only [resetCommandVersionNumber, sendReset_queue]

theorem sendCommand_queue (state : ServerState) (command : Text) :
    (sendCommand state command).2.queue = state.queue := by
  simp only [sendCommand, sendCommandBody]
  split
  · simp only [ServerState.emit_queue]
    split
    · exact resetCommandVersionNumber_queue state
    · rfl
  · rfl

/-- Only sessions that are not refused are queued. -/
theorem openConnection_queue (state : ServerState) (id : ℕ) (type : ℤ)
    (loggedIn : Bool) :
    (openConnection state id type loggedIn).queue =
      if type = commandType ∧ loggedIn = false then state.queue
      else state.queue ++ [⟨id, type, true⟩] := by
  rw [openConnection]
  split
  · rfl
  · dsimp only
    split
    · rw [sendCommandSinkInfo, sendCommand_queue, resetCommandVersionNumber_queue]
      rfl
    · rfl

/-- The open gateways of the queue are those of the history. -/
theorem open_iff_stillOpen (history : List SessionOperation) (id : ℕ) :
    (∃ session ∈ (serveSessions history).queue,
        session.isOpen = true ∧ session.type = commandType ∧ session.id = id) ↔
      StillOpen history id := by
  induction history using List.reverseRecOn with
  | nil => simp [serveSessions, not_stillOpen_nil]
  | append_singleton history operation ih =>
      rw [serveSessions_append, stillOpen_append, ← ih]
      cases operation with
      | openConnection other type loggedIn =>
          simp only [SessionOperation.execute, openConnection_queue, ne_eq,
            SessionOperation.openConnection.injEq, reduceCtorEq, not_false_eq_true,
            and_true]
          split
          · grind
          · simp only [List.mem_append, List.mem_singleton, or_and_right, exists_or,
              exists_eq_left, true_and]
            grind
      | onClose other =>
          simp only [SessionOperation.execute, ServerState.onClose, List.mem_map,
            exists_exists_and_eq_and, Session.onClose_isOpen, Session.onClose_type,
            Session.onClose_id]
          grind
      | sendCommand command =>
          simp only [SessionOperation.execute, sendCommand_queue]
          grind

/-- The queue holds a gateway when one was ever accepted. -/
theorem queued_iff_everConnected (history : List SessionOperation) :
    (∃ session ∈ (serveSessions history).queue, session.type = commandType) ↔
      EverConnected history := by
  induction history using List.reverseRecOn with
  | nil => simp [serveSessions, EverConnected]
  | append_singleton history operation ih =>
      simp only [EverConnected] at ih
      rw [serveSessions_append]
      simp only [EverConnected, List.mem_append, List.mem_singleton, exists_or, ← ih]
      cases operation with
      | openConnection other type loggedIn =>
          simp only [SessionOperation.execute, openConnection_queue,
            SessionOperation.openConnection.injEq]
          split
          · grind
          · simp only [List.mem_append, List.mem_singleton, or_and_right, exists_or,
              exists_eq_left]
            grind
      | onClose other =>
          simp only [SessionOperation.execute, ServerState.onClose, List.mem_map,
            exists_exists_and_eq_and, Session.onClose_type]
          grind
      | sendCommand command =>
          simp only [SessionOperation.execute, sendCommand_queue]
          grind

/-- After every history, a submitted command reports its delivery truthfully exactly
when some gateway is still open or none was ever accepted. -/
theorem sendCommand_truthful_iff (history : List SessionOperation) (command : Text) :
    Truthful (serveSessions history) command ↔
      (∃ id, StillOpen history id) ∨ ¬ EverConnected history := by
  have opened : (serveSessions history).GatewayOpen ↔ ∃ id, StillOpen history id := by
    constructor
    · intro gatewayOpen
      obtain ⟨session, member, isOpen, type⟩ := gatewayOpen
      exact ⟨session.id,
        (open_iff_stillOpen history session.id).1 ⟨session, member, isOpen, type, rfl⟩⟩
    · intro stillOpen
      obtain ⟨id, stillOpen⟩ := stillOpen
      obtain ⟨session, member, isOpen, type, _⟩ :=
        (open_iff_stillOpen history id).2 stillOpen
      exact ⟨session, member, isOpen, type⟩
  rw [truthful_iff, opened, ← queued_iff_everConnected]
  push Not
  rfl

/-- The only gateway has disconnected: the command is sent to nobody, takes a version
number and is reported as forwarded. -/
theorem closedGateway_not_truthful :
    ¬ Truthful (serveSessions [.openConnection 1 30 true, .onClose 1])
      "START ALL".toList := by
  intro truthful
  have undelivered : ¬ Delivered (serveSessions [.openConnection 1 30 true, .onClose 1])
      (sendCommand (serveSessions [.openConnection 1 30 true, .onClose 1])
        "START ALL".toList).2 "START ALL".toList := by
    decide
  exact absurd (truthful.2 undelivered).1 (by decide)

end IotLab.Server
