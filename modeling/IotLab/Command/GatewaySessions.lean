import IotLab.Library.Runs
import IotLab.Server.Report

/-!
# The websocket sessions of a gateway

A gateway connects in a thread of its own and connects again after a failure, after
the message `unauthorized` and after the closing of a session.  The server tells a
gateway that is not logged in that it is not authorized, and leaves the session
open.  So such a session gives rise to two new connections: one for the message and
one when it closes.
-/

namespace IotLab.Command

open IotLab.Firmware
open IotLab.Library
open IotLab.Server

/-- A session as the gateway sees it. -/
structure GatewaySession where
  id : ℕ
  isOpen : Bool := true
  /-- The server has queued the session. -/
  accepted : Bool
  /-- The message `unauthorized` has not been handled yet. -/
  unauthorized : Bool
  deriving Repr, DecidableEq

/-- A message of the server: whether the gateway was connected when it was sent, and how
often the gateway wrote it to the serial port. -/
structure Received where
  text : Text
  connected : Bool
  writes : ℕ
  deriving Repr, DecidableEq

/-- A gateway with its server. -/
structure GatewayState where
  /-- Threads in `connect`, or asleep before it. -/
  connecting : ℕ := 1
  /-- The static `queue`, of session ids. -/
  queue : List ℕ := []
  sessions : List GatewaySession := []
  server : ServerState := {}
  /-- What `writeSerialData` was called with. -/
  written : List Text := []
  received : List Received := []

/-- What happens to a gateway. -/
inductive GatewayEvent where
  | connectFails
  /-- `connectToServer` returns a session. -/
  | connectSucceeds (loggedIn : Bool)
  /-- The message `unauthorized` is handled. -/
  | unauthorized (id : ℕ)
  | close (id : ℕ)
  | serverCommand (command : Text)
  deriving DecidableEq

/-- A session that the server sends commands to. -/
def GatewaySession.connected (session : GatewaySession) : Bool :=
  session.accepted && session.isOpen

def GatewayState.connected (state : GatewayState) : Bool :=
  state.sessions.any GatewaySession.connected

/-- The open sessions. -/
def GatewayState.openSessions (state : GatewayState) : ℕ :=
  state.sessions.countP GatewaySession.isOpen

/-- The server has sent more.  Each recipient hands its message to
`handleIncomingCommand`. -/
def GatewayState.receive (state : GatewayState) (server : ServerState) : GatewayState :=
  let emissions := server.sent.drop state.server.sent.length
  { state with
    server
    written := state.written ++ emissions.flatMap fun emission =>
      emission.recipients.map fun _ => emission.text
    received := state.received ++ emissions.map fun emission =>
      { text := emission.text
        connected := state.connected
        writes := emission.recipients.length } }

/-- The closing of a session, seen by any session. -/
def GatewaySession.close (closed : ℕ) (session : GatewaySession) : GatewaySession :=
  if session.id = closed then { session with isOpen := false } else session

/-- The message of a session has been handled, seen by any session. -/
def GatewaySession.handle (handled : ℕ) (session : GatewaySession) : GatewaySession :=
  if session.id = handled then { session with unauthorized := false } else session

/-- One event. -/
def gatewayStep (state : GatewayState) : GatewayEvent → Option GatewayState
  | .connectFails =>
      -- the same thread sleeps and connects again
      if 0 < state.connecting then some { state with queue := [] } else none
  | .connectSucceeds loggedIn =>
      if 0 < state.connecting then
        let session : GatewaySession :=
          { id := state.sessions.length, accepted := loggedIn, unauthorized := !loggedIn }
        let connected : GatewayState := { state with
          connecting := state.connecting - 1
          queue := [session.id]
          sessions := state.sessions ++ [session] }
        some (connected.receive
          (openConnection state.server session.id commandType loggedIn))
      else none
  | .unauthorized id =>
      if state.sessions.any fun session =>
          session.id = id && session.isOpen && session.unauthorized then
        -- `reconnect`, and the session stays open
        some { state with
          connecting := state.connecting + 1
          sessions := state.sessions.map (GatewaySession.handle id) }
      else none
  | .close id =>
      if state.sessions.any fun session => session.id = id && session.isOpen then
        some { state with
          connecting := state.connecting + 1
          sessions := state.sessions.map (GatewaySession.close id)
          server := state.server.onClose id }
      else none
  | .serverCommand command => some (state.receive (sendCommand state.server command).2)

/-- At most one session is open, and what was sent while the gateway was connected has
been written once. -/
structure OneSession (state : GatewayState) : Prop where
  sessions : state.openSessions ≤ 1
  writtenOnce : ∀ message ∈ state.received,
    message.connected = true → message.writes = 1

/-! ## What the server sends -/

/-- The queue stays and everything sent reaches the open gateways in it. -/
def Sends (state after : ServerState) : Prop :=
  after.queue = state.queue ∧ ∃ emissions, after.sent = state.sent ++ emissions ∧
    ∀ emission ∈ emissions, emission.recipients = state.receivers commandType

theorem Sends.refl (state : ServerState) : Sends state state :=
  ⟨rfl, [], (List.append_nil _).symm, by simp⟩

theorem Sends.trans {first second third : ServerState} (left : Sends first second)
    (right : Sends second third) : Sends first third := by
  obtain ⟨leftQueue, earlier, leftSent, leftRecipients⟩ := left
  obtain ⟨rightQueue, later, rightSent, rightRecipients⟩ := right
  refine ⟨rightQueue.trans leftQueue, earlier ++ later, ?_, ?_⟩
  · rw [rightSent, leftSent, List.append_assoc]
  · intro emission member
    cases List.mem_append.1 member with
    | inl before => exact leftRecipients emission before
    | inr after =>
        rw [rightRecipients emission after, ServerState.receivers, leftQueue]
        rfl

theorem sends_emit (state : ServerState) (command : Text) (reset : Bool) :
    Sends state (state.emit command reset) := by
  refine ⟨rfl, _, rfl, ?_⟩
  intro emission member
  cases List.mem_singleton.1 member
  rfl

theorem Sends.assign {state after : ServerState} (sends : Sends state after)
    (before later : ℕ) :
    Sends { state with commandVersionNumber := before }
      { after with commandVersionNumber := later } := sends

theorem sends_resetCommandVersionNumber (state : ServerState) :
    Sends state (resetCommandVersionNumber state).2 := by
  have nested : Sends { state with commandVersionNumber := 65535 }
      (sendReset { state with commandVersionNumber := 65535 }).2 := by
    rw [sendReset, sendCommandBody]
    split
    · simp only [id]
      split
      · exact sends_emit _ _ _
      · exact sends_emit _ _ _
    · exact Sends.refl _
  exact nested.assign state.commandVersionNumber 1

theorem sends_sendCommand (state : ServerState) (command : Text) :
    Sends state (sendCommand state command).2 := by
  rw [sendCommand, sendCommandBody]
  split
  · dsimp only
    split
    · exact (sends_resetCommandVersionNumber state).trans (sends_emit _ _ _)
    · exact sends_emit _ _ _
  · exact Sends.refl _

theorem sends_openConnection (state : ServerState) (id : ℕ) :
    Sends (state.enqueue id commandType) (openConnection state id commandType true) := by
  have accepted : openConnection state id commandType true =
      (sendCommandSinkInfo (resetCommandVersionNumber
        (state.enqueue id commandType)).2).2 := by
    simp [openConnection]
  rw [accepted]
  exact (sends_resetCommandVersionNumber _).trans (sends_sendCommand _ _)

/-! ## The invariant -/

/-- The session of the server for one of the gateway. -/
def GatewaySession.onServer (session : GatewaySession) : Session :=
  { id := session.id, type := commandType, isOpen := session.isOpen }

/-- Threads and open sessions together are one more than the `unauthorized` messages
that were handled, and the server queues the accepted sessions. -/
structure GatewayInvariant (handled : ℕ) (state : GatewayState) : Prop where
  threads : state.connecting + state.openSessions = 1 + handled
  ids : state.sessions.map GatewaySession.id = List.range state.sessions.length
  queued : state.server.queue =
    (state.sessions.filter GatewaySession.accepted).map GatewaySession.onServer

theorem GatewayInvariant.length_receivers {handled : ℕ} {state : GatewayState}
    (invariant : GatewayInvariant handled state) :
    (state.server.receivers commandType).length =
      state.sessions.countP GatewaySession.connected := by
  rw [ServerState.receivers, invariant.queued, List.length_map, List.filter_map,
    List.length_map, List.filter_filter, List.countP_eq_length_filter]
  congr 2
  funext session
  simp [GatewaySession.onServer, GatewaySession.connected, Bool.and_comm]

theorem countP_connected_le (state : GatewayState) :
    state.sessions.countP GatewaySession.connected ≤ state.openSessions := by
  apply List.countP_mono_left
  intro session _ connected
  simp only [GatewaySession.connected, Bool.and_eq_true] at connected
  exact connected.2

theorem GatewayInvariant.one_recipient {handled : ℕ} {state : GatewayState}
    (invariant : GatewayInvariant handled state) (single : state.openSessions ≤ 1)
    (connected : state.connected = true) :
    (state.server.receivers commandType).length = 1 := by
  have some_ : 0 < state.sessions.countP GatewaySession.connected := by
    rw [List.countP_pos_iff]
    simpa [GatewayState.connected] using connected
  have few := countP_connected_le state
  rw [invariant.length_receivers]
  omega

@[simp] theorem GatewaySession.close_id (closed : ℕ) (session : GatewaySession) :
    (session.close closed).id = session.id := by
  rw [GatewaySession.close]
  split <;> rfl

@[simp] theorem GatewaySession.close_accepted (closed : ℕ) (session : GatewaySession) :
    (session.close closed).accepted = session.accepted := by
  rw [GatewaySession.close]
  split <;> rfl

theorem GatewaySession.close_onServer (closed : ℕ) (session : GatewaySession) :
    (session.close closed).onServer = session.onServer.onClose closed := by
  rw [GatewaySession.close, Session.onClose]
  by_cases same : session.id = closed
  · rw [if_pos same, if_pos (show session.onServer.id = closed from same)]
    rfl
  · rw [if_neg same, if_neg (show session.onServer.id ≠ closed from same)]

@[simp] theorem GatewaySession.handle_id (handled : ℕ) (session : GatewaySession) :
    (session.handle handled).id = session.id := by
  rw [GatewaySession.handle]
  split <;> rfl

@[simp] theorem GatewaySession.handle_isOpen (handled : ℕ) (session : GatewaySession) :
    (session.handle handled).isOpen = session.isOpen := by
  rw [GatewaySession.handle]
  split <;> rfl

@[simp] theorem GatewaySession.handle_accepted (handled : ℕ) (session : GatewaySession) :
    (session.handle handled).accepted = session.accepted := by
  rw [GatewaySession.handle]
  split <;> rfl

theorem GatewaySession.handle_onServer (handled : ℕ) (session : GatewaySession) :
    (session.handle handled).onServer = session.onServer := by
  simp [GatewaySession.onServer]

/-- Closing an open session leaves one less. -/
theorem countP_close {sessions : List GatewaySession} {id : ℕ}
    (unique : (sessions.map GatewaySession.id).Nodup)
    (found : ∃ session ∈ sessions, session.id = id ∧ session.isOpen = true) :
    (sessions.map (GatewaySession.close id)).countP GatewaySession.isOpen + 1 =
      sessions.countP GatewaySession.isOpen := by
  induction sessions with
  | nil => simp at found
  | cons session rest ih =>
      rw [List.map_cons, List.nodup_cons] at unique
      by_cases here : session.id = id
      · have others : rest.map (GatewaySession.close id) = rest := by
          apply (List.map_congr_left ?_).trans (List.map_id rest)
          intro other member
          have different : other.id ≠ id := by
            intro same
            exact unique.1 (List.mem_map.2 ⟨other, member, same.trans here.symm⟩)
          exact if_neg different
        have isOpen : session.isOpen = true := by
          obtain ⟨other, member, same, isOpen⟩ := found
          cases List.mem_cons.1 member with
          | inl first => exact first ▸ isOpen
          | inr later =>
              exact absurd (List.mem_map.2 ⟨other, later, same.trans here.symm⟩) unique.1
        rw [List.map_cons, others, List.countP_cons, List.countP_cons,
          GatewaySession.close, if_pos here, if_pos isOpen]
        simp
      · have later : ∃ other ∈ rest, other.id = id ∧ other.isOpen = true := by
          obtain ⟨other, member, same, isOpen⟩ := found
          cases List.mem_cons.1 member with
          | inl first => exact absurd (first ▸ same) here
          | inr later => exact ⟨other, later, same, isOpen⟩
        have fewer := ih unique.2 later
        rw [List.map_cons, List.countP_cons, List.countP_cons, GatewaySession.close,
          if_neg here]
        omega

/-! ## One event -/

/-- The message `unauthorized` is handled. -/
def GatewayEvent.isUnauthorized : GatewayEvent → Bool
  | .unauthorized _ => true
  | _ => false

theorem GatewayInvariant.receive {handled : ℕ} {state : GatewayState}
    (threads : state.connecting + state.openSessions = 1 + handled)
    (ids : state.sessions.map GatewaySession.id = List.range state.sessions.length)
    {queued server : ServerState} (sends : Sends queued server)
    (queue : queued.queue =
      (state.sessions.filter GatewaySession.accepted).map GatewaySession.onServer) :
    GatewayInvariant handled (state.receive server) :=
  { threads, ids, queued := sends.1.trans queue }

/-- A thread that connects becomes a session. -/
theorem GatewayInvariant.connect {handled : ℕ} {state : GatewayState}
    (invariant : GatewayInvariant handled state) (waiting : 0 < state.connecting)
    (loggedIn : Bool) {queue : List ℕ} :
    GatewayInvariant handled
      (({ state with
          connecting := state.connecting - 1
          queue
          sessions := state.sessions ++
            [⟨state.sessions.length, true, loggedIn, !loggedIn⟩] } : GatewayState).receive
        (openConnection state.server state.sessions.length commandType loggedIn)) := by
  have threads : state.connecting - 1 + (state.openSessions + 1) = 1 + handled := by
    have balance := invariant.threads
    omega
  have ids : (state.sessions ++ [(⟨state.sessions.length, true, loggedIn,
      !loggedIn⟩ : GatewaySession)]).map GatewaySession.id =
        List.range (state.sessions.length + 1) := by
    rw [List.map_append, invariant.ids, List.range_succ]
    rfl
  cases loggedIn with
  | true =>
      apply GatewayInvariant.receive _ _ (sends_openConnection _ _)
      · simp [ServerState.enqueue, invariant.queued, GatewaySession.onServer]
      · simpa [GatewayState.openSessions] using threads
      · simpa using ids
  | false =>
      apply GatewayInvariant.receive _ _ (Sends.refl _)
      · simp [openConnection, invariant.queued]
      · simpa [GatewayState.openSessions] using threads
      · simpa using ids

/-- A handled `unauthorized` starts a thread and leaves its session open. -/
theorem GatewayInvariant.reconnect {handled : ℕ} {state : GatewayState}
    (invariant : GatewayInvariant handled state) (id : ℕ) :
    GatewayInvariant (handled + 1)
      { state with
        connecting := state.connecting + 1
        sessions := state.sessions.map (GatewaySession.handle id) } := by
  constructor
  · have balance := invariant.threads
    have same : (state.sessions.map (GatewaySession.handle id)).countP
        GatewaySession.isOpen = state.openSessions := by
      simp [GatewayState.openSessions, List.countP_map, Function.comp_def]
    simp only [GatewayState.openSessions, same] at balance ⊢
    omega
  · simpa [Function.comp_def] using invariant.ids
  · simp [invariant.queued, List.filter_map, Function.comp_def,
      GatewaySession.handle_onServer]

/-- A thread takes the place of a session that closes. -/
theorem GatewayInvariant.close {handled : ℕ} {state : GatewayState}
    (invariant : GatewayInvariant handled state) {id : ℕ}
    (opened : ∃ session ∈ state.sessions, session.id = id ∧ session.isOpen = true) :
    GatewayInvariant handled
      { state with
        connecting := state.connecting + 1
        sessions := state.sessions.map (GatewaySession.close id)
        server := state.server.onClose id } := by
  have unique : (state.sessions.map GatewaySession.id).Nodup :=
    invariant.ids ▸ List.nodup_range
  have fewer := countP_close unique opened
  constructor
  · have balance := invariant.threads
    simp only [GatewayState.openSessions] at balance ⊢
    omega
  · simpa [Function.comp_def] using invariant.ids
  · simp [ServerState.onClose, invariant.queued, List.filter_map,
      Function.comp_def, GatewaySession.close_onServer]

/-- One event keeps the balance: only a handled `unauthorized` adds to it. -/
theorem GatewayInvariant.step {handled : ℕ} {state next : GatewayState}
    {event : GatewayEvent} (invariant : GatewayInvariant handled state)
    (stepped : gatewayStep state event = some next) :
    GatewayInvariant (handled + if event.isUnauthorized then 1 else 0) next := by
  cases event with
  | connectFails =>
      simp only [gatewayStep] at stepped
      split at stepped
      · cases stepped
        exact ⟨invariant.threads, invariant.ids, invariant.queued⟩
      · cases stepped
  | connectSucceeds loggedIn =>
      simp only [gatewayStep] at stepped
      split at stepped
      · next waiting =>
          cases stepped
          exact invariant.connect waiting loggedIn
      · cases stepped
  | unauthorized id =>
      simp only [gatewayStep] at stepped
      split at stepped
      · cases stepped
        exact invariant.reconnect id
      · cases stepped
  | close id =>
      simp only [gatewayStep] at stepped
      split at stepped
      · next found =>
          cases stepped
          exact invariant.close (by simpa using found)
      · cases stepped
  | serverCommand command =>
      simp only [gatewayStep] at stepped
      cases stepped
      exact .receive invariant.threads invariant.ids (sends_sendCommand _ _)
        invariant.queued

/-! ## Whole runs -/

/-- A message that reaches a gateway with one session is written once. -/
theorem GatewayInvariant.writtenOnce_receive {handled : ℕ} {state : GatewayState}
    {queued server : ServerState} (invariant : GatewayInvariant handled (state.receive server))
    (sends : Sends queued server) (sent : queued.sent = state.server.sent)
    (single : state.openSessions ≤ 1)
    (before : ∀ message ∈ state.received, message.connected = true → message.writes = 1) :
    ∀ message ∈ (state.receive server).received,
      message.connected = true → message.writes = 1 := by
  obtain ⟨queue, emissions, appended, recipients⟩ := sends
  have new : server.sent.drop state.server.sent.length = emissions := by
    rw [appended, sent, List.drop_left]
  intro message member connected
  simp only [GatewayState.receive, new, List.mem_append, List.mem_map] at member
  cases member with
  | inl earlier => exact before message earlier connected
  | inr later =>
      obtain ⟨emission, inside, same⟩ := later
      subst same
      have one := invariant.one_recipient single connected
      simp only [recipients emission inside]
      rw [ServerState.receivers, ← queue]
      exact one

/-- The state between two events of a run without a handled `unauthorized`. -/
structure Unrefused (state : GatewayState) : Prop where
  balanced : GatewayInvariant 0 state
  writtenOnce : ∀ message ∈ state.received,
    message.connected = true → message.writes = 1

theorem GatewayInvariant.openSessions_le {state : GatewayState}
    (invariant : GatewayInvariant 0 state) : state.openSessions ≤ 1 := by
  have balance := invariant.threads
  omega

theorem Unrefused.step {state next : GatewayState} {event : GatewayEvent}
    (unrefused : Unrefused state) (calm : event.isUnauthorized = false)
    (stepped : gatewayStep state event = some next) : Unrefused next := by
  have balanced := unrefused.balanced.step stepped
  rw [calm] at balanced
  refine ⟨balanced, ?_⟩
  cases event with
  | connectFails =>
      simp only [gatewayStep] at stepped
      split at stepped
      · cases stepped
        exact unrefused.writtenOnce
      · cases stepped
  | connectSucceeds loggedIn =>
      simp only [gatewayStep] at stepped
      split at stepped
      · cases stepped
        cases loggedIn with
        | true =>
            exact balanced.writtenOnce_receive (sends_openConnection _ _) rfl
              balanced.openSessions_le unrefused.writtenOnce
        | false =>
            exact balanced.writtenOnce_receive (Sends.refl _) rfl
              balanced.openSessions_le unrefused.writtenOnce
      · cases stepped
  | unauthorized id => cases calm
  | close id =>
      simp only [gatewayStep] at stepped
      split at stepped
      · cases stepped
        exact unrefused.writtenOnce
      · cases stepped
  | serverCommand command =>
      simp only [gatewayStep] at stepped
      cases stepped
      exact balanced.writtenOnce_receive (sends_sendCommand _ _) rfl
        balanced.openSessions_le unrefused.writtenOnce

theorem gatewayInvariant_initially : GatewayInvariant 0 {} :=
  { threads := rfl, ids := rfl, queued := rfl }

theorem unrefused_of_run {events : List GatewayEvent} {final : GatewayState}
    (calm : ∀ event ∈ events, event.isUnauthorized = false)
    (executed : run gatewayStep {} events = some final) : Unrefused final := by
  apply (everyStep_of_forall calm {}).preserves Unrefused _ _ executed
  · intro state event next unrefused calm stepped
    exact unrefused.step calm stepped
  · exact ⟨gatewayInvariant_initially, by simp⟩

/-- The balance after a run. -/
theorem gatewayInvariant_run {events : List GatewayEvent} {state final : GatewayState}
    {handled : ℕ} (invariant : GatewayInvariant handled state)
    (executed : run gatewayStep state events = some final) :
    GatewayInvariant (handled + events.countP GatewayEvent.isUnauthorized) final := by
  induction events generalizing state handled with
  | nil =>
      cases executed
      exact invariant
  | cons event rest ih =>
      obtain ⟨next, stepped, remaining⟩ := run_cons executed
      have later := ih (invariant.step stepped) remaining
      rw [List.countP_cons, Nat.add_comm (rest.countP _), ← Nat.add_assoc]
      exact later

/-- Every thread that is connecting can open a session. -/
theorem exists_all_connected (state : GatewayState) :
    ∃ later, run gatewayStep state
        (List.replicate state.connecting (.connectSucceeds true)) = some later ∧
      later.openSessions = state.openSessions + state.connecting := by
  generalize threads : state.connecting = count
  induction count generalizing state with
  | zero => exact ⟨state, rfl, rfl⟩
  | succ count ih =>
      have waiting : 0 < state.connecting := by
        rw [threads]
        exact Nat.succ_pos count
      obtain ⟨next, stepped⟩ : ∃ next,
          gatewayStep state (.connectSucceeds true) = some next := ⟨_, if_pos waiting⟩
      have fewer : next.connecting = count ∧
          next.openSessions = state.openSessions + 1 := by
        simp only [gatewayStep, if_pos waiting, Option.some.injEq] at stepped
        subst stepped
        simp [GatewayState.receive, GatewayState.openSessions, threads]
      obtain ⟨later, executed, opened⟩ := ih next fewer.1
      refine ⟨later, ?_, ?_⟩
      · rw [List.replicate_succ, run]
        simp only [stepped, executed]
      · rw [opened, fewer.2]
        omega

/-- A gateway that loses its session and connects again. -/
def reconnection : List GatewayEvent :=
  [.connectSucceeds true, .close 0, .connectFails, .connectSucceeds true,
    .serverCommand "START ALL".toList]

/-- A gateway that is refused, connects again after the message and loses the refused
session late. -/
def lateClosing : List GatewayEvent :=
  [.connectSucceeds false, .unauthorized 0, .connectSucceeds true, .close 0,
    .connectSucceeds true, .serverCommand "STOP ALL".toList]

end IotLab.Command
