import IotLab.Firmware.AlarmEvents
import IotLab.Firmware.DataPeriod

/-!
# The data module on its timers

The process of a sender gives every event to `data_check`, which waits for a random time after
each expiration of `period_timer` and then sends.  The timers are those of the node; the
interrupt of the clock, the commands and the other processes come in any order.
-/

namespace IotLab.Firmware

open IotLab.Library

/-- The processes of a sender. -/
inductive SenderProcess where
  | etimer
  | udpClient
  | other (number : ℕ)
  deriving Repr, DecidableEq

/-- The event timers of a sender. -/
inductive SenderTimer where
  | periodTimer
  | waitTimer
  | other (number : ℕ)
  deriving Repr, DecidableEq

/-- The events of a sender. -/
abbrev SenderEvent := PostedEvent SenderProcess (EventData SenderProcess SenderTimer)

/-- The events of a sender that concern its timers. -/
abbrev SenderAction := TimerAction SenderProcess SenderTimer

/-- The timers of the data module. -/
def SenderTimer.ofData : SenderTimer → Bool
  | .periodTimer | .waitTimer => true
  | .other _ => false

/-- What `data_check` compares in an event; `random` is what `random_rand` returns. -/
def timerEvent (event : SenderEvent) (random : ℕ) : TimerEvent :=
  if announces .udpClient .periodTimer event then .period random
  else if announces .udpClient .waitTimer event then .wait
  else .other

/-- A sender with its data module.  The log has the tick at which each wait was over, and
whether `data_send` was called. -/
structure DataNode where
  timers : TimerNode SenderProcess SenderTimer
  data : DataModule := {}
  ticks : ℕ := 0
  log : List (ℕ × Bool) := []

/-- The number of entries of a log in a period, counted from a start. -/
def slotsIn (log : List (ℕ × Bool)) (start length index : ℕ) : ℕ :=
  log.countP fun slot => (slot.1 - start) / length = index

/-- What happens on a sender. -/
inductive DataAction where
  /-- The interrupt of the clock. -/
  | tick
  /-- A turn of the main loop, with the result of `random_rand`. -/
  | turn (random : ℕ)
  /-- A call out of `sender_command_check`. -/
  | call (call : SenderCall)
  /-- What the other modules and processes do. -/
  | other (action : SenderAction)

/-- The action sets no period. -/
def DataAction.keepsPeriod : DataAction → Bool
  | .call (.setDataPeriod _) => false
  | .tick | .turn _ | .call _ | .other _ => true

namespace DataNode

/-- A call of the timers. -/
def timerStep (node : DataNode) (action : SenderAction) : Option DataNode :=
  (TimerNode.step .etimer node.timers action).map fun timers => { node with timers }

/-- `data_init`. -/
def dataInit (timers : TimerNode SenderProcess SenderTimer) : Option DataNode :=
  let node : DataNode := { timers }
  node.timerStep (.set .udpClient .periodTimer node.data.periodTimer)

/-- `data_check`. -/
def dataCheck (node : DataNode) (event : SenderEvent) (random : ℕ) : Option DataNode := do
  let data ← Firmware.dataCheck node.data (timerEvent event random)
  match timerEvent event random with
  | .period _ =>
      let reset ← { node with data }.timerStep (.reset .udpClient .periodTimer)
      reset.timerStep (.set .udpClient .waitTimer data.waitTimer)
  | .wait => some { node with data, log := node.log ++ [(node.ticks, node.data.started)] }
  | .other => some { node with data }

/-- A turn of the main loop: the poll of the timers, then one event. -/
def turn (node : DataNode) (random : ℕ) : Option DataNode := do
  let polled ← node.timerStep .poll
  let taken ← polled.timerStep .take
  match polled.timers.events.contents with
  | [] => some taken
  | event :: _ => taken.dataCheck event random

section

variable (node : DataNode) {polled taken : DataNode} {random : ℕ}

theorem turn_nil (poll : node.timerStep .poll = some polled)
    (take : polled.timerStep .take = some taken) (empty : polled.timers.events.contents = []) :
    node.turn random = some taken := by
  simp only [turn, poll, take, empty, Option.bind_eq_bind, Option.bind_some]

theorem turn_cons {event : SenderEvent} {rest : List SenderEvent}
    (poll : node.timerStep .poll = some polled) (take : polled.timerStep .take = some taken)
    (queue : polled.timers.events.contents = event :: rest) :
    node.turn random = taken.dataCheck event random := by
  simp only [turn, poll, take, queue, Option.bind_eq_bind, Option.bind_some]

end

/-- A call out of `sender_command_check`. -/
def call (node : DataNode) (call : SenderCall) : Option DataNode :=
  let called := { node with data := node.data.call call }
  match call with
  | .setDataPeriod _ => do
      let first ← called.timerStep (.set .udpClient .periodTimer called.data.periodTimer)
      first.timerStep (.set .udpClient .waitTimer called.data.waitTimer)
  | .senderStartModules _ | .senderStopModules _ | .strdup _ | .free | .setTxpower _
  | .multicastSend _ => some called

/-- One step of a sender. -/
def step (node : DataNode) : DataAction → Option DataNode
  | .tick => { node with ticks := node.ticks + 1 }.timerStep (.tick 0)
  | .turn random => node.turn random
  | .call call => node.call call
  | .other action => node.timerStep action

/-- No poll of the timers is asked for, and no event waits. -/
def Idle (node : DataNode) : Prop := node.timers.Idle .etimer

instance (node : DataNode) : Decidable node.Idle :=
  inferInstanceAs (Decidable (node.timers.Idle .etimer))

/-- The main loop has nothing left to do when the clock ticks or a new period comes, the period
is a possible one, and others use timers of their own. -/
def Prompt (node : DataNode) : DataAction → Prop
  | .tick => node.Idle
  | .turn _ => True
  | .call (.setDataPeriod period) => node.Idle ∧ 0 < period ∧ period < 65536
  | .call _ => True
  | .other action => Others .udpClient SenderTimer.ofData node.timers.memory action = true

instance (node : DataNode) (action : DataAction) : Decidable (node.Prompt action) :=
  match action with
  | .tick => inferInstanceAs (Decidable node.Idle)
  | .turn _ => isTrue trivial
  | .call (.setDataPeriod period) =>
      inferInstanceAs (Decidable (node.Idle ∧ 0 < period ∧ period < 65536))
  | .call (.senderStartModules _) | .call (.senderStopModules _) | .call (.strdup _) | .call .free
  | .call (.setTxpower _) | .call (.multicastSend _) => isTrue trivial
  | .other action =>
      inferInstanceAs
        (Decidable (Others .udpClient SenderTimer.ofData node.timers.memory action = true))

end DataNode

end IotLab.Firmware
