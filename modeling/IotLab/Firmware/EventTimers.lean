import IotLab.Firmware.DataPeriod
import IotLab.Firmware.Processes
import IotLab.Library.Stamps

/-!
# Event timers

The pending timers form a list.  When the etimer process is polled it posts an event for
each timer that has expired and takes it off the list, starting again at the head after each;
the interrupt of the clock asks for the poll when the next expiration is reached.  Times are
32-bit stamps.
-/

namespace IotLab.Firmware

open IotLab.Library

/-- The values of a `clock_time_t`. -/
def clockModulus : ℕ := 4294967296

/-- `MAX_TICKS`. -/
def maxTicks : ℕ := 2147483647

/-- The difference of two values of `clock_time_t`. -/
def clockSub (later earlier : ℕ) : ℕ := stampSub clockModulus later earlier

/-- `struct timer`. -/
structure Timer where
  start : ℕ := 0
  interval : ℕ := 0
  deriving Repr, DecidableEq

/-- `timer_expired`. -/
def Timer.expired (timer : Timer) (now : ℕ) : Bool :=
  timer.interval < toClockTime (clockSub now timer.start + 1)

/-- The distance of `update_time`. -/
def Timer.distance (timer : Timer) (now : ℕ) : ℕ :=
  clockSub (toClockTime (timer.start + timer.interval)) now

/-- The data of the events that `etimer.c` sees: a timer, or a process that exits. -/
inductive EventData (Process TimerId : Type) where
  | etimer (timer : TimerId)
  | process (process : Process)
  deriving Repr, DecidableEq

/-- The static variables of `etimer.c` and `clock.c`, and the event timers they point to; an
owner `none` is `PROCESS_NONE`. -/
structure EventTimers (Process TimerId : Type) where
  timer : TimerId → Timer := fun _ => {}
  p : TimerId → Option Process := fun _ => none
  timerlist : List TimerId := []
  nextExpiration : ℕ := 0
  count : ℕ := 0

variable {Process TimerId : Type} [DecidableEq Process] [DecidableEq TimerId]

namespace EventTimers

/-- `timer_expired` now. -/
def isExpired (timers : EventTimers Process TimerId) (id : TimerId) : Bool :=
  (timers.timer id).expired timers.count

/-- The distance that the loop of `update_time` finds. -/
def leastDistance (timers : EventTimers Process TimerId) (first : TimerId)
    (rest : List TimerId) : ℕ :=
  rest.foldl
    (fun tdist id =>
      if (timers.timer id).distance timers.count < tdist then
        (timers.timer id).distance timers.count
      else tdist)
    ((timers.timer first).distance timers.count)

/-- `update_time`. -/
def updateTime (timers : EventTimers Process TimerId) : EventTimers Process TimerId :=
  match timers.timerlist with
  | [] => { timers with nextExpiration := 0 }
  | first :: rest =>
      { timers with
        nextExpiration := toClockTime (timers.count + timers.leastDistance first rest) }

/-- `add_timer` after its request for a poll. -/
def addTimer (timers : EventTimers Process TimerId) (current : Process) (id : TimerId) :
    EventTimers Process TimerId :=
  let owned := { timers with p := Function.update timers.p id (some current) }
  if timers.p id ≠ none ∧ id ∈ timers.timerlist then owned.updateTime
  else { owned with timerlist := id :: timers.timerlist }.updateTime

/-- `timer_set`. -/
def timerSet (timers : EventTimers Process TimerId) (id : TimerId) (interval : ℕ) :
    EventTimers Process TimerId :=
  { timers with timer := Function.update timers.timer id ⟨timers.count, interval⟩ }

/-- `timer_reset`. -/
def timerReset (timers : EventTimers Process TimerId) (id : TimerId) :
    EventTimers Process TimerId :=
  { timers with
    timer := Function.update timers.timer id
      { timers.timer id with
        start := toClockTime ((timers.timer id).start + (timers.timer id).interval) } }

/-- `timer_restart`. -/
def timerRestart (timers : EventTimers Process TimerId) (id : TimerId) :
    EventTimers Process TimerId :=
  { timers with
    timer := Function.update timers.timer id { timers.timer id with start := timers.count } }

/-- `etimer_stop`. -/
def stop (timers : EventTimers Process TimerId) (id : TimerId) : EventTimers Process TimerId :=
  let removed :=
    if id ∈ timers.timerlist then
      { timers with timerlist := timers.timerlist.erase id }.updateTime
    else timers
  { removed with p := Function.update removed.p id none }

/-- What the etimer process does when a process exits. -/
def processExited (timers : EventTimers Process TimerId) (process : Process) :
    EventTimers Process TimerId :=
  { timers with timerlist := timers.timerlist.filter fun id => timers.p id ≠ some process }

/-- A timer whose event has been posted leaves the list. -/
def dismiss (timers : EventTimers Process TimerId) (id : TimerId) : EventTimers Process TimerId :=
  { timers with
    p := Function.update timers.p id none
    timerlist := timers.timerlist.erase id }.updateTime

/-- The event of a timer. -/
def timerEvent (timers : EventTimers Process TimerId) (id : TimerId) :
    PostedEvent Process (EventData Process TimerId) :=
  ⟨.timer, some (.etimer id), timers.p id⟩

/-- The `for` loop of the etimer process over the rest of the list; `again` is the label. -/
def scan (etimerProcess : Process) (timers : EventTimers Process TimerId)
    (again : EventTimers Process TimerId →
      Program Process (EventData Process TimerId) (EventTimers Process TimerId)) :
    List TimerId → Program Process (EventData Process TimerId) (EventTimers Process TimerId)
  | [] => .done timers
  | id :: rest =>
      if timers.isExpired id then
        .post (timers.timerEvent id) fun accepted =>
          if accepted then again (timers.dismiss id)
          else .poll etimerProcess (scan etimerProcess timers again rest)
      else scan etimerProcess timers again rest

/-- What the etimer process does when it is polled.  Each turn after the first follows the
removal of a timer, so that one turn more than there are timers is enough. -/
def pollTimers (etimerProcess : Process) :
    ℕ → EventTimers Process TimerId →
      Program Process (EventData Process TimerId) (EventTimers Process TimerId)
  | 0, timers => .done timers
  | turns + 1, timers =>
      scan etimerProcess timers (pollTimers etimerProcess turns) timers.timerlist

/-- `etimer_process`. -/
def etimerThread (etimerProcess : Process) (timers : EventTimers Process TimerId)
    (ev : EventNumber) (data : Option (EventData Process TimerId)) :
    Program Process (EventData Process TimerId) (EventTimers Process TimerId) :=
  match ev, data with
  | .exited, some (.process process) => .done (timers.processExited process)
  | .poll, _ => pollTimers etimerProcess (timers.timerlist.length + 1) timers
  | _, _ => .done timers

end EventTimers

/-- A node with its event timers. -/
abbrev TimerNode (Process TimerId : Type) :=
  Kernel Process (EventData Process TimerId) (EventTimers Process TimerId)

/-- What can happen to the timers of a node. -/
inductive TimerAction (Process TimerId : Type) where
  /-- A process calls `etimer_set`, `etimer_reset`, `etimer_restart` or `etimer_stop`. -/
  | set (current : Process) (id : TimerId) (interval : ℕ)
  | reset (current : Process) (id : TimerId)
  | restart (current : Process) (id : TimerId)
  | stop (id : TimerId)
  /-- The etimer process is called for the exit of a process, or polled. -/
  | exited (process : Process)
  | poll
  /-- The interrupt of the clock, which also counts the intervals that it has missed. -/
  | tick (missed : ℕ)
  /-- Another process posts an event, or the kernel takes one out of the queue. -/
  | post (event : PostedEvent Process (EventData Process TimerId))
  | take
  deriving Repr, DecidableEq

namespace TimerNode

/-- Change the timers. -/
def onTimers (node : TimerNode Process TimerId)
    (change : EventTimers Process TimerId → EventTimers Process TimerId) :
    TimerNode Process TimerId :=
  { node with memory := change node.memory }

section Step

variable (etimerProcess : Process)

/-- `etimer_request_poll`. -/
def requestPoll (node : TimerNode Process TimerId) : TimerNode Process TimerId :=
  node.processPoll etimerProcess

/-- The interrupt of the clock, `timera1`. -/
def tick (missed : ℕ) (node : TimerNode Process TimerId) : TimerNode Process TimerId :=
  let counted := node.onTimers fun timers =>
    { timers with count := toClockTime (timers.count + (missed + 1)) }
  let timers := counted.memory
  if timers.timerlist ≠ [] ∧ maxTicks < clockSub (clockSub timers.nextExpiration timers.count) 1
  then requestPoll etimerProcess counted
  else counted

/-- One step. -/
def step (node : TimerNode Process TimerId) :
    TimerAction Process TimerId → Option (TimerNode Process TimerId)
  | .set current id interval =>
      some ((requestPoll etimerProcess node).onTimers fun timers =>
        (timers.timerSet id interval).addTimer current id)
  | .reset current id =>
      some ((requestPoll etimerProcess node).onTimers fun timers =>
        (timers.timerReset id).addTimer current id)
  | .restart current id =>
      some ((requestPoll etimerProcess node).onTimers fun timers =>
        (timers.timerRestart id).addTimer current id)
  | .stop id => some (node.onTimers fun timers => timers.stop id)
  | .exited process =>
      some (node.callProcess (fun _ => EventTimers.etimerThread etimerProcess) etimerProcess .exited
        (some (.process process)))
  | .poll =>
      some (node.pollOne (fun _ => EventTimers.etimerThread etimerProcess) etimerProcess)
  | .tick missed => some (tick etimerProcess missed node)
  | .post event => some (node.processPost event).2
  | .take => some (match node.events.take with
      | none => node
      | some (event, events) => node.dequeue event events)

end Step

end TimerNode

end IotLab.Firmware
