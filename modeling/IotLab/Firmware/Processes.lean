import IotLab.Library.CountedRing
import IotLab.Library.Runs

/-!
# The processes of a node

The kernel keeps a queue of posted events and a flag for each process that asks to be
polled.  `process_run` polls the processes that asked for it and hands one event of the
queue to its receivers.  What a process does when it is called is a program that posts
events and asks for polls; it may use whether a post was accepted, and the memory of all
processes, in which it may also find what interrupts did meanwhile.

No process ends, and none is started or exited: those of this firmware wait for events in loops
without end, and are all started before the main loop.
-/

namespace IotLab.Firmware

open IotLab.Library

/-- `PROCESS_CONF_NUMEVENTS`. -/
def numEvents : ℕ := 8

/-- A `process_event_t`. -/
inductive EventNumber where
  | init
  | poll
  | exit
  | continue_
  | msg
  | exited
  | timer
  /-- An event number of `process_alloc_event`. -/
  | allocated (number : ℕ)
  deriving Repr, DecidableEq

/-- `struct event_data`; a receiver `none` is `PROCESS_BROADCAST`. -/
structure PostedEvent (Process Data : Type) where
  ev : EventNumber
  data : Option Data
  receiver : Option Process
  deriving Repr, DecidableEq

/-- The queue after `process_init`; the cells still hold zeroes, which nothing reads. -/
def noEvents {Process Data : Type} : CountedRing (PostedEvent Process Data) numEvents where
  cells _ := ⟨.init, none, none⟩
  first := 0
  count := 0
  firstInside := Nat.zero_lt_succ 7
  countInside := Nat.zero_le numEvents

/-- What a process does in one call. -/
inductive Program (Process Data Memory : Type) where
  | done (memory : Memory)
  | post (event : PostedEvent Process Data) (after : Bool → Program Process Data Memory)
  | poll (process : Process) (after : Program Process Data Memory)

/-- The history of a kernel: posts, events out of the queue, calls and polls. -/
inductive KernelEntry (Process Data : Type) where
  | accepted (event : PostedEvent Process Data)
  | refused (event : PostedEvent Process Data)
  | taken (event : PostedEvent Process Data)
  | called (process : Process) (ev : EventNumber) (data : Option Data)
  | requested (process : Process)
  | polled (process : Process)
  deriving Repr, DecidableEq

/-- The static variables of `process.c` and the fields `state` and `needspoll` of the
processes. -/
structure Kernel (Process Data Memory : Type) where
  processList : List Process
  /-- The state is not `PROCESS_STATE_NONE`. -/
  running : Process → Bool
  needspoll : Process → Bool := fun _ => false
  pollRequested : Bool := false
  events : CountedRing (PostedEvent Process Data) numEvents
  memory : Memory
  trace : List (KernelEntry Process Data) := []

variable {Process Data Memory : Type} [DecidableEq Process]

namespace Kernel

/-- Add an entry to the history. -/
def record (kernel : Kernel Process Data Memory) (entry : KernelEntry Process Data) :
    Kernel Process Data Memory :=
  { kernel with trace := kernel.trace ++ [entry] }

/-- `process_post`, and whether it returns `PROCESS_ERR_OK`. -/
def processPost (kernel : Kernel Process Data Memory) (event : PostedEvent Process Data) :
    Bool × Kernel Process Data Memory :=
  match kernel.events.put event with
  | none => (false, kernel.record (.refused event))
  | some events => (true, { kernel.record (.accepted event) with events })

/-- `process_poll`. -/
def processPoll (kernel : Kernel Process Data Memory) (process : Process) :
    Kernel Process Data Memory :=
  if kernel.running process then
    { kernel.record (.requested process) with
      needspoll := Function.update kernel.needspoll process true
      pollRequested := true }
  else kernel

/-- The fields of a process that `do_poll` is about to call. -/
def beginPoll (kernel : Kernel Process Data Memory) (process : Process) :
    Kernel Process Data Memory :=
  { kernel.record (.polled process) with
    running := Function.update kernel.running process true
    needspoll := Function.update kernel.needspoll process false }

/-- The start of `do_event`, which moves the first event out of the queue. -/
def dequeue (kernel : Kernel Process Data Memory) (event : PostedEvent Process Data)
    (events : CountedRing (PostedEvent Process Data) numEvents) : Kernel Process Data Memory :=
  { kernel.record (.taken event) with events }

/-- Execute the program of a call. -/
def exec : Program Process Data Memory → Kernel Process Data Memory → Kernel Process Data Memory
  | .done memory, kernel => { kernel with memory }
  | .post event after, kernel =>
      exec (after (kernel.processPost event).1) (kernel.processPost event).2
  | .poll process after, kernel => exec after (kernel.processPoll process)

end Kernel

/-- The function `thread` of each process. -/
abbrev Threads (Process Data Memory : Type) :=
  Process → Memory → EventNumber → Option Data → Program Process Data Memory

namespace Kernel

section Run

variable (threads : Threads Process Data Memory)

/-- `call_process`; a process does not end. -/
def callProcess (kernel : Kernel Process Data Memory) (process : Process) (ev : EventNumber)
    (data : Option Data) : Kernel Process Data Memory :=
  if kernel.running process then exec (threads process kernel.memory ev data) kernel else kernel

/-- The body of the loop of `do_poll`. -/
def pollOne (kernel : Kernel Process Data Memory) (process : Process) :
    Kernel Process Data Memory :=
  if kernel.needspoll process then callProcess threads (kernel.beginPoll process) process .poll none
  else kernel

/-- `do_poll`. -/
def doPoll (kernel : Kernel Process Data Memory) : Kernel Process Data Memory :=
  kernel.processList.foldl (pollOne threads) { kernel with pollRequested := false }

/-- The call of a process with an event out of the queue. -/
def handOver (kernel : Kernel Process Data Memory) (ev : EventNumber) (data : Option Data)
    (process : Process) : Kernel Process Data Memory :=
  if kernel.running process then
    callProcess threads (kernel.record (.called process ev data)) process ev data
  else kernel

/-- The body of the loop of `do_event` over the receivers of a broadcast. -/
def broadcastOne (ev : EventNumber) (data : Option Data) (kernel : Kernel Process Data Memory)
    (process : Process) : Kernel Process Data Memory :=
  handOver threads (if kernel.pollRequested then doPoll threads kernel else kernel) ev data process

/-- `do_event`. -/
def doEvent (kernel : Kernel Process Data Memory) : Kernel Process Data Memory :=
  match kernel.events.take with
  | none => kernel
  | some (event, events) =>
      let taken := kernel.dequeue event events
      match event.receiver with
      | none => taken.processList.foldl (broadcastOne threads event.ev event.data) taken
      | some receiver =>
          if event.ev = .init then
            handOver threads { taken with running := Function.update taken.running receiver true }
              event.ev event.data receiver
          else handOver threads taken event.ev event.data receiver

/-- `process_run`. -/
def processRun (kernel : Kernel Process Data Memory) : Kernel Process Data Memory :=
  doEvent threads (if kernel.pollRequested then doPoll threads kernel else kernel)

end Run

end Kernel

/-- What happens on a node: a turn of the main loop, or an interrupt that asks for a poll. -/
inductive KernelAction (Process : Type) where
  | processRun
  | interrupt (process : Process)
  deriving Repr, DecidableEq

/-- One step of a node. -/
def kernelStep (threads : Threads Process Data Memory) (kernel : Kernel Process Data Memory) :
    KernelAction Process → Option (Kernel Process Data Memory)
  | .processRun => some (kernel.processRun threads)
  | .interrupt process => some (kernel.processPoll process)

end IotLab.Firmware
