import IotLab.Firmware.Processes
import IotLab.Library.History

/-!
# Delivery of events and polls

In every run of a node each event that was accepted is handed over once to each of its
receivers, in the order of the posts, and each request for a poll is followed by a poll.
-/

namespace IotLab.Firmware

open IotLab.Library

variable {Process Data Memory : Type}

/-! ## What a history says -/

/-- The event of a successful post. -/
def KernelEntry.acceptedEvent : KernelEntry Process Data → Option (PostedEvent Process Data)
  | .accepted event => some event
  | .refused _ | .taken _ | .called _ _ _ | .requested _ | .polled _ => none

/-- The event that leaves the queue. -/
def KernelEntry.takenEvent : KernelEntry Process Data → Option (PostedEvent Process Data)
  | .taken event => some event
  | .accepted _ | .refused _ | .called _ _ _ | .requested _ | .polled _ => none

/-- The call of a process with an event. -/
def KernelEntry.call :
    KernelEntry Process Data → Option (Process × EventNumber × Option Data)
  | .called process ev data => some (process, ev, data)
  | .accepted _ | .refused _ | .taken _ | .requested _ | .polled _ => none

/-- Whether a process waits for a poll after an entry. -/
def KernelEntry.asks [DecidableEq Process] (process : Process) (before : Bool) :
    KernelEntry Process Data → Bool
  | .requested other => if other = process then true else before
  | .polled other => if other = process then false else before
  | .accepted _ | .refused _ | .taken _ | .called _ _ _ => before

/-- The accepted events of a history, in order. -/
def acceptedEvents (trace : List (KernelEntry Process Data)) : List (PostedEvent Process Data) :=
  trace.filterMap KernelEntry.acceptedEvent

/-- The events of a history that left the queue, in order. -/
def takenEvents (trace : List (KernelEntry Process Data)) : List (PostedEvent Process Data) :=
  trace.filterMap KernelEntry.takenEvent

/-- The calls of a history, in order. -/
def calls (trace : List (KernelEntry Process Data)) :
    List (Process × EventNumber × Option Data) :=
  trace.filterMap KernelEntry.call

/-- A process has asked for a poll since its last poll. -/
def asking [DecidableEq Process] (trace : List (KernelEntry Process Data))
    (process : Process) : Bool :=
  trace.foldl (KernelEntry.asks process) false

/-- The calls that an event stands for. -/
def PostedEvent.deliveries (processes : List Process) (event : PostedEvent Process Data) :
    List (Process × EventNumber × Option Data) :=
  match event.receiver with
  | none => processes.map fun process => (process, event.ev, event.data)
  | some receiver => [(receiver, event.ev, event.data)]

/-- An event is refused when the queue is full, and a process is polled when it asked. -/
def KernelEntry.Allowed [DecidableEq Process] (before : List (KernelEntry Process Data)) :
    KernelEntry Process Data → Prop
  | .refused _ => (acceptedEvents before).length = (takenEvents before).length + numEvents
  | .polled process => asking before process = true
  | .accepted _ | .taken _ | .called _ _ _ | .requested _ => True

section Histories

variable (trace : List (KernelEntry Process Data)) (entry : KernelEntry Process Data)

@[simp] theorem acceptedEvents_concat :
    acceptedEvents (trace ++ [entry]) = acceptedEvents trace ++ entry.acceptedEvent.toList := by
  cases entry <;> simp [acceptedEvents, KernelEntry.acceptedEvent, List.filterMap_cons]

@[simp] theorem takenEvents_concat :
    takenEvents (trace ++ [entry]) = takenEvents trace ++ entry.takenEvent.toList := by
  cases entry <;> simp [takenEvents, KernelEntry.takenEvent, List.filterMap_cons]

@[simp] theorem calls_concat : calls (trace ++ [entry]) = calls trace ++ entry.call.toList := by
  cases entry <;> simp [calls, KernelEntry.call, List.filterMap_cons]

@[simp] theorem asking_concat [DecidableEq Process] (process : Process) :
    asking (trace ++ [entry]) process = entry.asks process (asking trace process) := by
  simp [asking]

end Histories

/-- A process that no longer waits has been polled since it asked. -/
theorem polled_of_not_asking [DecidableEq Process] {process : Process}
    {before after : List (KernelEntry Process Data)}
    (idle : asking (before ++ .requested process :: after) process = false) :
    .polled process ∈ after := by
  induction after using List.reverseRecOn with
  | nil => simp [asking, KernelEntry.asks] at idle
  | append_singleton init last ih =>
      rw [← List.cons_append, ← List.append_assoc, asking_concat] at idle
      rw [List.mem_append, List.mem_singleton]
      cases last with
      | polled other =>
          by_cases same : other = process
          · exact .inr (same ▸ rfl)
          · rw [KernelEntry.asks, if_neg same] at idle
            exact .inl (ih idle)
      | requested other =>
          by_cases same : other = process
          · rw [KernelEntry.asks, if_pos same] at idle
            cases idle
          · rw [KernelEntry.asks, if_neg same] at idle
            exact .inl (ih idle)
      | accepted | refused | taken | called => exact .inl (ih idle)

namespace Kernel

/-- Between two events out of the queue nothing is handed over. -/
structure Background (before after : Kernel Process Data Memory) : Prop where
  processes : after.processList = before.processList
  taken : takenEvents after.trace = takenEvents before.trace
  calls : calls after.trace = calls before.trace
  grows : before.trace <+: after.trace

theorem Background.refl (kernel : Kernel Process Data Memory) : Background kernel kernel :=
  ⟨rfl, rfl, rfl, List.prefix_rfl⟩

theorem Background.trans {before middle after : Kernel Process Data Memory}
    (first : Background before middle) (second : Background middle after) :
    Background before after :=
  ⟨second.processes.trans first.processes, second.taken.trans first.taken,
    second.calls.trans first.calls, first.grows.trans second.grows⟩

theorem background_record (kernel : Kernel Process Data Memory)
    (entry : KernelEntry Process Data) (taken : entry.takenEvent = none)
    (call : entry.call = none) : Background kernel (kernel.record entry) :=
  ⟨rfl, by simp [record, taken], by simp [record, call], List.prefix_append _ _⟩

theorem background_processPost {kernel : Kernel Process Data Memory}
    (event : PostedEvent Process Data) :
    Background kernel (kernel.processPost event).2 := by
  rw [processPost]
  split
  · exact background_record _ _ rfl rfl
  · have recorded := background_record kernel (.accepted event) rfl rfl
    exact ⟨recorded.processes, recorded.taken, recorded.calls, recorded.grows⟩

/-- The process has been polled since the history was `base`. -/
def PolledSince (base : List (KernelEntry Process Data)) (process : Process)
    (kernel : Kernel Process Data Memory) : Prop :=
  ∃ later, kernel.trace = base ++ later ∧ .polled process ∈ later

theorem PolledSince.mono {base : List (KernelEntry Process Data)} {process : Process}
    {before after : Kernel Process Data Memory} (polled : PolledSince base process before)
    (background : Background before after) : PolledSince base process after := by
  obtain ⟨later, trace, member⟩ := polled
  obtain ⟨more, grown⟩ := background.grows
  refine ⟨later ++ more, ?_, List.mem_append_left _ member⟩
  rw [← grown, trace, List.append_assoc]

end Kernel

/-! ## Single steps -/

section Steps

variable [DecidableEq Process] {kernel : Kernel Process Data Memory}

namespace Kernel

@[simp] theorem processPoll_events (process : Process) :
    (kernel.processPoll process).events = kernel.events := by
  rw [processPoll]
  split
  · rfl
  · rfl

@[simp] theorem processPoll_memory (process : Process) :
    (kernel.processPoll process).memory = kernel.memory := by
  rw [processPoll]
  split
  · rfl
  · rfl

@[simp] theorem processPoll_running (process : Process) :
    (kernel.processPoll process).running = kernel.running := by
  rw [processPoll]
  split
  · rfl
  · rfl

@[simp] theorem acceptedEvents_processPoll (process : Process) :
    acceptedEvents (kernel.processPoll process).trace = acceptedEvents kernel.trace := by
  rw [processPoll]
  split
  · simp [record, KernelEntry.acceptedEvent]
  · rfl

theorem needspoll_processPoll {process : Process} (running : kernel.running process = true) :
    (kernel.processPoll process).needspoll process = true := by
  rw [processPoll, if_pos running]
  exact Function.update_self _ _ _

/-- The queue and the flags are what the history says. -/
structure Consistent (kernel : Kernel Process Data Memory) : Prop where
  booted : ∀ process, kernel.running process = true
  queue : acceptedEvents kernel.trace = takenEvents kernel.trace ++ kernel.events.contents
  flags : ∀ process, kernel.needspoll process = asking kernel.trace process
  allowed : Justified KernelEntry.Allowed kernel.trace

theorem Consistent.update_running (consistent : kernel.Consistent) (process : Process) :
    Function.update kernel.running process true = kernel.running :=
  Function.update_eq_self_iff.2 (consistent.booted process).symm

theorem Consistent.processPost (consistent : kernel.Consistent)
    (event : PostedEvent Process Data) : (kernel.processPost event).2.Consistent := by
  rw [Kernel.processPost]
  cases added : kernel.events.put event with
  | none =>
      have full := CountedRing.put_eq_none.1 added
      refine ⟨consistent.booted, ?_, ?_, ?_⟩
      · simpa [record, KernelEntry.acceptedEvent, KernelEntry.takenEvent] using consistent.queue
      · simpa [record, KernelEntry.asks] using consistent.flags
      · refine justified_concat.2 ⟨consistent.allowed, ?_⟩
        rw [KernelEntry.Allowed, consistent.queue, List.length_append, full]
  | some events =>
      refine ⟨consistent.booted, ?_, ?_, ?_⟩
      · simp [record, KernelEntry.acceptedEvent, KernelEntry.takenEvent, consistent.queue,
          CountedRing.contents_put added]
      · simpa [record, KernelEntry.asks] using consistent.flags
      · exact justified_concat.2 ⟨consistent.allowed, trivial⟩

theorem Consistent.processPoll (consistent : kernel.Consistent) (process : Process) :
    (kernel.processPoll process).Consistent := by
  rw [Kernel.processPoll, if_pos (consistent.booted process)]
  refine ⟨consistent.booted, ?_, fun other => ?_, ?_⟩
  · simpa [record, KernelEntry.acceptedEvent, KernelEntry.takenEvent] using consistent.queue
  · by_cases same : process = other
    · subst same
      simp [record, KernelEntry.asks]
    · simp [record, KernelEntry.asks, same, Ne.symm same, consistent.flags other]
  · exact justified_concat.2 ⟨consistent.allowed, trivial⟩

theorem Consistent.exec {program : Program Process Data Memory}
    (consistent : kernel.Consistent) : (exec program kernel).Consistent := by
  induction program generalizing kernel with
  | done memory => exact ⟨consistent.booted, consistent.queue, consistent.flags, consistent.allowed⟩
  | post event after ih => exact ih _ (consistent.processPost event)
  | poll process after ih => exact ih (consistent.processPoll process)

section Calls

variable (threads : Threads Process Data Memory)

theorem Consistent.callProcess (consistent : kernel.Consistent) (process : Process)
    (ev : EventNumber) (data : Option Data) :
    (kernel.callProcess threads process ev data).Consistent := by
  rw [Kernel.callProcess, if_pos (consistent.booted process)]
  exact consistent.exec

theorem Consistent.pollOne (consistent : kernel.Consistent) (process : Process) :
    (kernel.pollOne threads process).Consistent := by
  rw [Kernel.pollOne]
  split
  · next asked =>
      apply Consistent.callProcess
      rw [beginPoll, consistent.update_running]
      refine ⟨consistent.booted, ?_, fun other => ?_, ?_⟩
      · simpa [record, KernelEntry.acceptedEvent, KernelEntry.takenEvent] using consistent.queue
      · by_cases same : process = other
        · subst same
          simp [record, KernelEntry.asks]
        · simp [record, KernelEntry.asks, same, Ne.symm same, consistent.flags other]
      · refine justified_concat.2 ⟨consistent.allowed, ?_⟩
        exact (consistent.flags process).symm.trans asked
  · exact consistent

theorem Consistent.doPoll (consistent : kernel.Consistent) :
    (kernel.doPoll threads).Consistent := by
  apply List.foldlRecOn (motive := Consistent)
  · exact ⟨consistent.booted, consistent.queue, consistent.flags, consistent.allowed⟩
  · exact fun _ earlier process _ => earlier.pollOne threads process

theorem Consistent.handOver (consistent : kernel.Consistent) (ev : EventNumber)
    (data : Option Data) (process : Process) :
    (kernel.handOver threads ev data process).Consistent := by
  rw [Kernel.handOver, if_pos (consistent.booted process)]
  apply Consistent.callProcess
  refine ⟨consistent.booted, ?_, ?_, ?_⟩
  · simpa [record, KernelEntry.acceptedEvent, KernelEntry.takenEvent] using consistent.queue
  · simpa [record, KernelEntry.asks] using consistent.flags
  · exact justified_concat.2 ⟨consistent.allowed, trivial⟩

theorem Consistent.broadcastOne (consistent : kernel.Consistent) (ev : EventNumber)
    (data : Option Data) (process : Process) :
    (kernel.broadcastOne threads ev data process).Consistent := by
  rw [Kernel.broadcastOne]
  split
  · exact (consistent.doPoll threads).handOver threads ev data process
  · exact consistent.handOver threads ev data process

theorem Consistent.take (consistent : kernel.Consistent) {event : PostedEvent Process Data}
    {events : CountedRing (PostedEvent Process Data) numEvents}
    (taken : kernel.events.take = some (event, events)) :
    (kernel.dequeue event events).Consistent := by
  refine ⟨consistent.booted, ?_, ?_, ?_⟩
  · simp [dequeue, record, KernelEntry.acceptedEvent, KernelEntry.takenEvent, consistent.queue,
      CountedRing.contents_take taken]
  · simpa [dequeue, record, KernelEntry.asks] using consistent.flags
  · exact justified_concat.2 ⟨consistent.allowed, trivial⟩

theorem Consistent.doEvent (consistent : kernel.Consistent) :
    (kernel.doEvent threads).Consistent := by
  rw [Kernel.doEvent]
  cases taken : kernel.events.take with
  | none => exact consistent
  | some pair =>
      obtain ⟨event, events⟩ := pair
      have after := consistent.take taken
      dsimp only
      split
      · apply List.foldlRecOn (motive := Consistent)
        · exact after
        · exact fun _ earlier process _ => earlier.broadcastOne threads event.ev event.data process
      · split
        · apply Consistent.handOver
          rw [after.update_running]
          exact after
        · exact after.handOver threads event.ev event.data _

theorem Consistent.processRun (consistent : kernel.Consistent) :
    (kernel.processRun threads).Consistent := by
  rw [Kernel.processRun]
  split
  · exact (consistent.doPoll threads).doEvent threads
  · exact consistent.doEvent threads

end Calls

/-! ## What a program leaves alone -/

theorem background_processPoll (process : Process) :
    Background kernel (kernel.processPoll process) := by
  rw [processPoll]
  split
  · have recorded := background_record kernel (.requested process) rfl rfl
    exact ⟨recorded.processes, recorded.taken, recorded.calls, recorded.grows⟩
  · exact Background.refl kernel

theorem background_exec {program : Program Process Data Memory} :
    Background kernel (exec program kernel) := by
  induction program generalizing kernel with
  | done memory => exact ⟨rfl, rfl, rfl, List.prefix_rfl⟩
  | post event after ih => exact (background_processPost event).trans (ih _)
  | poll process after ih => exact (background_processPoll process).trans ih

/-- A request stays until the process is polled. -/
theorem needspoll_exec {program : Program Process Data Memory} {process : Process}
    (asked : kernel.needspoll process = true) :
    (exec program kernel).needspoll process = true := by
  induction program generalizing kernel with
  | done memory => exact asked
  | post event after ih =>
      apply ih
      rw [processPost]
      split
      · exact asked
      · exact asked
  | poll other after ih =>
      apply ih
      rw [processPoll]
      split
      · by_cases same : process = other
        · simp [same]
        · simpa [Function.update_of_ne same] using asked
      · exact asked

/-- A process that asks for a poll is polled now or later. -/
def Attended (rest : List Process) (kernel : Kernel Process Data Memory) : Prop :=
  ∀ process, kernel.needspoll process = true → kernel.pollRequested = true ∨ process ∈ rest

theorem Attended.exec {rest : List Process} {program : Program Process Data Memory}
    (attended : Attended rest kernel) : Attended rest (exec program kernel) := by
  induction program generalizing kernel with
  | done memory => exact attended
  | post event after ih =>
      apply ih
      rw [processPost]
      split
      · exact attended
      · exact attended
  | poll other after ih =>
      apply ih
      rw [processPoll]
      split
      · exact fun _ _ => .inl rfl
      · exact attended

section Polls

variable (threads : Threads Process Data Memory)

theorem Attended.callProcess {rest : List Process} (attended : Attended rest kernel)
    (process : Process) (ev : EventNumber) (data : Option Data) :
    Attended rest (kernel.callProcess threads process ev data) := by
  rw [Kernel.callProcess]
  split
  · exact attended.exec
  · exact attended

theorem background_callProcess (process : Process) (ev : EventNumber) (data : Option Data) :
    Background kernel (kernel.callProcess threads process ev data) := by
  rw [callProcess]
  split
  · exact background_exec
  · exact Background.refl kernel

theorem background_pollOne (process : Process) :
    Background kernel (kernel.pollOne threads process) := by
  rw [pollOne]
  split
  · refine Background.trans ?_ (background_callProcess threads process .poll none)
    have recorded := background_record kernel (.polled process) rfl rfl
    exact ⟨recorded.processes, recorded.taken, recorded.calls, recorded.grows⟩
  · exact Background.refl kernel

theorem background_polls (processes : List Process) :
    Background kernel (processes.foldl (pollOne threads) kernel) := by
  apply List.foldlRecOn (motive := Background kernel)
  · exact Background.refl kernel
  · exact fun _ earlier process _ => earlier.trans (background_pollOne threads process)

theorem background_doPoll : Background kernel (kernel.doPoll threads) :=
  have reset : Background kernel { kernel with pollRequested := false } :=
    ⟨rfl, rfl, rfl, List.prefix_rfl⟩
  reset.trans (background_polls threads _)

/-- The loop serves the first process, and what asks meanwhile sets the flag. -/
theorem Attended.pollOne {process : Process} {rest : List Process}
    (attended : Attended (process :: rest) kernel) :
    Attended rest (kernel.pollOne threads process) := by
  have others {other : Process} (asked : kernel.needspoll other = true)
      (different : other ≠ process) : kernel.pollRequested = true ∨ other ∈ rest :=
    (attended other asked).imp_right fun member => (List.mem_cons.1 member).resolve_left different
  rw [Kernel.pollOne]
  split
  · apply Attended.callProcess
    intro other asked
    by_cases same : other = process
    · simp [beginPoll, same] at asked
    · exact others (by simpa [beginPoll, Function.update_of_ne same] using asked) same
  · next idle =>
      intro other asked
      apply others asked
      rintro rfl
      exact idle asked

theorem Attended.polls {processes : List Process} (attended : Attended processes kernel) :
    Attended [] (processes.foldl (Kernel.pollOne threads) kernel) := by
  induction processes generalizing kernel with
  | nil => exact attended
  | cons process rest ih => exact ih (attended.pollOne threads)

theorem attended_doPoll (all : ∀ process, process ∈ kernel.processList) :
    Attended [] (kernel.doPoll threads) :=
  Attended.polls threads fun process _ => .inr (all process)

/-- `do_poll` polls a process that has asked. -/
theorem polledSince_polls {base : List (KernelEntry Process Data)} {process : Process}
    {processes : List Process} (member : process ∈ processes)
    (asked : kernel.needspoll process = true) (grown : base <+: kernel.trace) :
    PolledSince base process (processes.foldl (Kernel.pollOne threads) kernel) := by
  induction processes generalizing kernel with
  | nil => cases member
  | cons first rest ih =>
      rw [List.foldl_cons]
      by_cases same : process = first
      · subst same
        apply PolledSince.mono _ (background_polls threads rest)
        rw [Kernel.pollOne, if_pos asked]
        apply PolledSince.mono _ (background_callProcess threads process .poll none)
        obtain ⟨later, trace⟩ := grown
        refine ⟨later ++ [.polled process], ?_, List.mem_append_right _ (by simp)⟩
        rw [beginPoll, record, ← trace, List.append_assoc]
      · apply ih ((List.mem_cons.1 member).resolve_left same)
        · rw [Kernel.pollOne]
          split
          · rw [Kernel.callProcess]
            split
            · apply needspoll_exec
              simpa [beginPoll, Function.update_of_ne same] using asked
            · simpa [beginPoll, Function.update_of_ne same] using asked
          · exact asked
        · exact grown.trans (background_pollOne threads first).grows

end Polls

/-! ## Whole runs -/

section Run

variable (threads : Threads Process Data Memory)

/-- The state between two turns of the main loop. -/
structure Settled (started : List Process) (kernel : Kernel Process Data Memory) : Prop
    extends Consistent kernel where
  processes : kernel.processList = started
  calls : Firmware.calls kernel.trace =
    (takenEvents kernel.trace).flatMap (PostedEvent.deliveries started)
  attended : Attended [] kernel

theorem Settled.background {started : List Process} {before after : Kernel Process Data Memory}
    (settled : Settled started before) (background : Background before after)
    (consistent : after.Consistent) (attended : Attended [] after) : Settled started after :=
  ⟨consistent, background.processes.trans settled.processes,
    by rw [background.calls, background.taken, settled.calls], attended⟩

/-- What one hand-over adds to the history. -/
theorem handOver_calls (consistent : kernel.Consistent) (ev : EventNumber) (data : Option Data)
    (process : Process) :
    Firmware.calls (kernel.handOver threads ev data process).trace =
        Firmware.calls kernel.trace ++ [(process, ev, data)] ∧
      takenEvents (kernel.handOver threads ev data process).trace = takenEvents kernel.trace ∧
      (kernel.handOver threads ev data process).processList = kernel.processList := by
  rw [Kernel.handOver, if_pos (consistent.booted process)]
  have background : Background (kernel.record (.called process ev data))
      ((kernel.record (.called process ev data)).callProcess threads process ev data) :=
    background_callProcess threads process ev data
  refine ⟨?_, ?_, background.processes⟩
  · rw [background.calls]
    simp [record, KernelEntry.call]
  · rw [background.taken]
    simp [record, KernelEntry.takenEvent]

theorem Attended.handOver (attended : Attended [] kernel) (ev : EventNumber)
    (data : Option Data) (process : Process) :
    Attended [] (kernel.handOver threads ev data process) := by
  rw [Kernel.handOver]
  split
  · apply Attended.callProcess
    exact attended
  · exact attended

theorem Attended.ifPoll (all : ∀ process, process ∈ kernel.processList)
    (attended : Attended [] kernel) :
    Attended [] (if kernel.pollRequested then kernel.doPoll threads else kernel) := by
  split
  · exact attended_doPoll threads all
  · exact attended

/-- A broadcast is handed to every process of the list, in its order. -/
theorem broadcast_calls (all : ∀ process, process ∈ kernel.processList)
    (consistent : kernel.Consistent) (attended : Attended [] kernel) (ev : EventNumber)
    (data : Option Data) (receivers : List Process) :
    Firmware.calls (receivers.foldl (broadcastOne threads ev data) kernel).trace =
        Firmware.calls kernel.trace ++ receivers.map (fun process => (process, ev, data)) ∧
      takenEvents (receivers.foldl (broadcastOne threads ev data) kernel).trace =
        takenEvents kernel.trace ∧
      (receivers.foldl (broadcastOne threads ev data) kernel).processList = kernel.processList ∧
      Attended [] (receivers.foldl (broadcastOne threads ev data) kernel) := by
  induction receivers generalizing kernel with
  | nil => exact ⟨by simp, rfl, rfl, attended⟩
  | cons first rest ih =>
      have polled : Background kernel
          (if kernel.pollRequested then kernel.doPoll threads else kernel) := by
        split
        · exact background_doPoll threads
        · exact Background.refl kernel
      have ready : (if kernel.pollRequested then kernel.doPoll threads else kernel).Consistent := by
        split
        · exact consistent.doPoll threads
        · exact consistent
      obtain ⟨calls, taken, processes⟩ := handOver_calls threads ready ev data first
      have list := processes.trans polled.processes
      obtain ⟨callsRest, takenRest, listRest, attendedRest⟩ := ih
        (fun process => list ▸ all process) (consistent.broadcastOne threads ev data first)
        ((attended.ifPoll threads all).handOver threads ev data first)
      rw [List.foldl_cons]
      refine ⟨?_, ?_, listRest.trans list, attendedRest⟩
      · rw [callsRest, broadcastOne, calls, polled.calls, List.map_cons, List.append_assoc]
        rfl
      · rw [takenRest, broadcastOne, taken, polled.taken]

/-- All that `do_event` can do: nothing, or hand the first event to its receivers. -/
theorem Settled.doEvent_cases {started : List Process} (all : ∀ process, process ∈ started)
    (settled : Settled started kernel) :
    (kernel.events.contents = [] ∧ kernel.doEvent threads = kernel) ∨
      ∃ event, takenEvents (kernel.doEvent threads).trace = takenEvents kernel.trace ++ [event] ∧
        Firmware.calls (kernel.doEvent threads).trace =
          Firmware.calls kernel.trace ++ event.deliveries started ∧
        (kernel.doEvent threads).processList = started ∧
        Attended [] (kernel.doEvent threads) := by
  rw [Kernel.doEvent]
  cases taken : kernel.events.take with
  | none => exact .inl ⟨CountedRing.take_eq_none.1 taken, rfl⟩
  | some pair =>
      obtain ⟨event, events⟩ := pair
      have after := settled.toConsistent.take taken
      have list : (kernel.dequeue event events).processList = started := settled.processes
      have waiting : Attended [] (kernel.dequeue event events) := settled.attended
      refine .inr ⟨event, ?_⟩
      dsimp only
      cases receiver : event.receiver with
      | none =>
          obtain ⟨handed, kept, same, attended⟩ := broadcast_calls threads
            (fun process => list ▸ all process) after waiting event.ev event.data
            (kernel.dequeue event events).processList
          refine ⟨?_, ?_, same.trans list, attended⟩
          · rw [kept]
            simp [dequeue, record, KernelEntry.takenEvent]
          · rw [handed, list]
            simp [dequeue, record, KernelEntry.call, PostedEvent.deliveries, receiver]
      | some process =>
          have same : { kernel.dequeue event events with
              running := Function.update (kernel.dequeue event events).running process true } =
              kernel.dequeue event events := by
            rw [after.update_running]
          dsimp only
          rw [same, ite_self]
          obtain ⟨handed, kept, same⟩ := handOver_calls threads after event.ev event.data process
          refine ⟨?_, ?_, same.trans list,
            Attended.handOver threads waiting event.ev event.data process⟩
          · rw [kept]
            simp [dequeue, record, KernelEntry.takenEvent]
          · rw [handed]
            simp [dequeue, record, KernelEntry.call, PostedEvent.deliveries, receiver]

theorem Settled.doEvent {started : List Process} (all : ∀ process, process ∈ started)
    (settled : Settled started kernel) : Settled started (kernel.doEvent threads) := by
  obtain ⟨_, same⟩ | ⟨event, taken, called, list, attended⟩ := settled.doEvent_cases threads all
  · rwa [same]
  · refine ⟨settled.toConsistent.doEvent threads, list, ?_, attended⟩
    rw [called, taken, settled.calls, List.flatMap_append, List.flatMap_singleton]

theorem Settled.ifPoll {started : List Process} (all : ∀ process, process ∈ started)
    (settled : Settled started kernel) :
    Settled started (if kernel.pollRequested then kernel.doPoll threads else kernel) := by
  split
  · exact settled.background (background_doPoll threads) (settled.toConsistent.doPoll threads)
      (attended_doPoll threads (settled.processes ▸ all))
  · exact settled

theorem Settled.processRun {started : List Process} (all : ∀ process, process ∈ started)
    (settled : Settled started kernel) : Settled started (kernel.processRun threads) :=
  (settled.ifPoll threads all).doEvent threads all

theorem Settled.step {started : List Process} (all : ∀ process, process ∈ started)
    {next : Kernel Process Data Memory} {action : KernelAction Process}
    (settled : Settled started kernel)
    (stepped : kernelStep threads kernel action = some next) : Settled started next := by
  cases action with
  | processRun =>
      cases stepped
      exact settled.processRun threads all
  | interrupt process =>
      cases stepped
      apply settled.background (background_processPoll process)
        (settled.toConsistent.processPoll process)
      rw [processPoll, if_pos (settled.booted process)]
      exact fun _ _ => .inl rfl

/-- The number of turns of the main loop. -/
def turns (actions : List (KernelAction Process)) : ℕ := actions.count .processRun

@[simp] theorem turns_processRun (rest : List (KernelAction Process)) :
    turns (.processRun :: rest) = turns rest + 1 :=
  List.count_cons_self

@[simp] theorem turns_interrupt (process : Process) (rest : List (KernelAction Process)) :
    turns (.interrupt process :: rest) = turns rest := by
  simp [turns]

theorem grows_handOver (ev : EventNumber) (data : Option Data) (process : Process) :
    kernel.trace <+: (kernel.handOver threads ev data process).trace := by
  rw [Kernel.handOver]
  split
  · have recorded : kernel.trace <+: (kernel.record (.called process ev data)).trace :=
      List.prefix_append _ _
    exact recorded.trans (background_callProcess threads process ev data).grows
  · exact List.prefix_rfl

theorem grows_broadcastOne (ev : EventNumber) (data : Option Data) (process : Process) :
    kernel.trace <+: (kernel.broadcastOne threads ev data process).trace := by
  rw [broadcastOne]
  split
  · exact (background_doPoll threads).grows.trans (grows_handOver threads ev data process)
  · exact grows_handOver threads ev data process

theorem grows_doEvent : kernel.trace <+: (kernel.doEvent threads).trace := by
  rw [Kernel.doEvent]
  split
  · exact List.prefix_rfl
  · next event events _ =>
      have taken : kernel.trace <+: (kernel.dequeue event events).trace := List.prefix_append _ _
      dsimp only
      split
      · apply List.foldlRecOn (motive := fun later : Kernel Process Data Memory =>
          kernel.trace <+: later.trace)
        · exact taken
        · exact fun _ earlier process _ =>
            earlier.trans (grows_broadcastOne threads event.ev event.data process)
      · split
        · refine List.IsPrefix.trans ?_ (grows_handOver threads event.ev event.data _)
          exact taken
        · exact taken.trans (grows_handOver threads event.ev event.data _)

theorem grows_processRun : kernel.trace <+: (kernel.processRun threads).trace := by
  refine List.IsPrefix.trans ?_ (grows_doEvent threads)
  split
  · exact (background_doPoll threads).grows
  · exact List.prefix_rfl

/-- A turn takes an event when one waits. -/
theorem Settled.processRun_takes {started : List Process} (all : ∀ process, process ∈ started)
    (settled : Settled started kernel) :
    min (acceptedEvents kernel.trace).length ((takenEvents kernel.trace).length + 1) ≤
      (takenEvents (kernel.processRun threads).trace).length := by
  have polled : Background kernel
      (if kernel.pollRequested then kernel.doPoll threads else kernel) := by
    split
    · exact background_doPoll threads
    · exact Background.refl kernel
  have ready := settled.ifPoll threads all
  obtain ⟨empty, same⟩ | ⟨event, taken, _⟩ := ready.doEvent_cases threads all
  · have accepted : acceptedEvents kernel.trace <+: takenEvents kernel.trace := by
      have every := ready.queue
      rw [empty, List.append_nil, polled.taken] at every
      exact every ▸ polled.grows.filterMap _
    rw [Kernel.processRun, same, polled.taken]
    exact (min_le_left _ _).trans accepted.length_le
  · rw [Kernel.processRun, taken, polled.taken, List.length_append]
    exact min_le_right _ _

/-- So many turns take so many events. -/
theorem Settled.run_takes {started : List Process} (all : ∀ process, process ∈ started)
    {final : Kernel Process Data Memory} {actions : List (KernelAction Process)}
    (settled : Settled started kernel)
    (executed : run (kernelStep threads) kernel actions = some final) :
    min (acceptedEvents kernel.trace).length ((takenEvents kernel.trace).length + turns actions) ≤
        (takenEvents final.trace).length ∧ kernel.trace <+: final.trace := by
  induction actions generalizing kernel with
  | nil =>
      cases executed
      exact ⟨min_le_right _ _, List.prefix_rfl⟩
  | cons action rest ih =>
      obtain ⟨next, stepped, remaining⟩ := run_cons executed
      obtain ⟨later, grown⟩ := ih (settled.step threads all stepped) remaining
      cases action with
      | processRun =>
          cases stepped
          have first := settled.processRun_takes threads all
          have grows : kernel.trace <+: (kernel.processRun threads).trace :=
            grows_processRun threads
          have more := grows.filterMap KernelEntry.acceptedEvent
          have longer := more.length_le
          refine ⟨?_, grows.trans grown⟩
          rw [turns_processRun]
          simp only [acceptedEvents] at first later longer ⊢
          omega
      | interrupt process =>
          cases stepped
          have background : Background kernel (kernel.processPoll process) :=
            background_processPoll process
          have longer := (background.grows.filterMap KernelEntry.acceptedEvent).length_le
          refine ⟨?_, background.grows.trans grown⟩
          rw [turns_interrupt]
          rw [background.taken] at later
          simp only [acceptedEvents] at later longer ⊢
          omega

end Run

end Kernel

/-- A node whose processes have all been started, when its main loop has nothing left to do. -/
structure Kernel.Booted (kernel : Kernel Process Data Memory) : Prop where
  running : ∀ process, kernel.running process = true
  listed : ∀ process, process ∈ kernel.processList
  idle : ∀ process, kernel.needspoll process = false
  empty : kernel.events.contents = []
  fresh : kernel.trace = []

theorem Kernel.Booted.settled (booted : kernel.Booted) :
    Kernel.Settled kernel.processList kernel where
  booted := booted.running
  queue := by simp [booted.fresh, booted.empty, acceptedEvents, takenEvents]
  flags := by simp [booted.fresh, booted.idle, asking]
  allowed := booted.fresh ▸ justified_nil _
  processes := rfl
  calls := by simp [booted.fresh, calls, takenEvents]
  attended process asked := by
    rw [booted.idle] at asked
    cases asked

variable (threads : Threads Process Data Memory) {start final : Kernel Process Data Memory}
  {actions : List (KernelAction Process)}

theorem Kernel.Booted.run_settled (booted : start.Booted)
    (executed : run (kernelStep threads) start actions = some final) :
    Kernel.Settled start.processList final :=
  run_preserves (Kernel.Settled start.processList)
    (fun _ _ _ settled => settled.step threads booted.listed) booted.settled executed

/-- A driver that broadcasts when it is polled, and a process that counts its calls. -/
def relay : Threads Bool Unit ℕ
  | false, memory, .poll, _ => .post ⟨.msg, none, none⟩ fun _ => .done memory
  | _, memory, _, _ => .done (memory + 1)

/-- The node of the driver after its start. -/
def relayNode : Kernel Bool Unit ℕ where
  processList := [false, true]
  running _ := true
  events := noEvents
  memory := 0

theorem relayNode_booted : relayNode.Booted :=
  ⟨fun _ => rfl, by decide, fun _ => rfl, rfl, rfl⟩

/-- Whatever the processes do when they are called and the interrupts ask for, the accepted
events are handed to their receivers once, in the order of the posts; an event is refused only
when eight of them wait. -/
theorem events_delivered_in_order (booted : start.Booted)
    (executed : run (kernelStep threads) start actions = some final) :
    calls final.trace ++
        final.events.contents.flatMap (PostedEvent.deliveries start.processList) =
        (acceptedEvents final.trace).flatMap (PostedEvent.deliveries start.processList) ∧
      final.events.contents.length ≤ numEvents ∧
      ∀ before event after, final.trace = before ++ .refused event :: after →
        (acceptedEvents before).length = (takenEvents before).length + numEvents := by
  have settled := booted.run_settled threads executed
  refine ⟨?_, ?_, fun before event after => settled.allowed before (.refused event) after⟩
  · rw [settled.calls, settled.queue, List.flatMap_append]
  · rw [CountedRing.length_contents]
    exact final.events.countInside

/-- An interrupt and one turn. -/
theorem events_delivered_in_order_relay :
    ∃ final, run (kernelStep relay) relayNode [.interrupt false, .processRun] = some final ∧
      calls final.trace ++ final.events.contents.flatMap (PostedEvent.deliveries [false, true]) =
        (acceptedEvents final.trace).flatMap (PostedEvent.deliveries [false, true]) :=
  ⟨_, rfl, (events_delivered_in_order relay relayNode_booted
    (rfl : run (kernelStep relay) relayNode [.interrupt false, .processRun] = _)).1⟩

/-- An accepted event is handed over within the next eight turns of the main loop. -/
theorem events_served_in_turns {middle : Kernel Process Data Memory}
    {more : List (KernelAction Process)} (booted : start.Booted)
    (executed : run (kernelStep threads) start actions = some middle)
    (further : run (kernelStep threads) middle more = some final)
    (enough : numEvents ≤ Kernel.turns more) :
    acceptedEvents middle.trace <+: takenEvents final.trace := by
  have settled := booted.run_settled threads executed
  have later : Kernel.Settled start.processList final :=
    run_preserves (Kernel.Settled start.processList)
      (fun _ _ _ settled => settled.step threads booted.listed) settled further
  obtain ⟨taken, grown⟩ := settled.run_takes threads booted.listed further
  have few := middle.events.countInside
  have queue := congrArg List.length settled.queue
  rw [List.length_append, CountedRing.length_contents] at queue
  have final_ : takenEvents final.trace <+: acceptedEvents final.trace := ⟨_, later.queue.symm⟩
  apply List.prefix_of_prefix_length_le (grown.filterMap _) final_
  simp only [acceptedEvents] at taken queue ⊢
  omega

/-- Eight turns after an interrupt. -/
theorem events_served_in_turns_relay :
    ∃ middle final, run (kernelStep relay) relayNode [.interrupt false] = some middle ∧
      run (kernelStep relay) middle (List.replicate 8 .processRun) = some final ∧
      acceptedEvents middle.trace <+: takenEvents final.trace :=
  ⟨_, _, rfl, rfl, events_served_in_turns relay relayNode_booted
    (rfl : run (kernelStep relay) relayNode [.interrupt false] = _)
    (rfl : run (kernelStep relay) _ (List.replicate 8 .processRun) = _) (by decide)⟩

/-- Each turn of the main loop polls every process that has asked since its last poll, and no
other. -/
theorem polls_answered {next : Kernel Process Data Memory} (booted : start.Booted)
    (executed : run (kernelStep threads) start actions = some final)
    (turn : kernelStep threads final .processRun = some next) (process : Process) :
    (∀ before after, final.trace = before ++ .requested process :: after →
      ∃ later, next.trace = before ++ .requested process :: later ∧ .polled process ∈ later) ∧
    ∀ before after, next.trace = before ++ .polled process :: after →
      asking before process = true := by
  have settled := booted.run_settled threads executed
  have later := settled.step threads booted.listed turn
  refine ⟨fun before after asked => ?_, fun before after =>
    later.allowed before (.polled process) after⟩
  cases turn
  suffices polled : Kernel.PolledSince (before ++ [.requested process]) process
      (final.processRun threads) by
    simpa [Kernel.PolledSince] using polled
  have start : before ++ [.requested process] <+: final.trace := by
    rw [asked]
    exact ⟨after, by simp⟩
  have grown : Kernel.PolledSince (before ++ [.requested process]) process
      (if final.pollRequested then final.doPoll threads else final) := by
    by_cases waiting : final.needspoll process = true
    · have requested := (settled.attended process waiting).resolve_right List.not_mem_nil
      rw [if_pos requested]
      exact Kernel.polledSince_polls threads (settled.processes ▸ booted.listed process) waiting
        start
    · have idle : asking final.trace process = false := by
        rw [← settled.flags process]
        exact Bool.not_eq_true _ ▸ waiting
      have already : Kernel.PolledSince (before ++ [.requested process]) process final :=
        ⟨after, by simp [asked], polled_of_not_asking (asked ▸ idle)⟩
      split
      · exact already.mono (Kernel.background_doPoll threads)
      · exact already
  obtain ⟨late, trace, member⟩ := grown
  obtain ⟨more, rest⟩ :
      (if final.pollRequested then final.doPoll threads else final).trace <+:
        (final.processRun threads).trace :=
    Kernel.grows_doEvent threads
  refine ⟨late ++ more, ?_, List.mem_append_left _ member⟩
  rw [← rest, trace, List.append_assoc]

/-- The turn after an interrupt. -/
theorem polls_answered_relay :
    ∃ final next, run (kernelStep relay) relayNode [.interrupt false] = some final ∧
      kernelStep relay final .processRun = some next ∧
      ∀ before after, final.trace = before ++ .requested false :: after →
        ∃ later, next.trace = before ++ .requested false :: later ∧ .polled false ∈ later :=
  ⟨_, _, rfl, rfl, (polls_answered relay relayNode_booted
    (rfl : run (kernelStep relay) relayNode [.interrupt false] = _) rfl false).1⟩

end Steps

end IotLab.Firmware
