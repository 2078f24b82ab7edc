import IotLab.Firmware.Alarms
import Mathlib.Data.List.Nodup

/-!
# The alarms of a node

Every timely run of a node is one of its schedule, step by step: setting, stopping and polling
timers, the interrupt of the clock, and the queue of events.
-/

namespace IotLab.Firmware

open IotLab.Library

variable {Process TimerId : Type}

/-! ## The node keeps the schedule -/

section Simulation

variable {etimerProcess : Process}
  {schedule : Schedule Process TimerId} {node : TimerNode Process TimerId}

/-- A node whose timers are the alarms of a schedule. -/
structure Follows (etimerProcess : Process) (schedule : Schedule Process TimerId)
    (node : TimerNode Process TimerId) : Prop where
  times : KeepsTime schedule node.memory
  next : NextKept schedule node.memory
  list : node.memory.timerlist = schedule.pending
  distinct : schedule.pending.Nodup
  owners : ∀ id ∈ schedule.pending,
    node.memory.p id = schedule.owner id ∧ schedule.owner id ≠ none
  queue : node.events.contents = schedule.queue
  log : acceptedEvents node.trace = schedule.log
  running : node.running etimerProcess = true

/-- Moreover a due alarm has a poll coming. -/
structure Simulates (etimerProcess : Process) (schedule : Schedule Process TimerId)
    (node : TimerNode Process TimerId) : Prop extends Follows etimerProcess schedule node where
  woken : ∀ id ∈ schedule.pending, schedule.Due id →
    node.needspoll etimerProcess = true

/-- A request for a poll is all that due alarms need. -/
theorem Follows.requestPoll [DecidableEq Process] (follows : Follows etimerProcess schedule node) :
    Simulates etimerProcess schedule (TimerNode.requestPoll etimerProcess node) := by
  rw [TimerNode.requestPoll]
  refine ⟨⟨?_, ?_, ?_, follows.distinct, ?_, ?_, ?_, ?_⟩, fun _ _ _ =>
    Kernel.needspoll_processPoll follows.running⟩
  · rw [Kernel.processPoll_memory]
    exact follows.times
  · rw [Kernel.processPoll_memory]
    exact follows.next
  · rw [Kernel.processPoll_memory]
    exact follows.list
  · rw [Kernel.processPoll_memory]
    exact follows.owners
  · rw [Kernel.processPoll_events]
    exact follows.queue
  · rw [Kernel.acceptedEvents_processPoll]
    exact follows.log
  · rw [Kernel.processPoll_running]
    exact follows.running

theorem Simulates.post (simulates : Simulates etimerProcess schedule node)
    (event : PostedEvent Process (EventData Process TimerId)) :
    Simulates etimerProcess
      (if schedule.queue.length < numEvents then
        { schedule with queue := schedule.queue ++ [event], log := schedule.log ++ [event] }
      else schedule)
      (node.processPost event).2 := by
  have times := simulates.times
  rw [Kernel.processPost]
  cases added : node.events.put event with
  | none =>
      have full := CountedRing.put_eq_none.1 added
      rw [simulates.queue] at full
      have log : acceptedEvents (node.trace ++ [.refused event]) = schedule.log := by
        rw [acceptedEvents_concat, simulates.log]
        exact List.append_nil _
      rw [if_neg (by omega)]
      exact ⟨⟨times, simulates.next, simulates.list, simulates.distinct, simulates.owners,
        simulates.queue, log, simulates.running⟩, simulates.woken⟩
  | some events =>
      have room : schedule.queue.length < numEvents := by
        have inside := node.events.countInside
        rw [← CountedRing.length_contents, simulates.queue] at inside
        apply lt_of_le_of_ne inside
        intro full
        rw [← simulates.queue] at full
        rw [CountedRing.put_eq_none.2 full] at added
        cases added
      have queue := CountedRing.contents_put added
      rw [simulates.queue] at queue
      have log : acceptedEvents (node.trace ++ [.accepted event]) = schedule.log ++ [event] := by
        rw [acceptedEvents_concat, simulates.log]
        rfl
      rw [if_pos room]
      exact ⟨⟨⟨times.clock, times.starts, times.intervals, times.short, times.near⟩,
        simulates.next, simulates.list, simulates.distinct, simulates.owners, queue, log,
        simulates.running⟩, simulates.woken⟩

theorem Simulates.take (simulates : Simulates etimerProcess schedule node) :
    Simulates etimerProcess { schedule with queue := schedule.queue.tail }
      (match node.events.take with
      | none => node
      | some (event, events) => node.dequeue event events) := by
  have times := simulates.times
  have kept : KeepsTime { schedule with queue := schedule.queue.tail } node.memory :=
    ⟨times.clock, times.starts, times.intervals, times.short, times.near⟩
  cases taken : node.events.take with
  | none =>
      have empty := CountedRing.take_eq_none.1 taken
      have queue : node.events.contents = schedule.queue.tail := by
        rw [← simulates.queue, empty, List.tail_nil]
      exact ⟨⟨kept, simulates.next, simulates.list, simulates.distinct, simulates.owners, queue,
        simulates.log, simulates.running⟩, simulates.woken⟩
  | some pair =>
      obtain ⟨event, events⟩ := pair
      have queue : events.contents = schedule.queue.tail := by
        rw [← simulates.queue, CountedRing.contents_take taken, List.tail_cons]
      have log : acceptedEvents (node.trace ++ [.taken event]) = schedule.log := by
        rw [acceptedEvents_concat, simulates.log]
        exact List.append_nil _
      exact ⟨⟨kept, simulates.next, simulates.list, simulates.distinct, simulates.owners, queue,
        log, simulates.running⟩, simulates.woken⟩

/-- A node before its first timer is set. -/
structure TimersUnset (etimerProcess : Process) (node : TimerNode Process TimerId) : Prop where
  memory : node.memory = {}
  empty : node.events.contents = []
  fresh : node.trace = []
  running : node.running etimerProcess = true

theorem TimersUnset.simulates (unset : TimersUnset etimerProcess node) :
    Simulates etimerProcess {} node := by
  refine ⟨⟨?_, ?_, ?_, List.nodup_nil, fun _ none => absurd none List.not_mem_nil,
    unset.empty, ?_, unset.running⟩, fun _ none => absurd none List.not_mem_nil⟩
  · rw [unset.memory]
    exact ⟨rfl, fun _ => rfl, fun _ => rfl, fun _ => (by decide : 0 < 2147483392),
      fun _ => (by decide : 0 + 0 < 0 + 2147483392)⟩
  · rw [unset.memory]
    exact ⟨0, rfl, fun _ none => absurd none List.not_mem_nil⟩
  · rw [unset.memory]
  · rw [unset.fresh]
    rfl

theorem Follows.sent_eq (follows : Follows etimerProcess schedule node)
    (timely : ∀ id ∈ schedule.pending, schedule.now < schedule.deadline id + 2147483648) :
    node.memory.expiredTimers = schedule.pending.filter (fun id => schedule.Due id) ∧
      node.memory.sent node.events.contents.length = schedule.sent := by
  have expired : node.memory.expiredTimers = schedule.pending.filter fun id => schedule.Due id := by
    rw [EventTimers.expiredTimers, follows.list]
    apply List.filter_congr
    intro id member
    rw [Bool.eq_iff_iff, decide_eq_true_iff]
    exact follows.times.expired_iff (timely id member)
  refine ⟨expired, ?_⟩
  rw [EventTimers.sent, expired, follows.queue, Schedule.sent]

/-- The interrupt finds the next expiration when a deadline is reached. -/
theorem maxTicks_lt_clockSub {target now : ℕ} (reached : target ≤ now)
    (recent : now - target < 2147483648) :
    maxTicks < clockSub (clockSub (target % clockModulus) (now % clockModulus)) 1 := by
  have behind : clockSub (target % clockModulus) (now % clockModulus) =
      if target = now then 0 else clockModulus - (now - target) := by
    split
    · next same =>
        subst same
        exact (stampSub_mod_of_le le_rfl (by rw [clockModulus]; omega)).trans (Nat.sub_self _)
    · exact stampSub_mod_of_lt (by omega) (by rw [clockModulus]; omega)
  rw [behind, clockSub, stampSub, clockModulus, maxTicks]
  split
  · omega
  · omega

theorem Simulates.tick [DecidableEq Process] (simulates : Simulates etimerProcess schedule node)
    {missed : ℕ} (few : missed < 256) :
    Simulates etimerProcess { schedule with now := schedule.now + (missed + 1) }
      (TimerNode.tick etimerProcess missed node) := by
  have times := simulates.times
  obtain ⟨target, stamp, following⟩ := simulates.next
  have clock : toClockTime (node.memory.count + (missed + 1)) =
      (schedule.now + (missed + 1)) % clockModulus := by
    rw [times.clock, toClockTime, clockModulus, Nat.mod_add_mod]
  have kept : KeepsTime { schedule with now := schedule.now + (missed + 1) }
      { node.memory with count := toClockTime (node.memory.count + (missed + 1)) } :=
    ⟨clock, times.starts, times.intervals, times.short, fun id =>
      (times.near id).trans (Nat.add_lt_add_right (Nat.lt_add_of_pos_right (Nat.succ_pos _)) _)⟩
  have next : NextKept { schedule with now := schedule.now + (missed + 1) }
      { node.memory with count := toClockTime (node.memory.count + (missed + 1)) } :=
    ⟨target, stamp, fun id member ahead =>
      following id member ((Nat.lt_add_of_pos_right (Nat.succ_pos _)).trans ahead)⟩
  have counted : Follows etimerProcess { schedule with now := schedule.now + (missed + 1) }
      (node.onTimers fun timers =>
        { timers with count := toClockTime (timers.count + (missed + 1)) }) :=
    ⟨kept, next, simulates.list, simulates.distinct, simulates.owners, simulates.queue,
      simulates.log, simulates.running⟩
  rw [TimerNode.tick]
  split
  · exact counted.requestPoll
  · next quiet =>
      refine ⟨counted, fun id member due => ?_⟩
      by_cases earlier : schedule.Due id
      · exact simulates.woken id member earlier
      · obtain ⟨ahead, begun⟩ := not_or.1 earlier
        rw [not_le] at ahead
        have bound : schedule.deadline id ≤ schedule.now + (missed + 1) :=
          due.resolve_right fun before : schedule.now + (missed + 1) + 1 < schedule.began id =>
            begun (by omega)
        have listed : id ∈ node.memory.timerlist := simulates.list ▸ member
        obtain ⟨before, recent⟩ := following id listed ahead
        have woken := maxTicks_lt_clockSub (before.trans bound) (by omega)
        rw [← stamp, ← clock] at woken
        exact absurd ⟨List.ne_nil_of_mem listed, woken⟩ quiet

variable [DecidableEq TimerId]

theorem KeepsTime.dismiss {timers : EventTimers Process TimerId}
    (keeps : KeepsTime schedule timers) (id : TimerId) :
    KeepsTime schedule (timers.dismiss id) ∧ NextKept schedule (timers.dismiss id) := by
  have kept : KeepsTime schedule { timers with
      p := Function.update timers.p id none, timerlist := timers.timerlist.erase id } :=
    ⟨keeps.clock, keeps.starts, keeps.intervals, keeps.short, keeps.near⟩
  exact ⟨kept.updateTime, kept.nextKept_updateTime⟩

/-- A timer that gets the stamp of an alarm. -/
theorem KeepsTime.arm {timers : EventTimers Process TimerId} (keeps : KeepsTime schedule timers)
    (current : Process) (id : TimerId) {time interval : ℕ}
    (near : time + interval < schedule.now + 2147483392) (short : interval < 2147483392) :
    KeepsTime (schedule.arm current id time interval)
      { timers with
        timer := Function.update timers.timer id ⟨time % clockModulus, interval⟩ } where
  clock := keeps.clock
  starts other := by
    by_cases same : other = id
    · simp [Schedule.arm, same]
    · simp [Schedule.arm, Function.update_of_ne same, keeps.starts other]
  intervals other := by
    by_cases same : other = id
    · simp [Schedule.arm, same]
    · simp [Schedule.arm, Function.update_of_ne same, keeps.intervals other]
  short other := by
    by_cases same : other = id
    · simpa [Schedule.arm, same] using short
    · simpa [Schedule.arm, Function.update_of_ne same] using keeps.short other
  near other := by
    by_cases same : other = id
    · rw [same, Schedule.deadline_arm_self]
      exact near
    · rw [Schedule.deadline_arm_of_ne _ _ same]
      exact keeps.near other

/-- `etimer_stop` withdraws the alarm. -/
theorem Simulates.stop (simulates : Simulates etimerProcess schedule node) (id : TimerId) :
    Simulates etimerProcess { schedule with pending := schedule.pending.erase id }
      (node.onTimers fun timers => timers.stop id) := by
  have times := simulates.times
  have owners (other : TimerId) (member : other ∈ schedule.pending.erase id) :
      Function.update node.memory.p id none other = schedule.owner other ∧
        schedule.owner other ≠ none := by
    obtain ⟨different, inside⟩ := simulates.distinct.mem_erase_iff.1 member
    rw [Function.update_of_ne different]
    exact simulates.owners other inside
  have woken (other : TimerId) (member : other ∈ schedule.pending.erase id)
      (due : schedule.Due other) : node.needspoll etimerProcess = true :=
    simulates.woken other (List.mem_of_mem_erase member) due
  simp only [TimerNode.onTimers, EventTimers.stop]
  by_cases there : id ∈ node.memory.timerlist
  · rw [if_pos there]
    have kept : KeepsTime { schedule with pending := schedule.pending.erase id }
        { node.memory with timerlist := node.memory.timerlist.erase id } :=
      ⟨times.clock, times.starts, times.intervals, times.short, times.near⟩
    have updated := kept.updateTime
    refine ⟨⟨⟨updated.clock, updated.starts, updated.intervals, updated.short, updated.near⟩,
      kept.nextKept_updateTime, ?_, simulates.distinct.erase id, ?_, simulates.queue,
      simulates.log, simulates.running⟩, woken⟩
    · rw [← simulates.list]
      exact EventTimers.updateTime_timerlist _
    · rw [EventTimers.updateTime_p]
      exact owners
  · rw [if_neg there]
    rw [simulates.list] at there
    rw [List.erase_of_not_mem there] at owners woken ⊢
    exact ⟨⟨⟨times.clock, times.starts, times.intervals, times.short, times.near⟩, simulates.next,
      simulates.list, simulates.distinct, owners, simulates.queue, simulates.log,
      simulates.running⟩, woken⟩

variable [DecidableEq Process]

/-- Setting a timer and adding it to the list arms the alarm. -/
theorem Follows.arm (follows : Follows etimerProcess schedule node) (current : Process)
    (id : TimerId) {time interval : ℕ} (near : time + interval < schedule.now + 2147483392)
    (short : interval < 2147483392) :
    Simulates etimerProcess (schedule.arm current id time interval)
      ((TimerNode.requestPoll etimerProcess node).onTimers fun timers =>
        { timers with
          timer := Function.update timers.timer id ⟨time % clockModulus, interval⟩ }.addTimer
            current id) := by
  have asked : (node.processPoll etimerProcess).needspoll etimerProcess = true :=
    Kernel.needspoll_processPoll follows.running
  have ready := follows.requestPoll
  have armed := ready.times.arm current id near short
  have known : ((TimerNode.requestPoll etimerProcess node).memory.p id ≠ none ∧
      id ∈ (TimerNode.requestPoll etimerProcess node).memory.timerlist) ↔
      id ∈ schedule.pending := by
    rw [ready.list, and_iff_right_iff_imp]
    intro member
    rw [(ready.owners id member).1]
    exact (ready.owners id member).2
  have owners (other : TimerId) (member : other = id ∨ other ∈ schedule.pending) :
      Function.update (TimerNode.requestPoll etimerProcess node).memory.p id (some current) other =
          (schedule.arm current id time interval).owner other ∧
        (schedule.arm current id time interval).owner other ≠ none := by
    by_cases same : other = id
    · simp [Schedule.arm, same]
    · simpa [Schedule.arm, Function.update_of_ne same] using
        ready.owners other (member.resolve_left same)
  have kept (list : List TimerId) : KeepsTime (schedule.arm current id time interval)
      { (TimerNode.requestPoll etimerProcess node).memory with
        timer := Function.update (TimerNode.requestPoll etimerProcess node).memory.timer id
          ⟨time % clockModulus, interval⟩
        p := Function.update (TimerNode.requestPoll etimerProcess node).memory.p id (some current)
        timerlist := list } :=
    ⟨armed.clock, armed.starts, armed.intervals, armed.short, armed.near⟩
  simp only [TimerNode.onTimers, EventTimers.addTimer]
  by_cases there : id ∈ schedule.pending
  · have pending : (schedule.arm current id time interval).pending = schedule.pending :=
      if_pos there
    rw [if_pos (known.2 there)]
    refine ⟨⟨(kept _).updateTime, (kept _).nextKept_updateTime, ?_, pending ▸ ready.distinct, ?_,
      ready.queue, ready.log, ready.running⟩, fun _ _ _ => asked⟩
    · rw [EventTimers.updateTime_timerlist, pending]
      exact ready.list
    · rw [pending, EventTimers.updateTime_p]
      exact fun other member => owners other (.inr member)
  · have pending : (schedule.arm current id time interval).pending = id :: schedule.pending :=
      if_neg there
    rw [if_neg fun both => there (known.1 both)]
    have longer := kept (id :: (TimerNode.requestPoll etimerProcess node).memory.timerlist)
    refine ⟨⟨longer.updateTime, longer.nextKept_updateTime, ?_,
      pending ▸ List.nodup_cons.2 ⟨there, ready.distinct⟩, ?_, ready.queue, ready.log,
      ready.running⟩, fun _ _ _ => asked⟩
    · rw [EventTimers.updateTime_timerlist, pending]
      exact congrArg (id :: ·) ready.list
    · rw [pending, EventTimers.updateTime_p]
      exact fun other member => owners other (List.mem_cons.1 member)

/-- `etimer_reset` arms the alarm at a time with the stamp of its last deadline. -/
theorem Simulates.reset (simulates : Simulates etimerProcess schedule node) (current : Process)
    {id : TimerId} {time : ℕ} (same : time % clockModulus = schedule.deadline id % clockModulus)
    (near : time + schedule.interval id < schedule.now + 2147483392) :
    Simulates etimerProcess (schedule.arm current id time (schedule.interval id))
      ((TimerNode.requestPoll etimerProcess node).onTimers fun timers =>
        (timers.timerReset id).addTimer current id) := by
  have times := simulates.requestPoll.times
  have armed := simulates.toFollows.arm current id near (times.short id)
  have start : toClockTime (((TimerNode.requestPoll etimerProcess node).memory.timer id).start +
      ((TimerNode.requestPoll etimerProcess node).memory.timer id).interval) =
      time % clockModulus := by
    rw [times.starts, times.intervals, toClockTime, same, clockModulus, Nat.mod_add_mod,
      Schedule.deadline]
  have stamp : (TimerNode.requestPoll etimerProcess node).memory.timerReset id =
      { (TimerNode.requestPoll etimerProcess node).memory with
        timer := Function.update (TimerNode.requestPoll etimerProcess node).memory.timer id
          ⟨time % clockModulus, schedule.interval id⟩ } := by
    rw [← start, ← times.intervals]
    rfl
  rw [TimerNode.onTimers, ← stamp] at armed
  exact armed

theorem Simulates.exited (simulates : Simulates etimerProcess schedule node) (process : Process) :
    Simulates etimerProcess
      { schedule with
        pending := schedule.pending.filter fun id => schedule.owner id ≠ some process }
      (node.callProcess (fun _ => EventTimers.etimerThread etimerProcess) etimerProcess .exited
        (some (.process process))) := by
  have times := simulates.times
  obtain ⟨target, stamp, following⟩ := simulates.next
  have list : (node.memory.timerlist.filter fun id => node.memory.p id ≠ some process) =
      schedule.pending.filter fun id => schedule.owner id ≠ some process := by
    rw [simulates.list]
    apply List.filter_congr
    intro id member
    rw [(simulates.owners id member).1]
  rw [Kernel.callProcess, if_pos simulates.running]
  refine ⟨⟨⟨times.clock, times.starts, times.intervals, times.short, times.near⟩,
    ⟨target, stamp, fun id member => following id (List.mem_of_mem_filter member)⟩, list,
    simulates.distinct.filter _, fun id member => ?_, simulates.queue, simulates.log,
    simulates.running⟩, fun id member => ?_⟩
  · exact simulates.owners id (List.mem_of_mem_filter member)
  · exact simulates.woken id (List.mem_of_mem_filter member)

/-- A poll posts the events of the due alarms. -/
theorem Simulates.poll (simulates : Simulates etimerProcess schedule node)
    (timely : ∀ id ∈ schedule.pending, schedule.now < schedule.deadline id + 2147483648) :
    Simulates etimerProcess schedule.poll
      (node.pollOne (fun _ => EventTimers.etimerThread etimerProcess) etimerProcess) := by
  obtain ⟨expired, sent⟩ := simulates.toFollows.sent_eq timely
  have inside (id : TimerId) (member : id ∈ schedule.sent) :
      id ∈ schedule.pending ∧ schedule.Due id := by
    simpa using List.mem_filter.1 (List.mem_of_mem_take member)
  rw [Kernel.pollOne]
  split
  · have running : (node.beginPoll etimerProcess).running etimerProcess = true :=
      Function.update_self _ _ _
    rw [Kernel.callProcess, if_pos running]
    have polled := exec_pollTimers (Nat.lt_succ_self node.memory.timerlist.length)
      (simulates.list ▸ simulates.distinct) running
    have start : acceptedEvents (node.beginPoll etimerProcess).trace = schedule.log := by
      rw [Kernel.beginPoll, Kernel.record, acceptedEvents_concat, simulates.log]
      exact List.append_nil _
    have events : schedule.sent.map node.memory.timerEvent = schedule.sent.map schedule.event := by
      apply List.map_congr_left
      intro id member
      rw [EventTimers.timerEvent, (simulates.owners id (inside id member).1).1, Schedule.event]
    have contents : node.events.contents ++ schedule.sent.map node.memory.timerEvent =
        schedule.poll.queue := by
      rw [events, simulates.queue, Schedule.poll]
    have log : acceptedEvents (node.beginPoll etimerProcess).trace ++
        schedule.sent.map node.memory.timerEvent = schedule.poll.log := by
      rw [events, start, Schedule.poll]
    have list : node.memory.timerlist.diff schedule.sent = schedule.poll.pending := by
      rw [simulates.list, simulates.distinct.sdiff_eq_filter, Schedule.poll]
    have kept : KeepsTime schedule (schedule.sent.foldl EventTimers.dismiss node.memory) ∧
        NextKept schedule (schedule.sent.foldl EventTimers.dismiss node.memory) := by
      apply List.foldlRecOn (motive := fun timers : EventTimers Process TimerId =>
        KeepsTime schedule timers ∧ NextKept schedule timers)
      · exact ⟨simulates.times, simulates.next⟩
      · exact fun timers keeps id _ => keeps.1.dismiss id
    obtain ⟨memory, queue, posted, same, asks⟩ := polled
    have waiting : node.memory.sent (node.beginPoll etimerProcess).events.contents.length =
        schedule.sent := sent
    rw [waiting] at memory queue posted asks
    rw [← memory] at kept
    obtain ⟨⟨clock, starts, intervals, short, near⟩, next⟩ := kept
    refine ⟨⟨⟨clock, starts, intervals, short, near⟩, next, ?_, simulates.distinct.filter _,
      fun id member => ?_, queue.trans contents, posted.trans log, ?_⟩, fun id member due => ?_⟩
    · exact (congrArg EventTimers.timerlist memory).trans
        ((EventTimers.foldl_dismiss_timerlist _ _).trans list)
    · obtain ⟨pending, unsent⟩ := List.mem_filter.1 member
      obtain ⟨owner, owned⟩ := simulates.owners id pending
      refine ⟨?_, owned⟩
      exact (congrFun (congrArg EventTimers.p memory) id).trans
        ((EventTimers.foldl_dismiss_p _ (of_decide_eq_true unsent)).trans owner)
    · exact (congrFun same etimerProcess).trans running
    · obtain ⟨pending, unsent⟩ := List.mem_filter.1 member
      apply asks
      rw [expired]
      by_contra all
      have whole : schedule.sent = schedule.pending.filter fun id => schedule.Due id :=
        List.take_of_length_le (by
          rw [Schedule.sent, List.length_take] at all
          omega)
      apply of_decide_eq_true unsent
      rw [whole, List.mem_filter]
      exact ⟨pending, decide_eq_true due⟩
  · next idle =>
      have none_ : schedule.sent = [] := by
        rw [List.eq_nil_iff_forall_not_mem]
        intro id member
        obtain ⟨pending, due⟩ := inside id member
        exact idle (simulates.woken id pending due)
      have same : schedule.poll = schedule := by
        simp [Schedule.poll, none_]
      rwa [same]

/-- Every timely step of the schedule is one of the node. -/
theorem Simulates.step (simulates : Simulates etimerProcess schedule node)
    {action : TimerAction Process TimerId} (timely : schedule.Timely action) :
    ∃ next later, schedule.step action = some next ∧
      TimerNode.step etimerProcess node action = some later ∧
      Simulates etimerProcess next later := by
  obtain ⟨late, proper⟩ := timely
  have times := simulates.requestPoll.times
  cases action with
  | set current id interval =>
      refine ⟨_, _, rfl, rfl, ?_⟩
      have armed := simulates.toFollows.arm current id (Nat.add_lt_add_left proper _) proper
      rw [← times.clock] at armed
      exact armed
  | reset current id => exact ⟨_, _, rfl, rfl, simulates.reset current rfl proper⟩
  | restart current id =>
      refine ⟨_, _, rfl, rfl, ?_⟩
      have armed := simulates.toFollows.arm current id
        (Nat.add_lt_add_left (times.short id) _) (times.short id)
      have stamp : (TimerNode.requestPoll etimerProcess node).memory.timerRestart id =
          { (TimerNode.requestPoll etimerProcess node).memory with
            timer := Function.update (TimerNode.requestPoll etimerProcess node).memory.timer id
              ⟨schedule.now % clockModulus, schedule.interval id⟩ } := by
        rw [← times.clock, ← times.intervals]
        rfl
      rw [TimerNode.onTimers, ← stamp] at armed
      exact armed
  | stop id => exact ⟨_, _, rfl, rfl, simulates.stop id⟩
  | exited process => exact ⟨_, _, rfl, rfl, simulates.exited process⟩
  | poll => exact ⟨_, _, rfl, rfl, simulates.poll late⟩
  | tick missed => exact ⟨_, _, rfl, rfl, simulates.tick proper⟩
  | post event => exact ⟨_, _, rfl, rfl, simulates.post event⟩
  | take => exact ⟨_, _, rfl, rfl, simulates.take⟩

variable {actions : List (TimerAction Process TimerId)}

/-- The timers of a node keep the alarms of its schedule: in every timely run the same timers
are pending in the same order, the same events are accepted and wait, and a due alarm has a
poll coming. -/
theorem timers_keep_schedule (unset : TimersUnset etimerProcess node)
    (timely : EveryStep Schedule.step Schedule.Timely {} actions) :
    ∃ final later, run Schedule.step {} actions = some final ∧
      run (TimerNode.step etimerProcess) node actions = some later ∧
      later.memory.timerlist = final.pending ∧
      later.events.contents = final.queue ∧
      acceptedEvents later.trace = final.log ∧
      ∀ id ∈ final.pending, final.Due id → later.needspoll etimerProcess = true := by
  obtain ⟨final, later, executed, ran, simulates⟩ :=
    @EveryStep.simulates _ _ _ Schedule.step (TimerNode.step etimerProcess) Schedule.Timely
      (Simulates etimerProcess) (fun _ _ _ simulates => simulates.step) _ _ _ unset.simulates timely
  exact ⟨final, later, executed, ran, simulates.list, simulates.queue, simulates.log,
    simulates.woken⟩

/-- In a timely run a poll posts the events of exactly the due alarms, in the order of the
list, when the queue has room for all of them. -/
theorem poll_posts_due {final : Schedule Process TimerId} {later next : TimerNode Process TimerId}
    (unset : TimersUnset etimerProcess node)
    (timely : EveryStep Schedule.step Schedule.Timely {} actions)
    (executed : run Schedule.step {} actions = some final)
    (ran : run (TimerNode.step etimerProcess) node actions = some later)
    (prompt : final.Timely .poll)
    (room : later.events.contents.length +
      (later.memory.timerlist.filter fun id => final.Due id).length ≤ numEvents)
    (polled : TimerNode.step etimerProcess later .poll = some next) :
    next.memory.timerlist = later.memory.timerlist.filter (fun id => ¬ final.Due id) ∧
      acceptedEvents next.trace = acceptedEvents later.trace ++
        (later.memory.timerlist.filter fun id => final.Due id).map final.event := by
  obtain ⟨schedule, reached, first, second, simulates⟩ :=
    @EveryStep.simulates _ _ _ Schedule.step (TimerNode.step etimerProcess) Schedule.Timely
      (Simulates etimerProcess) (fun _ _ _ simulates => simulates.step) _ _ _ unset.simulates timely
  obtain rfl : schedule = final := Option.some.inj (first.symm.trans executed)
  obtain rfl : reached = later := Option.some.inj (second.symm.trans ran)
  have after := simulates.poll prompt.1
  obtain rfl : _ = next := Option.some.inj polled
  rw [simulates.queue, simulates.list] at room
  have sent : schedule.sent = schedule.pending.filter fun id => schedule.Due id := by
    rw [Schedule.sent]
    apply List.take_of_length_le
    omega
  rw [after.list, after.log, simulates.list, simulates.log, Schedule.poll, sent]
  refine ⟨List.filter_congr fun id member => ?_, rfl⟩
  simp [member]

end Simulation

/-! ## An example -/

/-- A node with one process beside that of the timers, after its start. -/
def timerNode : TimerNode Bool Bool where
  processList := [true, false]
  running _ := true
  events := noEvents
  memory := {}

theorem timerNode_unset : TimersUnset true timerNode := ⟨rfl, rfl, rfl, rfl⟩

/-- Two timers, of which one is due after two ticks. -/
def timerActions : List (TimerAction Bool Bool) :=
  [.set false true 5, .set false false 2, .tick 0, .poll, .tick 0]

theorem timers_keep_schedule_two :
    ∃ final later, run Schedule.step {} timerActions = some final ∧
      run (TimerNode.step true) timerNode timerActions = some later ∧
      later.memory.timerlist = final.pending ∧
      later.events.contents = final.queue ∧
      acceptedEvents later.trace = final.log ∧
      ∀ id ∈ final.pending, final.Due id → later.needspoll true = true :=
  timers_keep_schedule timerNode_unset (by decide)

theorem poll_posts_due_two :
    ∃ final later next, run Schedule.step {} timerActions = some final ∧
      run (TimerNode.step true) timerNode timerActions = some later ∧
      TimerNode.step true later .poll = some next ∧
      next.memory.timerlist =
        later.memory.timerlist.filter (fun id => ¬ final.Due id) :=
  ⟨_, _, _, rfl, rfl, rfl, (poll_posts_due timerNode_unset
    (by decide : EveryStep Schedule.step Schedule.Timely {} timerActions) rfl rfl (by decide)
    (by decide) rfl).1⟩

end IotLab.Firmware
