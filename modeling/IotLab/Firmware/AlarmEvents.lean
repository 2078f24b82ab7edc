import IotLab.Firmware.AlarmRuns

/-!
# The events of a process's own alarms

A process that waits for its own timers looks for their events among all that it receives.  A
poll turns the due alarms into events; what other processes do with timers of their own leaves
both alone.
-/

namespace IotLab.Firmware

open IotLab.Library

variable {Process TimerId : Type} [DecidableEq Process] [DecidableEq TimerId]

/-- The event is one of the timer, for the process. -/
def announces (receiver : Process) (timer : TimerId)
    (event : PostedEvent Process (EventData Process TimerId)) : Bool :=
  event.ev = .timer ∧ event.data = some (.etimer timer) ∧
    (event.receiver = none ∨ event.receiver = some receiver)

theorem announces_unique {receiver : Process} {timer other : TimerId}
    {event : PostedEvent Process (EventData Process TimerId)}
    (announced : announces receiver timer event = true) (different : other ≠ timer) :
    announces receiver other event = false := by
  simp only [announces, decide_eq_true_iff] at announced
  simp [announces, announced.2.1, different.symm]

/-- What others do with timers and events of their own, when a process has its own timers.  A
timer may be reset when its next expiration lies ahead, by less than half of the clock. -/
def Others (receiver : Process) (own : TimerId → Bool) (timers : EventTimers Process TimerId) :
    TimerAction Process TimerId → Bool
  | .set _ timer interval => !own timer && interval < 2147483392
  | .reset _ timer =>
      !own timer && ((timers.timerReset timer).timer timer).distance timers.count < 2147483392
  | .restart _ timer | .stop timer => !own timer
  | .exited process => process ≠ receiver
  | .post event =>
      match event.data with
      | some (.etimer timer) => !own timer
      | _ => true
  | .poll | .tick _ | .take => false

/-- No poll of the timers is asked for, and no event waits. -/
def TimerNode.Idle (etimerProcess : Process) (node : TimerNode Process TimerId) : Prop :=
  node.needspoll etimerProcess = false ∧ node.events.contents = []

instance (etimerProcess : Process) (node : TimerNode Process TimerId) :
    Decidable (node.Idle etimerProcess) :=
  inferInstanceAs (Decidable (_ ∧ _))

omit [DecidableEq Process] [DecidableEq TimerId] in
theorem TimerNode.Idle.ahead {etimerProcess : Process} {node : TimerNode Process TimerId}
    {schedule : Schedule Process TimerId} (idle : node.Idle etimerProcess)
    (simulates : Simulates etimerProcess schedule node) :
    schedule.queue = [] ∧ ∀ timer ∈ schedule.pending, schedule.now < schedule.deadline timer := by
  refine ⟨simulates.queue ▸ idle.2, fun timer member => ?_⟩
  by_contra due
  have asked := simulates.woken timer member (.inl (Nat.le_of_not_lt due))
  rw [idle.1] at asked
  cases asked

/-- The timer and its events are as they were. -/
structure Undisturbed (receiver : Process) (schedule next : Schedule Process TimerId)
    (timer : TimerId) : Prop where
  owner : next.owner timer = schedule.owner timer
  interval : next.interval timer = schedule.interval timer
  began : next.began timer = schedule.began timer
  pending : next.pending.count timer = schedule.pending.count timer
  queue : next.queue.countP (announces receiver timer) =
    schedule.queue.countP (announces receiver timer)

namespace Schedule

variable (schedule : Schedule Process TimerId) (receiver : Process)

/-- How often a timer is pending or has its event in the queue. -/
def occurrences (timer : TimerId) : ℕ :=
  schedule.pending.count timer + schedule.queue.countP (announces receiver timer)

/-- No alarm is overdue. -/
def Prompt : Prop := ∀ timer ∈ schedule.pending, schedule.now ≤ schedule.deadline timer

variable {schedule receiver}

omit [DecidableEq Process] [DecidableEq TimerId] in
theorem Prompt.late (prompt : schedule.Prompt) :
    ∀ timer ∈ schedule.pending, schedule.now < schedule.deadline timer + 2147483648 :=
  fun timer member => (Nat.lt_add_of_pos_right (by decide)).trans_le' (prompt timer member)

omit [DecidableEq Process] in
/-- An alarm that is armed now is not overdue. -/
theorem Prompt.arm (prompt : schedule.Prompt) (current : Process) (timer : TimerId)
    {time interval : ℕ} (due : schedule.now ≤ time + interval) :
    (schedule.arm current timer time interval).Prompt := by
  intro other member
  by_cases same : other = timer
  · rw [same, deadline_arm_self]
    exact due
  · rw [deadline_arm_of_ne _ _ same]
    refine prompt other ?_
    rw [Schedule.arm] at member
    dsimp only at member
    split at member
    · exact member
    · exact (List.mem_cons.1 member).resolve_left same

/-! ## A poll -/

section Poll

variable {timer : TimerId}

omit [DecidableEq Process] [DecidableEq TimerId] in
theorem mem_sent (member : timer ∈ schedule.sent) :
    timer ∈ schedule.pending ∧ schedule.Due timer := by
  simpa using List.mem_filter.1 (List.mem_of_mem_take member)

omit [DecidableEq Process] in
theorem count_sent (nodup : schedule.pending.Nodup) :
    schedule.sent.count timer = if timer ∈ schedule.sent then 1 else 0 := by
  have distinct : schedule.sent.Nodup := (nodup.filter _).sublist (List.take_sublist _ _)
  split
  · next member => exact List.count_eq_one_of_mem distinct member
  · next absent => exact List.count_eq_zero.2 absent

/-- The events that a poll posts for a timer. -/
theorem countP_queue_poll (owned : timer ∈ schedule.pending →
    schedule.owner timer = some receiver) :
    schedule.poll.queue.countP (announces receiver timer) =
      schedule.queue.countP (announces receiver timer) + schedule.sent.count timer := by
  rw [poll, List.countP_append, List.countP_map, List.count]
  congr 1
  apply List.countP_congr
  intro other member
  have iff : announces receiver timer (schedule.event other) = true ↔ other = timer := by
    simp only [announces, event, decide_eq_true_iff, true_and, Option.some.injEq,
      EventData.etimer.injEq, and_iff_left_iff_imp]
    rintro rfl
    exact .inr (owned (mem_sent member).1)
  rw [Function.comp_apply, iff, beq_iff_eq]

omit [DecidableEq Process] in
theorem count_pending_poll (nodup : schedule.pending.Nodup) :
    schedule.poll.pending.count timer + schedule.sent.count timer =
      schedule.pending.count timer := by
  rw [poll, count_sent nodup]
  split
  · next member =>
      rw [List.count_eq_one_of_mem nodup (mem_sent member).1, List.count_eq_zero.2]
      exact fun kept => of_decide_eq_true (List.mem_filter.1 kept).2 member
  · next absent => exact List.count_filter (decide_eq_true absent)

theorem occurrences_poll (nodup : schedule.pending.Nodup) (owned : timer ∈ schedule.pending →
    schedule.owner timer = some receiver) :
    schedule.poll.occurrences receiver timer = schedule.occurrences receiver timer := by
  have posted := countP_queue_poll owned
  have removed := @count_pending_poll _ _ _ schedule timer nodup
  rw [occurrences, occurrences]
  omega

theorem heard_poll (owned : timer ∈ schedule.pending → schedule.owner timer = some receiver)
    (begun : schedule.began timer ≤ schedule.now)
    (heard : 0 < schedule.poll.queue.countP (announces receiver timer)) :
    0 < schedule.queue.countP (announces receiver timer) ∨
      timer ∈ schedule.pending ∧ schedule.deadline timer ≤ schedule.now := by
  rw [countP_queue_poll owned] at heard
  rcases Nat.eq_zero_or_pos (schedule.sent.count timer) with none | some_
  · exact .inl (by omega)
  · obtain ⟨member, due⟩ := mem_sent (List.count_pos_iff.1 some_)
    exact .inr ⟨member, (due_iff begun).1 due⟩

end Poll

end Schedule

/-! ## Other processes -/

section Others

variable {receiver : Process} {schedule next : Schedule Process TimerId} {timer : TimerId}

theorem Undisturbed.deadline (undisturbed : Undisturbed receiver schedule next timer) :
    next.deadline timer = schedule.deadline timer := by
  rw [Schedule.deadline, undisturbed.began, undisturbed.interval, Schedule.deadline]

theorem Undisturbed.mem_iff (undisturbed : Undisturbed receiver schedule next timer) :
    timer ∈ next.pending ↔ timer ∈ schedule.pending := by
  rw [← List.count_pos_iff, undisturbed.pending, List.count_pos_iff]

theorem Undisturbed.occurrences (undisturbed : Undisturbed receiver schedule next timer) :
    next.occurrences receiver timer = schedule.occurrences receiver timer := by
  rw [Schedule.occurrences, undisturbed.pending, undisturbed.queue, Schedule.occurrences]

theorem Schedule.arm_undisturbed (schedule : Schedule Process TimerId) (receiver current : Process)
    {other : TimerId} (time interval : ℕ) (different : timer ≠ other) :
    Undisturbed receiver schedule (schedule.arm current other time interval) timer :=
  ⟨schedule.owner_arm_of_ne current different time interval,
    schedule.interval_arm_of_ne current different time interval,
    schedule.began_arm_of_ne current different time interval,
    schedule.count_arm_of_ne current different time interval, rfl⟩

/-- Own timers are armed for their process while they are pending. -/
def Schedule.Owned (schedule : Schedule Process TimerId) (receiver : Process)
    (own : TimerId → Bool) : Prop :=
  ∀ timer, own timer = true → timer ∈ schedule.pending → schedule.owner timer = some receiver

omit [DecidableEq Process] in
/-- A timer that is reset begins at a time with the stamp of its last deadline, after which its
next expiration is as far ahead as the stamps say. -/
theorem KeepsTime.reset_ahead {timers : EventTimers Process TimerId}
    (keeps : KeepsTime schedule timers) (id : TimerId) :
    ∃ time, time % clockModulus = schedule.deadline id % clockModulus ∧
      time + schedule.interval id =
        schedule.now + ((timers.timerReset id).timer id).distance timers.count := by
  have near := keeps.near id
  have short := keeps.short id
  have reset : (timers.timerReset id).timer id =
      { timers.timer id with
        start := toClockTime ((timers.timer id).start + (timers.timer id).interval) } :=
    Function.update_self _ _ _
  have stamp : toClockTime (((timers.timerReset id).timer id).start +
      ((timers.timerReset id).timer id).interval) =
      (schedule.deadline id + schedule.interval id) % clockModulus := by
    rw [reset, keeps.starts, keeps.intervals, toClockTime, toClockTime, clockModulus,
      Nat.mod_add_mod, Nat.add_assoc, Nat.mod_add_mod, Schedule.deadline, Nat.add_assoc]
  rw [Timer.distance, stamp, keeps.clock, clockSub, stampSub, clockModulus]
  generalize schedule.deadline id = deadline at near ⊢
  -- the next expiration is less than the clock ahead, so that the stamps never take it for later
  refine ⟨schedule.now + ((deadline + schedule.interval id) % 4294967296 +
    (4294967296 - schedule.now % 4294967296)) % 4294967296 - schedule.interval id, ?_, ?_⟩
  · omega
  · omega

variable {etimerProcess : Process} {node : TimerNode Process TimerId} {own : TimerId → Bool}

/-- What other processes do leaves the own timers as they are. -/
theorem Simulates.others (simulates : Simulates etimerProcess schedule node)
    (prompt : schedule.Prompt) (owned : schedule.Owned receiver own)
    {action : TimerAction Process TimerId}
    (others : Others receiver own node.memory action = true) :
    ∃ next later, TimerNode.step etimerProcess node action = some later ∧
      Simulates etimerProcess next later ∧ next.now = schedule.now ∧ next.Prompt ∧
      ∀ timer, own timer = true → Undisturbed receiver schedule next timer := by
  have different {timer other : TimerId} (mine : own timer = true)
      (foreign : (!own other) = true) : timer ≠ other := by
    rintro rfl
    rw [mine] at foreign
    cases foreign
  -- but for a reset, the alarms take the step of the timers
  have steps {next : Schedule Process TimerId} (stepped : schedule.step action = some next)
      (timely : schedule.Timely action) :
      ∃ later, TimerNode.step etimerProcess node action = some later ∧
        Simulates etimerProcess next later := by
    obtain ⟨other, later, same, called, after⟩ := simulates.step timely
    obtain rfl : next = other := Option.some.inj (stepped.symm.trans same)
    exact ⟨later, called, after⟩
  cases action with
  | set current other interval =>
      simp only [Others, Bool.and_eq_true, decide_eq_true_iff] at others
      obtain ⟨later, called, after⟩ := steps rfl ⟨prompt.late, others.2⟩
      exact ⟨_, later, called, after, rfl, prompt.arm current _ (Nat.le_add_right _ _),
        fun timer mine => schedule.arm_undisturbed _ current _ _ (different mine others.1)⟩
  | reset current other =>
      simp only [Others, Bool.and_eq_true, decide_eq_true_iff] at others
      obtain ⟨time, same, ahead⟩ := simulates.times.reset_ahead other
      exact ⟨_, _, rfl, simulates.reset current same (by omega), rfl,
        prompt.arm current _ (by omega),
        fun timer mine => schedule.arm_undisturbed _ current _ _ (different mine others.1)⟩
  | restart current other =>
      obtain ⟨later, called, after⟩ := steps rfl ⟨prompt.late, trivial⟩
      exact ⟨_, later, called, after, rfl, prompt.arm current _ (Nat.le_add_right _ _),
        fun timer mine => schedule.arm_undisturbed _ current _ _ (different mine others)⟩
  | stop other =>
      obtain ⟨later, called, after⟩ := steps rfl ⟨prompt.late, trivial⟩
      refine ⟨_, later, called, after, rfl, ?_, fun timer mine => ?_⟩
      · exact fun timer member => prompt timer (List.mem_of_mem_erase member)
      · exact ⟨rfl, rfl, rfl, List.count_erase_of_ne (different mine others), rfl⟩
  | exited process =>
      have other : process ≠ receiver := of_decide_eq_true others
      obtain ⟨later, called, after⟩ := steps rfl ⟨prompt.late, trivial⟩
      refine ⟨_, later, called, after, rfl, ?_, fun timer mine => ?_⟩
      · exact fun timer member => prompt timer (List.mem_of_mem_filter member)
      · refine ⟨rfl, rfl, rfl, ?_, rfl⟩
        by_cases member : timer ∈ schedule.pending
        · apply List.count_filter
          simpa [owned timer mine member] using other.symm
        · rw [List.count_eq_zero.2 member,
            List.count_eq_zero.2 fun kept => member (List.mem_of_mem_filter kept)]
  | post event =>
      have nothing (timer : TimerId) (mine : own timer = true) :
          announces receiver timer event = false := by
        by_contra announced
        simp only [announces, Bool.not_eq_false, decide_eq_true_iff] at announced
        simp [Others, announced.2.1, mine] at others
      obtain ⟨later, called, after⟩ := steps rfl ⟨prompt.late, trivial⟩
      refine ⟨_, later, called, after, ?_, ?_, fun timer mine => ?_⟩
      · split
        · rfl
        · rfl
      · split
        · exact prompt
        · exact prompt
      · split
        · refine ⟨rfl, rfl, rfl, rfl, ?_⟩
          simp [nothing timer mine]
        · exact ⟨rfl, rfl, rfl, rfl, rfl⟩
  | poll | tick | take => cases others

end Others

end IotLab.Firmware
