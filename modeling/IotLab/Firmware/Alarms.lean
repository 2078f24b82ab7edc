import IotLab.Firmware.EventDelivery
import IotLab.Firmware.EventTimers

/-!
# Event timers as alarms

A schedule of alarms counts time without end: a pending alarm is due from its deadline on, and
a poll posts the events of the due alarms, as many as the queue has room for.  An alarm that is
reset before its deadline begins in the future, and is due at once.  The timers of a node keep
such a schedule in 32-bit stamps, as long as no alarm is armed for half of the clock ahead and no
due alarm waits that long.
-/

namespace IotLab.Firmware

open IotLab.Library

variable {Process TimerId : Type}

/-! ## Schedules -/

/-- The alarms of a node; the log has the events that the queue accepted. -/
structure Schedule (Process TimerId : Type) where
  now : ℕ := 0
  began : TimerId → ℕ := fun _ => 0
  interval : TimerId → ℕ := fun _ => 0
  owner : TimerId → Option Process := fun _ => none
  pending : List TimerId := []
  queue : List (PostedEvent Process (EventData Process TimerId)) := []
  log : List (PostedEvent Process (EventData Process TimerId)) := []

namespace Schedule

variable [DecidableEq Process] [DecidableEq TimerId]

/-- When an alarm is due. -/
def deadline (schedule : Schedule Process TimerId) (id : TimerId) : ℕ :=
  schedule.began id + schedule.interval id

/-- `timer_expired`: from the deadline on, but also more than one tick before the alarm begins. -/
def Due (schedule : Schedule Process TimerId) (id : TimerId) : Prop :=
  schedule.deadline id ≤ schedule.now ∨ schedule.now + 1 < schedule.began id

instance (schedule : Schedule Process TimerId) (id : TimerId) : Decidable (schedule.Due id) :=
  inferInstanceAs (Decidable (_ ∨ _))

omit [DecidableEq Process] [DecidableEq TimerId] in
/-- An alarm that has begun is due from its deadline on. -/
theorem due_iff {schedule : Schedule Process TimerId} {id : TimerId}
    (begun : schedule.began id ≤ schedule.now) :
    schedule.Due id ↔ schedule.deadline id ≤ schedule.now :=
  or_iff_left (by omega)

/-- The event of an alarm. -/
def event (schedule : Schedule Process TimerId) (id : TimerId) :
    PostedEvent Process (EventData Process TimerId) :=
  ⟨.timer, some (.etimer id), schedule.owner id⟩

/-- Let an alarm begin at a time; a pending one keeps its place. -/
def arm (schedule : Schedule Process TimerId) (current : Process) (id : TimerId)
    (time interval : ℕ) : Schedule Process TimerId :=
  { schedule with
    began := Function.update schedule.began id time
    interval := Function.update schedule.interval id interval
    owner := Function.update schedule.owner id (some current)
    pending := if id ∈ schedule.pending then schedule.pending else id :: schedule.pending }

omit [DecidableEq Process] in
@[simp] theorem began_arm_self (schedule : Schedule Process TimerId) (current : Process)
    (id : TimerId) (time interval : ℕ) :
    (schedule.arm current id time interval).began id = time := by
  simp [arm]

omit [DecidableEq Process] in
theorem began_arm_of_ne (schedule : Schedule Process TimerId) (current : Process)
    {id other : TimerId} (different : other ≠ id) (time interval : ℕ) :
    (schedule.arm current id time interval).began other = schedule.began other := by
  simp [arm, different]

omit [DecidableEq Process] in
@[simp] theorem deadline_arm_self (schedule : Schedule Process TimerId) (current : Process)
    (id : TimerId) (time interval : ℕ) :
    (schedule.arm current id time interval).deadline id = time + interval := by
  simp [deadline, arm]

omit [DecidableEq Process] in
theorem deadline_arm_of_ne (schedule : Schedule Process TimerId) (current : Process)
    {id other : TimerId} (different : other ≠ id) (time interval : ℕ) :
    (schedule.arm current id time interval).deadline other = schedule.deadline other := by
  simp [deadline, arm, different]

omit [DecidableEq Process] in
@[simp] theorem owner_arm_self (schedule : Schedule Process TimerId) (current : Process)
    (id : TimerId) (time interval : ℕ) :
    (schedule.arm current id time interval).owner id = some current := by
  simp [arm]

omit [DecidableEq Process] in
theorem owner_arm_of_ne (schedule : Schedule Process TimerId) (current : Process)
    {id other : TimerId} (different : other ≠ id) (time interval : ℕ) :
    (schedule.arm current id time interval).owner other = schedule.owner other := by
  simp [arm, different]

omit [DecidableEq Process] in
@[simp] theorem interval_arm_self (schedule : Schedule Process TimerId) (current : Process)
    (id : TimerId) (time interval : ℕ) :
    (schedule.arm current id time interval).interval id = interval := by
  simp [arm]

omit [DecidableEq Process] in
theorem interval_arm_of_ne (schedule : Schedule Process TimerId) (current : Process)
    {id other : TimerId} (different : other ≠ id) (time interval : ℕ) :
    (schedule.arm current id time interval).interval other = schedule.interval other := by
  simp [arm, different]

omit [DecidableEq Process] in
theorem count_arm_self (schedule : Schedule Process TimerId) (current : Process) (id : TimerId)
    (time interval : ℕ) :
    (schedule.arm current id time interval).pending.count id =
      max 1 (schedule.pending.count id) := by
  rw [arm]
  dsimp only
  split
  · next member => exact (Nat.max_eq_right (List.count_pos_iff.2 member)).symm
  · next absent =>
      rw [List.count_cons_self, List.count_eq_zero.2 absent, Nat.max_eq_left (Nat.zero_le 1)]

omit [DecidableEq Process] in
theorem count_arm_of_ne (schedule : Schedule Process TimerId) (current : Process)
    {id other : TimerId} (different : other ≠ id) (time interval : ℕ) :
    (schedule.arm current id time interval).pending.count other =
      schedule.pending.count other := by
  rw [arm]
  dsimp only
  split
  · rfl
  · exact List.count_cons_of_ne different.symm

/-- The alarms whose events a poll posts. -/
def sent (schedule : Schedule Process TimerId) : List TimerId :=
  (schedule.pending.filter fun id => schedule.Due id).take (numEvents - schedule.queue.length)

/-- Post the events of the due alarms. -/
def poll (schedule : Schedule Process TimerId) : Schedule Process TimerId :=
  { schedule with
    pending := schedule.pending.filter fun id => id ∉ schedule.sent
    queue := schedule.queue ++ schedule.sent.map schedule.event
    log := schedule.log ++ schedule.sent.map schedule.event }

/-- What a step of a node means for its alarms. -/
def step (schedule : Schedule Process TimerId) :
    TimerAction Process TimerId → Option (Schedule Process TimerId)
  | .set current id interval => some (schedule.arm current id schedule.now interval)
  | .reset current id =>
      some (schedule.arm current id (schedule.deadline id) (schedule.interval id))
  | .restart current id => some (schedule.arm current id schedule.now (schedule.interval id))
  | .stop id => some { schedule with pending := schedule.pending.erase id }
  | .exited process =>
      some { schedule with
        pending := schedule.pending.filter fun id => schedule.owner id ≠ some process }
  | .poll => some schedule.poll
  | .tick missed => some { schedule with now := schedule.now + (missed + 1) }
  | .post event =>
      some (if schedule.queue.length < numEvents then
        { schedule with queue := schedule.queue ++ [event], log := schedule.log ++ [event] }
      else schedule)
  | .take => some { schedule with queue := schedule.queue.tail }

/-- No due alarm waits for half of the clock, no timer is set or reset to expire so far ahead, and
an interrupt of the clock has missed less than the 256 intervals after which its 16-bit counter
is back. -/
def Timely (schedule : Schedule Process TimerId) (action : TimerAction Process TimerId) : Prop :=
  (∀ id ∈ schedule.pending, schedule.now < schedule.deadline id + 2147483648) ∧
    match action with
    | .set _ _ interval => interval < 2147483392
    | .tick missed => missed < 256
    | .reset _ id =>
        schedule.deadline id + schedule.interval id < schedule.now + 2147483392
    | .restart _ _ | .stop _ | .exited _ | .poll | .post _ | .take => True

instance (schedule : Schedule Process TimerId) (action : TimerAction Process TimerId) :
    Decidable (schedule.Timely action) := by
  cases action <;> exact inferInstanceAs (Decidable (_ ∧ _))

end Schedule

/-! ## Stamps -/

/-- The timers keep the times of a schedule. -/
structure KeepsTime (schedule : Schedule Process TimerId)
    (timers : EventTimers Process TimerId) : Prop where
  clock : timers.count = schedule.now % clockModulus
  starts : ∀ id, (timers.timer id).start = schedule.began id % clockModulus
  intervals : ∀ id, (timers.timer id).interval = schedule.interval id
  short : ∀ id, schedule.interval id < 2147483392
  near : ∀ id, schedule.deadline id < schedule.now + 2147483392

/-- The next expiration is not after the next deadline. -/
def NextKept (schedule : Schedule Process TimerId) (timers : EventTimers Process TimerId) : Prop :=
  ∃ target, timers.nextExpiration = target % clockModulus ∧
    ∀ id ∈ timers.timerlist, schedule.now < schedule.deadline id →
      target ≤ schedule.deadline id ∧ schedule.deadline id < target + 2147483392

section Stamps

variable {schedule : Schedule Process TimerId} {timers : EventTimers Process TimerId}

/-- `timer_expired` finds the due alarms. -/
theorem KeepsTime.expired_iff (keeps : KeepsTime schedule timers) {id : TimerId}
    (late : schedule.now < schedule.deadline id + 2147483648) :
    timers.isExpired id = true ↔ schedule.Due id := by
  have short := keeps.short id
  have near := keeps.near id
  rw [EventTimers.isExpired, Timer.expired, decide_eq_true_iff, keeps.clock, keeps.starts,
    keeps.intervals, Schedule.Due]
  rw [Schedule.deadline] at late near ⊢
  rcases Nat.lt_or_ge schedule.now (schedule.began id) with ahead | begun
  · -- the difference wraps, and one more makes it zero just before the start
    have passed : clockSub (schedule.now % clockModulus) (schedule.began id % clockModulus) =
        clockModulus - (schedule.began id - schedule.now) :=
      stampSub_mod_of_lt ahead (by rw [clockModulus]; omega)
    rw [passed, toClockTime, clockModulus]
    omega
  · have passed : clockSub (schedule.now % clockModulus) (schedule.began id % clockModulus) =
        schedule.now - schedule.began id :=
      stampSub_mod_of_le begun (by rw [clockModulus]; omega)
    rw [passed, toClockTime]
    omega

/-- The distance of an alarm is the time to its deadline. -/
theorem KeepsTime.distance_eq (keeps : KeepsTime schedule timers) {id : TimerId}
    (ahead : schedule.now < schedule.deadline id) :
    (timers.timer id).distance timers.count = schedule.deadline id - schedule.now := by
  have soon := keeps.near id
  have near : schedule.deadline id - schedule.now < clockModulus := by
    rw [clockModulus]
    omega
  have stamp : toClockTime ((timers.timer id).start + (timers.timer id).interval) =
      schedule.deadline id % clockModulus := by
    rw [keeps.starts, keeps.intervals, toClockTime, clockModulus, Nat.mod_add_mod,
      Schedule.deadline]
  rw [Timer.distance, stamp, keeps.clock]
  exact stampSub_mod_of_le ahead.le near

/-- The loop of `update_time` finds a least distance. -/
theorem leastDistance_le (first : TimerId) (rest : List TimerId) :
    ∀ id ∈ first :: rest,
      timers.leastDistance first rest ≤ (timers.timer id).distance timers.count := by
  have loop (start : ℕ) (ids : List TimerId) :
      ids.foldl
          (fun tdist id =>
            if (timers.timer id).distance timers.count < tdist then
              (timers.timer id).distance timers.count
            else tdist)
          start ≤ start ∧
        ∀ id ∈ ids,
          ids.foldl
              (fun tdist id =>
                if (timers.timer id).distance timers.count < tdist then
                  (timers.timer id).distance timers.count
                else tdist)
              start ≤ (timers.timer id).distance timers.count := by
    induction ids generalizing start with
    | nil => simp
    | cons next others ih =>
        rw [List.foldl_cons, List.forall_mem_cons]
        split
        · next less =>
            obtain ⟨least, all⟩ := ih ((timers.timer next).distance timers.count)
            exact ⟨least.trans less.le, least, all⟩
        · next more =>
            obtain ⟨least, all⟩ := ih start
            exact ⟨least, least.trans (not_lt.1 more), all⟩
  obtain ⟨least, all⟩ := loop ((timers.timer first).distance timers.count) rest
  rw [List.forall_mem_cons]
  exact ⟨least, all⟩

theorem KeepsTime.updateTime (keeps : KeepsTime schedule timers) :
    KeepsTime schedule timers.updateTime := by
  rw [EventTimers.updateTime]
  split
  · exact ⟨keeps.clock, keeps.starts, keeps.intervals, keeps.short, keeps.near⟩
  · exact ⟨keeps.clock, keeps.starts, keeps.intervals, keeps.short, keeps.near⟩

/-- After `update_time` the next expiration is right. -/
theorem KeepsTime.nextKept_updateTime (keeps : KeepsTime schedule timers) :
    NextKept schedule timers.updateTime := by
  have bound (target : ℕ) (later : schedule.now ≤ target) (id : TimerId) :
      schedule.deadline id < target + 2147483392 := by
    have near := keeps.near id
    omega
  rw [EventTimers.updateTime]
  split
  · next empty =>
      refine ⟨0, rfl, fun id member => ?_⟩
      simp only [empty, List.not_mem_nil] at member
  · next first rest list =>
      refine ⟨schedule.now + timers.leastDistance first rest, ?_, fun id member ahead =>
        ⟨?_, bound _ (Nat.le_add_right _ _) id⟩⟩
      · show toClockTime (timers.count + timers.leastDistance first rest) = _
        rw [keeps.clock, toClockTime, clockModulus, Nat.mod_add_mod]
      · have nearest : timers.leastDistance first rest ≤ (timers.timer id).distance timers.count :=
          leastDistance_le first rest id (list ▸ member)
        rw [keeps.distance_eq ahead] at nearest
        omega

end Stamps

/-! ## The loop of a poll -/

section Dismissal

variable (timers : EventTimers Process TimerId)

@[simp] theorem EventTimers.updateTime_timer : timers.updateTime.timer = timers.timer := by
  rw [EventTimers.updateTime]
  split <;> rfl

@[simp] theorem EventTimers.updateTime_count : timers.updateTime.count = timers.count := by
  rw [EventTimers.updateTime]
  split <;> rfl

@[simp] theorem EventTimers.updateTime_p : timers.updateTime.p = timers.p := by
  rw [EventTimers.updateTime]
  split <;> rfl

@[simp] theorem EventTimers.updateTime_timerlist :
    timers.updateTime.timerlist = timers.timerlist := by
  rw [EventTimers.updateTime]
  split <;> rfl

variable [DecidableEq TimerId]

theorem EventTimers.dismiss_timerlist (id : TimerId) :
    (timers.dismiss id).timerlist = timers.timerlist.erase id := by
  simp [EventTimers.dismiss]

theorem EventTimers.dismiss_isExpired (id : TimerId) :
    (timers.dismiss id).isExpired = timers.isExpired := by
  funext other
  simp [EventTimers.isExpired, EventTimers.dismiss]

theorem EventTimers.dismiss_timerEvent {id other : TimerId} (different : other ≠ id) :
    (timers.dismiss id).timerEvent other = timers.timerEvent other := by
  simp [EventTimers.timerEvent, EventTimers.dismiss, Function.update_of_ne different]

theorem EventTimers.foldl_dismiss_timerlist (ids : List TimerId) :
    (ids.foldl EventTimers.dismiss timers).timerlist = timers.timerlist.diff ids := by
  induction ids generalizing timers with
  | nil => rfl
  | cons id rest ih => rw [List.foldl_cons, ih, EventTimers.dismiss_timerlist, List.diff_cons]

theorem EventTimers.foldl_dismiss_p {ids : List TimerId} {id : TimerId} (kept : id ∉ ids) :
    (ids.foldl EventTimers.dismiss timers).p id = timers.p id := by
  induction ids generalizing timers with
  | nil => rfl
  | cons first rest ih =>
      rw [List.mem_cons, not_or] at kept
      rw [List.foldl_cons, ih _ kept.2]
      simp [EventTimers.dismiss, Function.update_of_ne kept.1]

/-- The timers that `timer_expired` reports, in the order of the list. -/
def EventTimers.expiredTimers (timers : EventTimers Process TimerId) : List TimerId :=
  timers.timerlist.filter timers.isExpired

/-- The timers whose events find room in the queue. -/
def EventTimers.sent (timers : EventTimers Process TimerId) (waiting : ℕ) : List TimerId :=
  timers.expiredTimers.take (numEvents - waiting)

theorem EventTimers.expiredTimers_dismiss {timers : EventTimers Process TimerId} {id : TimerId}
    {others : List TimerId} (nodup : timers.timerlist.Nodup)
    (expired : timers.expiredTimers = id :: others) :
    (timers.dismiss id).expiredTimers = others := by
  have distinct : (id :: others).Nodup := expired ▸ nodup.filter _
  rw [EventTimers.expiredTimers] at expired ⊢
  rw [EventTimers.dismiss_isExpired, EventTimers.dismiss_timerlist, nodup.erase_eq_filter,
    List.filter_comm, expired, ← distinct.erase_eq_filter, List.erase_cons_head]

end Dismissal

section Loop

variable [DecidableEq Process] [DecidableEq TimerId] {etimerProcess : Process}

/-- What a poll does: it posts the events of the timers in `sent`, dismisses them, and asks for
another poll when expired timers are left. -/
structure PolledTimers (etimerProcess : Process) (timers : EventTimers Process TimerId)
    (node result : TimerNode Process TimerId) (sent : List TimerId) : Prop where
  memory : result.memory = sent.foldl EventTimers.dismiss timers
  contents : result.events.contents = node.events.contents ++ sent.map timers.timerEvent
  log : acceptedEvents result.trace = acceptedEvents node.trace ++ sent.map timers.timerEvent
  running : result.running = node.running
  asks : sent.length < timers.expiredTimers.length → result.needspoll etimerProcess = true

theorem exec_scan_idle {timers : EventTimers Process TimerId}
    {again : EventTimers Process TimerId →
      Program Process (EventData Process TimerId) (EventTimers Process TimerId)}
    {rest : List TimerId} (node : TimerNode Process TimerId)
    (idle : ∀ id ∈ rest, timers.isExpired id = false) :
    Kernel.exec (timers.scan etimerProcess again rest) node = { node with memory := timers } := by
  induction rest with
  | nil => rfl
  | cons id rest ih =>
      rw [List.forall_mem_cons] at idle
      rw [EventTimers.scan, if_neg (by simp [idle.1])]
      exact ih idle.2

/-- The loop posts the event of the first timer that has expired. -/
theorem exec_scan_post {timers : EventTimers Process TimerId}
    {again : EventTimers Process TimerId →
      Program Process (EventData Process TimerId) (EventTimers Process TimerId)}
    {rest others : List TimerId} {id : TimerId} {node : TimerNode Process TimerId}
    (found : rest.filter timers.isExpired = id :: others)
    (room : (node.processPost (timers.timerEvent id)).1 = true) :
    Kernel.exec (timers.scan etimerProcess again rest) node =
      Kernel.exec (again (timers.dismiss id)) (node.processPost (timers.timerEvent id)).2 := by
  induction rest with
  | nil => cases found
  | cons first rest ih =>
      rw [EventTimers.scan]
      by_cases expired : timers.isExpired first = true
      · rw [List.filter_cons_of_pos expired] at found
        obtain ⟨rfl, -⟩ := List.cons.inj found
        rw [if_pos expired, Kernel.exec, room, if_pos rfl]
      · rw [List.filter_cons_of_neg expired] at found
        rw [if_neg expired]
        exact ih found

/-- When the queue is full the loop only asks for another poll. -/
theorem exec_scan_full (timers : EventTimers Process TimerId)
    (again : EventTimers Process TimerId →
      Program Process (EventData Process TimerId) (EventTimers Process TimerId))
    (rest : List TimerId) {node : TimerNode Process TimerId}
    (running : node.running etimerProcess = true)
    (full : node.events.contents.length = numEvents) :
    (Kernel.exec (timers.scan etimerProcess again rest) node).memory = timers ∧
      (Kernel.exec (timers.scan etimerProcess again rest) node).events = node.events ∧
      acceptedEvents (Kernel.exec (timers.scan etimerProcess again rest) node).trace =
        acceptedEvents node.trace ∧
      (Kernel.exec (timers.scan etimerProcess again rest) node).running = node.running ∧
      ((node.needspoll etimerProcess = true ∨
          ∃ id ∈ rest, timers.isExpired id = true) →
        (Kernel.exec (timers.scan etimerProcess again rest) node).needspoll etimerProcess =
          true) := by
  induction rest generalizing node with
  | nil => exact ⟨rfl, rfl, rfl, rfl, fun asked => asked.resolve_right (by simp)⟩
  | cons first rest ih =>
      rw [EventTimers.scan]
      by_cases expired : timers.isExpired first = true
      · have refused : node.processPost (timers.timerEvent first) =
            (false, node.record (.refused (timers.timerEvent first))) := by
          rw [Kernel.processPost, CountedRing.put_eq_none.2 full]
        rw [if_pos expired, Kernel.exec, refused, if_neg Bool.false_ne_true, Kernel.exec]
        obtain ⟨memory, events, log, same, asks⟩ := @ih
          ((node.record (.refused (timers.timerEvent first))).processPoll etimerProcess)
          (by rwa [Kernel.processPoll_running]) (by rwa [Kernel.processPoll_events])
        rw [Kernel.processPoll_events] at events
        rw [Kernel.acceptedEvents_processPoll] at log
        rw [Kernel.processPoll_running] at same
        refine ⟨memory, events, ?_, same, fun _ => asks (.inl ?_)⟩
        · rw [log, Kernel.record, acceptedEvents_concat]
          exact List.append_nil _
        · exact Kernel.needspoll_processPoll running
      · rw [if_neg expired]
        obtain ⟨memory, events, log, same, asks⟩ := ih running full
        refine ⟨memory, events, log, same, fun asked => asks (asked.imp_right ?_)⟩
        rintro ⟨id, member, due⟩
        rcases List.mem_cons.1 member with rfl | inside
        · exact absurd due expired
        · exact ⟨id, inside, due⟩

theorem exec_pollTimers {turns : ℕ} {timers : EventTimers Process TimerId}
    {node : TimerNode Process TimerId} (enough : timers.timerlist.length < turns)
    (nodup : timers.timerlist.Nodup) (running : node.running etimerProcess = true) :
    PolledTimers etimerProcess timers node
      (Kernel.exec (EventTimers.pollTimers etimerProcess turns timers) node)
      (timers.sent node.events.contents.length) := by
  induction turns generalizing timers node with
  | zero => omega
  | succ turns ih =>
      rw [EventTimers.pollTimers]
      cases expired : timers.expiredTimers with
      | nil =>
          have idle : ∀ id ∈ timers.timerlist, timers.isExpired id = false := fun id member =>
            Bool.not_eq_true _ ▸ List.filter_eq_nil_iff.1 expired id member
          rw [exec_scan_idle node idle, EventTimers.sent, expired, List.take_nil]
          exact ⟨rfl, (List.append_nil _).symm, (List.append_nil _).symm, rfl,
            fun more => absurd more (by simp [expired])⟩
      | cons id others =>
          by_cases full : node.events.contents.length = numEvents
          · obtain ⟨memory, events, log, same, asks⟩ := exec_scan_full timers
              (EventTimers.pollTimers etimerProcess turns) timers.timerlist running full
            rw [EventTimers.sent, full, Nat.sub_self, List.take_zero]
            have first : id ∈ timers.timerlist ∧ timers.isExpired id = true :=
              List.mem_filter.1 (expired ▸ List.mem_cons_self : id ∈ timers.expiredTimers)
            refine ⟨memory, ?_, ?_, same, fun _ => asks (.inr ⟨id, first⟩)⟩
            · rw [events, List.map_nil, List.append_nil]
            · rw [log, List.map_nil, List.append_nil]
          · cases added : node.events.put (timers.timerEvent id) with
            | none => exact absurd (CountedRing.put_eq_none.1 added) full
            | some events =>
                have contents := CountedRing.contents_put added
                have posted : node.processPost (timers.timerEvent id) =
                    (true, { node.record (.accepted (timers.timerEvent id)) with events }) := by
                  rw [Kernel.processPost, added]
                have member : id ∈ timers.timerlist :=
                  List.mem_of_mem_filter
                    (expired ▸ List.mem_cons_self : id ∈ timers.expiredTimers)
                have distinct : (id :: others).Nodup := expired ▸ nodup.filter _
                have rest := EventTimers.expiredTimers_dismiss nodup expired
                have later := @ih (timers.dismiss id)
                  { node.record (.accepted (timers.timerEvent id)) with events }
                  (by
                    rw [EventTimers.dismiss_timerlist, List.length_erase_of_mem member]
                    have some_ := List.length_pos_of_mem member
                    omega)
                  (by
                    rw [EventTimers.dismiss_timerlist]
                    exact nodup.erase id)
                  running
                have length : events.contents.length = node.events.contents.length + 1 := by
                  rw [contents, List.length_append, List.length_singleton]
                have sent : timers.sent node.events.contents.length =
                    id :: (timers.dismiss id).sent events.contents.length := by
                  have inside := node.events.countInside
                  rw [← CountedRing.length_contents] at inside
                  have room : numEvents - node.events.contents.length =
                      numEvents - events.contents.length + 1 := by omega
                  rw [EventTimers.sent, EventTimers.sent, expired, rest, room, List.take_succ_cons]
                have same : ((timers.dismiss id).sent events.contents.length).map
                    (timers.dismiss id).timerEvent =
                    ((timers.dismiss id).sent events.contents.length).map timers.timerEvent := by
                  apply List.map_congr_left
                  intro other inside
                  apply EventTimers.dismiss_timerEvent
                  rintro rfl
                  rw [EventTimers.sent, rest] at inside
                  exact (List.nodup_cons.1 distinct).1 (List.mem_of_mem_take inside)
                rw [exec_scan_post expired (by rw [posted]), posted, sent]
                refine ⟨later.memory, ?_, ?_, later.running, fun more => later.asks ?_⟩
                · rw [later.contents, same, contents, List.map_cons, List.append_assoc]
                  rfl
                · rw [later.log, same, Kernel.record, acceptedEvents_concat, List.map_cons,
                    List.append_assoc]
                  rfl
                · rw [expired, List.length_cons, List.length_cons] at more
                  rw [rest]
                  exact Nat.lt_of_succ_lt_succ more

end Loop

end IotLab.Firmware
