import IotLab.Firmware.DataTurns

/-!
# One data message in each period

As long as the main loop is done before the clock ticks, the wait for a random time ends once
in each period: `period_timer` expires without drift, and the wait that it begins is over before
it expires again.  After a new period both timers begin together, so that the first of the new
periods with a message may have two.
-/

namespace IotLab.Firmware

open IotLab.Library

/-- The schedule of a sender's alarms. -/
abbrev SenderSchedule := Schedule SenderProcess SenderTimer

/-- A stretch of time with one period, in ticks; `early` is one if the wait timer was set at
its start. -/
structure Epoch where
  start : ℕ
  length : ℕ
  early : ℕ
  positive : 0 < length
  short : length < 2147483392

namespace Epoch

variable (epoch : Epoch)

/-- The number of entries of a log in a period of the epoch. -/
def slots (log : List (ℕ × Bool)) (index : ℕ) : ℕ :=
  slotsIn log epoch.start epoch.length index

/-- How many entries a period may have beyond the first. -/
def extra (index : ℕ) : ℕ := if index = 1 then epoch.early else 0

/-- A time at which a wait may end when `index` periods are over: in the current period, or at
the end of the first one. -/
def Within (index time : ℕ) : Prop :=
  epoch.start + epoch.length ≤ time ∧
    (time < epoch.start + (index + 1) * epoch.length ∨
      index = 0 ∧ time = epoch.start + epoch.length)

variable {epoch}

theorem slots_concat (log : List (ℕ × Bool)) (slot : ℕ × Bool) (index : ℕ) :
    epoch.slots (log ++ [slot]) index =
      epoch.slots log index + if (slot.1 - epoch.start) / epoch.length = index then 1 else 0 := by
  simp [slots, slotsIn]

theorem div_eq {time index : ℕ} (after : epoch.start + index * epoch.length ≤ time)
    (before : time < epoch.start + (index + 1) * epoch.length) :
    (time - epoch.start) / epoch.length = index := by
  apply Nat.div_eq_of_lt_le
  · omega
  · omega

theorem div_first : (epoch.start + epoch.length - epoch.start) / epoch.length = 1 := by
  rw [Nat.add_sub_cancel_left, Nat.div_self epoch.positive]

theorem Within.succ {index time : ℕ} (within : epoch.Within index time) :
    epoch.Within (index + 1) time := by
  refine ⟨within.1, .inl ?_⟩
  have more : (index + 1 + 1) * epoch.length = (index + 1) * epoch.length + epoch.length :=
    Nat.succ_mul _ _
  have positive := epoch.positive
  rcases within.2 with earlier | ⟨rfl, rfl⟩
  · omega
  · omega

/-- Entries that are within the current period leave the later ones empty. -/
theorem slots_eq_zero {log : List (ℕ × Bool)} {index later : ℕ}
    (logged : ∀ slot ∈ log, epoch.Within index slot.1) (ahead : index < later)
    (one : index = 0 → later ≠ 1) : epoch.slots log later = 0 := by
  rw [slots, slotsIn, List.countP_eq_zero]
  intro slot member
  rw [decide_eq_true_iff]
  rintro rfl
  rcases (logged slot member).2 with before | ⟨rfl, same⟩
  · have small : (slot.1 - epoch.start) / epoch.length < index + 1 := by
      rw [Nat.div_lt_iff_lt_mul epoch.positive]
      have first := (logged slot member).1
      omega
    omega
  · exact one rfl (by rw [same, div_first])

theorem slots_zero {log : List (ℕ × Bool)} {index : ℕ}
    (logged : ∀ slot ∈ log, epoch.Within index slot.1) : epoch.slots log 0 = 0 := by
  rw [slots, slotsIn, List.countP_eq_zero]
  intro slot member
  rw [decide_eq_true_iff, Nat.div_eq_zero_iff]
  have first := (logged slot member).1
  have positive := epoch.positive
  omega

end Epoch

/-! ## The invariant -/

/-- The schedule and the log of an epoch in which `index` periods are over. -/
structure Keeps (epoch : Epoch) (index : ℕ) (schedule : SenderSchedule)
    (log : List (ℕ × Bool)) : Prop where
  prompt : schedule.Prompt
  begun : epoch.start + index * epoch.length ≤ schedule.now
  periodOwner : schedule.owner .periodTimer = some .udpClient
  periodInterval : schedule.interval .periodTimer = epoch.length
  periodBegan : schedule.began .periodTimer ≤ schedule.now
  periodDue : schedule.deadline .periodTimer = epoch.start + (index + 1) * epoch.length
  periodOnce : schedule.occurrences .udpClient .periodTimer = 1
  periodHeard : 0 < schedule.queue.countP (announces .udpClient .periodTimer) →
    schedule.now = epoch.start + (index + 1) * epoch.length
  waitOwner : .waitTimer ∈ schedule.pending → schedule.owner .waitTimer = some .udpClient
  waitBegan : schedule.began .waitTimer ≤ schedule.now
  waitDue : .waitTimer ∈ schedule.pending → epoch.Within index (schedule.deadline .waitTimer)
  waitHeard : 0 < schedule.queue.countP (announces .udpClient .waitTimer) →
    epoch.Within index schedule.now
  logged : ∀ slot ∈ log, epoch.Within index slot.1
  first : index = 0 → epoch.slots log 1 + schedule.occurrences .udpClient .waitTimer ≤ epoch.early
  current : 0 < index →
    1 ≤ epoch.slots log index + schedule.occurrences .udpClient .waitTimer ∧
      epoch.slots log index + schedule.occurrences .udpClient .waitTimer ≤ 1 + epoch.extra index
  past : ∀ earlier, 0 < earlier → earlier < index →
    1 ≤ epoch.slots log earlier ∧ epoch.slots log earlier ≤ 1 + epoch.extra earlier

namespace Keeps

variable {epoch : Epoch} {index : ℕ} {schedule next : SenderSchedule} {log : List (ℕ × Bool)}

theorem now_le (keeps : Keeps epoch index schedule log) :
    schedule.now ≤ epoch.start + (index + 1) * epoch.length := by
  have once := keeps.periodOnce
  rw [Schedule.occurrences] at once
  rcases Nat.eq_zero_or_pos (schedule.pending.count .periodTimer) with none | some_
  · exact (keeps.periodHeard (by omega)).le
  · exact keeps.periodDue ▸ keeps.prompt _ (List.count_pos_iff.1 some_)

end Keeps

/-! ## The other modules and processes -/

namespace Keeps

variable {epoch : Epoch} {index : ℕ} {schedule next : SenderSchedule} {log : List (ℕ × Bool)}

theorem congr (keeps : Keeps epoch index schedule log) (now : next.now = schedule.now)
    (prompt : next.Prompt) (period : Undisturbed .udpClient schedule next .periodTimer)
    (wait : Undisturbed .udpClient schedule next .waitTimer) : Keeps epoch index next log where
  prompt := prompt
  begun := now ▸ keeps.begun
  periodOwner := period.owner.trans keeps.periodOwner
  periodInterval := period.interval.trans keeps.periodInterval
  periodBegan := period.began.trans_le (now ▸ keeps.periodBegan)
  periodDue := period.deadline.trans keeps.periodDue
  periodOnce := period.occurrences.trans keeps.periodOnce
  periodHeard heard := now.trans (keeps.periodHeard (period.queue ▸ heard))
  waitOwner member := wait.owner.trans (keeps.waitOwner (wait.mem_iff.1 member))
  waitBegan := wait.began.trans_le (now ▸ keeps.waitBegan)
  waitDue member := wait.deadline ▸ keeps.waitDue (wait.mem_iff.1 member)
  waitHeard heard := now ▸ keeps.waitHeard (wait.queue ▸ heard)
  logged := keeps.logged
  first start := wait.occurrences ▸ keeps.first start
  current started := wait.occurrences ▸ keeps.current started
  past := keeps.past

theorem owned (keeps : Keeps epoch index schedule log) :
    schedule.Owned .udpClient SenderTimer.ofData := by
  intro timer mine member
  cases timer with
  | periodTimer => exact keeps.periodOwner
  | waitTimer => exact keeps.waitOwner member
  | other => cases mine

end Keeps

/-! ## A turn of the main loop -/

namespace Keeps

variable {epoch : Epoch} {index : ℕ} {schedule : SenderSchedule} {log : List (ℕ × Bool)}

theorem poll (keeps : Keeps epoch index schedule log) (nodup : schedule.pending.Nodup) :
    Keeps epoch index schedule.poll log := by
  have kept {timer : SenderTimer} (member : timer ∈ schedule.poll.pending) :
      timer ∈ schedule.pending := List.mem_of_mem_filter member
  have wait := Schedule.occurrences_poll nodup keeps.waitOwner
  refine
    { prompt := fun timer member => keeps.prompt timer (kept member)
      begun := keeps.begun
      periodOwner := keeps.periodOwner
      periodInterval := keeps.periodInterval
      periodBegan := keeps.periodBegan
      periodDue := keeps.periodDue
      periodOnce :=
        (Schedule.occurrences_poll nodup fun _ => keeps.periodOwner).trans keeps.periodOnce
      periodHeard := fun heard => ?_
      waitOwner := fun member => keeps.waitOwner (kept member)
      waitBegan := keeps.waitBegan
      waitDue := fun member => keeps.waitDue (kept member)
      waitHeard := fun heard => ?_
      logged := keeps.logged
      first := fun start => wait ▸ keeps.first start
      current := fun started => wait ▸ keeps.current started
      past := keeps.past }
  · rcases Schedule.heard_poll (fun _ => keeps.periodOwner) keeps.periodBegan heard with
      before | ⟨member, due⟩
    · exact keeps.periodHeard before
    · exact (due.antisymm (keeps.prompt _ member)).symm.trans keeps.periodDue
  · rcases Schedule.heard_poll keeps.waitOwner keeps.waitBegan heard with before | ⟨member, due⟩
    · exact keeps.waitHeard before
    · exact due.antisymm (keeps.prompt _ member) ▸ keeps.waitDue member

/-- A wait that is over is one entry of the log. -/
theorem wait (keeps : Keeps epoch index schedule log) {event : SenderEvent}
    {rest : List SenderEvent} (queue : schedule.queue = event :: rest)
    (concerned : announces .udpClient .waitTimer event = true) (sent : Bool) :
    Keeps epoch index { schedule with queue := rest } (log ++ [(schedule.now, sent)]) := by
  have period : Undisturbed .udpClient schedule { schedule with queue := rest } .periodTimer :=
    ⟨rfl, rfl, rfl, rfl, by
      rw [queue, List.countP_cons_of_neg (Bool.not_eq_true _ ▸ announces_unique concerned nofun)]⟩
  have taken : Schedule.occurrences { schedule with queue := rest } .udpClient .waitTimer + 1 =
      schedule.occurrences .udpClient .waitTimer := by
    rw [Schedule.occurrences, Schedule.occurrences, queue, List.countP_cons_of_pos concerned,
      Nat.add_assoc]
  have heard : 0 < schedule.queue.countP (announces .udpClient .waitTimer) := by
    rw [queue, List.countP_cons_of_pos concerned]
    exact Nat.succ_pos _
  have within := keeps.waitHeard heard
  have entry : (schedule.now - epoch.start) / epoch.length = max 1 index := by
    rcases within.2 with before | ⟨rfl, ended⟩
    · have positive : 0 < index := by
        by_contra none
        rw [Nat.eq_zero_of_not_pos none, Nat.zero_add, Nat.one_mul] at before
        exact absurd within.1 (Nat.not_le_of_lt before)
      rw [Epoch.div_eq keeps.begun before, Nat.max_eq_right positive]
    · rw [ended, Epoch.div_first]
      rfl
  refine
    { prompt := keeps.prompt
      begun := keeps.begun
      periodOwner := keeps.periodOwner
      periodInterval := keeps.periodInterval
      periodBegan := keeps.periodBegan
      periodDue := keeps.periodDue
      periodOnce := period.occurrences.trans keeps.periodOnce
      periodHeard := fun heard => keeps.periodHeard (period.queue ▸ heard)
      waitOwner := keeps.waitOwner
      waitBegan := keeps.waitBegan
      waitDue := keeps.waitDue
      waitHeard := fun _ => within
      logged := fun slot member => ?_
      first := fun start => ?_
      current := fun started => ?_
      past := fun earlier positive before => ?_ }
  · rcases List.mem_append.1 member with old | new
    · exact keeps.logged slot old
    · rw [List.mem_singleton.1 new]
      exact within
  · have before := keeps.first start
    rw [Epoch.slots_concat, entry, start, Nat.max_eq_left (Nat.zero_le 1), if_pos rfl]
    omega
  · have before := keeps.current started
    rw [Epoch.slots_concat, entry, Nat.max_eq_right started, if_pos rfl]
    omega
  · rw [Epoch.slots_concat, entry, Nat.max_eq_right (positive.trans before),
      if_neg (Nat.ne_of_gt before)]
    exact keeps.past earlier positive before

/-- At the end of a period the wait that it began is over. -/
theorem occurrences_wait (keeps : Keeps epoch index schedule log) (started : 0 < index)
    (ended : schedule.now = epoch.start + (index + 1) * epoch.length) :
    schedule.occurrences .udpClient .waitTimer = 0 := by
  have earlier {time : ℕ} (within : epoch.Within index time) :
      time < epoch.start + (index + 1) * epoch.length :=
    within.2.resolve_right fun none => absurd none.1 (Nat.ne_of_gt started)
  rw [Schedule.occurrences, Nat.add_eq_zero_iff, List.count_eq_zero]
  constructor
  · intro member
    have due := earlier (keeps.waitDue member)
    have ahead := keeps.prompt _ member
    omega
  · by_contra heard
    have before := earlier (keeps.waitHeard (Nat.pos_of_ne_zero heard))
    omega

end Keeps

/-! ## Both timers of the module -/

namespace Schedule

variable (schedule : SenderSchedule) (time interval random : ℕ)

/-- Arm the alarm of the period, and then that of the wait from now on. -/
def armBoth : SenderSchedule :=
  (schedule.arm .udpClient .periodTimer time interval).arm .udpClient .waitTimer schedule.now random

theorem periodTimer_ne_waitTimer : SenderTimer.periodTimer ≠ .waitTimer := nofun

theorem armBoth_owner_period :
    (schedule.armBoth time interval random).owner .periodTimer = some .udpClient := by
  rw [armBoth, owner_arm_of_ne _ _ periodTimer_ne_waitTimer, owner_arm_self]

theorem armBoth_owner_wait :
    (schedule.armBoth time interval random).owner .waitTimer = some .udpClient := by
  rw [armBoth, owner_arm_self]

theorem armBoth_interval_period :
    (schedule.armBoth time interval random).interval .periodTimer = interval := by
  rw [armBoth, interval_arm_of_ne _ _ periodTimer_ne_waitTimer, interval_arm_self]

theorem armBoth_began_period :
    (schedule.armBoth time interval random).began .periodTimer = time := by
  rw [armBoth, began_arm_of_ne _ _ periodTimer_ne_waitTimer, began_arm_self]

theorem armBoth_began_wait :
    (schedule.armBoth time interval random).began .waitTimer = schedule.now := by
  rw [armBoth, began_arm_self]

theorem armBoth_deadline_period :
    (schedule.armBoth time interval random).deadline .periodTimer = time + interval := by
  rw [armBoth, deadline_arm_of_ne _ _ periodTimer_ne_waitTimer, deadline_arm_self]

theorem armBoth_deadline_wait :
    (schedule.armBoth time interval random).deadline .waitTimer = schedule.now + random := by
  rw [armBoth, deadline_arm_self]

theorem armBoth_count_period :
    (schedule.armBoth time interval random).pending.count .periodTimer =
      max 1 (schedule.pending.count .periodTimer) := by
  rw [armBoth, count_arm_of_ne _ _ periodTimer_ne_waitTimer, count_arm_self]

theorem armBoth_count_wait :
    (schedule.armBoth time interval random).pending.count .waitTimer =
      max 1 (schedule.pending.count .waitTimer) := by
  rw [armBoth, count_arm_self, count_arm_of_ne _ _ periodTimer_ne_waitTimer.symm]

variable {schedule time interval}

theorem armBoth_prompt (due : schedule.now ≤ time + interval)
    (prompt : schedule.Prompt) :
    (schedule.armBoth time interval random).Prompt :=
  (prompt.arm _ _ due).arm _ _ (Nat.le_add_right _ _)

end Schedule

namespace Keeps

variable {epoch : Epoch} {index : ℕ} {schedule : SenderSchedule} {log : List (ℕ × Bool)}

/-- The event of the period begins the next one and its wait. -/
theorem period (keeps : Keeps epoch index schedule log) {event : SenderEvent}
    {rest : List SenderEvent} (queue : schedule.queue = event :: rest)
    (concerned : announces .udpClient .periodTimer event = true) {random : ℕ}
    (below : random < epoch.length) :
    Keeps epoch (index + 1)
      (Schedule.armBoth { schedule with queue := rest } (schedule.deadline .periodTimer)
        (schedule.interval .periodTimer) random) log := by
  have once := keeps.periodOnce
  rw [Schedule.occurrences, queue, List.countP_cons_of_pos concerned] at once
  have ended : schedule.now = epoch.start + (index + 1) * epoch.length := by
    apply keeps.periodHeard
    rw [queue, List.countP_cons_of_pos concerned]
    exact Nat.succ_pos _
  have more : (index + 1 + 1) * epoch.length = (index + 1) * epoch.length + epoch.length :=
    Nat.succ_mul _ _
  have whole : epoch.length ≤ (index + 1) * epoch.length := Nat.le_mul_of_pos_left _ index.succ_pos
  have quiet : rest.countP (announces .udpClient .periodTimer) = 0 := by omega
  have same : rest.countP (announces .udpClient .waitTimer) =
      schedule.queue.countP (announces .udpClient .waitTimer) := by
    rw [queue, List.countP_cons_of_neg]
    rw [announces_unique concerned Schedule.periodTimer_ne_waitTimer.symm]
    exact Bool.false_ne_true
  have waits := Schedule.armBoth_count_wait { schedule with queue := rest }
    (schedule.deadline .periodTimer) (schedule.interval .periodTimer) random
  refine
    { prompt := ?_
      begun := ended.ge
      periodOwner := Schedule.armBoth_owner_period _ _ _ _
      periodInterval := (Schedule.armBoth_interval_period _ _ _ _).trans keeps.periodInterval
      periodBegan := ?_
      periodDue := ?_
      periodOnce := ?_
      periodHeard := fun heard => absurd quiet (Nat.ne_of_gt heard)
      waitOwner := fun _ => Schedule.armBoth_owner_wait _ _ _ _
      waitBegan := (Schedule.armBoth_began_wait _ _ _ _).le
      waitDue := fun _ => ?_
      waitHeard := fun heard => (keeps.waitHeard (same ▸ heard)).succ
      logged := fun slot member => (keeps.logged slot member).succ
      first := fun zero => absurd zero index.succ_ne_zero
      current := fun _ => ?_
      past := fun earlier positive before => ?_ }
  · refine Schedule.armBoth_prompt random ?_ keeps.prompt
    rw [keeps.periodDue]
    exact keeps.now_le.trans (Nat.le_add_right _ _)
  · rw [Schedule.armBoth_began_period, keeps.periodDue]
    exact ended.ge
  · rw [Schedule.armBoth_deadline_period, keeps.periodInterval, keeps.periodDue, more,
      Nat.add_assoc]
  · have counted := Schedule.armBoth_count_period { schedule with queue := rest }
      (schedule.deadline .periodTimer) (schedule.interval .periodTimer) random
    refine congrArg₂ (· + ·) (counted.trans ?_) quiet
    exact Nat.max_eq_left (by dsimp only; omega)
  · rw [Schedule.armBoth_deadline_wait, Epoch.Within]
    dsimp only
    omega
  · have counted : (Schedule.armBoth { schedule with queue := rest }
        (schedule.deadline .periodTimer) (schedule.interval .periodTimer) random).occurrences
          .udpClient .waitTimer = max 1 (schedule.pending.count .waitTimer) +
            schedule.queue.countP (announces .udpClient .waitTimer) := congrArg₂ (· + ·) waits same
    rw [counted]
    rcases Nat.eq_zero_or_pos index with rfl | started
    · have before := keeps.first rfl
      rw [Schedule.occurrences] at before
      rw [Nat.zero_add, Epoch.extra, if_pos rfl]
      omega
    · have ended := keeps.occurrences_wait started ended
      have empty := Epoch.slots_eq_zero keeps.logged (Nat.lt_add_one index)
        fun none => absurd none (Nat.ne_of_gt started)
      rw [Schedule.occurrences] at ended
      omega
  · rcases Nat.lt_succ_iff_lt_or_eq.1 before with sooner | rfl
    · exact keeps.past earlier positive sooner
    · have complete := keeps.current positive
      rwa [keeps.occurrences_wait positive ended, Nat.add_zero] at complete

/-- The clock ticks when nothing is due and no event waits. -/
theorem tick (keeps : Keeps epoch index schedule log) (idle : schedule.queue = [])
    (ahead : ∀ timer ∈ schedule.pending, schedule.now < schedule.deadline timer) :
    Keeps epoch index { schedule with now := schedule.now + 1 } log := by
  have quiet (timer : SenderTimer) : ¬ 0 < schedule.queue.countP (announces .udpClient timer) := by
    rw [idle]
    exact Nat.lt_irrefl 0
  exact
    { prompt := ahead
      begun := keeps.begun.trans (Nat.le_succ _)
      periodOwner := keeps.periodOwner
      periodInterval := keeps.periodInterval
      periodBegan := keeps.periodBegan.trans (Nat.le_succ _)
      periodDue := keeps.periodDue
      periodOnce := keeps.periodOnce
      periodHeard := fun heard => absurd heard (quiet _)
      waitOwner := keeps.waitOwner
      waitBegan := keeps.waitBegan.trans (Nat.le_succ _)
      waitDue := keeps.waitDue
      waitHeard := fun heard => absurd heard (quiet _)
      logged := keeps.logged
      first := keeps.first
      current := keeps.current
      past := keeps.past }

theorem take (keeps : Keeps epoch index schedule log) {event : SenderEvent}
    {rest : List SenderEvent} (queue : schedule.queue = event :: rest)
    (period : announces .udpClient .periodTimer event = false)
    (wait : announces .udpClient .waitTimer event = false) :
    Keeps epoch index { schedule with queue := rest } log := by
  refine keeps.congr rfl keeps.prompt ⟨rfl, rfl, rfl, rfl, ?_⟩ ⟨rfl, rfl, rfl, rfl, ?_⟩
  · rw [queue, List.countP_cons_of_neg (by simp [period])]
  · rw [queue, List.countP_cons_of_neg (by simp [wait])]

/-- A new period, while nothing is due and no event waits. -/
theorem begin (prompt : schedule.Prompt)
    (nodup : schedule.pending.Nodup) (idle : schedule.queue = [])
    (starts : epoch.start = schedule.now) (early : epoch.early = 1) :
    Keeps epoch 0 (schedule.armBoth schedule.now epoch.length epoch.length) [] := by
  have quiet (timer : SenderTimer) :
      (schedule.armBoth schedule.now epoch.length epoch.length).queue.countP
        (announces .udpClient timer) = 0 := by
    rw [Schedule.armBoth, Schedule.arm, Schedule.arm, idle, List.countP_nil]
  have single (timer : SenderTimer) : max 1 (schedule.pending.count timer) = 1 :=
    Nat.max_eq_left (List.nodup_iff_count_le_one.1 nodup timer)
  refine
    { prompt := Schedule.armBoth_prompt _ (Nat.le_add_right _ _) prompt
      begun := ?_
      periodOwner := Schedule.armBoth_owner_period _ _ _ _
      periodInterval := Schedule.armBoth_interval_period _ _ _ _
      periodBegan := (Schedule.armBoth_began_period _ _ _ _).le
      periodDue := ?_
      periodOnce := ?_
      periodHeard := fun heard => absurd (quiet _) (Nat.ne_of_gt heard)
      waitOwner := fun _ => Schedule.armBoth_owner_wait _ _ _ _
      waitBegan := (Schedule.armBoth_began_wait _ _ _ _).le
      waitDue := fun _ => ?_
      waitHeard := fun heard => absurd (quiet _) (Nat.ne_of_gt heard)
      logged := fun slot none => absurd none List.not_mem_nil
      first := fun _ => ?_
      current := fun started => absurd started (Nat.lt_irrefl 0)
      past := fun earlier _ before => absurd before (Nat.not_lt_zero earlier) }
  · rw [Nat.zero_mul, starts]
    exact le_rfl
  · rw [Schedule.armBoth_deadline_period, Nat.zero_add, Nat.one_mul, starts]
  · rw [Schedule.occurrences, Schedule.armBoth_count_period, single, quiet]
  · rw [Schedule.armBoth_deadline_wait, Epoch.Within, starts]
    exact ⟨le_rfl, .inr ⟨rfl, rfl⟩⟩
  · rw [Schedule.occurrences, Schedule.armBoth_count_wait, single, quiet, early]
    exact le_rfl

theorem complete (keeps : Keeps epoch index schedule log) {ended : ℕ} (positive : 0 < ended)
    (done : epoch.start + (ended + 1) * epoch.length ≤ schedule.now) :
    1 ≤ epoch.slots log ended ∧ epoch.slots log ended ≤ 1 + epoch.extra ended := by
  have before : (ended + 1) * epoch.length ≤ (index + 1) * epoch.length := by
    have now := keeps.now_le
    omega
  have inside : ended ≤ index :=
    Nat.le_of_succ_le_succ (Nat.le_of_mul_le_mul_right before epoch.positive)
  rcases Nat.lt_or_eq_of_le inside with sooner | rfl
  · exact keeps.past ended positive sooner
  · have complete := keeps.current positive
    rwa [keeps.occurrences_wait positive (keeps.now_le.antisymm done), Nat.add_zero] at complete

end Keeps

end IotLab.Firmware
