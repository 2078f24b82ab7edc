import IotLab.Firmware.DataSlots

/-!
# Runs of the data module

Every prompt run of a sender keeps the invariant of its epoch; a new period begins another one.
-/

namespace IotLab.Firmware

open IotLab.Library

namespace DataNode

variable {node : DataNode} {schedule next : SenderSchedule} {epoch : Epoch}
  {base : List (ℕ × Bool)}

/-- A call of the timers leaves the rest of the sender alone. -/
structure OnlyTimers (node later : DataNode) : Prop where
  data : later.data = node.data
  ticks : later.ticks = node.ticks
  log : later.log = node.log

theorem timerStep_simulates (node : DataNode) (simulates : Simulates .etimer schedule node.timers)
    (action : SenderAction) (timely : schedule.Timely action)
    (stepped : schedule.step action = some next) :
    ∃ later, node.timerStep action = some later ∧ Simulates .etimer next later.timers ∧
      OnlyTimers node later := by
  obtain ⟨other, timers, same, called, after⟩ := simulates.step timely
  obtain rfl : next = other := Option.some.inj (stepped.symm.trans same)
  exact ⟨{ node with timers }, by rw [timerStep, called, Option.map_some], after, rfl, rfl, rfl⟩

/-- Both timers are set one after the other. -/
theorem timerStep_both (node : DataNode) (simulates : Simulates .etimer schedule node.timers)
    (prompt : schedule.Prompt)
    (action : SenderAction) (timely : schedule.Timely action) {time interval random : ℕ}
    (stepped : schedule.step action = some (schedule.arm .udpClient .periodTimer time interval))
    (ahead : schedule.now ≤ time + interval) (short : random < 2147483392) :
    ∃ later, ((node.timerStep action).bind fun first =>
        first.timerStep (.set .udpClient .waitTimer random)) = some later ∧
      Simulates .etimer (schedule.armBoth time interval random) later.timers ∧
      OnlyTimers node later := by
  obtain ⟨first, called, armed, same⟩ := node.timerStep_simulates simulates action timely stepped
  obtain ⟨later, set, both, still⟩ := first.timerStep_simulates armed
    (.set .udpClient .waitTimer random)
    ⟨(prompt.arm _ _ ahead).late, short⟩ rfl
  exact ⟨later, by rw [called, Option.bind_some, set], both, still.data.trans same.data,
    still.ticks.trans same.ticks, still.log.trans same.log⟩

/-- A sender in an epoch whose log was `base` at its start. -/
structure InEpoch (epoch : Epoch) (base : List (ℕ × Bool)) (schedule : SenderSchedule)
    (node : DataNode) : Prop where
  keeps : ∃ index since, Keeps epoch index schedule since ∧ node.log = base ++ since
  now : schedule.now = node.ticks
  wait : toClockTime (clockSecond * node.data.randwait) = epoch.length
  sends : node.data.sends = node.log.countP (·.2)

theorem InEpoch.move {later : DataNode} (inside : InEpoch epoch base schedule node)
    (only : OnlyTimers node later) (now : next.now = schedule.now)
    (keeps : ∀ index since, Keeps epoch index schedule since → Keeps epoch index next since) :
    InEpoch epoch base next later := by
  obtain ⟨⟨index, since, kept, log⟩, before, wait, sends⟩ := inside
  exact ⟨⟨index, since, keeps index since kept, only.log.trans log⟩,
    now.trans (before.trans only.ticks.symm), only.data ▸ wait, by rw [only.data, only.log, sends]⟩

/-- `data_check` for an event that has been taken out of the queue. -/
theorem dataCheck_inEpoch {event : SenderEvent} {rest : List SenderEvent}
    (inside : InEpoch epoch base schedule node) (queue : schedule.queue = event :: rest)
    (simulates : Simulates .etimer { schedule with queue := rest } node.timers) (random : ℕ) :
    ∃ later after, node.dataCheck event random = some later ∧
      Simulates .etimer after later.timers ∧ InEpoch epoch base after later := by
  obtain ⟨⟨index, since, keeps, log⟩, now, wait, sends⟩ := inside
  have prompt := keeps.prompt
  by_cases period : announces .udpClient .periodTimer event = true
  · have kind : timerEvent event random = .period random := if_pos period
    have below : random % epoch.length < epoch.length := Nat.mod_lt _ epoch.positive
    have due : schedule.deadline .periodTimer ≤ schedule.now := by
      rw [keeps.periodDue]
      refine (keeps.periodHeard ?_).ge
      rw [queue, List.countP_cons_of_pos period]
      exact Nat.succ_pos _
    have soon : schedule.deadline .periodTimer + schedule.interval .periodTimer <
        schedule.now + 2147483392 :=
      Nat.add_lt_add_of_le_of_lt due (keeps.periodInterval.trans_lt epoch.short)
    have ahead : schedule.now ≤
        schedule.deadline .periodTimer + schedule.interval .periodTimer := by
      rw [keeps.periodDue]
      exact keeps.now_le.trans (Nat.le_add_right _ _)
    obtain ⟨data, checked, same⟩ : ∃ data, Firmware.dataCheck node.data (.period random) =
        some data ∧ data.waitTimer = random % epoch.length ∧
          data.randwait = node.data.randwait ∧ data.sends = node.data.sends := by
      rw [Firmware.dataCheck, wait, if_neg epoch.positive.ne']
      exact ⟨_, rfl, rfl, rfl, rfl⟩
    obtain ⟨later, called, both, only⟩ := timerStep_both { node with data } simulates prompt
      (.reset .udpClient .periodTimer) ⟨prompt.late, soon⟩ rfl ahead
      (below.trans epoch.short)
    refine ⟨later, _, ?_, both, ⟨index + 1, since, keeps.period queue period below,
      only.log.trans log⟩, now.trans only.ticks.symm, ?_, ?_⟩
    · rw [← same.1] at called
      rw [dataCheck, kind, checked]
      exact called
    · rw [only.data, same.2.1, wait]
    · rw [only.data, same.2.2, sends, only.log]
  · by_cases ended : announces .udpClient .waitTimer event = true
    · have kind : timerEvent event random = .wait := by
        rw [timerEvent, if_neg period, if_pos ended]
      obtain ⟨data, checked, same⟩ : ∃ data, Firmware.dataCheck node.data .wait = some data ∧
          data.randwait = node.data.randwait ∧
          data.sends = node.data.sends + if node.data.started then 1 else 0 := by
        rw [Firmware.dataCheck]
        split
        · exact ⟨_, rfl, rfl, rfl⟩
        · exact ⟨_, rfl, rfl, rfl⟩
      refine ⟨{ node with data, log := node.log ++ [(node.ticks, node.data.started)] }, _, ?_,
        simulates, ⟨index, since ++ [(schedule.now, node.data.started)],
          keeps.wait queue ended _, ?_⟩, now, same.1 ▸ wait, ?_⟩
      · rw [dataCheck, kind, checked]
        rfl
      · rw [log, now, List.append_assoc]
      · rw [same.2, sends, List.countP_append, List.countP_singleton]
    · have kind : timerEvent event random = .other := by
        rw [timerEvent, if_neg period, if_neg ended]
      have taken := keeps.take queue (eq_false_of_ne_true period)
        (eq_false_of_ne_true ended)
      refine ⟨node, _, ?_, simulates, ⟨index, since, taken, log⟩, now, wait, sends⟩
      rw [dataCheck, kind]
      rfl

/-- A sender whose timers keep a schedule in an epoch. -/
def Keeping (epoch : Epoch) (base : List (ℕ × Bool)) (node : DataNode) : Prop :=
  ∃ schedule, Simulates .etimer schedule node.timers ∧ InEpoch epoch base schedule node

theorem Keeping.turn (keeping : Keeping epoch base node) (random : ℕ) :
    ∃ later, node.turn random = some later ∧ Keeping epoch base later := by
  obtain ⟨schedule, simulates, inside⟩ := keeping
  have prompt : schedule.Prompt := by
    obtain ⟨index, since, keeps, -⟩ := inside.keeps
    exact keeps.prompt
  obtain ⟨polled, poll, posted, first⟩ := node.timerStep_simulates simulates .poll
    ⟨prompt.late, trivial⟩ rfl
  have inPoll : InEpoch epoch base schedule.poll polled :=
    inside.move first rfl fun index since keeps => keeps.poll simulates.distinct
  obtain ⟨taken, take, dequeued, second⟩ := polled.timerStep_simulates posted .take
    ⟨Schedule.Prompt.late fun timer member =>
      prompt timer (List.mem_of_mem_filter member), trivial⟩ rfl
  cases queue : schedule.poll.queue with
  | nil =>
      refine ⟨taken, node.turn_nil poll take (posted.queue.trans queue), _, dequeued,
        inPoll.move second rfl fun index since keeps => ?_⟩
      exact keeps.congr rfl keeps.prompt ⟨rfl, rfl, rfl, rfl, by rw [queue]; rfl⟩
        ⟨rfl, rfl, rfl, rfl, by rw [queue]; rfl⟩
  | cons event rest =>
      rw [queue, List.tail_cons] at dequeued
      obtain ⟨later, after, checked, simulated, kept⟩ :=
        dataCheck_inEpoch (inPoll.move second rfl fun _ _ keeps => keeps) queue dequeued random
      rw [node.turn_cons poll take (posted.queue.trans queue)]
      exact ⟨later, checked, after, simulated, kept⟩

theorem Keeping.tick (keeping : Keeping epoch base node) (idle : node.Idle) :
    ∃ later, node.step .tick = some later ∧ Keeping epoch base later := by
  obtain ⟨schedule, simulates, ⟨index, since, keeps, log⟩, now, wait, sends⟩ := keeping
  obtain ⟨empty, ahead⟩ := idle.ahead simulates
  obtain ⟨later, ticked, after, only⟩ := timerStep_simulates { node with ticks := node.ticks + 1 }
    simulates (.tick 0) ⟨keeps.prompt.late, (by decide : 0 < 256)⟩ rfl
  exact ⟨later, ticked, _, after, ⟨index, since, keeps.tick empty ahead, only.log.trans log⟩,
    (congrArg (· + 1) now).trans only.ticks.symm, only.data ▸ wait, by
      rw [only.data, only.log, sends]⟩

theorem clockSecond_mul_pos {period : ℕ} (positive : 0 < period) : 0 < clockSecond * period :=
  Nat.mul_pos (by decide) positive

theorem clockSecond_mul_short {period : ℕ} (fits : period < 65536) :
    clockSecond * period < 2147483392 := by
  rw [clockSecond]
  omega

/-- The epoch that begins with a new period. -/
def newEpoch (start period : ℕ) (positive : 0 < period) (fits : period < 65536) : Epoch where
  start := start
  length := clockSecond * period
  early := 1
  positive := clockSecond_mul_pos positive
  short := clockSecond_mul_short fits

/-- A new period begins an epoch, if the main loop is done. -/
theorem Keeping.setDataPeriod (keeping : Keeping epoch base node) (idle : node.Idle) {period : ℕ}
    (positive : 0 < period) (fits : period < 65536) :
    ∃ later, node.call (.setDataPeriod period) = some later ∧
      Keeping (newEpoch node.ticks period positive fits) node.log later := by
  obtain ⟨schedule, simulates, ⟨index, since, keeps, log⟩, now, wait, sends⟩ := keeping
  have short := (newEpoch node.ticks period positive fits).short
  obtain ⟨empty, ahead⟩ := idle.ahead simulates
  obtain ⟨later, called, both, only⟩ := timerStep_both
    { node with data := node.data.setDataPeriod period } simulates keeps.prompt
    (.set .udpClient .periodTimer (clockSecond * period)) ⟨keeps.prompt.late, short⟩ rfl
    (Nat.le_add_right _ _) short
  refine ⟨later, ?_, _, both, ⟨0, [], Keeps.begin keeps.prompt simulates.distinct empty
    now.symm rfl, only.log.trans (List.append_nil _).symm⟩, now.trans only.ticks.symm, ?_, ?_⟩
  · rw [← called, call, DataModule.call, DataModule.setDataPeriod, toClockTime_clockSecond fits]
    rfl
  · rw [only.data]
    exact toClockTime_clockSecond fits
  · rw [only.data, only.log, ← sends]
    rfl

/-- Every prompt step without a new period stays in the epoch. -/
theorem Keeping.step (keeping : Keeping epoch base node) {action : DataAction}
    (prompt : node.Prompt action) (same : action.keepsPeriod = true) :
    ∃ later, node.step action = some later ∧ Keeping epoch base later := by
  cases action with
  | tick => exact keeping.tick prompt
  | turn random => exact keeping.turn random
  | call call =>
      obtain ⟨schedule, simulates, inside⟩ := keeping
      cases call with
      | setDataPeriod period => cases same
      | senderStartModules name | senderStopModules name =>
          refine ⟨_, rfl, schedule, simulates, inside.keeps, inside.now, ?_, ?_⟩
          · rw [← inside.wait, DataModule.call]
            split
            · rfl
            · rfl
          · rw [← inside.sends, DataModule.call]
            split
            · rfl
            · rfl
      | strdup | free | setTxpower | multicastSend =>
          exact ⟨_, rfl, schedule, simulates, inside.keeps, inside.now, inside.wait, inside.sends⟩
  | other action =>
      obtain ⟨schedule, simulates, ⟨index, since, keeps, log⟩, now, wait, sends⟩ := keeping
      obtain ⟨next, timers, called, after, still, promptly, undisturbed⟩ :=
        simulates.others keeps.prompt keeps.owned prompt
      have kept := keeps.congr still promptly (undisturbed _ rfl) (undisturbed _ rfl)
      refine ⟨{ node with timers }, ?_, next, after, ⟨index, since, kept, log⟩, still.trans now,
        wait, sends⟩
      rw [DataNode.step, timerStep, called, Option.map_some]

/-- Every prompt step stays in the epoch or begins another one. -/
theorem Keeping.step_some (keeping : Keeping epoch base node) {action : DataAction}
    (prompt : node.Prompt action) :
    ∃ later, node.step action = some later ∧ ∃ epoch base, Keeping epoch base later := by
  cases same : action.keepsPeriod with
  | true =>
      obtain ⟨later, stepped, kept⟩ := keeping.step prompt same
      exact ⟨later, stepped, epoch, base, kept⟩
  | false =>
      cases action with
      | tick | turn | other => cases same
      | call call =>
          cases call with
          | setDataPeriod period =>
              obtain ⟨idle, positive, fits⟩ := prompt
              obtain ⟨later, called, kept⟩ := keeping.setDataPeriod idle positive fits
              exact ⟨later, called, _, _, kept⟩
          | senderStartModules | senderStopModules | strdup | free | setTxpower
          | multicastSend => cases same

/-- The epoch of `data_init`. -/
def firstEpoch : Epoch := ⟨0, 3840, 0, by decide, by decide⟩

theorem keeping_dataInit {timers : TimerNode SenderProcess SenderTimer}
    (unset : TimersUnset .etimer timers) :
    ∃ start, dataInit timers = some start ∧ Keeping firstEpoch [] start ∧ start.ticks = 0 := by
  obtain ⟨start, called, after, only⟩ := timerStep_simulates { timers } unset.simulates
    (.set .udpClient .periodTimer 3840)
    ⟨fun _ none => absurd none List.not_mem_nil, (by decide : 3840 < 2147483392)⟩ rfl
  refine ⟨start, called, ⟨_, after, ⟨0, [], ?_, only.log⟩, only.ticks.symm, ?_, ?_⟩, only.ticks⟩
  · exact
      { prompt := fun timer member => by
          rw [List.mem_singleton.1 member]
          exact Nat.zero_le _
        begun := Nat.zero_le _
        periodOwner := Schedule.owner_arm_self _ _ _ _ _
        periodInterval := Schedule.interval_arm_self _ _ _ _ _
        periodBegan := (Schedule.began_arm_self _ _ _ _ _).le
        periodDue := Schedule.deadline_arm_self _ _ _ _ _
        periodOnce := rfl
        periodHeard := fun heard => absurd heard (Nat.lt_irrefl 0)
        waitOwner := fun member => absurd member (by decide)
        waitBegan := Nat.zero_le _
        waitDue := fun member => absurd member (by decide)
        waitHeard := fun heard => absurd heard (Nat.lt_irrefl 0)
        logged := fun slot none => absurd none List.not_mem_nil
        first := fun _ => le_rfl
        current := fun started => absurd started (Nat.lt_irrefl 0)
        past := fun earlier _ before => absurd before (Nat.not_lt_zero earlier) }
  · rw [only.data]
    rfl
  · rw [only.data, only.log]
    rfl

end DataNode

/-! ## Main results -/

open DataNode

theorem DataNode.Keeping.slots {epoch : Epoch} {base : List (ℕ × Bool)} {node : DataNode}
    (keeping : Keeping epoch base node) :
    node.data.sends = node.log.countP (·.2) ∧ ∃ since, node.log = base ++ since ∧
      epoch.slots since 0 = 0 ∧ ∀ index, 0 < index →
        epoch.start + (index + 1) * epoch.length ≤ node.ticks →
        1 ≤ epoch.slots since index ∧ epoch.slots since index ≤ 1 + epoch.extra index := by
  obtain ⟨schedule, -, ⟨index, since, keeps, log⟩, now, -, sends⟩ := keeping
  exact ⟨sends, since, log, Epoch.slots_zero keeps.logged, fun ended positive done =>
    keeps.complete positive (now ▸ done)⟩

/-- A step without a new period that is prompt. -/
def SamePeriod (node : DataNode) (action : DataAction) : Prop :=
  node.Prompt action ∧ action.keepsPeriod = true

instance (node : DataNode) (action : DataAction) : Decidable (SamePeriod node action) :=
  inferInstanceAs (Decidable (_ ∧ _))

variable {timers : TimerNode SenderProcess SenderTimer} {start : DataNode}
  {actions : List DataAction}

/-- A sender after its start. -/
def senderNode : TimerNode SenderProcess SenderTimer where
  processList := [.etimer, .udpClient]
  running _ := true
  events := noEvents
  memory := {}

theorem senderNode_unset : TimersUnset .etimer senderNode := ⟨rfl, rfl, rfl, rfl⟩

/-- Two ticks, between which another process resets its own timer. -/
def senderActions : List DataAction :=
  [.other (.set (.other 0) (.other 0) 1), .turn 0, .tick, .turn 0,
    .other (.reset (.other 0) (.other 0)), .turn 0, .tick]

end IotLab.Firmware
