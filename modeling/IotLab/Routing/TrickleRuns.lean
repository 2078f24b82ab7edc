import IotLab.Library.History
import IotLab.Routing.Trickle

/-!
# The DIOs of a timer are apart, and keep coming

A DIO of the timer comes half of the shortest interval after all earlier ones but the latest.
The latest can be nearer: the event of an interval that ends may wait when an inconsistency
begins a new one, and is then taken for that of the new interval.  As long as no others are
heard, the next DIO comes within one and a half of the longest intervals and a shortest one.
-/

namespace IotLab.Routing

open IotLab.Library
open IotLab.Firmware

/-- The schedule of a router's alarms. -/
abbrev RouterSchedule := Schedule RouterProcess RouterTimer

/-- The exponents of the intervals: the shortest has two ticks at least, and the longest one
does not overflow. -/
structure Pace where
  intmin : ℕ
  maximum : ℕ
  redundancy : ℕ
  long : 4 ≤ intmin
  small : maximum ≤ 24

namespace Pace

variable (pace : Pace)

def shortest : ℕ := dioTicks pace.intmin

def longest : ℕ := dioTicks pace.maximum

/-- The ticks between two DIOs that are not next to each other. -/
def half : ℕ := pace.shortest / 2

/-- The ticks within which the next DIO comes. -/
def gap : ℕ := (pace.longest + 1) / 2 + pace.longest + pace.shortest

theorem longest_lt : pace.longest < 2147484 := dioTicks_lt pace.small

theorem reserve_le (condition : Prop) [Decidable condition] :
    (if condition then pace.shortest else 0) ≤ pace.shortest := by
  split
  · exact le_rfl
  · exact Nat.zero_le _

theorem half_pos (le : pace.intmin ≤ pace.maximum) : 0 < pace.half := by
  have four : dioTicks 4 ≤ pace.shortest := dioTicks_mono pace.long (le.trans pace.small)
  have two : dioTicks 4 = 2 := by decide
  rw [half]
  omega

end Pace

/-- A time comes after all the others, some ticks later. -/
def Rested (ticks : ℕ) (times : List ℕ) (time : ℕ) : Prop :=
  ∀ earlier ∈ times, earlier + ticks ≤ time

/-- A time comes some ticks after all but the latest. -/
def Spaced (ticks : ℕ) (times : List ℕ) (time : ℕ) : Prop := Rested ticks times.dropLast time

theorem Rested.mono {ticks time later : ℕ} {times : List ℕ} (rested : Rested ticks times time)
    (le : time ≤ later) : Rested ticks times later :=
  fun earlier member => (rested earlier member).trans le

theorem Rested.spaced {ticks time : ℕ} {times : List ℕ} (rested : Rested ticks times time) :
    Spaced ticks times time :=
  fun earlier member => rested earlier ((List.dropLast_sublist _).subset member)

theorem Spaced.mono {ticks time later : ℕ} {times : List ℕ} (spaced : Spaced ticks times time)
    (le : time ≤ later) : Spaced ticks times later :=
  Rested.mono spaced le

/-! ## The invariant -/

/-- The tick of the latest DIO, or the start. -/
def latest (times : List ℕ) : ℕ := times.getLast?.getD 0

/-- The fields of a router with a pace; `alone` says that it hears no others. -/
structure Sound (pace : Pace) (alone : Prop) (router : RplRouter) : Prop where
  intmin_eq : router.dio.dioIntmin = pace.intmin
  maximum_eq : router.dio.dioIntmin + router.dio.dioIntdoubl = pace.maximum
  redundancy_eq : router.dio.dioRedundancy = pace.redundancy
  low : pace.intmin ≤ router.dio.dioIntcurrent
  high : router.dio.dioIntcurrent ≤ pace.maximum
  nextDelay : router.dio.dioNextDelay ≤ (pace.longest + 1) / 2
  silent : router.dioSendOk = false → router.sent = []
  unheard : alone → router.dio.dioCounter = 0
  sentBy : ∀ time ∈ router.sent, time ≤ router.ticks
  spaced : Justified (Spaced pace.half) router.sent

theorem Sound.congr {pace : Pace} {alone : Prop} {router later : RplRouter}
    (sound : Sound pace alone router) (dio : later.dio = router.dio)
    (sendOk : later.dioSendOk = router.dioSendOk) (ticks : later.ticks = router.ticks)
    (sent : later.sent = router.sent) : Sound pace alone later := by
  obtain ⟨⟩ := sound
  constructor <;> simpa only [dio, sendOk, ticks, sent]

/-- The number of events of the timer that wait. -/
def heard (schedule : RouterSchedule) : ℕ :=
  schedule.queue.countP (announces .ctimer .dioTimer)

/-- The tick by which the next DIO is sent: when its event is taken, unless an inconsistency
comes first, or in the interval after that. -/
def awaited (pace : Pace) (schedule : RouterSchedule) (router : RplRouter) : ℕ :=
  if 0 < heard schedule then
    router.ticks + if router.dio.dioSend then 0 else pace.longest + pace.shortest
  else
    schedule.deadline .dioTimer +
      if router.dio.dioSend then
        if pace.intmin < router.dio.dioIntcurrent then pace.shortest else 0
      else pace.longest + pace.shortest

/-- An event that waits allows a DIO now. -/
def Allows (pace : Pace) (router : RplRouter) : Prop :=
  Spaced pace.half router.sent router.ticks ∧
    (Rested pace.half router.sent router.ticks ∨ router.dio.dioIntcurrent ≤ pace.intmin)

/-- The timer of a router and its events. -/
structure Paced (pace : Pace) (alone : Prop) (schedule : RouterSchedule) (router : RplRouter) :
    Prop where
  sound : Sound pace alone router
  prompt : schedule.Prompt
  now : schedule.now = router.ticks
  owner : .dioTimer ∈ schedule.pending → schedule.owner .dioTimer = some .ctimer
  began : schedule.began .dioTimer ≤ schedule.now
  listed : router.listed = true
  alive : 0 < schedule.occurrences .ctimer .dioTimer
  heardOnce : heard schedule ≤ 1
  due : router.dio.dioSend = true → .dioTimer ∈ schedule.pending → heard schedule = 0 →
    Rested pace.half router.sent (schedule.deadline .dioTimer)
  event : router.dio.dioSend = true → 0 < heard schedule → Allows pace router
  stale : .dioTimer ∈ schedule.pending → 0 < heard schedule →
    router.dio.dioSend = true ∧ schedule.now < schedule.deadline .dioTimer
  relaxed : router.dio.dioSend = false →
    Spaced pace.half router.sent router.ticks ∨ router.dio.dioIntcurrent ≤ pace.intmin
  coming : alone → awaited pace schedule router ≤ latest router.sent + pace.gap

namespace RplRouter

variable {router : RplRouter} {schedule next : RouterSchedule}

theorem timerStep_simulates (router : RplRouter)
    (simulates : Simulates .etimer schedule router.timers)
    (action : TimerAction RouterProcess RouterTimer) (timely : schedule.Timely action)
    (stepped : schedule.step action = some next) :
    ∃ timers, router.timerStep action = some { router with timers } ∧
      Simulates .etimer next timers := by
  obtain ⟨other, timers, same, called, after⟩ := simulates.step timely
  obtain rfl : next = other := Option.some.inj (stepped.symm.trans same)
  exact ⟨timers, by rw [timerStep, called, Option.map_some], after⟩

theorem ctimerSet_simulates (router : RplRouter)
    (simulates : Simulates .etimer schedule router.timers) (prompt : schedule.Prompt) {ticks : ℕ}
    (short : ticks < 2147483392) :
    ∃ timers, router.ctimerSet ticks = some { router with listed := true, timers } ∧
      Simulates .etimer (schedule.arm .ctimer .dioTimer schedule.now ticks) timers :=
  timerStep_simulates { router with listed := true } simulates (.set .ctimer .dioTimer ticks)
    ⟨prompt.late, short⟩ rfl

end RplRouter

namespace Paced

variable {router : RplRouter} {schedule next : RouterSchedule} {pace : Pace} {alone : Prop}

theorem heard_congr (same : Undisturbed .ctimer schedule next .dioTimer) :
    heard next = heard schedule := same.queue

/-- A schedule that leaves the timer as it is. -/
theorem congr (paced : Paced pace alone schedule router) (now : next.now = schedule.now)
    (prompt : next.Prompt) (same : Undisturbed .ctimer schedule next .dioTimer) :
    Paced pace alone next router where
  sound := paced.sound
  prompt := prompt
  now := now.trans paced.now
  owner member := same.owner.trans (paced.owner (same.mem_iff.1 member))
  began := same.began.trans_le (now ▸ paced.began)
  listed := paced.listed
  alive := by
    rw [same.occurrences]
    exact paced.alive
  heardOnce := same.queue.trans_le paced.heardOnce
  due sends member none := same.deadline ▸
    paced.due sends (same.mem_iff.1 member) (same.queue.symm.trans none)
  event sends waits := paced.event sends (waits.trans_eq same.queue)
  stale member waits := by
    rw [now, same.deadline]
    exact paced.stale (same.mem_iff.1 member) (waits.trans_eq same.queue)
  relaxed := paced.relaxed
  coming holds := by
    rw [awaited, heard_congr same, same.deadline]
    exact paced.coming holds

theorem timers (paced : Paced pace alone schedule router)
    (timers : TimerNode RouterProcess RouterTimer) :
    Paced pace alone schedule { router with timers } :=
  { paced with sound := paced.sound.congr rfl rfl rfl rfl }

/-- A poll posts the event of the timer if it is due. -/
theorem poll (paced : Paced pace alone schedule router) (nodup : schedule.pending.Nodup) :
    Paced pace alone schedule.poll router := by
  have kept {timer : RouterTimer} (member : timer ∈ schedule.poll.pending) :
      timer ∈ schedule.pending := List.mem_of_mem_filter member
  have posted : heard schedule.poll = heard schedule + schedule.sent.count .dioTimer :=
    Schedule.countP_queue_poll paced.owner
  have counted := @Schedule.count_sent _ _ _ schedule .dioTimer nodup
  have now := paced.now
  by_cases sent : .dioTimer ∈ schedule.sent
  · obtain ⟨member, due⟩ := Schedule.mem_sent sent
    have past := (Schedule.due_iff paced.began).1 due
    have none : heard schedule = 0 := Nat.eq_zero_of_not_pos fun waits =>
      absurd (paced.stale member waits).2 (Nat.not_lt_of_le past)
    have gone : .dioTimer ∉ schedule.poll.pending := fun member =>
      of_decide_eq_true (List.mem_filter.1 member).2 sent
    have ended := past.antisymm (paced.prompt _ member)
    rw [if_pos sent] at counted
    exact
      { sound := paced.sound
        prompt := fun timer member => paced.prompt timer (kept member)
        now := now
        owner := fun member => paced.owner (kept member)
        began := paced.began
        listed := paced.listed
        alive := by
          rw [Schedule.occurrences_poll nodup paced.owner]
          exact paced.alive
        heardOnce := by omega
        due := fun _ member => absurd member gone
        event := fun sends _ =>
          have rested := (paced.due sends member none).mono (past.trans_eq now)
          ⟨rested.spaced, .inl rested⟩
        stale := fun member => absurd member gone
        relaxed := paced.relaxed
        coming := fun holds => by
          have before := paced.coming holds
          rw [awaited, if_neg (by omega), ended] at before
          rw [awaited, if_pos (by omega), ← now]
          refine le_trans (Nat.add_le_add_left ?_ _) before
          split
          · exact Nat.zero_le _
          · exact le_rfl }
  · have removed := @Schedule.count_pending_poll _ _ _ schedule .dioTimer nodup
    rw [if_neg sent] at counted
    refine paced.congr rfl (fun timer member => paced.prompt timer (kept member))
      ⟨rfl, rfl, rfl, ?_, ?_⟩
    · omega
    · rw [heard, heard] at posted
      omega

/-- The clock ticks when nothing is due and no event waits. -/
theorem tick (paced : Paced pace alone schedule router) (idle : schedule.queue = [])
    (ahead : ∀ timer ∈ schedule.pending, schedule.now < schedule.deadline timer) :
    Paced pace alone { schedule with now := schedule.now + 1 }
      { router with ticks := router.ticks + 1 } := by
  have quiet : ¬ 0 < heard schedule := by
    rw [heard, idle, List.countP_nil]
    exact Nat.lt_irrefl 0
  have later := Nat.le_add_right router.ticks 1
  exact
    { sound :=
        { paced.sound with
          sentBy := fun time member => (paced.sound.sentBy time member).trans later }
      prompt := ahead
      now := congrArg (· + 1) paced.now
      owner := paced.owner
      began := paced.began.trans (Nat.le_succ _)
      listed := paced.listed
      alive := paced.alive
      heardOnce := paced.heardOnce
      due := paced.due
      event := fun _ waits => absurd waits quiet
      stale := fun _ waits => absurd waits quiet
      relaxed := fun rests => (paced.relaxed rests).imp_left fun spaced => spaced.mono later
      coming := fun holds => by
        have before := paced.coming holds
        have same : ¬ 0 < heard { schedule with now := schedule.now + 1 } := quiet
        rw [awaited, if_neg quiet] at before
        rw [awaited, if_neg same]
        exact before }

theorem ticks_le_deadline (paced : Paced pace alone schedule router)
    (quiet : ¬ 0 < heard schedule) : router.ticks ≤ schedule.deadline .dioTimer := by
  have alive := paced.alive
  rw [Schedule.occurrences] at alive
  rw [heard] at quiet
  have member : .dioTimer ∈ schedule.pending := List.count_pos_iff.1 (by omega)
  exact paced.now ▸ paced.prompt _ member

theorem ticks_le_awaited (paced : Paced pace alone schedule router) :
    router.ticks ≤ awaited pace schedule router := by
  rw [awaited]
  split
  · exact Nat.le_add_right _ _
  · next quiet => exact (paced.ticks_le_deadline quiet).trans (Nat.le_add_right _ _)

/-! ## The handler -/

/-- The timer is set: without an event that waits, or with one if a DIO is to be sent. -/
theorem ctimerSet (sound : Sound pace alone router) (prompt : schedule.Prompt)
    (now : schedule.now = router.ticks) (simulates : Simulates .etimer schedule router.timers)
    {interval : ℕ} (short : interval < 2147483392) (heardOnce : heard schedule ≤ 1)
    (due : router.dio.dioSend = true → Rested pace.half router.sent (router.ticks + interval))
    (event : 0 < heard schedule →
      0 < interval ∧ router.dio.dioSend = true ∧ Allows pace router)
    (relaxed : router.dio.dioSend = false →
      Spaced pace.half router.sent router.ticks ∨ router.dio.dioIntcurrent ≤ pace.intmin)
    (coming : alone → (0 < heard schedule → router.ticks ≤ latest router.sent + pace.gap) ∧
      (heard schedule = 0 → router.ticks + interval +
        (if router.dio.dioSend then
          if pace.intmin < router.dio.dioIntcurrent then pace.shortest else 0
        else pace.longest + pace.shortest) ≤ latest router.sent + pace.gap)) :
    ∃ later after, router.ctimerSet interval = some later ∧
      Simulates .etimer after later.timers ∧ Paced pace alone after later := by
  obtain ⟨timers, called, after⟩ := router.ctimerSet_simulates simulates prompt short
  refine ⟨_, _, called, after, ?_⟩
  exact
    { sound := sound.congr rfl rfl rfl rfl
      prompt := prompt.arm _ _ (Nat.le_add_right _ _)
      now := now
      owner := fun _ => schedule.owner_arm_self _ _ _ _
      began := (schedule.began_arm_self _ _ _ _).le
      listed := rfl
      alive := by
        rw [Schedule.occurrences, Schedule.count_arm_self,
          Nat.max_eq_left (List.nodup_iff_count_le_one.1 simulates.distinct _)]
        omega
      heardOnce := heardOnce
      due := fun sends _ _ => by
        rw [Schedule.deadline_arm_self, now]
        exact due sends
      event := fun _ waits => (event waits).2.2
      stale := fun _ waits => by
        refine ⟨(event waits).2.1, ?_⟩
        rw [Schedule.deadline_arm_self]
        exact Nat.lt_add_of_pos_right (event waits).1
      relaxed := relaxed
      coming := fun holds => by
        have same : heard (schedule.arm .ctimer .dioTimer schedule.now interval) =
            heard schedule := rfl
        rw [awaited, same, Schedule.deadline_arm_self, now]
        split
        · next waits =>
            rw [if_pos (event waits).2.1]
            exact (coming holds).1 waits
        · next quiet => exact (coming holds).2 (Nat.eq_zero_of_not_pos quiet) }

/-- A new interval, in which a DIO is to be sent. -/
theorem newDioInterval (sound : Sound pace alone router) (prompt : schedule.Prompt)
    (now : schedule.now = router.ticks) (simulates : Simulates .etimer schedule router.timers)
    (heardOnce : heard schedule ≤ 1)
    (event : 0 < heard schedule → 0 < pace.half ∧ Allows pace router)
    (coming : alone → (0 < heard schedule → router.ticks ≤ latest router.sent + pace.gap) ∧
      (heard schedule = 0 → router.ticks + (dioTicks router.dio.dioIntcurrent +
        if pace.intmin < router.dio.dioIntcurrent then pace.shortest else 0) ≤
          latest router.sent + pace.gap)) (random : Word) :
    ∃ later after, router.newDioInterval random = some later ∧
      Simulates .etimer after later.timers ∧ Paced pace alone after later := by
  have within := sound.high.trans pace.small
  have short := dioTicks_lt within
  have longer : pace.shortest ≤ dioTicks router.dio.dioIntcurrent :=
    dioTicks_mono sound.low within
  have shorter : dioTicks router.dio.dioIntcurrent ≤ pace.longest :=
    dioTicks_mono sound.high pace.small
  obtain ⟨half, whole⟩ := dioDelay_bounds short random
  have rest : clockSub (dioTicks router.dio.dioIntcurrent)
      (dioDelay (dioTicks router.dio.dioIntcurrent) random) ≤ (pace.longest + 1) / 2 := by
    rw [clockSub, stampSub, clockModulus]
    omega
  have least : pace.half ≤ dioDelay (dioTicks router.dio.dioIntcurrent) random := by
    rw [Pace.half]
    omega
  apply ctimerSet
  · exact ⟨sound.intmin_eq, sound.maximum_eq, sound.redundancy_eq, sound.low, sound.high, rest,
      sound.silent, fun _ => rfl, sound.sentBy, sound.spaced⟩
  · exact prompt
  · exact now
  · exact simulates
  · omega
  · exact heardOnce
  · intro _ time member
    have before : time ≤ router.ticks := sound.sentBy time member
    exact Nat.add_le_add before least
  · intro waits
    obtain ⟨positive, allows⟩ := event waits
    exact ⟨positive.trans_le least, rfl, allows⟩
  · rintro ⟨⟩
  · intro holds
    obtain ⟨now, later⟩ := coming holds
    refine ⟨now, fun none => le_trans ?_ (later none)⟩
    rw [if_pos rfl, Nat.add_assoc]
    exact Nat.add_le_add_left (Nat.add_le_add_right whole _) _

/-- The handler sends a DIO, or has heard enough of them. -/
theorem sendDio (paced : Paced pace alone schedule router)
    (audible : alone → 0 < pace.redundancy)
    {rest : List (PostedEvent RouterProcess (EventData RouterProcess RouterTimer))}
    (waits : 0 < heard schedule) (none : heard { schedule with queue := rest } = 0)
    (simulates : Simulates .etimer { schedule with queue := rest } router.timers)
    (sends : router.dio.dioSend = true) :
    ∃ later after, RplRouter.ctimerSet { router with
        listed := false
        dioSendOk := true
        dio := { router.dio with dioSend := false }
        sent :=
          if router.dio.dioCounter < router.dio.dioRedundancy then router.sent ++ [router.ticks]
          else router.sent } router.dio.dioNextDelay = some later ∧
      Simulates .etimer after later.timers ∧ Paced pace alone after later := by
  have sound := paced.sound
  have prompt : Schedule.Prompt { schedule with queue := rest } := paced.prompt
  have nextDelay := sound.nextDelay
  have longest := pace.longest_lt
  obtain ⟨spaced, rested⟩ := paced.event sends waits
  apply ctimerSet
  · refine ⟨sound.intmin_eq, sound.maximum_eq, sound.redundancy_eq, sound.low, sound.high,
      nextDelay, ?_, sound.unheard, ?_, ?_⟩
    · rintro ⟨⟩
    · intro time member
      dsimp only at member
      split at member
      · rcases List.mem_append.1 member with old | new
        · exact sound.sentBy time old
        · exact (List.mem_singleton.1 new).le
      · exact sound.sentBy time member
    · dsimp only
      split
      · exact justified_concat.2 ⟨sound.spaced, spaced⟩
      · exact sound.spaced
  · exact prompt
  · exact paced.now
  · exact simulates
  · omega
  · exact none.trans_le (Nat.zero_le 1)
  · rintro ⟨⟩
  · exact fun more => absurd none (Nat.ne_of_gt more)
  · intro _
    dsimp only
    split
    · rw [Spaced, List.dropLast_concat]
      exact rested
    · exact .inl spaced
  · intro holds
    have few : router.dio.dioCounter < router.dio.dioRedundancy := by
      rw [sound.unheard holds, sound.redundancy_eq]
      exact audible holds
    refine ⟨fun more => absurd none (Nat.ne_of_gt more), fun _ => ?_⟩
    dsimp only
    rw [if_pos few, latest, List.getLast?_concat, if_neg Bool.false_ne_true, Pace.gap]
    simp only [Option.getD_some]
    omega

/-- The handler begins the next interval. -/
theorem nextInterval (paced : Paced pace alone schedule router)
    {rest : List (PostedEvent RouterProcess (EventData RouterProcess RouterTimer))}
    (waits : 0 < heard schedule) (none : heard { schedule with queue := rest } = 0)
    (simulates : Simulates .etimer { schedule with queue := rest } router.timers)
    (rests : router.dio.dioSend = false) (random : Word) :
    ∃ later after, RplRouter.newDioInterval { router with
        listed := false
        dioSendOk := true
        dio := { router.dio with
          dioIntcurrent :=
            if router.dio.dioIntcurrent < router.dio.dioIntmin + router.dio.dioIntdoubl then
              router.dio.dioIntcurrent + 1
            else router.dio.dioIntcurrent } } random = some later ∧
      Simulates .etimer after later.timers ∧ Paced pace alone after later := by
  have sound := paced.sound
  have prompt : Schedule.Prompt { schedule with queue := rest } := paced.prompt
  have low := sound.low
  have high := sound.high
  have maximum_eq := sound.maximum_eq
  have above : (if router.dio.dioIntcurrent < router.dio.dioIntmin + router.dio.dioIntdoubl then
      router.dio.dioIntcurrent + 1 else router.dio.dioIntcurrent) ≤ pace.maximum := by
    split <;> omega
  have below : pace.intmin ≤
      (if router.dio.dioIntcurrent < router.dio.dioIntmin + router.dio.dioIntdoubl then
        router.dio.dioIntcurrent + 1 else router.dio.dioIntcurrent) := by
    split <;> omega
  have shorter := dioTicks_mono above pace.small
  apply newDioInterval
  · refine ⟨sound.intmin_eq, maximum_eq, sound.redundancy_eq, below, above, sound.nextDelay, ?_,
      sound.unheard, sound.sentBy, sound.spaced⟩
    rintro ⟨⟩
  · exact prompt
  · exact paced.now
  · exact simulates
  · exact none.trans_le (Nat.zero_le 1)
  · exact fun more => absurd none (Nat.ne_of_gt more)
  · intro holds
    have before := paced.coming holds
    rw [awaited, if_pos waits, rests, if_neg Bool.false_ne_true] at before
    refine ⟨fun more => absurd none (Nat.ne_of_gt more), fun _ => le_trans ?_ before⟩
    exact Nat.add_le_add_left (Nat.add_le_add shorter (pace.reserve_le _)) _

/-- The handler is called for the event of the timer. -/
theorem handleDioTimer (paced : Paced pace alone schedule router)
    (audible : alone → 0 < pace.redundancy)
    {event : PostedEvent RouterProcess (EventData RouterProcess RouterTimer)}
    {rest : List (PostedEvent RouterProcess (EventData RouterProcess RouterTimer))}
    (queue : schedule.queue = event :: rest)
    (announced : announces .ctimer .dioTimer event = true)
    (simulates : Simulates .etimer { schedule with queue := rest } router.timers)
    {preferred : Bool} (addressed : alone → preferred = true) (random : Word) :
    ∃ later after, RplRouter.handleDioTimer { router with listed := false } preferred random =
        some later ∧
      Simulates .etimer after later.timers ∧ Paced pace alone after later := by
  have once := paced.heardOnce
  have counted : heard schedule = heard { schedule with queue := rest } + 1 := by
    rw [heard, queue, List.countP_cons_of_pos announced]
    rfl
  have waits : 0 < heard schedule := by omega
  have none : heard { schedule with queue := rest } = 0 := by omega
  rw [RplRouter.handleDioTimer]
  split
  · next postponed =>
      have prompt : Schedule.Prompt { schedule with queue := rest } := paced.prompt
      simp only [Bool.and_eq_true, Bool.not_eq_true'] at postponed
      apply ctimerSet
      · exact paced.sound.congr rfl rfl rfl rfl
      · exact prompt
      · exact paced.now
      · exact simulates
      · decide
      · exact none.trans_le (Nat.zero_le 1)
      · intro _ time member
        rw [paced.sound.silent postponed.1] at member
        cases member
      · exact fun more => absurd none (Nat.ne_of_gt more)
      · exact paced.relaxed
      · intro holds
        rw [addressed holds] at postponed
        cases postponed.2
  · split
    · next sends => exact paced.sendDio audible waits none simulates sends
    · next rests =>
        exact paced.nextInterval waits none simulates (eq_false_of_ne_true rests) random

/-- An inconsistency makes the next interval short. -/
theorem resetDioTimer (paced : Paced pace alone schedule router)
    (simulates : Simulates .etimer schedule router.timers) (random : Word) :
    ∃ later after, router.resetDioTimer random = some later ∧
      Simulates .etimer after later.timers ∧ Paced pace alone after later := by
  have sound := paced.sound
  have proper := sound.low.trans sound.high
  have ahead := paced.ticks_le_awaited
  rw [RplRouter.resetDioTimer]
  split
  · next longer =>
      rw [sound.intmin_eq] at longer
      apply newDioInterval
      · exact ⟨sound.intmin_eq, sound.maximum_eq, sound.redundancy_eq, sound.intmin_eq.ge,
          sound.intmin_eq.trans_le proper, sound.nextDelay, sound.silent, fun _ => rfl,
          sound.sentBy, sound.spaced⟩
      · exact paced.prompt
      · exact paced.now
      · exact simulates
      · exact paced.heardOnce
      · intro waits
        refine ⟨pace.half_pos proper, ?_, .inr sound.intmin_eq.le⟩
        cases sends : router.dio.dioSend with
        | true => exact (paced.event sends waits).1
        | false => exact (paced.relaxed sends).resolve_right (Nat.not_le_of_lt longer)
      · intro holds
        have coming := paced.coming holds
        refine ⟨fun _ => ahead.trans coming, fun none => le_trans ?_ coming⟩
        dsimp only
        have quiet : ¬ 0 < heard schedule := by omega
        rw [sound.intmin_eq, if_neg (Nat.lt_irrefl _), Nat.add_zero, awaited, if_neg quiet,
          if_pos longer]
        refine Nat.add_le_add (paced.ticks_le_deadline quiet) ?_
        split
        · exact le_rfl
        · exact Nat.le_add_left _ _
  · exact ⟨router, schedule, rfl, simulates, paced⟩

end Paced

/-! ## Runs -/

/-- The router hears no DIO, and has an address to send its own from. -/
def TrickleAction.isAlone : TrickleAction → Bool
  | .tick | .reset _ | .other _ => true
  | .turn preferred _ => preferred
  | .hear => false

/-- A router whose timer keeps the invariant. -/
def Pacing (pace : Pace) (alone : Prop) (router : RplRouter) : Prop :=
  ∃ schedule, Simulates .etimer schedule router.timers ∧ Paced pace alone schedule router

section Runs

variable {router : RplRouter} {pace : Pace} {alone : Prop}

theorem Pacing.turn (pacing : Pacing pace alone router) (audible : alone → 0 < pace.redundancy)
    {preferred : Bool} (addressed : alone → preferred = true) (random : Word) :
    ∃ later, router.turn preferred random = some later ∧ Pacing pace alone later := by
  obtain ⟨schedule, simulates, paced⟩ := pacing
  obtain ⟨polled, poll, posted⟩ := router.timerStep_simulates simulates .poll
    ⟨paced.prompt.late, trivial⟩ rfl
  have after := (paced.poll simulates.distinct).timers polled
  obtain ⟨taken, take, dequeued⟩ := RplRouter.timerStep_simulates { router with timers := polled }
    posted .take ⟨after.prompt.late, trivial⟩ rfl
  cases queue : schedule.poll.queue with
  | nil =>
      refine ⟨_, RplRouter.turn_nil poll take (posted.queue.trans queue), _, dequeued,
        (after.timers taken).congr rfl after.prompt ?_⟩
      exact ⟨rfl, rfl, rfl, rfl, by rw [queue]; rfl⟩
  | cons event rest =>
      rw [queue, List.tail_cons] at dequeued
      rw [RplRouter.turn_cons poll take (posted.queue.trans queue), RplRouter.ctimerProcess]
      split
      · next called =>
          obtain ⟨later, last, handled, simulated, kept⟩ := (after.timers taken).handleDioTimer
            audible queue called.1 dequeued addressed random
          exact ⟨later, handled, last, simulated, kept⟩
      · next ignored =>
          have silent : announces .ctimer .dioTimer event = false :=
            eq_false_of_ne_true fun announced => ignored ⟨announced, after.listed⟩
          refine ⟨_, rfl, _, dequeued, (after.timers taken).congr rfl after.prompt ?_⟩
          refine ⟨rfl, rfl, rfl, rfl, ?_⟩
          rw [queue, List.countP_cons_of_neg (by simp [silent])]

theorem Pacing.tick (pacing : Pacing pace alone router) (idle : router.timers.Idle .etimer) :
    ∃ later, router.step .tick = some later ∧ Pacing pace alone later := by
  obtain ⟨schedule, simulates, paced⟩ := pacing
  obtain ⟨empty, ahead⟩ := idle.ahead simulates
  obtain ⟨timers, ticked, after⟩ := RplRouter.timerStep_simulates
    { router with ticks := router.ticks + 1 } simulates (.tick 0)
    ⟨paced.prompt.late, (by decide : 0 < 256)⟩ rfl
  exact ⟨_, ticked, _, after, (paced.tick empty ahead).timers timers⟩

theorem Pacing.other (pacing : Pacing pace alone router)
    {action : TimerAction RouterProcess RouterTimer}
    (others : Others .ctimer RouterTimer.isDio router.timers.memory action = true) :
    ∃ later, router.step (.other action) = some later ∧ Pacing pace alone later := by
  obtain ⟨schedule, simulates, paced⟩ := pacing
  have owned : schedule.Owned .ctimer RouterTimer.isDio := by
    intro timer mine member
    cases timer with
    | dioTimer => exact paced.owner member
    | other => cases mine
  obtain ⟨next, timers, called, after, now, prompt, undisturbed⟩ :=
    simulates.others paced.prompt owned others
  refine ⟨{ router with timers }, ?_, next, after,
    (paced.congr now prompt (undisturbed _ rfl)).timers timers⟩
  rw [RplRouter.step, RplRouter.timerStep, called, Option.map_some]

/-- Every prompt step keeps the invariant. -/
theorem Pacing.step (pacing : Pacing pace alone router) (audible : alone → 0 < pace.redundancy)
    {action : TrickleAction} (prompt : router.Prompt action)
    (isAlone : alone → action.isAlone = true) :
    ∃ later, router.step action = some later ∧ Pacing pace alone later := by
  cases action with
  | tick => exact pacing.tick prompt
  | turn preferred random => exact pacing.turn audible isAlone random
  | reset random =>
      obtain ⟨schedule, simulates, paced⟩ := pacing
      obtain ⟨later, after, reset, simulated, kept⟩ := paced.resetDioTimer simulates random
      exact ⟨later, reset, after, simulated, kept⟩
  | hear =>
      obtain ⟨schedule, simulates, paced⟩ := pacing
      have sound := paced.sound
      refine ⟨_, rfl, schedule, simulates, { paced with sound := ?_ }⟩
      exact ⟨sound.intmin_eq, sound.maximum_eq, sound.redundancy_eq, sound.low, sound.high,
        sound.nextDelay, sound.silent, fun holds => absurd (isAlone holds) Bool.false_ne_true,
        sound.sentBy, sound.spaced⟩
  | other action => exact pacing.other prompt

/-- An instance begins, and its timer is set. -/
theorem pacing_start {timers : TimerNode RouterProcess RouterTimer}
    (unset : TimersUnset .etimer timers) {intdoubl : ℕ}
    (doubles : pace.intmin + intdoubl = pace.maximum) (positive : 0 < intdoubl) (random : Word) :
    ∃ start, RplRouter.start timers pace.intmin intdoubl pace.redundancy random = some start ∧
      Pacing pace alone start := by
  have small := pace.small
  have fits : (pace.intmin + intdoubl) % 256 = pace.maximum := by omega
  have shortest : dioTicks pace.intmin = pace.shortest := rfl
  rw [RplRouter.start, RplRouter.resetDioTimer, fits, if_pos (by dsimp only; omega)]
  have prompt : Schedule.Prompt ({} : RouterSchedule) := fun _ none => absurd none List.not_mem_nil
  have quiet : heard {} = 0 := rfl
  obtain ⟨start, after, begun, simulated, paced⟩ :
      ∃ start after, RplRouter.newDioInterval
          { timers
            dio :=
              { dioIntmin := pace.intmin
                dioIntdoubl := intdoubl
                dioRedundancy := pace.redundancy
                dioIntcurrent := pace.intmin } } random = some start ∧
        Simulates .etimer after start.timers ∧ Paced pace alone after start := by
    apply Paced.newDioInterval
    · exact ⟨rfl, doubles, rfl, le_rfl, by dsimp only; omega, Nat.zero_le _, fun _ => rfl,
        fun _ => rfl, fun _ none => absurd none List.not_mem_nil, justified_nil _⟩
    · exact prompt
    · rfl
    · exact unset.simulates
    · exact quiet.trans_le (Nat.zero_le 1)
    · exact fun waits => absurd quiet (Nat.ne_of_gt waits)
    · intro _
      refine ⟨fun waits => absurd quiet (Nat.ne_of_gt waits), fun _ => ?_⟩
      dsimp only
      rw [if_neg (Nat.lt_irrefl _), shortest, Pace.gap]
      omega
  exact ⟨start, begun, after, simulated, paced⟩

variable {timers : TimerNode RouterProcess RouterTimer} {intmin intdoubl redundancy : ℕ}
  {random : Word} {start : RplRouter} {actions : List TrickleAction}

end Runs

/-! ## An example -/

/-- A router after its start. -/
def routerNode : TimerNode RouterProcess RouterTimer where
  processList := [.etimer, .ctimer]
  running _ := true
  events := noEvents
  memory := {}

theorem routerNode_unset : TimersUnset .etimer routerNode := ⟨rfl, rfl, rfl, rfl⟩

/-- An interval of two ticks, the DIO at its middle, and an inconsistency after it. -/
def routerActions : List TrickleAction :=
  [.turn true 0, .tick, .turn true 0, .reset 0, .turn true 65535]

end IotLab.Routing
