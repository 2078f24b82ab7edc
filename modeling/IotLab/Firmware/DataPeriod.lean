import IotLab.Firmware.SenderCommand
import IotLab.Library.Runs

/-!
# The period of the data messages

`set_data_period` sets both timers of `data.c`.  When the timer of the period expires,
`data_check` waits for a random time below the period before it sends, so that a period of
zero is a division by zero at the next timer.
-/

namespace IotLab.Firmware

open IotLab.Library

/-- `CLOCK_SECOND`. -/
def clockSecond : ℕ := 128

/-- Assignment to a `clock_time_t`, which has 32 bits. -/
def toClockTime (value : ℕ) : ℕ := value % 4294967296

/-- The static variables of `data.c` that its timers use: the intervals of `period_timer` and
`wait_timer`, and the number of calls of `data_send`. -/
structure DataModule where
  dataPeriod : ℕ := 30
  randwait : ℕ := 30
  started : Bool := true
  periodTimer : ℕ := 3840
  waitTimer : ℕ := 0
  sends : ℕ := 0
  deriving Repr, DecidableEq

/-- `set_data_period`. -/
def DataModule.setDataPeriod (state : DataModule) (period : ℕ) : DataModule :=
  { state with
    dataPeriod := period
    randwait := period
    periodTimer := toClockTime (clockSecond * period)
    waitTimer := toClockTime (clockSecond * period) }

/-- The comparison of `sender_start_modules` and `sender_stop_modules` for this module. -/
def namesData (name : Text) : Bool :=
  strncmpEq name "ALL".toList 3 || strncmpEq "DATA".toList name 4

/-- What a call out of `sender_command_check` does to the module. -/
def DataModule.call (state : DataModule) : SenderCall → DataModule
  | .setDataPeriod period => state.setDataPeriod period
  | .senderStartModules name => if namesData name then { state with started := true } else state
  | .senderStopModules name => if namesData name then { state with started := false } else state
  | .strdup _ | .free | .setTxpower _ | .multicastSend _ => state

/-- A timer that expires: one of the module, with the value of `random_rand`, or another. -/
inductive TimerEvent where
  | period (random : ℕ)
  | wait
  | other
  deriving Repr, DecidableEq

/-- The event is that of `period_timer`. -/
def TimerEvent.isPeriod : TimerEvent → Bool
  | .period _ => true
  | .wait | .other => false

/-- `data_check`; `none` is a remainder by zero.  `etimer_reset` keeps the interval. -/
def dataCheck (state : DataModule) : TimerEvent → Option DataModule
  | .period random =>
      let range := toClockTime (clockSecond * state.randwait)
      if range = 0 then none else some { state with waitTimer := random % range }
  | .wait => some (if state.started then { state with sends := state.sends + 1 } else state)
  | .other => some state

/-- After each event the timers go on, and that of the period has the period in force. -/
def PeriodSafe (state : DataModule) (events : List TimerEvent) : Prop :=
  ∀ before, before <+: events → ∃ later, run dataCheck state before = some later ∧
    later.periodTimer = clockSecond * later.dataPeriod

/-- The period that a command asks for. -/
def requestedPeriod (text : Text) : ℕ := toUInt16 (atoi ((commandArgument text).getD []))

/-! ## The timers -/

section Timers

variable {state next : DataModule} {events : List TimerEvent} {event : TimerEvent}

/-- The state of the timers between the events: the period fits. -/
structure DataModule.Runs (state : DataModule) : Prop where
  same : state.randwait = state.dataPeriod
  fits : state.dataPeriod < 65536
  set : state.periodTimer = clockSecond * state.dataPeriod

theorem toClockTime_clockSecond {period : ℕ} (fits : period < 65536) :
    toClockTime (clockSecond * period) = clockSecond * period := by
  rw [toClockTime, clockSecond]
  omega

theorem toUInt16_lt (value : ℤ) : toUInt16 value < 65536 := by
  rw [toUInt16]
  omega

theorem DataModule.runs_setDataPeriod (state : DataModule) {period : ℕ} (fits : period < 65536) :
    (state.setDataPeriod period).Runs :=
  ⟨rfl, fits, toClockTime_clockSecond fits⟩

/-- What `data_check` can do: it keeps the period, and fails for the period zero only. -/
theorem DataModule.Runs.step (runs : state.Runs) (event : TimerEvent) :
    (∃ next, dataCheck state event = some next ∧ next.Runs ∧
        next.dataPeriod = state.dataPeriod ∧
        (state.dataPeriod ≠ 0 ∨ event.isPeriod = false)) ∨
      dataCheck state event = none ∧ state.dataPeriod = 0 ∧ event.isPeriod = true := by
  cases event with
  | period random =>
      have range : toClockTime (clockSecond * state.randwait) = clockSecond * state.dataPeriod := by
        rw [runs.same, toClockTime_clockSecond runs.fits]
      simp only [dataCheck, range]
      by_cases zero : state.dataPeriod = 0
      · exact .inr ⟨by rw [if_pos (by rw [zero, Nat.mul_zero])], zero, rfl⟩
      · refine .inl ⟨_, if_neg ?_, ⟨runs.same, runs.fits, runs.set⟩, rfl, .inl zero⟩
        rw [clockSecond]
        omega
  | wait =>
      refine .inl ⟨_, rfl, ?_, ?_, .inr rfl⟩
      · split
        · exact ⟨runs.same, runs.fits, runs.set⟩
        · exact runs
      · split
        · rfl
        · rfl
  | other => exact .inl ⟨state, rfl, runs, rfl, .inr rfl⟩

/-- A run of timers is safe if and only if the period is not zero or never expires. -/
theorem DataModule.Runs.safe_iff (runs : state.Runs) (events : List TimerEvent) :
    PeriodSafe state events ↔
      state.dataPeriod ≠ 0 ∨ ∀ event ∈ events, event.isPeriod = false := by
  induction events generalizing state with
  | nil =>
      refine iff_of_true (fun before shorter => ?_) (.inr fun event none => absurd none
        List.not_mem_nil)
      rw [List.prefix_nil.1 shorter]
      exact ⟨state, rfl, runs.set⟩
  | cons event rest ih =>
      rw [PeriodSafe, forall_prefix_cons_iff, and_iff_right runs.set, List.forall_mem_cons]
      obtain ⟨next, stepped, kept, same, met⟩ | ⟨fails, zero, expires⟩ := runs.step event
      · have later : (∃ other, dataCheck state event = some other ∧ PeriodSafe other rest) ↔
            PeriodSafe next rest := by
          simp only [stepped, Option.some.injEq, exists_eq_left']
        refine (later.trans (ih kept)).trans ?_
        rw [same]
        constructor
        · rintro (some_ | none)
          · exact .inl some_
          · exact met.imp_right fun quiet => ⟨quiet, none⟩
        · exact Or.imp_right And.right
      · simp [fails, zero, expires]

end Timers

/-! ## The command -/

section Command

variable {sender : SenderState} {buffer : Text}

theorem foldl_call_finish (state : SenderState) (text value : Text) (timers : DataModule) :
    (state.finish text .dataPeriod (CommandKind.dataPeriod.calls value)).calls.foldl
      DataModule.call timers = timers.setDataPeriod (toUInt16 (atoi value)) := by
  simp only [SenderState.finish, CommandKind.calls]
  split
  · rfl
  · rfl

/-- An executed `DATA_PERIOD` sets the period that its argument asks for. -/
theorem executed_dataPeriod
    (accepted : (senderCommandCheck sender buffer).verdict = .executed .dataPeriod)
    (timers : DataModule) :
    (senderCommandCheck sender buffer).calls.foldl DataModule.call timers =
      timers.setDataPeriod (requestedPeriod (cString buffer)) := by
  have all := senderCommandCheck_cases sender buffer
  generalize senderCommandCheck sender buffer = reply at all accepted ⊢
  cases all with
  | noVersion | obsolete | noWord | unhandled | incomplete => cases accepted
  | executed kind value _ _ _ given =>
      obtain rfl : kind = .dataPeriod := SenderVerdict.executed.inj accepted
      have argument := given.resolve_left CommandKind.noConfusion
      rw [requestedPeriod, argument, Option.getD_some]
      exact foldl_call_finish _ _ value timers

/-- After an accepted `DATA_PERIOD`, a run of timers is safe if and only if the period is not
zero, or the timer of the period does not expire. -/
theorem periodSafe_iff
    (accepted : (senderCommandCheck sender buffer).verdict = .executed .dataPeriod)
    (timers : DataModule) (events : List TimerEvent) :
    PeriodSafe ((senderCommandCheck sender buffer).calls.foldl DataModule.call timers) events ↔
      requestedPeriod (cString buffer) ≠ 0 ∨ ∀ event ∈ events, event.isPeriod = false := by
  rw [executed_dataPeriod accepted]
  exact (timers.runs_setDataPeriod (toUInt16_lt _)).safe_iff events

/-- A period of a minute. -/
theorem periodSafe_minute :
    PeriodSafe ((senderCommandCheck {} "1 DATA_PERIOD 60".toList).calls.foldl DataModule.call {})
      [.period 7000, .wait] :=
  (periodSafe_iff (by decide) {} _).2 (.inl (by decide))

/-- A period of zero and the next timer. -/
theorem not_periodSafe_zero :
    (senderCommandCheck {} "1 DATA_PERIOD 0".toList).verdict = .executed .dataPeriod ∧
      ¬ PeriodSafe ((senderCommandCheck {} "1 DATA_PERIOD 0".toList).calls.foldl
        DataModule.call {}) [.period 7] := by
  refine ⟨by decide, fun safe => ?_⟩
  obtain ⟨later, executed, _⟩ := safe [.period 7] (List.prefix_refl _)
  have fails : run dataCheck ((senderCommandCheck {} "1 DATA_PERIOD 0".toList).calls.foldl
      DataModule.call {}) [.period 7] = none := by decide
  rw [fails] at executed
  cases executed

end Command

end IotLab.Firmware
