import IotLab.Firmware.AlarmEvents
import IotLab.Firmware.DataPeriod
import IotLab.Library.Codec
import Mathlib.Algebra.Group.Nat.Defs

/-!
# The timer of the DIOs

A node sends a DIO once in each interval, in its second half, unless it has heard enough of
them.  Intervals become longer up to a maximum; an inconsistency makes the next one short
again.  The timer is a `ctimer`, whose process calls `handle_dio_timer` when the event of the
timer comes.
-/

namespace IotLab.Routing

open IotLab.Library
open IotLab.Firmware

/-- The processes of a router. -/
inductive RouterProcess where
  | etimer
  | ctimer
  | other (number : ℕ)
  deriving Repr, DecidableEq

/-- The event timers of a router. -/
inductive RouterTimer where
  | dioTimer
  | other (number : ℕ)
  deriving Repr, DecidableEq

/-- The timer is that of the DIOs. -/
def RouterTimer.isDio : RouterTimer → Bool
  | .dioTimer => true
  | .other _ => false

/-- `RANDOM_RAND_MAX`. -/
def randomRandMax : ℕ := 65535

/-- The fields of an instance for the timer of the DIOs, all but the last of eight bits. -/
structure DioInstance where
  dioIntmin : ℕ
  dioIntdoubl : ℕ
  dioRedundancy : ℕ
  dioIntcurrent : ℕ
  dioSend : Bool := false
  dioCounter : ℕ := 0
  dioNextDelay : ℕ := 0
  deriving Repr, DecidableEq

/-- The ticks of an interval. -/
def dioTicks (intcurrent : ℕ) : ℕ :=
  toClockTime (toClockTime (2 ^ intcurrent) * clockSecond) / 1000

/-- The random part of an interval up to the DIO. -/
def dioDelay (ticks : ℕ) (random : Word) : ℕ :=
  toClockTime (ticks / 2 + toClockTime (ticks / 2 * random.val) / randomRandMax)

/-- A router.  The log has the tick of each DIO that the timer sends. -/
structure RplRouter where
  timers : TimerNode RouterProcess RouterTimer
  dio : DioInstance
  dioSendOk : Bool := false
  /-- `dio_timer` is in `ctimer_list`. -/
  listed : Bool := false
  ticks : ℕ := 0
  sent : List ℕ := []

/-- What happens on a router. -/
inductive TrickleAction where
  /-- The interrupt of the clock. -/
  | tick
  /-- A turn of the main loop, with the result of `random_rand`; `preferred` tells whether
  there is a preferred link-local address. -/
  | turn (preferred : Bool) (random : Word)
  /-- `rpl_reset_dio_timer`, for an inconsistency. -/
  | reset (random : Word)
  /-- A consistent DIO is counted. -/
  | hear
  /-- What the other processes do. -/
  | other (action : TimerAction RouterProcess RouterTimer)

namespace RplRouter

/-- A call of the timers. -/
def timerStep (router : RplRouter) (action : TimerAction RouterProcess RouterTimer) :
    Option RplRouter :=
  (TimerNode.step .etimer router.timers action).map fun timers => { router with timers }

/-- `ctimer_set` of `dio_timer`. -/
def ctimerSet (router : RplRouter) (ticks : ℕ) : Option RplRouter :=
  { router with listed := true }.timerStep (.set .ctimer .dioTimer ticks)

/-- `new_dio_interval`. -/
def newDioInterval (router : RplRouter) (random : Word) : Option RplRouter :=
  let ticks := dioTicks router.dio.dioIntcurrent
  let delay := dioDelay ticks random
  { router with
    dio := { router.dio with
      dioNextDelay := clockSub ticks delay
      dioSend := true
      dioCounter := 0 } }.ctimerSet delay

/-- `handle_dio_timer`. -/
def handleDioTimer (router : RplRouter) (preferred : Bool) (random : Word) : Option RplRouter :=
  if !router.dioSendOk && !preferred then router.ctimerSet clockSecond
  else if router.dio.dioSend then
    { router with
      dioSendOk := true
      dio := { router.dio with dioSend := false }
      sent :=
        if router.dio.dioCounter < router.dio.dioRedundancy then router.sent ++ [router.ticks]
        else router.sent }.ctimerSet router.dio.dioNextDelay
  else
    { router with
      dioSendOk := true
      dio := { router.dio with
        dioIntcurrent :=
          if router.dio.dioIntcurrent < router.dio.dioIntmin + router.dio.dioIntdoubl then
            router.dio.dioIntcurrent + 1
          else router.dio.dioIntcurrent } }.newDioInterval random

/-- `rpl_reset_dio_timer`. -/
def resetDioTimer (router : RplRouter) (random : Word) : Option RplRouter :=
  if router.dio.dioIntmin < router.dio.dioIntcurrent then
    { router with
      dio := { router.dio with
        dioCounter := 0
        dioIntcurrent := router.dio.dioIntmin } }.newDioInterval random
  else some router

/-- The ctimer process gets an event: the timer leaves the list, and its handler is called. -/
def ctimerProcess (router : RplRouter)
    (event : PostedEvent RouterProcess (EventData RouterProcess RouterTimer)) (preferred : Bool)
    (random : Word) : Option RplRouter :=
  if announces .ctimer .dioTimer event ∧ router.listed = true then
    { router with listed := false }.handleDioTimer preferred random
  else some router

/-- A turn of the main loop: the poll of the timers, then one event. -/
def turn (router : RplRouter) (preferred : Bool) (random : Word) : Option RplRouter := do
  let polled ← router.timerStep .poll
  let taken ← polled.timerStep .take
  match polled.timers.events.contents with
  | [] => some taken
  | event :: _ => taken.ctimerProcess event preferred random

section

variable {router polled taken : RplRouter} {preferred : Bool} {random : Word}

theorem turn_nil (poll : router.timerStep .poll = some polled)
    (take : polled.timerStep .take = some taken) (empty : polled.timers.events.contents = []) :
    router.turn preferred random = some taken := by
  simp only [turn, poll, take, empty, Option.bind_eq_bind, Option.bind_some]

theorem turn_cons {event : PostedEvent RouterProcess (EventData RouterProcess RouterTimer)}
    {rest : List (PostedEvent RouterProcess (EventData RouterProcess RouterTimer))}
    (poll : router.timerStep .poll = some polled) (take : polled.timerStep .take = some taken)
    (queue : polled.timers.events.contents = event :: rest) :
    router.turn preferred random = taken.ctimerProcess event preferred random := by
  simp only [turn, poll, take, queue, Option.bind_eq_bind, Option.bind_some]

end

/-- One step of a router. -/
def step (router : RplRouter) : TrickleAction → Option RplRouter
  | .tick => { router with ticks := router.ticks + 1 }.timerStep (.tick 0)
  | .turn preferred random => router.turn preferred random
  | .reset random => router.resetDioTimer random
  | .hear => some { router with dio := { router.dio with dioCounter :=
      (router.dio.dioCounter + 1) % 256 } }
  | .other action => router.timerStep action

/-- An instance begins: `rpl_set_root` and `rpl_join_instance` set the longest interval and then
reset the timer. -/
def start (timers : TimerNode RouterProcess RouterTimer) (intmin intdoubl redundancy : ℕ)
    (random : Word) : Option RplRouter :=
  RplRouter.resetDioTimer
    { timers
      dio :=
        { dioIntmin := intmin
          dioIntdoubl := intdoubl
          dioRedundancy := redundancy
          dioIntcurrent := (intmin + intdoubl) % 256 } } random

/-- The main loop has nothing left to do when the clock ticks, and other processes leave the
timer alone. -/
def Prompt (router : RplRouter) : TrickleAction → Prop
  | .tick => router.timers.Idle .etimer
  | .turn _ _ | .reset _ | .hear => True
  | .other action => Others .ctimer RouterTimer.isDio router.timers.memory action = true

instance (router : RplRouter) (action : TrickleAction) : Decidable (router.Prompt action) :=
  match action with
  | .tick => inferInstanceAs (Decidable (router.timers.Idle .etimer))
  | .turn _ _ | .reset _ | .hear => isTrue trivial
  | .other action =>
      inferInstanceAs
        (Decidable (Others .ctimer RouterTimer.isDio router.timers.memory action = true))

end RplRouter

/-! ## The ticks of an interval -/

theorem dioTicks_eq {intcurrent : ℕ} (small : intcurrent ≤ 24) :
    dioTicks intcurrent = 2 ^ intcurrent * 128 / 1000 := by
  have power : 2 ^ intcurrent ≤ 2 ^ 24 := Nat.pow_le_pow_right (by decide) small
  have fits : toClockTime (2 ^ intcurrent) = 2 ^ intcurrent := Nat.mod_eq_of_lt (by omega)
  rw [dioTicks, fits, clockSecond, toClockTime, Nat.mod_eq_of_lt (by omega)]

theorem dioTicks_mono {shorter longer : ℕ} (le : shorter ≤ longer) (small : longer ≤ 24) :
    dioTicks shorter ≤ dioTicks longer := by
  rw [dioTicks_eq small, dioTicks_eq (le.trans small)]
  have power : 2 ^ shorter ≤ 2 ^ longer := Nat.pow_le_pow_right (by decide) le
  exact Nat.div_le_div_right (Nat.mul_le_mul_right _ power)

theorem dioTicks_lt {intcurrent : ℕ} (small : intcurrent ≤ 24) : dioTicks intcurrent < 2147484 := by
  have power : 2 ^ intcurrent ≤ 2 ^ 24 := Nat.pow_le_pow_right (by decide) small
  rw [dioTicks_eq small]
  omega

/-- The DIO comes in the second half of the interval, although the product overflows. -/
theorem dioDelay_bounds {ticks : ℕ} (short : ticks < 2147484) (random : Word) :
    ticks / 2 ≤ dioDelay ticks random ∧ dioDelay ticks random ≤ ticks := by
  have part : toClockTime (ticks / 2 * random.val) / randomRandMax ≤ ticks / 2 := by
    rw [randomRandMax]
    apply Nat.div_le_of_le_mul
    have below := Nat.mod_le (ticks / 2 * random.val) 4294967296
    have random_ : random.val ≤ 65535 := Nat.le_of_lt_succ random.isLt
    calc toClockTime (ticks / 2 * random.val) ≤ ticks / 2 * random.val := below
      _ ≤ ticks / 2 * 65535 := Nat.mul_le_mul_left _ random_
      _ = 65535 * (ticks / 2) := Nat.mul_comm _ _
  have fits : ticks / 2 + toClockTime (ticks / 2 * random.val) / randomRandMax < 4294967296 := by
    omega
  have sum : dioDelay ticks random =
      ticks / 2 + toClockTime (ticks / 2 * random.val) / randomRandMax := Nat.mod_eq_of_lt fits
  generalize toClockTime (ticks / 2 * random.val) / randomRandMax = added at part sum
  omega

end IotLab.Routing
