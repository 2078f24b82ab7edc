import IotLab.Firmware.Command
import IotLab.Library.WhileLoop
import Mathlib.Algebra.Group.Nat.Defs
import Mathlib.Data.Nat.Find

/-!
# The energy counters of a data message

`data_construct_message` sends how long the processor and the radio were active since the
last message.  The four times have 32 bits; they are halved together until they fit into
the 16 bits of their fields.
-/

namespace IotLab.Firmware

open IotLab.Library

/-- The types of `energest_type_time` that are read. -/
inductive EnergyType where
  | cpu
  | lpm
  | transmit
  | listen
  deriving Repr, DecidableEq

/-- A value for each type. -/
abbrev EnergyTimes := EnergyType → ℕ

/-- The differences, as `unsigned long`s of 32 bits. -/
def EnergyTimes.since (times last : EnergyTimes) : EnergyTimes :=
  fun type => (times type + 4294967296 - last type % 4294967296) % 4294967296

/-- The guard of the loop. -/
def EnergyTimes.large (times : EnergyTimes) : Bool :=
  times .cpu ≥ 65536 || times .lpm ≥ 65536 || times .transmit ≥ 65536 || times .listen ≥ 65536

/-- The body of the loop. -/
def EnergyTimes.halve (times : EnergyTimes) : EnergyTimes := fun type => times type / 2

/-- The scaling loop, with a bound on the tests of its guard. -/
def EnergyTimes.scale (fuel : ℕ) (times : EnergyTimes) : Option EnergyTimes :=
  whileLoop EnergyTimes.large EnergyTimes.halve fuel times

/-- The fields `cpu`, `lpm`, `transmit` and `listen` of the message. -/
def EnergyTimes.store (times : EnergyTimes) : EnergyTimes := fun type => times type % 65536

/-- The part of `data_construct_message` for the energy: the fields, and the static
variables afterwards, which are read again. -/
def constructEnergy (fuel : ℕ) (last times timesAfter : EnergyTimes) :
    Option (EnergyTimes × EnergyTimes) :=
  ((times.since last).scale fuel).map fun scaled => (scaled.store, timesAfter)

/-- All times, divided by the same power of two. -/
def EnergyTimes.shifted (times : EnergyTimes) (exponent : ℕ) : EnergyTimes :=
  fun type => times type / 2 ^ exponent

/-! ## The loop -/

section Loop

variable {times last : EnergyTimes} {exponent : ℕ}

theorem EnergyTimes.large_eq_false_iff (times : EnergyTimes) :
    times.large = false ↔ ∀ type, times type < 65536 := by
  simp only [EnergyTimes.large, Bool.or_eq_false_iff, decide_eq_false_iff_not, Nat.not_le]
  constructor
  · rintro ⟨⟨⟨cpu, lpm⟩, transmit⟩, listen⟩ type
    cases type with
    | cpu => exact cpu
    | lpm => exact lpm
    | transmit => exact transmit
    | listen => exact listen
  · exact fun all => ⟨⟨⟨all .cpu, all .lpm⟩, all .transmit⟩, all .listen⟩

theorem EnergyTimes.halve_iterate (times : EnergyTimes) (exponent : ℕ) :
    EnergyTimes.halve^[exponent] times = times.shifted exponent := by
  induction exponent with
  | zero =>
      funext type
      exact (Nat.div_one _).symm
  | succ exponent ih =>
      rw [Function.iterate_succ_apply', ih]
      funext type
      rw [EnergyTimes.halve, EnergyTimes.shifted, EnergyTimes.shifted, Nat.div_div_eq_div_mul,
        pow_succ]

theorem EnergyTimes.since_lt (times last : EnergyTimes) (type : EnergyType) :
    times.since last type < 4294967296 := Nat.mod_lt _ (by decide)

theorem EnergyTimes.exists_least (small : ∀ type, times type < 4294967296) :
    ∃ exponent ≤ 16,
      IsLeast {exponent | ∀ type, times.shifted exponent type < 65536} exponent := by
  have enough : ∀ type, times.shifted 16 type < 65536 := by
    intro type
    have bound := small type
    rw [EnergyTimes.shifted]
    omega
  have some_ : ∃ exponent, ∀ type, times.shifted exponent type < 65536 := ⟨16, enough⟩
  classical
  exact ⟨Nat.find some_, Nat.find_min' some_ enough, Nat.find_spec some_,
    fun other fits => Nat.find_min' some_ fits⟩

theorem EnergyTimes.scale_eq
    (least : IsLeast {exponent | ∀ type, times.shifted exponent type < 65536} exponent)
    {fuel : ℕ} (enough : exponent < fuel) :
    times.scale fuel = some (times.shifted exponent) := by
  have turns : IsLeast {turns | EnergyTimes.large (EnergyTimes.halve^[turns] times) = false}
      exponent := by
    simpa only [EnergyTimes.large_eq_false_iff, EnergyTimes.halve_iterate] using least
  rw [EnergyTimes.scale, whileLoop_eq turns, if_pos enough, EnergyTimes.halve_iterate]

theorem EnergyTimes.store_eq (small : ∀ type, times type < 65536) : times.store = times := by
  funext type
  exact Nat.mod_eq_of_lt (small type)

end Loop

/-- The scaling loop ends after at most 16 turns; the fields are the differences divided by
the least power of two for which all of them fit, in the same order. -/
theorem constructEnergy_scaled (last times timesAfter : EnergyTimes) :
    ∃ exponent ≤ 16,
      IsLeast {exponent | ∀ type, (times.since last).shifted exponent type < 65536} exponent ∧
      (∀ fuel, exponent < fuel →
        (times.since last).scale fuel = some ((times.since last).shifted exponent) ∧
          constructEnergy fuel last times timesAfter =
            some ((times.since last).shifted exponent, timesAfter)) ∧
      ∀ type other, times.since last type ≤ times.since last other →
        (times.since last).shifted exponent type ≤ (times.since last).shifted exponent other := by
  obtain ⟨exponent, few, least⟩ := EnergyTimes.exists_least (times.since_lt last)
  refine ⟨exponent, few, least, fun fuel enough => ?_, fun type other less => ?_⟩
  · have scaled := EnergyTimes.scale_eq least enough
    refine ⟨scaled, ?_⟩
    rw [constructEnergy, scaled, Option.map_some, EnergyTimes.store_eq least.1]
  · exact Nat.div_le_div_right less

end IotLab.Firmware
