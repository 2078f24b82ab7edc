import Mathlib.Logic.Function.Iterate
import Mathlib.Data.Nat.Find

/-!
# Loops with a bound

A loop that takes a step, and repeats it until a condition holds or it has been repeated
a given number of times.  What it returns is an iterate of the step; the number of steps
is determined by the first state with the condition.
-/

namespace IotLab.Library

section BoundedLoop

variable {State : Type*} (step : State → State) (stop : State → Prop)

/-- One step and `again` more at most, until the condition holds. -/
def repeatUntil [DecidablePred stop] : (again : ℕ) → State → State
  | 0, state => step state
  | again + 1, state =>
      if stop (step state) then step state else repeatUntil again (step state)

/-- The loop repeats its step this number of times. -/
structure Repeats (again : ℕ) (state : State) (count : ℕ) : Prop where
  bound : count ≤ again
  earlier : ∀ before < count, ¬ stop (step^[before + 1] state)
  last : stop (step^[count + 1] state) ∨ count = again

variable {step stop} {again count other : ℕ} {state : State}

theorem Repeats.unique (repeats : Repeats step stop again state count)
    (repeats' : Repeats step stop again state other) : count = other := by
  by_contra different
  obtain less | less := Nat.lt_or_gt_of_ne different
  · cases repeats.last with
    | inl stopped => exact repeats'.earlier count less stopped
    | inr full => exact absurd repeats'.bound (Nat.not_le.2 (full ▸ less))
  · cases repeats'.last with
    | inl stopped => exact repeats.earlier other less stopped
    | inr full => exact absurd repeats.bound (Nat.not_le.2 (full ▸ less))

/-- A loop that does not end at once repeats the step once more than from the next
state. -/
theorem Repeats.succ (goes : ¬ stop (step state))
    (repeats : Repeats step stop again (step state) count) :
    Repeats step stop (again + 1) state (count + 1) where
  bound := Nat.succ_le_succ repeats.bound
  earlier := by
    intro before less
    cases before with
    | zero => exact goes
    | succ before => exact repeats.earlier before (Nat.lt_of_succ_lt_succ less)
  last := repeats.last.imp_right (congrArg (· + 1))

variable (step stop)

theorem exists_repeats [DecidablePred stop] (again : ℕ) (state : State) :
    ∃ count, Repeats step stop again state count ∧
      repeatUntil step stop again state = step^[count + 1] state := by
  induction again generalizing state with
  | zero => exact ⟨0, ⟨Nat.le_refl 0, by simp, .inr rfl⟩, rfl⟩
  | succ again ih =>
      rw [repeatUntil]
      by_cases stopped : stop (step state)
      · exact ⟨0, ⟨Nat.zero_le _, by simp, .inl stopped⟩, if_pos stopped⟩
      · obtain ⟨count, repeats, same⟩ := ih (step state)
        exact ⟨count + 1, repeats.succ stopped, (if_neg stopped).trans same⟩

/-- The loop ends with the condition if it holds after some number of steps. -/
theorem stop_repeatUntil_iff [DecidablePred stop] :
    stop (repeatUntil step stop again state) ↔
      ∃ count ≤ again, stop (step^[count + 1] state) := by
  obtain ⟨count, repeats, same⟩ := exists_repeats step stop again state
  rw [same]
  constructor
  · exact fun stopped => ⟨count, repeats.bound, stopped⟩
  · rintro ⟨first, bound, stopped⟩
    cases repeats.last with
    | inl last => exact last
    | inr full =>
        obtain less | same := Nat.lt_or_eq_of_le (full ▸ bound)
        · exact absurd stopped (repeats.earlier first less)
        · exact same ▸ stopped

end BoundedLoop

/-- What holds first and not always holds up to some number, and not for the next. -/
theorem exists_last (holds : ℕ → Prop) (zero : holds 0) {bound : ℕ} (fails : ¬ holds bound) :
    ∃ last < bound, (∀ before < last + 1, holds before) ∧ ¬ holds (last + 1) := by
  classical
  have ends : ∃ number, ¬ holds number := ⟨bound, fails⟩
  have first := Nat.find_spec ends
  have bounded := Nat.find_min' ends fails
  cases least : Nat.find ends with
  | zero =>
      rw [least] at first
      exact absurd zero first
  | succ last =>
      rw [least] at first bounded
      refine ⟨last, bounded, ?_, first⟩
      intro before less
      exact not_not.1 (Nat.find_min ends (least ▸ less))

end IotLab.Library
