import Mathlib.Logic.Function.Iterate
import Mathlib.Order.Bounds.Basic

/-!
# While loops

A loop that repeats its body as long as a guard holds.  It ends if and only if the guard
fails after some number of turns, and then it returns the first such state.
-/

namespace IotLab.Library

variable {σ : Type*}

/-- `while (guard) body`, with a bound on the tests of the guard. -/
def whileLoop (guard : σ → Bool) (body : σ → σ) : (fuel : ℕ) → σ → Option σ
  | 0, _ => none
  | fuel + 1, state =>
      if guard state then whileLoop guard body fuel (body state) else some state

variable {guard : σ → Bool} {body : σ → σ} {state : σ} {turns : ℕ}

/-- The loop ends after the least number of turns behind which the guard fails. -/
theorem whileLoop_eq (least : IsLeast {turns | guard (body^[turns] state) = false} turns)
    (fuel : ℕ) :
    whileLoop guard body fuel state =
      if turns < fuel then some (body^[turns] state) else none := by
  induction fuel generalizing state turns with
  | zero => rfl
  | succ fuel ih =>
      rw [whileLoop]
      cases turns with
      | zero =>
          have fails : guard state = false := least.1
          rw [if_neg (by simp [fails]), if_pos (Nat.succ_pos fuel)]
          rfl
      | succ turns =>
          have holds : guard state = true := by
            by_contra fails
            have early : turns + 1 ≤ 0 := least.2 (Bool.eq_false_iff.2 fails)
            omega
          have next : IsLeast {turns | guard (body^[turns] (body state)) = false} turns := by
            refine ⟨least.1, fun other fails => ?_⟩
            have later : turns + 1 ≤ other + 1 := least.2 fails
            omega
          rw [if_pos holds, ih next]
          simp only [Nat.add_lt_add_iff_right, Function.iterate_succ_apply]

end IotLab.Library
