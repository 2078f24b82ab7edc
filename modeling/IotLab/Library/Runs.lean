import Mathlib.Data.List.Basic

/-!
# Runs of a partial step function

A component is described by a step function that takes a state and an action and
returns the next state, or `none` when the action is not enabled.  A run executes
a list of actions.  The rules below turn a fact about one step into a fact about
whole runs; `EveryStep` restricts attention to runs whose steps all meet a
condition on the state they are taken in.
-/

namespace IotLab.Library

variable {σ : Type*} {α : Type*}

/-- Execute a list of actions in order. -/
def run (step : σ → α → Option σ) : σ → List α → Option σ
  | state, [] => some state
  | state, action :: rest =>
      match step state action with
      | none => none
      | some next => run step next rest

/-- Every action of the run from a state meets `condition` in the state in which
it is taken. -/
def EveryStep (step : σ → α → Option σ) (condition : σ → α → Prop) :
    σ → List α → Prop
  | _, [] => True
  | state, action :: rest =>
      condition state action ∧
        ∀ next, step state action = some next →
          EveryStep step condition next rest

@[simp] theorem run_nil (step : σ → α → Option σ) (state : σ) :
    run step state [] = some state := rfl

/-- The first step of a nonempty run is enabled and the rest runs from its
result. -/
theorem run_cons {step : σ → α → Option σ} {state final : σ} {action : α}
    {rest : List α} (executed : run step state (action :: rest) = some final) :
    ∃ next, step state action = some next ∧ run step next rest = some final := by
  simp only [run] at executed
  cases stepped : step state action with
  | none => simp [stepped] at executed
  | some next =>
      simp only [stepped] at executed
      exact ⟨next, rfl, executed⟩

theorem run_append (step : σ → α → Option σ) (state : σ) (first second : List α) :
    run step state (first ++ second) =
      (run step state first).bind fun middle => run step middle second := by
  induction first generalizing state with
  | nil => rfl
  | cons action rest ih =>
      simp only [List.cons_append, run]
      cases step state action with
      | none => rfl
      | some next => exact ih next

theorem everyStep_of_forall {step : σ → α → Option σ} {condition : α → Prop}
    {actions : List α} (all : ∀ action ∈ actions, condition action) (state : σ) :
    EveryStep step (fun _ action => condition action) state actions := by
  induction actions generalizing state with
  | nil => trivial
  | cons action rest ih =>
      constructor
      · exact all action List.mem_cons_self
      · intro next _
        exact ih (fun other member => all other (List.mem_cons_of_mem _ member)) next

theorem EveryStep.of_prefix {step : σ → α → Option σ} {condition : σ → α → Prop}
    {before actions : List α} {state : σ} (every : EveryStep step condition state actions)
    (shorter : before <+: actions) : EveryStep step condition state before := by
  obtain ⟨after, rfl⟩ := shorter
  induction before generalizing state with
  | nil => trivial
  | cons action early ih =>
      exact ⟨every.1, fun next stepped => ih (every.2 next stepped)⟩

/-- For a decidable condition the steps can be checked by executing them. -/
instance EveryStep.decidable {step : σ → α → Option σ} {condition : σ → α → Prop}
    [∀ state action, Decidable (condition state action)] :
    (state : σ) → (actions : List α) →
      Decidable (EveryStep step condition state actions)
  | _, [] => isTrue trivial
  | state, action :: rest =>
      match stepped : step state action with
      | none =>
          decidable_of_iff (condition state action) <| by
            simp [EveryStep, stepped]
      | some next =>
          haveI : Decidable (EveryStep step condition next rest) :=
            EveryStep.decidable next rest
          decidable_of_iff
            (condition state action ∧ EveryStep step condition next rest) <| by
            simp [EveryStep, stepped]

/-- Induction over a run whose steps all meet a condition: what one such step
preserves, the run preserves. -/
theorem EveryStep.preserves {step : σ → α → Option σ} {condition : σ → α → Prop}
    (invariant : σ → Prop)
    (stepPreserves : ∀ state action next, invariant state →
      condition state action → step state action = some next → invariant next)
    {state final : σ} {actions : List α}
    (every : EveryStep step condition state actions)
    (initially : invariant state)
    (executed : run step state actions = some final) : invariant final := by
  induction actions generalizing state with
  | nil =>
      simp only [run_nil, Option.some.injEq] at executed
      exact executed ▸ initially
  | cons action rest ih =>
      rcases run_cons executed with ⟨next, stepped, remaining⟩
      apply ih (every.2 next stepped)
      · exact stepPreserves state action next initially every.1 stepped
      · exact remaining

/-- Induction over an arbitrary run. -/
theorem run_preserves {step : σ → α → Option σ} (invariant : σ → Prop)
    (stepPreserves : ∀ state action next, invariant state →
      step state action = some next → invariant next)
    {state final : σ} {actions : List α} (initially : invariant state)
    (executed : run step state actions = some final) : invariant final := by
  induction actions generalizing state with
  | nil =>
      simp only [run_nil, Option.some.injEq] at executed
      exact executed ▸ initially
  | cons action rest ih =>
      rcases run_cons executed with ⟨next, stepped, remaining⟩
      exact ih (stepPreserves state action next initially stepped) remaining

/-- Induction over a run for an invariant that speaks of the actions so far. -/
theorem run_recorded {step : σ → α → Option σ} (invariant : List α → σ → Prop)
    (stepPreserves : ∀ before state action next, invariant before state →
      step state action = some next → invariant (before ++ [action]) next)
    {start final : σ} {actions : List α} (initially : invariant [] start)
    (executed : run step start actions = some final) : invariant actions final := by
  have general : ∀ rest before state, invariant before state →
      run step state rest = some final → invariant (before ++ rest) final := by
    intro rest
    induction rest with
    | nil =>
        intro before state holds finished
        simp only [run_nil, Option.some.injEq] at finished
        rw [List.append_nil]
        exact finished ▸ holds
    | cons action rest ih =>
        intro before state holds goesOn
        obtain ⟨next, stepped, remaining⟩ := run_cons goesOn
        rw [List.append_cons]
        exact ih _ next (stepPreserves before state action next holds stepped) remaining
  exact general actions [] start initially executed

/-- When every action is enabled in a state of the invariant and preserves it, every
list of actions runs to its end. -/
theorem run_total {step : σ → α → Option σ} (invariant : σ → Prop)
    (enabled : ∀ state action, invariant state →
      ∃ next, step state action = some next ∧ invariant next)
    {state : σ} (initially : invariant state) (actions : List α) :
    ∃ final, run step state actions = some final ∧ invariant final := by
  induction actions generalizing state with
  | nil => exact ⟨state, rfl, initially⟩
  | cons action rest ih =>
      obtain ⟨next, stepped, preserved⟩ := enabled state action initially
      obtain ⟨final, executed, finally_⟩ := ih preserved
      refine ⟨final, ?_, finally_⟩
      simp only [run, stepped, executed]

/-- A step function with a view that steps by itself runs like its view. -/
theorem run_map {τ : Type*} {step : σ → α → Option σ} {other : τ → α → Option τ}
    (view : τ → σ)
    (same : ∀ state action, (other state action).map view = step (view state) action)
    (state : τ) (actions : List α) :
    (run other state actions).map view = run step (view state) actions := by
  induction actions generalizing state with
  | nil => rfl
  | cons action rest ih =>
      have first := same state action
      simp only [run]
      cases stepped : other state action with
      | none =>
          rw [stepped] at first
          rw [← first]
          rfl
      | some next =>
          rw [stepped] at first
          rw [← first]
          exact ih next

/-- When a condition on a step says exactly whether the step preserves an invariant, it
holds at every step if and only if the invariant holds in every state on the way. -/
theorem everyStep_iff_invariant {step : σ → α → Option σ} {condition : σ → α → Prop}
    (invariant : σ → Prop)
    (exact : ∀ state action, invariant state →
      ∃ next, step state action = some next ∧ (invariant next ↔ condition state action))
    {start : σ} (initially : invariant start) (actions : List α) :
    (∀ before, before <+: actions → ∀ state, run step start before = some state →
      invariant state) ↔ EveryStep step condition start actions := by
  constructor
  · intro always
    induction actions generalizing start with
    | nil => trivial
    | cons action rest ih =>
        obtain ⟨next, stepped, same⟩ := exact start action initially
        have preserved : invariant next := by
          apply always [action] (List.prefix_append [action] rest) next
          simp only [run, stepped]
        refine ⟨same.1 preserved, fun other taken => ?_⟩
        rw [stepped, Option.some.injEq] at taken
        subst taken
        apply ih preserved
        intro before shorter state executed
        apply always (action :: before) ((List.prefix_cons_inj action).2 shorter) state
        simp only [run, stepped]
        exact executed
  · intro every before shorter state executed
    apply EveryStep.preserves invariant _ _ initially executed
    · exact condition
    · intro current action next holds met stepped
      obtain ⟨other, taken, same⟩ := exact current action holds
      rw [stepped, Option.some.injEq] at taken
      exact taken ▸ same.2 met
    · exact every.of_prefix shorter

/-- What holds after every beginning of a run, by its first action. -/
theorem forall_prefix_cons_iff {step : σ → α → Option σ} {holds : σ → Prop} {state : σ}
    {action : α} {rest : List α} :
    (∀ before, before <+: action :: rest →
      ∃ later, run step state before = some later ∧ holds later) ↔
      holds state ∧ ∃ next, step state action = some next ∧
        ∀ before, before <+: rest → ∃ later, run step next before = some later ∧ holds later := by
  constructor
  · intro all
    obtain ⟨final, executed, _⟩ := all [action] (List.prefix_append [action] rest)
    obtain ⟨next, stepped, _⟩ := run_cons executed
    refine ⟨?_, next, stepped, fun before shorter => ?_⟩
    · obtain ⟨same, executed, here⟩ := all [] List.nil_prefix
      cases executed
      exact here
    · obtain ⟨later, executed, there⟩ := all (action :: before)
        ((List.prefix_cons_inj action).2 shorter)
      simp only [run, stepped] at executed
      exact ⟨later, executed, there⟩
  · rintro ⟨here, next, stepped, all⟩ before shorter
    cases before with
    | nil => exact ⟨state, rfl, here⟩
    | cons first others =>
        obtain ⟨rfl, inside⟩ := List.cons_prefix_cons.1 shorter
        obtain ⟨later, executed, there⟩ := all others inside
        exact ⟨later, by simp only [run, stepped, executed], there⟩

/-- What is observed at the steps of a run, in order. -/
def observed {β : Type*} (step : σ → α → Option σ) (observe : σ → α → List β) :
    σ → List α → List β
  | _, [] => []
  | state, action :: rest =>
      observe state action ++
        match step state action with
        | none => []
        | some next => observed step observe next rest

/-- A view of the state that grows at every step by what is observed there grows in
a run by all that is observed. -/
theorem run_observed {β : Type*} {step : σ → α → Option σ}
    {observe : σ → α → List β} (invariant : σ → Prop) (view : σ → List β)
    (preserved : ∀ state action next, invariant state →
      step state action = some next → invariant next)
    (grows : ∀ state action next, invariant state →
      step state action = some next → view next = view state ++ observe state action)
    {state final : σ} {actions : List α} (initially : invariant state)
    (executed : run step state actions = some final) :
    view final = view state ++ observed step observe state actions := by
  induction actions generalizing state with
  | nil =>
      simp only [run_nil, Option.some.injEq] at executed
      simp [observed, executed]
  | cons action rest ih =>
      obtain ⟨next, stepped, remaining⟩ := run_cons executed
      rw [ih (preserved state action next initially stepped) remaining,
        grows state action next initially stepped, List.append_assoc]
      simp only [observed, stepped]

/-- Steps that meet a condition under which they succeed and keep an invariant. -/
theorem EveryStep.succeeds {step : σ → α → Option σ} {condition : σ → α → Prop}
    (invariant : σ → Prop)
    (stepSucceeds : ∀ state action, invariant state → condition state action →
      ∃ next, step state action = some next ∧ invariant next)
    {state : σ} {actions : List α} (initially : invariant state)
    (every : EveryStep step condition state actions) :
    ∃ final, run step state actions = some final ∧ invariant final := by
  induction actions generalizing state with
  | nil => exact ⟨state, rfl, initially⟩
  | cons action rest ih =>
      obtain ⟨next, stepped, still⟩ := stepSucceeds state action initially every.1
      obtain ⟨final, executed, finally_⟩ := ih still (every.2 next stepped)
      exact ⟨final, by simp only [run, stepped, executed], finally_⟩

/-- Two components that take related steps, as long as a condition on the first one holds,
run side by side. -/
theorem EveryStep.simulates {τ : Type*} {step : σ → α → Option σ} {other : τ → α → Option τ}
    {condition : σ → α → Prop} (related : σ → τ → Prop)
    (stepRelated : ∀ state peer action, related state peer → condition state action →
      ∃ next peerNext, step state action = some next ∧ other peer action = some peerNext ∧
        related next peerNext)
    {state : σ} {peer : τ} {actions : List α} (initially : related state peer)
    (every : EveryStep step condition state actions) :
    ∃ final peerFinal, run step state actions = some final ∧
      run other peer actions = some peerFinal ∧ related final peerFinal := by
  induction actions generalizing state peer with
  | nil => exact ⟨state, peer, rfl, rfl, initially⟩
  | cons action rest ih =>
      obtain ⟨next, peerNext, stepped, peerStepped, still⟩ :=
        stepRelated state peer action initially every.1
      obtain ⟨final, peerFinal, executed, peerExecuted, finally_⟩ := ih still (every.2 next stepped)
      refine ⟨final, peerFinal, ?_, ?_, finally_⟩
      · simp only [run, stepped, executed]
      · simp only [run, peerStepped, peerExecuted]

end IotLab.Library
