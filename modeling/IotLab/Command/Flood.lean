import IotLab.Command.Repeats
import Mathlib.Algebra.BigOperators.Group.Finset.Basic
import Mathlib.Algebra.Order.BigOperators.Group.Finset
import Mathlib.Data.Fintype.Prod
import Mathlib.Tactic.Ring

/-!
# The flood of a command

A datagram reaches each sender that hears its source at most once, so that every
further copy is one that a sender sent again.  As long as every copy that is
executed is a timely one, each sender forwards each command at most twice, and the
length of a run is bounded by the number of lines given to the sink.
-/

namespace IotLab.Command

open IotLab.Library
open IotLab.Firmware

section

variable {ι : Type*}

/-- Who sent which command again, oldest first. -/
def NetworkState.rebroadcasts (state : NetworkState ι) : List (ι × Issue) :=
  state.sent.filterMap fun datagram =>
    datagram.source.map fun sender => (sender, datagram.issue)

def NetworkAction.isDelivery : NetworkAction ι → Bool
  | .sinkLine _ => false
  | .deliver _ _ _ => true

/-- The number of lines given to the sink. -/
def sinkLines (actions : List (NetworkAction ι)) : ℕ :=
  actions.countP fun action => !action.isDelivery

variable [DecidableEq ι]

/-- Each datagram is delivered along the topology and at most once to a sender:
`hears source receiver` says that `receiver` hears `source`. -/
def OnceAlong (hears : Option ι → ι → Bool) (state : NetworkState ι) :
    NetworkAction ι → Prop
  | .sinkLine _ => True
  | .deliver index receiver _ =>
      (index, receiver) ∉ state.delivered ∧
        ∀ datagram ∈ state.sent[index]?, hears datagram.source receiver = true

/-- The copy that arrives is refused, incomplete or a timely one. -/
def DeliversTimely (state : NetworkState ι) : NetworkAction ι → Prop
  | .sinkLine _ => True
  | .deliver index receiver tail =>
      ∀ datagram ∈ state.sent[index]?,
        (state.sender receiver).ccvn ≤ datagram.issue.version →
          commandComplete (cString (datagram.text ++ tail)) datagram.issue.kind →
            Timely (state.sender receiver) (state.log receiver) datagram.issue

instance (hears : Option ι → ι → Bool) (state : NetworkState ι) :
    (action : NetworkAction ι) → Decidable (OnceAlong hears state action)
  | .sinkLine _ => isTrue trivial
  | .deliver _ _ _ => inferInstanceAs (Decidable (_ ∧ _))

omit [DecidableEq ι] in
instance (state : NetworkState ι) :
    (action : NetworkAction ι) → Decidable (DeliversTimely state action)
  | .sinkLine _ => isTrue trivial
  | .deliver index receiver tail =>
      inferInstanceAs (Decidable (∀ datagram ∈ state.sent[index]?,
        (state.sender receiver).ccvn ≤ datagram.issue.version →
          commandComplete (cString (datagram.text ++ tail)) datagram.issue.kind →
            Timely (state.sender receiver) (state.log receiver) datagram.issue))

/-! ## The invariant -/

structure FloodInvariant (state : NetworkState ι) : Prop where
  wellFormed : WellFormed state
  repeats : ∀ sender, Repeats (state.sender sender) (state.log sender)
  counted : ∀ sender issue,
    state.rebroadcasts.count (sender, issue) = forwards issue (state.log sender)
  sent : state.sent.length = state.issues.length + state.rebroadcasts.length
  once : state.delivered.Nodup
  earlier : ∀ pair ∈ state.delivered, pair.1 < state.sent.length

/-- The datagram that a receiver sends again is the one its log counts. -/
theorem count_forwarded (log : ι → List Reception) (receiver sender : ι)
    (reception : Reception) (issue : Issue) :
    forwards issue (log sender) +
        (if reception.forwarded then [(receiver, reception.issue)]
          else []).count (sender, issue) =
      forwards issue
        (Function.update log receiver (reception :: log receiver) sender) := by
  by_cases same : sender = receiver
  · subst same
    rw [Function.update_self, forwards_cons]
    cases reception.forwarded with
    | false => simp
    | true => simp [List.count_singleton]
  · rw [Function.update_of_ne same]
    have different : ¬receiver = sender := fun equality => same equality.symm
    split <;> simp [different]

/-- A command of the sink is a datagram that no sender sent again. -/
theorem FloodInvariant.issue {state : NetworkState ι} (invariant : FloodInvariant state)
    {sink : SinkState} {issue : Issue} {text : Text}
    (wellFormed : WellFormed { state with
      sink
      issues := state.issues ++ [issue]
      sent := state.sent ++ [⟨none, issue, text⟩] }) :
    FloodInvariant { state with
      sink
      issues := state.issues ++ [issue]
      sent := state.sent ++ [⟨none, issue, text⟩] } := by
  have same : ({ state with
      sink
      issues := state.issues ++ [issue]
      sent := state.sent ++ [⟨none, issue, text⟩] } :
        NetworkState ι).rebroadcasts = state.rebroadcasts := by
    simp [NetworkState.rebroadcasts]
  constructor
  · exact wellFormed
  · exact invariant.repeats
  · intro sender other
    rw [same]
    exact invariant.counted sender other
  · rw [same]
    have length := invariant.sent
    simp only [List.length_append, List.length_singleton]
    omega
  · exact invariant.once
  · intro pair member
    have before := invariant.earlier pair member
    simp only [List.length_append, List.length_singleton]
    omega

theorem rebroadcasts_afterDelivery (state : NetworkState ι) (index : ℕ) (receiver : ι)
    (text : Text) (after : SenderState) (reception : Reception) :
    (state.afterDelivery index receiver text after reception).rebroadcasts =
      state.rebroadcasts ++
        if reception.forwarded then [(receiver, reception.issue)] else [] := by
  rw [NetworkState.rebroadcasts, NetworkState.afterDelivery, List.filterMap_append]
  cases reception.forwarded <;> rfl

theorem FloodInvariant.deliver {state : NetworkState ι} (invariant : FloodInvariant state)
    {index : ℕ} {receiver : ι} {tail : Text} {datagram : Datagram ι} {after : SenderState}
    {reception : Reception}
    (wellFormed : WellFormed (state.afterDelivery index receiver
      (cString (datagram.text ++ tail)) after reception))
    (condition : (index, receiver) ∉ state.delivered)
    (timely : (state.sender receiver).ccvn ≤ datagram.issue.version →
      commandComplete (cString (datagram.text ++ tail)) datagram.issue.kind →
        Timely (state.sender receiver) (state.log receiver) datagram.issue)
    (found : state.sent[index]? = some datagram)
    (handled : Handled (state.sender receiver) datagram.issue
      (cString (datagram.text ++ tail)) after reception) :
    FloodInvariant (state.afterDelivery index receiver
      (cString (datagram.text ++ tail)) after reception) := by
  have inRange : index < state.sent.length := (List.getElem?_eq_some_iff.1 found).1
  constructor
  · exact wellFormed
  · intro sender
    by_cases same : sender = receiver
    · subst same
      simp only [NetworkState.afterDelivery, Function.update_self]
      exact (invariant.repeats sender).handle timely handled
    · simp only [NetworkState.afterDelivery, Function.update_of_ne same]
      exact invariant.repeats sender
  · intro sender issue
    rw [rebroadcasts_afterDelivery, List.count_append, invariant.counted]
    exact count_forwarded state.log receiver sender reception issue
  · rw [rebroadcasts_afterDelivery]
    have length := invariant.sent
    simp only [NetworkState.afterDelivery, List.length_append]
    split <;> simp <;> omega
  · exact List.nodup_cons.2 ⟨condition, invariant.once⟩
  · intro pair member
    simp only [NetworkState.afterDelivery, List.length_append]
    rcases List.mem_cons.1 member with rfl | earlier
    · exact Nat.lt_add_right _ inRange
    · exact Nat.lt_add_right _ (invariant.earlier pair earlier)

theorem FloodInvariant.step {state next : NetworkState ι} {action : NetworkAction ι}
    {hears : Option ι → ι → Bool} (invariant : FloodInvariant state)
    (condition : OnceAlong hears state action ∧ DeliversTimely state action)
    (stepped : networkStep state action = some next) : FloodInvariant next := by
  have wellFormed := invariant.wellFormed.step stepped
  cases action with
  | sinkLine line =>
      simp only [networkStep, Option.some.injEq] at stepped
      have outcome := state.receiveLine_outcome line
      rw [stepped] at outcome
      cases outcome with
      | silent sink _ => exact { invariant with wellFormed := wellFormed }
      | issued kind _ _ => exact invariant.issue wellFormed
  | deliver index receiver tail =>
      rcases invariant.wellFormed.deliver stepped with
        ⟨datagram, member, after, reception, found, handled, rfl⟩
      have timely := condition.2 datagram (by rw [found]; rfl)
      exact invariant.deliver wellFormed condition.1.1 timely found handled

theorem floodInvariant_initially : FloodInvariant ({} : NetworkState ι) := by
  refine ⟨wellFormed_initially, ?_, ?_, rfl, .nil, ?_⟩
  · intro sender
    refine ⟨fun _ => rfl, fun _ => (by decide : (0 : ℤ) ≤ 127), ?_, fun _ => Nat.zero_le _,
      fun _ => Nat.zero_le _⟩
    intro reception member
    cases member
  · intro sender issue
    rfl
  · intro pair member
    cases member

/-! ## Bounds -/

/-- A list whose elements are taken from a finite set, each a bounded number of
times. -/
theorem length_le_of_count_le {κ : Type*} [DecidableEq κ] {keys : List κ}
    {allowed : Finset κ} {bound : ℕ} (within : ∀ key ∈ keys, key ∈ allowed)
    (few : ∀ key, keys.count key ≤ bound) : keys.length ≤ allowed.card * bound := by
  have subset : keys.toFinset ⊆ allowed := by
    intro key member
    exact within key (List.mem_toFinset.1 member)
  calc
    keys.length = ∑ key ∈ keys.toFinset, keys.count key :=
      (List.sum_toFinset_count_eq_length keys).symm
    _ ≤ keys.toFinset.card • bound :=
      Finset.sum_le_card_nsmul _ _ _ fun key _ => few key
    _ = keys.toFinset.card * bound := rfl
    _ ≤ allowed.card * bound :=
      Nat.mul_le_mul_right _ (Finset.card_le_card subset)

omit [DecidableEq ι] in
theorem WellFormed.rebroadcast_issued {state : NetworkState ι}
    (wellFormed : WellFormed state) {pair : ι × Issue}
    (member : pair ∈ state.rebroadcasts) : pair.2 ∈ state.issues := by
  rcases List.mem_filterMap.1 member with ⟨datagram, sent, mapped⟩
  rcases Option.map_eq_some_iff.1 mapped with ⟨sender, _, rfl⟩
  exact (wellFormed.carries datagram sent).issued

theorem FloodInvariant.rebroadcasts_length_le [Fintype ι] {state : NetworkState ι}
    (invariant : FloodInvariant state) :
    state.rebroadcasts.length ≤
      Fintype.card ι * state.issues.length * 2 := by
  have bounded : state.rebroadcasts.length ≤
      ((Finset.univ : Finset ι) ×ˢ state.issues.toFinset).card * 2 := by
    apply length_le_of_count_le
    · intro pair member
      rw [Finset.mem_product, List.mem_toFinset]
      exact ⟨Finset.mem_univ _, invariant.wellFormed.rebroadcast_issued member⟩
    · rintro ⟨sender, issue⟩
      have few := (invariant.repeats sender).perIssue issue
      rw [← invariant.counted] at few
      convert few
  rw [Finset.card_product, Finset.card_univ] at bounded
  have few := state.issues.toFinset_card_le
  calc
    _ ≤ Fintype.card ι * state.issues.toFinset.card * 2 := bounded
    _ ≤ _ := Nat.mul_le_mul_right _ (Nat.mul_le_mul_left _ few)

theorem FloodInvariant.delivered_length_le [Fintype ι] {state : NetworkState ι}
    (invariant : FloodInvariant state) :
    state.delivered.length ≤ state.sent.length * Fintype.card ι := by
  have subset : state.delivered.toFinset ⊆
      Finset.range state.sent.length ×ˢ (Finset.univ : Finset ι) := by
    intro pair member
    rw [Finset.mem_product, Finset.mem_range]
    exact ⟨invariant.earlier pair (List.mem_toFinset.1 member), Finset.mem_univ _⟩
  calc
    state.delivered.length = state.delivered.toFinset.card :=
      (List.toFinset_card_of_nodup invariant.once).symm
    _ ≤ (Finset.range state.sent.length ×ˢ (Finset.univ : Finset ι)).card :=
      Finset.card_le_card subset
    _ = state.sent.length * Fintype.card ι := by
      rw [Finset.card_product, Finset.card_range, Finset.card_univ]

/-- A run issues at most one command for each line and logs each delivery. -/
theorem run_lengths {state final : NetworkState ι} {actions : List (NetworkAction ι)}
    (executed : run networkStep state actions = some final) :
    final.issues.length ≤ state.issues.length + sinkLines actions ∧
      final.delivered.length =
        state.delivered.length + actions.countP NetworkAction.isDelivery := by
  induction actions generalizing state with
  | nil =>
      simp only [run_nil, Option.some.injEq] at executed
      subst executed
      exact ⟨Nat.le_add_right _ _, rfl⟩
  | cons action rest ih =>
      rcases run_cons executed with ⟨next, stepped, remaining⟩
      have later := ih remaining
      cases action with
      | sinkLine line =>
          simp only [networkStep, Option.some.injEq] at stepped
          have outcome := state.receiveLine_outcome line
          rw [stepped] at outcome
          simp only [sinkLines, List.countP_cons] at later ⊢
          cases outcome <;>
            simp [NetworkAction.isDelivery] at later ⊢ <;> omega
      | deliver index receiver tail =>
          simp only [networkStep] at stepped
          cases found : state.sent[index]? with
          | none => simp [found] at stepped
          | some datagram =>
              simp only [found, Option.some.injEq] at stepped
              subst stepped
              simp only [sinkLines, List.countP_cons] at later ⊢
              simp [NetworkState.receive, NetworkAction.isDelivery] at later ⊢
              omega

/-- Bounded flood: if every copy that is executed is a timely one, each sender
sends each command again at most `MAX_REPEAT - 1` times, and the datagrams and the
steps of a run are bounded by the number of lines given to the sink. -/
theorem flood_bounded [Fintype ι] (hears : Option ι → ι → Bool)
    (actions : List (NetworkAction ι)) (state : NetworkState ι)
    (timely : EveryStep networkStep
      (fun state action => OnceAlong hears state action ∧ DeliversTimely state action)
      {} actions)
    (executed : run networkStep {} actions = some state) :
    (∀ sender issue, state.rebroadcasts.count (sender, issue) ≤ 2) ∧
      state.sent.length ≤ sinkLines actions * (1 + 2 * Fintype.card ι) ∧
      actions.length ≤ sinkLines actions *
        (1 + (1 + 2 * Fintype.card ι) * Fintype.card ι) := by
  have invariant := timely.preserves FloodInvariant
    (fun _ _ _ invariant condition stepped => invariant.step condition stepped)
    floodInvariant_initially executed
  have lengths := run_lengths executed
  have issues : state.issues.length ≤ sinkLines actions := by
    simpa using lengths.1
  have delivered : state.delivered.length =
      actions.countP NetworkAction.isDelivery := by
    simpa using lengths.2
  have sent : state.sent.length ≤ sinkLines actions * (1 + 2 * Fintype.card ι) := by
    calc
      state.sent.length = state.issues.length + state.rebroadcasts.length :=
        invariant.sent
      _ ≤ state.issues.length + Fintype.card ι * state.issues.length * 2 :=
        Nat.add_le_add_left invariant.rebroadcasts_length_le _
      _ = state.issues.length * (1 + 2 * Fintype.card ι) := by ring
      _ ≤ sinkLines actions * (1 + 2 * Fintype.card ι) :=
        Nat.mul_le_mul_right _ issues
  refine ⟨?_, sent, ?_⟩
  · intro sender issue
    rw [invariant.counted]
    exact (invariant.repeats sender).perIssue issue
  · have split := List.length_eq_countP_add_countP NetworkAction.isDelivery (l := actions)
    calc
      actions.length = state.delivered.length + sinkLines actions := by
        rw [split, delivered]
        simp [sinkLines]
      _ ≤ state.sent.length * Fintype.card ι + sinkLines actions :=
        Nat.add_le_add_right invariant.delivered_length_le _
      _ ≤ sinkLines actions * (1 + 2 * Fintype.card ι) * Fintype.card ι +
          sinkLines actions :=
        Nat.add_le_add_right (Nat.mul_le_mul_right _ sent) _
      _ = _ := by ring

end

/-- Two senders that hear each other; the sink is heard by the first one. -/
def twoSenders : Option Bool → Bool → Bool
  | none, receiver => receiver
  | some source, receiver => source != receiver

/-- The first sender executes `2 START ALL`, the second one its copy. -/
theorem flood_bounded_start :
    ∃ state, run networkStep {} [.sinkLine "2 START ALL".toList, .deliver 0 true [],
        .deliver 1 false []] = some state ∧
      (∀ sender issue, state.rebroadcasts.count (sender, issue) ≤ 2) ∧
        state.sent.length ≤ 1 * (1 + 2 * 2) ∧
          3 ≤ 1 * (1 + (1 + 2 * 2) * 2) :=
  ⟨_, rfl, flood_bounded twoSenders [.sinkLine "2 START ALL".toList,
    .deliver 0 true [], .deliver 1 false []] _ (by decide) rfl⟩

/-- The sink resets the versions and starts the modules.  The copies of the reset
bounce between the senders, and `2 START ALL` sets the counter of the first one
back before the last copy arrives. -/
def bouncingReset : List (NetworkAction Bool) :=
  [.sinkLine "65535 RESET_CVN".toList, .sinkLine "2 START ALL".toList,
    .deliver 0 true [], .deliver 2 false [], .deliver 3 true [], .deliver 1 true [],
    .deliver 4 false [], .deliver 6 true []]

theorem bouncingReset_three_forwards :
    EveryStep networkStep (OnceAlong twoSenders) {} bouncingReset ∧
      ∃ state, run networkStep {} bouncingReset = some state ∧
        ∃ issue, 2 < state.rebroadcasts.count (true, issue) := by
  refine ⟨by decide, _, rfl, ⟨0, 0, "65535 RESET_CVN".toList, .resetCvn⟩, ?_⟩
  decide

end IotLab.Command
