import IotLab.Library.Runs
import IotLab.Routing.Lollipop

/-!
# Global repairs

The root of a DODAG counts its version up to ask for a global repair; the DIOs carry the
version from node to node.  DIOs stay available once they are sent: a run delivers any of them
to any node, in any order and any number of times.
-/

namespace IotLab.Routing

open IotLab.Library

/-- What a node knows of the DODAG: `dag->version`, and whether its rank is that of the root. -/
structure Dag where
  version : ℕ
  isRoot : Bool
  deriving Repr, DecidableEq

/-- What `rpl_process_dio` does with the version of a DIO. -/
inductive DioVerdict where
  /-- The node joins the DODAG. -/
  | joined
  /-- The root takes the version over. -/
  | inconsistent
  | globalRepair
  /-- The sender has an older version: the timer of the DIOs is reset. -/
  | older
  /-- The sender is a candidate parent. -/
  | candidate
  deriving Repr, DecidableEq

/-- `rpl_process_dio` up to the choice of a parent; `greaterThan` compares versions. -/
def rplProcessDio (greaterThan : ℕ → ℕ → Bool) (dag : Option Dag) (version : ℕ) :
    DioVerdict × Dag :=
  match dag with
  | none => (.joined, ⟨version, false⟩)
  | some dag =>
      if greaterThan version dag.version then
        (if dag.isRoot then .inconsistent else .globalRepair, { dag with version })
      else if greaterThan dag.version version then (.older, dag)
      else (.candidate, dag)

/-- The root, the nodes, the versions of the DIOs that have been sent, and
`rpl_stats.global_repairs` of each node. -/
structure RplNetwork (ι : Type) where
  root : ℕ
  node : ι → Option ℕ := fun _ => none
  sent : List ℕ := []
  globalRepairs : ι → ℕ := fun _ => 0

inductive RplAction (ι : Type) where
  /-- `rpl_repair_root`. -/
  | repairRoot
  /-- `rpl_set_root` after a restart of the root. -/
  | restartRoot
  /-- A node, or the root, sends a DIO. -/
  | dioOutput (sender : Option ι)
  /-- A DIO, by its position in `sent`, arrives at a node or the root. -/
  | receive (index : ℕ) (receiver : Option ι)
  /-- A node drops the DODAG. -/
  | leave (node : ι)
  deriving Repr, DecidableEq

namespace RplNetwork

variable {ι : Type}

/-- The version of a node or the root. -/
def version (network : RplNetwork ι) : Option ι → Option ℕ
  | none => some network.root
  | some node => network.node node

variable [DecidableEq ι]

/-- A DIO arrives. -/
def receive (greaterThan : ℕ → ℕ → Bool) (network : RplNetwork ι) (version : ℕ) :
    Option ι → RplNetwork ι
  | none =>
      { network with
        root := (rplProcessDio greaterThan (some ⟨network.root, true⟩) version).2.version }
  | some node =>
      let processed := rplProcessDio greaterThan
        ((network.node node).map fun version => ⟨version, false⟩) version
      { network with
        node := Function.update network.node node (some processed.2.version)
        globalRepairs := Function.update network.globalRepairs node
          (network.globalRepairs node + if processed.1 = .globalRepair then 1 else 0) }

/-- One step of a network whose versions begin with `init` and are counted with `increment`. -/
def step (init : ℕ) (increment : ℕ → ℕ) (greaterThan : ℕ → ℕ → Bool) (network : RplNetwork ι) :
    RplAction ι → Option (RplNetwork ι)
  | .repairRoot => some { network with root := increment network.root }
  | .restartRoot => some { network with root := init }
  | .dioOutput sender =>
      match network.version sender with
      | none => none
      | some version => some { network with sent := network.sent ++ [version] }
  | .receive index receiver =>
      match network.sent[index]? with
      | none => none
      | some version => some (network.receive greaterThan version receiver)
  | .leave node => some { network with node := Function.update network.node node none }

end RplNetwork

/-- The comparison of versions. -/
def newerVersion (newer older : ℕ) : Bool := lollipopGreaterThan newer older

/-- The comparison of counts. -/
def newerCount (newer older : ℕ) : Bool := older < newer

/-- One step of a network of nodes. -/
def rplStep {ι : Type} [DecidableEq ι] : RplNetwork ι → RplAction ι → Option (RplNetwork ι) :=
  RplNetwork.step lollipopInit lollipopIncrement newerVersion

/-- The same with versions that count the repairs without end. -/
def countStep {ι : Type} [DecidableEq ι] : RplNetwork ι → RplAction ι → Option (RplNetwork ι) :=
  RplNetwork.step 0 (· + 1) newerCount

/-! ## One step -/

section Step

variable {greaterThan : ℕ → ℕ → Bool} {version : ℕ}

theorem rplProcessDio_some_version (dag : Dag) :
    (rplProcessDio greaterThan (some dag) version).2.version =
      if greaterThan version dag.version then version else dag.version := by
  rw [rplProcessDio]
  split
  · rfl
  · split
    · rfl
    · rfl

theorem rplProcessDio_some_eq_globalRepair_iff (old : ℕ) :
    (rplProcessDio greaterThan (some ⟨old, false⟩) version).1 = .globalRepair ↔
      greaterThan version old = true := by
  rw [rplProcessDio]
  split
  · next newer => simp [newer]
  · next same =>
      split
      · simp [same]
      · simp [same]

variable {ι : Type} [DecidableEq ι]

/-- The version after a DIO arrives: that of the DIO if the receiver has none or an older one. -/
def received (greaterThan : ℕ → ℕ → Bool) (version : ℕ) : Option ℕ → ℕ
  | none => version
  | some old => if greaterThan version old then version else old

/-- A DIO changes the version of its receiver only. -/
theorem version_receive (network : RplNetwork ι) (receiver other : Option ι) :
    (network.receive greaterThan version receiver).version other =
      if other = receiver then some (received greaterThan version (network.version receiver))
      else network.version other := by
  cases receiver with
  | none =>
      cases other with
      | none => exact congrArg some (rplProcessDio_some_version ⟨network.root, true⟩)
      | some other => rfl
  | some node =>
      cases other with
      | none => rfl
      | some other =>
          by_cases same : other = node
          · subst same
            rw [if_pos rfl, RplNetwork.version, RplNetwork.receive]
            dsimp only
            rw [Function.update_self, RplNetwork.version]
            cases network.node other with
            | none => rfl
            | some old => exact congrArg some (rplProcessDio_some_version ⟨old, false⟩)
          · rw [if_neg (by simpa using same), RplNetwork.version, RplNetwork.receive]
            exact Function.update_of_ne same _ _

theorem root_receive (network : RplNetwork ι) :
    (network.receive greaterThan version none).root =
      if greaterThan version network.root then version else network.root :=
  rplProcessDio_some_version ⟨network.root, true⟩

theorem node_receive (network : RplNetwork ι) (receiver : Option ι) (node : ι) :
    (network.receive greaterThan version receiver).node node =
      if some node = receiver then some (received greaterThan version (network.node node))
      else network.node node := by
  refine (version_receive network receiver (some node)).trans ?_
  split
  · next same => rw [← same, RplNetwork.version]
  · rfl

/-- A node takes part in a global repair when the DIO is newer than its version. -/
theorem globalRepairs_receive (network : RplNetwork ι) (receiver : Option ι) (node : ι) :
    (network.receive greaterThan version receiver).globalRepairs node =
      network.globalRepairs node +
        if some node = receiver ∧ ∃ old ∈ network.node node, greaterThan version old = true then 1
        else 0 := by
  cases receiver with
  | none => rfl
  | some other =>
      by_cases same : node = other
      · subst same
        rw [RplNetwork.receive]
        dsimp only
        rw [Function.update_self]
        cases network.node node with
        | none => simp [rplProcessDio]
        | some old => simp [rplProcessDio_some_eq_globalRepair_iff]
      · rw [if_neg (by simp [same]), RplNetwork.receive]
        exact Function.update_of_ne same _ _

end Step

/-! ## Counting without end -/

section Refinement

variable {ι : Type} [DecidableEq ι]

/-- The versions of a network are those of the counted repairs. -/
structure ShowsCounts (counts network : RplNetwork ι) : Prop where
  version : ∀ node, network.version node = (counts.version node).map versionAt
  sent : network.sent = counts.sent.map versionAt
  globalRepairs : ∀ node, network.globalRepairs node = counts.globalRepairs node

/-- A step that is possible, and in which a DIO that arrives is comparable; the root does not
restart. -/
def InWindow (counts : RplNetwork ι) : RplAction ι → Prop
  | .repairRoot | .leave _ => True
  | .restartRoot => False
  | .dioOutput sender => counts.version sender ≠ none
  | .receive index receiver =>
      index < counts.sent.length ∧ ∀ newer ∈ counts.sent[index]?,
        ∀ older ∈ counts.version receiver, Comparable newer older

theorem newerVersion_versionAt {newer older : ℕ} (comparable : Comparable newer older) :
    newerVersion (versionAt newer) (versionAt older) = newerCount newer older :=
  lollipopGreaterThan_versionAt comparable

theorem received_versionAt {newer : ℕ} {known : Option ℕ}
    (comparable : ∀ older ∈ known, Comparable newer older) :
    received newerVersion (versionAt newer)
        (known.map versionAt) =
      versionAt (received newerCount newer known) := by
  cases known with
  | none => rfl
  | some older =>
      rw [Option.map_some, received, received,
        newerVersion_versionAt (comparable older rfl)]
      split
      · rfl
      · rfl

variable {counts network : RplNetwork ι}

theorem ShowsCounts.receive (shown : ShowsCounts counts network) {newer : ℕ} {receiver : Option ι}
    (comparable : ∀ older ∈ counts.version receiver, Comparable newer older) :
    ShowsCounts (counts.receive newerCount newer receiver)
      (network.receive newerVersion (versionAt newer)
        receiver) where
  version node := by
    rw [version_receive, version_receive]
    split
    · rw [Option.map_some, shown.version, received_versionAt comparable]
    · exact shown.version node
  sent := by
    cases receiver with
    | none => exact shown.sent
    | some node => exact shown.sent
  globalRepairs node := by
    rw [globalRepairs_receive, globalRepairs_receive, shown.globalRepairs]
    congr 1
    have known : network.node node = (counts.node node).map versionAt := shown.version (some node)
    refine if_congr (and_congr_right fun same => ?_) rfl rfl
    subst same
    rw [known]
    simp only [Option.mem_map, exists_exists_and_eq_and]
    refine exists_congr fun older => and_congr_right fun member => ?_
    rw [newerVersion_versionAt (comparable older member)]

/-- Every step in the window shows what it does to the counts. -/
theorem ShowsCounts.step (shown : ShowsCounts counts network) {action : RplAction ι}
    (window : InWindow counts action) :
    ∃ next later, countStep counts action = some next ∧ rplStep network action = some later ∧
      ShowsCounts next later := by
  cases action with
  | repairRoot =>
      refine ⟨_, _, rfl, rfl, fun node => ?_, shown.sent, shown.globalRepairs⟩
      cases node with
      | none =>
          have root : network.root = versionAt counts.root := Option.some.inj (shown.version none)
          exact congrArg some ((congrArg lollipopIncrement root).trans
            (versionAt_succ counts.root).symm)
      | some node => exact shown.version (some node)
  | restartRoot => exact absurd window id
  | dioOutput sender =>
      cases known : counts.version sender with
      | none => exact absurd known window
      | some count =>
          have same : network.version sender = some (versionAt count) := by
            rw [shown.version, known, Option.map_some]
          refine ⟨{ counts with sent := counts.sent ++ [count] },
            { network with sent := network.sent ++ [versionAt count] }, ?_, ?_, shown.version, ?_,
            shown.globalRepairs⟩
          · simp only [countStep, RplNetwork.step, known]
          · simp only [rplStep, RplNetwork.step, same]
          · rw [shown.sent, List.map_append, List.map_singleton]
  | receive index receiver =>
      obtain ⟨inside, comparable⟩ := window
      have sent : counts.sent[index]? = some counts.sent[index] := List.getElem?_eq_getElem inside
      have same : network.sent[index]? = some (versionAt counts.sent[index]) := by
        rw [shown.sent, List.getElem?_map, sent, Option.map_some]
      refine ⟨counts.receive _ counts.sent[index] receiver,
        network.receive _ (versionAt counts.sent[index]) receiver, ?_, ?_,
        shown.receive (comparable _ sent)⟩
      · simp only [countStep, RplNetwork.step, sent]
      · simp only [rplStep, RplNetwork.step, same]
  | leave node =>
      refine ⟨_, _, rfl, rfl, fun other => ?_, shown.sent, shown.globalRepairs⟩
      cases other with
      | none => exact shown.version none
      | some other =>
          dsimp only [RplNetwork.version]
          by_cases same : other = node
          · rw [same, Function.update_self, Function.update_self, Option.map_none]
          · rw [Function.update_of_ne same, Function.update_of_ne same]
            exact shown.version (some other)

/-! ## Counted repairs -/

/-- No version is ahead of the root. -/
structure Behind (counts : RplNetwork ι) : Prop where
  version : ∀ node, ∀ count ∈ counts.version node, count ≤ counts.root
  sent : ∀ count ∈ counts.sent, count ≤ counts.root

theorem received_le {newer root : ℕ} {known : Option ℕ} (behind : ∀ count ∈ known, count ≤ root)
    (inside : newer ≤ root) :
    received newerCount newer known ≤ root := by
  cases known with
  | none => exact inside
  | some older =>
      rw [received]
      split
      · exact inside
      · exact behind older rfl

/-- A DIO that arrives lets no version pass the root. -/
theorem Behind.receive (behind : Behind counts) {newer : ℕ} (inside : newer ≤ counts.root)
    (receiver : Option ι) :
    Behind (counts.receive newerCount newer receiver) ∧
      (counts.receive newerCount newer receiver).root = counts.root := by
  have root : (counts.receive newerCount newer receiver).root =
      counts.root := by
    cases receiver with
    | none =>
        refine (root_receive counts).trans (if_neg ?_)
        simpa [newerCount] using inside
    | some node => rfl
  refine ⟨⟨fun node count known => ?_, ?_⟩, root⟩
  · rw [version_receive] at known
    rw [root]
    split at known
    · cases known
      exact received_le (behind.version receiver) inside
    · exact behind.version node count known
  · rw [root]
    cases receiver with
    | none => exact behind.sent
    | some node => exact behind.sent

/-- What a step does to the counts. -/
theorem Behind.step {next : RplNetwork ι} (behind : Behind counts) {action : RplAction ι}
    (window : InWindow counts action) (stepped : countStep counts action = some next) :
    Behind next ∧ next.root = counts.root + if action = .repairRoot then 1 else 0 := by
  cases action with
  | repairRoot =>
      cases stepped
      refine ⟨⟨fun node count known => ?_, fun count member =>
        (behind.sent count member).trans (Nat.le_succ _)⟩, by rw [if_pos rfl]⟩
      cases node with
      | none => exact (Option.some.inj known).ge
      | some node => exact (behind.version (some node) count known).trans (Nat.le_succ _)
  | restartRoot => exact absurd window id
  | dioOutput sender =>
      cases known : counts.version sender with
      | none => exact absurd known window
      | some count =>
          simp only [countStep, RplNetwork.step, known, Option.some.injEq] at stepped
          subst stepped
          refine ⟨⟨behind.version, fun other member => ?_⟩, by simp⟩
          rcases List.mem_append.1 member with old | new
          · exact behind.sent other old
          · exact List.mem_singleton.1 new ▸ behind.version sender count known
  | receive index receiver =>
      have inside := window.1
      have sent : counts.sent[index]? = some counts.sent[index] := List.getElem?_eq_getElem inside
      simp only [countStep, RplNetwork.step, sent, Option.some.injEq] at stepped
      subst stepped
      have newer := behind.sent _ (List.getElem_mem inside)
      exact ⟨(behind.receive newer receiver).1, (behind.receive newer receiver).2⟩
  | leave node =>
      cases stepped
      refine ⟨⟨fun other count known => ?_, behind.sent⟩, by simp⟩
      cases other with
      | none => exact behind.version none count known
      | some other =>
          dsimp only [RplNetwork.version] at known
          by_cases same : other = node
          · rw [same, Function.update_self] at known
            cases known
          · rw [Function.update_of_ne same] at known
            exact behind.version (some other) count known

/-- A node that stays takes part in at most one global repair for each version. -/
theorem globalRepairs_step {next : RplNetwork ι} {node : ι} {action : RplAction ι}
    (stays : action ≠ .leave node) (few : counts.globalRepairs node ≤ (counts.node node).getD 0)
    (stepped : countStep counts action = some next) :
    next.globalRepairs node ≤ (next.node node).getD 0 := by
  cases action with
  | repairRoot | restartRoot =>
      cases stepped
      exact few
  | dioOutput sender =>
      simp only [countStep, RplNetwork.step] at stepped
      split at stepped
      · cases stepped
      · cases stepped
        exact few
  | receive index receiver =>
      simp only [countStep, RplNetwork.step] at stepped
      split at stepped
      · cases stepped
      · next newer _ =>
          cases stepped
          rw [globalRepairs_receive, node_receive]
          by_cases same : some node = receiver
          · subst same
            rw [if_pos rfl, Option.getD_some]
            cases known : counts.node node with
            | none =>
                rw [known, Option.getD_none] at few
                rw [if_neg (by simp), Nat.add_zero]
                exact few.trans (Nat.zero_le _)
            | some old =>
                rw [known, Option.getD_some] at few
                by_cases newest : old < newer
                · simp only [received, newerCount, newest, decide_true, if_true,
                    Option.mem_some_iff, true_and, exists_eq_left']
                  omega
                · simpa [received, newerCount, newest] using few
          · rw [if_neg same, if_neg fun both => same both.1]
            exact few
  | leave other =>
      cases stepped
      have different : node ≠ other := fun same => stays (by rw [same])
      dsimp only
      rw [Function.update_of_ne different]
      exact few

/-- The version of a network before the first repair. -/
def unrepaired (init : ℕ) : RplNetwork ι := { root := init }

omit [DecidableEq ι] in
theorem showsCounts_unrepaired : ShowsCounts (unrepaired 0 : RplNetwork ι)
    (unrepaired lollipopInit) where
  version node := by
    cases node with
    | none => rfl
    | some node => rfl
  sent := rfl
  globalRepairs _ := rfl

omit [DecidableEq ι] in
theorem behind_unrepaired : Behind (unrepaired 0 : RplNetwork ι) where
  version node count known := by
    cases node with
    | none => exact (Option.some.inj known).ge
    | some node => cases known
  sent _ none := absurd none List.not_mem_nil

/-- A run counts the repairs that the root asks for. -/
theorem Behind.run {final : RplNetwork ι} {actions : List (RplAction ι)} (behind : Behind counts)
    (every : EveryStep countStep InWindow counts actions)
    (executed : run countStep counts actions = some final) :
    Behind final ∧ final.root = counts.root + actions.count .repairRoot := by
  induction actions generalizing counts with
  | nil =>
      cases executed
      exact ⟨behind, rfl⟩
  | cons action rest ih =>
      obtain ⟨next, stepped, remaining⟩ := run_cons executed
      obtain ⟨kept, root⟩ := behind.step every.1 stepped
      obtain ⟨last, count⟩ := ih kept (every.2 next stepped) remaining
      refine ⟨last, ?_⟩
      rw [count, root, List.count_cons, Nat.add_assoc, Nat.add_comm (List.count _ _)]
      simp only [beq_iff_eq]

end Refinement

/-! ## Main results -/

section Results

variable {ι : Type} [DecidableEq ι] {actions : List (RplAction ι)}

/-- As long as each DIO that arrives is comparable with its receiver, the versions are the
values of counters that never wrap: the root counts its repairs, no node is ahead of it, and a
node that stays takes part in at most one global repair for each of them, whatever DIOs are
lost, repeated or overtaken. -/
theorem versions_count_repairs (every : EveryStep countStep InWindow (unrepaired 0) actions) :
    ∃ counts final, run countStep (unrepaired 0) actions = some counts ∧
      run rplStep (unrepaired lollipopInit) actions = some final ∧
      counts.root = actions.count .repairRoot ∧
      (∀ node, final.version node = (counts.version node).map versionAt) ∧
      (∀ node, ∀ count ∈ counts.version node, count ≤ counts.root) ∧
      ∀ node, .leave node ∉ actions → final.globalRepairs node ≤ actions.count .repairRoot := by
  obtain ⟨counts, final, executed, ran, shown⟩ := @EveryStep.simulates _ _ _ countStep rplStep
    InWindow ShowsCounts (fun _ _ _ shown => shown.step) _ _ _ showsCounts_unrepaired every
  obtain ⟨behind, root⟩ := behind_unrepaired.run every executed
  have counted : counts.root = actions.count .repairRoot := root.trans (Nat.zero_add _)
  refine ⟨counts, final, executed, ran, counted, shown.version, behind.version, ?_⟩
  intro node stays
  have stayed : ∀ action ∈ actions, action ≠ RplAction.leave node :=
    fun action member same => stays (same ▸ member)
  have few : counts.globalRepairs node ≤ (counts.node node).getD 0 :=
    EveryStep.preserves
      (fun counts : RplNetwork ι => counts.globalRepairs node ≤ (counts.node node).getD 0)
      (fun _ _ _ few different stepped => globalRepairs_step different few stepped)
      (everyStep_of_forall stayed _) le_rfl executed
  rw [shown.globalRepairs, ← counted]
  refine few.trans ?_
  cases known : counts.node node with
  | none => exact Nat.zero_le _
  | some count => exact behind.version (some node) count known

/-- Two repairs, of which a node hears the second before the first. -/
def overtaken : List (RplAction Unit) :=
  [.dioOutput none, .receive 0 (some ()), .repairRoot, .dioOutput none, .repairRoot,
    .dioOutput none, .receive 2 (some ()), .receive 1 (some ())]

instance (counts : RplNetwork ι) (action : RplAction ι) : Decidable (InWindow counts action) :=
  match action with
  | .repairRoot | .leave _ => isTrue trivial
  | .restartRoot => isFalse id
  | .dioOutput sender => inferInstanceAs (Decidable (counts.version sender ≠ none))
  | .receive index receiver =>
      inferInstanceAs (Decidable (index < counts.sent.length ∧ ∀ newer ∈ counts.sent[index]?,
        ∀ older ∈ counts.version receiver, Comparable newer older))

theorem versions_count_repairs_overtaken :
    ∃ counts final, run countStep (unrepaired 0) overtaken = some counts ∧
      run rplStep (unrepaired lollipopInit) overtaken = some final ∧ counts.root = 2 ∧
      final.globalRepairs () ≤ 2 := by
  obtain ⟨counts, final, counted, executed, root, -, -, few⟩ :=
    versions_count_repairs (by decide : EveryStep countStep InWindow (unrepaired 0) overtaken)
  exact ⟨counts, final, counted, executed, root, few () (by decide)⟩

end Results

end IotLab.Routing
