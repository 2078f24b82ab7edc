import IotLab.Routing.Repairs

/-!
# Restarts of the root

A root that restarts begins again with the first version, while its nodes keep theirs.  On the
stick, and at the first value of the circle, the comparison lets the root catch up.  At the
other values each of the two versions counts as newer than the other.
-/

namespace IotLab.Routing

open IotLab.Library

/-- The nodes only send and receive DIOs. -/
def RplAction.isDio {ι : Type} : RplAction ι → Bool
  | .dioOutput _ | .receive _ _ => true
  | .repairRoot | .restartRoot | .leave _ => false

/-- A root that has restarted under nodes that all have a version. -/
def restarted (ι : Type) (version : ℕ) : RplNetwork ι where
  root := lollipopInit
  node _ := some version

/-! ## The two versions -/

theorem newerVersion_self (version : ℕ) : newerVersion version version = false := by
  rw [newerVersion, ← Bool.not_eq_true, lollipopGreaterThan_iff]
  omega

/-- On the circle, the first version is newer than all but 0. -/
theorem newerVersion_init {version : ℕ} (circle : version ≤ 127) (positive : 0 < version) :
    newerVersion lollipopInit version = true := by
  rw [newerVersion, lollipopGreaterThan_iff, lollipopInit]
  omega

/-- The first version is not newer than its successors on the stick and 0. -/
theorem newerVersion_init_stick {version : ℕ}
    (stick : version = 0 ∨ 240 ≤ version ∧ version ≤ 255) :
    newerVersion lollipopInit version = false := by
  rw [newerVersion, ← Bool.not_eq_true, lollipopGreaterThan_iff, lollipopInit]
  omega

/-- The versions of the circle are newer than the first one. -/
theorem newerVersion_circle {version : ℕ} (circle : version ≤ 127) :
    newerVersion version lollipopInit = true := by
  rw [newerVersion, lollipopGreaterThan_iff, lollipopInit]
  omega

theorem versionAt_range (count : ℕ) :
    versionAt count ≤ 127 ∨ 240 ≤ versionAt count ∧ versionAt count ≤ 255 := by
  rw [versionAt_eq]
  split
  · omega
  · omega

section Networks

variable {ι : Type} [DecidableEq ι] {version : ℕ} {network next : RplNetwork ι}

/-! ## A root that catches up -/

/-- Both versions are about, and the nodes have kept theirs. -/
structure CatchingUp (version : ℕ) (network : RplNetwork ι) : Prop where
  root : network.root = lollipopInit ∨ network.root = version
  node : ∀ node, network.node node = some version
  sent : ∀ sent ∈ network.sent, sent = lollipopInit ∨ sent = version
  quiet : ∀ node, network.globalRepairs node = 0

theorem CatchingUp.step (stick : version = 0 ∨ 240 ≤ version ∧ version ≤ 255)
    (catching : CatchingUp version network) {action : RplAction ι} (dio : action.isDio = true)
    (stepped : rplStep network action = some next) : CatchingUp version next := by
  have still {sent : ℕ} (known : sent = lollipopInit ∨ sent = version) :
      newerVersion sent version = false := by
    rcases known with rfl | rfl
    · exact newerVersion_init_stick stick
    · exact newerVersion_self _
  cases action with
  | repairRoot | restartRoot | leave => cases dio
  | dioOutput sender =>
      simp only [rplStep, RplNetwork.step] at stepped
      split at stepped
      · cases stepped
      · next sent about =>
          cases stepped
          have known : sent = lollipopInit ∨ sent = version := by
            cases sender with
            | none => exact Option.some.inj about ▸ catching.root
            | some node => exact .inr (Option.some.inj ((catching.node node).symm.trans about)).symm
          refine ⟨catching.root, catching.node, fun other member => ?_, catching.quiet⟩
          rcases List.mem_append.1 member with old | new
          · exact catching.sent other old
          · exact List.mem_singleton.1 new ▸ known
  | receive index receiver =>
      simp only [rplStep, RplNetwork.step] at stepped
      split at stepped
      · cases stepped
      · next sent arrived =>
          cases stepped
          have about := catching.sent sent (List.mem_of_getElem? arrived)
          refine ⟨?_, fun node => ?_, ?_, fun node => ?_⟩
          · cases receiver with
            | none =>
                rw [root_receive]
                split
                · exact about
                · exact catching.root
            | some node => exact catching.root
          · rw [node_receive, catching.node, received, still about]
            exact ite_self _
          · cases receiver with
            | none => exact catching.sent
            | some node => exact catching.sent
          · rw [globalRepairs_receive, catching.quiet, catching.node]
            simp [still about]

/-! ## A root and a node that exchange versions -/

/-- The root has one of the two versions and the node the other. -/
def Crossed (version : ℕ) (node : ι) (network : RplNetwork ι) : Prop :=
  network.root = lollipopInit ∧ network.node node = some version ∨
    network.root = version ∧ network.node node = some lollipopInit

/-- Both send a DIO, and each receives that of the other. -/
def cross (node : ι) (length : ℕ) : List (RplAction ι) :=
  [.dioOutput none, .dioOutput (some node), .receive length (some node), .receive (length + 1) none]

omit [DecidableEq ι] in
theorem mem_cross {node : ι} {length : ℕ} {action : RplAction ι}
    (member : action ∈ cross node length) : action.isDio = true := by
  simp only [cross, List.mem_cons, List.not_mem_nil, or_false] at member
  rcases member with rfl | rfl | rfl | rfl
  · rfl
  · rfl
  · rfl
  · rfl

theorem rplStep_dioOutput {sender : Option ι} (known : network.version sender = some version) :
    rplStep network (.dioOutput sender) =
      some { network with sent := network.sent ++ [version] } := by
  simp only [rplStep, RplNetwork.step, known]

theorem rplStep_receive {index : ℕ} (sent : network.sent[index]? = some version)
    (receiver : Option ι) :
    rplStep network (.receive index receiver) =
      some (network.receive newerVersion version receiver) := by
  simp only [rplStep, RplNetwork.step, sent]

/-- Versions of which each is newer than the other are exchanged, and the node repairs. -/
theorem run_cross {first second : ℕ} (forth : newerVersion first second = true)
    (back : newerVersion second first = true) {node : ι} (root : network.root = first)
    (known : network.node node = some second) :
    ∃ final, run rplStep network (cross node network.sent.length) = some final ∧
      final.root = second ∧ final.node node = some first ∧
      final.globalRepairs node = network.globalRepairs node + 1 := by
  let both : RplNetwork ι := { network with sent := network.sent ++ [first] ++ [second] }
  have one : rplStep network (.dioOutput none) =
      some { network with sent := network.sent ++ [first] } :=
    rplStep_dioOutput (congrArg some root)
  have two : rplStep { network with sent := network.sent ++ [first] } (.dioOutput (some node)) =
      some both := rplStep_dioOutput known
  have three : rplStep both (.receive network.sent.length (some node)) =
      some (both.receive newerVersion first (some node)) :=
    rplStep_receive (by simp [both]) _
  have four : rplStep (both.receive newerVersion first (some node))
      (.receive (network.sent.length + 1) none) =
        some ((both.receive newerVersion first (some node)).receive newerVersion second none) := by
    refine rplStep_receive ?_ _
    show both.sent[network.sent.length + 1]? = some second
    simp [both]
  refine ⟨(both.receive newerVersion first (some node)).receive newerVersion second none,
    ?_, ?_, ?_, ?_⟩
  · simp only [cross, run, one, two, three, four]
  · rw [root_receive]
    exact if_pos (root.symm ▸ back)
  · show (both.receive newerVersion first (some node)).node node = some first
    rw [node_receive, if_pos rfl]
    show some (received newerVersion first (network.node node)) = some first
    rw [known, received, if_pos forth]
  · rw [globalRepairs_receive, if_neg (by simp), Nat.add_zero, globalRepairs_receive]
    exact congrArg (network.globalRepairs node + ·) (if_pos ⟨rfl, second, known, forth⟩)

/-- A root and a node with different versions of the circle and the stick may exchange them any
number of times. -/
theorem Crossed.exists_run (circle : version ≤ 127) (positive : 0 < version) {node : ι}
    (crossed : Crossed version node network) (times : ℕ) :
    ∃ actions final, (∀ action ∈ actions, action.isDio = true) ∧
      run rplStep network actions = some final ∧
      final.globalRepairs node = network.globalRepairs node + times := by
  induction times generalizing network with
  | zero => exact ⟨[], network, fun _ none => absurd none List.not_mem_nil, rfl, rfl⟩
  | succ times ih =>
      have forth := newerVersion_init circle positive
      have back := newerVersion_circle circle
      obtain ⟨next, executed, crossed, repaired⟩ : ∃ next,
          run rplStep network (cross node network.sent.length) = some next ∧
            Crossed version node next ∧
            next.globalRepairs node = network.globalRepairs node + 1 := by
        rcases crossed with ⟨root, known⟩ | ⟨root, known⟩
        · obtain ⟨next, executed, root, known, repaired⟩ := run_cross forth back root known
          exact ⟨next, executed, .inr ⟨root, known⟩, repaired⟩
        · obtain ⟨next, executed, root, known, repaired⟩ := run_cross back forth root known
          exact ⟨next, executed, .inl ⟨root, known⟩, repaired⟩
      obtain ⟨more, final, dios, ran, counted⟩ := ih crossed
      refine ⟨cross node network.sent.length ++ more, final, fun action member => ?_, ?_, ?_⟩
      · exact (List.mem_append.1 member).elim mem_cross (dios action)
      · rw [run_append, executed]
        exact ran
      · rw [counted, repaired, Nat.add_assoc, Nat.add_comm 1]

/-! ## Main result -/

/-- The root restarts under nodes that have taken part in some number of repairs.  If their
version is 0 or on the stick, no node ever repairs again before the root asks for it; otherwise
the DIOs alone can make a node repair any number of times. -/
theorem restarted_repairs (count : ℕ) (node : ι) :
    if versionAt count = 0 ∨ 240 ≤ versionAt count then
      ∀ actions final, (∀ action ∈ actions, action.isDio = true) →
        run rplStep (restarted ι (versionAt count)) actions = some final →
        final.globalRepairs node = 0
    else
      ∀ times, ∃ actions final, (∀ action ∈ actions, action.isDio = true) ∧
        run rplStep (restarted ι (versionAt count)) actions = some final ∧
        final.globalRepairs node = times := by
  split
  · next stick =>
      have bounded : versionAt count = 0 ∨ 240 ≤ versionAt count ∧ versionAt count ≤ 255 := by
        have range := versionAt_range count
        omega
      intro actions final dios executed
      have start : CatchingUp (versionAt count) (restarted ι (versionAt count)) :=
        ⟨.inl rfl, fun _ => rfl, fun _ none => absurd none List.not_mem_nil, fun _ => rfl⟩
      have final_ := EveryStep.preserves (CatchingUp (versionAt count))
        (fun _ _ _ catching dio stepped => catching.step bounded dio stepped)
        (everyStep_of_forall dios _) start executed
      exact final_.quiet node
  · next circle =>
      intro times
      have range := versionAt_range count
      have crossed : Crossed (versionAt count) node (restarted ι (versionAt count)) :=
        .inl ⟨rfl, rfl⟩
      obtain ⟨actions, final, dios, executed, counted⟩ :=
        crossed.exists_run (by omega) (by omega) times
      exact ⟨actions, final, dios, executed, counted.trans (Nat.zero_add times)⟩

end Networks

end IotLab.Routing
