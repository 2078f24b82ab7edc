import IotLab.Command.Network
import IotLab.Command.Versions

/-!
# The order in which senders execute commands

The sink gives each issue an epoch: the number of `RESET_CVN` commands it issued
before.  Within an epoch versions grow with the order of issue, across epochs they
do not.  A sender forgets the versions it has seen whenever it executes a
`RESET_CVN`, be it an old copy.  So the order of issue is respected within one
epoch and between two `RESET_CVN` executions of the sender, and only there.
-/

namespace IotLab.Command

open IotLab.Library
open IotLab.Firmware
open IotLab.Server

/-! ## Reading a log -/

def Reception.version (reception : Reception) : ℕ := reception.issue.version

def Reception.executed (reception : Reception) : Bool :=
  match reception.verdict with
  | .executed _ => true
  | _ => false

/-- The version passed the test, so that it is the stored one. -/
def Reception.accepted (reception : Reception) : Bool :=
  match reception.verdict with
  | .executed _ | .incomplete _ | .unhandled => true
  | .nullToken | .obsolete => false

/-- The sender executed `RESET_CVN`. -/
def Reception.resets (reception : Reception) : Bool :=
  reception.verdict = .executed .resetCvn

/-- The receptions after the last executed `RESET_CVN`; logs are newest first. -/
def sinceReset (log : List Reception) : List Reception :=
  log.takeWhile fun reception => !reception.resets

/-- How a reception relates to the earlier ones: it executes nothing that was
issued before a command of the same epoch executed since the last reset, and
it refuses only what an accepted command of a greater version has overtaken. -/
structure InOrder (reception : Reception) (earlier : List Reception) : Prop where
  executed : reception.executed = true →
    ∀ previous ∈ sinceReset earlier, previous.executed = true →
      previous.version ≤ reception.version ∧
        (previous.issue.epoch = reception.issue.epoch →
          previous.issue.index ≤ reception.issue.index)
  obsolete : reception.verdict = .obsolete →
    ∃ previous ∈ sinceReset earlier, previous.accepted = true ∧
      reception.version < previous.version ∧
        (previous.issue.epoch = reception.issue.epoch →
          reception.issue.index < previous.issue.index)

/-! ## Issues -/

/-- The number of `RESET_CVN` commands among the issues. -/
def resets (issues : List Issue) : ℕ :=
  issues.countP fun issue => issue.kind = .resetCvn

/-- Versions grow with the order of issue within an epoch. -/
structure IssueOrder (sink : SinkState) (issues : List Issue) : Prop where
  index : ∀ issue ∈ issues, issue.index < issues.length
  epoch : ∀ issue ∈ issues, issue.epoch ≤ resets issues
  stored : ∀ issue ∈ issues, issue.epoch = resets issues →
    issue.version ≤ sink.ccvn
  ordered : ∀ first ∈ issues, ∀ second ∈ issues, first.epoch = second.epoch →
    first.index < second.index → first.version < second.version
  unique : ∀ first ∈ issues, ∀ second ∈ issues, first.index = second.index →
    first = second

theorem IssueOrder.index_le {sink : SinkState} {issues : List Issue}
    (order : IssueOrder sink issues) {first second : Issue}
    (firstIssued : first ∈ issues) (secondIssued : second ∈ issues)
    (version : first.version ≤ second.version) (epoch : first.epoch = second.epoch) :
    first.index ≤ second.index := by
  rcases Nat.lt_or_ge second.index first.index with later | earlier
  · have greater := order.ordered second secondIssued first firstIssued epoch.symm later
    omega
  · exact earlier

theorem IssueOrder.index_lt {sink : SinkState} {issues : List Issue}
    (order : IssueOrder sink issues) {first second : Issue}
    (firstIssued : first ∈ issues) (secondIssued : second ∈ issues)
    (version : first.version < second.version) (epoch : first.epoch = second.epoch) :
    first.index < second.index := by
  have atMost := order.index_le firstIssued secondIssued (le_of_lt version) epoch
  rcases Nat.lt_or_eq_of_le atMost with less | equal
  · exact less
  · have same := order.unique first firstIssued second secondIssued equal
    rw [same] at version
    exact absurd version (lt_irrefl _)

theorem resets_append (issues : List Issue) (issue : Issue) :
    resets (issues ++ [issue]) =
      resets issues + if issue.kind = .resetCvn then 1 else 0 := by
  simp only [resets, List.countP_append, List.countP_singleton, decide_eq_true_eq]

theorem IssueOrder.mono {sink next : SinkState} {issues : List Issue}
    (order : IssueOrder sink issues) (grows : sink.ccvn ≤ next.ccvn) :
    IssueOrder next issues :=
  { order with
    stored := fun issue member epoch =>
      (order.stored issue member epoch).trans grows }

/-- A new issue is the last of its epoch, and a `RESET_CVN` ends the epoch. -/
theorem IssueOrder.issue {sink : SinkState} {issues : List Issue}
    (order : IssueOrder sink issues) (issue : Issue)
    (index : issue.index = issues.length) (epoch : issue.epoch = resets issues)
    (newer : sink.ccvn < issue.version) :
    IssueOrder (.afterMulticast issue.version issue.kind) (issues ++ [issue]) := by
  constructor
  · intro other member
    rw [List.length_append, List.length_singleton]
    rcases List.mem_append.1 member with earlier | last
    · exact Nat.lt_succ_of_lt (order.index other earlier)
    · rw [List.mem_singleton.1 last, index]
      exact Nat.lt_succ_self _
  · intro other member
    rw [resets_append]
    rcases List.mem_append.1 member with earlier | last
    · exact (order.epoch other earlier).trans (Nat.le_add_right _ _)
    · rw [List.mem_singleton.1 last, epoch]
      exact Nat.le_add_right _ _
  · intro other member current
    rw [resets_append] at current
    rw [SinkState.afterMulticast]
    by_cases reset : issue.kind = .resetCvn
    · rw [if_pos reset] at current
      rcases List.mem_append.1 member with earlier | last
      · have old := order.epoch other earlier
        omega
      · rw [List.mem_singleton.1 last, epoch] at current
        omega
    · rw [if_neg reset, Nat.add_zero] at current
      rw [if_neg reset]
      rcases List.mem_append.1 member with earlier | last
      · exact le_of_lt ((order.stored other earlier current).trans_lt newer)
      · rw [List.mem_singleton.1 last]
  · intro first firstMember second secondMember same before
    rcases List.mem_append.1 secondMember with secondEarlier | secondLast
    · rcases List.mem_append.1 firstMember with firstEarlier | firstLast
      · exact order.ordered first firstEarlier second secondEarlier same before
      · have below := order.index second secondEarlier
        rw [List.mem_singleton.1 firstLast] at before
        omega
    · have last := List.mem_singleton.1 secondLast
      rcases List.mem_append.1 firstMember with firstEarlier | firstLast
      · rw [last] at same ⊢
        exact (order.stored first firstEarlier (same.trans epoch)).trans_lt newer
      · rw [last, List.mem_singleton.1 firstLast] at before
        exact absurd before (lt_irrefl _)
  · intro first firstMember second secondMember same
    rcases List.mem_append.1 firstMember with firstEarlier | firstLast
    · rcases List.mem_append.1 secondMember with secondEarlier | secondLast
      · exact order.unique first firstEarlier second secondEarlier same
      · have below := order.index first firstEarlier
        rw [List.mem_singleton.1 secondLast] at same
        omega
    · rcases List.mem_append.1 secondMember with secondEarlier | secondLast
      · have below := order.index second secondEarlier
        rw [List.mem_singleton.1 firstLast] at same
        omega
      · rw [List.mem_singleton.1 firstLast, List.mem_singleton.1 secondLast]

/-! ## Senders -/

/-- `ccvn` is the greatest version accepted since the last executed reset, or zero
if there is none. -/
structure Stores (ccvn : ℕ) (log : List Reception) : Prop where
  below : ∀ reception ∈ sinceReset log, reception.accepted = true →
    reception.version ≤ ccvn
  reached : ccvn = 0 ∨ ∃ reception ∈ sinceReset log,
    reception.accepted = true ∧ reception.version = ccvn

theorem sinceReset_cons {reception : Reception} (log : List Reception)
    (keeps : reception.resets = false) :
    sinceReset (reception :: log) = reception :: sinceReset log := by
  simp [sinceReset, keeps]

/-- A refused command is not accounted for. -/
theorem Stores.refuse {ccvn : ℕ} {log : List Reception} (stores : Stores ccvn log)
    {reception : Reception} (keeps : reception.resets = false)
    (refused : reception.accepted = false) : Stores ccvn (reception :: log) := by
  constructor
  · intro other member accepted
    rw [sinceReset_cons log keeps] at member
    rcases List.mem_cons.1 member with rfl | earlier
    · simp [refused] at accepted
    · exact stores.below other earlier accepted
  · rw [sinceReset_cons log keeps]
    rcases stores.reached with zero | ⟨other, member, accepted⟩
    · exact .inl zero
    · exact .inr ⟨other, List.mem_cons_of_mem _ member, accepted⟩

/-- An accepted command is the greatest one. -/
theorem Stores.accept {ccvn : ℕ} {log : List Reception} (stores : Stores ccvn log)
    {reception : Reception} {version : ℕ} (same : reception.version = version)
    (keeps : reception.resets = false) (accepted : reception.accepted = true)
    (passes : ccvn ≤ version) : Stores version (reception :: log) := by
  subst same
  constructor
  · intro other member otherAccepted
    rw [sinceReset_cons log keeps] at member
    rcases List.mem_cons.1 member with rfl | earlier
    · exact le_refl _
    · exact (stores.below other earlier otherAccepted).trans passes
  · rw [sinceReset_cons log keeps]
    exact .inr ⟨reception, List.mem_cons_self, accepted, rfl⟩

theorem stores_reset {reception : Reception} (log : List Reception)
    (resets : reception.resets = true) : Stores 0 (reception :: log) := by
  have nothing : sinceReset (reception :: log) = [] := by
    simp [sinceReset, resets]
  constructor
  · intro other member
    rw [nothing] at member
    cases member
  · exact .inl rfl

/-- What holds of a sender and its log. -/
structure LogOrder (issues : List Issue) (sender : SenderState)
    (log : List Reception) : Prop where
  issued : ∀ reception ∈ log, reception.issue ∈ issues
  stores : Stores sender.ccvn log
  inOrder : ∀ later reception earlier, log = later ++ reception :: earlier →
    InOrder reception earlier

theorem LogOrder.mono {issues : List Issue} {sender : SenderState}
    {log : List Reception} (order : LogOrder issues sender log) (issue : Issue) :
    LogOrder (issues ++ [issue]) sender log :=
  { order with
    issued := fun reception member =>
      List.mem_append_left _ (order.issued reception member) }

theorem mem_of_mem_sinceReset {reception : Reception} {log : List Reception}
    (member : reception ∈ sinceReset log) : reception ∈ log :=
  (List.takeWhile_sublist _).subset member

theorem Reception.accepted_of_executed {reception : Reception}
    (executed : reception.executed = true) : reception.accepted = true := by
  rw [Reception.executed] at executed
  rw [Reception.accepted]
  cases verdict : reception.verdict <;> simp_all

/-- The new reception is in order. -/
theorem LogOrder.inOrder_of_handled {sink : SinkState} {issues : List Issue}
    {before after : SenderState} {log : List Reception} {issue : Issue}
    {text : Text} {reception : Reception} (order : LogOrder issues before log)
    (issueOrder : IssueOrder sink issues) (issued : issue ∈ issues)
    (handled : Handled before issue text after reception) : InOrder reception log := by
  cases handled with
  | obsolete refused =>
      constructor
      · intro executed
        simp [Reception.executed] at executed
      · intro _
        rcases order.stores.reached with zero | ⟨previous, member, accepted, version⟩
        · omega
        · have greater : issue.version < previous.version := version ▸ refused
          have previousIssued := order.issued previous (mem_of_mem_sinceReset member)
          refine ⟨previous, member, accepted, greater, ?_⟩
          intro epoch
          exact issueOrder.index_lt issued previousIssued greater epoch.symm
  | incomplete passes _ =>
      constructor
      · intro executed
        simp [Reception.executed] at executed
      · intro obsolete
        cases obsolete
  | executed passes _ =>
      constructor
      · intro _ previous member executed
        have stored := order.stores.below previous member
          (Reception.accepted_of_executed executed)
        have version : previous.version ≤ issue.version := stored.trans passes
        refine ⟨version, ?_⟩
        intro epoch
        exact issueOrder.index_le (order.issued previous (mem_of_mem_sinceReset member))
          issued version epoch
      · intro obsolete
        cases obsolete

/-- The stored version and the log stay in step. -/
theorem Stores.handle {before after : SenderState} {log : List Reception}
    {issue : Issue} {text : Text} {reception : Reception} (stores : Stores before.ccvn log)
    (handled : Handled before issue text after reception) :
    Stores after.ccvn (reception :: log) := by
  cases handled with
  | obsolete refused => exact stores.refuse rfl rfl
  | incomplete passes _ =>
      rw [SenderState.accept_ccvn passes]
      exact stores.accept rfl rfl rfl passes
  | executed passes _ =>
      rw [SenderState.count_ccvn, SenderState.reset_ccvn,
        SenderState.accept_ccvn passes]
      by_cases reset : issue.kind = .resetCvn
      · rw [if_pos reset]
        apply stores_reset
        simp [Reception.resets, reset]
      · rw [if_neg reset]
        exact stores.accept rfl (by simp [Reception.resets, reset]) rfl passes

theorem LogOrder.handle {sink : SinkState} {issues : List Issue}
    {before after : SenderState} {log : List Reception} {issue : Issue}
    {text : Text} {reception : Reception} (order : LogOrder issues before log)
    (issueOrder : IssueOrder sink issues) (issued : issue ∈ issues)
    (handled : Handled before issue text after reception) :
    LogOrder issues after (reception :: log) := by
  constructor
  · intro other member
    rcases List.mem_cons.1 member with rfl | earlier
    · rw [handled.issue_eq]
      exact issued
    · exact order.issued other earlier
  · exact order.stores.handle handled
  · intro later other earlier split
    cases later with
    | nil =>
        cases split
        exact order.inOrder_of_handled issueOrder issued handled
    | cons first rest =>
        simp only [List.cons_append, List.cons.injEq] at split
        exact order.inOrder rest other earlier split.2

/-! ## Whole runs -/

section

variable {ι : Type*} [DecidableEq ι]

structure OrderInvariant (state : NetworkState ι) : Prop where
  wellFormed : WellFormed state
  issues : IssueOrder state.sink state.issues
  logs : ∀ sender, LogOrder state.issues (state.sender sender) (state.log sender)

theorem OrderInvariant.step {state next : NetworkState ι} {action : NetworkAction ι}
    (invariant : OrderInvariant state)
    (stepped : networkStep state action = some next) : OrderInvariant next := by
  have wellFormed := invariant.wellFormed.step stepped
  cases action with
  | sinkLine line =>
      simp only [networkStep, Option.some.injEq] at stepped
      have outcome := state.receiveLine_outcome line
      rw [stepped] at outcome
      cases outcome with
      | silent sink stored =>
          refine ⟨wellFormed, invariant.issues.mono ?_, invariant.logs⟩
          rcases stored with rfl | newer
          · exact le_refl _
          · exact le_of_lt newer
      | issued kind newer _ =>
          refine ⟨wellFormed, ?_, fun sender => (invariant.logs sender).mono _⟩
          exact invariant.issues.issue (state.nextIssue (cString line) kind) rfl rfl
            newer
  | deliver index receiver tail =>
      rcases invariant.wellFormed.deliver stepped with
        ⟨datagram, member, after, reception, _, handled, rfl⟩
      refine ⟨wellFormed, invariant.issues, ?_⟩
      intro sender
      by_cases same : sender = receiver
      · subst same
        simp only [NetworkState.afterDelivery, Function.update_self]
        exact (invariant.logs sender).handle invariant.issues
          (invariant.wellFormed.carries datagram member).issued handled
      · simp only [NetworkState.afterDelivery, Function.update_of_ne same]
        exact invariant.logs sender

omit [DecidableEq ι] in
theorem orderInvariant_initially : OrderInvariant ({} : NetworkState ι) := by
  refine ⟨wellFormed_initially, ?_, ?_⟩
  · constructor <;> intro issue member <;> cases member
  · intro sender
    refine ⟨?_, ⟨?_, .inl rfl⟩, ?_⟩
    · intro reception member
      cases member
    · intro reception member
      cases member
    · intro later reception earlier split
      simp at split

/-- Between two executions of `RESET_CVN` a sender executes no command after one
of the same epoch that was issued later, and refuses a command only when it has
accepted one with a greater version, which was issued later if the epoch is the
same. -/
theorem order_between_resets (actions : List (NetworkAction ι))
    (state : NetworkState ι) (executed : run networkStep {} actions = some state)
    (sender : ι) (later : List Reception) (reception : Reception)
    (earlier : List Reception)
    (split : state.log sender = later ++ reception :: earlier) :
    InOrder reception earlier := by
  have invariant := run_preserves OrderInvariant
    (fun _ _ _ invariant stepped => invariant.step stepped)
    orderInvariant_initially executed
  exact (invariant.logs sender).inOrder later reception earlier split

/-- A copy of `2 START A` that is overtaken by `3 STOP A` is refused. -/
theorem order_between_resets_overtaken :
    ∃ (state : NetworkState Unit) (reception : Reception) (earlier : List Reception),
      run networkStep {} [.sinkLine "2 START A".toList, .sinkLine "3 STOP A".toList,
          .deliver 1 () [], .deliver 0 () []] = some state ∧
        state.log () = reception :: earlier ∧ InOrder reception earlier :=
  ⟨_, _, _, rfl, rfl,
    order_between_resets [.sinkLine "2 START A".toList, .sinkLine "3 STOP A".toList,
      .deliver 1 () [], .deliver 0 () []] _ rfl () [] _ _ rfl⟩

end

/-! ## Across resets -/

/-- Nothing is executed after a command that was issued later. -/
def NoStaleExecution (log : List Reception) : Prop :=
  ∀ later reception earlier, log = later ++ reception :: earlier →
    reception.executed = true → ∀ previous ∈ earlier, previous.executed = true →
      previous.issue.index ≤ reception.issue.index

/-- Nothing is refused that was issued later than everything executed before. -/
def NoFalseRefusal (log : List Reception) : Prop :=
  ∀ later reception earlier, log = later ++ reception :: earlier →
    reception.verdict = .obsolete → ∃ previous ∈ earlier,
      previous.executed = true ∧ reception.issue.index < previous.issue.index

/-- Two connections with commands in between: the lines are `65535 RESET_CVN`,
`1 SINK_ID_DVN`, `2 START A`, `3 STOP A` and, after the second connection,
`65535 RESET_CVN`, `1 SINK_ID_DVN` and `2 START B`. -/
def reconnectLines : List Text :=
  serialLines (serve
    [.openConnection 0, .sendCommand ⟨"START A".toList, ⟨'A', by decide⟩, by decide⟩,
      .sendCommand ⟨"STOP A".toList, ⟨'A', by decide⟩, by decide⟩, .openConnection 1,
      .sendCommand ⟨"START B".toList, ⟨'B', by decide⟩, by decide⟩]).sent

/-- One sender gets `2 START A` and `3 STOP A`, misses both resets and refuses
`2 START B`; then late copies of the first reset and of `2 START A` arrive. -/
def lateCopies : List (NetworkAction Unit) :=
  reconnectLines.map .sinkLine ++
    [1, 2, 4, 0, 1].map fun index => .deliver index () []

/-- What the sender did, newest first. -/
def lateCopiesLog : List Reception :=
  let startA : Issue := ⟨1, 1, "2 START A".toList, .start⟩
  let stopA : Issue := ⟨2, 1, "3 STOP A".toList, .stop⟩
  let startB : Issue := ⟨4, 2, "2 START B".toList, .start⟩
  let reset : Issue := ⟨0, 0, "65535 RESET_CVN".toList, .resetCvn⟩
  [⟨startA, true, .executed .start, true⟩,
    ⟨reset, true, .executed .resetCvn, true⟩,
    ⟨startB, false, .obsolete, false⟩,
    ⟨stopA, true, .executed .stop, true⟩,
    ⟨startA, true, .executed .start, true⟩]

theorem lateCopies_out_of_order :
    ∃ state, run networkStep {} lateCopies = some state ∧
      ¬NoStaleExecution (state.log ()) ∧ ¬NoFalseRefusal (state.log ()) := by
  have log : (run networkStep {} lateCopies).map (fun state => state.log ()) =
      some lateCopiesLog := by decide
  rcases Option.map_eq_some_iff.1 log with ⟨state, executed, logged⟩
  refine ⟨state, executed, ?_, ?_⟩
  · rw [logged]
    intro never
    have ordered := never [] _ (lateCopiesLog.drop 1) rfl rfl lateCopiesLog[3]
      (by decide) rfl
    exact absurd ordered (by decide)
  · rw [logged]
    intro never
    have overtaken := never (lateCopiesLog.take 2) _ (lateCopiesLog.drop 3) rfl rfl
    exact absurd overtaken (by decide)

end IotLab.Command
