import IotLab.Command.Network

/-!
# Repeat counters and what they count

A sender forwards a command while the counter of its kind is below `MAX_REPEAT`.
The counter is set back to zero by newer versions and is an `int8_t`.  The era of
a kind is the part of the log since the counter was last set back; as long as the
counter does not wrap it is the number of commands of the kind executed in the
era, so that at most two commands of a kind are forwarded in an era.
-/

namespace IotLab.Command

open IotLab.Library
open IotLab.Firmware

/-- The reception set the counter of the kind back to zero. -/
def Reception.restarts (reception : Reception) (kind : CommandKind) : Bool :=
  reception.newer && decide (restartsCounter reception.issue.version kind)

/-- The receptions since the counter of a kind was last set back, the one that did
it included. -/
def era (kind : CommandKind) : List Reception → List Reception
  | [] => []
  | reception :: earlier =>
      if reception.restarts kind then [reception]
      else reception :: era kind earlier

/-- The receptions before the era of a kind. -/
def beforeEra (kind : CommandKind) : List Reception → List Reception
  | [] => []
  | reception :: earlier =>
      if reception.restarts kind then earlier else beforeEra kind earlier

theorem era_append_beforeEra (kind : CommandKind) (log : List Reception) :
    era kind log ++ beforeEra kind log = log := by
  induction log with
  | nil => rfl
  | cons reception earlier ih =>
      simp only [era, beforeEra]
      split
      · rfl
      · rw [List.cons_append, ih]

/-- How often commands of a kind were executed. -/
def executions (kind : CommandKind) (log : List Reception) : ℕ :=
  log.countP fun reception => reception.verdict = .executed kind

/-- How often commands of a kind were forwarded. -/
def kindForwards (kind : CommandKind) (log : List Reception) : ℕ :=
  log.countP fun reception => reception.forwarded && reception.issue.kind = kind

/-- How often one command was forwarded. -/
def forwards (issue : Issue) (log : List Reception) : ℕ :=
  log.countP fun reception => reception.forwarded && reception.issue = issue

/-- The copy of a command about to be executed is not a late one: the command was
not executed before the counter of its kind was last set back, be it by this
copy, and the counter does not wrap. -/
def Timely (before : SenderState) (log : List Reception) (issue : Issue) : Prop :=
  if before.ccvn < issue.version ∧ restartsCounter issue.version issue.kind then
    ∀ previous ∈ log, previous.verdict = .executed issue.kind →
      previous.issue ≠ issue
  else
    before.counter issue.kind ≠ 127 ∧
      ∀ previous ∈ beforeEra issue.kind log,
        previous.verdict = .executed issue.kind → previous.issue ≠ issue

instance (before : SenderState) (log : List Reception) (issue : Issue) :
    Decidable (Timely before log issue) := by
  unfold Timely
  infer_instance

/-! ## What the counters count -/

/-- The counters of a sender and the copies it forwarded. -/
structure Repeats (sender : SenderState) (log : List Reception) : Prop where
  counts : ∀ kind, sender.counter kind = executions kind (era kind log)
  range : ∀ kind, sender.counter kind ≤ 127
  forwarded : ∀ reception ∈ log, reception.forwarded = true →
    reception.verdict = .executed reception.issue.kind
  perKind : ∀ kind, kindForwards kind (era kind log) ≤
    min 2 (executions kind (era kind log))
  perIssue : ∀ issue, forwards issue log ≤ 2

/-- The part of the era of a kind before a reception. -/
def liveEra (kind : CommandKind) (reception : Reception) (log : List Reception) :
    List Reception :=
  if reception.restarts kind then [] else era kind log

theorem era_cons (kind : CommandKind) (reception : Reception)
    (log : List Reception) :
    era kind (reception :: log) = reception :: liveEra kind reception log := by
  simp only [era, liveEra]
  split <;> rfl

theorem executions_cons (kind : CommandKind) (reception : Reception)
    (log : List Reception) :
    executions kind (reception :: log) =
      executions kind log +
        if reception.verdict = .executed kind then 1 else 0 := by
  simp only [executions, List.countP_cons, decide_eq_true_eq]

theorem kindForwards_cons (kind : CommandKind) (reception : Reception)
    (log : List Reception) :
    kindForwards kind (reception :: log) =
      kindForwards kind log +
        if reception.forwarded = true ∧ reception.issue.kind = kind then 1
        else 0 := by
  simp only [kindForwards, List.countP_cons, Bool.and_eq_true, decide_eq_true_eq]

theorem forwards_cons (issue : Issue) (reception : Reception)
    (log : List Reception) :
    forwards issue (reception :: log) =
      forwards issue log +
        if reception.forwarded = true ∧ reception.issue = issue then 1 else 0 := by
  simp only [forwards, List.countP_cons, Bool.and_eq_true, decide_eq_true_eq]

theorem forwards_append (issue : Issue) (first second : List Reception) :
    forwards issue (first ++ second) =
      forwards issue first + forwards issue second :=
  List.countP_append

theorem forwards_le_kindForwards (issue : Issue) (log : List Reception) :
    forwards issue log ≤ kindForwards issue.kind log := by
  apply List.countP_mono_left
  intro reception _ counted
  simp only [Bool.and_eq_true, decide_eq_true_eq] at counted ⊢
  exact ⟨counted.1, congrArg Issue.kind counted.2⟩

theorem forwards_eq_zero {issue : Issue} {log : List Reception}
    (forwarded : ∀ reception ∈ log, reception.forwarded = true →
      reception.verdict = .executed reception.issue.kind)
    (never : ∀ reception ∈ log, reception.verdict = .executed issue.kind →
      reception.issue ≠ issue) : forwards issue log = 0 := by
  rw [forwards, List.countP_eq_zero]
  intro reception member counted
  simp only [Bool.and_eq_true, decide_eq_true_eq] at counted
  have executed := forwarded reception member counted.1
  rw [counted.2] at executed
  exact never reception member executed counted.2

/-- The counter after the version has been accepted counts the part of the era
before the reception. -/
theorem Repeats.counts_accept {sender : SenderState} {log : List Reception}
    (repeats : Repeats sender log) {reception : Reception} {version : ℕ}
    (newer : reception.newer = decide (sender.ccvn < version))
    (same : reception.issue.version = version) (kind : CommandKind) :
    (sender.accept version).counter kind =
      executions kind (liveEra kind reception log) := by
  rw [SenderState.accept_counter, liveEra, Reception.restarts, newer, same,
    ← Bool.decide_and]
  by_cases restart : sender.ccvn < version ∧ restartsCounter version kind
  · rw [if_pos restart, if_pos (decide_eq_true restart)]
    rfl
  · rw [if_neg restart, if_neg (by simpa using restart)]
    exact repeats.counts kind

theorem Repeats.perKind_live {sender : SenderState} {log : List Reception}
    (repeats : Repeats sender log) (kind : CommandKind) (reception : Reception) :
    kindForwards kind (liveEra kind reception log) ≤
      min 2 (executions kind (liveEra kind reception log)) := by
  rw [liveEra]
  split
  · exact Nat.zero_le _
  · exact repeats.perKind kind

theorem Repeats.range_accept {sender : SenderState} {log : List Reception}
    (repeats : Repeats sender log) (version : ℕ) (kind : CommandKind) :
    (sender.accept version).counter kind ≤ 127 := by
  rw [SenderState.accept_counter]
  split
  · decide
  · exact repeats.range kind

/-- A reception that is not executed leaves the counts alone, whether or not it
sets counters back. -/
theorem Repeats.skip {before after : SenderState} {log : List Reception}
    (repeats : Repeats before log) {reception : Reception}
    (counts : ∀ kind, after.counter kind =
      executions kind (liveEra kind reception log))
    (range : ∀ kind, after.counter kind ≤ 127)
    (notExecuted : ∀ kind, reception.verdict ≠ .executed kind)
    (notForwarded : reception.forwarded = false) :
    Repeats after (reception :: log) := by
  have sameCount : ∀ kind, executions kind (era kind (reception :: log)) =
      executions kind (liveEra kind reception log) := by
    intro kind
    rw [era_cons, executions_cons, if_neg (notExecuted kind), Nat.add_zero]
  constructor
  · intro kind
    rw [sameCount]
    exact counts kind
  · exact range
  · intro other member forwarded
    rcases List.mem_cons.1 member with rfl | earlier
    · simp [notForwarded] at forwarded
    · exact repeats.forwarded other earlier forwarded
  · intro kind
    rw [sameCount, era_cons, kindForwards_cons, if_neg (by simp [notForwarded])]
    exact repeats.perKind_live kind reception
  · intro issue
    rw [forwards_cons, if_neg (by simp [notForwarded])]
    exact repeats.perIssue issue

/-- Under a timely copy all earlier forwards of the command are in the live era. -/
theorem Timely.forwards_le {before : SenderState} {log : List Reception}
    {issue : Issue} {reception : Reception} (timely : Timely before log issue)
    (repeats : Repeats before log)
    (newer : reception.newer = decide (before.ccvn < issue.version))
    (same : reception.issue = issue) :
    forwards issue log ≤ kindForwards issue.kind
      (liveEra issue.kind reception log) := by
  rw [Timely] at timely
  rw [liveEra, Reception.restarts]
  rw [newer, same, ← Bool.decide_and]
  by_cases restart : before.ccvn < issue.version ∧
      restartsCounter issue.version issue.kind
  · rw [if_pos restart] at timely
    rw [if_pos (decide_eq_true restart),
      forwards_eq_zero repeats.forwarded timely]
    exact Nat.zero_le _
  · rw [if_neg restart] at timely
    rw [if_neg (by simpa using restart)]
    have older : forwards issue (beforeEra issue.kind log) = 0 := by
      apply forwards_eq_zero _ timely.2
      intro other member
      apply repeats.forwarded other
      rw [← era_append_beforeEra issue.kind log]
      exact List.mem_append_right _ member
    calc
      forwards issue log =
          forwards issue (era issue.kind log) +
            forwards issue (beforeEra issue.kind log) := by
        rw [← forwards_append, era_append_beforeEra]
      _ = forwards issue (era issue.kind log) := by rw [older, Nat.add_zero]
      _ ≤ kindForwards issue.kind (era issue.kind log) :=
        forwards_le_kindForwards issue _

/-- A timely copy does not make the counter wrap. -/
theorem Timely.int8Succ_eq {before : SenderState} {log : List Reception}
    {issue : Issue} (timely : Timely before log issue)
    (repeats : Repeats before log)
    (counted : 0 ≤ (before.accept issue.version).counter issue.kind) :
    int8Succ ((before.accept issue.version).counter issue.kind) =
      (before.accept issue.version).counter issue.kind + 1 := by
  have range := repeats.range_accept issue.version issue.kind
  have notLast : (before.accept issue.version).counter issue.kind ≠ 127 := by
    rw [Timely] at timely
    rw [SenderState.accept_counter]
    by_cases restart : before.ccvn < issue.version ∧
        restartsCounter issue.version issue.kind
    · rw [if_pos restart]
      decide
    · rw [if_neg restart] at timely ⊢
      exact timely.1
  apply Firmware.int8Succ_eq
  · omega
  · omega

/-- Executing a timely copy. -/
theorem Repeats.execute {before : SenderState} {log : List Reception} {issue : Issue}
    {reception : Reception} (repeats : Repeats before log)
    (timely : Timely before log issue) (same : reception.issue = issue)
    (newer : reception.newer = decide (before.ccvn < issue.version))
    (verdict : reception.verdict = .executed issue.kind)
    (forwarded : reception.forwarded = true ↔
      int8Succ ((before.accept issue.version).counter issue.kind) < maxRepeat) :
    Repeats (((before.accept issue.version).reset issue.kind).count issue.kind)
      (reception :: log) := by
  have counted := repeats.counts_accept newer (congrArg Issue.version same)
  have succ : int8Succ ((before.accept issue.version).counter issue.kind) =
      executions issue.kind (liveEra issue.kind reception log) + 1 := by
    rw [timely.int8Succ_eq repeats, counted]
    rw [counted]
    exact Int.natCast_nonneg _
  have few : reception.forwarded = true →
      executions issue.kind (liveEra issue.kind reception log) + 1 ≤ 2 := by
    intro sentAgain
    have below := forwarded.1 sentAgain
    rw [succ, maxRepeat] at below
    omega
  have others : ∀ kind, kind ≠ issue.kind → ¬reception.verdict = .executed kind := by
    intro kind different executed
    rw [verdict] at executed
    exact different (SenderVerdict.executed.inj executed).symm
  have perKind := repeats.perKind_live issue.kind reception
  constructor
  · intro kind
    rw [era_cons, executions_cons]
    by_cases current : kind = issue.kind
    · rw [current, if_pos verdict]
      simp [SenderState.count, succ]
    · rw [if_neg (others kind current)]
      simp [SenderState.count, Function.update_of_ne current, counted]
  · intro kind
    by_cases current : kind = issue.kind
    · have range := repeats.range_accept issue.version issue.kind
      have wraps := timely.int8Succ_eq repeats (by rw [counted]; exact Int.natCast_nonneg _)
      rw [current]
      simp only [SenderState.count, SenderState.reset_counter, Function.update_self]
      rw [int8Succ] at wraps ⊢
      omega
    · simp only [SenderState.count, SenderState.reset_counter,
        Function.update_of_ne current]
      exact repeats.range_accept issue.version kind
  · intro other member sentAgain
    rcases List.mem_cons.1 member with rfl | earlier
    · rw [verdict, same]
    · exact repeats.forwarded other earlier sentAgain
  · intro kind
    rw [era_cons, executions_cons, kindForwards_cons, same]
    by_cases current : kind = issue.kind
    · rw [current, if_pos verdict]
      split
      · next sentAgain =>
          have atMost := few sentAgain.1
          omega
      · omega
    · rw [if_neg (others kind current), if_neg fun both => current both.2.symm]
      exact repeats.perKind_live kind reception
  · intro other
    rw [forwards_cons, same]
    split
    · next sentAgain =>
        have atMost := few sentAgain.1
        have earlier := timely.forwards_le repeats newer same
        rw [← sentAgain.2]
        omega
    · exact repeats.perIssue other

/-- What a sender does with a timely copy keeps every command at two forwards. -/
theorem Repeats.handle {before after : SenderState} {log : List Reception}
    {issue : Issue} {text : Text} {reception : Reception}
    (repeats : Repeats before log)
    (timely : before.ccvn ≤ issue.version → commandComplete text issue.kind →
      Timely before log issue)
    (handled : Handled before issue text after reception) :
    Repeats after (reception :: log) := by
  cases handled with
  | obsolete refused =>
      apply repeats.skip _ repeats.range (by simp) rfl
      intro kind
      exact repeats.counts kind
  | incomplete passes missing =>
      apply repeats.skip _ (repeats.range_accept issue.version) (by simp) rfl
      exact repeats.counts_accept rfl rfl
  | executed passes complete =>
      exact repeats.execute (timely passes complete) rfl rfl rfl decide_eq_true_iff

end IotLab.Command
