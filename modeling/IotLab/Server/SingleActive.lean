import IotLab.Library.Runs
import IotLab.Server.Experiments

/-!
# At most one active experiment

Requests that overlap do not see each other's experiments, but only one insertion ever
succeeds: that of the row with the id 0.  Until then no experiment becomes active, so that
the request that inserts it has read and deactivated all active ones.  After it the
requests only deactivate.
-/

namespace IotLab.Server

open IotLab.Library

variable {ι : Type*}

/-- There is one active experiment at most, and while the id 0 is free, every request goes on to
deactivate all active ones. -/
structure Guarded (state : ExperimentState ι) : Prop where
  single : state.table.active.length ≤ 1
  covers : (∀ row ∈ state.table.rows, row.id ≠ 0) → ∀ request remaining,
    state.phase request = .deactivating remaining →
      ∀ row ∈ state.table.active, ∃ other ∈ remaining, other.id = row.id

theorem guarded_start {table : ExperimentTable} (single : table.active.length ≤ 1) :
    Guarded (experimentsStart table : ExperimentState ι) := by
  refine ⟨single, fun _ request remaining waits => ?_⟩
  cases waits

section Steps

variable [DecidableEq ι] {strict : Bool} {requests : ι → NewExperiment}
  {state next : ExperimentState ι} {request : ι}

/-- A request that has rows to deactivate after a step is the one that made it, or it had
them before. -/
theorem deactivating_update {phase : PostPhase} {other : ι} {remaining : List ExperimentRow}
    (same : Function.update state.phase request phase other = .deactivating remaining) :
    (other = request ∧ phase = .deactivating remaining) ∨
      state.phase other = .deactivating remaining := by
  by_cases own : other = request
  · rw [own, Function.update_self] at same
    exact .inl ⟨own, same⟩
  · rw [Function.update_of_ne own] at same
    exact .inr same

theorem Guarded.read (guarded : Guarded state) :
    Guarded ⟨state.table, Function.update state.phase request
      (.deactivating state.table.active)⟩ := by
  refine ⟨guarded.single, fun free other remaining same row member => ?_⟩
  obtain ⟨_, read⟩ | before := deactivating_update same
  · cases read
    exact ⟨row, member, rfl⟩
  · exact guarded.covers free other remaining before row member

/-- An experiment that is no longer active need not be deactivated. -/
theorem Guarded.deactivate (guarded : Guarded state) {row : ExperimentRow}
    {rest : List ExperimentRow} (reached : state.phase request = .deactivating (row :: rest)) :
    Guarded ⟨state.table.merge { row with active := false },
      Function.update state.phase request (.deactivating rest)⟩ := by
  refine ⟨(ExperimentTable.length_active_merge row).trans guarded.single, ?_⟩
  intro free other remaining same active member
  obtain ⟨before, different⟩ := ExperimentTable.mem_active_merge.1 member
  have unmerged : ∀ old ∈ state.table.rows, old.id ≠ 0 := by
    intro old inside
    have merged := free _ (List.mem_map_of_mem inside)
    rwa [ExperimentTable.mergeRow_id] at merged
  obtain ⟨_, left⟩ | waits := deactivating_update same
  · cases left
    obtain ⟨read, among, here⟩ := guarded.covers unmerged request _ reached active before
    rcases List.mem_cons.1 among with rfl | later
    · exact absurd here.symm different
    · exact ⟨read, later, here⟩
  · exact guarded.covers unmerged other remaining waits active before

theorem Guarded.stop (guarded : Guarded state) :
    Guarded ⟨state.table, Function.update state.phase request .done⟩ := by
  refine ⟨guarded.single, fun free other remaining same => ?_⟩
  obtain ⟨_, finished⟩ | before := deactivating_update same
  · cases finished
  · exact guarded.covers free other remaining before

/-- The new experiment is the only active one, and the id 0 is taken. -/
theorem Guarded.insert (guarded : Guarded state) (reached : state.phase request = .deactivating [])
    {table : ExperimentTable} {new : NewExperiment}
    (inserted : state.table.persist strict new = some table) :
    Guarded ⟨table, Function.update state.phase request .done⟩ := by
  obtain ⟨free, row, zero, on, rows⟩ := ExperimentTable.persist_cases inserted
  have none : state.table.active = [] := by
    refine List.eq_nil_iff_forall_not_mem.2 fun old member => ?_
    obtain ⟨_, among, _⟩ := guarded.covers free request [] reached old member
    exact List.not_mem_nil among
  refine ⟨(ExperimentTable.length_active_of_append none rows on).le, fun untaken => ?_⟩
  have taken : row ∈ table.rows := by
    rw [rows]
    exact List.mem_append_right _ (List.mem_singleton_self row)
  exact absurd zero (untaken row taken)

theorem Guarded.step (guarded : Guarded state) {action : ExperimentAction ι}
    (stepped : experimentStep strict requests state action = some next) : Guarded next := by
  cases action with
  | next request =>
      rw [experimentStep] at stepped
      cases reached : state.phase request with
      | waiting =>
          simp only [reached, Option.some.injEq] at stepped
          exact stepped ▸ guarded.read
      | deactivating remaining =>
          cases remaining with
          | nil =>
              simp only [reached, Option.some.injEq] at stepped
              cases inserted : state.table.persist strict (requests request) with
              | none =>
                  rw [inserted, Option.getD_none] at stepped
                  exact stepped ▸ guarded.stop
              | some table =>
                  rw [inserted, Option.getD_some] at stepped
                  exact stepped ▸ guarded.insert reached inserted
          | cons row rest =>
              simp only [reached, Option.some.injEq] at stepped
              exact stepped ▸ guarded.deactivate reached
      | done => simp [reached] at stepped
  | fail request =>
      rw [experimentStep] at stepped
      split at stepped
      · cases stepped
      · cases stepped
        exact guarded.stop

/-- From a table with one active experiment at most, however the transactions of the requests
come: in every state at most one experiment is active, and `getActiveExperiment` does not find
several. -/
theorem singleActive_reached (strict : Bool) (requests : ι → NewExperiment)
    (table : ExperimentTable) (single : table.active.length ≤ 1)
    (actions : List (ExperimentAction ι)) (state : ExperimentState ι)
    (executed : run (experimentStep strict requests) (experimentsStart table) actions =
      some state) :
    state.table.SingleActive := by
  rw [ExperimentTable.singleActive_iff]
  exact (run_preserves Guarded (fun _ _ _ guarded stepped => guarded.step stepped)
    (guarded_start single) executed).single

end Steps

/-- The row of the database that is delivered. -/
def deliveredTable : ExperimentTable :=
  ⟨[⟨⟨1, true⟩, "test".toList, []⟩], List.nodup_singleton _⟩

/-- The parameters of two requests. -/
def twoPosts (second : Bool) : NewExperiment :=
  if second then ⟨some "right".toList, some []⟩ else ⟨some "left".toList, some []⟩

/-- Both requests read the experiment before one of them inserts its own. -/
def overlappingPosts : List (ExperimentAction Bool) :=
  [.next false, .next true, .next false, .next false, .next true, .next true]

theorem singleActive_overlappingPosts :
    ∃ state, run (experimentStep false twoPosts) (experimentsStart deliveredTable)
        overlappingPosts = some state ∧
      (∀ request, state.phase request = .done) ∧
      state.table.active.map (fun row => row.id) = [0] ∧ state.table.SingleActive := by
  obtain ⟨state, executed⟩ := Option.isSome_iff_exists.1
    (show (run (experimentStep false twoPosts) (experimentsStart deliveredTable)
      overlappingPosts).isSome from by decide +kernel)
  have reached : (run (experimentStep false twoPosts) (experimentsStart deliveredTable)
      overlappingPosts).map (fun state => decide ((∀ request, state.phase request = .done) ∧
        state.table.active.map (fun row => row.id) = [0])) = some true := by
    decide +kernel
  rw [executed, Option.map_some, Option.some.injEq, decide_eq_true_eq] at reached
  exact ⟨state, executed, reached.1, reached.2, singleActive_reached false twoPosts deliveredTable
    (by decide) overlappingPosts state executed⟩

end IotLab.Server
