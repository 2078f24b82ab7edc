import IotLab.Server.Store

/-!
# New experiments

A request for a new experiment reads the active ones, deactivates them one by one and
inserts its own.  Each of these calls is a transaction, so another request can come in
between.  The database generates no ids for the table: an insertion, which leaves the id
out, is refused, or it makes a row with the id 0 as long as there is none.
-/

namespace IotLab.Server

/-! ## The table and the requests -/

/-- A row of the table `Experiment` with all its columns. -/
structure ExperimentRow extends Experiment where
  comments : Text
  description : Text
  deriving Repr, DecidableEq

/-- The table `Experiment` with its primary key. -/
structure ExperimentTable where
  rows : List ExperimentRow
  unique : (rows.map fun row => row.id).Nodup

/-- The parameters `label` and `desc` of a request, which may be missing. -/
structure NewExperiment where
  label : Option Text
  desc : Option Text
  deriving Repr, DecidableEq

namespace ExperimentTable

/-- `getAll` in the order of the ids with the condition `o.active=true`. -/
def active (table : ExperimentTable) : List ExperimentRow :=
  (table.rows.filter fun row => row.active).insertionSort fun left right => left.id ≤ right.id

/-- A row is replaced by one with the same id. -/
def mergeRow (row old : ExperimentRow) : ExperimentRow :=
  if old.id = row.id then row else old

theorem mergeRow_id (row old : ExperimentRow) : (mergeRow row old).id = old.id := by
  rw [mergeRow]
  split
  · next same => exact same.symm
  · rfl

theorem map_mergeRow_id (rows : List ExperimentRow) (row : ExperimentRow) :
    ((rows.map (mergeRow row)).map fun row => row.id) = rows.map fun row => row.id := by
  rw [List.map_map]
  exact List.map_congr_left fun old _ => mergeRow_id row old

/-- `merge` of a row that is in the table. -/
def merge (table : ExperimentTable) (row : ExperimentRow) : ExperimentTable where
  rows := table.rows.map (mergeRow row)
  unique := (map_mergeRow_id table.rows row).symm ▸ table.unique

/-- The row of an experiment that is inserted without an id. -/
def newRow (label desc : Text) : ExperimentRow where
  id := 0
  active := true
  comments := label
  description := desc

theorem unique_persist (table : ExperimentTable) (row : ExperimentRow)
    (free : ∀ old ∈ table.rows, old.id ≠ row.id) :
    ((table.rows ++ [row]).map fun row => row.id).Nodup := by
  rw [List.map_append, List.nodup_append]
  refine ⟨table.unique, List.nodup_singleton _, ?_⟩
  intro id earlier last only same
  obtain ⟨old, member, rfl⟩ := List.mem_map.1 earlier
  exact free old member (same.trans (List.mem_singleton.1 only))

/-- `persist` of a new experiment.  The texts are not null; without a generated id the
strict mode of the database refuses the row, and the other mode takes 0 for its id. -/
def persist (table : ExperimentTable) (strict : Bool) (new : NewExperiment) :
    Option ExperimentTable := do
  let label ← new.label
  let desc ← new.desc
  if strict then none
  else if free : ∀ old ∈ table.rows, old.id ≠ 0 then
    some ⟨table.rows ++ [newRow label desc], table.unique_persist (newRow label desc) free⟩
  else none

/-- `ExperimentDAO.getActiveExperiment` on the table. -/
def getActiveExperiment (table : ExperimentTable) : Except Failure Experiment :=
  Store.getActiveExperiment
    { experiments := table.rows.map ExperimentRow.toExperiment }

end ExperimentTable

/-- What `Get.doPost` does next. -/
inductive PostPhase where
  /-- The active experiments are read. -/
  | waiting
  /-- The next one of those that have been read is deactivated; after the last one the
  new experiment is inserted. -/
  | deactivating (remaining : List ExperimentRow)
  /-- The request has ended, with its experiment or with an exception. -/
  | done
  deriving Repr, DecidableEq

structure ExperimentState (ι : Type*) where
  table : ExperimentTable
  phase : ι → PostPhase

inductive ExperimentAction (ι : Type*) where
  /-- The next transaction of a request. -/
  | next (request : ι)
  /-- The next transaction of a request fails for another reason. -/
  | fail (request : ι)
  deriving Repr, DecidableEq

section Requests

variable {ι : Type*} [DecidableEq ι]

/-- One transaction.  An exception ends the request. -/
def experimentStep (strict : Bool) (requests : ι → NewExperiment) (state : ExperimentState ι) :
    ExperimentAction ι → Option (ExperimentState ι)
  | .next request =>
      match state.phase request with
      | .waiting =>
          some { state with
            phase := Function.update state.phase request (.deactivating state.table.active) }
      | .deactivating (row :: rest) =>
          some {
            table := state.table.merge { row with active := false }
            phase := Function.update state.phase request (.deactivating rest) }
      | .deactivating [] =>
          some {
            table := (state.table.persist strict (requests request)).getD state.table
            phase := Function.update state.phase request .done }
      | .done => none
  | .fail request =>
      if state.phase request = .done then none
      else some { state with phase := Function.update state.phase request .done }

end Requests

/-- Before all requests. -/
def experimentsStart {ι : Type*} (table : ExperimentTable) : ExperimentState ι where
  table
  phase _ := .waiting

/-- At most one experiment is active, and `getActiveExperiment` does not find
several. -/
structure ExperimentTable.SingleActive (table : ExperimentTable) : Prop where
  count : table.active.length ≤ 1
  found : table.getActiveExperiment ≠
    .error (.dao "ExperimentDAO".toList "Several active experiment".toList)

/-! ## The active experiments of a table -/

namespace ExperimentTable

variable {table : ExperimentTable} {row : ExperimentRow}

theorem length_active :
    table.active.length = (table.rows.filter fun row => row.active).length :=
  List.length_insertionSort _ _

theorem singleActive_iff : table.SingleActive ↔ table.active.length ≤ 1 := by
  refine ⟨SingleActive.count, fun count => ⟨count, ?_⟩⟩
  rw [length_active] at count
  rw [getActiveExperiment, Store.getActiveExperiment, List.filter_map]
  have same : (Experiment.active ∘ ExperimentRow.toExperiment) =
      fun row : ExperimentRow => row.active := rfl
  rw [same]
  generalize (table.rows.filter fun row : ExperimentRow => row.active) = rows at count ⊢
  match rows, count with
  | [], _ => simp
  | [only], _ => simp
  | first :: second :: rest, count => simp at count

theorem mem_active : row ∈ table.active ↔ row ∈ table.rows ∧ row.active = true := by
  rw [active, List.mem_insertionSort, List.mem_filter]

/-- Deactivating a row leaves the other active ones. -/
theorem mem_active_merge {row other : ExperimentRow} :
    other ∈ (table.merge { row with active := false }).active ↔
      other ∈ table.active ∧ other.id ≠ row.id := by
  rw [mem_active, mem_active, merge, List.mem_map]
  constructor
  · rintro ⟨⟨old, member, rfl⟩, on⟩
    by_cases same : old.id = row.id
    · rw [mergeRow, if_pos same] at on
      cases on
    · rw [mergeRow, if_neg same] at on ⊢
      exact ⟨⟨member, on⟩, same⟩
  · rintro ⟨⟨member, on⟩, different⟩
    exact ⟨⟨other, member, if_neg different⟩, on⟩

theorem length_active_merge (row : ExperimentRow) :
    (table.merge { row with active := false }).active.length ≤ table.active.length := by
  rw [length_active, length_active, merge, List.filter_map, List.length_map,
    ← List.countP_eq_length_filter, ← List.countP_eq_length_filter]
  apply List.countP_mono_left
  intro old _ on
  rw [Function.comp_apply, mergeRow] at on
  by_cases same : old.id = row.id
  · rw [if_pos same] at on
    cases on
  · rw [if_neg same] at on
    exact on

/-- An insertion that succeeds adds an active row with the id 0, which had been free. -/
theorem persist_cases {strict : Bool} {new : NewExperiment} {next : ExperimentTable}
    (inserted : table.persist strict new = some next) :
    (∀ old ∈ table.rows, old.id ≠ 0) ∧
      ∃ row, row.id = 0 ∧ row.active = true ∧ next.rows = table.rows ++ [row] := by
  rw [persist] at inserted
  obtain ⟨label, _, inserted⟩ := Option.bind_eq_some_iff.1 inserted
  obtain ⟨desc, _, inserted⟩ := Option.bind_eq_some_iff.1 inserted
  split at inserted
  · cases inserted
  · split at inserted
    · next free =>
        cases inserted
        exact ⟨free, newRow label desc, rfl, rfl, rfl⟩
    · cases inserted

theorem length_active_of_append {next : ExperimentTable} (none : table.active = [])
    (rows : next.rows = table.rows ++ [row]) (on : row.active = true) :
    next.active.length = 1 := by
  have quiet : (table.rows.filter fun row => row.active) = [] := by
    rw [← List.length_eq_zero_iff, ← length_active, none, List.length_nil]
  rw [length_active, rows, List.filter_append, quiet, List.nil_append,
    List.length_filter_eq_length_iff.2]
  · rfl
  · exact fun only member => List.mem_singleton.1 member ▸ on

end ExperimentTable

end IotLab.Server
