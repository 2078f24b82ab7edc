import Mathlib.Algebra.Order.Ring.Int
import Mathlib.Data.List.Nodup

/-!
# Tables with foreign keys

The rows of all tables of a database, with the references of each row.  A row is added when
its key is new and its references lead to rows.  The deletion of a row deletes the rows that
refer to it by a cascading reference, and theirs; it is refused when a restricting reference
leads to one of them.
-/

namespace IotLab.Library

/-- What the deletion of a row means for a row that refers to it. -/
inductive OnDelete where
  | restrict
  | cascade
  deriving Repr, DecidableEq

/-- A reference to a row by its table and its primary key. -/
structure Reference (Table : Type) where
  key : Table × ℤ
  onDelete : OnDelete
  deriving Repr, DecidableEq

/-- A row with its primary key. -/
structure Row (Table Value : Type) where
  key : Table × ℤ
  references : List (Reference Table)
  value : Value
  deriving Repr, DecidableEq

variable {Table Value : Type}

/-- The rows that vanish with a row. -/
inductive Dependent (rows : List (Row Table Value)) (start : Table × ℤ) : Table × ℤ → Prop where
  | self : Dependent rows start start
  | cascade {row : Row Table Value} {reference : Reference Table} :
      row ∈ rows → reference ∈ row.references → reference.onDelete = .cascade →
      Dependent rows start reference.key → Dependent rows start row.key

theorem Dependent.eq_or_cascades {rows : List (Row Table Value)} {start key : Table × ℤ}
    (dependent : Dependent rows start key) :
    key = start ∨ ∃ row ∈ rows, row.key = key ∧
      ∃ reference ∈ row.references, reference.onDelete = .cascade := by
  cases dependent with
  | self => exact .inl rfl
  | cascade member listed cascades _ => exact .inr ⟨_, member, rfl, _, listed, cascades⟩

section Cascade

variable [DecidableEq Table] (rows : List (Row Table Value))

/-- A reference of this kind leads to one of the keys. -/
def Row.refers (row : Row Table Value) (onDelete : OnDelete) (keys : List (Table × ℤ)) : Bool :=
  row.references.any fun reference => reference.onDelete = onDelete ∧ reference.key ∈ keys

/-- The rows that one more round of cascades deletes. -/
def nextDoomed (keys : List (Table × ℤ)) : List (Row Table Value) :=
  rows.filter fun row => row.key ∉ keys ∧ row.refers .cascade keys

/-- The keys of the deleted rows after some rounds. -/
def doomed : ℕ → List (Table × ℤ) → List (Table × ℤ)
  | 0, keys => keys
  | rounds + 1, keys => doomed rounds (keys ++ (nextDoomed rows keys).map Row.key)

variable {rows}

theorem Row.refers_iff {row : Row Table Value} {onDelete : OnDelete} {keys : List (Table × ℤ)} :
    row.refers onDelete keys = true ↔
      ∃ reference ∈ row.references, reference.onDelete = onDelete ∧ reference.key ∈ keys := by
  simp [Row.refers]

theorem mem_nextDoomed {row : Row Table Value} {keys : List (Table × ℤ)} :
    row ∈ nextDoomed rows keys ↔
      row ∈ rows ∧ row.key ∉ keys ∧ row.refers .cascade keys = true := by
  simp [nextDoomed]

theorem subset_doomed {rounds : ℕ} {keys : List (Table × ℤ)} {key : Table × ℤ}
    (member : key ∈ keys) : key ∈ doomed rows rounds keys := by
  induction rounds generalizing keys with
  | zero => exact member
  | succ rounds ih => exact ih (List.mem_append_left _ member)

/-- Cascades reach dependent rows only. -/
theorem dependent_of_mem_doomed {rounds : ℕ} {keys : List (Table × ℤ)} {start key : Table × ℤ}
    (sound : ∀ key ∈ keys, Dependent rows start key) (member : key ∈ doomed rows rounds keys) :
    Dependent rows start key := by
  induction rounds generalizing keys with
  | zero => exact sound key member
  | succ rounds ih =>
      refine ih (fun other inside => ?_) member
      rcases List.mem_append.1 inside with known | new
      · exact sound other known
      · obtain ⟨row, added, rfl⟩ := List.mem_map.1 new
        obtain ⟨here, -, refers⟩ := mem_nextDoomed.1 added
        obtain ⟨reference, listed, cascades, known⟩ := Row.refers_iff.1 refers
        exact .cascade here listed cascades (sound _ known)

theorem doomed_of_done {rounds : ℕ} {keys : List (Table × ℤ)}
    (done : nextDoomed rows keys = []) : doomed rows rounds keys = keys := by
  induction rounds with
  | zero => rfl
  | succ rounds ih => rw [doomed, done, List.map_nil, List.append_nil, ih]

/-- Each round before the last one adds a row, so that as many rounds as there are rows reach
the end. -/
theorem nextDoomed_doomed {rounds : ℕ} {keys : List (Table × ℤ)}
    (enough : (rows.filter fun row => row.key ∉ keys).length ≤ rounds) :
    nextDoomed rows (doomed rows rounds keys) = [] := by
  induction rounds generalizing keys with
  | zero =>
      have none_ := List.length_eq_zero_iff.1 (Nat.le_zero.1 enough)
      rw [doomed, nextDoomed, List.filter_eq_nil_iff]
      intro row member both
      have missing := (decide_eq_true_iff.1 both).1
      have inside : row ∈ rows.filter fun row => row.key ∉ keys :=
        List.mem_filter.2 ⟨member, decide_eq_true missing⟩
      rw [none_] at inside
      cases inside
  | succ rounds ih =>
      cases next : nextDoomed rows keys with
      | nil => rw [doomed_of_done next, next]
      | cons first others =>
          rw [doomed, next]
          apply ih
          have added : first ∈ nextDoomed rows keys := next ▸ List.mem_cons_self
          obtain ⟨here, missing, -⟩ := mem_nextDoomed.1 added
          have fewer : (rows.filter fun row =>
              row.key ∉ keys ++ (first :: others).map Row.key).length <
              (rows.filter fun row => row.key ∉ keys).length := by
            have sub : (rows.filter fun row => row.key ∉ keys ++ (first :: others).map Row.key) =
                (rows.filter fun row => row.key ∉ keys).filter
                  fun row => row.key ∉ (first :: others).map Row.key := by
              rw [List.filter_filter]
              apply List.filter_congr
              intro row _
              rw [Bool.eq_iff_iff, decide_eq_true_iff, List.mem_append, not_or, Bool.and_eq_true,
                decide_eq_true_iff, decide_eq_true_iff, and_comm]
            rw [sub]
            apply List.length_filter_lt_length_iff_exists.2
            exact ⟨first, List.mem_filter.2 ⟨here, decide_eq_true missing⟩, by simp⟩
          omega

/-- After as many rounds as there are rows exactly the dependent rows are reached. -/
theorem mem_doomed_iff {start key : Table × ℤ} :
    key ∈ doomed rows rows.length [start] ↔ Dependent rows start key := by
  constructor
  · apply dependent_of_mem_doomed
    intro other member
    rw [List.mem_singleton.1 member]
    exact .self
  · intro dependent
    induction dependent with
    | self => exact subset_doomed (List.mem_singleton_self start)
    | @cascade row reference here listed cascades _ reached =>
        by_contra missing
        have next : row ∈ nextDoomed rows (doomed rows rows.length [start]) :=
          mem_nextDoomed.2 ⟨here, missing, Row.refers_iff.2 ⟨reference, listed, cascades, reached⟩⟩
        rw [nextDoomed_doomed (List.length_filter_le _ _)] at next
        cases next

end Cascade

/-! ## Databases -/

/-- Rows with different keys whose references lead to rows; `next` is what AUTO_INCREMENT
gives. -/
structure Database (Table Value : Type) where
  rows : List (Row Table Value) := []
  next : Table → ℤ := fun _ => 1
  unique : (rows.map Row.key).Nodup := by simp
  resolved : ∀ row ∈ rows, ∀ reference ∈ row.references,
    reference.key ∈ rows.map Row.key := by simp
  ahead : ∀ row ∈ rows, row.key.2 < next row.key.1 := by simp

namespace Database

variable [DecidableEq Table]

/-- There is a row with this key. -/
def Has (database : Database Table Value) (key : Table × ℤ) : Prop :=
  key ∈ database.rows.map Row.key

instance (database : Database Table Value) (key : Table × ℤ) : Decidable (database.Has key) :=
  inferInstanceAs (Decidable (_ ∈ _))

/-- Add a row whose key is new and whose references lead to rows. -/
def insert (database : Database Table Value) (row : Row Table Value) :
    Option (Database Table Value) :=
  if fits : ¬ database.Has row.key ∧
      ∀ reference ∈ row.references, database.Has reference.key then
    some {
      rows := database.rows ++ [row]
      next := Function.update database.next row.key.1
        (max (database.next row.key.1) (row.key.2 + 1))
      unique := by
        rw [List.map_append, List.nodup_append]
        refine ⟨database.unique, List.nodup_singleton _, fun key member other last same => ?_⟩
        rw [List.map_singleton, List.mem_singleton] at last
        exact fits.1 (last ▸ same ▸ member)
      resolved := by
        intro other member reference listed
        rw [List.map_append, List.mem_append]
        rcases List.mem_append.1 member with old | new
        · exact .inl (database.resolved other old reference listed)
        · rw [List.mem_singleton.1 new] at listed
          exact .inl (fits.2 reference listed)
      ahead := by
        intro other member
        by_cases same : other.key.1 = row.key.1
        · rw [same, Function.update_self]
          rcases List.mem_append.1 member with old | new
          · exact lt_max_of_lt_left (same ▸ database.ahead other old)
          · rw [List.mem_singleton.1 new]
            exact lt_max_of_lt_right (lt_add_one _)
        · rw [Function.update_of_ne same]
          rcases List.mem_append.1 member with old | new
          · exact database.ahead other old
          · exact absurd (congrArg (fun row => row.key.1) (List.mem_singleton.1 new)) same }
  else none

/-- Delete a row with all that depends on it, unless a restricting reference forbids it. -/
def delete (database : Database Table Value) (key : Table × ℤ) : Option (Database Table Value) :=
  if free : ∀ row ∈ database.rows,
      ¬ row.refers .restrict (doomed database.rows database.rows.length [key]) then
    some {
      rows := database.rows.filter fun row =>
        row.key ∉ doomed database.rows database.rows.length [key]
      next := database.next
      unique := database.unique.sublist (List.filter_sublist.map _)
      resolved := by
        intro row member reference listed
        obtain ⟨here, kept⟩ := List.mem_filter.1 member
        obtain ⟨parent, there, same⟩ := List.mem_map.1
          (database.resolved row here reference listed)
        rw [← same]
        refine List.mem_map_of_mem (List.mem_filter.2 ⟨there, decide_eq_true ?_⟩)
        rw [same]
        intro reached
        cases action : reference.onDelete with
        | restrict => exact free row here (Row.refers_iff.2 ⟨reference, listed, action, reached⟩)
        | cascade =>
            apply of_decide_eq_true kept
            rw [mem_doomed_iff] at reached ⊢
            exact .cascade here listed action reached
      ahead := fun row member => database.ahead row (List.mem_of_mem_filter member) }
  else none

section Operations

variable {database next : Database Table Value} {row : Row Table Value} {key : Table × ℤ}

theorem insert_rows (inserted : database.insert row = some next) :
    next.rows = database.rows ++ [row] := by
  rw [insert] at inserted
  split at inserted
  · cases inserted
    rfl
  · cases inserted

theorem delete_rows (deleted : database.delete key = some next) :
    next.rows = database.rows.filter fun row =>
      row.key ∉ doomed database.rows database.rows.length [key] := by
  rw [delete] at deleted
  split at deleted
  · cases deleted
    rfl
  · cases deleted

theorem mem_delete_rows (deleted : database.delete key = some next) :
    row ∈ next.rows ↔ row ∈ database.rows ∧ ¬ Dependent database.rows key row.key := by
  rw [delete_rows deleted]
  simp only [List.mem_filter, decide_eq_true_eq, mem_doomed_iff]

theorem delete_sublist (deleted : database.delete key = some next) :
    next.rows.Sublist database.rows :=
  delete_rows deleted ▸ List.filter_sublist

/-- A deletion is refused when a restricting reference leads to a row that would vanish. -/
theorem delete_eq_none_iff :
    database.delete key = none ↔
      ∃ row ∈ database.rows, ∃ reference ∈ row.references,
        reference.onDelete = .restrict ∧ Dependent database.rows key reference.key := by
  rw [delete]
  split
  · next free =>
      simp only [reduceCtorEq, false_iff]
      rintro ⟨row, member, reference, listed, restricts, reached⟩
      exact free row member
        (Row.refers_iff.2 ⟨reference, listed, restricts, mem_doomed_iff.2 reached⟩)
  · next bound =>
      simp only [true_iff]
      push Not at bound
      obtain ⟨row, member, refers⟩ := bound
      obtain ⟨reference, listed, restricts, reached⟩ := Row.refers_iff.1 refers
      exact ⟨row, member, reference, listed, restricts, mem_doomed_iff.1 reached⟩

end Operations

end Database

end IotLab.Library
