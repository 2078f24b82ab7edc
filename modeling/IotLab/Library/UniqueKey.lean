import Mathlib.Data.List.Nodup
import Mathlib.Logic.Function.Basic

/-!
# Transactions on a table with a unique key

Transactions insert keys and rows that nobody else sees before they commit.  A key
that another transaction has inserted is locked: a second insertion waits until that
transaction ends, and fails if it has committed.  Some keys belong to rows that the lookups do
not find.  The keys of a table are unique by construction, whatever the transactions do.
-/

namespace IotLab.Library

/-- What a transaction reads: the state that is committed now, or the one that was
committed when the transaction read first. -/
inductive Isolation where
  | readCommitted
  | repeatableRead
  deriving Repr, DecidableEq

/-- The committed keys and rows and those of the transactions that are under way; each
party has one transaction at most. -/
structure Table (ι κ ρ : Type*) where
  /-- The keys of rows that no lookup finds. -/
  hidden : List κ := []
  keys : List κ := []
  rows : List (ι × ρ) := []
  pendingKeys : List (ι × κ) := []
  pendingRows : List (ι × ρ) := []
  snapshot : ι → Option (List κ) := fun _ => none
  unique : (hidden ++ (keys ++ pendingKeys.map Prod.snd)).Nodup := by simp

/-- The result of an insertion. -/
inductive Insertion (ι κ ρ : Type*) where
  | inserted (table : Table ι κ ρ)
  | duplicate
  | waits

section Parties

variable {ι α : Type*} [DecidableEq ι]

/-- What a party has among the items of all parties. -/
def ofParty (party : ι) (items : List (ι × α)) : List α :=
  (items.filter fun item => item.1 = party).map Prod.snd

/-- The items of the other parties. -/
def ofOthers (party : ι) (items : List (ι × α)) : List (ι × α) :=
  items.filter fun item => item.1 ≠ party

variable {party other : ι} {items : List (ι × α)}

@[simp] theorem ofParty_append (first second : List (ι × α)) :
    ofParty party (first ++ second) = ofParty party first ++ ofParty party second := by
  simp [ofParty]

theorem mem_ofParty {item : α} : item ∈ ofParty party items ↔ (party, item) ∈ items := by
  simp [ofParty]

@[simp] theorem ofParty_tagged (values : List α) :
    ofParty party (values.map fun value => (party, value)) = values := by
  simp [ofParty, List.filter_map, Function.comp_def]

theorem ofParty_tagged_ne (different : other ≠ party) (values : List α) :
    ofParty other (values.map fun value => (party, value)) = [] := by
  simp [ofParty, Ne.symm different]

@[simp] theorem ofParty_ofOthers_self : ofParty party (ofOthers party items) = [] := by
  simp [ofParty, ofOthers]

theorem ofParty_ofOthers (different : other ≠ party) :
    ofParty other (ofOthers party items) = ofParty other items := by
  rw [ofParty, ofOthers, List.filter_filter, ofParty]
  congr 1
  apply List.filter_congr
  intro item _
  by_cases own : item.1 = other
  · simp [own, different]
  · simp [own]

theorem ofParty_filter_ne (different : other ≠ party) :
    ofParty other (items.filter fun item => item.1 = party) = [] := by
  rw [ofParty, List.filter_filter, List.map_eq_nil_iff, List.filter_eq_nil_iff]
  intro item _ both
  simp only [Bool.and_eq_true, decide_eq_true_eq] at both
  exact different (both.1.symm.trans both.2)

theorem ofParty_filter_self :
    ofParty party (items.filter fun item => item.1 = party) = ofParty party items := by
  simp [ofParty]

end Parties

namespace Table

variable {ι κ ρ : Type*} [DecidableEq ι]

/-- The committed keys that a transaction sees. -/
def visible (isolation : Isolation) (table : Table ι κ ρ) (party : ι) : List κ :=
  match isolation with
  | .readCommitted => table.keys
  | .repeatableRead => (table.snapshot party).getD table.keys

/-- A transaction sees what is visible to it and what it has inserted itself. -/
def finds [DecidableEq κ] (isolation : Isolation) (table : Table ι κ ρ) (party : ι)
    (key : κ) : Bool :=
  decide (key ∈ table.visible isolation party ∨ (party, key) ∈ table.pendingKeys)

/-- The first read of a transaction fixes its snapshot. -/
def read (table : Table ι κ ρ) (party : ι) : Table ι κ ρ :=
  { table with
    snapshot := Function.update table.snapshot party
      (some ((table.snapshot party).getD table.keys)) }

/-- Insert a key. -/
def insert [DecidableEq κ] (table : Table ι κ ρ) (party : ι) (key : κ) : Insertion ι κ ρ :=
  if taken : key ∈ table.hidden ∨ key ∈ table.keys ∨ (party, key) ∈ table.pendingKeys then
    .duplicate
  else if locked : key ∈ table.pendingKeys.map Prod.snd then .waits
  else
    .inserted { table with
      pendingKeys := table.pendingKeys ++ [(party, key)]
      unique := by
        rw [List.map_append, List.map_singleton, ← List.append_assoc, ← List.append_assoc,
          List.append_assoc table.hidden, List.nodup_append]
        refine ⟨table.unique, List.nodup_singleton _, ?_⟩
        intro other member new last same
        rw [List.mem_singleton] at last
        rw [same, last] at member
        rcases List.mem_append.1 member with hidden | member
        · exact taken (.inl hidden)
        · rcases List.mem_append.1 member with committed | pending
          · exact taken (.inr (.inl committed))
          · exact locked pending }

/-- Insert rows. -/
def store (table : Table ι κ ρ) (party : ι) (rows : List ρ) : Table ι κ ρ :=
  { table with pendingRows := table.pendingRows ++ rows.map fun row => (party, row) }

/-- The transaction of a party ends without an effect. -/
def rollback (table : Table ι κ ρ) (party : ι) : Table ι κ ρ :=
  { table with
    pendingKeys := ofOthers party table.pendingKeys
    pendingRows := ofOthers party table.pendingRows
    snapshot := Function.update table.snapshot party none
    unique := table.unique.sublist
      ((List.Sublist.append_left (List.filter_sublist.map _) _).append_left _) }

/-- The transaction of a party takes effect. -/
def commit (table : Table ι κ ρ) (party : ι) : Table ι κ ρ :=
  { hidden := table.hidden
    keys := table.keys ++ ofParty party table.pendingKeys
    rows := table.rows ++ table.pendingRows.filter fun row => row.1 = party
    pendingKeys := ofOthers party table.pendingKeys
    pendingRows := ofOthers party table.pendingRows
    snapshot := Function.update table.snapshot party none
    unique := by
      have parts : (ofParty party table.pendingKeys ++
          (ofOthers party table.pendingKeys).map Prod.snd).Perm
            (table.pendingKeys.map Prod.snd) := by
        rw [ofParty, ofOthers, ← List.map_append]
        apply List.Perm.map
        have split := List.filter_append_perm (fun item : ι × κ => item.1 = party)
          table.pendingKeys
        simpa using split
      rw [List.append_assoc]
      exact ((parts.append_left _).append_left _).nodup_iff.2 table.unique }

/-! ## What an operation leaves alone -/

/-- An operation of one party keeps the committed keys, and what the others have. -/
structure Keeps (party : ι) (table next : Table ι κ ρ) : Prop where
  keys : table.keys ⊆ next.keys
  rows : ∀ other, other ≠ party → ofParty other next.rows = ofParty other table.rows
  pendingKeys : ∀ other, other ≠ party →
    ofParty other next.pendingKeys = ofParty other table.pendingKeys
  pendingRows : ∀ other, other ≠ party →
    ofParty other next.pendingRows = ofParty other table.pendingRows

variable {table next : Table ι κ ρ} {party : ι}

theorem keeps_read : Keeps party table (table.read party) :=
  ⟨List.Subset.refl _, fun _ _ => rfl, fun _ _ => rfl, fun _ _ => rfl⟩

theorem keeps_store (rows : List ρ) : Keeps party table (table.store party rows) where
  keys := List.Subset.refl _
  rows _ _ := rfl
  pendingKeys _ _ := rfl
  pendingRows other different := by
    rw [store, ofParty_append, ofParty_tagged_ne different, List.append_nil]

theorem keeps_rollback : Keeps party table (table.rollback party) where
  keys := List.Subset.refl _
  rows _ _ := rfl
  pendingKeys _ different := ofParty_ofOthers different
  pendingRows _ different := ofParty_ofOthers different

theorem keeps_commit : Keeps party table (table.commit party) where
  keys := List.subset_append_left _ _
  rows other different := by
    rw [commit, ofParty_append, ofParty_filter_ne different, List.append_nil]
  pendingKeys _ different := ofParty_ofOthers different
  pendingRows _ different := ofParty_ofOthers different

/-- An insertion finds its key taken, finds it locked, or adds it. -/
theorem insert_cases [DecidableEq κ] (table : Table ι κ ρ) (party : ι) (key : κ) :
    ((key ∈ table.hidden ∨ key ∈ table.keys ∨ (party, key) ∈ table.pendingKeys) ∧
      table.insert party key = .duplicate) ∨
    table.insert party key = .waits ∨
    ∃ next, table.insert party key = .inserted next ∧ key ∉ table.hidden ∧ key ∉ table.keys ∧
      Keeps party table next ∧ next.keys = table.keys ∧ next.rows = table.rows ∧
        next.snapshot = table.snapshot ∧ next.pendingRows = table.pendingRows ∧
          next.pendingKeys = table.pendingKeys ++ [(party, key)] := by
  rw [insert]
  split
  · next taken => exact .inl ⟨taken, rfl⟩
  · next free =>
      right
      rw [not_or, not_or] at free
      split
      · exact .inl rfl
      · refine .inr ⟨_, rfl, free.1, free.2.1, ⟨List.Subset.refl _, fun _ _ => rfl, ?_,
          fun _ _ => rfl⟩, rfl, rfl, rfl, rfl, rfl⟩
        intro other different
        rw [ofParty_append]
        have none := ofParty_tagged_ne different [key]
        rw [List.map_singleton] at none
        rw [none, List.append_nil]

/-- Snapshots are states of the past. -/
def PastSnapshots (table : Table ι κ ρ) : Prop :=
  ∀ party snapshot, table.snapshot party = some snapshot → snapshot ⊆ table.keys

omit [DecidableEq ι] in
theorem PastSnapshots.of_same (past : table.PastSnapshots) (keys : table.keys ⊆ next.keys)
    (snapshot : next.snapshot = table.snapshot) : next.PastSnapshots := by
  intro other taken same
  rw [snapshot] at same
  exact List.Subset.trans (past other taken same) keys

theorem PastSnapshots.read (past : table.PastSnapshots) :
    (table.read party).PastSnapshots := by
  intro other taken same
  by_cases own : other = party
  · subst own
    simp only [Table.read, Function.update_self, Option.some.injEq] at same
    subst same
    cases before : table.snapshot other with
    | none => exact List.Subset.refl _
    | some snapshot => exact past other snapshot before
  · simp only [Table.read, Function.update_of_ne own] at same
    exact past other taken same

theorem PastSnapshots.of_ended (past : table.PastSnapshots) (keys : table.keys ⊆ next.keys)
    (snapshot : next.snapshot = Function.update table.snapshot party none) :
    next.PastSnapshots := by
  intro other taken same
  rw [snapshot] at same
  by_cases own : other = party
  · subst own
    rw [Function.update_self] at same
    cases same
  · rw [Function.update_of_ne own] at same
    exact List.Subset.trans (past other taken same) keys

theorem PastSnapshots.rollback (past : table.PastSnapshots) :
    (table.rollback party).PastSnapshots :=
  past.of_ended (List.Subset.refl _) rfl

theorem PastSnapshots.commit (past : table.PastSnapshots) :
    (table.commit party).PastSnapshots :=
  past.of_ended (List.subset_append_left _ _) rfl

theorem finds_of_pending [DecidableEq κ] {isolation : Isolation} {key : κ}
    (pending : (party, key) ∈ table.pendingKeys) :
    table.finds isolation party key = true := decide_eq_true (.inr pending)

/-- What a transaction finds is committed or its own. -/
theorem PastSnapshots.found [DecidableEq κ] {isolation : Isolation} {key : κ}
    (past : table.PastSnapshots) (found : table.finds isolation party key = true) :
    key ∈ table.keys ∨ (party, key) ∈ table.pendingKeys := by
  have seen := of_decide_eq_true found
  cases isolation with
  | readCommitted => exact seen
  | repeatableRead =>
      cases taken : table.snapshot party with
      | none => simpa [visible, taken] using seen
      | some snapshot =>
          apply seen.imp_left
          intro member
          rw [visible, taken] at member
          exact past party snapshot taken member

end Table

end IotLab.Library
