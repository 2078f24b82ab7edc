import IotLab.Library.Decimal
import Mathlib.Data.List.Sort

/-!
# The store of the server

The tables that the streams use, with the queries of their DAOs.  A filter says
how the integer at an offset of a type is converted and labelled; `addFilter`
refuses a second filter for the same offset of a type, so the filters of a table
are unique.
-/

namespace IotLab.Server

open IotLab.Library

abbrev Text := List Char

/-- The exceptions that leave the modelled methods. -/
inductive Failure where
  /-- `NumberFormatException`. -/
  | numberFormat
  /-- `ArrayIndexOutOfBoundsException` and `IndexOutOfBoundsException`. -/
  | indexOutOfBounds
  /-- `ClassCastException`. -/
  | classCast
  | invalidData (message : Text)
  | dao (title message : Text)
  /-- The `PersistenceException` for a second mote with an address. -/
  | duplicateMote
  deriving Repr, DecidableEq

/-- A row of the table `Type`. -/
structure StreamType where
  id : ℤ
  streamName : Text
  minDataNumber : ℤ
  deriving Repr, DecidableEq

/-- A row of the table `Filter`, with the class name of its strategy, the text of
its label and the id of its type. -/
structure Filter where
  offset : ℤ
  className : Text
  label : Text
  type : ℤ
  deriving Repr, DecidableEq

/-- Filters with one offset for a type at most. -/
structure FilterTable where
  rows : List Filter := []
  unique : (rows.map fun filter => (filter.type, filter.offset)).Nodup := by simp

theorem unique_noFilters :
    (([] : List Filter).map fun filter => (filter.type, filter.offset)).Nodup :=
  List.nodup_nil

/-- A row of the table `Experiment`. -/
structure Experiment where
  id : ℤ
  active : Bool
  deriving Repr, DecidableEq

/-- A row of the table `Error`. -/
structure ErrorRow where
  title : Text
  message : Text
  deriving Repr, DecidableEq

structure Store where
  types : List StreamType := []
  filters : FilterTable := {}
  /-- The addresses of the senders. -/
  senders : List Text := []
  /-- The addresses of the motes that are no senders. -/
  otherMotes : List Text := []
  experiments : List Experiment := []
  errors : List ErrorRow := []
  /-- The static fields `valid` of `DataStream` and `GeolocStream`. -/
  dataValid : Bool := true
  geolocValid : Bool := true

/-- `TypeDAO.find`. -/
def Store.findType (store : Store) (id : ℤ) : Except Failure StreamType :=
  match store.types.find? fun type => type.id = id with
  | none => .error (.dao "Type".toList "This type does not exist".toList)
  | some type => .ok type

/-- `FilterDAO.find(type)`: the filters of the type by increasing offset. -/
def FilterTable.find (table : FilterTable) (type : ℤ) : List Filter :=
  (table.rows.filter fun filter => filter.type = type).insertionSort
    fun left right => left.offset ≤ right.offset

/-- `ExperimentDAO.getActiveExperiment`. -/
def Store.getActiveExperiment (store : Store) : Except Failure Experiment :=
  match store.experiments.filter Experiment.active with
  | [] => .error (.dao "ExperimentDAO".toList "No active experiment".toList)
  | [experiment] => .ok experiment
  | _ :: _ :: _ =>
      .error (.dao "ExperimentDAO".toList "Several active experiment".toList)

/-- `SenderDAO.mergeSender`: a known sender is kept and a new one is added.  The key of the table
`Mote` refuses a sender with the address of another mote. -/
def Store.mergeSender (store : Store) (address : Text) : Except Failure Store :=
  if address ∈ store.senders then .ok store
  else if address ∈ store.otherMotes then .error .duplicateMote
  else .ok { store with senders := store.senders ++ [address] }

/-! ## Senders -/

/-- The address is that of a sender, or of no mote. -/
def Store.Accepts (store : Store) (address : Text) : Prop :=
  address ∈ store.otherMotes → address ∈ store.senders

instance (store : Store) (address : Text) : Decidable (store.Accepts address) :=
  inferInstanceAs (Decidable (_ → _))

/-- The store in which an address is that of a sender. -/
def Store.withSender (store : Store) (address : Text) : Store :=
  if address ∈ store.senders then store
  else { store with senders := store.senders ++ [address] }

section Senders

variable {store : Store} {address other : Text}

theorem mergeSender_of_accepts (accepts : store.Accepts address) :
    store.mergeSender address = .ok (store.withSender address) := by
  rw [Store.mergeSender, Store.withSender]
  split
  · rfl
  · next new => rw [if_neg fun taken => new (accepts taken)]

theorem mergeSender_of_not_accepts (refuses : ¬ store.Accepts address) :
    store.mergeSender address = .error .duplicateMote := by
  obtain ⟨taken, new⟩ := Classical.not_imp.1 refuses
  rw [Store.mergeSender, if_neg new, if_pos taken]

theorem mergeSender_cases (store : Store) (address : Text) :
    (store.Accepts address ∧ store.mergeSender address = .ok (store.withSender address)) ∨
      (¬ store.Accepts address ∧ store.mergeSender address = .error .duplicateMote) := by
  by_cases accepts : store.Accepts address
  · exact .inl ⟨accepts, mergeSender_of_accepts accepts⟩
  · exact .inr ⟨accepts, mergeSender_of_not_accepts accepts⟩

theorem mem_withSender_iff :
    other ∈ (store.withSender address).senders ↔ other ∈ store.senders ∨ other = address := by
  rw [Store.withSender]
  split
  · next known => exact (or_iff_left_of_imp fun same => same ▸ known).symm
  · simp

@[simp] theorem withSender_otherMotes :
    (store.withSender address).otherMotes = store.otherMotes := by
  rw [Store.withSender]
  split <;> rfl

theorem accepts_withSender_iff (accepts : store.Accepts address) :
    (store.withSender address).Accepts other ↔ store.Accepts other := by
  simp only [Store.Accepts, withSender_otherMotes, mem_withSender_iff]
  refine forall_congr' fun taken => or_iff_left_of_imp fun same => ?_
  subst same
  exact accepts taken

end Senders

/-! ## Filters -/

/-- `InfoResource.addFilter`, when the type and the references exist. -/
def FilterTable.addFilter (table : FilterTable) (filter : Filter) : FilterTable :=
  if taken : (filter.type, filter.offset) ∈
      table.rows.map fun row => (row.type, row.offset) then table
  else
    { rows := table.rows ++ [filter]
      unique := by
        rw [List.map_append, List.nodup_append]
        refine ⟨table.unique, List.nodup_singleton _, ?_⟩
        intro key member other last equal
        rw [List.map_singleton, List.mem_singleton] at last
        rw [equal, last] at member
        exact taken member }

/-- `InfoResource.deleteFilter`. -/
def FilterTable.deleteFilter (table : FilterTable) (filter : Filter) : FilterTable :=
  { rows := table.rows.erase filter
    unique := table.unique.sublist ((List.erase_sublist).map _) }

theorem FilterTable.foldl_addFilter_append (table : FilterTable) (filters : List Filter)
    (unique : ((table.rows ++ filters).map fun filter =>
      (filter.type, filter.offset)).Nodup) :
    filters.foldl FilterTable.addFilter table = ⟨table.rows ++ filters, unique⟩ := by
  induction filters generalizing table with
  | nil => simp
  | cons filter rest ih =>
      have free : (filter.type, filter.offset) ∉
          table.rows.map fun row => (row.type, row.offset) := by
        intro taken
        rw [List.map_append, List.map_cons] at unique
        exact (List.nodup_append.1 unique).2.2 _ taken _ List.mem_cons_self rfl
      have added : (table.addFilter filter).rows = table.rows ++ [filter] := by
        rw [FilterTable.addFilter, dif_neg free]
      rw [List.foldl_cons, ih]
      · simp only [added, List.append_assoc, List.singleton_append]
      · rw [added, List.append_assoc]
        exact unique

theorem FilterTable.foldl_addFilter (table : FilterTable) :
    table.rows.foldl FilterTable.addFilter {} = table :=
  FilterTable.foldl_addFilter_append {} table.rows table.unique

/-- Filters in strictly increasing order of their offsets. -/
def Sorted (filters : List Filter) : Prop :=
  filters.Pairwise fun left right => left.offset < right.offset

section Sorted

variable {filter : Filter} {later : List Filter}

theorem Sorted.of_cons (sorted : Sorted (filter :: later)) : Sorted later :=
  (List.pairwise_cons.1 sorted).2

theorem Sorted.behind {bound : ℤ} (sorted : Sorted (filter :: later))
    (first : bound ≤ filter.offset) : ∀ other ∈ later, bound < other.offset := by
  intro other member
  exact first.trans_lt ((List.pairwise_cons.1 sorted).1 other member)

theorem Sorted.above {bound : ℤ} (sorted : Sorted (filter :: later))
    (first : bound < filter.offset) : ∀ other ∈ filter :: later, bound < other.offset := by
  intro other member
  rcases List.mem_cons.1 member with rfl | member
  · exact first
  · exact sorted.behind first.le other member

end Sorted

/-- The filters of a type come in this order. -/
theorem FilterTable.sorted_find (table : FilterTable) (type : ℤ) :
    Sorted (table.find type) := by
  have sorted : (table.find type).Pairwise fun left right =>
      left.offset ≤ right.offset := List.pairwise_insertionSort _ _
  have ofType : ∀ filter ∈ table.find type, filter.type = type := by
    intro filter member
    rw [FilterTable.find, List.mem_insertionSort, List.mem_filter] at member
    simpa using member.2
  have unique : ((table.find type).map fun filter =>
      (filter.type, filter.offset)).Nodup := by
    have permuted := List.perm_insertionSort
      (fun left right : Filter => left.offset ≤ right.offset)
      (table.rows.filter fun filter => filter.type = type)
    apply (permuted.map _).nodup_iff.2
    exact table.unique.sublist (List.filter_sublist.map _)
  rw [List.Nodup, List.pairwise_map] at unique
  apply (sorted.and unique).imp_of_mem
  intro left right leftMember rightMember both
  apply lt_of_le_of_ne both.1
  intro same
  apply both.2
  rw [ofType left leftMember, ofType right rightMember, same]

end IotLab.Server
