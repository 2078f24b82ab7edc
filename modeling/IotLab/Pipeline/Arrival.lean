import IotLab.Gateway.Router
import IotLab.Library.Runs
import IotLab.Server.DataResource
import IotLab.Server.Labels
import Mathlib.Data.List.Perm.Basic

/-!
# From the serial port to the table of data

The gateway starts a thread for every line of sensor data, so the posts of several
lines are under way at once.  The server takes them in any order, and persists the
rows of several posts at once, one row at a time.  The rows get increasing ids in
the order in which they are persisted; each keeps the number of its line, for the
properties only.
-/

namespace IotLab.Pipeline

open IotLab.Library
open IotLab.Gateway
open IotLab.Server

/-- A post of a line that the server has not taken yet. -/
structure Post where
  line : ℕ
  data : Server.Text
  deriving Repr, DecidableEq

/-- The rows of a line that the server has still to persist. -/
structure Insertion where
  line : ℕ
  rows : List Data
  deriving Repr, DecidableEq

/-- A row of the table `Data`. -/
structure StoredRow where
  line : ℕ
  row : Data
  deriving Repr, DecidableEq

structure Arrival where
  store : Store
  /-- The number of lines that the gateway has read. -/
  received : ℕ := 0
  inFlight : List Post := []
  inserting : List Insertion := []
  /-- The table `Data` by increasing id. -/
  rows : List StoredRow := []

inductive ArrivalEvent where
  /-- The gateway reads a line. -/
  | read (systemTime : ℤ) (line : Server.Text)
  /-- The server takes one of the posts and converts it. -/
  | process (index : ℕ)
  /-- The server persists the next row of one of the posts. -/
  | insert (index : ℕ)
  deriving Repr, DecidableEq

/-- The path of `DataResource`. -/
def dataUrl : Server.Text := "/rest/data".toList

/-- The post that the thread of a line sends to `DataResource`. -/
def dataPost (router : Router) (systemTime : ℤ) (line : Server.Text) :
    Option Server.Text := do
  let request ← router.forwardPost (← handleIncomingData systemTime line)
  if request.url = dataUrl then some request.data else none

def arrivalStep (router : Router) (state : Arrival) : ArrivalEvent → Option Arrival
  | .read systemTime line =>
      some { state with
        received := state.received + 1
        inFlight := state.inFlight ++
          ((dataPost router systemTime line).map (Post.mk state.received)).toList }
  | .process index =>
      match state.inFlight[index]? with
      | none => none
      | some post =>
          let added := state.store.add post.data
          some { state with
            store := added.1
            inFlight := state.inFlight.eraseIdx index
            inserting := state.inserting ++ [⟨post.line, added.2⟩] }
  | .insert index =>
      match state.inserting[index]? with
      | some ⟨line, row :: rest⟩ =>
          some { state with
            inserting := state.inserting.set index ⟨line, rest⟩
            rows := state.rows ++ [⟨line, row⟩] }
      | _ => none

/-! ## The property -/

/-- The rows of each mote are in the order of the lines. -/
def InOrder (rows : List StoredRow) : Prop :=
  rows.Pairwise fun earlier later =>
    earlier.row.mote = later.row.mote → earlier.line ≤ later.line

instance (rows : List StoredRow) : Decidable (InOrder rows) :=
  inferInstanceAs (Decidable (rows.Pairwise _))

/-- A row of a mote from a line is still to be stored. -/
def Pending (state : Arrival) (line : ℕ) (mote : Server.Text) : Prop :=
  (∃ post ∈ state.inFlight, post.line = line ∧
    ∃ row ∈ (state.store.add post.data).2, row.mote = mote) ∨
  ∃ insertion ∈ state.inserting, insertion.line = line ∧
    ∃ row ∈ insertion.rows, row.mote = mote

/-- All rows of the lines read so far are stored. -/
def Complete (state : Arrival) : Prop :=
  ∀ line mote, ¬ Pending state line mote

/-- No row of a mote is stored while a row of the mote from an earlier line is
pending. -/
def NoOvertaking (state : Arrival) : ArrivalEvent → Prop
  | .insert index =>
      ∀ line row rest, state.inserting[index]? = some ⟨line, row :: rest⟩ →
        ∀ earlier < line, ¬ Pending state earlier row.mote
  | .read _ _ | .process _ => True

/-! ## What one step does to the pending rows -/

theorem mem_iff_mem_eraseIdx {α : Type*} {list : List α} {index : ℕ} {value other : α}
    (found : list[index]? = some value) :
    other ∈ list ↔ other = value ∨ other ∈ list.eraseIdx index := by
  rcases List.getElem?_eq_some_iff.1 found with ⟨inside, rfl⟩
  rw [← List.mem_cons, (List.getElem_cons_eraseIdx_perm inside).mem_iff]

theorem mem_set_iff_mem_eraseIdx {α : Type*} {list : List α} {index : ℕ}
    {value other : α} (inside : index < list.length) :
    other ∈ list.set index value ↔ other = value ∨ other ∈ list.eraseIdx index := by
  have replaced : (list.set index value)[index]? = some value :=
    List.getElem?_set_self inside
  rw [mem_iff_mem_eraseIdx replaced, List.eraseIdx_set_eq]

section Steps

variable {router : Router} {state next : Arrival}

/-- A row that the server stores next. -/
structure Stores (state : Arrival) (line : ℕ) (row : Data)
    (next : Arrival) : Prop where
  pending : Pending state line row.mote
  rows : next.rows = state.rows ++ [⟨line, row⟩]
  received : next.received = state.received
  shrinks : ∀ other mote, Pending next other mote → Pending state other mote
  keeps : ∀ other mote, Pending state other mote →
    Pending next other mote ∨ other = line ∧ row.mote = mote

theorem pending_read {systemTime : ℤ} {line : Server.Text}
    (stepped : arrivalStep router state (.read systemTime line) = some next) :
    next.rows = state.rows ∧ next.received = state.received + 1 ∧
      (∀ other mote, Pending next other mote →
        Pending state other mote ∨ other = state.received) ∧
      ∀ other mote, Pending state other mote → Pending next other mote := by
  cases stepped
  refine ⟨rfl, rfl, ?_, ?_⟩
  · rintro other mote (⟨post, member, same, row⟩ | inserting)
    · rcases List.mem_append.1 member with old | new
      · exact .inl (.inl ⟨post, old, same, row⟩)
      · right
        cases posted : dataPost router systemTime line with
        | none =>
            rw [posted] at new
            cases new
        | some data =>
            rw [posted] at new
            rw [← same, List.mem_singleton.1 new]
    · exact .inl (.inr inserting)
  · rintro other mote (⟨post, member, rest⟩ | inserting)
    · exact .inl ⟨post, List.mem_append_left _ member, rest⟩
    · exact .inr inserting

theorem pending_process {index : ℕ}
    (stepped : arrivalStep router state (.process index) = some next) :
    next.rows = state.rows ∧ next.received = state.received ∧
      ∀ other mote, Pending next other mote ↔ Pending state other mote := by
  simp only [arrivalStep] at stepped
  cases found : state.inFlight[index]? with
  | none => simp [found] at stepped
  | some post =>
      rw [found] at stepped
      cases stepped
      refine ⟨rfl, rfl, ?_⟩
      intro other mote
      have taken : ∀ other, other ∈ state.inFlight ↔
          other = post ∨ other ∈ state.inFlight.eraseIdx index :=
        fun _ => mem_iff_mem_eraseIdx found
      have same : ∀ data, ((state.store.add post.data).1.add data).2 =
          (state.store.add data).2 :=
        (sameTables_add state.store post.data).added
      constructor
      · rintro (⟨rest, member, line, row⟩ | ⟨insertion, member, line, row⟩)
        · rw [same] at row
          exact .inl ⟨rest, (taken rest).2 (.inr member), line, row⟩
        · rcases List.mem_append.1 member with old | new
          · exact .inr ⟨insertion, old, line, row⟩
          · rw [List.mem_singleton.1 new] at line row
            exact .inl ⟨post, (taken post).2 (.inl rfl), line, row⟩
      · rintro (⟨rest, member, line, row⟩ | ⟨insertion, member, line, row⟩)
        · rcases (taken rest).1 member with rfl | member
          · refine .inr ⟨_, List.mem_append_right _ List.mem_cons_self, line, row⟩
          · rw [← same] at row
            exact .inl ⟨rest, member, line, row⟩
        · exact .inr ⟨insertion, List.mem_append_left _ member, line, row⟩

theorem pending_insert {index : ℕ}
    (stepped : arrivalStep router state (.insert index) = some next) :
    ∃ line row rest, state.inserting[index]? = some ⟨line, row :: rest⟩ ∧
      Stores state line row next := by
  simp only [arrivalStep] at stepped
  split at stepped
  · next line row rest found =>
      cases stepped
      have there : ∀ other, other ∈ state.inserting ↔
          other = ⟨line, row :: rest⟩ ∨ other ∈ state.inserting.eraseIdx index :=
        fun _ => mem_iff_mem_eraseIdx found
      have left : ∀ other, other ∈ state.inserting.set index ⟨line, rest⟩ ↔
          other = ⟨line, rest⟩ ∨ other ∈ state.inserting.eraseIdx index :=
        fun _ => mem_set_iff_mem_eraseIdx (List.getElem?_eq_some_iff.1 found).1
      refine ⟨line, row, rest, found, ?_, rfl, rfl, ?_, ?_⟩
      · exact .inr ⟨_, (there _).2 (.inl rfl), rfl, row, List.mem_cons_self, rfl⟩
      · rintro other mote (posts | ⟨insertion, member, same, row', inside, address⟩)
        · exact .inl posts
        · rcases (left insertion).1 member with rfl | member
          · exact .inr ⟨_, (there _).2 (.inl rfl), same, row',
              List.mem_cons_of_mem _ inside, address⟩
          · exact .inr ⟨insertion, (there insertion).2 (.inr member), same, row', inside,
              address⟩
      · rintro other mote (posts | ⟨insertion, member, same, row', inside, address⟩)
        · exact .inl (.inl posts)
        · rcases (there insertion).1 member with rfl | member
          · rcases List.mem_cons.1 inside with rfl | inside
            · exact .inr ⟨same.symm, address⟩
            · exact .inl (.inr ⟨_, (left _).2 (.inl rfl), same, row', inside, address⟩)
          · exact .inl (.inr ⟨insertion, (left insertion).2 (.inr member), same, row',
              inside, address⟩)
  · cases stepped

end Steps

/-! ## Runs without overtaking -/

/-- The invariant: the rows are in order, and no row that is pending belongs before a
stored one. -/
structure Settled (state : Arrival) : Prop where
  inOrder : InOrder state.rows
  stored : ∀ stored ∈ state.rows, stored.line < state.received
  pending : ∀ line mote, Pending state line mote → line < state.received
  closed : ∀ stored ∈ state.rows, ∀ earlier < stored.line,
    ¬ Pending state earlier stored.row.mote

theorem settled_start (store : Store) : Settled { store } where
  inOrder := List.Pairwise.nil
  stored := by simp
  pending := by
    rintro line mote (⟨post, member, _⟩ | ⟨insertion, member, _⟩)
    · cases member
    · cases member
  closed := by simp

section Steps

variable {router : Router} {state next : Arrival}

theorem Settled.read (settled : Settled state) {systemTime : ℤ} {line : Server.Text}
    (stepped : arrivalStep router state (.read systemTime line) = some next) :
    Settled next := by
  rcases pending_read stepped with ⟨rows, received, shrinks, _⟩
  constructor
  · rw [rows]
    exact settled.inOrder
  · intro stored member
    rw [rows] at member
    rw [received]
    exact (settled.stored stored member).trans (Nat.lt_succ_self _)
  · intro other mote pending
    rw [received]
    rcases shrinks other mote pending with old | rfl
    · exact (settled.pending other mote old).trans (Nat.lt_succ_self _)
    · exact Nat.lt_succ_self _
  · intro stored member earlier before pending
    rw [rows] at member
    rcases shrinks _ _ pending with old | rfl
    · exact settled.closed stored member earlier before old
    · exact absurd (settled.stored stored member) before.not_gt

theorem Settled.process (settled : Settled state) {index : ℕ}
    (stepped : arrivalStep router state (.process index) = some next) : Settled next := by
  rcases pending_process stepped with ⟨rows, received, same⟩
  constructor
  · rw [rows]
    exact settled.inOrder
  · rw [rows, received]
    exact settled.stored
  · intro other mote pending
    rw [received]
    exact settled.pending other mote ((same other mote).1 pending)
  · intro stored member earlier before pending
    rw [rows] at member
    exact settled.closed stored member earlier before ((same _ _).1 pending)

/-- An insertion that overtakes no other one of its mote. -/
theorem Settled.insert (settled : Settled state) {index : ℕ}
    (apart : NoOvertaking state (.insert index))
    (stepped : arrivalStep router state (.insert index) = some next) : Settled next := by
  rcases pending_insert stepped with ⟨line, row, rest, found, stores⟩
  have first := apart line row rest found
  constructor
  · rw [stores.rows, InOrder, List.pairwise_append]
    refine ⟨settled.inOrder, List.pairwise_singleton _ _, ?_⟩
    intro stored member last new mote
    rw [List.mem_singleton.1 new] at mote ⊢
    apply not_lt.1
    intro before
    exact settled.closed stored member line before (mote ▸ stores.pending)
  · intro stored member
    rw [stores.rows] at member
    rw [stores.received]
    rcases List.mem_append.1 member with old | new
    · exact settled.stored stored old
    · rw [List.mem_singleton.1 new]
      exact settled.pending line row.mote stores.pending
  · intro other mote pending
    rw [stores.received]
    exact settled.pending other mote (stores.shrinks other mote pending)
  · intro stored member earlier before pending
    rw [stores.rows] at member
    have older := stores.shrinks _ _ pending
    rcases List.mem_append.1 member with old | new
    · exact settled.closed stored old earlier before older
    · rw [List.mem_singleton.1 new] at before older
      exact first earlier before older

theorem Settled.step {event : ArrivalEvent} (settled : Settled state)
    (apart : NoOvertaking state event)
    (stepped : arrivalStep router state event = some next) : Settled next := by
  cases event with
  | read systemTime line => exact settled.read stepped
  | process index => exact settled.process stepped
  | insert index => exact settled.insert apart stepped

end Steps

/-! ## Rows that are not lost -/

/-- Rows are only added, and a pending row stays pending or is among the added
ones. -/
structure Continues (state final : Arrival) (extra : List StoredRow) : Prop where
  rows : final.rows = state.rows ++ extra
  kept : ∀ line mote, Pending state line mote →
    Pending final line mote ∨ ∃ stored ∈ extra, stored.line = line ∧ stored.row.mote = mote

theorem continues_step {router : Router} {state next : Arrival} {event : ArrivalEvent}
    (stepped : arrivalStep router state event = some next) :
    ∃ extra, Continues state next extra := by
  cases event with
  | read systemTime line =>
      rcases pending_read stepped with ⟨rows, _, _, keeps⟩
      refine ⟨[], by rw [rows, List.append_nil], ?_⟩
      intro line mote pending
      exact .inl (keeps line mote pending)
  | process index =>
      rcases pending_process stepped with ⟨rows, _, same⟩
      refine ⟨[], by rw [rows, List.append_nil], ?_⟩
      intro line mote pending
      exact .inl ((same line mote).2 pending)
  | insert index =>
      rcases pending_insert stepped with ⟨line, row, rest, _, stores⟩
      refine ⟨[⟨line, row⟩], stores.rows, ?_⟩
      intro other mote pending
      rcases stores.keeps other mote pending with later | ⟨rfl, address⟩
      · exact .inl later
      · exact .inr ⟨_, List.mem_cons_self, rfl, address⟩

theorem continues_run {router : Router} {state final : Arrival}
    {events : List ArrivalEvent}
    (executed : run (arrivalStep router) state events = some final) :
    ∃ extra, Continues state final extra := by
  induction events generalizing state with
  | nil =>
      simp only [run_nil, Option.some.injEq] at executed
      subst executed
      exact ⟨[], (List.append_nil _).symm, fun _ _ pending => .inl pending⟩
  | cons event rest ih =>
      rcases run_cons executed with ⟨next, stepped, remaining⟩
      rcases continues_step stepped with ⟨first, begun⟩
      rcases ih remaining with ⟨later, ended⟩
      refine ⟨first ++ later, ?_, ?_⟩
      · rw [ended.rows, begun.rows, List.append_assoc]
      · intro line mote pending
        rcases begun.kept line mote pending with pending | ⟨stored, member, same⟩
        · rcases ended.kept line mote pending with pending | ⟨stored, member, same⟩
          · exact .inl pending
          · exact .inr ⟨stored, List.mem_append_right _ member, same⟩
        · exact .inr ⟨stored, List.mem_append_left _ member, same⟩

/-- A row that overtakes an earlier one is out of order once all rows are stored. -/
theorem noOvertaking_of_inOrder {router : Router} {state next final : Arrival}
    {event : ArrivalEvent} {rest : List ArrivalEvent}
    (stepped : arrivalStep router state event = some next)
    (remaining : run (arrivalStep router) next rest = some final)
    (complete : Complete final) (ordered : InOrder final.rows) :
    NoOvertaking state event := by
  cases event with
  | read systemTime line => exact trivial
  | process index => exact trivial
  | insert index =>
      intro line row others found earlier before pending
      rcases pending_insert stepped with ⟨line', row', others', found', stores⟩
      rw [found] at found'
      cases found'
      rcases stores.keeps earlier row.mote pending with still | ⟨same, _⟩
      · rcases continues_run remaining with ⟨extra, later⟩
        rcases later.kept earlier row.mote still with never | ⟨stored, member, same, mote⟩
        · exact complete earlier row.mote never
        · rw [later.rows, stores.rows, InOrder, List.pairwise_append] at ordered
          have wrong := ordered.2.2 ⟨line, row⟩
            (List.mem_append_right _ List.mem_cons_self) stored member mote.symm
          rw [same] at wrong
          exact absurd before wrong.not_gt
      · exact before.ne same

theorem everyStep_of_inOrder {router : Router} {state final : Arrival}
    {events : List ArrivalEvent}
    (executed : run (arrivalStep router) state events = some final)
    (complete : Complete final) (ordered : InOrder final.rows) :
    EveryStep (arrivalStep router) NoOvertaking state events := by
  induction events generalizing state with
  | nil => exact trivial
  | cons event rest ih =>
      rcases run_cons executed with ⟨next, stepped, remaining⟩
      refine ⟨noOvertaking_of_inOrder stepped remaining complete ordered, ?_⟩
      intro next' stepped'
      rw [stepped] at stepped'
      cases stepped'
      exact ih remaining

theorem inOrder_of_everyStep {router : Router} {store : Store} {final : Arrival}
    {events : List ArrivalEvent}
    (every : EveryStep (arrivalStep router) NoOvertaking { store } events)
    (executed : run (arrivalStep router) { store } events = some final) :
    InOrder final.rows := by
  have settled := every.preserves Settled
    (fun _ _ _ settled apart stepped => settled.step apart stepped)
    (settled_start store) executed
  exact settled.inOrder

/-- Runs without overtaking store the rows of each mote in the order of its lines,
and among the runs that store all rows only these do. -/
theorem inOrder_iff_noOvertaking (router : Router) (store : Store)
    {events : List ArrivalEvent} {final : Arrival}
    (executed : run (arrivalStep router) { store } events = some final) :
    (EveryStep (arrivalStep router) NoOvertaking { store } events →
      InOrder final.rows) ∧
    (Complete final →
      (InOrder final.rows ↔
        EveryStep (arrivalStep router) NoOvertaking { store } events)) := by
  refine ⟨fun every => inOrder_of_everyStep every executed, ?_⟩
  intro complete
  constructor
  · exact everyStep_of_inOrder executed complete
  · intro every
    exact inOrder_of_everyStep every executed

/-! ## Two lines of one mote -/

/-- A router that posts data lines to `DataResource`. -/
def dataRouter : Router :=
  { typeOffset := 0
    allowForwarding := [0]
    url := fun _ => dataUrl }

/-- Two lines of the mote 2.1. -/
def twoLines : List ArrivalEvent :=
  [.read 1400000000000 "0 5 1 2 0 258".toList, .read 1400000001000 "0 5 1 3 0 258".toList]

/-- The server takes the posts in the order of the lines. -/
def takenInOrder : List ArrivalEvent :=
  twoLines ++ .process 0 :: List.replicate 7 (.insert 0) ++
    .process 0 :: List.replicate 7 (.insert 1)

theorem complete_of_empty {state : Arrival} (taken : state.inFlight = [])
    (inserted : ∀ insertion ∈ state.inserting, insertion.rows = []) :
    Complete state := by
  rintro line mote (⟨post, member, _⟩ | ⟨insertion, member, _, row, inside, _⟩)
  · rw [taken] at member
    cases member
  · rw [inserted insertion member] at inside
    cases inside

theorem inOrder_takenInOrder :
    ∃ final, run (arrivalStep dataRouter) { store := coveredStore } takenInOrder =
        some final ∧
      Complete final ∧ InOrder final.rows ∧
      EveryStep (arrivalStep dataRouter) NoOvertaking { store := coveredStore }
        takenInOrder := by
  have stored : ∃ final,
      run (arrivalStep dataRouter) { store := coveredStore } takenInOrder = some final ∧
        final.inFlight = [] ∧ (∀ insertion ∈ final.inserting, insertion.rows = []) ∧
        InOrder final.rows :=
    ⟨_, rfl, rfl, by decide +kernel, by decide +kernel⟩
  rcases stored with ⟨final, executed, taken, inserted, ordered⟩
  have complete := complete_of_empty taken inserted
  have apart := (inOrder_iff_noOvertaking dataRouter coveredStore executed).2 complete
  exact ⟨final, executed, complete, ordered, apart.1 ordered⟩

/-- The server takes the second post first. -/
def takenSwapped : List ArrivalEvent :=
  twoLines ++ .process 1 :: List.replicate 7 (.insert 0) ++
    .process 0 :: List.replicate 7 (.insert 1)

/-- The rows of the second line get the smaller ids. -/
theorem not_inOrder_takenSwapped :
    ∃ final, run (arrivalStep dataRouter) { store := coveredStore } takenSwapped =
        some final ∧
      Complete final ∧ ¬ InOrder final.rows := by
  refine ⟨_, rfl, ?_, by decide +kernel⟩
  apply complete_of_empty
  · rfl
  · decide +kernel

end IotLab.Pipeline
