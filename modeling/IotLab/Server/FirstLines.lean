import IotLab.Server.Requests
import IotLab.Server.Validity

/-!
# First lines of a mote

A request of a line looks up what the conversion of the line looks up.  Requests in
parallel store all their rows exactly if none is overtaken by another one that inserts
the same mote.
-/

namespace IotLab.Server

open IotLab.Library

/-! ## Requests of lines -/

/-- The request of a line that yields rows on its own. -/
def Line.request (store : Store) (line : Line) :
    Option (LineRequest (Data ⊕ GeolocationData)) :=
  match (line.take store).data, (line.take store).geolocation with
  | row :: rows, _ =>
      some
        { addresses := [row.mote]
          rows := (row :: rows).map .inl
          carries := by simp }
  | [], row :: rows =>
      some
        { addresses := row.src :: (row :: rows).map GeolocationData.dest
          rows := (row :: rows).map .inr
          carries := by simp }
  | [], [] => none

theorem senders_foldl_withSender {store other : Store} (addresses : List Text)
    (same : store.senders = other.senders) :
    (addresses.foldl Store.withSender store).senders =
      (addresses.foldl Store.withSender other).senders := by
  induction addresses generalizing store other with
  | nil => exact same
  | cons address rest ih =>
      apply ih
      rw [Store.withSender, Store.withSender, same]
      split
      · exact same
      · rfl

/-- A post of data that yields rows has looked up their mote. -/
theorem Store.add_senders {store : Store} {text : Text} {row : Data} {rows : List Data}
    (made : (store.add text).2 = row :: rows) :
    (store.add text).1.senders = (store.withSender row.mote).senders := by
  revert made
  rw [Store.add]
  cases (newDataStream store text).2 with
  | error failure =>
      intro made
      cases made
  | ok stream =>
      dsimp only
      cases converted : (stream.convertData (newDataStream store text).1 .doubleDefault).2 with
      | error failure =>
          intro made
          cases made
      | ok found =>
          intro made
          cases made
          dsimp only
          rw [convertData_senders converted row List.mem_cons_self]
          exact senders_foldl_withSender [row.mote] rfl

/-- A post of samples that yields rows has looked up their motes. -/
theorem Store.addGeoloc_senders {store : Store} {text : Text} {row : GeolocationData}
    {rows : List GeolocationData} (made : (store.addGeoloc text).2 = row :: rows) :
    (store.addGeoloc text).1.senders =
      ((row.src :: (row :: rows).map GeolocationData.dest).foldl Store.withSender
        store).senders := by
  revert made
  rw [Store.addGeoloc]
  cases (newGeolocStream store text).2 with
  | error failure =>
      intro made
      cases made
  | ok stream =>
      dsimp only
      cases converted : (stream.convertGeoloc (newGeolocStream store text).1
          .doubleDefault).2 with
      | error failure =>
          intro made
          cases made
      | ok found =>
          intro made
          cases made
          dsimp only
          rw [convertGeoloc_senders converted]
          exact senders_foldl_withSender _ rfl

/-- The request of a line looks up what the conversion of the line looks up. -/
theorem Line.request_senders {store : Store} {line : Line}
    {request : LineRequest (Data ⊕ GeolocationData)}
    (posted : line.request store = some request) :
    (line.take store).store.senders =
      (request.addresses.foldl Store.withSender store).senders := by
  obtain ⟨stream, text⟩ := line
  rw [Line.request] at posted
  cases stream with
  | data =>
      cases made : (store.add text).2 with
      | nil =>
          simp only [Line.take, made] at posted
          cases posted
      | cons row rows =>
          simp only [Line.take, made, Option.some.injEq] at posted
          subst posted
          exact Store.add_senders made
  | geoloc =>
      cases made : (store.addGeoloc text).2 with
      | nil =>
          simp only [Line.take, made] at posted
          cases posted
      | cons row rows =>
          simp only [Line.take, made, Option.some.injEq] at posted
          subst posted
          exact Store.addGeoloc_senders made

/-! ## Requests in parallel -/

section Parallel

variable {ι ρ : Type*} [DecidableEq ι]
variable {isolation : Isolation} {boundaries : Boundaries} {requests : ι → LineRequest ρ}

theorem run_failed {state final : RequestState ι ρ} {actions : List (RequestAction ι)}
    {request : ι} (invariant : RequestInvariant requests state)
    (failed : state.phase request = .failed)
    (executed : run (requestStep isolation boundaries requests) state actions =
      some final) : final.phase request = .failed := by
  have both := run_preserves
    (fun state => RequestInvariant requests state ∧ state.phase request = .failed)
    (fun state action next holds stepped => by
      obtain ⟨other, table, phase, same, advance, _⟩ :=
        requestStep_cases holds.1 stepped
      subst same
      exact ⟨advance.invariant holds.1, advance.failed holds.2⟩)
    ⟨invariant, failed⟩ executed
  exact both.2

/-- In a run no further request fails exactly when none is overtaken. -/
theorem run_failed_iff {state final : RequestState ι ρ}
    {actions : List (RequestAction ι)} (invariant : RequestInvariant requests state)
    (executed : run (requestStep isolation boundaries requests) state actions =
      some final) :
    (∀ request, final.phase request = .failed → state.phase request = .failed) ↔
      EveryStep (requestStep isolation boundaries requests) NotOvertaken state actions := by
  induction actions generalizing state with
  | nil =>
      cases executed
      exact iff_of_true (fun _ failed => failed) trivial
  | cons action rest ih =>
      obtain ⟨next, stepped, remaining⟩ := run_cons executed
      obtain ⟨actor, table, phase, same, advance, outcome⟩ :=
        requestStep_cases invariant stepped
      subst same
      have preserved := advance.invariant invariant
      have later := ih preserved remaining
      constructor
      · intro none
        constructor
        · apply outcome.1
          intro failed
          have there : (state.enter actor table phase).phase actor = .failed := by
            rw [RequestState.enter_phase_self, failed]
          exact advance.going (none actor (run_failed preserved there remaining))
        · intro other reached
          rw [stepped] at reached
          cases reached
          exact later.1 fun request failed => advance.failed (none request failed)
      · intro every request failed
        have before := later.2 (every.2 _ stepped) request failed
        by_cases own : request = actor
        · subst own
          rw [RequestState.enter_phase_self] at before
          exact absurd before (outcome.2 every.1)
        · rwa [RequestState.enter_phase_of_ne own] at before

end Parallel

/-! ## Two first lines of a mote -/

/-- The first line of a mote, posted by two threads. -/
def firstLines (_ : Bool) : LineRequest (Data ⊕ GeolocationData) :=
  (Line.request coveredStore ⟨.data, "1400000000000 0 5 1 2 0 258".toList⟩).get
    (by decide +kernel)

/-- The requests one after the other. -/
def oneByOne : List (RequestAction Bool) :=
  List.replicate 4 (.step false) ++ List.replicate 3 (.step true)

/-- Both requests look the mote up before one of them inserts it. -/
def overtaking : List (RequestAction Bool) :=
  [.step false, .step true] ++ List.replicate 3 (.step false) ++ [.step true]

/-- The requests after a run in a database without motes. -/
def runFirstLines (actions : List (RequestAction Bool)) :
    Option (RequestState Bool (Data ⊕ GeolocationData)) :=
  run (requestStep .repeatableRead .perRequest firstLines)
    (requestsStart firstLines ⟨[], [], List.nodup_nil⟩) actions

end IotLab.Server
