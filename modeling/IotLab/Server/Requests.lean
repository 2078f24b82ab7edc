import IotLab.Library.Runs
import IotLab.Library.UniqueKey
import IotLab.Server.Store

/-!
# Requests of several threads

Every request looks up the motes of its line, inserts those that it does not find and
stores its rows.  Between the lookup and the insertion of a mote another request can
insert the same mote: the unique key then refuses the insertion, the exception is not
caught, and the rows of the request are lost.  The lookup finds senders only, and the key
refuses the address of a sink as well.
-/

namespace IotLab.Server

open IotLab.Library

/-! ## The requests -/

/-- A request with a line that yields rows: the addresses that it looks up, in order,
and its rows. -/
structure LineRequest (ρ : Type*) where
  addresses : List Text
  rows : List ρ
  carries : rows ≠ []

/-- Where transactions end: behind every call of a DAO, or behind the request. -/
inductive Boundaries where
  | perCall
  | perRequest
  deriving Repr, DecidableEq

/-- What a request does next. -/
inductive Phase where
  /-- `find` in `mergeSender` of an address, with the addresses behind it. -/
  | find (address : Text) (rest : List Text)
  /-- `persist` in `mergeSender`, after `find` has thrown. -/
  | persistMote (address : Text) (rest : List Text)
  | endOfCall (rest : List Text)
  /-- The rows are persisted. -/
  | persistRows
  | endOfRequest
  | finished
  /-- An exception has ended the request. -/
  | failed
  deriving Repr, DecidableEq

/-- The next address, or the rows. -/
def Phase.next : List Text → Phase
  | [] => .persistRows
  | address :: rest => .find address rest

/-- After a call of `mergeSender`. -/
def Boundaries.afterMerge (boundaries : Boundaries) (rest : List Text) : Phase :=
  match boundaries with
  | .perCall => .endOfCall rest
  | .perRequest => .next rest

/-- The addresses in the table `Mote`: those of the senders and those of the other motes. -/
structure Motes where
  senders : List Text
  others : List Text
  unique : (others ++ senders).Nodup

/-- The database and the requests. -/
structure RequestState (ι ρ : Type*) where
  table : Table ι Text ρ
  phase : ι → Phase

inductive RequestAction (ι : Type*) where
  | step (request : ι)
  /-- The database ends a wait for a locked key: a deadlock or a timeout. -/
  | giveUp (request : ι)
  deriving Repr, DecidableEq

section Step

variable {ι ρ : Type*} [DecidableEq ι]

/-- A request has changed the database and goes on. -/
def RequestState.enter (state : RequestState ι ρ) (request : ι) (table : Table ι Text ρ)
    (phase : Phase) : RequestState ι ρ :=
  { table, phase := Function.update state.phase request phase }

/-- The transaction of a request is rolled back and its exception leaves the request. -/
def RequestState.fail (state : RequestState ι ρ) (request : ι) : RequestState ι ρ :=
  state.enter request (state.table.rollback request) .failed

variable (isolation : Isolation) (boundaries : Boundaries) (requests : ι → LineRequest ρ)

/-- One step of a request, or of the database. -/
def requestStep (state : RequestState ι ρ) :
    RequestAction ι → Option (RequestState ι ρ)
  | .step request =>
      match state.phase request with
      | .find address rest =>
          some (state.enter request (state.table.read request)
            (if state.table.finds isolation request address then
              boundaries.afterMerge rest
            else .persistMote address rest))
      | .persistMote address rest =>
          match state.table.insert request address with
          | .inserted table => some (state.enter request table (boundaries.afterMerge rest))
          | .duplicate => some (state.fail request)
          | .waits => none
      | .endOfCall rest =>
          some (state.enter request (state.table.commit request) (.next rest))
      | .persistRows =>
          some (state.enter request (state.table.store request (requests request).rows)
            .endOfRequest)
      | .endOfRequest => some (state.enter request (state.table.commit request) .finished)
      | .finished | .failed => none
  | .giveUp request =>
      match state.phase request with
      | .persistMote address _ =>
          match state.table.insert request address with
          | .waits => some (state.fail request)
          | .inserted _ | .duplicate => none
      | _ => none

/-- Before all requests, with the motes of the database. -/
def requestsStart (motes : Motes) : RequestState ι ρ where
  table :=
    { hidden := motes.others
      keys := motes.senders
      unique := by simpa using motes.unique }
  phase request := .next (requests request).addresses

/-- The request has returned or thrown. -/
def Phase.Ended (phase : Phase) : Prop := phase = .finished ∨ phase = .failed

instance (phase : Phase) : Decidable phase.Ended := inferInstanceAs (Decidable (_ ∨ _))

/-- There is one mote for each address and every request has stored its rows. -/
structure AllStored (table : Table ι Text ρ) : Prop where
  motes : ∀ request, ∀ address ∈ (requests request).addresses,
    (table.hidden ++ table.keys).count address = 1
  rows : ∀ request, ofParty request table.rows = (requests request).rows

/-- No mote is inserted with the address of a mote that is no sender, or of one that another
request has committed since it was looked up, and no wait for a locked key is given up. -/
def NotOvertaken (state : RequestState ι ρ) : RequestAction ι → Prop
  | .step request =>
      ∀ address rest, state.phase request = .persistMote address rest →
        address ∉ state.table.hidden ∧ address ∉ state.table.keys
  | .giveUp _ => False

/-! ## Progress of a request -/

/-- The addresses that a request has still to look up or to insert. -/
def Phase.remaining : Phase → List Text
  | .find address rest | .persistMote address rest => address :: rest
  | .endOfCall rest => rest
  | .persistRows | .endOfRequest | .finished | .failed => []

@[simp] theorem Phase.remaining_next (rest : List Text) :
    (Phase.next rest).remaining = rest := by
  cases rest <;> rfl

@[simp] theorem Boundaries.remaining_afterMerge (boundaries : Boundaries)
    (rest : List Text) : (boundaries.afterMerge rest).remaining = rest := by
  cases boundaries with
  | perCall => rfl
  | perRequest => exact Phase.remaining_next rest

/-- The request is on its way to its rows. -/
def Phase.OnTheWay (phase : Phase) : Prop :=
  phase ≠ .endOfRequest ∧ ¬ phase.Ended

theorem Boundaries.afterMerge_ne_persistMote (boundaries : Boundaries)
    (rest : List Text) {address : Text} {others : List Text} :
    boundaries.afterMerge rest ≠ .persistMote address others := by
  cases boundaries with
  | perCall => simp [Boundaries.afterMerge]
  | perRequest => cases rest <;> simp [Boundaries.afterMerge, Phase.next]

theorem Phase.onTheWay_next (rest : List Text) : (Phase.next rest).OnTheWay := by
  cases rest with
  | nil => simp [Phase.next, Phase.OnTheWay, Phase.Ended]
  | cons address rest => simp [Phase.next, Phase.OnTheWay, Phase.Ended]

theorem Boundaries.onTheWay_afterMerge (boundaries : Boundaries) (rest : List Text) :
    (boundaries.afterMerge rest).OnTheWay := by
  cases boundaries with
  | perCall => simp [Boundaries.afterMerge, Phase.OnTheWay, Phase.Ended]
  | perRequest => exact Phase.onTheWay_next rest

/-- The mote is committed or inserted by the request. -/
def HasMote (table : Table ι Text ρ) (request : ι) (address : Text) : Prop :=
  address ∈ table.keys ∨ address ∈ ofParty request table.pendingKeys

/-- What the database holds for a request that has reached a phase. -/
structure Progress (posted : LineRequest ρ) (table : Table ι Text ρ) (request : ι)
    (phase : Phase) : Prop where
  motes : phase ≠ .failed → ∃ done, posted.addresses = done ++ phase.remaining ∧
    ∀ address ∈ done, HasMote table request address
  absent : ∀ address rest, phase = .persistMote address rest →
    address ∉ ofParty request table.pendingKeys
  pendingRows : ofParty request table.pendingRows =
    if phase = .endOfRequest then posted.rows else []
  rows : ofParty request table.rows = if phase = .finished then posted.rows else []
  ended : phase = .finished → ofParty request table.pendingKeys = []

section Progress

variable {posted : LineRequest ρ} {table next : Table ι Text ρ} {request : ι}
variable {phase : Phase}

/-- A step of another request changes nothing for a request. -/
theorem Progress.frame {other : ι} (progress : Progress posted table request phase)
    (keeps : Table.Keeps other table next) (different : request ≠ other) :
    Progress posted next request phase := by
  have pendingKeys := keeps.pendingKeys request different
  constructor
  · intro going
    obtain ⟨done, split, all⟩ := progress.motes going
    refine ⟨done, split, ?_⟩
    intro address member
    rw [HasMote, pendingKeys]
    exact (all address member).imp_left fun committed => keeps.keys committed
  · rw [pendingKeys]
    exact progress.absent
  · rw [keeps.pendingRows request different]
    exact progress.pendingRows
  · rw [keeps.rows request different]
    exact progress.rows
  · rw [pendingKeys]
    exact progress.ended

/-- A request on its way has no rows yet. -/
theorem Progress.of_onTheWay
    (motes : ∃ done, posted.addresses = done ++ phase.remaining ∧
      ∀ address ∈ done, HasMote table request address)
    (absent : ∀ address rest, phase = .persistMote address rest →
      address ∉ ofParty request table.pendingKeys)
    (onTheWay : phase.OnTheWay) (noPending : ofParty request table.pendingRows = [])
    (noRows : ofParty request table.rows = []) :
    Progress posted table request phase := by
  obtain ⟨notEnd, notEnded⟩ := onTheWay
  rw [Phase.Ended, not_or] at notEnded
  exact
    { motes := fun _ => motes
      absent
      pendingRows := by rw [noPending, if_neg notEnd]
      rows := by rw [noRows, if_neg notEnded.1]
      ended := fun finished => absurd finished notEnded.1 }

theorem Progress.onTheWay (progress : Progress posted table request phase)
    (onTheWay : phase.OnTheWay) :
    (∃ done, posted.addresses = done ++ phase.remaining ∧
        ∀ address ∈ done, HasMote table request address) ∧
      ofParty request table.pendingRows = [] ∧ ofParty request table.rows = [] := by
  obtain ⟨notEnd, notEnded⟩ := onTheWay
  rw [Phase.Ended, not_or] at notEnded
  refine ⟨progress.motes notEnded.2, ?_, ?_⟩
  · rw [progress.pendingRows, if_neg notEnd]
  · rw [progress.rows, if_neg notEnded.1]

section Steps

variable {address : Text} {rest : List Text}

/-- A mote that is found is done. -/
theorem Progress.found (progress : Progress posted table request (.find address rest))
    (found : HasMote table request address) (boundaries : Boundaries) :
    Progress posted (table.read request) request (boundaries.afterMerge rest) := by
  obtain ⟨⟨done, split, all⟩, noPending, noRows⟩ := progress.onTheWay
    (Phase.onTheWay_next (address :: rest))
  refine Progress.of_onTheWay ⟨done ++ [address], ?_, ?_⟩ ?_
    (boundaries.onTheWay_afterMerge rest) noPending noRows
  · rw [split, Boundaries.remaining_afterMerge, List.append_assoc]
    rfl
  · intro other member
    cases List.mem_append.1 member with
    | inl earlier => exact all other earlier
    | inr last =>
        rw [List.mem_singleton.1 last]
        exact found
  · intro other others same
    exact absurd same (boundaries.afterMerge_ne_persistMote rest)

theorem Progress.missing (progress : Progress posted table request (.find address rest))
    (missing : address ∉ ofParty request table.pendingKeys) :
    Progress posted (table.read request) request (.persistMote address rest) := by
  obtain ⟨⟨done, split, all⟩, noPending, noRows⟩ := progress.onTheWay
    (Phase.onTheWay_next (address :: rest))
  refine Progress.of_onTheWay ⟨done, split, all⟩ ?_ ?_ noPending noRows
  · intro other others same
    cases same
    exact missing
  · simp [Phase.OnTheWay, Phase.Ended]

/-- A mote that is inserted is done. -/
theorem Progress.inserted
    (progress : Progress posted table request (.persistMote address rest))
    (keys : next.keys = table.keys) (rows : next.rows = table.rows)
    (pendingRows : next.pendingRows = table.pendingRows)
    (pendingKeys : next.pendingKeys = table.pendingKeys ++ [(request, address)])
    (boundaries : Boundaries) :
    Progress posted next request (boundaries.afterMerge rest) := by
  have own : ofParty request next.pendingKeys =
      ofParty request table.pendingKeys ++ [address] := by
    rw [pendingKeys, ofParty_append]
    exact congrArg _ (ofParty_tagged [address])
  obtain ⟨⟨done, split, all⟩, noPending, noRows⟩ := progress.onTheWay
    (by simp [Phase.OnTheWay, Phase.Ended])
  rw [← pendingRows] at noPending
  rw [← rows] at noRows
  refine Progress.of_onTheWay ⟨done ++ [address], ?_, ?_⟩ ?_
    (boundaries.onTheWay_afterMerge rest) noPending noRows
  · rw [split, Boundaries.remaining_afterMerge, List.append_assoc]
    rfl
  · intro other member
    rw [HasMote, keys, own]
    cases List.mem_append.1 member with
    | inl earlier =>
        exact (all other earlier).imp_right fun pending => List.mem_append_left _ pending
    | inr last => exact .inr (List.mem_append_right _ last)
  · intro other others same
    exact absurd same (boundaries.afterMerge_ne_persistMote rest)

theorem Progress.fail (progress : Progress posted table request phase)
    (going : phase ≠ .finished) :
    Progress posted (table.rollback request) request .failed where
  motes failed := absurd rfl failed
  absent _ _ same := by cases same
  pendingRows := ofParty_ofOthers_self
  rows := progress.rows.trans (if_neg going)
  ended same := by cases same

theorem HasMote.commit (has : HasMote table request address) :
    address ∈ (table.commit request).keys := by
  cases has with
  | inl committed => exact List.mem_append_left _ committed
  | inr pending => exact List.mem_append_right _ pending

theorem Progress.endOfCall (progress : Progress posted table request (.endOfCall rest)) :
    Progress posted (table.commit request) request (.next rest) := by
  obtain ⟨⟨done, split, all⟩, noPending, noRows⟩ := progress.onTheWay
    (by simp [Phase.OnTheWay, Phase.Ended])
  refine Progress.of_onTheWay ⟨done, ?_, ?_⟩ ?_ (Phase.onTheWay_next rest)
    ofParty_ofOthers_self ?_
  · rw [split, Phase.remaining_next]
    rfl
  · intro other member
    exact .inl (all other member).commit
  · intro other others same
    cases rest <;> cases same
  · rw [Table.commit, ofParty_append, noRows, ofParty_filter_self, noPending]
    rfl

theorem Progress.persistRows (progress : Progress posted table request .persistRows) :
    Progress posted (table.store request posted.rows) request .endOfRequest := by
  obtain ⟨motes, noPending, noRows⟩ := progress.onTheWay (Phase.onTheWay_next [])
  constructor
  · exact fun _ => motes
  · intro other others same
    cases same
  · rw [Table.store, ofParty_append, noPending, ofParty_tagged]
    rfl
  · exact noRows
  · intro same
    cases same

theorem Progress.endOfRequest (progress : Progress posted table request .endOfRequest) :
    Progress posted (table.commit request) request .finished := by
  have noRows := progress.rows
  have pending := progress.pendingRows
  rw [if_neg (by simp)] at noRows
  rw [if_pos rfl] at pending
  constructor
  · intro _
    obtain ⟨done, split, all⟩ := progress.motes (by simp)
    refine ⟨done, split, ?_⟩
    intro other member
    exact .inl (all other member).commit
  · intro other others same
    cases same
  · exact ofParty_ofOthers_self
  · rw [Table.commit, ofParty_append, noRows, ofParty_filter_self, pending]
    rfl
  · intro _
    exact ofParty_ofOthers_self

end Steps

end Progress

/-! ## Runs -/

variable {isolation : Isolation} {boundaries : Boundaries} {requests : ι → LineRequest ρ}

/-- Every request has made its progress. -/
structure RequestInvariant (requests : ι → LineRequest ρ) (state : RequestState ι ρ) :
    Prop where
  past : state.table.PastSnapshots
  progress : ∀ request,
    Progress (requests request) state.table request (state.phase request)

theorem requestInvariant_start (motes : Motes) :
    RequestInvariant requests (requestsStart requests motes) where
  past := by
    intro request snapshot taken
    cases taken
  progress request := by
    refine Progress.of_onTheWay ⟨[], ?_, ?_⟩ ?_ (Phase.onTheWay_next _) rfl rfl
    · rw [List.nil_append]
      exact (Phase.remaining_next _).symm
    · intro address member
      cases member
    · intro address rest same member
      cases member

/-- What a step does for its request. -/
structure Advance (requests : ι → LineRequest ρ) (state : RequestState ι ρ) (request : ι)
    (table : Table ι Text ρ) (phase : Phase) : Prop where
  going : state.phase request ≠ .failed
  keeps : Table.Keeps request state.table table
  past : table.PastSnapshots
  progress : Progress (requests request) table request phase

/-- A step at the lookup of a mote. -/
theorem find_cases {state next : RequestState ι ρ} {request : ι} {address : Text}
    {rest : List Text} (invariant : RequestInvariant requests state)
    (reached : state.phase request = .find address rest)
    (stepped : requestStep isolation boundaries requests state (.step request) = some next) :
    ∃ table phase, next = state.enter request table phase ∧
      Advance requests state request table phase ∧ phase ≠ .failed := by
  have progress := invariant.progress request
  rw [reached] at progress
  simp only [requestStep, reached, Option.some.injEq] at stepped
  refine ⟨_, _, stepped.symm, ⟨by simp [reached], Table.keeps_read, invariant.past.read, ?_⟩,
    ?_⟩
  · split
    · next found =>
        apply progress.found _ boundaries
        rw [HasMote, mem_ofParty]
        exact invariant.past.found found
    · next missing =>
        apply progress.missing
        rw [mem_ofParty]
        intro pending
        exact missing (Table.finds_of_pending pending)
  · split
    · exact fun same => (boundaries.onTheWay_afterMerge rest).2 (.inr same)
    · simp

/-- A step at the insertion of a mote. -/
theorem persistMote_cases {state next : RequestState ι ρ} {request : ι} {address : Text}
    {rest : List Text} (invariant : RequestInvariant requests state)
    (reached : state.phase request = .persistMote address rest)
    (stepped : requestStep isolation boundaries requests state (.step request) = some next) :
    ∃ table phase, next = state.enter request table phase ∧
      Advance requests state request table phase ∧
        (phase ≠ .failed ↔ NotOvertaken state (.step request)) := by
  have progress := invariant.progress request
  rw [reached] at progress
  simp only [requestStep, reached] at stepped
  obtain ⟨taken, inserting⟩ | inserting | ⟨table, inserting, unhidden, free, keeps, keys, rows,
    snapshot, pendingRows, pendingKeys⟩ := state.table.insert_cases request address
  · simp only [inserting, Option.some.injEq] at stepped
    refine ⟨_, .failed, stepped.symm, ⟨by simp [reached], Table.keeps_rollback,
      invariant.past.rollback, progress.fail (by simp)⟩, ?_⟩
    have absent := progress.absent address rest rfl
    rw [mem_ofParty] at absent
    apply iff_of_false (by simp)
    intro notOvertaken
    obtain ⟨unhidden, free⟩ := notOvertaken address rest reached
    exact absent ((taken.resolve_left unhidden).resolve_left free)
  · simp [inserting] at stepped
  · simp only [inserting, Option.some.injEq] at stepped
    refine ⟨table, _, stepped.symm, ⟨by simp [reached], keeps,
      invariant.past.of_same keeps.keys snapshot, ?_⟩, ?_⟩
    · exact progress.inserted keys rows pendingRows pendingKeys boundaries
    · apply iff_of_true
      · exact fun same => (boundaries.onTheWay_afterMerge rest).2 (.inr same)
      · intro other others same
        rw [reached] at same
        cases same
        exact ⟨unhidden, free⟩

/-- A step advances one request, which fails exactly when it is overtaken. -/
theorem requestStep_cases {state next : RequestState ι ρ} {action : RequestAction ι}
    (invariant : RequestInvariant requests state)
    (stepped : requestStep isolation boundaries requests state action = some next) :
    ∃ request table phase, next = state.enter request table phase ∧
      Advance requests state request table phase ∧
        (phase ≠ .failed ↔ NotOvertaken state action) := by
  cases action with
  | giveUp request =>
      have progress := invariant.progress request
      cases reached : state.phase request with
      | persistMote address rest =>
          rw [reached] at progress
          rw [requestStep, reached] at stepped
          cases inserting : state.table.insert request address with
          | inserted table => simp [inserting] at stepped
          | duplicate => simp [inserting] at stepped
          | waits =>
              simp only [inserting, Option.some.injEq] at stepped
              refine ⟨request, _, .failed, stepped.symm, ⟨by simp [reached],
                Table.keeps_rollback, invariant.past.rollback, ?_⟩, ?_⟩
              · exact progress.fail (by simp)
              · simp [NotOvertaken]
      | _ => simp [requestStep, reached] at stepped
  | step request =>
      have progress := invariant.progress request
      have calm : (∀ address rest, state.phase request ≠ .persistMote address rest) →
          NotOvertaken state (.step request) :=
        fun other address rest same => absurd same (other address rest)
      cases reached : state.phase request with
      | find address rest =>
          rw [reached] at calm
          obtain ⟨table, phase, same, advance, going⟩ := find_cases invariant reached stepped
          exact ⟨request, table, phase, same, advance, iff_of_true going (calm (by simp))⟩
      | persistMote address rest =>
          obtain ⟨table, phase, step⟩ := persistMote_cases invariant reached stepped
          exact ⟨request, table, phase, step⟩
      | endOfCall rest =>
          rw [reached] at progress calm
          simp only [requestStep, reached, Option.some.injEq] at stepped
          refine ⟨request, _, _, stepped.symm, ⟨by simp [reached], Table.keeps_commit,
            invariant.past.commit, progress.endOfCall⟩, ?_⟩
          apply iff_of_true _ (calm (by simp))
          exact fun same => (Phase.onTheWay_next rest).2 (.inr same)
      | persistRows =>
          rw [reached] at progress calm
          simp only [requestStep, reached, Option.some.injEq] at stepped
          refine ⟨request, _, _, stepped.symm, ⟨by simp [reached], Table.keeps_store _,
            invariant.past.of_same (List.Subset.refl _) rfl, progress.persistRows⟩, ?_⟩
          exact iff_of_true (by simp) (calm (by simp))
      | endOfRequest =>
          rw [reached] at progress calm
          simp only [requestStep, reached, Option.some.injEq] at stepped
          refine ⟨request, _, _, stepped.symm, ⟨by simp [reached], Table.keeps_commit,
            invariant.past.commit, progress.endOfRequest⟩, ?_⟩
          exact iff_of_true (by simp) (calm (by simp))
      | finished => simp [requestStep, reached] at stepped
      | failed => simp [requestStep, reached] at stepped

theorem RequestState.enter_phase_self (state : RequestState ι ρ) (request : ι)
    (table : Table ι Text ρ) (phase : Phase) :
    (state.enter request table phase).phase request = phase :=
  Function.update_self ..

theorem RequestState.enter_phase_of_ne {state : RequestState ι ρ} {request other : ι}
    (different : other ≠ request) (table : Table ι Text ρ) (phase : Phase) :
    (state.enter request table phase).phase other = state.phase other :=
  Function.update_of_ne different ..

theorem Advance.invariant {state : RequestState ι ρ} {request : ι}
    {table : Table ι Text ρ} {phase : Phase}
    (advance : Advance requests state request table phase)
    (invariant : RequestInvariant requests state) :
    RequestInvariant requests (state.enter request table phase) where
  past := advance.past
  progress other := by
    by_cases own : other = request
    · subst own
      rw [RequestState.enter_phase_self]
      exact advance.progress
    · rw [RequestState.enter_phase_of_ne own]
      exact (invariant.progress other).frame advance.keeps own

theorem Advance.failed {state : RequestState ι ρ} {request other : ι}
    {table : Table ι Text ρ} {phase : Phase}
    (advance : Advance requests state request table phase)
    (failed : state.phase other = .failed) :
    (state.enter request table phase).phase other = .failed := by
  have different : other ≠ request := by
    intro own
    exact advance.going (own ▸ failed)
  rw [RequestState.enter_phase_of_ne different]
  exact failed

/-- A request that has returned has its rows and its motes. -/
theorem Progress.finished {posted : LineRequest ρ} {table : Table ι Text ρ} {request : ι}
    (progress : Progress posted table request .finished) :
    ofParty request table.rows = posted.rows ∧
      ∀ address ∈ posted.addresses, (table.hidden ++ table.keys).count address = 1 := by
  have unique : (table.hidden ++ table.keys).Nodup :=
    table.unique.sublist ((List.sublist_append_left _ _).append_left _)
  refine ⟨progress.rows, ?_⟩
  intro address member
  obtain ⟨done, split, all⟩ := progress.motes (by simp)
  have whole : posted.addresses = done := split.trans (List.append_nil done)
  rw [whole] at member
  have has := all address member
  rw [HasMote, progress.ended rfl] at has
  cases has with
  | inl committed => exact List.count_eq_one_of_mem unique (List.mem_append_right _ committed)
  | inr pending => cases pending

end Step

end IotLab.Server
