import IotLab.Localization.Passes

/-!
# Rows of the regression

The optimizer pairs the vectors by position, and every vector moves only when a result
is added to it.  Beside the state runs a history of the passes since the vectors were
emptied last, with the round of each: the vectors hold the latest results of the
history.  The rows of a regression belong together as long as, in the recent part of the
history, each enabled algorithm has added its result in the complete passes and in no
others.
-/

namespace IotLab.Localization

open IotLab.Library

variable {K : Type*}

theorem Round.nodup_sendersWithoutAnchors (round : Round K) :
    round.sendersWithoutAnchors.Nodup :=
  (List.Nodup.of_map _ round.distinct).filter _

theorem State.setEnabled_tester (state : State K) (service : Text) (enabled : Bool) :
    (state.setEnabled service enabled).tester = state.tester := by
  rw [State.setEnabled]
  split <;> rfl

/-! ## Vectors of the latest results -/

/-- The four stacks have one size, which is at most `VALUE_NB`. -/
structure Vectors.Level (vectors : Vectors K) : Prop where
  x : vectors.x.length = vectors.errors.length
  y : vectors.y.length = vectors.errors.length
  senders : vectors.senders.length = vectors.errors.length
  short : vectors.errors.length ≤ valueNb

variable [Field K]

/-- The stacks of some results. -/
def Vectors.of (sqrt : K → K) (results : List (Result K)) : Vectors K where
  errors := results.map (Result.error sqrt)
  x := results.map fun result => result.position.1
  y := results.map fun result => result.position.2
  senders := results.map Result.sender

theorem Vectors.of_level (sqrt : K → K) {results : List (Result K)}
    (short : results.length ≤ valueNb) : (Vectors.of sqrt results).Level := by
  constructor <;> simp [Vectors.of, short]

theorem Vectors.Level.add {vectors : Vectors K} (level : vectors.Level) (sqrt : K → K)
    (result : Result K) : (vectors.add sqrt result).Level := by
  constructor <;> simp [Vectors.add, level.x, level.y, level.senders]

theorem Vectors.add_of (sqrt : K → K) (results : List (Result K)) (result : Result K) :
    (Vectors.of sqrt (keepLast valueNb results)).add sqrt result =
      Vectors.of sqrt (keepLast valueNb (results ++ [result])) := by
  simp only [Vectors.add, Vectors.of, map_keepLast, List.map_append, List.map_cons,
    List.map_nil, keepLast_keepLast_append]

namespace Tester

/-- The four stacks of every index have one size. -/
def Level (tester : Tester K) : Prop :=
  ∀ index, (tester.vectors index).Level

theorem level_init (tester : Tester K) : tester.init.Level := by
  intro index
  have none : ([] : List (Result K)).length ≤ valueNb := Nat.zero_le valueNb
  exact Vectors.of_level id none

theorem Level.addResult {tester : Tester K} (level : tester.Level) (sqrt : K → K)
    (result : Result K) : (tester.addResult sqrt result).Level := by
  intro index
  simp only [Tester.addResult]
  rw [Function.update_apply]
  split
  · exact (level result.index).add sqrt result
  · exact level index

theorem Level.foldl_addResult {tester : Tester K} (level : tester.Level) (sqrt : K → K)
    (results : List (Result K)) : (results.foldl (Tester.addResult sqrt) tester).Level := by
  induction results generalizing tester with
  | nil => exact level
  | cons result rest ih => exact ih (level.addResult sqrt result)

/-- Results go to the vectors of their own index. -/
theorem foldl_addResult_vectors {sqrt : K → K} {tester : Tester K} {index : VectorIndex}
    {older : List (Result K)} (results : List (Result K))
    (shown : tester.vectors index = Vectors.of sqrt (keepLast valueNb older)) :
    (results.foldl (Tester.addResult sqrt) tester).vectors index =
      Vectors.of sqrt
        (keepLast valueNb (older ++ results.filter fun result => result.index = index)) := by
  induction results generalizing tester older with
  | nil => simpa using shown
  | cons result rest ih =>
      rw [List.foldl_cons]
      by_cases same : result.index = index
      · have next : (tester.addResult sqrt result).vectors index =
            Vectors.of sqrt (keepLast valueNb (older ++ [result])) := by
          rw [← Vectors.add_of, ← shown, Tester.addResult, same]
          exact Function.update_self _ _ _
        rw [ih next, List.filter_cons_of_pos (by simpa using same), List.append_assoc,
          List.singleton_append]
      · have next : (tester.addResult sqrt result).vectors index =
            Vectors.of sqrt (keepLast valueNb older) := by
          rw [← shown]
          exact Function.update_of_ne (Ne.symm same) _ _
        rw [ih next, List.filter_cons_of_neg (by simpa using same)]

@[simp] theorem addResult_optiEnabled (sqrt : K → K) (tester : Tester K)
    (result : Result K) : (tester.addResult sqrt result).optiEnabled = tester.optiEnabled :=
  rfl

theorem foldl_addResult_optiEnabled (sqrt : K → K) (tester : Tester K)
    (results : List (Result K)) :
    (results.foldl (Tester.addResult sqrt) tester).optiEnabled = tester.optiEnabled := by
  induction results generalizing tester with
  | nil => rfl
  | cons result rest ih => rw [List.foldl_cons, ih, addResult_optiEnabled]

/-! ## The optimizer adds to the optimized vectors only -/

/-- `optimize` adds results of the last index, or nothing. -/
theorem addOptimized_eq (libraries : Libraries K) (enabled : List Algorithm)
    (xparam yparam : List K) (positions : List ℕ) (tester : Tester K) :
    ∃ results : List (Result K),
      (∀ result ∈ results, result.index = .combinedOptimized) ∧
        addOptimized libraries enabled xparam yparam positions tester =
          results.foldl (Tester.addResult libraries.sqrt) tester := by
  induction positions generalizing tester with
  | nil => exact ⟨[], by simp, rfl⟩
  | cons position rest ih =>
      rw [addOptimized]
      split
      · exact ⟨[], by simp, rfl⟩
      · next result computed =>
          split
          · obtain ⟨results, indices, added⟩ := ih (tester.addResult libraries.sqrt result)
            have index : result.index = .combinedOptimized := by
              simp only [optimized, Option.bind_eq_bind, Option.bind_eq_some_iff,
                Option.some.injEq] at computed
              obtain ⟨_, _, _, _, _, _, built⟩ := computed
              rw [← built]
            refine ⟨result :: results, ?_, added⟩
            intro other member
            cases member with
            | head => exact index
            | tail _ later => exact indices other later
          · exact ⟨[], by simp, rfl⟩

theorem optimize_eq (libraries : Libraries K) (tester : Tester K)
    (enabled : List Algorithm) :
    ∃ results : List (Result K),
      (∀ result ∈ results, result.index = .combinedOptimized) ∧
        tester.optimize libraries enabled =
          results.foldl (Tester.addResult libraries.sqrt) tester := by
  have unchanged : ∃ results : List (Result K),
      (∀ result ∈ results, result.index = .combinedOptimized) ∧
        tester = results.foldl (Tester.addResult libraries.sqrt) tester :=
    ⟨[], by simp, rfl⟩
  rw [optimize]
  split
  · split
    · exact unchanged
    · split
      · exact unchanged
      · exact addOptimized_eq libraries enabled _ _ _ tester
  · exact unchanged

theorem Level.optimize {tester : Tester K} (level : tester.Level) (libraries : Libraries K)
    (enabled : List Algorithm) : (tester.optimize libraries enabled).Level := by
  obtain ⟨results, _, optimized⟩ := tester.optimize_eq libraries enabled
  rw [optimized]
  exact level.foldl_addResult _ _

end Tester

/-! ## The history -/

/-- The passes since the vectors were emptied, with the number of the round of each. -/
abbrev History (K : Type*) := List (ℕ × Pass K)

namespace History

variable (libraries : Libraries K) (history : History K)

/-- The round and the sender of a pass. -/
def label (visit : ℕ × Pass K) : ℕ × Mote K := (visit.1, visit.2.sender)

/-- The results of an index with the rounds in which they were added. -/
def results (index : VectorIndex) : List (ℕ × Result K) :=
  history.flatMap fun visit =>
    ((visit.2.perform libraries).1.filter fun result => result.index = index).map
      (Prod.mk visit.1)

/-- The results that the vectors of an index hold. -/
def window (index : VectorIndex) : List (ℕ × Result K) :=
  keepLast valueNb (results libraries history index)

/-- At every position the vectors of the enabled algorithms, the real positions and the
combined ones have entries that were recorded for one sender in one round. -/
def Aligned (enabled : List Algorithm) : Prop :=
  ∀ position < valueNb, ∃ round sender,
    ∀ index ∈ VectorIndex.real :: .combined :: enabled.map Algorithm.index,
      ∃ result : Result K, (window libraries history index)[position]? =
        some (round, result) ∧ result.sender = sender

/-- Among the passes after which fewer than `VALUE_NB` complete ones follow, the
algorithm has added its result in the complete ones and in no others. -/
def InStep (algorithm : Algorithm) : Prop :=
  AgreeRecently valueNb (fun visit : ℕ × Pass K => visit.2.records libraries algorithm)
    (fun visit => visit.2.completes libraries) history

theorem results_append (later : History K) (index : VectorIndex) :
    results libraries (history ++ later) index =
      results libraries history index ++ results libraries later index :=
  List.flatMap_append

theorem map_results_round (round : ℕ) (passes : List (Pass K)) (index : VectorIndex) :
    (results libraries (passes.map (Prod.mk round)) index).map Prod.snd =
      (passes.flatMap fun pass => (pass.perform libraries).1).filter fun result =>
        result.index = index := by
  induction passes with
  | nil => rfl
  | cons pass rest ih =>
      rw [List.map_cons, results, List.flatMap_cons, List.map_append, List.flatMap_cons,
        List.filter_append, ← ih, List.map_map]
      simp [results, Function.comp_def]

/-- The results of an index are those of the passes that add one. -/
theorem labels_of_results (index : VectorIndex) :
    (results libraries history index).map (fun entry => (entry.1, entry.2.sender)) =
      (history.filter fun visit => visit.2.adds libraries index).map label := by
  induction history with
  | nil => rfl
  | cons visit rest ih =>
      have first := congrArg (List.map (Prod.mk visit.1))
        (visit.2.senders_of_index libraries index)
      rw [List.map_map] at first
      rw [results, List.flatMap_cons, List.map_append, List.map_map, List.filter_cons]
      change List.map (Prod.mk visit.1 ∘ Result.sender) _ ++
        (results libraries rest index).map _ = _
      rw [first, ih]
      split <;> rfl

/-- The rounds and the senders of the latest passes that add a result of an index. -/
def rows (index : VectorIndex) : List (ℕ × Mote K) :=
  (keepLast valueNb (history.filter fun visit => visit.2.adds libraries index)).map label

theorem labels_of_window (index : VectorIndex) :
    (window libraries history index).map (fun entry => (entry.1, entry.2.sender)) =
      rows libraries history index := by
  rw [window, rows, map_keepLast, map_keepLast, labels_of_results]

theorem length_rows (index : VectorIndex) :
    (rows libraries history index).length =
      min (history.filter fun visit => visit.2.adds libraries index).length valueNb := by
  rw [rows, List.length_map, length_keepLast]

theorem length_window (index : VectorIndex) :
    (window libraries history index).length =
      min (history.filter fun visit => visit.2.adds libraries index).length valueNb := by
  rw [← length_rows, ← labels_of_window, List.length_map]

theorem getElem?_window_iff (index : VectorIndex) (position round : ℕ) (sender : Mote K) :
    (∃ result : Result K, (window libraries history index)[position]? =
        some (round, result) ∧ result.sender = sender) ↔
      (rows libraries history index)[position]? = some (round, sender) := by
  rw [← labels_of_window, List.getElem?_map, Option.map_eq_some_iff]
  constructor
  · rintro ⟨result, entry, rfl⟩
    exact ⟨(round, result), entry, rfl⟩
  · rintro ⟨⟨added, result⟩, entry, same⟩
    cases same
    exact ⟨result, entry, rfl⟩

section Agreement

variable {libraries history} {enabled : List Algorithm}

theorem rows_eq_iff (distinct : (history.map label).Nodup) (algorithm : Algorithm) :
    rows libraries history algorithm.index = rows libraries history .real ↔
      keepLast valueNb (history.filter fun visit =>
          visit.2.records libraries algorithm) =
        keepLast valueNb (history.filter fun visit => visit.2.completes libraries) := by
  have inside : ∀ select : ℕ × Pass K → Bool,
      keepLast valueNb (history.filter select) ⊆ history := fun select =>
    List.Subset.trans (keepLast_suffix _ _).subset List.filter_sublist.subset
  simp only [rows, Pass.adds_index]
  constructor
  · exact eq_of_map_eq distinct (inside _) (inside _)
  · exact congrArg (List.map label)

/-- Full windows are aligned when they have the same rows. -/
theorem aligned_iff_rows
    (full : ∀ index ∈ VectorIndex.real :: enabled.map Algorithm.index,
      (rows libraries history index).length = valueNb) :
    Aligned libraries history enabled ↔
      ∀ algorithm ∈ enabled,
        rows libraries history algorithm.index = rows libraries history .real := by
  simp only [Aligned, getElem?_window_iff]
  constructor
  · intro aligned algorithm member
    have length := full algorithm.index
      (List.mem_cons_of_mem _ (List.mem_map_of_mem member))
    apply List.ext_getElem?
    intro position
    by_cases inside : position < valueNb
    · obtain ⟨round, sender, entries⟩ := aligned position inside
      have index : algorithm.index ∈ enabled.map Algorithm.index := List.mem_map_of_mem member
      rw [entries algorithm.index (List.mem_cons_of_mem _ (List.mem_cons_of_mem _ index)),
        entries .real List.mem_cons_self]
    · have behind := Nat.not_lt.1 inside
      rw [List.getElem?_eq_none (by rwa [length]),
        List.getElem?_eq_none (by rwa [full _ List.mem_cons_self])]
  · intro same position inside
    have bound : position < (rows libraries history .real).length := by
      rwa [full _ List.mem_cons_self]
    have real : (rows libraries history .real)[position]? =
        some (rows libraries history .real)[position] := List.getElem?_eq_getElem bound
    refine ⟨(rows libraries history .real)[position].1,
      (rows libraries history .real)[position].2, ?_⟩
    intro index member
    rw [List.mem_cons, List.mem_cons, List.mem_map] at member
    obtain rfl | rfl | ⟨algorithm, enabled, rfl⟩ := member
    · exact real
    · exact real
    · rw [same algorithm enabled]
      exact real

theorem aligned_iff (distinct : (history.map label).Nodup)
    (full : ∀ index ∈ VectorIndex.real :: enabled.map Algorithm.index,
      valueNb ≤ (history.filter fun visit => visit.2.adds libraries index).length) :
    Aligned libraries history enabled ↔
      ∀ algorithm ∈ enabled, InStep libraries history algorithm := by
  have complete : valueNb ≤ (history.filter fun visit =>
      visit.2.completes libraries).length := full .real List.mem_cons_self
  rw [aligned_iff_rows]
  · simp only [rows_eq_iff distinct, keepLast_filter_eq_iff complete, InStep]
  · intro index member
    rw [length_rows, Nat.min_eq_right (full index member)]

end Agreement

end History

/-! ## Runs -/

/-- The state with the history of the vectors and the number of rounds. -/
structure Observed (K : Type*) extends State K where
  rounds : ℕ
  history : History K

namespace Observed

variable (libraries : Libraries K)

def initial : Observed K where
  toState := State.initial
  rounds := 0
  history := []

/-- The history after the loop over the senders of a round. -/
def looped (observed : Observed K) (round : Round K) : History K :=
  observed.history ++
    (observed.toState.roundPasses libraries round).map (Prod.mk observed.rounds)

/-- A call, beside which `start` begins a new history and a localization adds its
passes. -/
def step (observed : Observed K) (action : Action K) : Observed K where
  toState := observed.toState.step libraries action
  rounds :=
    match action with
    | .doLocalization _ => observed.rounds + 1
    | _ => observed.rounds
  history :=
    match action with
    | .start => []
    | .doLocalization round => observed.looped libraries round
    | _ => observed.history

/-- The state after some calls. -/
def run (actions : List (Action K)) : Observed K :=
  actions.foldl (step libraries) initial

/-- A localization comes to the regressions of the optimizer. -/
def Regresses (observed : Observed K) (round : Round K) : Prop :=
  observed.toState.returns libraries round = true ∧
    (observed.toState.looped libraries round).optiEnabled = true ∧
    (observed.toState.looped libraries round).ready observed.toState.enabledArr = true

/-- The vectors hold the latest results of a history. -/
def Shows (tester : Tester K) (history : History K) : Prop :=
  ∀ index ≠ VectorIndex.combinedOptimized,
    tester.vectors index =
      Vectors.of libraries.sqrt ((history.window libraries index).map Prod.snd)

/-- What every call preserves. -/
structure Sound (observed : Observed K) : Prop where
  level : observed.tester.Level
  shows : Shows libraries observed.tester observed.history
  past : ∀ visit ∈ observed.history, visit.1 < observed.rounds
  distinct : (observed.history.map History.label).Nodup

variable {libraries} {observed : Observed K}

theorem shows_empty {tester : Tester K} (empty : ∀ index, tester.vectors index = {}) :
    Shows libraries tester [] :=
  fun index _ => empty index

theorem sound_initial : Sound libraries (initial : Observed K) where
  level := Tester.level_init {}
  shows := shows_empty fun _ => rfl
  past := by simp [initial]
  distinct := List.nodup_nil

theorem passes_senders (state : State K) (round : Round K) (senders : List (Mote K)) :
    ((state.passes libraries round senders).map Pass.sender).Sublist senders := by
  induction senders with
  | nil => exact List.Sublist.slnil
  | cons sender rest ih =>
      simp only [State.passes]
      split
      · exact ih.cons_cons sender
      · exact (List.nil_sublist rest).cons_cons sender

theorem Sound.looped_distinct (sound : Sound libraries observed) (round : Round K) :
    ((observed.looped libraries round).map History.label).Nodup := by
  have senders : ((observed.toState.roundPasses libraries round).map Pass.sender).Nodup :=
    round.nodup_sendersWithoutAnchors.sublist (passes_senders _ _ _)
  have labels : ((observed.toState.roundPasses libraries round).map
      (Prod.mk observed.rounds)).map History.label =
        ((observed.toState.roundPasses libraries round).map Pass.sender).map
          (Prod.mk observed.rounds) := by
    rw [List.map_map, List.map_map]
    rfl
  rw [looped, List.map_append, labels]
  apply sound.distinct.append (senders.map (Prod.mk_right_injective _))
  intro label old new
  obtain ⟨visit, visited, rfl⟩ := List.mem_map.1 old
  obtain ⟨sender, _, same⟩ := List.mem_map.1 new
  have round := congrArg Prod.fst same
  exact Nat.ne_of_gt (sound.past visit visited) round

theorem Sound.looped_past (sound : Sound libraries observed) (round : Round K) :
    ∀ visit ∈ observed.looped libraries round, visit.1 < observed.rounds + 1 := by
  intro visit member
  cases List.mem_append.1 member with
  | inl old => exact Nat.lt_succ_of_lt (sound.past visit old)
  | inr new =>
      obtain ⟨pass, _, rfl⟩ := List.mem_map.1 new
      exact Nat.lt_succ_self _

theorem Sound.looped_shows (sound : Sound libraries observed) (round : Round K) :
    Shows libraries (observed.toState.looped libraries round)
      (observed.looped libraries round) := by
  intro index other
  have shown := sound.shows index other
  rw [History.window, map_keepLast] at shown
  rw [State.looped, Tester.foldl_addResult_vectors _ shown, History.window, map_keepLast,
    looped, History.results_append, List.map_append, History.map_results_round]

theorem Sound.looped_level (sound : Sound libraries observed) (round : Round K) :
    (observed.toState.looped libraries round).Level :=
  sound.level.foldl_addResult _ _

/-- The optimizer leaves the vectors of the history alone. -/
theorem Shows.optimize {tester : Tester K} {history : History K}
    (shows : Shows libraries tester history) (enabled : List Algorithm) :
    Shows libraries (tester.optimize libraries enabled) history := by
  intro index other
  obtain ⟨results, indices, optimized⟩ := tester.optimize_eq libraries enabled
  have none : results.filter (fun result => result.index = index) = [] := by
    rw [List.filter_eq_nil_iff]
    intro result member
    rw [indices result member]
    simpa using other.symm
  have shown := shows index other
  rw [History.window, map_keepLast] at shown
  rw [optimized, Tester.foldl_addResult_vectors results shown, none, List.append_nil,
    History.window, map_keepLast]

/-- One call preserves the invariant. -/
theorem Sound.step (sound : Sound libraries observed) (action : Action K) :
    Sound libraries (observed.step libraries action) := by
  cases action with
  | start =>
      exact {
        level := Tester.level_init _
        shows := shows_empty fun _ => rfl
        past := by simp [Observed.step]
        distinct := List.nodup_nil }
  | stop => exact ⟨sound.level, sound.shows, sound.past, sound.distinct⟩
  | enable service =>
      have tester := observed.toState.setEnabled_tester service true
      exact ⟨tester ▸ sound.level, tester ▸ sound.shows, sound.past, sound.distinct⟩
  | disable service =>
      have tester := observed.toState.setEnabled_tester service false
      exact ⟨tester ▸ sound.level, tester ▸ sound.shows, sound.past, sound.distinct⟩
  | setWeight algo weights => exact ⟨sound.level, sound.shows, sound.past, sound.distinct⟩
  | doLocalization round =>
      have level := sound.looped_level round
      have shows := sound.looped_shows round
      have both : (observed.step libraries (.doLocalization round)).tester.Level ∧
          Shows libraries (observed.step libraries (.doLocalization round)).tester
            (observed.looped libraries round) := by
        simp only [Observed.step, State.step, State.doLocalization]
        split
        · exact ⟨level.optimize libraries _, shows.optimize _⟩
        · exact ⟨level, shows⟩
      exact ⟨both.1, both.2, sound.looped_past round, sound.looped_distinct round⟩

theorem sound_run (libraries : Libraries K) (actions : List (Action K)) :
    Sound libraries (run libraries actions) := by
  rw [run]
  exact List.foldlRecOn actions _ sound_initial fun observed sound action _ =>
    sound.step action

theorem Shows.length {tester : Tester K} {history : History K}
    (shows : Shows libraries tester history) {index : VectorIndex}
    (other : index ≠ .combinedOptimized) :
    (tester.vectors index).x.length =
        min (history.filter fun visit => visit.2.adds libraries index).length valueNb ∧
      (tester.vectors index).y.length =
        min (history.filter fun visit => visit.2.adds libraries index).length valueNb := by
  rw [shows index other, ← History.length_window]
  simp [Vectors.of]

theorem Shows.ready_iff {tester : Tester K} {history : History K}
    (shows : Shows libraries tester history) (enabled : List Algorithm) :
    tester.ready enabled = true ↔
      enabled ≠ [] ∧ ∀ index ∈ VectorIndex.real :: enabled.map Algorithm.index,
        valueNb ≤ (history.filter fun visit => visit.2.adds libraries index).length := by
  have lengths : ∀ algorithm : Algorithm, algorithm.index ≠ .combinedOptimized := by
    intro algorithm
    cases algorithm <;> decide
  simp only [Tester.ready, (shows.length (lengths _)).1, (shows.length (lengths _)).2,
    (shows.length (by decide : VectorIndex.real ≠ .combinedOptimized)).1]
  simpa [and_assoc] using fun _ => and_comm

/-- The optimizer is started when `start` is the last of the calls that concern it. -/
def startedAfter (actions : List (Action K)) : Bool :=
  actions.foldl (fun started action =>
    match action with
    | .start => true
    | .stop => false
    | _ => started) false

theorem looped_optiEnabled (libraries : Libraries K) (state : State K) (round : Round K) :
    (state.looped libraries round).optiEnabled = state.tester.optiEnabled :=
  Tester.foldl_addResult_optiEnabled _ _ _

theorem step_optiEnabled (observed : Observed K) (action : Action K) :
    (observed.step libraries action).tester.optiEnabled =
      match action with
      | .start => true
      | .stop => false
      | _ => observed.tester.optiEnabled := by
  cases action with
  | start => rfl
  | stop => rfl
  | enable service =>
      exact congrArg Tester.optiEnabled (observed.toState.setEnabled_tester service true)
  | disable service =>
      exact congrArg Tester.optiEnabled (observed.toState.setEnabled_tester service false)
  | setWeight algo weights => rfl
  | doLocalization round =>
      have kept := looped_optiEnabled libraries observed.toState round
      simp only [Observed.step, State.step, State.doLocalization]
      split
      · obtain ⟨results, _, optimized⟩ :=
          (observed.toState.looped libraries round).optimize_eq libraries
            observed.toState.enabledArr
        rw [optimized, Tester.foldl_addResult_optiEnabled]
        exact kept
      · exact kept

theorem run_optiEnabled (libraries : Libraries K) (actions : List (Action K)) :
    (run libraries actions).tester.optiEnabled = startedAfter actions := by
  induction actions using List.reverseRecOn with
  | nil => rfl
  | append_singleton earlier action ih =>
      rw [run, startedAfter, List.foldl_append, List.foldl_append] at *
      exact (step_optiEnabled _ action).trans (by cases action <;> first | rfl | exact ih)

/-- The stacks of every index have one size of at most `VALUE_NB` in every state that is
reached, and the rows of a regression belong together exactly when every enabled algorithm
is in step. -/
theorem windows_aligned_iff (libraries : Libraries K) (actions : List (Action K)) :
    (run libraries actions).tester.Level ∧
      ∀ round, (run libraries actions).Regresses libraries round →
        Shows libraries ((run libraries actions).toState.looped libraries round)
            ((run libraries actions).looped libraries round) ∧
          (((run libraries actions).looped libraries round).Aligned libraries
              (run libraries actions).toState.enabledArr ↔
            ∀ algorithm ∈ (run libraries actions).toState.enabledArr,
              ((run libraries actions).looped libraries round).InStep libraries
                algorithm) := by
  have sound := sound_run libraries actions
  refine ⟨sound.level, ?_⟩
  intro round ⟨_, _, ready⟩
  have shows := sound.looped_shows round
  refine ⟨shows, ?_⟩
  exact History.aligned_iff (sound.looped_distinct round) ((shows.ready_iff _).1 ready).2

/-! ## A service that is disabled for a round -/

/-- The regression on constant columns throws. -/
def stillLibraries : Libraries ℚ where
  sqrt := id
  finite _ := true
  estimate _ _ := none

def loneSender : Mote ℚ := { id := 1, mac := "0001".toList, lat := 0, lon := 0 }

def loneRound : Round ℚ where
  anchors := []
  senders := [loneSender]
  distinct := by decide
  execute _ _ := some (0, 0)

/-- The optimizer is started and sees as many rounds as the vectors have entries. -/
def steadyRounds : List (Action ℚ) :=
  .start :: List.replicate valueNb (.doLocalization loneRound)

/-- In the last round every vector is full and moves on. -/
theorem windows_aligned_steady :
    ((run stillLibraries steadyRounds).looped stillLibraries loneRound).Aligned
      stillLibraries (run stillLibraries steadyRounds).toState.enabledArr := by
  have shows := (sound_run stillLibraries steadyRounds).looped_shows loneRound
  have full : (run stillLibraries steadyRounds).toState.enabledArr ≠ [] ∧
      ∀ index ∈ VectorIndex.real ::
        (run stillLibraries steadyRounds).toState.enabledArr.map Algorithm.index,
        valueNb ≤ (((run stillLibraries steadyRounds).looped stillLibraries loneRound).filter
          fun visit => visit.2.adds stillLibraries index).length := by
    decide +kernel
  have regresses : (run stillLibraries steadyRounds).Regresses stillLibraries loneRound :=
    ⟨by decide +kernel, by rw [looped_optiEnabled, run_optiEnabled]; decide +kernel,
      (shows.ready_iff _).2 full⟩
  have everywhere : ∀ visit ∈ (run stillLibraries steadyRounds).looped stillLibraries
      loneRound, ∀ algorithm ∈ (run stillLibraries steadyRounds).toState.enabledArr,
        visit.2.records stillLibraries algorithm = visit.2.completes stillLibraries := by
    decide +kernel
  refine (((windows_aligned_iff stillLibraries steadyRounds).2 loneRound regresses).2).2 ?_
  intro algorithm enabled before visit after split _
  apply everywhere visit _ algorithm enabled
  rw [split]
  exact List.mem_append_right before List.mem_cons_self

/-- The service of the barycenter is disabled for one round. -/
def skippedRound : List (Action ℚ) :=
  steadyRounds ++
    [.disable Algorithm.barycenter.key, .doLocalization loneRound,
      .enable Algorithm.barycenter.key]

/-- The next regression pairs the positions of the barycenter with those of later
rounds. -/
theorem skipped_round_misaligned :
    (run stillLibraries skippedRound).Regresses stillLibraries loneRound ∧
      ¬ ((run stillLibraries skippedRound).looped stillLibraries loneRound).Aligned
        stillLibraries (run stillLibraries skippedRound).toState.enabledArr := by
  have sound := sound_run stillLibraries skippedRound
  have full : (run stillLibraries skippedRound).toState.enabledArr ≠ [] ∧
      ∀ index ∈ VectorIndex.real ::
        (run stillLibraries skippedRound).toState.enabledArr.map Algorithm.index,
        valueNb ≤ (((run stillLibraries skippedRound).looped stillLibraries loneRound).filter
          fun visit => visit.2.adds stillLibraries index).length := by
    decide +kernel
  refine ⟨⟨by decide +kernel, by rw [looped_optiEnabled, run_optiEnabled]; decide +kernel,
    ((sound.looped_shows loneRound).ready_iff _).2 full⟩, ?_⟩
  rw [History.aligned_iff (sound.looped_distinct loneRound) full.2]
  intro inStep
  have history : ∃ before visit after,
      (run stillLibraries skippedRound).looped stillLibraries loneRound =
        before ++ visit :: after ∧
      (after.filter fun visit => visit.2.completes stillLibraries).length < valueNb ∧
      visit.2.records stillLibraries .barycenter ≠ visit.2.completes stillLibraries := by
    have long : valueNb <
        ((run stillLibraries skippedRound).looped stillLibraries loneRound).length := by
      decide +kernel
    refine ⟨_, _, _, (List.take_append_drop valueNb _).symm.trans
      (congrArg _ (List.drop_eq_getElem_cons long)), ?_, ?_⟩
    · decide +kernel +revert
    · decide +kernel +revert
  obtain ⟨before, visit, after, split, few, different⟩ := history
  exact different (inStep .barycenter (by decide +kernel) before visit after split few)

end Observed

end IotLab.Localization
