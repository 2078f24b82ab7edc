import IotLab.Localization.Tester

/-!
# Passes of the loop over the senders

A pass adds the results of the enabled algorithms up to the first that throws, and a
complete pass adds the combined results and the real position behind them.  What a pass
adds is decided by what it is given.
-/

namespace IotLab.Localization

open IotLab.Library

variable {K : Type*}

/-! ## The blocks of the algorithms -/

namespace Pass

variable (libraries : Libraries K) (pass : Pass K)

/-- `execute` and `encode` of an algorithm return. -/
def succeeds (algorithm : Algorithm) : Bool :=
  (pass.execute algorithm).any libraries.encodes

/-- The algorithms whose blocks return. -/
def recorded : List Algorithm :=
  pass.enabledAlgorithms.takeWhile (pass.succeeds libraries)

/-- The pass adds a result of an algorithm: it is enabled, and neither it nor an enabled
one before it throws. -/
def records (algorithm : Algorithm) : Bool :=
  (pass.recorded libraries).contains algorithm

/-- The positions of the enabled algorithms. -/
def estimates : List (Algorithm × Point K) :=
  pass.enabledAlgorithms.filterMap fun algorithm =>
    (pass.execute algorithm).map fun position => (algorithm, position)

theorem recorded_nodup : (pass.recorded libraries).Nodup := by
  have all : [Algorithm.trilateration, .barycenter, .multilateration].Nodup := by decide
  exact (all.filter _).sublist (List.takeWhile_sublist _)

theorem count_recorded (algorithm : Algorithm) :
    ((pass.recorded libraries).map Algorithm.index).count algorithm.index =
      if pass.records libraries algorithm then 1 else 0 := by
  have injective : Function.Injective Algorithm.index := by
    intro algorithm other
    cases algorithm <;> cases other <;> simp [Algorithm.index]
  rw [List.count_map_of_injective _ _ injective,
    (pass.recorded_nodup libraries).count, records]
  simp only [List.contains_iff_mem]

theorem count_recorded_other {index : VectorIndex}
    (other : index ∈ [VectorIndex.real, .combined, .combinedCustomized, .combinedOptimized]) :
    ((pass.recorded libraries).map Algorithm.index).count index = 0 := by
  rw [List.count_eq_zero]
  intro member
  obtain ⟨algorithm, _, same⟩ := List.mem_map.1 member
  rw [← same] at other
  cases algorithm <;> simp [Algorithm.index] at other

theorem executeAll_indices (algorithms : List Algorithm) :
    (pass.executeAll libraries algorithms).1.map Result.index =
      (algorithms.takeWhile (pass.succeeds libraries)).map Algorithm.index := by
  induction algorithms with
  | nil => rfl
  | cons algorithm rest ih =>
      rw [executeAll, List.takeWhile_cons, succeeds]
      cases pass.execute algorithm with
      | none => rfl
      | some position =>
          cases encoded : libraries.encodes position with
          | false => simp [encoded]
          | true => simp [encoded, ih]

theorem executeAll_estimates (algorithms : List Algorithm) :
    (pass.executeAll libraries algorithms).2 =
      if algorithms.all (pass.succeeds libraries) then
        some (algorithms.filterMap fun algorithm =>
          (pass.execute algorithm).map fun position => (algorithm, position))
      else none := by
  induction algorithms with
  | nil => rfl
  | cons algorithm rest ih =>
      rw [executeAll, List.all_cons, List.filterMap_cons, succeeds]
      cases pass.execute algorithm with
      | none => rfl
      | some position =>
          cases encoded : libraries.encodes position with
          | false => simp [encoded]
          | true =>
              simp only [ih, encoded, Option.any_some, Option.map_some, Bool.true_and, if_true]
              split <;> rfl

theorem executeAll_senders (algorithms : List Algorithm) :
    ∀ result ∈ (pass.executeAll libraries algorithms).1, result.sender = pass.sender := by
  induction algorithms with
  | nil => simp [executeAll]
  | cons algorithm rest ih =>
      rw [executeAll]
      split
      · simp
      · split
        · intro result member
          cases member with
          | head => rfl
          | tail _ later => exact ih result later
        · simp

end Pass

variable [Field K]

/-! ## What a pass adds -/

namespace Pass

variable (libraries : Libraries K) (pass : Pass K)

/-- The pass adds the combined results and the real position: some algorithm is enabled
and nothing throws. -/
def completes : Bool :=
  !pass.enabledAlgorithms.isEmpty && pass.enabledAlgorithms.all (pass.succeeds libraries) &&
    libraries.encodes (pass.combinedPositions pass.estimates).1 &&
    libraries.encodes (pass.combinedPositions pass.estimates).2

/-- The pass adds a result of an index. -/
def adds : VectorIndex → Bool
  | .trilateration => pass.records libraries .trilateration
  | .barycenter => pass.records libraries .barycenter
  | .multilateration => pass.records libraries .multilateration
  | .real => pass.completes libraries
  | .combined => pass.completes libraries
  | .combinedCustomized => pass.completes libraries
  | .combinedOptimized => false

theorem adds_index (algorithm : Algorithm) :
    pass.adds libraries algorithm.index = pass.records libraries algorithm := by
  cases algorithm <;> rfl

/-- The results of a complete pass behind those of the algorithms. -/
def combinedResults : List (Result K) :=
  let positions := pass.combinedPositions pass.estimates
  [{ position := positions.1, sender := pass.sender, index := .combined },
    { position := positions.2, sender := pass.sender, index := .combinedCustomized },
    { position := (pass.sender.lon, pass.sender.lat), sender := pass.sender,
      index := .real }]

theorem perform_results :
    (pass.perform libraries).1 =
      (pass.executeAll libraries pass.enabledAlgorithms).1 ++
        if pass.completes libraries then pass.combinedResults else [] := by
  have executed := pass.executeAll_estimates libraries pass.enabledAlgorithms
  by_cases all : pass.enabledAlgorithms.all (pass.succeeds libraries) = true
  · have complete : pass.completes libraries = true ↔
        0 < pass.enabledAlgorithms.length ∧
          (libraries.encodes (pass.combinedPositions pass.estimates).1 &&
            libraries.encodes (pass.combinedPositions pass.estimates).2) = true := by
      simp [completes, all, List.length_pos_iff, and_assoc]
    rw [if_pos all] at executed
    simp only [perform, executed]
    split
    · next some =>
        split
        · next encoded =>
            rw [if_pos (complete.2 ⟨some, encoded⟩)]
            rfl
        · next refused =>
            rw [if_neg fun completed => refused (complete.1 completed).2, List.append_nil]
    · next none => rw [if_neg fun completed => none (complete.1 completed).1, List.append_nil]
  · have incomplete : ¬ pass.completes libraries = true := by simp [completes, all]
    rw [if_neg all] at executed
    rw [if_neg incomplete, List.append_nil]
    simp only [perform, executed]

theorem perform_indices :
    (pass.perform libraries).1.map Result.index =
      (pass.recorded libraries).map Algorithm.index ++
        if pass.completes libraries then [.combined, .combinedCustomized, .real] else [] := by
  rw [perform_results, List.map_append, executeAll_indices, recorded]
  split <;> rfl

theorem perform_senders :
    ∀ result ∈ (pass.perform libraries).1, result.sender = pass.sender := by
  intro result member
  rw [perform_results, List.mem_append] at member
  cases member with
  | inl block => exact pass.executeAll_senders libraries _ result block
  | inr combined =>
      split at combined
      · simp only [combinedResults, List.mem_cons, List.not_mem_nil, or_false] at combined
        obtain rfl | rfl | rfl := combined <;> rfl
      · cases combined

/-- A pass adds at most one result of an index. -/
theorem count_indices (index : VectorIndex) :
    ((pass.perform libraries).1.map Result.index).count index =
      if pass.adds libraries index then 1 else 0 := by
  rw [perform_indices, List.count_append]
  cases index with
  | trilateration =>
      rw [adds, ← pass.count_recorded libraries .trilateration]
      split <;> rfl
  | barycenter =>
      rw [adds, ← pass.count_recorded libraries .barycenter]
      split <;> rfl
  | multilateration =>
      rw [adds, ← pass.count_recorded libraries .multilateration]
      split <;> rfl
  | real =>
      rw [pass.count_recorded_other libraries (by decide), adds]
      split <;> rfl
  | combined =>
      rw [pass.count_recorded_other libraries (by decide), adds]
      split <;> rfl
  | combinedCustomized =>
      rw [pass.count_recorded_other libraries (by decide), adds]
      split <;> rfl
  | combinedOptimized =>
      rw [pass.count_recorded_other libraries (by decide), adds]
      split <;> rfl

/-- The senders of the results of an index that a pass adds. -/
theorem senders_of_index (index : VectorIndex) :
    ((pass.perform libraries).1.filter fun result => result.index = index).map
        Result.sender = if pass.adds libraries index then [pass.sender] else [] := by
  have counts : ((pass.perform libraries).1.filter fun result =>
      result.index = index).length = if pass.adds libraries index then 1 else 0 := by
    rw [← pass.count_indices libraries index, List.count_eq_length_filter, List.filter_map,
      List.length_map]
    rfl
  have same : ∀ sender ∈ ((pass.perform libraries).1.filter fun result =>
      result.index = index).map Result.sender, sender = pass.sender := by
    intro sender member
    obtain ⟨result, added, rfl⟩ := List.mem_map.1 member
    exact pass.perform_senders libraries result (List.mem_filter.1 added).1
  rw [List.eq_replicate_of_mem same, List.length_map, counts]
  split <;> rfl

end Pass

/-! ## The passes of the manager -/

section Manager

variable [LinearOrder K] {manager : Manager K}

/-- The pass for a sender in which the algorithms of the manager are executed. -/
def Manager.pass (manager : Manager K) (records : Records K) (sender : Mote K) : Pass K where
  sender
  enabled := manager.enabled
  weights := manager.algoWeights
  execute algorithm :=
    (manager.execute (records algorithm) sender.id algorithm).toOption.map Prod.fst

/-- Each algorithm is executed with its own records. -/
theorem executeAll_positions {mote : ℤ} {algorithms : List Algorithm}
    {records left : Records K} {estimates : List (Algorithm × Point K)}
    (distinct : algorithms.Nodup)
    (executed : manager.executeAll mote algorithms records = .ok (estimates, left)) :
    estimates = algorithms.filterMap fun algorithm =>
      ((manager.execute (records algorithm) mote algorithm).toOption.map Prod.fst).map
        fun position => (algorithm, position) := by
  induction algorithms generalizing records estimates left with
  | nil =>
      cases executed
      rfl
  | cons algorithm rest ih =>
      simp only [Manager.executeAll, bind_eq_ok] at executed
      obtain ⟨first, position, ⟨others, last⟩, later, same⟩ := executed
      cases same
      rw [List.filterMap_cons, position, ih distinct.of_cons later]
      apply congrArg ((algorithm, first.1) :: ·)
      apply List.filterMap_congr
      intro other member
      have different : other ≠ algorithm := by
        intro same
        exact (List.nodup_cons.1 distinct).1 (same ▸ member)
      rw [Function.update_of_ne different]

/-- The positions that a pass of the manager adds are those that are reported for the
sender. -/
theorem localize_pass {records left : Records K} {sender : Mote K} {location : Location K}
    (located : manager.localize records sender = .ok (location, left)) :
    location.estimates = (manager.pass records sender).estimates ∧
      (manager.enabledAlgorithms ≠ [] →
        location.combined = some ((manager.pass records sender).combinedPositions
            (manager.pass records sender).estimates).1 ∧
          location.custom = some ((manager.pass records sender).combinedPositions
            (manager.pass records sender).estimates).2) := by
  simp only [Manager.localize, bind_eq_ok] at located
  obtain ⟨⟨estimates, final⟩, executed, same⟩ := located
  cases same
  have distinct : manager.enabledAlgorithms.Nodup := by
    have all : [Algorithm.trilateration, .barycenter, .multilateration].Nodup := by decide
    exact all.filter _
  have positions := executeAll_positions distinct executed
  refine ⟨positions, ?_⟩
  intro some_
  have counted := List.length_pos_iff.2 some_
  simp only [if_pos counted, Option.map_some, positions]
  exact ⟨rfl, rfl⟩

end Manager

end IotLab.Localization
