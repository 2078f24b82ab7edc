import IotLab.Library.Sql
import Mathlib.Algebra.Order.BigOperators.Group.List
import Mathlib.Algebra.Order.Field.Basic
import Mathlib.Algebra.Order.Floor.Div
import Mathlib.Data.Rat.Cast.Order

/-!
# Down-sampling

Rows are counted from zero on, over all keys together, and each block of consecutive rows
is divided by the keys.  The size of the blocks is the number of rows divided by the number
of blocks that are wanted, rounded up.
-/

namespace IotLab.Library

/-! ## Groups -/

section Groups

variable {α κ : Type*} [DecidableEq κ] {key : α → κ} {rows : List α}

/-- Different keys that cover all rows choose each row once. -/
theorem flatMap_filter_perm {keys : List κ} (different : keys.Nodup)
    (covered : ∀ row ∈ rows, key row ∈ keys) :
    (keys.flatMap fun group => rows.filter fun row => key row = group).Perm rows := by
  induction keys generalizing rows with
  | nil =>
      have nothing : rows = [] := List.eq_nil_iff_forall_not_mem.2 fun row member =>
        List.not_mem_nil (covered row member)
      rw [nothing]
      exact List.Perm.nil
  | cons first others ih =>
      have others_ : (others.flatMap fun group => rows.filter fun row => key row = group) =
          others.flatMap fun group =>
            (rows.filter fun row => !decide (key row = first)).filter fun row =>
              key row = group := by
        refine List.flatMap_congr fun group member => ?_
        rw [List.filter_filter]
        refine List.filter_congr fun row _ => ?_
        by_cases here : key row = group
        · have apart : group ≠ first := fun same =>
            (List.nodup_cons.1 different).1 (same ▸ member)
          simp [here, apart]
        · simp [here]
      rw [List.flatMap_cons, others_]
      refine (List.Perm.append_left _ (ih (List.nodup_cons.1 different).2 ?_)).trans
        (List.filter_append_perm _ rows)
      intro row chosen
      obtain ⟨member, apart⟩ := List.mem_filter.1 chosen
      refine (List.mem_cons.1 (covered row member)).resolve_left ?_
      simpa using apart

theorem groupBy_perm (key : α → κ) (rows : List α) :
    ((groupBy key rows).flatMap Prod.snd).Perm rows := by
  rw [groupBy, List.flatMap_map]
  refine flatMap_filter_perm (List.nodup_dedup _) fun row member => ?_
  exact List.mem_dedup.2 (List.mem_map_of_mem member)

theorem mem_groupBy_iff (group : κ × List α) :
    group ∈ groupBy key rows ↔
      group.1 ∈ rows.map key ∧ group.2 = rows.filter fun row => key row = group.1 := by
  rw [groupBy, List.mem_map]
  constructor
  · rintro ⟨found, member, rfl⟩
    exact ⟨List.mem_dedup.1 member, rfl⟩
  · rintro ⟨member, rows_⟩
    exact ⟨group.1, List.mem_dedup.2 member, Prod.ext rfl rows_.symm⟩

theorem groupBy_ne_nil {group : κ × List α} (member : group ∈ groupBy key rows) :
    group.2 ≠ [] := by
  obtain ⟨known, rows_⟩ := (mem_groupBy_iff group).1 member
  obtain ⟨row, here, same⟩ := List.mem_map.1 known
  rw [rows_]
  exact List.ne_nil_of_mem (List.mem_filter.2 ⟨here, decide_eq_true same⟩)

end Groups

/-! ## Averages -/

/-- The mean of some numbers. -/
def rationalMean (values : List ℚ) : ℚ := values.sum / values.length

/-- A number between a least and a greatest one of some numbers. -/
def Between {K : Type*} [LE K] (values : List K) (mean : K) : Prop :=
  (∃ low ∈ values, low ≤ mean) ∧ ∃ high ∈ values, mean ≤ high

theorem rationalMean_between {values : List ℚ} (some_ : values ≠ []) :
    Between values (rationalMean values) := by
  have positive : (0 : ℚ) < values.length := by exact_mod_cast List.length_pos_iff.2 some_
  -- As many times the mean is the sum.
  have total : (values.map fun _ => rationalMean values).sum = (values.map id).sum := by
    rw [List.map_const', List.sum_replicate, nsmul_eq_mul, rationalMean,
      mul_div_cancel₀ _ positive.ne', List.map_id]
  exact ⟨List.exists_le_of_sum_le some_ id (fun _ => rationalMean values) total.ge,
    List.exists_le_of_sum_le some_ (fun _ => rationalMean values) id total.le⟩

/-! ## Answers to the elements of a list -/

section Answers

variable {α β : Type*} {xs : List α} {ys : List β}

theorem forall₂_filterMap {answer : α → Option β} {related : α → β → Prop}
    (each : ∀ x ∈ xs, ∃ y, answer x = some y ∧ related x y) :
    xs.Forall₂ (fun x y => answer x = some y ∧ related x y) (xs.filterMap answer) := by
  induction xs with
  | nil => exact List.Forall₂.nil
  | cons x rest ih =>
      obtain ⟨y, found, holds⟩ := each x List.mem_cons_self
      rw [List.filterMap_cons_some found]
      exact List.Forall₂.cons ⟨found, holds⟩
        (ih fun other member => each other (List.mem_cons_of_mem _ member))

theorem countP_eq_of_forall₂ {related : α → β → Prop} (all : xs.Forall₂ related ys)
    {p : α → Bool} {q : β → Bool} (same : ∀ x y, related x y → p x = q y) :
    xs.countP p = ys.countP q := by
  induction all with
  | nil => rfl
  | cons holds _ ih => rw [List.countP_cons, List.countP_cons, ih, same _ _ holds]

end Answers

/-! ## Blocks -/

/-- The number of rows of a block, `CEIL(total/count)`, for a number of blocks. -/
def blockSize (total count : ℕ) : ℕ := if 0 < count then total ⌈/⌉ count else 1

/-- The groups of the numbered rows: those of a key in a block. -/
def blockGroups {α κ : Type*} [DecidableEq κ] (key : α → κ) (count : ℕ) (rows : List α) :
    List ((κ × ℕ) × List (α × ℕ)) :=
  groupBy (fun row => (key row.1, row.2 / blockSize rows.length count)) rows.zipIdx

/-- Averages of rows: not more than wanted for each key, each row in one of them, each made of
the rows as `averageOf` says, and none of two rows if there are not too many. -/
structure DownSamples {α β κ : Type*} [DecidableEq κ] (count : ℕ) (rows : List α)
    (averages : List β) (key : α → κ) (keyOf : β → κ) (averageOf : List α → β → Prop) : Prop where
  few : ∀ group, (averages.countP fun average => keyOf average = group) ≤ count
  counted : ∃ groups : List (List (α × ℕ)), groups.flatten.Perm rows.zipIdx ∧
    groups.Forall₂ (fun group average => (∀ row ∈ group, key row.1 = keyOf average) ∧
      averageOf (group.map Prod.fst) average) averages ∧
    (rows.length ≤ count → ∀ group ∈ groups, group.length = 1)

section Blocks

variable {α β κ : Type*} [DecidableEq κ] {key : α → κ} {count : ℕ} {rows : List α}

theorem div_blockSize_lt (positive : 0 < count) {index : ℕ} (inside : index < rows.length) :
    index / blockSize rows.length count < count := by
  rw [blockSize, if_pos positive]
  have covers : rows.length ≤ count * (rows.length ⌈/⌉ count) := le_smul_ceilDiv positive
  rw [Nat.div_lt_iff_lt_mul]
  · omega
  · by_contra none
    rw [Nat.eq_zero_of_not_pos none] at covers
    omega

theorem blockSize_eq_one (inside : 0 < rows.length) (few : rows.length ≤ count) :
    blockSize rows.length count = 1 := by
  have positive : 0 < count := by omega
  rw [blockSize, if_pos positive]
  have upper : rows.length ⌈/⌉ count ≤ 1 := (ceilDiv_le_iff_le_mul positive).2 (by omega)
  have covers : rows.length ≤ count * (rows.length ⌈/⌉ count) := le_smul_ceilDiv positive
  by_contra other
  have zero : rows.length ⌈/⌉ count = 0 := by omega
  rw [zero] at covers
  omega

theorem index_lt_of_mem_zipIdx {row : α × ℕ} (member : row ∈ rows.zipIdx) :
    row.2 < rows.length := by
  have bound := List.snd_lt_of_mem_zipIdx member
  omega

/-- A key has at most as many groups as there are blocks. -/
theorem countP_blockGroups_le (positive : 0 < count) (found : κ) :
    (blockGroups key count rows).countP (fun group => group.1.1 = found) ≤ count := by
  rw [blockGroups, groupBy, List.countP_map, List.countP_eq_length_filter]
  set groups := ((rows.zipIdx.map fun row =>
    (key row.1, row.2 / blockSize rows.length count)).dedup).filter
      ((fun group : (κ × ℕ) × List (α × ℕ) => decide (group.1.1 = found)) ∘ fun group =>
        (group, rows.zipIdx.filter fun row =>
          (key row.1, row.2 / blockSize rows.length count) = group)) with groups_
  have different : (groups.map Prod.snd).Nodup := by
    refine List.Nodup.map_on ?_ ((List.nodup_dedup _).filter _)
    intro one first other second same
    have here : one.1 = found := of_decide_eq_true (List.mem_filter.1 first).2
    have there : other.1 = found := of_decide_eq_true (List.mem_filter.1 second).2
    exact Prod.ext (here.trans there.symm) same
  have inside : groups.map Prod.snd ⊆ List.range count := by
    intro block member
    obtain ⟨group, chosen, rfl⟩ := List.mem_map.1 member
    obtain ⟨row, here, rfl⟩ := List.mem_map.1 (List.mem_dedup.1 (List.mem_filter.1 chosen).1)
    exact List.mem_range.2 (div_blockSize_lt positive (index_lt_of_mem_zipIdx here))
  have fewer := (different.subperm inside).length_le
  rwa [List.length_map, List.length_range] at fewer

/-- Rows that are blocks are groups. -/
theorem length_group_eq_one (few : rows.length ≤ count) {group : (κ × ℕ) × List (α × ℕ)}
    (member : group ∈ blockGroups key count rows) : group.2.length = 1 := by
  have some_ := groupBy_ne_nil member
  obtain ⟨_, rows_⟩ := (mem_groupBy_iff group).1 member
  have inside : 0 < rows.length := by
    by_contra none
    rw [List.eq_nil_of_length_eq_zero (Nat.eq_zero_of_not_pos none)] at rows_
    exact some_ rows_
  have different : (group.2.map Prod.snd).Nodup := by
    rw [rows_]
    refine List.Nodup.sublist (List.Sublist.map _ List.filter_sublist) ?_
    rw [List.zipIdx_map_snd]
    exact List.nodup_range'
  have same : ∀ row ∈ group.2, row.2 = group.1.2 := by
    intro row here
    rw [rows_] at here
    have block := of_decide_eq_true (List.mem_filter.1 here).2
    rw [blockSize_eq_one inside few, Nat.div_one] at block
    exact congrArg Prod.snd block
  cases found : group.2 with
  | nil => exact absurd found some_
  | cons first rest =>
      cases rest with
      | nil => rfl
      | cons second others =>
          rw [found] at different same
          have one := same first List.mem_cons_self
          have two := same second (List.mem_cons_of_mem _ List.mem_cons_self)
          exact absurd (List.mem_map_of_mem (f := Prod.snd) List.mem_cons_self)
            (one.trans two.symm ▸ (List.nodup_cons.1 different).1)

theorem flatten_blockGroups_perm (key : α → κ) (count : ℕ) (rows : List α) :
    ((blockGroups key count rows).map Prod.snd).flatten.Perm rows.zipIdx := by
  have whole := groupBy_perm (fun row => (key row.1, row.2 / blockSize rows.length count))
    rows.zipIdx
  rwa [List.flatMap_def] at whole

/-- One average for each group is down-sampling. -/
theorem downSamples_blockGroups (positive : 0 < count) {keyOf : β → κ}
    {averageOf : List α → β → Prop} {average : List (α × ℕ) → Option β}
    (averaged : ∀ group found, group ≠ [] → (∀ row ∈ group, key row.1 = found) →
      ∃ made, average group = some made ∧ keyOf made = found ∧
        averageOf (group.map Prod.fst) made) :
    DownSamples count rows
      ((blockGroups key count rows).filterMap fun group => average group.2) key keyOf
      averageOf := by
  have each : ∀ group ∈ blockGroups key count rows, ∃ made,
      average group.2 = some made ∧ keyOf made = group.1.1 ∧
        (∀ row ∈ group.2, key row.1 = group.1.1) ∧ averageOf (group.2.map Prod.fst) made := by
    intro group member
    have same : ∀ row ∈ group.2, key row.1 = group.1.1 := by
      intro row here
      rw [((mem_groupBy_iff group).1 member).2] at here
      exact congrArg Prod.fst (of_decide_eq_true (List.mem_filter.1 here).2)
    obtain ⟨made, found, own, rows_⟩ := averaged group.2 group.1.1 (groupBy_ne_nil member) same
    exact ⟨made, found, own, same, rows_⟩
  have paired := forall₂_filterMap each
  refine ⟨fun found => ?_, ((blockGroups key count rows).map Prod.snd),
    flatten_blockGroups_perm key count rows, ?_, ?_⟩
  · rw [← countP_eq_of_forall₂ paired (p := fun group => decide (group.1.1 = found))
      fun group made related => by rw [related.2.1]]
    exact countP_blockGroups_le positive found
  · rw [List.forall₂_map_left_iff]
    refine paired.imp fun group made related => ?_
    obtain ⟨_, own, same, rows_⟩ := related
    exact ⟨fun row here => (same row here).trans own.symm, rows_⟩
  · intro fewer rows_ member
    obtain ⟨group, here, rfl⟩ := List.mem_map.1 member
    exact length_group_eq_one fewer here

/-- What is made of the averages one by one samples as well. -/
theorem DownSamples.of_forall₂ {γ : Type*} {averages : List β} {others : List γ}
    {keyOf : β → κ} {averageOf : List α → β → Prop} {keyOf' : γ → κ}
    {averageOf' : List α → γ → Prop}
    (sampled : DownSamples count rows averages key keyOf averageOf)
    (paired : averages.Forall₂ (fun average other => keyOf' other = keyOf average ∧
      ∀ group, averageOf group average → averageOf' group other) others) :
    DownSamples count rows others key keyOf' averageOf' := by
  obtain ⟨groups, whole, averaged, single⟩ := sampled.counted
  refine ⟨fun found => ?_, groups, whole, ?_, single⟩
  · rw [← countP_eq_of_forall₂ paired (p := fun average => decide (keyOf average = found))
      fun average other same => by rw [same.1]]
    exact sampled.few found
  · clear whole single sampled
    induction averaged generalizing others with
    | nil =>
        cases paired
        exact .nil
    | cons related _ ih =>
        cases paired with
        | cons same rest =>
            refine .cons ⟨?_, same.2 _ related.2⟩ (ih rest)
            rw [same.1]
            exact related.1

end Blocks

end IotLab.Library
