import Mathlib.Data.List.Forall2

/-!
# Traversals that can fail

A traversal of a list in `Except` yields the values of all elements, or the failure
of the first element that fails.
-/

namespace IotLab.Library

universe u v

variable {α β ε : Type*} {f g : α → Except ε β} {xs before after : List α}

theorem bind_eq_ok {ε : Type u} {α β : Type v} {first : Except ε α} {second : α → Except ε β}
    {result : β} :
    (first >>= second) = .ok result ↔
      ∃ value, first = .ok value ∧ second value = .ok result := by
  cases first with
  | error failure => simp [bind, Except.bind]
  | ok value => simp [bind, Except.bind]

theorem exists_find?_eq_some (test : α → Bool) {x : α} (member : x ∈ xs)
    (holds : test x = true) : ∃ found, xs.find? test = some found :=
  Option.isSome_iff_exists.1 (List.find?_isSome.2 ⟨x, member, holds⟩)

theorem mapM_congr (same : ∀ x ∈ xs, f x = g x) : xs.mapM f = xs.mapM g := by
  induction xs with
  | nil => rfl
  | cons x rest ih =>
      have later := ih fun y member => same y (List.mem_cons_of_mem _ member)
      rw [List.mapM_cons, List.mapM_cons, same x List.mem_cons_self, later]

theorem mapM_ok {related : α → β → Prop}
    (every : ∀ x ∈ xs, ∃ y, f x = .ok y ∧ related x y) :
    ∃ ys, xs.mapM f = .ok ys ∧ List.Forall₂ related xs ys := by
  induction xs with
  | nil => exact ⟨[], rfl, .nil⟩
  | cons x rest ih =>
      rcases every x List.mem_cons_self with ⟨y, here, first⟩
      rcases ih fun z member => every z (List.mem_cons_of_mem _ member) with
        ⟨ys, later, others⟩
      refine ⟨y :: ys, ?_, .cons first others⟩
      rw [List.mapM_cons, here, later]
      rfl

theorem forall₂_of_mapM_ok {ys : List β} (succeeds : xs.mapM f = .ok ys) :
    xs.Forall₂ (fun x y => f x = .ok y) ys := by
  induction xs generalizing ys with
  | nil =>
      cases succeeds
      exact .nil
  | cons x rest ih =>
      rw [List.mapM_cons, bind_eq_ok] at succeeds
      obtain ⟨y, here, more⟩ := succeeds
      obtain ⟨others, later, done⟩ := bind_eq_ok.1 more
      cases done
      exact .cons here (ih later)

/-- A loop over the indices of a list computes the values of its elements. -/
theorem mapM_range {compute : ℕ → Except ε β} (items : List α) (value : α → β)
    (here : ∀ index item, items[index]? = some item → compute index = .ok (value item)) :
    (List.range items.length).mapM compute = .ok (items.map value) := by
  rw [List.range_eq_range']
  suffices from_ : ∀ start, (∀ index item, items[index]? = some item →
      compute (start + index) = .ok (value item)) →
        (List.range' start items.length).mapM compute = .ok (items.map value) by
    apply from_ 0
    intro index item found
    rw [Nat.zero_add]
    exact here index item found
  clear here
  intro start here
  induction items generalizing start with
  | nil => rfl
  | cons item rest ih =>
      have later := ih (start + 1) fun index other found => by
        rw [Nat.add_assoc, Nat.add_comm 1]
        exact here (index + 1) other found
      rw [List.length_cons, List.range'_succ, List.mapM_cons, later]
      have first : compute start = .ok (value item) := here 0 item rfl
      rw [first]
      rfl

theorem mapM_error {x : α} {failure : ε} (fine : ∀ y ∈ before, ∃ value, f y = .ok value)
    (fails : f x = .error failure) : (before ++ x :: after).mapM f = .error failure := by
  induction before with
  | nil =>
      rw [List.nil_append, List.mapM_cons, fails]
      rfl
  | cons y rest ih =>
      have later := ih fun z member => fine z (List.mem_cons_of_mem _ member)
      rcases fine y List.mem_cons_self with ⟨value, here⟩
      rw [List.cons_append, List.mapM_cons, here, later]
      rfl

/-- If any element fails, there is a first one. -/
theorem exists_first_failure {x : α} {failure : ε} (member : x ∈ xs)
    (fails : f x = .error failure) :
    ∃ before first after reason, xs = before ++ first :: after ∧
      (∀ y ∈ before, ∃ value, f y = .ok value) ∧ f first = .error reason := by
  induction xs with
  | nil => cases member
  | cons y rest ih =>
      cases here : f y with
      | error reason => exact ⟨[], y, rest, reason, rfl, by simp, here⟩
      | ok value =>
          have later : x ∈ rest := by
            rcases List.mem_cons.1 member with rfl | later
            · rw [here] at fails
              cases fails
            · exact later
          rcases ih later with ⟨before, first, after, reason, split, fine, firstFails⟩
          refine ⟨y :: before, first, after, reason, ?_, ?_, firstFails⟩
          · rw [split, List.cons_append]
          · intro z inside
            rcases List.mem_cons.1 inside with rfl | inside
            · exact ⟨value, here⟩
            · exact fine z inside

/-- The failure of a traversal is that of the first element that fails. -/
theorem mapM_eq_error_iff {failure : ε} :
    xs.mapM f = .error failure ↔ ∃ before x after, xs = before ++ x :: after ∧
      (∀ y ∈ before, ∃ value, f y = .ok value) ∧ f x = .error failure := by
  constructor
  · intro fails
    by_cases some_ : ∃ x ∈ xs, ∃ reason, f x = .error reason
    · obtain ⟨x, member, reason, here⟩ := some_
      obtain ⟨before, first, after, other, split, fine, firstFails⟩ :=
        exists_first_failure member here
      rw [split, mapM_error fine firstFails] at fails
      cases fails
      exact ⟨before, first, after, split, fine, firstFails⟩
    · have every : ∀ x ∈ xs, ∃ y, f x = .ok y ∧ True := by
        intro x member
        cases here : f x with
        | error reason => exact absurd ⟨x, member, reason, here⟩ some_
        | ok y => exact ⟨y, rfl, trivial⟩
      obtain ⟨ys, succeeds, _⟩ := mapM_ok every
      rw [succeeds] at fails
      cases fails
  · rintro ⟨before, x, after, rfl, fine, fails⟩
    exact mapM_error fine fails

/-- The first failure of a loop over a range. -/
theorem mapM_range_eq_error_iff {compute : ℕ → Except ε β} {count : ℕ} {failure : ε} :
    (List.range count).mapM compute = .error failure ↔
      ∃ index < count, compute index = .error failure ∧
        ∀ earlier < index, ∃ value, compute earlier = .ok value := by
  rw [mapM_eq_error_iff, List.range_eq_range']
  constructor
  · rintro ⟨before, index, after, split, fine, fails⟩
    obtain ⟨length, _, rfl, rest⟩ := List.range'_eq_append_iff.1 split
    obtain ⟨here, some_, _⟩ := List.range'_eq_cons_iff.1 rest.symm
    have same : length = index := by omega
    subst same
    refine ⟨length, by omega, fails, fun earlier below => fine earlier ?_⟩
    rw [← List.range_eq_range', List.mem_range]
    exact below
  · rintro ⟨index, inside, fails, fine⟩
    refine ⟨List.range' 0 index, index, List.range' (index + 1) (count - index - 1), ?_, ?_,
      fails⟩
    · apply List.range'_eq_append_iff.2
      refine ⟨index, Nat.le_of_lt inside, rfl, Eq.symm (List.range'_eq_cons_iff.2 ⟨?_, ?_, rfl⟩)⟩
      · omega
      · omega
    · intro earlier member
      rw [← List.range_eq_range', List.mem_range] at member
      exact fine earlier member

/-- Traversals agree if they agree everywhere, or if the same failure ends both. -/
theorem mapM_eq_mapM_iff :
    xs.mapM f = xs.mapM g ↔ (∀ x ∈ xs, f x = g x) ∨
      ∃ failure, xs.mapM f = .error failure ∧ xs.mapM g = .error failure := by
  constructor
  · intro same
    cases outcome : xs.mapM f with
    | error failure => exact .inr ⟨failure, rfl, same ▸ outcome⟩
    | ok values =>
        left
        rw [outcome] at same
        have other := same.symm
        clear same
        induction xs generalizing values with
        | nil => simp
        | cons x rest ih =>
            rw [List.mapM_cons, bind_eq_ok] at outcome other
            obtain ⟨first, here, outcome⟩ := outcome
            obtain ⟨second, there, other⟩ := other
            obtain ⟨later, restOk, ends⟩ := bind_eq_ok.1 outcome
            obtain ⟨laterToo, restOkToo, endsToo⟩ := bind_eq_ok.1 other
            cases ends
            cases endsToo
            intro y member
            rcases List.mem_cons.1 member with rfl | member
            · rw [here, there]
            · exact ih later restOk restOkToo y member
  · rintro (same | ⟨failure, left, right⟩)
    · exact mapM_congr same
    · rw [left, right]

/-! ## Related lists -/

/-- Related lists have related elements at every index. -/
theorem forall₂_getElem? {related : α → β → Prop} {ys : List β}
    (all : List.Forall₂ related xs ys) (index : ℕ) :
    (∀ x, xs[index]? = some x → ∃ y, ys[index]? = some y ∧ related x y) ∧
      ∀ y, ys[index]? = some y → ∃ x, xs[index]? = some x ∧ related x y := by
  induction all generalizing index with
  | nil => exact ⟨by simp, by simp⟩
  | @cons x y _ _ first _ ih =>
      cases index with
      | zero =>
          constructor
          · rintro _ ⟨⟩
            exact ⟨y, rfl, first⟩
          · rintro _ ⟨⟩
            exact ⟨x, rfl, first⟩
      | succ index => exact ih index

end IotLab.Library
