import Mathlib.Data.List.Nodup

/-!
# Windows over a history

A window keeps the latest items that were put into it.  Two windows of one capacity
that take up different items of the same history hold the same items exactly when
their choices agree on the recent part of it.
-/

namespace IotLab.Library

variable {α : Type*} {β : Type*}

/-- Remove the oldest item as long as there are too many. -/
def keepLast (capacity : ℕ) : List α → List α
  | [] => []
  | item :: rest =>
      if capacity < (item :: rest).length then keepLast capacity rest else item :: rest

theorem keepLast_of_length_le {capacity : ℕ} {items : List α}
    (few : items.length ≤ capacity) : keepLast capacity items = items := by
  cases items with
  | nil => rfl
  | cons item rest => rw [keepLast, if_neg (Nat.not_lt.2 few)]

theorem keepLast_cons_of_le {capacity : ℕ} {items : List α} (item : α)
    (full : capacity ≤ items.length) :
    keepLast capacity (item :: items) = keepLast capacity items := by
  rw [keepLast, List.length_cons, if_pos (Nat.lt_succ_of_le full)]

theorem keepLast_append_of_le {capacity : ℕ} (older : List α) {items : List α}
    (full : capacity ≤ items.length) :
    keepLast capacity (older ++ items) = keepLast capacity items := by
  induction older with
  | nil => rfl
  | cons item rest ih =>
      have enough : capacity ≤ (rest ++ items).length := by
        rw [List.length_append]
        exact Nat.le_add_left_of_le full
      rw [List.cons_append, keepLast_cons_of_le item enough, ih]

@[simp] theorem length_keepLast (capacity : ℕ) (items : List α) :
    (keepLast capacity items).length = min items.length capacity := by
  induction items with
  | nil => simp [keepLast]
  | cons item rest ih =>
      rw [keepLast]
      split
      · next many =>
          rw [ih, Nat.min_eq_right (Nat.le_of_lt_succ many),
            Nat.min_eq_right (Nat.le_of_lt many)]
      · next few => rw [Nat.min_eq_left (Nat.not_lt.1 few)]

theorem keepLast_suffix (capacity : ℕ) (items : List α) :
    keepLast capacity items <:+ items := by
  induction items with
  | nil => exact List.suffix_rfl
  | cons item rest ih =>
      rw [keepLast]
      split
      · exact ih.trans (List.suffix_cons item rest)
      · exact List.suffix_rfl

theorem map_keepLast (f : α → β) (capacity : ℕ) (items : List α) :
    (keepLast capacity items).map f = keepLast capacity (items.map f) := by
  induction items with
  | nil => rfl
  | cons item rest ih =>
      rw [List.map_cons, keepLast, keepLast, List.length_cons, List.length_cons,
        List.length_map]
      split
      · exact ih
      · rfl

/-- A window that is trimmed whenever an item comes holds the end of the whole
history. -/
theorem keepLast_keepLast_append (capacity : ℕ) (items : List α) (item : α) :
    keepLast capacity (keepLast capacity items ++ [item]) =
      keepLast capacity (items ++ [item]) := by
  induction items with
  | nil => rfl
  | cons oldest rest ih =>
      rw [keepLast]
      split
      · next many =>
          have full : capacity ≤ (rest ++ [item]).length := by
            rw [List.length_append, List.length_singleton]
            exact Nat.le_of_lt many
          rw [ih, List.cons_append, keepLast_cons_of_le oldest full]
      · rfl

theorem mem_keepLast_append {capacity : ℕ} {item : α} {older recent : List α}
    (member : item ∈ recent) (few : recent.length ≤ capacity) :
    item ∈ keepLast capacity (older ++ recent) := by
  induction older with
  | nil => rwa [List.nil_append, keepLast_of_length_le few]
  | cons oldest rest ih =>
      rw [List.cons_append, keepLast]
      split
      · exact ih
      · exact List.mem_cons_of_mem _ (List.mem_append_right rest member)

/-- Items of a history are known by their labels when these are distinct. -/
theorem eq_of_map_eq {f : α → β} {history items others : List α}
    (distinct : (history.map f).Nodup) (inside : items ⊆ history)
    (othersInside : others ⊆ history) (same : items.map f = others.map f) :
    items = others := by
  induction items generalizing others with
  | nil => exact (List.map_eq_nil_iff.1 same.symm).symm
  | cons item rest ih =>
      cases others with
      | nil => cases same
      | cons other remaining =>
          rw [List.map_cons, List.map_cons, List.cons.injEq] at same
          have head : item = other :=
            List.inj_on_of_nodup_map distinct (inside List.mem_cons_self)
              (othersInside List.mem_cons_self) same.1
          have tail := ih (List.subset_of_cons_subset inside)
            (List.subset_of_cons_subset othersInside) same.2
          rw [head, tail]

/-- Two choices agree on every item after which fewer than `capacity` items of the
second one follow. -/
def AgreeRecently (capacity : ℕ) (chosen counted : α → Bool) (history : List α) : Prop :=
  ∀ before item after, history = before ++ item :: after →
    (after.filter counted).length < capacity → chosen item = counted item

section Agreement

variable {capacity : ℕ} {chosen counted : α → Bool} {history : List α}

theorem AgreeRecently.tail {item : α}
    (agree : AgreeRecently capacity chosen counted (item :: history)) :
    AgreeRecently capacity chosen counted history := by
  intro before recent after split few
  exact agree (item :: before) recent after (by rw [split, List.cons_append]) few

/-- In a short history every item is recent. -/
theorem AgreeRecently.of_mem {oldest item : α}
    (agree : AgreeRecently capacity chosen counted (oldest :: history))
    (short : (history.filter counted).length < capacity)
    (member : item ∈ oldest :: history) : chosen item = counted item := by
  cases member with
  | head => exact agree [] oldest history rfl short
  | tail _ later =>
      obtain ⟨before, after, split⟩ := List.append_of_mem later
      apply agree (oldest :: before) item after (by rw [split, List.cons_append])
      have inside : after.Sublist history := by
        rw [split]
        exact (List.sublist_cons_self item after).trans (List.sublist_append_right _ _)
      exact Nat.lt_of_le_of_lt (inside.filter counted).length_le short

theorem AgreeRecently.keepLast_eq (agree : AgreeRecently capacity chosen counted history)
    (full : capacity ≤ (history.filter counted).length) :
    keepLast capacity (history.filter chosen) =
      keepLast capacity (history.filter counted) := by
  induction history with
  | nil => rfl
  | cons item rest ih =>
      by_cases enough : capacity ≤ (rest.filter counted).length
      · have same := ih agree.tail enough
        have chosenEnough : capacity ≤ (rest.filter chosen).length := by
          have lengths := congrArg List.length same
          rw [length_keepLast, length_keepLast, Nat.min_eq_right enough] at lengths
          rw [← lengths]
          exact Nat.min_le_left _ _
        rw [List.filter_cons, List.filter_cons]
        split <;> split <;> simp only [keepLast_cons_of_le, enough, chosenEnough, same]
      · have all : ∀ other ∈ item :: rest, chosen other = counted other :=
          fun other member => agree.of_mem (Nat.not_le.1 enough) member
        rw [List.filter_congr all]

/-- Items that are in both windows and in the history after an item. -/
theorem length_lt_of_keepLast_eq {before after : List α} {item : α}
    (same : keepLast capacity ((before ++ item :: after).filter chosen) =
      keepLast capacity ((before ++ item :: after).filter counted))
    (few : (after.filter counted).length < capacity) :
    (after.filter chosen).length < capacity := by
  apply Nat.lt_of_not_le
  intro enough
  have split : (before ++ item :: after).filter chosen =
      (before ++ [item]).filter chosen ++ after.filter chosen := by
    rw [← List.filter_append, List.append_assoc, List.singleton_append]
  rw [split, keepLast_append_of_le _ enough] at same
  -- the window of the chosen items lies after the item and holds counted items only
  have counts : ∀ other ∈ keepLast capacity (after.filter chosen), counted other = true := by
    intro other member
    rw [same] at member
    exact (List.mem_filter.1 ((keepLast_suffix _ _).subset member)).2
  have inside : (keepLast capacity (after.filter chosen)).Sublist after :=
    (keepLast_suffix _ _).sublist.trans List.filter_sublist
  have fewer := (inside.filter counted).length_le
  rw [List.filter_eq_self.2 counts, length_keepLast, Nat.min_eq_right enough] at fewer
  exact Nat.not_le_of_lt few fewer

theorem mem_keepLast_filter {select : α → Bool} {after : List α} {item : α}
    (before : List α) (few : (after.filter select).length < capacity)
    (selected : select item = true) :
    item ∈ keepLast capacity ((before ++ item :: after).filter select) := by
  rw [List.filter_append]
  apply mem_keepLast_append (List.mem_filter.2 ⟨List.mem_cons_self, selected⟩)
  rw [List.filter_cons_of_pos selected]
  exact few

theorem agreeRecently_of_keepLast_eq
    (same : keepLast capacity (history.filter chosen) =
      keepLast capacity (history.filter counted)) :
    AgreeRecently capacity chosen counted history := by
  intro before item after split few
  rw [split] at same
  have chosenFew := length_lt_of_keepLast_eq same few
  rw [Bool.eq_iff_iff]
  constructor
  · intro selected
    have member := mem_keepLast_filter before chosenFew selected
    rw [same] at member
    exact (List.mem_filter.1 ((keepLast_suffix _ _).subset member)).2
  · intro selected
    have member := mem_keepLast_filter before few selected
    rw [← same] at member
    exact (List.mem_filter.1 ((keepLast_suffix _ _).subset member)).2

theorem keepLast_filter_eq_iff (full : capacity ≤ (history.filter counted).length) :
    keepLast capacity (history.filter chosen) =
        keepLast capacity (history.filter counted) ↔
      AgreeRecently capacity chosen counted history :=
  ⟨agreeRecently_of_keepLast_eq, fun agree => agree.keepLast_eq full⟩

end Agreement

end IotLab.Library
