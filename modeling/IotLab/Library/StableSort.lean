import IotLab.Library.SwapSort
import Mathlib.Data.List.Chain
import Mathlib.Order.Defs.Unbundled

/-!
# Stable sorting

A list is sorted stably by a key when the keys are in order and the elements of one key
are in the order in which they came.  A sort that swaps neighbours where their keys are
not in order is stable: it never swaps elements with the same key.  Elements that it swaps
with no other one are barriers: it sorts what is between two of them.
-/

namespace IotLab.Library

variable {α κ : Type*} [DecidableEq κ]

/-- The elements of a list in the order of their keys; those with the same key stay in
the order in which they are in the list. -/
structure StablySorted (precedes : κ → κ → Prop) (key : α → κ) (list sorted : List α) :
    Prop where
  perm : sorted.Perm list
  ordered : sorted.Pairwise fun first second => precedes (key first) (key second)
  stable : ∀ value, sorted.filter (fun element => key element = value) =
    list.filter fun element => key element = value

section Sorted

variable {precedes : κ → κ → Prop} {key : α → κ} {list sorted : List α}

theorem StablySorted.split (sorts : StablySorted precedes key list sorted)
    {front back : List α} (split : sorted = front ++ back) :
    ∀ near ∈ front, ∀ far ∈ back, precedes (key near) (key far) := by
  have ordered := sorts.ordered
  rw [split, List.pairwise_append] at ordered
  exact ordered.2.2

end Sorted

/-! ## Passes -/

section Passes

variable {swaps : α → α → Bool} {test : α → Bool}

/-- A pass keeps the order of elements that it does not swap with one another. -/
theorem filter_swapPassFrom
    (apart : ∀ left right, test left = true → test right = true → swaps left right = false)
    (held : α) (rest : List α) :
    (swapPassFrom swaps held rest).1.filter test = (held :: rest).filter test := by
  induction rest generalizing held with
  | nil => rfl
  | cons next rest ih =>
      rw [swapPassFrom]
      by_cases swap : swaps held next = true
      · rw [if_pos swap, List.filter_cons, ih]
        by_cases here : test next = true
        · have other : ¬ test held = true := by
            intro both
            rw [apart held next both here] at swap
            cases swap
          simp [here, other]
        · simp [List.filter_cons, here]
      · rw [if_neg swap, List.filter_cons, ih]
        exact List.filter_cons.symm

theorem filter_swapPass
    (apart : ∀ left right, test left = true → test right = true → swaps left right = false)
    (list : List α) : (swapPass swaps list).1.filter test = list.filter test := by
  cases list with
  | nil => rfl
  | cons first rest => exact filter_swapPassFrom apart first rest

/-- A sort keeps the order of elements that it does not swap with one another. -/
theorem filter_swapSort
    (apart : ∀ left right, test left = true → test right = true → swaps left right = false)
    {passes : ℕ} {list sorted : List α} (ends : swapSort swaps passes list = some sorted) :
    sorted.filter test = list.filter test := by
  induction passes generalizing list with
  | zero => cases ends
  | succ passes ih =>
      rw [← filter_swapPass apart list]
      simp only [swapSort] at ends
      split at ends
      · exact ih ends
      · cases ends
        rfl

/-- A pass without a swap has seen all neighbours in order. -/
theorem isChain_swapPassFrom (held : α) (rest : List α)
    (still : (swapPassFrom swaps held rest).2 = false) :
    (swapPassFrom swaps held rest).1 = held :: rest ∧
      (held :: rest).IsChain fun left right => swaps left right = false := by
  induction rest generalizing held with
  | nil => exact ⟨rfl, .singleton _⟩
  | cons next rest ih =>
      rw [swapPassFrom] at still ⊢
      by_cases swap : swaps held next = true
      · rw [if_pos swap] at still
        cases still
      · rw [if_neg swap] at still ⊢
        obtain ⟨same, chain⟩ := ih next still
        exact ⟨congrArg (held :: ·) same, .cons_cons (Bool.not_eq_true _ ▸ swap) chain⟩

theorem swapPass_of_still {list : List α} (still : (swapPass swaps list).2 = false) :
    (swapPass swaps list).1 = list := by
  cases list with
  | nil => rfl
  | cons first rest => exact (isChain_swapPassFrom first rest still).1

theorem isChain_swapPass (list : List α) (still : (swapPass swaps list).2 = false) :
    (swapPass swaps list).1.IsChain fun left right => swaps left right = false := by
  rw [swapPass_of_still still]
  cases list with
  | nil => exact .nil
  | cons first rest => exact (isChain_swapPassFrom first rest still).2

theorem isChain_swapSort {passes : ℕ} {list sorted : List α}
    (ends : swapSort swaps passes list = some sorted) :
    sorted.IsChain fun left right => swaps left right = false := by
  induction passes generalizing list with
  | zero => cases ends
  | succ passes ih =>
      simp only [swapSort] at ends
      split at ends
      · exact ih ends
      · next still =>
          cases ends
          exact isChain_swapPass list (Bool.not_eq_true _ ▸ still)

/-- More passes do not change the result. -/
theorem swapSort_of_le {passes more : ℕ} (enough : passes ≤ more) {list sorted : List α}
    (ends : swapSort swaps passes list = some sorted) :
    swapSort swaps more list = some sorted := by
  induction passes generalizing list more with
  | zero => cases ends
  | succ passes ih =>
      cases more with
      | zero => exact absurd enough (Nat.not_succ_le_zero passes)
      | succ more =>
          simp only [swapSort] at ends ⊢
          split at ends
          · next swapped =>
              rw [if_pos swapped]
              exact ih (Nat.le_of_succ_le_succ enough) ends
          · next still =>
              rw [if_neg still]
              exact ends

end Passes

/-! ## Sorting by a key -/

section Keys

variable {precedes : κ → κ → Prop} [IsTrans κ precedes] {key : α → κ} {swaps : α → α → Bool}

/-- What the sort returns is sorted stably, if it swaps no elements with one key and leaves
none of the list out of order. -/
theorem stablySorted_of_swapSort {passes : ℕ} {list sorted : List α}
    (apart : ∀ left right, key left = key right → swaps left right = false)
    (inOrder : ∀ left ∈ list, ∀ right ∈ list, swaps left right = false →
      precedes (key left) (key right))
    (ends : swapSort swaps passes list = some sorted) :
    StablySorted precedes key list sorted where
  perm := swapSort_perm ends
  ordered := by
    have members := (swapSort_perm ends).subset
    have neighbours : sorted.IsChain fun first second => precedes (key first) (key second) :=
      (isChain_swapSort ends).imp_of_mem_imp fun first second near far still =>
        inOrder first (members near) second (members far) still
    have chain : (sorted.map key).IsChain precedes := (List.isChain_map key).2 neighbours
    exact List.pairwise_map.1 chain.pairwise
  stable := by
    intro value
    refine filter_swapSort (fun left right leftKey rightKey => ?_) ends
    rw [decide_eq_true_eq] at leftKey rightKey
    exact apart left right (leftKey.trans rightKey.symm)

variable [Std.Total precedes]
variable (compares : ∀ held next, swaps held next = true ↔ ¬ precedes (key held) (key next))
include compares

omit [DecidableEq κ] [IsTrans κ precedes] in
theorem swaps_asymm (left right : α) (swap : swaps left right = true) :
    swaps right left = false := by
  have behind := (Std.Total.total (key left) (key right)).resolve_left ((compares _ _).1 swap)
  exact Bool.eq_false_iff.2 fun back => (compares _ _).1 back behind

/-- With enough passes every list is sorted stably. -/
theorem exists_stablySorted (list : List α) :
    ∃ sorted, StablySorted precedes key list sorted ∧
      ∃ passes, ∀ fuel, passes ≤ fuel → swapSort swaps fuel list = some sorted := by
  obtain ⟨sorted, ends⟩ := exists_swapSort (swaps_asymm compares)
    (Nat.lt_succ_self (inversions swaps list))
  refine ⟨sorted, stablySorted_of_swapSort ?_ ?_ ends, _, fun _ enough =>
    swapSort_of_le enough ends⟩
  · intro left right same
    refine Bool.eq_false_iff.2 fun swap => (compares left right).1 swap ?_
    rw [same]
    exact (Std.Total.total (key right) (key right)).elim id id
  · intro left _ right _ still
    by_contra behind
    rw [(compares left right).2 behind] at still
    cases still

end Keys

/-! ## Barriers -/

/-- The parts of a list between barriers are sorted stably, and the barriers stay. -/
inductive BlocksSorted (precedes : κ → κ → Prop) (key : α → κ) (barrier : α → Prop) :
    List α → List α → Prop
  | block {list sorted : List α} :
      (∀ element ∈ list, ¬ barrier element) → StablySorted precedes key list sorted →
      BlocksSorted precedes key barrier list sorted
  | join {front back sortedFront sortedBack : List α} {element : α} :
      BlocksSorted precedes key barrier front sortedFront → barrier element →
      BlocksSorted precedes key barrier back sortedBack →
      BlocksSorted precedes key barrier (front ++ element :: back)
        (sortedFront ++ element :: sortedBack)

section Barriers

variable {precedes : κ → κ → Prop} {key : α → κ} {barrier : α → Prop} {swaps : α → α → Bool}
variable {list sorted : List α}

theorem BlocksSorted.stablySorted (sorts : BlocksSorted precedes key barrier list sorted)
    (free : ∀ element ∈ list, ¬ barrier element) : StablySorted precedes key list sorted := by
  cases sorts with
  | block _ sorts => exact sorts
  | join _ stays _ => exact absurd stays (free _ (by simp))

theorem BlocksSorted.perm (sorts : BlocksSorted precedes key barrier list sorted) :
    sorted.Perm list := by
  induction sorts with
  | block _ sorts => exact sorts.perm
  | join _ _ _ front back => exact front.append (back.cons _)

/-- A barrier keeps its place. -/
theorem BlocksSorted.getElem?_eq (sorts : BlocksSorted precedes key barrier list sorted)
    {index : ℕ} {element : α} (here : list[index]? = some element) (stays : barrier element) :
    sorted[index]? = some element := by
  induction sorts generalizing index with
  | block free _ => exact absurd stays (free element (List.mem_of_getElem? here))
  | join front _ _ frontHolds backHolds =>
      have same := front.perm.length_eq
      rw [List.getElem?_append] at here ⊢
      rw [same]
      split at here
      · next inside =>
          rw [if_pos inside]
          exact frontHolds here
      · next outside =>
          rw [if_neg outside]
          cases distance : index - _ with
          | zero =>
              rw [distance] at here
              exact here
          | succ rest =>
              rw [distance, List.getElem?_cons_succ] at here
              rw [List.getElem?_cons_succ]
              exact backHolds here

omit [DecidableEq κ] in
/-- A pass over a barrier is one over what is in front of it and one over what is behind it. -/
theorem swapPassFrom_append_cons {element : α}
    (never : ∀ other, swaps element other = false ∧ swaps other element = false) (held : α)
    (front back : List α) :
    swapPassFrom swaps held (front ++ element :: back) =
      ((swapPassFrom swaps held front).1 ++ element :: (swapPass swaps back).1,
        (swapPassFrom swaps held front).2 || (swapPass swaps back).2) := by
  induction front generalizing held with
  | nil =>
      have behind : swapPassFrom swaps element back =
          (element :: (swapPass swaps back).1, (swapPass swaps back).2) := by
        cases back with
        | nil => rfl
        | cons next rest => simp [swapPassFrom, swapPass, (never next).1]
      simp [swapPassFrom, (never held).2, behind]
  | cons next rest ih =>
      simp only [List.cons_append, swapPassFrom]
      split <;> simp [ih]

omit [DecidableEq κ] in
theorem swapPass_append_cons {element : α}
    (never : ∀ other, swaps element other = false ∧ swaps other element = false)
    (front back : List α) :
    swapPass swaps (front ++ element :: back) =
      ((swapPass swaps front).1 ++ element :: (swapPass swaps back).1,
        (swapPass swaps front).2 || (swapPass swaps back).2) := by
  cases front with
  | nil =>
      cases back with
      | nil => rfl
      | cons next rest => simp [swapPassFrom, swapPass, (never next).1]
  | cons first rest => exact swapPassFrom_append_cons never first rest back

omit [DecidableEq κ] in
theorem swapSort_of_still {passes : ℕ} (still : (swapPass swaps list).2 = false)
    (ends : swapSort swaps passes list = some sorted) : sorted = list := by
  cases passes with
  | zero => cases ends
  | succ passes =>
      simp only [swapSort, still, Bool.false_eq_true, if_false, swapPass_of_still still,
        Option.some.injEq] at ends
      exact ends.symm

omit [DecidableEq κ] in
theorem swapSort_succ {passes : ℕ} (ends : swapSort swaps passes (swapPass swaps list).1 =
    some sorted) : swapSort swaps (passes + 1) list = some sorted := by
  simp only [swapSort]
  split
  · exact ends
  · next still =>
      have stays := Bool.not_eq_true _ ▸ still
      rw [swapPass_of_still stays] at ends ⊢
      rw [swapSort_of_still stays ends]

omit [DecidableEq κ] in
/-- A barrier divides the sort. -/
theorem swapSort_append_cons {element : α}
    (never : ∀ other, swaps element other = false ∧ swaps other element = false) {passes : ℕ}
    {front back : List α} (ends : swapSort swaps passes (front ++ element :: back) = some sorted) :
    ∃ sortedFront sortedBack, sorted = sortedFront ++ element :: sortedBack ∧
      swapSort swaps passes front = some sortedFront ∧
        swapSort swaps passes back = some sortedBack := by
  induction passes generalizing front back with
  | zero => cases ends
  | succ passes ih =>
      rw [swapSort, swapPass_append_cons never] at ends
      dsimp only at ends
      split at ends
      · obtain ⟨sortedFront, sortedBack, parts, first, second⟩ := ih ends
        exact ⟨sortedFront, sortedBack, parts, swapSort_succ first, swapSort_succ second⟩
      · next still =>
          cases ends
          rw [Bool.or_eq_true, not_or, Bool.not_eq_true, Bool.not_eq_true] at still
          refine ⟨_, _, rfl, ?_, ?_⟩
          · simp [swapSort, still.1]
          · simp [swapSort, still.2]

/-- The sort leaves sorted blocks, if what it does not swap without a barrier is in order. -/
theorem blocksSorted_swapSort [IsTrans κ precedes] [DecidablePred barrier] {passes : ℕ}
    (never : ∀ element, barrier element → ∀ other,
      swaps element other = false ∧ swaps other element = false)
    (apart : ∀ left right, key left = key right → swaps left right = false)
    (inOrder : ∀ left right, ¬ barrier left → ¬ barrier right → swaps left right = false →
      precedes (key left) (key right))
    (ends : swapSort swaps passes list = some sorted) :
    BlocksSorted precedes key barrier list sorted := by
  induction size : list.length using Nat.strong_induction_on generalizing list sorted with
  | _ length ih =>
      by_cases stays : ∃ element ∈ list, barrier element
      · obtain ⟨element, member, holds⟩ := stays
        obtain ⟨front, back, rfl⟩ := List.append_of_mem member
        obtain ⟨sortedFront, sortedBack, rfl, first, second⟩ :=
          swapSort_append_cons (never element holds) ends
        rw [List.length_append, List.length_cons] at size
        exact .join (ih front.length (by omega) first rfl) holds
          (ih back.length (by omega) second rfl)
      · have free : ∀ element ∈ list, ¬ barrier element := fun element member holds =>
          stays ⟨element, member, holds⟩
        exact .block free (stablySorted_of_swapSort apart (fun left near right far =>
          inOrder left right (free left near) (free right far)) ends)

end Barriers

end IotLab.Library
