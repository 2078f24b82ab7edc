import Mathlib.Data.List.Basic
import Mathlib.Order.Interval.Finset.Nat

/-!
# Numbered placeholders

A condition with numbered placeholders is put together next to the list of its parameters.
The number of the next placeholder is counted by hand, so that every placeholder stands for
its own value only if the count agrees with the number of parameters.
-/

namespace IotLab.Library

/-- A part of the text of a condition. -/
inductive ConditionPart where
  | sql (text : List Char)
  | placeholder (number : ℕ)
  deriving Repr, DecidableEq

/-- The text of a part: a placeholder is a question mark with its number. -/
def ConditionPart.write : ConditionPart → List Char
  | .sql text => text
  | .placeholder number => '?' :: Nat.toDigits 10 number

/-- A condition and its parameters, with the number of the next placeholder. -/
structure NumberedCondition (α : Type*) where
  parts : List ConditionPart
  parameters : List α
  next : ℕ
  deriving Repr, DecidableEq

/-- The numbers of the placeholders. -/
def placeholderNumbers : List ConditionPart → List ℕ
  | [] => []
  | .sql _ :: rest => placeholderNumbers rest
  | .placeholder number :: rest => number :: placeholderNumbers rest

/-- The predicates: the texts in front of the placeholders, with the numbers. -/
def predicatesOf : List ConditionPart → List (List Char × ℕ)
  | .sql text :: .placeholder number :: rest => (text, number) :: predicatesOf rest
  | _ :: rest => predicatesOf rest
  | [] => []

namespace NumberedCondition

variable {α : Type*}

/-- The text of the condition. -/
def write (condition : NumberedCondition α) : List Char :=
  condition.parts.flatMap ConditionPart.write

/-- A condition without placeholders. -/
def start (text : List Char) : NumberedCondition α := ⟨[.sql text], [], 1⟩

/-- Text is appended. -/
def text (condition : NumberedCondition α) (text : List Char) : NumberedCondition α :=
  { condition with parts := condition.parts ++ [.sql text] }

/-- A predicate with the next placeholder is appended. -/
def predicate (condition : NumberedCondition α) (text : List Char) : NumberedCondition α :=
  { condition with
    parts := condition.parts ++ [.sql text, .placeholder condition.next]
    next := condition.next + 1 }

/-- A parameter is appended. -/
def add (condition : NumberedCondition α) (value : α) : NumberedCondition α :=
  { condition with parameters := condition.parameters ++ [value] }

/-- A disjunction of predicates for some values, the first one and the other ones. -/
def disjunction (condition : NumberedCondition α) (first other last : List Char) (value : α)
    (values : List α) : NumberedCondition α :=
  (values.foldl (fun condition value => (condition.predicate other).add value)
    ((condition.predicate first).add value)).text last

/-- The value that a placeholder is replaced by. -/
def valueAt (condition : NumberedCondition α) : ℕ → Option α
  | 0 => none
  | number + 1 => condition.parameters[number]?

/-- The placeholders are those of the parameters, and each predicate gets the value that is
meant. -/
structure Binds (condition : NumberedCondition α) (meant : List (List Char × α)) : Prop where
  numbers : (placeholderNumbers condition.parts).toFinset =
    Finset.Icc 1 condition.parameters.length
  values : (predicatesOf condition.parts).map
    (fun predicate => (predicate.1, condition.valueAt predicate.2)) =
      meant.map fun predicate => (predicate.1, some predicate.2)

/-- The placeholders are numbered in order, up to the next one. -/
structure Numbered (condition : NumberedCondition α) (meant : List (List Char × α)) :
    Prop where
  parameters : condition.parameters = meant.map Prod.snd
  numbers : placeholderNumbers condition.parts = List.range' 1 meant.length
  predicates : predicatesOf condition.parts = (meant.map Prod.fst).zipIdx 1
  next : condition.next = meant.length + 1

end NumberedCondition

/-! ## The parts of a condition -/

theorem placeholderNumbers_append (parts more : List ConditionPart) :
    placeholderNumbers (parts ++ more) =
      placeholderNumbers parts ++ placeholderNumbers more := by
  induction parts with
  | nil => rfl
  | cons part rest ih =>
      cases part with
      | sql _ => exact ih
      | placeholder number => exact congrArg (number :: ·) ih

/-- A text in front starts a new predicate. -/
theorem predicatesOf_append_sql (parts more : List ConditionPart) (text : List Char) :
    predicatesOf (parts ++ .sql text :: more) =
      predicatesOf parts ++ predicatesOf (.sql text :: more) := by
  induction parts using predicatesOf.induct with
  | case1 first number rest ih => exact congrArg ((first, number) :: ·) ih
  | case2 part rest plain ih =>
      rw [predicatesOf.eq_2 _ _ plain, List.cons_append, predicatesOf.eq_2, ih]
      intro first number later text_ same
      cases rest with
      | nil => cases same
      | cons second others =>
          cases same
          exact plain first number others text_ rfl
  | case3 => rfl

namespace NumberedCondition

section Building

variable {α : Type*} {condition : NumberedCondition α} {meant : List (List Char × α)}

theorem numbered_start (text : List Char) : (start text : NumberedCondition α).Numbered [] :=
  ⟨rfl, rfl, rfl, rfl⟩

theorem Numbered.text (numbered : condition.Numbered meant) (text : List Char) :
    (condition.text text).Numbered meant := by
  refine ⟨numbered.parameters, ?_, ?_, numbered.next⟩
  · rw [NumberedCondition.text, placeholderNumbers_append, numbered.numbers]
    exact List.append_nil _
  · rw [NumberedCondition.text, predicatesOf_append_sql, numbered.predicates]
    exact List.append_nil _

theorem Numbered.bind (numbered : condition.Numbered meant) (text : List Char) (value : α) :
    ((condition.predicate text).add value).Numbered (meant ++ [(text, value)]) := by
  refine ⟨?_, ?_, ?_, ?_⟩
  · simp [add, predicate, numbered.parameters]
  · simp only [add, predicate, placeholderNumbers_append, numbered.numbers, numbered.next,
      List.length_append, List.length_singleton, List.range'_concat, placeholderNumbers]
    rw [Nat.one_mul, Nat.add_comm]
  · simp only [add, predicate, predicatesOf_append_sql, numbered.predicates, numbered.next,
      List.map_append, List.zipIdx_append, List.length_map, predicatesOf]
    rw [Nat.add_comm]
    rfl
  · simp [add, predicate, numbered.next]

theorem Numbered.foldl (numbered : condition.Numbered meant) (other : List Char)
    (values : List α) :
    (values.foldl (fun condition value => (condition.predicate other).add value)
      condition).Numbered (meant ++ values.map fun value => (other, value)) := by
  induction values generalizing condition meant with
  | nil =>
      rw [List.map_nil, List.append_nil]
      exact numbered
  | cons value rest ih =>
      have later := ih (numbered.bind other value)
      rw [List.append_assoc] at later
      exact later

theorem Numbered.disjunction (numbered : condition.Numbered meant)
    (first other last : List Char) (value : α) (values : List α) :
    (condition.disjunction first other last value values).Numbered
      (meant ++ (first, value) :: values.map fun value => (other, value)) := by
  have all := ((numbered.bind first value).foldl other values).text last
  rw [List.append_assoc] at all
  exact all

/-- Placeholders that are numbered in order stand for their own values. -/
theorem Numbered.binds (numbered : condition.Numbered meant) : condition.Binds meant := by
  refine ⟨?_, ?_⟩
  · ext number
    rw [numbered.numbers, numbered.parameters, List.mem_toFinset, List.mem_range'_1,
      Finset.mem_Icc, List.length_map]
    omega
  · rw [numbered.predicates]
    apply List.ext_getElem?
    intro index
    rw [List.getElem?_map, List.getElem?_zipIdx, List.getElem?_map, List.getElem?_map]
    cases found : meant[index]? with
    | none => rfl
    | some predicate =>
        have value : condition.valueAt (1 + index) = some predicate.2 := by
          rw [Nat.add_comm, valueAt, numbered.parameters, List.getElem?_map, found]
          rfl
        exact congrArg (fun value => some (predicate.1, value)) value

end Building

end NumberedCondition

end IotLab.Library
