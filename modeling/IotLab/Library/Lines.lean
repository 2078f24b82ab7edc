import Mathlib.Data.List.Basic

/-!
# Splitting a stream into lines

A terminator ends a line.  A reader with a bounded buffer keeps the first symbols of a
line and drops what does not fit.
-/

namespace IotLab.Library

variable {α : Type*}

/-- The lines that are complete, and what has been kept of the one that is not. -/
structure Lines (α : Type*) where
  complete : List (List α) := []
  rest : List α := []
  deriving DecidableEq

namespace Lines

section Feed

variable [DecidableEq α] (limit : ℕ) (terminator : α)

/-- Read one symbol. -/
def feed (lines : Lines α) (symbol : α) : Lines α :=
  if symbol = terminator then { complete := lines.complete ++ [lines.rest] }
  else if lines.rest.length < limit then
    { lines with rest := lines.rest ++ [symbol] }
  else lines

/-- Read a list of symbols. -/
def feedAll (lines : Lines α) (symbols : List α) : Lines α :=
  symbols.foldl (feed limit terminator) lines

@[simp] theorem feedAll_nil (lines : Lines α) :
    lines.feedAll limit terminator [] = lines := rfl

@[simp] theorem feedAll_cons (lines : Lines α) (symbol : α) (symbols : List α) :
    lines.feedAll limit terminator (symbol :: symbols) =
      (lines.feed limit terminator symbol).feedAll limit terminator symbols := rfl

@[simp] theorem feedAll_append (lines : Lines α) (first second : List α) :
    lines.feedAll limit terminator (first ++ second) =
      (lines.feedAll limit terminator first).feedAll limit terminator second :=
  List.foldl_append

variable {limit terminator}

theorem feed_terminator (lines : Lines α) :
    lines.feed limit terminator terminator =
      { complete := lines.complete ++ [lines.rest] } := if_pos rfl

/-- Without a terminator the line grows up to the limit. -/
theorem feedAll_of_not_mem {symbols : List α} (clean : terminator ∉ symbols)
    {lines : Lines α} (short : lines.rest.length ≤ limit) :
    lines.feedAll limit terminator symbols =
      { lines with rest := (lines.rest ++ symbols).take limit } := by
  induction symbols generalizing lines with
  | nil => simp [List.take_of_length_le short]
  | cons symbol symbols ih =>
      rw [List.mem_cons, not_or] at clean
      rw [feedAll_cons, feed, if_neg (Ne.symm clean.1)]
      split
      · next room =>
          have grown : (lines.rest ++ [symbol]).length ≤ limit := by
            rw [List.length_append]
            exact room
          rw [ih clean.2 grown]
          simp
      · next full =>
          have whole : lines.rest.length = limit := by omega
          rw [ih clean.2 short]
          simp [← whole]

/-- Every terminator completes a line. -/
theorem length_complete_feedAll (lines : Lines α) (symbols : List α) :
    (lines.feedAll limit terminator symbols).complete.length =
      lines.complete.length + symbols.count terminator := by
  induction symbols generalizing lines with
  | nil => simp
  | cons symbol symbols ih =>
      rw [feedAll_cons, ih, feed, List.count_cons]
      split
      · next ends =>
          simp only [ends, beq_self_eq_true, if_true, List.length_append,
            List.length_singleton]
          omega
      · next goes =>
          simp only [beq_iff_eq, goes, if_false, Nat.add_zero]
          split <;> rfl

end Feed

end Lines

end IotLab.Library
