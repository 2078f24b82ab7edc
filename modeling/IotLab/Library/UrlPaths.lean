import Mathlib.Data.List.Infix
import Mathlib.Tactic.Common

/-!
# Paths of requests

A filter lists patterns of paths, a resource has a template.  A pattern without a
wildcard accepts one path only, while a template accepts its paths with or without a
slash at the end; so the two do not agree by themselves.
-/

namespace IotLab.Library

/-! ## Patterns of filters -/

/-- A pattern of a filter. -/
inductive UrlPattern where
  | exact (path : List Char)
  /-- The path and everything below it: `path/*`. -/
  | below (path : List Char)
  deriving Repr, DecidableEq

namespace UrlPattern

def accepts (path : List Char) : UrlPattern → Bool
  | exact accepted => path = accepted
  | below accepted => path = accepted || (accepted ++ ['/']).isPrefixOf path

/-- Some path with this beginning may be accepted. -/
def meets (start : List Char) : UrlPattern → Bool
  | exact accepted => start.isPrefixOf accepted
  | below accepted => start.isPrefixOf accepted || start.isPrefixOf (accepted ++ ['/']) ||
      (accepted ++ ['/']).isPrefixOf start

theorem meets_of_accepts {start path : List Char} (begins : start <+: path)
    {pattern : UrlPattern} (accepted : pattern.accepts path = true) :
    pattern.meets start = true := by
  cases pattern with
  | exact accepted_ =>
      rw [accepts, decide_eq_true_eq] at accepted
      rw [meets, List.isPrefixOf_iff_prefix, ← accepted]
      exact begins
  | below accepted_ =>
      rw [accepts, Bool.or_eq_true, decide_eq_true_eq, List.isPrefixOf_iff_prefix] at accepted
      simp only [meets, Bool.or_eq_true, List.isPrefixOf_iff_prefix]
      cases accepted with
      | inl same => exact .inl (.inl (same ▸ begins))
      | inr inside =>
          cases List.prefix_or_prefix_of_prefix begins inside with
          | inl shorter => exact .inl (.inr shorter)
          | inr longer => exact .inr longer

theorem any_accepts_filter {start path : List Char} (begins : start <+: path)
    (patterns : List UrlPattern) :
    patterns.any (accepts path) = (patterns.filter (meets start)).any (accepts path) := by
  rw [Bool.eq_iff_iff, List.any_eq_true, List.any_eq_true]
  constructor
  · rintro ⟨pattern, member, accepted⟩
    exact ⟨pattern, List.mem_filter.2 ⟨member, meets_of_accepts begins accepted⟩, accepted⟩
  · rintro ⟨pattern, member, accepted⟩
    exact ⟨pattern, (List.mem_filter.1 member).1, accepted⟩

end UrlPattern

/-! ## Templates of resources -/

/-- A part of a template. -/
inductive PathPart where
  | literal (text : List Char)
  /-- `/?`. -/
  | optionalSlash
  /-- `(\d+)?`. -/
  | optionalDigits
  deriving Repr, DecidableEq

/-- What can be left of a path behind a part. -/
def PathPart.behind (path : List Char) : PathPart → List (List Char)
  | literal text => if text.isPrefixOf path then [path.drop text.length] else []
  | optionalSlash => if ['/'].isPrefixOf path then [path, path.drop 1] else [path]
  | optionalDigits =>
      (List.range ((path.takeWhile Char.isDigit).length + 1)).map fun count =>
        path.drop count

/-- What can be left of a path behind a template. -/
def pathBehind (path : List Char) : List PathPart → List (List Char)
  | [] => [path]
  | part :: rest => (part.behind path).flatMap fun left => pathBehind left rest

/-- A template accepts a path with or without a slash at its end. -/
def templateAccepts (template : List PathPart) (path : List Char) : Bool :=
  (pathBehind path template).any fun left => left = [] || left = ['/']

section Templates

variable {text path : List Char}

theorem templateAccepts_literal :
    templateAccepts [.literal text] path = true ↔ path = text ∨ path = text ++ ['/'] := by
  by_cases begins : text <+: path
  · obtain ⟨left, rfl⟩ := begins
    simp [templateAccepts, pathBehind, PathPart.behind]
  · have distinct : path ≠ text ∧ path ≠ text ++ ['/'] :=
      ⟨fun same => begins (same ▸ List.prefix_refl _),
        fun same => begins (same ▸ List.prefix_append _ _)⟩
    simp [templateAccepts, pathBehind, PathPart.behind, begins, distinct]

theorem prefix_of_templateAccepts {rest : List PathPart}
    (accepted : templateAccepts (.literal text :: rest) path = true) : text <+: path := by
  by_contra different
  simp [templateAccepts, pathBehind, PathPart.behind, different] at accepted

end Templates

end IotLab.Library
