import Mathlib.Data.List.Basic

/-!
# Histories

A component that writes down what it does leaves a history.  A rule about histories says
what must hold of the entries before an entry for that entry to be right.
-/

namespace IotLab.Library

variable {α : Type*}

/-- Each entry follows a history that allows it. -/
def Justified (allows : List α → α → Prop) (history : List α) : Prop :=
  ∀ before entry after, history = before ++ entry :: after → allows before entry

@[simp] theorem justified_nil (allows : List α → α → Prop) : Justified allows [] := by
  intro before entry after split
  simp at split

/-- One more entry must be allowed by what is there. -/
theorem justified_concat {allows : List α → α → Prop} {history : List α} {last : α} :
    Justified allows (history ++ [last]) ↔ Justified allows history ∧ allows history last := by
  constructor
  · intro all
    refine ⟨fun before entry after split => ?_, all history last [] rfl⟩
    apply all before entry (after ++ [last])
    rw [split, List.append_assoc, List.cons_append]
  · rintro ⟨earlier, allowed⟩ before entry after split
    rcases List.eq_nil_or_concat after with rfl | ⟨init, final, rfl⟩
    · obtain ⟨rfl, same⟩ := List.append_inj' split rfl
      cases same
      exact allowed
    · have parts : history ++ [last] = (before ++ entry :: init) ++ [final] := by
        rw [split, List.append_assoc, List.cons_append, List.concat_eq_append]
      exact earlier before entry init (List.append_inj' parts rfl).1

end IotLab.Library
