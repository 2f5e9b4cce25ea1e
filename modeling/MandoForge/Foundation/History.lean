/-
Module: MandoForge.Foundation.History
Purpose: Histories, newest entry first, and what has to happen between two entries
  of one kind.
Trusted boundary: none
Main exports: Since, Spaced
-/
import Mathlib.Data.List.Basic

namespace MandoForge.Foundation

variable {Entry : Type} {mark : Entry → Prop} {held next : List Entry → Prop}
  {entry : Entry} {history : List Entry}

/-- What came after a mark satisfies the property. -/
def Since (mark : Entry → Prop) (held : List Entry → Prop) (history : List Entry) : Prop :=
  ∀ newer marked older, history = newer ++ marked :: older → mark marked → held newer

/-- What came between two marks satisfies the property. -/
def Spaced (mark : Entry → Prop) (held : List Entry → Prop) (history : List Entry) : Prop :=
  ∀ newer marked older, history = newer ++ marked :: older → mark marked →
    Since mark held older

theorem Spaced.nil : Spaced mark held [] :=
  fun _ _ _ split => absurd split (by simp)

theorem Since.cons (since : Since mark held history) (unmarked : ¬mark entry)
    (extend : ∀ newer, held newer → next (entry :: newer)) :
    Since mark next (entry :: history) := by
  intro newer marked older split isMark
  cases newer with
  | nil =>
      obtain ⟨rfl, -⟩ := List.cons.inj split
      exact absurd isMark unmarked
  | cons first newer =>
      obtain ⟨rfl, rest⟩ := List.cons.inj split
      exact extend newer (since newer marked older rest isMark)

theorem Since.of_unmarked (unmarked : ∀ entry ∈ history, ¬mark entry) :
    Since mark held history := by
  rintro newer marked older rfl isMark
  exact absurd isMark (unmarked marked (by simp))

theorem Spaced.cons_other (spaced : Spaced mark held history) (unmarked : ¬mark entry) :
    Spaced mark held (entry :: history) := by
  intro newer marked older split isMark
  cases newer with
  | nil =>
      obtain ⟨rfl, -⟩ := List.cons.inj split
      exact absurd isMark unmarked
  | cons first newer =>
      exact spaced newer marked older (List.cons.inj split).2 isMark

theorem Spaced.cons_mark (spaced : Spaced mark held history) (since : Since mark held history) :
    Spaced mark held (entry :: history) := by
  intro newer marked older split isMark
  cases newer with
  | nil =>
      obtain ⟨-, rfl⟩ := List.cons.inj split
      exact since
  | cons first newer =>
      exact spaced newer marked older (List.cons.inj split).2 isMark

end MandoForge.Foundation
