/-
Module: MandoForge.Foundation.PairedTables
Purpose: Two tables whose rows are paired one by one: what is found in the one is paired
  with what is found in the other, and a paired change keeps the pairing.
Trusted boundary: none
Main exports: find?_paired, filter_paired
-/
import MandoForge.Foundation.Table
import Mathlib.Data.List.Forall2
import Mathlib.Data.Option.Basic

namespace MandoForge.Foundation

section lists

variable {Row Other Value : Type} {paired : Row → Other → Prop} {rows : List Row}
  {others : List Other} {test : Row → Bool} {otherTest : Other → Bool}

theorem find?_paired (pairs : List.Forall₂ paired rows others)
    (same : ∀ row other, paired row other → test row = otherTest other) :
    Option.Rel paired (rows.find? test) (others.find? otherTest) := by
  induction pairs with
  | nil => exact .none
  | cons first _ inductionHypothesis =>
      rw [List.find?_cons, List.find?_cons, same _ _ first]
      split
      · exact .some first
      · exact inductionHypothesis

theorem any_paired (pairs : List.Forall₂ paired rows others)
    (same : ∀ row other, paired row other → test row = otherTest other) :
    rows.any test = others.any otherTest := by
  induction pairs with
  | nil => rfl
  | cons first _ inductionHypothesis =>
      rw [List.any_cons, List.any_cons, same _ _ first, inductionHypothesis]

theorem filter_paired (pairs : List.Forall₂ paired rows others)
    (same : ∀ row other, paired row other → test row = otherTest other) :
    List.Forall₂ paired (rows.filter test) (others.filter otherTest) := by
  induction pairs with
  | nil => exact .nil
  | cons first _ inductionHypothesis =>
      rw [List.filter_cons, List.filter_cons, same _ _ first]
      split
      · exact .cons first inductionHypothesis
      · exact inductionHypothesis

theorem map_paired {column : Row → Value} {otherColumn : Other → Value}
    (pairs : List.Forall₂ paired rows others)
    (same : ∀ row other, paired row other → column row = otherColumn other) :
    rows.map column = others.map otherColumn := by
  induction pairs with
  | nil => rfl
  | cons first _ inductionHypothesis =>
      rw [List.map_cons, List.map_cons, same _ _ first, inductionHypothesis]

theorem filterMap_paired {column : Row → Option Value} {otherColumn : Other → Option Value}
    (pairs : List.Forall₂ paired rows others)
    (same : ∀ row other, paired row other → column row = otherColumn other) :
    rows.filterMap column = others.filterMap otherColumn := by
  induction pairs with
  | nil => rfl
  | cons first _ inductionHypothesis =>
      rw [List.filterMap_cons, List.filterMap_cons, same _ _ first, inductionHypothesis]

theorem forall₂_map {change : Row → Row} {otherChange : Other → Other}
    (pairs : List.Forall₂ paired rows others)
    (changed : ∀ row ∈ rows, ∀ other ∈ others, paired row other →
      paired (change row) (otherChange other)) :
    List.Forall₂ paired (rows.map change) (others.map otherChange) := by
  induction pairs with
  | nil => exact .nil
  | cons first _ inductionHypothesis =>
      rw [List.map_cons, List.map_cons]
      refine .cons (changed _ List.mem_cons_self _ List.mem_cons_self first) ?_
      apply inductionHypothesis
      intro row member other otherMember isPair
      exact changed row (List.mem_cons_of_mem _ member) other
        (List.mem_cons_of_mem _ otherMember) isPair

end lists

namespace Table

theorem any_key_eq {Row Key : Type} [DecidableEq Key] {key : Row → Key} (table : Table key)
    (wanted : Key) (test : Row → Bool) :
    (table.rows.any fun row => decide (key row = wanted) && test row) =
      (table.find? wanted).any test := by
  rw [Bool.eq_iff_iff, List.any_eq_true, Option.any_eq_true]
  simp only [Bool.and_eq_true, decide_eq_true_eq, find?_eq_some, mem_iff]
  constructor
  · rintro ⟨row, member, isWanted, passes⟩
    exact ⟨row, ⟨member, isWanted⟩, passes⟩
  · rintro ⟨row, ⟨member, isWanted⟩, passes⟩
    exact ⟨row, member, isWanted, passes⟩

variable {Row Other Key : Type} [DecidableEq Key] {key : Row → Key} {otherKey : Other → Key}
  {table : Table key} {others : Table otherKey} {paired : Row → Other → Prop} {wanted : Key}

theorem paired_find? (pairs : List.Forall₂ paired table.rows others.rows)
    (sameKey : ∀ row other, paired row other → key row = otherKey other) (wanted : Key) :
    Option.Rel paired (table.find? wanted) (others.find? wanted) := by
  unfold find?
  apply find?_paired pairs
  intro row other isPair
  rw [sameKey row other isPair]

theorem paired_modify {row : Row} {other : Other} {change : Row → Row}
    {otherChange : Other → Other} (keeps : ∀ row, key (change row) = key row)
    (otherKeeps : ∀ other, otherKey (otherChange other) = otherKey other)
    (pairs : List.Forall₂ paired table.rows others.rows)
    (sameKey : ∀ row other, paired row other → key row = otherKey other)
    (found : table.find? wanted = some row) (otherFound : others.find? wanted = some other)
    (changed : paired (change row) (otherChange other)) :
    List.Forall₂ paired (table.modify wanted change keeps).rows
      (others.modify wanted otherChange otherKeeps).rows := by
  rw [rows_modify, rows_modify]
  apply forall₂_map pairs
  intro next member otherNext otherMember isPair
  rw [← sameKey next otherNext isPair]
  split
  · rename_i isWanted
    obtain ⟨rowMember, rowKey⟩ := find?_eq_some.mp found
    obtain ⟨othersMember, otherRowKey⟩ := find?_eq_some.mp otherFound
    have sameRow : next = row := eq_of_key_eq member rowMember (isWanted.trans rowKey.symm)
    have sameOther : otherNext = other := by
      apply eq_of_key_eq otherMember othersMember
      rw [← sameKey next otherNext isPair, isWanted, otherRowKey]
    rw [sameRow, sameOther]
    exact changed
  · exact isPair

theorem paired_insert {row : Row} {other : Other}
    (pairs : List.Forall₂ paired table.rows others.rows)
    (sameKey : ∀ row other, paired row other → key row = otherKey other)
    (fresh : table.find? (key row) = none) (added : paired row other) :
    List.Forall₂ paired (table.insert row).rows (others.insert other).rows := by
  have otherFresh : others.find? (otherKey other) = none := by
    have both := paired_find? pairs sameKey (key row)
    rw [fresh, sameKey row other added] at both
    cases absent : others.find? (otherKey other) with
    | none => rfl
    | some found =>
        rw [absent] at both
        cases both
  rw [rows_insert_of_fresh fresh, rows_insert_of_fresh otherFresh]
  exact List.rel_append pairs (.cons added .nil)

end Table

end MandoForge.Foundation
