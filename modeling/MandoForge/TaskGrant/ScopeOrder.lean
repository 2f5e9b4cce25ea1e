/-
Module: MandoForge.TaskGrant.ScopeOrder
Purpose: Containment of JSON scopes is a preorder, so that a grant that was checked
  against its parent only is bounded by every grant above it.
Trusted boundary: none
Main exports: JsonValue, json_scope_contains_preorder
-/
import MandoForge.TaskGrant.Authority
import MandoForge.TaskGrant.HandoffFit
import Mathlib.Logic.Relation

namespace MandoForge

/-- A JSON value as the library holds it: no object has a key twice. -/
abbrev JsonValue := { value : Json // value.keysDistinct = true }

/-! ### Transitivity -/

theorem scopeItemCovers_trans {upper middle lower : Json}
    (first : scopeItemCovers middle upper = true) (second : scopeItemCovers lower middle = true) :
    scopeItemCovers lower upper = true := by
  simp only [scopeItemCovers, Bool.or_eq_true, decide_eq_true_eq, Bool.and_eq_true] at *
  rcases second with rfl | ⟨wildcard, isString⟩
  · exact first
  · rcases first with rfl | ⟨upperWildcard, -⟩
    · exact .inr ⟨wildcard, isString⟩
    · exact .inr ⟨upperWildcard, isString⟩

mutual

/-- The recursion is on the innermost scope. -/
theorem jsonScopeContains_trans {upper middle : Json} : (lower : Json) →
    jsonScopeContains upper middle = true → jsonScopeContains middle lower = true →
    jsonScopeContains upper lower = true
  | .null, _, _ => by rw [jsonScopeContains]
  | .bool flag, first, second => by
      cases middle with
      | bool middleFlag =>
          cases upper with
          | bool upperFlag =>
              revert first second
              cases upperFlag <;> cases middleFlag <;> cases flag <;> decide
          | _ => simp [jsonScopeContains] at first
      | _ => simp [jsonScopeContains] at second
  | .number number, first, second => by
      simp only [jsonScopeContains, decide_eq_true_eq] at second
      rwa [second] at first
  | .string text, first, second => by
      simp only [jsonScopeContains, decide_eq_true_eq] at second
      rwa [second] at first
  | .array items, first, second => by
      obtain ⟨middleItems, isMiddle, middleCovers⟩ := asArray_contained second rfl
      obtain ⟨upperItems, isUpper, upperCovers⟩ := asArray_contained first isMiddle
      cases upper with
      | array upperElements =>
          obtain rfl := Option.some.inj isUpper
          simp only [jsonScopeContains, List.all_eq_true, List.any_eq_true]
          intro item member
          obtain ⟨middleItem, inMiddle, covers⟩ := middleCovers item member
          obtain ⟨upperItem, inUpper, above⟩ := upperCovers middleItem inMiddle
          exact ⟨upperItem, inUpper, scopeItemCovers_trans above covers⟩
      | _ => cases isUpper
  | .object fields, first, second => by
      cases middle with
      | object middleFields =>
          cases upper with
          | object upperFields =>
              simp only [jsonScopeContains] at *
              exact scopeFieldsContained_trans fields first second
          | _ => simp [jsonScopeContains] at first
      | _ => simp [jsonScopeContains] at second

theorem scopeFieldsContained_trans {upper middle : List (String × Json)} :
    (lower : List (String × Json)) → scopeFieldsContained upper middle = true →
    scopeFieldsContained middle lower = true → scopeFieldsContained upper lower = true
  | [], _, _ => by rw [scopeFieldsContained]
  | (key, value) :: rest, first, second => by
      simp only [scopeFieldsContained, Bool.and_eq_true] at second ⊢
      obtain ⟨within, restWithin⟩ := second
      refine ⟨?_, scopeFieldsContained_trans rest first restWithin⟩
      cases isMiddle : Json.getField key middle with
      | none => rw [isMiddle] at within; cases within
      | some middleValue =>
          rw [isMiddle] at within
          obtain ⟨upperValue, isUpper, contained⟩ := getField_contained first isMiddle
          rw [isUpper]
          exact jsonScopeContains_trans value contained within

end

/-! ### Lineages -/

theorem ScopesContained.trans {upper middle lower : TaskGrant}
    (first : ScopesContained upper middle) (second : ScopesContained middle lower) :
    ScopesContained upper lower where
  semantic := jsonScopeContains_trans _ first.semantic second.semantic
  memory := jsonScopeContains_trans _ first.memory second.memory
  tool := jsonScopeContains_trans _ first.tool second.tool
  connector := jsonScopeContains_trans _ first.connector second.connector
  approval := jsonScopeContains_trans _ first.approval second.approval
  effects := jsonScopeContains_trans _ first.effects second.effects

/-- The grant was accepted under its parent. -/
def AcceptedChild (parent child : TaskGrant) : Prop :=
  ensureChildTaskGrantWithinParent parent child = .ok ()

/-- Containment is reflexive and transitive, and a grant whose ancestors were each
accepted under the next one above is within all of them. -/
theorem json_scope_contains_preorder :
    (∀ a : JsonValue, jsonScopeContains a.val a.val = true) ∧
    (∀ a b c : JsonValue, jsonScopeContains a.val b.val = true →
      jsonScopeContains b.val c.val = true → jsonScopeContains a.val c.val = true) ∧
    ∀ ancestor grant : TaskGrant, Relation.TransGen AcceptedChild ancestor grant →
      ScopesContained ancestor grant := by
  refine ⟨fun a => jsonScopeContains_self a.val a.property,
    fun a b c first second => jsonScopeContains_trans c.val first second,
    fun ancestor grant descends => ?_⟩
  induction descends with
  | single accepted => exact scopesContained_of_accepted accepted
  | tail _ accepted inductionHypothesis =>
      exact inductionHypothesis.trans (scopesContained_of_accepted accepted)

/-- A grant, its child and its grandchild, each with fewer tools. -/
def toolGrant (tools : List String) : TaskGrant :=
  { crmGrant emptyJsonObject with toolScope := .object [("tools", .ofStrings tools)] }

theorem grandchild_within_wildcard :
    ScopesContained (toolGrant ["*"]) (toolGrant ["crm.read"]) :=
  json_scope_contains_preorder.2.2 (toolGrant ["*"]) (toolGrant ["crm.read"])
    (.tail (.single (show AcceptedChild _ (toolGrant ["crm.read", "crm.write"]) from rfl)) rfl)

end MandoForge
