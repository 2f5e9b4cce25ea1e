/-
Module: MandoForge.TaskGrant.Handoff
Purpose: The scopes of a grant that hands a step to another agent: the parent's
  scopes cut down to what the agent's version may use.
Trusted boundary: the tools of a version are a set, listed here in their order of
  first occurrence.
Main exports: childHandoffMemoryScope, childConnectorScopesForAgentVersion
-/
import MandoForge.Foundation.Outcome
import MandoForge.TaskGrant.Scope
import Mathlib.Data.List.Dedup
import Mathlib.Data.List.Sort

namespace MandoForge

open Foundation

/-- Set a field of an object; any other value stays. -/
def Json.setField (value : Json) (key : String) (field : Json) : Json :=
  match value with
  | .object fields => .object (Json.insertField key field fields)
  | other => other

def childHandoffMemoryScope (parent : Json) : Json :=
  if (parent.get "writeback_allowed").isSome then
    parent.setField "writeback_allowed" (.bool false)
  else parent

def childToolScopeForTools (parent : Json) (tools : List String) : Json :=
  let agentTools := tools.dedup
  let kept := fun key =>
    match (parent.get key).bind Json.asArray with
    | none => []
    | some items => (items.filterMap Json.asStr).flatMap fun tool =>
        if tool = "*" then agentTools
        else if tool ∈ agentTools then [tool]
        else []
  .ofFields (["read", "write", "external_write"].map fun key => (key, .ofStrings (kept key)))

def denyChildNativeConnectorScope (parentConnectorScope parentExternalEffects : Json) :
    Json × Json :=
  let emptied := (((parentConnectorScope.setField "allowed_connector_ids" (.array [])).setField
    "allowed_tool_names" (.array [])).setField "side_effect_classes" (.array []))
  let connectorScope :=
    if (parentConnectorScope.get "native_operation_bindings").isSome then
      emptied.setField "native_operation_bindings" (.array [])
    else emptied
  let externalEffects := match parentExternalEffects with
    | .object effects => .object (effects.map fun (key, _) => (key, .bool false))
    | _ => emptyJsonObject
  (connectorScope, externalEffects)

def nativeOperationBindings (scope : Json) : Except AppError (Option (List Json)) :=
  match scope.get "native_operation_bindings" with
  | none => .ok none
  | some bindings =>
      match bindings.asArray with
      | some items => .ok (some items)
      | none => .error (.badRequest
          "connector_scope native_operation_bindings must be an array")

def nativeOperationBindingWithinScope (binding scope : Json) : Bool :=
  [("connector_id", "allowed_connector_ids"), ("operation", "allowed_tool_names"),
    ("side_effect_class", "side_effect_classes")].all fun (field, names) =>
      ((binding.get field).bind Json.asStr).any (jsonStringArrayContains (scope.get names))

def intersectExternalEffects (parent agent : Json) (allowedSideEffects : List String) :
    Except AppError Json :=
  match parent with
  | .object effects =>
      .ok (.object (effects.map fun (key, value) =>
        (key, .bool (decide (value.asBool = some true) &&
          decide (key ∈ allowedSideEffects) &&
          decide ((agent.get key).bind Json.asBool = some true)))))
  | _ => .error (.badRequest "parent external_effects must be an object")

/-- The values of a field of the bindings, as an ordered set. -/
def bindingNames (bindings : List Json) (field : String) : List String :=
  ((bindings.filterMap fun binding => (binding.get field).bind Json.asStr).dedup).mergeSort
    fun first second => decide (first ≤ second)

/-- The bindings of the agent that the parent has too and that lie in both
scopes. -/
def retainedBindings (parentConnectorScope agentConnectorScope : Json) :
    Except AppError (Option (List Json) × List Json) := do
  let parentBindings ← nativeOperationBindings parentConnectorScope
  let agentBindings ← nativeOperationBindings agentConnectorScope
  let retained := match parentBindings, agentBindings with
    | some parent, some agent => agent.filter fun binding =>
        decide (binding ∈ parent) &&
          nativeOperationBindingWithinScope binding parentConnectorScope &&
          nativeOperationBindingWithinScope binding agentConnectorScope
    | _, _ => []
  return (parentBindings, retained)

/-- The agent's tenant scope replaces the parent's when it is narrower. -/
def narrowTenantScope (parentConnectorScope agentConnectorScope childScope : Json) : Json :=
  match parentConnectorScope.get "tenant_scope", agentConnectorScope.get "tenant_scope" with
  | some parentTenantScope, some (.object (field :: fields)) =>
      if jsonScopeContains parentTenantScope (.object (field :: fields)) then
        childScope.setField "tenant_scope" (.object (field :: fields))
      else childScope
  | _, _ => childScope

def childConnectorScopesForAgentVersion (parentConnectorScope parentExternalEffects : Json)
    (agentVersion : AgentVersion) : Except AppError (Json × Json) := do
  if "native.connector.call" ∉ agentVersion.tools then
    return (parentConnectorScope, parentExternalEffects)
  match agentVersion.approvalPolicy.get "connector_scope" with
  | none => return denyChildNativeConnectorScope parentConnectorScope parentExternalEffects
  | some agentConnectorScope =>
      if !agentConnectorScope.isObject then
        throw (.badRequest "agent version connector_scope policy must be an object")
      if (agentConnectorScope.get "mode").bind Json.asStr ≠ some "commit_write" then
        return denyChildNativeConnectorScope parentConnectorScope parentExternalEffects
      let agentExternalEffects :=
        (agentVersion.approvalPolicy.get "external_effects").getD .null
      if agentExternalEffects ≠ .null ∧ !agentExternalEffects.isObject then
        throw (.badRequest "agent version external_effects policy must be an object")
      if !parentConnectorScope.isObject then
        throw (.badRequest "parent task grant connector_scope must be an object")
      let (parentBindings, retained) ←
        retainedBindings parentConnectorScope agentConnectorScope
      let sideEffectClasses := bindingNames retained "side_effect_class"
      let narrowed := ((parentConnectorScope.setField "allowed_connector_ids"
        (.ofStrings (bindingNames retained "connector_id"))).setField "allowed_tool_names"
        (.ofStrings (bindingNames retained "operation"))).setField "side_effect_classes"
        (.ofStrings sideEffectClasses)
      let bound := if parentBindings.isSome then
          narrowed.setField "native_operation_bindings" (.array retained)
        else narrowed
      let childConnectorScope :=
        narrowTenantScope parentConnectorScope agentConnectorScope bound
      let childExternalEffects ←
        intersectExternalEffects parentExternalEffects agentExternalEffects sideEffectClasses
      return (childConnectorScope, childExternalEffects)

end MandoForge
