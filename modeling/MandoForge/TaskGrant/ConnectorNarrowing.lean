/-
Module: MandoForge.TaskGrant.ConnectorNarrowing
Purpose: Which native connector calls a child grant permits after its connector scope was
  cut down to the policy of the agent's version.  The three lists are made of the bindings
  that both sides have, so no call is gained by mixing them; a call is lost when the parent
  binds no operations, binds this one in another record, or lists the tool instead of the
  operation.
Trusted boundary: none
Main exports: ScopeListsTarget, connector_narrowing_iff
-/
import MandoForge.TaskGrant.Authority
import MandoForge.TaskGrant.HandoffFit

namespace MandoForge

open Foundation

/-! ### What a scope says of a call -/

/-- The three lists of the scope have the parts of the target. -/
structure ScopeListsTarget (scope : Json) (target : NativeConnectorCallTarget) : Prop where
  connectorId : jsonStringArrayContains (scope.get "allowed_connector_ids")
    target.connectorId = true
  operation : jsonStringArrayContains (scope.get "allowed_tool_names") target.operation = true
  sideEffectClass : jsonStringArrayContains (scope.get "side_effect_classes")
    target.sideEffectClass = true

/-- The binding is one of the scope's, and it names the target. -/
structure ScopeBinds (scope : Json) (target : NativeConnectorCallTarget) (binding : Json) :
    Prop where
  bound : ∃ items, scope.get "native_operation_bindings" = some (.array items) ∧ binding ∈ items
  named : bindingMatches target binding = true

/-- The effects turn the class on. -/
def effectEnabled (effects : Json) (sideEffectClass : String) : Prop :=
  (effects.get sideEffectClass).bind Json.asBool = some true

/-- The policy of the version has the connector scope, in a mode that commits writes, and
the lists and the effects admit the target. -/
structure PolicyPermits (version : AgentVersion) (scope : Json)
    (target : NativeConnectorCallTarget) : Prop where
  policy : version.approvalPolicy.get "connector_scope" = some scope
  mode : (scope.get "mode").bind Json.asStr = some "commit_write"
  lists : ScopeListsTarget scope target
  effect : effectEnabled ((version.approvalPolicy.get "external_effects").getD .null)
    target.sideEffectClass

theorem bindingMatches_iff {target : NativeConnectorCallTarget} {binding : Json} :
    bindingMatches target binding = true ↔
      (binding.get "connector_id").bind Json.asStr = some target.connectorId ∧
        (binding.get "operation").bind Json.asStr = some target.operation ∧
        (binding.get "side_effect_class").bind Json.asStr = some target.sideEffectClass := by
  simp only [bindingMatches, Bool.and_eq_true, decide_eq_true_eq, and_assoc]

theorem withinScope_iff {target : NativeConnectorCallTarget} {binding scope : Json}
    (named : bindingMatches target binding = true) :
    nativeOperationBindingWithinScope binding scope = true ↔ ScopeListsTarget scope target := by
  obtain ⟨connectorId, operation, sideEffectClass⟩ := bindingMatches_iff.mp named
  simp only [nativeOperationBindingWithinScope, List.all_cons, List.all_nil, Bool.and_true,
    connectorId, operation, sideEffectClass, Option.any_some, Bool.and_eq_true]
  exact ⟨fun ⟨ids, names, classes⟩ => ⟨ids, names, classes⟩,
    fun lists => ⟨lists.connectorId, lists.operation, lists.sideEffectClass⟩⟩

theorem contains_ofStrings {names : List String} {name : String} :
    jsonStringArrayContains (some (.ofStrings names)) name = true ↔
      ∃ listed ∈ names, listed = "*" ∨ listed = name := by
  simp [jsonStringArrayContains, Json.ofStrings, Json.asArray, Json.asStr]

/-! ### The retained bindings -/

theorem nativeOperationBindings_eq_ok {scope : Json} {bindings : Option (List Json)} :
    nativeOperationBindings scope = .ok bindings ↔
      scope.get "native_operation_bindings" = bindings.map .array := by
  unfold nativeOperationBindings
  cases scope.get "native_operation_bindings" with
  | none => cases bindings <;> simp
  | some value =>
      cases value with
      | array items => cases bindings <;> simp [Json.asArray]
      | null | bool | number | string | object => cases bindings <;> simp [Json.asArray]

/-- A binding is retained when both scopes have it and list what it names. -/
theorem mem_retained_iff {parentScope agentScope : Json} {parentBindings : Option (List Json)}
    {retained : List Json}
    (kept : retainedBindings parentScope agentScope = .ok (parentBindings, retained))
    {target : NativeConnectorCallTarget} {binding : Json}
    (named : bindingMatches target binding = true) :
    binding ∈ retained ↔
      ScopeBinds parentScope target binding ∧ ScopeBinds agentScope target binding ∧
        ScopeListsTarget parentScope target ∧ ScopeListsTarget agentScope target := by
  obtain ⟨ofParent, isParent, kept⟩ := bind_eq_ok.mp kept
  obtain ⟨ofAgent, isAgent, kept⟩ := bind_eq_ok.mp kept
  rw [nativeOperationBindings_eq_ok] at isParent isAgent
  have bound {scope : Json} {items : Option (List Json)}
      (isItems : scope.get "native_operation_bindings" = items.map .array) :
      ScopeBinds scope target binding ↔ ∃ list, items = some list ∧ binding ∈ list := by
    constructor
    · rintro ⟨⟨list, isList, member⟩, -⟩
      cases items with
      | none => cases isItems.symm.trans isList
      | some other =>
          cases isItems.symm.trans isList
          exact ⟨list, rfl, member⟩
    · rintro ⟨list, rfl, member⟩
      exact ⟨⟨list, isItems, member⟩, named⟩
  cases kept
  rw [bound isParent, bound isAgent]
  cases parentBindings with
  | none => simp
  | some parentItems =>
      cases ofAgent with
      | none => simp
      | some agentItems =>
          simp only [List.mem_filter, Bool.and_eq_true, decide_eq_true_eq, withinScope_iff named,
            Option.some.injEq, exists_eq_left']
          exact ⟨fun ⟨ofAgent, ⟨ofParent, parentLists⟩, agentLists⟩ =>
              ⟨ofParent, ofAgent, parentLists, agentLists⟩,
            fun ⟨ofParent, ofAgent, parentLists, agentLists⟩ =>
              ⟨ofAgent, ⟨ofParent, parentLists⟩, agentLists⟩⟩

theorem retained_of_unbound {parentScope agentScope : Json} {retained : List Json}
    (kept : retainedBindings parentScope agentScope = .ok (none, retained)) : retained = [] := by
  obtain ⟨ofParent, -, kept⟩ := bind_eq_ok.mp kept
  obtain ⟨ofAgent, -, kept⟩ := bind_eq_ok.mp kept
  cases kept
  rfl

/-! ### The child's scope -/

theorem get_setField {value field : Json} (isObject : value.isObject = true) (key wanted : String) :
    (value.setField key field).get wanted = if key = wanted then some field else value.get wanted := by
  cases value with
  | object fields => exact Json.getField_insertField key wanted field fields
  | null | bool | number | string | array => cases isObject

theorem get_narrowTenantScope {parentScope agentScope childScope : Json} {key : String}
    (isObject : childScope.isObject = true) (other : "tenant_scope" ≠ key) :
    (narrowTenantScope parentScope agentScope childScope).get key = childScope.get key := by
  unfold narrowTenantScope
  split
  · split
    · rw [get_setField isObject, if_neg other]
    · rfl
  · rfl

/-- What the narrowed scope has under the keys that a native call is checked with. -/
structure NarrowedTo (parentScope childScope : Json) (parentBindings : Option (List Json))
    (retained : List Json) : Prop where
  mode : childScope.get "mode" = parentScope.get "mode"
  connectorIds : childScope.get "allowed_connector_ids" =
    some (.ofStrings (bindingNames retained "connector_id"))
  operations : childScope.get "allowed_tool_names" =
    some (.ofStrings (bindingNames retained "operation"))
  sideEffectClasses : childScope.get "side_effect_classes" =
    some (.ofStrings (bindingNames retained "side_effect_class"))
  bindings : childScope.get "native_operation_bindings" =
    parentBindings.map fun _ => .array retained

theorem narrowedTo {parentScope agentScope : Json} {parentBindings : Option (List Json)}
    {retained : List Json} (isObject : parentScope.isObject = true)
    (isParent : parentScope.get "native_operation_bindings" = parentBindings.map .array) :
    NarrowedTo parentScope (narrowTenantScope parentScope agentScope
      (let narrowed := ((parentScope.setField "allowed_connector_ids"
          (.ofStrings (bindingNames retained "connector_id"))).setField
          "allowed_tool_names" (.ofStrings (bindingNames retained "operation"))).setField
          "side_effect_classes" (.ofStrings (bindingNames retained "side_effect_class"))
        if parentBindings.isSome then
          narrowed.setField "native_operation_bindings" (.array retained)
        else narrowed)) parentBindings retained := by
  dsimp only
  cases parentBindings with
  | none =>
      constructor <;> rw [get_narrowTenantScope (by simp [isObject]) (by decide)] <;>
        simp [get_setField, isObject, isParent]
  | some items =>
      constructor <;> rw [get_narrowTenantScope (by simp [isObject]) (by decide)] <;>
        simp [get_setField, isObject]

/-- The child permits a call that a retained binding names, and no other. -/
theorem NarrowedTo.permits_iff {parent child : TaskGrant} {parentBindings : Option (List Json)}
    {retained : List Json}
    (narrowed : NarrowedTo parent.connectorScope child.connectorScope parentBindings retained)
    (within : parentBindings = none → retained = []) {toolName : String}
    {target : NativeConnectorCallTarget} :
    nativeTargetDenial child toolName target = .ok none ↔
      connectorMode parent.connectorScope = "commit_write" ∧
        (∃ binding ∈ retained, bindingMatches target binding = true) ∧
        effectEnabled child.externalEffects target.sideEffectClass := by
  have sameMode : connectorMode child.connectorScope = connectorMode parent.connectorScope := by
    rw [connectorMode, connectorMode, narrowed.mode]
  have listed {field name : String} {binding : Json} (member : binding ∈ retained)
      (isName : (binding.get field).bind Json.asStr = some name) :
      jsonStringArrayContains (some (.ofStrings (bindingNames retained field))) name = true :=
    contains_ofStrings.mpr ⟨name, mem_bindingNames.mpr ⟨binding, member, isName⟩, .inr rfl⟩
  rw [nativeTargetDenial_eq_ok_none]
  constructor
  · rintro ⟨lists, bound⟩
    refine ⟨sameMode ▸ lists.mode, ?_, ?_⟩
    · cases parentBindings with
      | none =>
          have inIds := lists.connectorId
          rw [narrowed.connectorIds, within rfl] at inIds
          obtain ⟨name, member, -⟩ := contains_ofStrings.mp inIds
          obtain ⟨binding, absent, -⟩ := mem_bindingNames.mp member
          cases absent
      | some items =>
          rw [narrowed.bindings] at bound
          rcases bound with absent | ⟨bindings, list, isBindings, isList, named⟩
          · cases absent
          · rw [narrowed.bindings] at isBindings
            cases isBindings
            cases isList
            exact List.any_eq_true.mp named
    · have enabled := lists.sideEffectClass
      simp only [taskGrantAllowsSideEffectClass, Bool.and_eq_true, decide_eq_true_eq] at enabled
      exact enabled.2
  · rintro ⟨mode, ⟨binding, member, named⟩, enabled⟩
    obtain ⟨isConnector, isOperation, isClass⟩ := bindingMatches_iff.mp named
    refine ⟨⟨sameMode.trans mode, ?_, .inl ?_, ?_⟩, .inr ?_⟩
    · rw [narrowed.connectorIds]
      exact listed member isConnector
    · rw [narrowed.operations]
      exact listed member isOperation
    · simp only [taskGrantAllowsSideEffectClass, Bool.and_eq_true, decide_eq_true_eq]
      rw [narrowed.sideEffectClasses]
      exact ⟨listed member isClass, enabled⟩
    · cases parentBindings with
      | none =>
          rw [within rfl] at member
          cases member
      | some items =>
          exact ⟨.array retained, retained, narrowed.bindings, rfl,
            List.any_eq_true.mpr ⟨binding, member, named⟩⟩

theorem get_object_map (fields : List (String × Json)) (change : String → Json → Json)
    (key : String) :
    (Json.object (fields.map fun (name, value) => (name, change name value))).get key =
      ((Json.object fields).get key).map (change key) := by
  unfold Json.get
  dsimp only
  induction fields with
  | nil => rfl
  | cons field rest inductionHypothesis =>
      obtain ⟨name, value⟩ := field
      rw [List.map_cons, Json.getField, Json.getField]
      split
      · next same => rw [Option.map_some, same]
      · exact inductionHypothesis

/-- An effect stays on when both sides turn it on and a retained binding has its class. -/
theorem intersectExternalEffects_enabled_iff {parent agent effects : Json} {classes : List String}
    (intersected : intersectExternalEffects parent agent classes = .ok effects)
    {sideEffectClass : String} :
    effectEnabled effects sideEffectClass ↔ effectEnabled parent sideEffectClass ∧
      sideEffectClass ∈ classes ∧ effectEnabled agent sideEffectClass := by
  cases parent with
  | object fields =>
      cases intersected
      unfold effectEnabled
      rw [get_object_map fields fun key value => .bool (decide (value.asBool = some true) &&
        decide (key ∈ classes) && decide ((agent.get key).bind Json.asBool = some true))]
      cases (Json.object fields).get sideEffectClass with
      | none => simp
      | some value =>
          have flag (value : Bool) : (Json.bool value).asBool = some value := rfl
          simp [flag, and_assoc]
  | null | bool | number | string | array => cases intersected

/-- A denied scope permits no native call. -/
theorem denied_permits_nothing {parent child : TaskGrant}
    (denied : (child.connectorScope, child.externalEffects) =
      denyChildNativeConnectorScope parent.connectorScope parent.externalEffects)
    {toolName : String} {target : NativeConnectorCallTarget} :
    nativeTargetDenial child toolName target ≠ .ok none := by
  intro permitted
  have lists := (nativeTargetDenial_eq_ok_none.mp permitted).1
  have isScope := congrArg Prod.fst denied
  unfold denyChildNativeConnectorScope at isScope
  dsimp only at isScope
  cases isObject : parent.connectorScope.isObject with
  | true =>
      have emptied : child.connectorScope.get "allowed_connector_ids" = some (.array []) := by
        rw [isScope]
        split <;> simp [get_setField, isObject]
      have inIds := lists.connectorId
      rw [emptied] at inIds
      cases inIds
  | false =>
      have noMode : connectorMode child.connectorScope = "" := by
        rw [isScope]
        cases isParent : parent.connectorScope with
        | object fields =>
            rw [isParent] at isObject
            cases isObject
        | null | bool | number | string | array => rfl
      exact absurd (noMode.symm.trans lists.mode) (by decide)

/-! ### The calls that the child permits -/

section narrowing

variable {parent child : TaskGrant} {version : AgentVersion} {toolName : String}
  {target : NativeConnectorCallTarget}

/-- What the parent, the version and their shared bindings have to say for a call of the
child. -/
theorem child_permits_iff (native : "native.connector.call" ∈ version.tools)
    (narrowed : childConnectorScopesForAgentVersion parent.connectorScope parent.externalEffects
      version = .ok (child.connectorScope, child.externalEffects)) :
    nativeTargetDenial child toolName target = .ok none ↔
      nativeTargetDenial parent toolName target = .ok none ∧
        jsonStringArrayContains (parent.connectorScope.get "allowed_tool_names")
          target.operation = true ∧
        ∃ scope binding, PolicyPermits version scope target ∧
          ScopeBinds parent.connectorScope target binding ∧ ScopeBinds scope target binding := by
  rcases childConnectorScopes_cases narrowed with ⟨notNative, -⟩ | ⟨-, denied, notCommitted⟩ |
    ⟨-, scope, agentEffects, parentBindings, retained, kept, isScope, intersected, policy, mode,
      rfl, isObject⟩
  · exact absurd native notNative
  · refine iff_of_false (denied_permits_nothing denied) ?_
    rintro ⟨-, -, scope, binding, permits, -⟩
    exact notCommitted scope permits.policy permits.mode
  · obtain ⟨isParent, -⟩ := retainedBindings_spec kept
    have narrowedScope : NarrowedTo parent.connectorScope child.connectorScope parentBindings
        retained := isScope ▸ narrowedTo isObject isParent
    have within : parentBindings = none → retained = [] := by
      rintro rfl
      exact retained_of_unbound kept
    rw [narrowedScope.permits_iff within, intersectExternalEffects_enabled_iff intersected]
    constructor
    · rintro ⟨parentMode, ⟨binding, member, named⟩, parentEffect, -, agentEffect⟩
      obtain ⟨parentBinds, agentBinds, parentLists, agentLists⟩ :=
        (mem_retained_iff kept named).mp member
      obtain ⟨items, isItems, isItem⟩ := parentBinds.bound
      refine ⟨nativeTargetDenial_eq_ok_none.mpr ⟨⟨parentMode, parentLists.connectorId,
        .inl parentLists.operation, ?_⟩, .inr ?_⟩, parentLists.operation, scope, binding,
        ⟨policy, mode, agentLists, agentEffect⟩, parentBinds, agentBinds⟩
      · simp only [taskGrantAllowsSideEffectClass, Bool.and_eq_true, decide_eq_true_eq]
        exact ⟨parentLists.sideEffectClass, parentEffect⟩
      · exact ⟨.array items, items, isItems, rfl, List.any_eq_true.mpr ⟨binding, isItem, named⟩⟩
    · rintro ⟨permitted, operation, other, binding, permits, parentBinds, agentBinds⟩
      obtain rfl := Option.some.inj (policy.symm.trans permits.policy)
      obtain ⟨admitted, -⟩ := nativeTargetDenial_eq_ok_none.mp permitted
      have classes := admitted.sideEffectClass
      simp only [taskGrantAllowsSideEffectClass, Bool.and_eq_true, decide_eq_true_eq] at classes
      have member : binding ∈ retained := (mem_retained_iff kept parentBinds.named).mpr
        ⟨parentBinds, agentBinds, ⟨admitted.connectorId, operation, classes.1⟩, permits.lists⟩
      obtain ⟨-, -, isClass⟩ := bindingMatches_iff.mp parentBinds.named
      exact ⟨admitted.mode, ⟨binding, member, parentBinds.named⟩, classes.2,
        mem_bindingNames.mpr ⟨binding, member, isClass⟩, permits.effect⟩

theorem invocationDenial_eq {grant : TaskGrant} {args : Json} (notMcp : toolName ≠ "mcp.call")
    (requested : nativeConnectorInvocationRequested toolName args = true)
    (called : nativeConnectorCallTarget args = .ok target) :
    taskGrantConnectorInvocationDenial grant toolName args =
      nativeTargetDenial grant toolName target := by
  rw [taskGrantConnectorInvocationDenial, if_neg notMcp, requested, called]
  rfl

end narrowing

/-- The child of a version that may call connectors permits a native call exactly when the
parent permits it and lists its operation, the policy of the version permits it, and one and
the same binding of both names it. -/
theorem connector_narrowing_iff {parent child : TaskGrant} {version : AgentVersion}
    (native : "native.connector.call" ∈ version.tools)
    (narrowed : childConnectorScopesForAgentVersion parent.connectorScope parent.externalEffects
      version = .ok (child.connectorScope, child.externalEffects))
    {toolName : String} {args : Json} {target : NativeConnectorCallTarget}
    (notMcp : toolName ≠ "mcp.call")
    (requested : nativeConnectorInvocationRequested toolName args = true)
    (called : nativeConnectorCallTarget args = .ok target) :
    taskGrantConnectorInvocationDenial child toolName args = .ok none ↔
      taskGrantConnectorInvocationDenial parent toolName args = .ok none ∧
        jsonStringArrayContains (parent.connectorScope.get "allowed_tool_names")
          target.operation = true ∧
        ∃ scope binding, PolicyPermits version scope target ∧
          ScopeBinds parent.connectorScope target binding ∧ ScopeBinds scope target binding := by
  rw [invocationDenial_eq notMcp requested called, invocationDenial_eq notMcp requested called]
  exact child_permits_iff native narrowed

/-! ### Calls that are lost -/

namespace TicketUpdate

def binding (note : List (String × Json)) : Json :=
  .object ([("connector_id", .string "crm")] ++ note ++
    [("operation", .string "update"), ("side_effect_class", .string "crm_write")])

def scope (bindings : List (String × Json)) (toolName : String) : Json :=
  .object ([("allowed_connector_ids", .array [.string "crm"]),
    ("allowed_tool_names", .array [.string toolName]), ("mode", .string "commit_write")] ++
    bindings ++ [("side_effect_classes", .array [.string "crm_write"])])

def bindings (note : List (String × Json)) : List (String × Json) :=
  [("native_operation_bindings", .array [binding note])]

def effects : Json := .object [("crm_write", .bool true)]

/-- A parent that permits the update of a ticket. -/
def parent (bindings : List (String × Json)) (toolName : String) : TaskGrant :=
  { defaultTaskGrant with
    connectorScope := scope bindings toolName
    externalEffects := effects }

def version : AgentVersion where
  id := 1
  agentId := 1
  version := 1
  tools := ["native.connector.call"]
  toolNames := []
  approvalPolicy := .object [("connector_scope", scope (bindings []) "update"),
    ("external_effects", effects)]

def args : Json := .object [("connector_id", .string "crm"), ("operation", .string "update"),
  ("side_effect_class", .string "crm_write")]

def target : NativeConnectorCallTarget := ⟨"crm", "update", "crm_write"⟩

/-- Parent and policy permit the call, and a child of the parent does not. -/
def Lost (parent : TaskGrant) : Prop :=
  taskGrantConnectorInvocationDenial parent "native.connector.call" args = .ok none ∧
    PolicyPermits version (scope (bindings []) "update") target ∧
    ScopeBinds (scope (bindings []) "update") target (binding []) ∧
    ∃ connectorScope externalEffects,
      childConnectorScopesForAgentVersion parent.connectorScope parent.externalEffects version =
        .ok (connectorScope, externalEffects) ∧
      taskGrantConnectorInvocationDenial { parent with connectorScope, externalEffects }
        "native.connector.call" args ≠ .ok none

theorem policyPermits : PolicyPermits version (scope (bindings []) "update") target where
  policy := by decide +kernel
  mode := by decide +kernel
  lists := ⟨by decide +kernel, by decide +kernel, by decide +kernel⟩
  effect := by unfold effectEnabled; decide +kernel

theorem scopeBinds : ScopeBinds (scope (bindings []) "update") target (binding []) where
  bound := ⟨[binding []], by decide +kernel, List.mem_singleton_self _⟩
  named := by decide +kernel

/-- The call is lost when the shared binding or the listed operation is missing. -/
theorem lost_of_not_shared {parent : TaskGrant} {connectorScope externalEffects : Json}
    (permitted : taskGrantConnectorInvocationDenial parent "native.connector.call" args =
      .ok none)
    (narrowed : childConnectorScopesForAgentVersion parent.connectorScope parent.externalEffects
      version = .ok (connectorScope, externalEffects))
    (notShared : ¬ (jsonStringArrayContains (parent.connectorScope.get "allowed_tool_names")
        "update" = true ∧ ScopeBinds parent.connectorScope target (binding []))) :
    Lost parent := by
  refine ⟨permitted, policyPermits, scopeBinds, connectorScope, externalEffects, narrowed,
    fun allowed => notShared ?_⟩
  have called : nativeConnectorCallTarget args = .ok target := by decide +kernel
  rw [invocationDenial_eq (by decide) (by decide +kernel) called] at allowed
  obtain ⟨-, operation, other, shared, permits, parentBinds, agentBinds⟩ :=
    (child_permits_iff (by decide) narrowed).mp allowed
  obtain rfl := Option.some.inj (policyPermits.policy.symm.trans permits.policy)
  obtain ⟨items, isItems, member⟩ := agentBinds.bound
  have isList : (scope (bindings []) "update").get "native_operation_bindings" =
      some (.array [binding []]) := by decide +kernel
  cases isList.symm.trans isItems
  obtain rfl := List.mem_singleton.mp member
  exact ⟨operation, parentBinds⟩

end TicketUpdate

open TicketUpdate in
/-- The update of a ticket is lost below a parent that binds no operations, below one whose
binding has a note, and below one that lists the tool instead of the operation. -/
theorem narrowing_loses_calls :
    Lost (parent [] "update") ∧
      Lost (parent (bindings [("note", .string "tickets only")]) "update") ∧
      Lost (parent (bindings []) "native.connector.call") := by
  refine ⟨?unbound, ?annotated, ?toolOnly⟩
  case unbound =>
    refine lost_of_not_shared (by decide +kernel) rfl ?_
    rintro ⟨-, ⟨items, isItems, -⟩, -⟩
    have absent : (parent [] "update").connectorScope.get "native_operation_bindings" = none := by
      decide +kernel
    cases absent.symm.trans isItems
  case annotated =>
    refine lost_of_not_shared (by decide +kernel) rfl ?_
    rintro ⟨-, ⟨items, isItems, member⟩, -⟩
    have isList : (parent (bindings [("note", .string "tickets only")]) "update").connectorScope.get
        "native_operation_bindings" =
          some (.array [binding [("note", .string "tickets only")]]) := by decide +kernel
    cases isList.symm.trans isItems
    exact absurd (List.mem_singleton.mp member) (by decide +kernel)
  case toolOnly =>
    refine lost_of_not_shared (by decide +kernel) rfl ?_
    rintro ⟨listed, -⟩
    exact absurd listed (by decide +kernel)

open TicketUpdate in
/-- Below a parent with the same binding the update is permitted. -/
theorem shared_update_permitted :
    ∃ connectorScope externalEffects,
      childConnectorScopesForAgentVersion (scope (bindings []) "update") effects version =
        .ok (connectorScope, externalEffects) ∧
      taskGrantConnectorInvocationDenial
        { parent (bindings []) "update" with connectorScope, externalEffects }
        "native.connector.call" args = .ok none := by
  refine ⟨_, _, rfl, ?_⟩
  refine (@connector_narrowing_iff (parent (bindings []) "update") _ version (by decide) rfl
    "native.connector.call" args target (by decide) (by decide +kernel) (by decide +kernel)).mpr
    ⟨by decide +kernel, by decide +kernel, _, _, policyPermits, scopeBinds, scopeBinds⟩

end MandoForge
