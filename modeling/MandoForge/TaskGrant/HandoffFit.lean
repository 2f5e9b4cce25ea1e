/-
Module: MandoForge.TaskGrant.HandoffFit
Purpose: When the grant that the engine makes for a handoff passes the check
  against its parent: the helpers that cut the scopes down insert keys, and the
  check counts a key, or an empty list, that the parent does not have as more
  than the parent grants.
Trusted boundary: the scopes of a grant are values of the JSON library, so no
  object in them has a key twice.
Main exports: HandoffFits, jsonScopeContains_self
-/
import MandoForge.TaskGrant.Handoff

namespace MandoForge

open Foundation

/-! ### Containment and updates -/

mutual

theorem jsonScopeContains_self : (scope : Json) → scope.keysDistinct = true →
    jsonScopeContains scope scope = true
  | .null, _ => rfl
  | .bool flag, _ => by cases flag <;> rfl
  | .number _, _ => by simp [jsonScopeContains]
  | .string _, _ => by simp [jsonScopeContains]
  | .array items, _ => by
      simp only [jsonScopeContains, List.all_eq_true, List.any_eq_true]
      exact fun item member => ⟨item, member, by simp [scopeItemCovers]⟩
  | .object fields, distinct => by
      simp only [Json.keysDistinct, Bool.and_eq_true, decide_eq_true_eq] at distinct
      exact scopeFieldsContained_self fields fields distinct.2
        fun _ member => Json.getField_of_mem distinct.1 member

theorem scopeFieldsContained_self (parentFields : List (String × Json)) :
    (fields : List (String × Json)) → Json.fieldsKeysDistinct fields = true →
      (∀ field ∈ fields, Json.getField field.1 parentFields = some field.2) →
      scopeFieldsContained parentFields fields = true
  | [], _, _ => rfl
  | (key, value) :: rest, distinct, present => by
      simp only [Json.fieldsKeysDistinct, Bool.and_eq_true] at distinct
      have first : Json.getField key parentFields = some value :=
        present (key, value) List.mem_cons_self
      simp only [scopeFieldsContained, first, Bool.and_eq_true]
      exact ⟨jsonScopeContains_self value distinct.1,
        scopeFieldsContained_self parentFields rest distinct.2
          fun field member => present field (List.mem_cons_of_mem _ member)⟩

end

/-- The parent has the key, with a value that contains the child's. -/
def FieldContained (parentFields : List (String × Json)) (field : String × Json) : Prop :=
  ∃ parentValue, Json.getField field.1 parentFields = some parentValue ∧
    jsonScopeContains parentValue field.2 = true

theorem scopeFieldsContained_cons {parentFields rest : List (String × Json)}
    {field : String × Json} :
    scopeFieldsContained parentFields (field :: rest) = true ↔
      FieldContained parentFields field ∧ scopeFieldsContained parentFields rest = true := by
  obtain ⟨key, value⟩ := field
  simp only [scopeFieldsContained, Bool.and_eq_true, FieldContained]
  cases Json.getField key parentFields <;> simp

theorem insertField_contained {parentFields fields : List (String × Json)} {key : String}
    {value : Json} (field : FieldContained parentFields (key, value))
    (contained : scopeFieldsContained parentFields fields = true) :
    scopeFieldsContained parentFields (Json.insertField key value fields) = true := by
  induction fields with
  | nil => exact scopeFieldsContained_cons.mpr ⟨field, rfl⟩
  | cons first rest inductionHypothesis =>
      obtain ⟨name, old⟩ := first
      obtain ⟨head, tail⟩ := scopeFieldsContained_cons.mp contained
      unfold Json.insertField
      split_ifs
      · exact scopeFieldsContained_cons.mpr ⟨field, tail⟩
      · exact scopeFieldsContained_cons.mpr ⟨field, contained⟩
      · exact scopeFieldsContained_cons.mpr ⟨head, inductionHypothesis tail⟩

/-- Updates of contained fields stay contained exactly when each update is. -/
theorem insertFields_contained_iff {parentFields fields updates : List (String × Json)}
    (contained : scopeFieldsContained parentFields fields = true)
    (distinct : (updates.map Prod.fst).Nodup) :
    scopeFieldsContained parentFields (Json.insertFields updates fields) = true ↔
      ∀ update ∈ updates, FieldContained parentFields update := by
  constructor
  · intro updated update member
    exact getField_contained updated (Json.getField_insertFields distinct member)
  · clear distinct
    induction updates generalizing fields with
    | nil => exact fun _ => contained
    | cons update updates inductionHypothesis =>
        intro each
        obtain ⟨first, rest⟩ := List.forall_mem_cons.mp each
        exact inductionHypothesis (insertField_contained first contained) rest

theorem updatedScope_contained_iff {fields updates : List (String × Json)}
    (keysDistinct : (Json.object fields).keysDistinct = true)
    (distinct : (updates.map Prod.fst).Nodup) :
    jsonScopeContains (.object fields) (.object (Json.insertFields updates fields)) = true ↔
      ∀ update ∈ updates, FieldContained fields update :=
  insertFields_contained_iff (jsonScopeContains_self _ keysDistinct) distinct

/-- An object that is changed value by value stays within itself exactly when
each new value is within the old one. -/
theorem mappedScope_contained_iff {fields : List (String × Json)}
    (distinct : (fields.map Prod.fst).Nodup) (change : String → Json → Json) :
    scopeFieldsContained fields (fields.map fun (key, value) => (key, change key value)) =
        true ↔
      ∀ key value, Json.getField key fields = some value →
        jsonScopeContains value (change key value) = true := by
  have mapped : ∀ rest : List (String × Json), (∀ field ∈ rest, field ∈ fields) →
      (scopeFieldsContained fields (rest.map fun (key, value) => (key, change key value)) =
          true ↔
        ∀ field ∈ rest, jsonScopeContains field.2 (change field.1 field.2) = true) := by
    intro rest
    induction rest with
    | nil => simp [scopeFieldsContained]
    | cons field rest inductionHypothesis =>
        intro present
        obtain ⟨key, value⟩ := field
        have found : Json.getField key fields = some value :=
          Json.getField_of_mem distinct (present _ List.mem_cons_self)
        rw [List.map_cons, scopeFieldsContained_cons, List.forall_mem_cons,
          inductionHypothesis fun field member => present field (List.mem_cons_of_mem _ member)]
        simp [FieldContained, found]
  rw [mapped fields fun _ member => member]
  exact ⟨fun each key value found => each (key, value) (Json.mem_of_getField found),
    fun each field member => each field.1 field.2 (Json.getField_of_mem distinct member)⟩

theorem contains_false_iff {value : Json} :
    jsonScopeContains value (.bool false) = true ↔ value.asBool.isSome = true := by
  cases value with
  | bool flag => cases flag <;> simp [jsonScopeContains, Json.asBool]
  | _ => simp [jsonScopeContains, Json.asBool]

/-! ### The memory and the tools -/

/-- The parent's field of that name is an array. -/
def HasArray (scope : Json) (key : String) : Prop :=
  ∃ items, scope.get key = some (.array items)

/-- An array of names is within the parent's field exactly when that is an array
and admits each name. -/
theorem namesContained_iff {fields : List (String × Json)} {key : String}
    {names : List String}
    (admitted : ∀ name ∈ names,
      jsonStringArrayContains (Json.getField key fields) name = true) :
    FieldContained fields (key, .ofStrings names) ↔ HasArray (.object fields) key := by
  constructor
  · rintro ⟨value, found, contained⟩
    cases value with
    | array items => exact ⟨items, found⟩
    | _ => simp [Json.ofStrings, jsonScopeContains] at contained
  · rintro ⟨items, found⟩
    refine ⟨.array items, found, ?_⟩
    simp only [Json.ofStrings, jsonScopeContains, List.all_map, List.all_eq_true,
      Function.comp_apply, List.any_eq_true]
    intro name member
    have isAdmitted := admitted name member
    have lookup : Json.getField key fields = some (.array items) := found
    simp only [lookup, jsonStringArrayContains, Option.bind_some, Json.asArray,
      List.any_eq_true] at isAdmitted
    obtain ⟨item, itemMember, admits⟩ := isAdmitted
    refine ⟨item, itemMember, ?_⟩
    cases item with
    | string text =>
        have : text = "*" ∨ text = name := by simpa [Json.asStr] using admits
        rcases this with rfl | rfl <;> simp [scopeItemCovers, Json.asStr, Json.isString]
    | _ => simp [Json.asStr] at admits

/-- `writeback_allowed` is turned off where the parent has it: that is within the
parent exactly when the parent's value is a boolean. -/
theorem memoryScope_contained_iff {parent : Json} (isObject : parent.isObject = true)
    (keysDistinct : parent.keysDistinct = true) :
    jsonScopeContains parent (childHandoffMemoryScope parent) = true ↔
      ∀ value, parent.get "writeback_allowed" = some value → value.asBool.isSome = true := by
  cases parent with
  | object fields =>
      have within := @updatedScope_contained_iff fields [("writeback_allowed", .bool false)]
        keysDistinct (by simp)
      cases found : (Json.object fields).get "writeback_allowed" with
      | none =>
          simp only [childHandoffMemoryScope, found]
          simpa using jsonScopeContains_self _ keysDistinct
      | some value =>
          simp only [childHandoffMemoryScope, found, Option.isSome_some, if_true,
            Option.some.injEq, forall_eq']
          refine within.trans ?_
          have lookup : Json.getField "writeback_allowed" fields = some value := found
          simp [FieldContained, lookup, contains_false_iff]
  | _ => simp [Json.isObject] at isObject

/-- The tool lists are always all three there: that is within the parent exactly
when the parent has all three. -/
theorem toolScope_contained_iff {parent : Json} (isObject : parent.isObject = true)
    (tools : List String) :
    jsonScopeContains parent (childToolScopeForTools parent tools) = true ↔
      ∀ key ∈ ["read", "write", "external_write"], HasArray parent key := by
  cases parent with
  | object fields =>
      simp only [childToolScopeForTools]
      refine (@insertFields_contained_iff fields [] _ rfl (by simp)).trans ?_
      simp only [List.forall_mem_map]
      refine forall₂_congr fun key _ => namesContained_iff fun name kept => ?_
      simp only [Json.get] at kept
      cases found : (Json.getField key fields).bind Json.asArray with
      | none => simp [found] at kept
      | some items =>
          simp only [found, List.mem_flatMap, List.mem_filterMap] at kept
          obtain ⟨tool, ⟨item, member, isText⟩, isKept⟩ := kept
          simp only [jsonStringArrayContains, found, List.any_eq_true]
          refine ⟨item, member, ?_⟩
          split_ifs at isKept with wildcard offered
          · simp [isText, wildcard]
          · simp_all
          · simp at isKept
  | _ => simp [Json.isObject] at isObject

/-! ### The connector scope -/

/-- The keys that a narrowed connector scope sets: three lists of names, the
bindings where the parent has them, and a tenant scope. -/
def scopeUpdates (connectorIds operations sideEffectClasses : List String)
    (bindings : Option (List Json)) (tenantScope : Option Json) : List (String × Json) :=
  [("allowed_connector_ids", .ofStrings connectorIds),
    ("allowed_tool_names", .ofStrings operations),
    ("side_effect_classes", .ofStrings sideEffectClasses)] ++
  (bindings.map fun retained => ("native_operation_bindings", .array retained)).toList ++
  (tenantScope.map fun scope => ("tenant_scope", scope)).toList

/-- The lists of a connector scope that name what it allows. -/
def connectorLists : List String :=
  ["allowed_connector_ids", "allowed_tool_names", "side_effect_classes"]

theorem scopeUpdates_distinct (connectorIds operations sideEffectClasses : List String)
    (bindings : Option (List Json)) (tenantScope : Option Json) :
    ((scopeUpdates connectorIds operations sideEffectClasses bindings tenantScope).map
      Prod.fst).Nodup := by
  cases bindings <;> cases tenantScope <;> simp [scopeUpdates]

section

variable {fields : List (String × Json)} {connectorIds operations sideEffectClasses : List String}
  {bindings : Option (List Json)} {tenantScope : Option Json}

/-- With names that the parent admits, bindings that it has and a tenant scope
within its own, what is left to ask is whether the parent has the lists at all. -/
theorem narrowedScope_contained_iff (keysDistinct : (Json.object fields).keysDistinct = true)
    (ids : ∀ name ∈ connectorIds,
      jsonStringArrayContains (Json.getField "allowed_connector_ids" fields) name = true)
    (names : ∀ name ∈ operations,
      jsonStringArrayContains (Json.getField "allowed_tool_names" fields) name = true)
    (classes : ∀ name ∈ sideEffectClasses,
      jsonStringArrayContains (Json.getField "side_effect_classes" fields) name = true)
    (bound : ∀ retained, bindings = some retained → ∀ items,
      Json.getField "native_operation_bindings" fields = some (.array items) →
        retained ⊆ items)
    (tenant : ∀ scope, tenantScope = some scope →
      FieldContained fields ("tenant_scope", scope)) :
    jsonScopeContains (.object fields) (.object (Json.insertFields
        (scopeUpdates connectorIds operations sideEffectClasses bindings tenantScope)
        fields)) = true ↔
      (∀ key ∈ connectorLists, HasArray (.object fields) key) ∧
        (bindings.isSome = true → HasArray (.object fields) "native_operation_bindings") := by
  have boundContained : ∀ retained, bindings = some retained →
      (FieldContained fields ("native_operation_bindings", .array retained) ↔
        HasArray (.object fields) "native_operation_bindings") := by
    intro retained isBound
    constructor
    · rintro ⟨value, found, contained⟩
      cases value with
      | array items => exact ⟨items, found⟩
      | _ => simp [jsonScopeContains] at contained
    · rintro ⟨items, found⟩
      refine ⟨.array items, found, ?_⟩
      simp only [jsonScopeContains, List.all_eq_true, List.any_eq_true]
      exact fun binding member =>
        ⟨binding, bound retained isBound items found member, by simp [scopeItemCovers]⟩
  rw [updatedScope_contained_iff keysDistinct (scopeUpdates_distinct _ _ _ _ _)]
  simp only [scopeUpdates, connectorLists, List.forall_mem_append, List.forall_mem_cons,
    List.not_mem_nil, false_implies, implies_true, and_true, namesContained_iff ids,
    namesContained_iff names, namesContained_iff classes]
  cases bindings with
  | none => cases tenantScope <;> simp_all
  | some retained => cases tenantScope <;> simp_all

end

/-- The tenant scope that replaces the parent's, if any. -/
theorem narrowTenantScope_cases (fields updates : List (String × Json))
    (agentConnectorScope : Json) :
    ∃ tenantScope : Option Json,
      (∀ scope, tenantScope = some scope → FieldContained fields ("tenant_scope", scope)) ∧
      narrowTenantScope (.object fields) agentConnectorScope
          (.object (Json.insertFields updates fields)) =
        .object (Json.insertFields
          (updates ++ (tenantScope.map fun scope => ("tenant_scope", scope)).toList)
          fields) := by
  unfold narrowTenantScope
  split
  · rename_i parentTenantScope field rest parentFound agentFound
    split_ifs with narrower
    · refine ⟨some (.object (field :: rest)), ?_, ?_⟩
      · rintro scope ⟨⟩
        exact ⟨parentTenantScope, parentFound, narrower⟩
      · simp [Json.setField, Json.insertFields, List.foldl_append]
    · exact ⟨none, by simp, by simp⟩
  · exact ⟨none, by simp, by simp⟩

theorem mem_bindingNames {bindings : List Json} {field name : String} :
    name ∈ bindingNames bindings field ↔
      ∃ binding ∈ bindings, (binding.get field).bind Json.asStr = some name := by
  simp [bindingNames, List.mem_mergeSort, List.mem_dedup, List.mem_filterMap]

/-- What the bindings have that an agent keeps: they are the parent's, and the
parent's lists admit what they name. -/
theorem retainedBindings_spec {parentConnectorScope agentConnectorScope : Json}
    {parentBindings : Option (List Json)} {retained : List Json}
    (kept : retainedBindings parentConnectorScope agentConnectorScope =
      .ok (parentBindings, retained)) :
    parentConnectorScope.get "native_operation_bindings" = parentBindings.map .array ∧
      (∀ items, parentBindings = some items → retained ⊆ items) ∧
      ∀ binding ∈ retained,
        nativeOperationBindingWithinScope binding parentConnectorScope = true := by
  obtain ⟨parentFound, hasParent, rest⟩ := bind_eq_ok.mp kept
  obtain ⟨agentFound, _, isResult⟩ := bind_eq_ok.mp rest
  obtain ⟨rfl, rfl⟩ : parentFound = parentBindings ∧ _ = retained := by
    simpa [pure, Except.pure] using isResult
  have present : parentConnectorScope.get "native_operation_bindings" =
      parentFound.map .array := by
    unfold nativeOperationBindings at hasParent
    cases found : parentConnectorScope.get "native_operation_bindings" with
    | none =>
        rw [found] at hasParent
        cases hasParent
        rfl
    | some value =>
        rw [found] at hasParent
        cases value with
        | array items =>
            cases hasParent
            rfl
        | _ => simp [Json.asArray] at hasParent
  refine ⟨present, ?_, ?_⟩
  · rintro items rfl
    cases agentFound with
    | none => simp
    | some agent =>
        intro binding member
        simp only [List.mem_filter, Bool.and_eq_true, decide_eq_true_eq] at member
        exact member.2.1.1
  · intro binding member
    cases parentFound with
    | none => simp at member
    | some parent =>
        cases agentFound with
        | none => simp at member
        | some agent =>
            simp only [List.mem_filter, Bool.and_eq_true] at member
            exact member.2.1.2

theorem bindingNames_admitted {fields : List (String × Json)} {retained : List Json}
    (within : ∀ binding ∈ retained,
      nativeOperationBindingWithinScope binding (.object fields) = true)
    {field names : String}
    (paired : (field, names) ∈ [("connector_id", "allowed_connector_ids"),
      ("operation", "allowed_tool_names"), ("side_effect_class", "side_effect_classes")])
    {name : String} (member : name ∈ bindingNames retained field) :
    jsonStringArrayContains (Json.getField names fields) name = true := by
  obtain ⟨binding, inRetained, isName⟩ := mem_bindingNames.mp member
  have admitted : ((binding.get field).bind Json.asStr).any
      (jsonStringArrayContains (Json.getField names fields)) = true :=
    List.all_eq_true.mp (within binding inRetained) _ paired
  simpa [isName] using admitted

/-! ### The external effects -/

/-- Effects that are turned off or kept are within the parent's exactly when the
parent's values are booleans. -/
theorem effects_contained_iff {fields : List (String × Json)}
    (keysDistinct : (Json.object fields).keysDistinct = true) {change : String → Json → Bool}
    (restricts : ∀ key value, change key value = true → value.asBool = some true) :
    jsonScopeContains (.object fields)
        (.object (fields.map fun (key, value) => (key, .bool (change key value)))) = true ↔
      ∀ key value, (Json.object fields).get key = some value →
        value.asBool.isSome = true := by
  simp only [Json.keysDistinct, Bool.and_eq_true, decide_eq_true_eq] at keysDistinct
  simp only [jsonScopeContains, Json.get]
  rw [mappedScope_contained_iff keysDistinct.1 fun key value => .bool (change key value)]
  refine forall₃_congr fun key value _ => ?_
  cases isKept : change key value with
  | false => exact contains_false_iff
  | true =>
      cases value with
      | bool flag =>
          have : flag = true := by simpa [Json.asBool] using restricts key _ isKept
          simp [this, jsonScopeContains, Json.asBool]
      | _ => simpa [Json.asBool] using restricts key _ isKept

/-! ### The three ways to make a connector scope -/

/-- A version without native calls keeps the parent's connector scope; one
without a policy that commits writes is denied all of it; any other gets what
both scopes allow. -/
theorem childConnectorScopes_cases {parentConnectorScope parentExternalEffects : Json}
    {version : AgentVersion} {connectorScope externalEffects : Json}
    (made : childConnectorScopesForAgentVersion parentConnectorScope parentExternalEffects
      version = .ok (connectorScope, externalEffects)) :
    ("native.connector.call" ∉ version.tools ∧ connectorScope = parentConnectorScope ∧
        externalEffects = parentExternalEffects) ∨
      ("native.connector.call" ∈ version.tools ∧
        (connectorScope, externalEffects) =
          denyChildNativeConnectorScope parentConnectorScope parentExternalEffects ∧
        ∀ scope, version.approvalPolicy.get "connector_scope" = some scope →
          (scope.get "mode").bind Json.asStr ≠ some "commit_write") ∨
      ("native.connector.call" ∈ version.tools ∧
        ∃ agentConnectorScope agentExternalEffects parentBindings retained,
          retainedBindings parentConnectorScope agentConnectorScope =
              .ok (parentBindings, retained) ∧
            connectorScope = narrowTenantScope parentConnectorScope agentConnectorScope
              (let narrowed := ((parentConnectorScope.setField "allowed_connector_ids"
                  (.ofStrings (bindingNames retained "connector_id"))).setField
                  "allowed_tool_names" (.ofStrings (bindingNames retained "operation"))).setField
                  "side_effect_classes"
                  (.ofStrings (bindingNames retained "side_effect_class"))
                if parentBindings.isSome then
                  narrowed.setField "native_operation_bindings" (.array retained)
                else narrowed) ∧
            intersectExternalEffects parentExternalEffects agentExternalEffects
              (bindingNames retained "side_effect_class") = .ok externalEffects ∧
            version.approvalPolicy.get "connector_scope" = some agentConnectorScope ∧
            (agentConnectorScope.get "mode").bind Json.asStr = some "commit_write" ∧
            agentExternalEffects = (version.approvalPolicy.get "external_effects").getD .null ∧
            parentConnectorScope.isObject = true) := by
  unfold childConnectorScopesForAgentVersion at made
  by_cases native : "native.connector.call" ∈ version.tools
  · refine .inr ?_
    simp only [native, not_true_eq_false, if_false] at made
    cases policy : version.approvalPolicy.get "connector_scope" with
    | none =>
        rw [policy] at made
        cases made
        exact .inl ⟨native, rfl, fun _ absent => by cases absent⟩
    | some agentConnectorScope =>
        rw [policy] at made
        obtain ⟨_, made⟩ := guardThen_eq_ok.mp made
        split at made
        · next otherMode =>
            cases made
            exact .inl ⟨native, rfl, fun scope isScope => Option.some.inj isScope ▸ otherMode⟩
        · next commits =>
            obtain ⟨_, made⟩ := guardThen_eq_ok.mp made
            obtain ⟨isObject, made⟩ := guardThen_eq_ok.mp made
            obtain ⟨⟨parentBindings, retained⟩, kept, made⟩ := bind_eq_ok.mp made
            obtain ⟨effects, intersected, made⟩ := bind_eq_ok.mp made
            cases made
            exact .inr ⟨native, agentConnectorScope, _, parentBindings, retained, kept, rfl,
              intersected, rfl, not_not.mp commits, rfl, by simpa using isObject⟩
  · simp only [native, not_false_eq_true, if_true] at made
    cases made
    exact .inl ⟨native, rfl, rfl⟩

/-- The parent has what a rebuilt connector scope sets: the three lists, an array
where it has bindings, and booleans for the external effects. -/
structure ConnectorScopeFits (parentConnectorScope parentExternalEffects : Json) : Prop where
  lists : ∀ key ∈ connectorLists, HasArray parentConnectorScope key
  bindings : (parentConnectorScope.get "native_operation_bindings").isSome = true →
    HasArray parentConnectorScope "native_operation_bindings"
  effects : ∀ key value, parentExternalEffects.get key = some value →
    value.asBool.isSome = true

theorem deniedScopes_contained_iff {fields effects : List (String × Json)}
    (keysDistinct : (Json.object fields).keysDistinct = true)
    (effectsDistinct : (Json.object effects).keysDistinct = true) :
    (jsonScopeContains (.object fields)
          (denyChildNativeConnectorScope (.object fields) (.object effects)).1 = true ∧
        jsonScopeContains (.object effects)
          (denyChildNativeConnectorScope (.object fields) (.object effects)).2 = true) ↔
      ConnectorScopeFits (.object fields) (.object effects) := by
  have emptied : (denyChildNativeConnectorScope (.object fields) (.object effects)).1 =
      .object (Json.insertFields (scopeUpdates [] [] []
        (((Json.object fields).get "native_operation_bindings").map fun _ => []) none)
        fields) := by
    simp only [denyChildNativeConnectorScope]
    cases (Json.object fields).get "native_operation_bindings" <;> rfl
  have contained := @narrowedScope_contained_iff fields [] [] []
    (((Json.object fields).get "native_operation_bindings").map fun _ => []) none
    keysDistinct (by simp) (by simp) (by simp)
    (by
      intro retained isBound items _
      obtain ⟨_, _, rfl⟩ := Option.map_eq_some_iff.mp isBound
      exact List.nil_subset items)
    (by simp)
  have effectsContained := @effects_contained_iff effects effectsDistinct (fun _ _ => false)
    (by simp)
  rw [emptied, contained, Option.isSome_map]
  constructor
  · rintro ⟨⟨lists, bindings⟩, effects⟩
    exact ⟨lists, bindings, effectsContained.mp effects⟩
  · rintro ⟨lists, bindings, effects⟩
    exact ⟨⟨lists, bindings⟩, effectsContained.mpr effects⟩

theorem intersectedScopes_contained_iff {fields effects : List (String × Json)}
    (keysDistinct : (Json.object fields).keysDistinct = true)
    (effectsDistinct : (Json.object effects).keysDistinct = true)
    {agentConnectorScope agentExternalEffects externalEffects : Json}
    {parentBindings : Option (List Json)} {retained : List Json}
    (kept : retainedBindings (.object fields) agentConnectorScope =
      .ok (parentBindings, retained))
    (intersected : intersectExternalEffects (.object effects) agentExternalEffects
      (bindingNames retained "side_effect_class") = .ok externalEffects) :
    (jsonScopeContains (.object fields) (narrowTenantScope (.object fields)
          agentConnectorScope (.object (Json.insertFields
            (scopeUpdates (bindingNames retained "connector_id")
              (bindingNames retained "operation")
              (bindingNames retained "side_effect_class")
              (parentBindings.map fun _ => retained) none) fields))) = true ∧
        jsonScopeContains (.object effects) externalEffects = true) ↔
      ConnectorScopeFits (.object fields) (.object effects) := by
  obtain ⟨present, fromParent, within⟩ := retainedBindings_spec kept
  obtain ⟨tenantScope, tenantContained, narrowed⟩ := narrowTenantScope_cases fields
    (scopeUpdates (bindingNames retained "connector_id") (bindingNames retained "operation")
      (bindingNames retained "side_effect_class") (parentBindings.map fun _ => retained) none)
    agentConnectorScope
  have updates : scopeUpdates (bindingNames retained "connector_id")
        (bindingNames retained "operation") (bindingNames retained "side_effect_class")
        (parentBindings.map fun _ => retained) none ++
          (tenantScope.map fun scope => ("tenant_scope", scope)).toList =
      scopeUpdates (bindingNames retained "connector_id") (bindingNames retained "operation")
        (bindingNames retained "side_effect_class") (parentBindings.map fun _ => retained)
        tenantScope := by
    simp [scopeUpdates]
  have contained := @narrowedScope_contained_iff fields _ _ _
    (parentBindings.map fun _ => retained) tenantScope keysDistinct
    (@bindingNames_admitted _ _ within "connector_id" "allowed_connector_ids" (by simp))
    (@bindingNames_admitted _ _ within "operation" "allowed_tool_names" (by simp))
    (@bindingNames_admitted _ _ within "side_effect_class" "side_effect_classes" (by simp))
    (by
      intro bound isBound items found
      obtain ⟨parentItems, isParent, rfl⟩ := Option.map_eq_some_iff.mp isBound
      have same : some (Json.array items) = some (.array parentItems) := by
        rw [← found, ← Option.map_some, ← isParent]
        exact present
      cases same
      exact fromParent items isParent)
    tenantContained
  obtain ⟨isObject⟩ : externalEffects = .object (effects.map fun (key, value) =>
      (key, .bool (decide (value.asBool = some true) &&
        decide (key ∈ bindingNames retained "side_effect_class") &&
        decide ((agentExternalEffects.get key).bind Json.asBool = some true)))) := by
    simpa [intersectExternalEffects] using intersected.symm
  have effectsContained := @effects_contained_iff effects effectsDistinct
    (fun key value => decide (value.asBool = some true) &&
      decide (key ∈ bindingNames retained "side_effect_class") &&
      decide ((agentExternalEffects.get key).bind Json.asBool = some true))
    (by
      intro key value isKept
      simp only [Bool.and_eq_true, decide_eq_true_eq] at isKept
      exact isKept.1.1)
  rw [narrowed, updates, contained, effectsContained, Option.isSome_map]
  have sameBindings : ((Json.object fields).get "native_operation_bindings").isSome =
      parentBindings.isSome := by
    rw [present, Option.isSome_map]
  constructor
  · rintro ⟨⟨lists, bindings⟩, effects⟩
    exact ⟨lists, fun has => bindings (sameBindings ▸ has), effects⟩
  · rintro ⟨lists, bindings, effects⟩
    exact ⟨⟨lists, fun has => bindings (sameBindings.trans has)⟩, effects⟩

/-- The engine's connector scope and effects are within the parent's exactly when
the version makes no native calls or the parent has what they set. -/
theorem connectorScopes_contained_iff {parentConnectorScope parentExternalEffects : Json}
    (isObject : parentConnectorScope.isObject = true)
    (effectsObject : parentExternalEffects.isObject = true)
    (keysDistinct : parentConnectorScope.keysDistinct = true)
    (effectsDistinct : parentExternalEffects.keysDistinct = true)
    {version : AgentVersion} {connectorScope externalEffects : Json}
    (made : childConnectorScopesForAgentVersion parentConnectorScope parentExternalEffects
      version = .ok (connectorScope, externalEffects)) :
    (jsonScopeContains parentConnectorScope connectorScope = true ∧
        jsonScopeContains parentExternalEffects externalEffects = true) ↔
      ("native.connector.call" ∈ version.tools →
        ConnectorScopeFits parentConnectorScope parentExternalEffects) := by
  obtain ⟨fields, rfl⟩ : ∃ fields, parentConnectorScope = .object fields := by
    cases parentConnectorScope <;> simp_all [Json.isObject]
  obtain ⟨effects, rfl⟩ : ∃ effects, parentExternalEffects = .object effects := by
    cases parentExternalEffects <;> simp_all [Json.isObject]
  rcases childConnectorScopes_cases made with ⟨native, rfl, rfl⟩ | ⟨native, denied, -⟩ |
    ⟨native, agentConnectorScope, agentExternalEffects, parentBindings, retained, kept, rfl,
      intersected, -⟩
  · simp [native, jsonScopeContains_self _ keysDistinct,
      jsonScopeContains_self _ effectsDistinct]
  · have deniedContained := deniedScopes_contained_iff keysDistinct effectsDistinct
    rw [← denied] at deniedContained
    simpa [native] using deniedContained
  · have contained :=
      intersectedScopes_contained_iff keysDistinct effectsDistinct kept intersected
    simp only [native, true_implies]
    rw [← contained]
    cases parentBindings <;> rfl

/-! ### The grant of a handoff -/

/-- The scopes of a grant are values of the JSON library. -/
structure GrantScopesDistinct (grant : TaskGrant) : Prop where
  memory : grant.memoryScope.keysDistinct = true
  tool : grant.toolScope.keysDistinct = true
  connector : grant.connectorScope.keysDistinct = true
  approval : grant.approvalPolicy.keysDistinct = true
  effects : grant.externalEffects.keysDistinct = true

/-- What a parent must have so that the scopes made for a version fit it: a
boolean where it says whether memory may be written back, all three tool lists,
and, for a version with native calls, what the connector scope sets. -/
structure HandoffFits (parent : TaskGrant) (version : AgentVersion) : Prop where
  memory : ∀ value, parent.memoryScope.get "writeback_allowed" = some value →
    value.asBool.isSome = true
  tools : ∀ key ∈ ["read", "write", "external_write"], HasArray parent.toolScope key
  connector : "native.connector.call" ∈ version.tools →
    ConnectorScopeFits parent.connectorScope parent.externalEffects

/-- What `materialize_workflow_handoff_assignment` reads besides the parent grant
and the specialist's version, and the ids it draws. -/
structure HandoffAssignment where
  run : WorkflowRun
  specialistSessionId : Uuid
  semanticScopes : Json
  stepId : Uuid
  grantId : Uuid
  now : Timestamp

/-- The child grant that `materialize_workflow_handoff_assignment` builds. -/
def handoffChildGrant (parent : TaskGrant) (version : AgentVersion)
    (assignment : HandoffAssignment) (remaining : TaskGrantRemainingBudgets)
    (connectorScope externalEffects : Json) : TaskGrant where
  id := assignment.grantId
  workflowRunId := assignment.run.id
  workflowStepRunId := some assignment.stepId
  sessionId := some assignment.specialistSessionId
  parentGrantId := some parent.id
  granteeSessionId := some assignment.specialistSessionId
  status := .active
  expiresAt := parent.expiresAt
  maxTurns := remaining.maxTurns
  maxToolCalls := remaining.maxToolCalls
  maxRuntimeSeconds := remaining.maxRuntimeSeconds
  maxCostUsdMicros := remaining.maxCostUsdMicros
  turnsUsed := 0
  toolCallsUsed := 0
  costUsdMicrosUsed := 0
  semanticScopes := assignment.semanticScopes
  memoryScope := childHandoffMemoryScope parent.memoryScope
  toolScope := childToolScopeForTools parent.toolScope version.tools
  connectorScope
  approvalPolicy := parent.approvalPolicy
  externalEffects
  createdAt := assignment.now

/-- The grant part of `materialize_workflow_handoff_assignment`. -/
def handoffAssignmentGrant (parent : TaskGrant) (version : AgentVersion)
    (assignment : HandoffAssignment) : Except AppError TaskGrant := do
  match workflowRunExecutionDenial assignment.run.status with
  | some reason => throw (.forbidden reason)
  | none =>
      let remaining ← taskGrantRemainingBudgets parent assignment.now
      let (connectorScope, externalEffects) ← childConnectorScopesForAgentVersion
        parent.connectorScope parent.externalEffects version
      let grant := handoffChildGrant parent version assignment remaining connectorScope
        externalEffects
      validateTaskGrantScopeObjects grant
      ensureChildTaskGrantWithinParent parent grant
      return grant

/-! ### The child is made of objects -/

@[simp] theorem setField_isObject (value : Json) (key : String) (field : Json) :
    (value.setField key field).isObject = value.isObject := by
  cases value <;> rfl

theorem narrowTenantScope_isObject (parentConnectorScope agentConnectorScope childScope : Json) :
    (narrowTenantScope parentConnectorScope agentConnectorScope childScope).isObject =
      childScope.isObject := by
  unfold narrowTenantScope
  split
  · split_ifs <;> simp
  · rfl

theorem childConnectorScopes_objects {parentConnectorScope parentExternalEffects : Json}
    (isObject : parentConnectorScope.isObject = true)
    (effectsObject : parentExternalEffects.isObject = true)
    {version : AgentVersion} {connectorScope externalEffects : Json}
    (made : childConnectorScopesForAgentVersion parentConnectorScope parentExternalEffects
      version = .ok (connectorScope, externalEffects)) :
    connectorScope.isObject = true ∧ externalEffects.isObject = true := by
  obtain ⟨effects, rfl⟩ : ∃ effects, parentExternalEffects = .object effects := by
    cases parentExternalEffects <;> simp_all [Json.isObject]
  rcases childConnectorScopes_cases made with ⟨_, rfl, rfl⟩ | ⟨_, denied, -⟩ |
    ⟨_, agentConnectorScope, agentExternalEffects, parentBindings, retained, _, rfl,
      intersected, -⟩
  · exact ⟨isObject, rfl⟩
  · obtain ⟨rfl, rfl⟩ := Prod.mk.inj denied
    refine ⟨?_, rfl⟩
    split_ifs <;> simp [isObject]
  · refine ⟨?_, ?_⟩
    · rw [narrowTenantScope_isObject]
      dsimp only
      split_ifs <;> simp [isObject]
    · rw [intersectExternalEffects] at intersected
      cases intersected
      rfl

theorem validateTaskGrantScopeObjects_eq_ok {grant : TaskGrant} :
    validateTaskGrantScopeObjects grant = .ok () ↔
      grant.semanticScopes.isObject = true ∧ grant.memoryScope.isObject = true ∧
        grant.toolScope.isObject = true ∧ grant.connectorScope.isObject = true ∧
        grant.approvalPolicy.isObject = true ∧ grant.externalEffects.isObject = true := by
  have checked : ∀ (value : Json) (error : AppError),
      (if value.isObject = true then Except.ok () else .error error) = .ok () ↔
        value.isObject = true := by
    intro value error
    cases value.isObject <;> simp
  simp only [validateTaskGrantScopeObjects, forM_eq_ok, List.forall_mem_cons,
    List.not_mem_nil, false_implies, implies_true, and_true, checked]

theorem childHandoffMemoryScope_isObject (parent : Json) :
    (childHandoffMemoryScope parent).isObject = parent.isObject := by
  unfold childHandoffMemoryScope
  split_ifs <;> simp

section

variable {parent : TaskGrant} {version : AgentVersion} {connectorScope externalEffects : Json}

/-- The four scopes that the engine makes are within the parent's exactly when
the parent has what they set. -/
theorem madeScopes_contained_iff (scopes : validateTaskGrantScopeObjects parent = .ok ())
    (distinct : GrantScopesDistinct parent)
    (made : childConnectorScopesForAgentVersion parent.connectorScope parent.externalEffects
      version = .ok (connectorScope, externalEffects)) :
    (jsonScopeContains parent.memoryScope (childHandoffMemoryScope parent.memoryScope) = true ∧
        jsonScopeContains parent.toolScope
          (childToolScopeForTools parent.toolScope version.tools) = true ∧
        jsonScopeContains parent.connectorScope connectorScope = true ∧
        jsonScopeContains parent.externalEffects externalEffects = true) ↔
      HandoffFits parent version := by
  obtain ⟨_, memoryObject, toolObject, connectorObject, _, effectsObject⟩ :=
    validateTaskGrantScopeObjects_eq_ok.mp scopes
  rw [memoryScope_contained_iff memoryObject distinct.memory,
    toolScope_contained_iff toolObject,
    connectorScopes_contained_iff connectorObject effectsObject distinct.connector
      distinct.effects made]
  exact ⟨fun ⟨memory, tools, connector⟩ => ⟨memory, tools, connector⟩,
    fun ⟨memory, tools, connector⟩ => ⟨memory, tools, connector⟩⟩

theorem limitWithinParent_self (limit : Option Int) : limitWithinParent limit limit = true := by
  cases limit <;> simp [limitWithinParent]

/-- The engine's child differs from its parent in the scopes only, as far as the
check is concerned. -/
theorem ensureHandoffChild_eq (distinct : GrantScopesDistinct parent)
    {assignment : HandoffAssignment} {remaining : TaskGrantRemainingBudgets}
    (budgets : taskGrantRemainingBudgets parent assignment.now = .ok remaining)
    (sameRun : assignment.run.id = parent.workflowRunId)
    (semantic : jsonScopeContains parent.semanticScopes assignment.semanticScopes = true) :
    ensureChildTaskGrantWithinParent parent
        (handoffChildGrant parent version assignment remaining connectorScope
          externalEffects) =
      if jsonScopeContains parent.memoryScope
            (childHandoffMemoryScope parent.memoryScope) = true ∧
          jsonScopeContains parent.toolScope
            (childToolScopeForTools parent.toolScope version.tools) = true ∧
          jsonScopeContains parent.connectorScope connectorScope = true ∧
          jsonScopeContains parent.externalEffects externalEffects = true then .ok ()
      else .error (.badRequest "child task grant cannot expand parent grant") := by
  unfold ensureChildTaskGrantWithinParent
  simp [handoffChildGrant, budgets, sameRun, semantic, limitWithinParent_self,
    jsonScopeContains_self _ distinct.approval, bind, Except.bind, pure, Except.pure, throw,
    throwThe, MonadExceptOf.throw, and_assoc]

end

/-- For every parent and every version whose connector scopes can be made, the
engine's scopes are within the parent's exactly when the parent has what they
set; and with everything else in order, the handoff gets its grant exactly then,
and is refused as an expansion of its parent otherwise. -/
theorem handoffGrant_accepted_iff_fits (parent : TaskGrant) (version : AgentVersion)
    (connectorScope externalEffects : Json)
    (scopes : validateTaskGrantScopeObjects parent = .ok ())
    (distinct : GrantScopesDistinct parent)
    (made : childConnectorScopesForAgentVersion parent.connectorScope parent.externalEffects
      version = .ok (connectorScope, externalEffects)) :
    ((jsonScopeContains parent.memoryScope (childHandoffMemoryScope parent.memoryScope) = true ∧
          jsonScopeContains parent.toolScope
            (childToolScopeForTools parent.toolScope version.tools) = true ∧
          jsonScopeContains parent.connectorScope connectorScope = true ∧
          jsonScopeContains parent.externalEffects externalEffects = true) ↔
        HandoffFits parent version) ∧
      ∀ (assignment : HandoffAssignment) (remaining : TaskGrantRemainingBudgets),
        workflowRunExecutionDenial assignment.run.status = none →
        taskGrantRemainingBudgets parent assignment.now = .ok remaining →
        assignment.run.id = parent.workflowRunId →
        assignment.semanticScopes.isObject = true →
        jsonScopeContains parent.semanticScopes assignment.semanticScopes = true →
          (HandoffFits parent version →
            handoffAssignmentGrant parent version assignment =
              .ok (handoffChildGrant parent version assignment remaining connectorScope
                externalEffects)) ∧
          (¬HandoffFits parent version →
            handoffAssignmentGrant parent version assignment =
              .error (.badRequest "child task grant cannot expand parent grant")) := by
  have contained := madeScopes_contained_iff scopes distinct made
  refine ⟨contained, ?_⟩
  intro assignment remaining active budgets sameRun semanticObject semantic
  have ensured := @ensureHandoffChild_eq parent version connectorScope externalEffects distinct
    assignment remaining budgets sameRun semantic
  have valid : validateTaskGrantScopeObjects (handoffChildGrant parent version assignment
      remaining connectorScope externalEffects) = .ok () := by
    obtain ⟨_, memoryObject, _, connectorObject, approvalObject, effectsObject⟩ :=
      validateTaskGrantScopeObjects_eq_ok.mp scopes
    obtain ⟨childConnectorObject, childEffectsObject⟩ :=
      childConnectorScopes_objects connectorObject effectsObject made
    exact validateTaskGrantScopeObjects_eq_ok.mpr ⟨semanticObject,
      (childHandoffMemoryScope_isObject _).trans memoryObject, rfl, childConnectorObject,
      approvalObject, childEffectsObject⟩
  constructor
  · intro fits
    rw [if_pos (contained.mpr fits)] at ensured
    simp [handoffAssignmentGrant, active, budgets, made, valid, ensured, bind, Except.bind,
      pure, Except.pure]
  · intro unfit
    rw [if_neg fun within => unfit (contained.mp within)] at ensured
    simp [handoffAssignmentGrant, active, budgets, made, valid, ensured, bind, Except.bind]

/-! ### Grants with the default scopes -/

def defaultTaskGrantMemoryScope : Json :=
  .ofFields [("mode", .string "snapshot_only"), ("allowed_scope_keys", .array []),
    ("allowed_object_types", .array []), ("allowed_source_types", .array []),
    ("allowed_object_ids", .array []), ("minimum_trust_level", .string "verified"),
    ("max_objects", .ofNat 0), ("approval_memory_allowed", .bool false),
    ("handoff_memory_allowed", .bool false), ("writeback_allowed", .bool false)]

def defaultTaskGrantToolScope : Json :=
  .ofFields [("read", .array []), ("write", .array []), ("external_write", .array [])]

def defaultTaskGrantConnectorScope : Json :=
  .ofFields [("mode", .string "read_only"), ("allowed_connector_ids", .array []),
    ("allowed_tool_names", .array []), ("tenant_scope", emptyJsonObject),
    ("side_effect_classes", .array [])]

def defaultTaskGrantApprovalPolicy : Json :=
  .ofFields [("mode", .string "approval_required_for_mutation")]

def defaultTaskGrantExternalEffects : Json :=
  .ofFields (["publish", "payment", "external_message", "account_mutation",
    "ad_spend_mutation"].map fun effect => (effect, .bool false))

/-- A grant as the API creates it when only its run is given. -/
def defaultTaskGrant : TaskGrant where
  id := 1
  workflowRunId := 1
  workflowStepRunId := none
  sessionId := some 1
  parentGrantId := none
  granteeSessionId := some 1
  status := .active
  expiresAt := none
  maxTurns := none
  maxToolCalls := none
  maxRuntimeSeconds := none
  maxCostUsdMicros := none
  turnsUsed := 0
  toolCallsUsed := 0
  costUsdMicrosUsed := 0
  semanticScopes := emptyJsonObject
  memoryScope := defaultTaskGrantMemoryScope
  toolScope := defaultTaskGrantToolScope
  connectorScope := defaultTaskGrantConnectorScope
  approvalPolicy := defaultTaskGrantApprovalPolicy
  externalEffects := defaultTaskGrantExternalEffects
  createdAt := 0

/-- The default scopes have everything that a handoff sets. -/
theorem defaultTaskGrant_fits (version : AgentVersion) :
    HandoffFits defaultTaskGrant version where
  memory value found := by
    obtain rfl : Json.bool false = value := by
      have written : defaultTaskGrant.memoryScope.get "writeback_allowed" =
          some (.bool false) := by decide +kernel
      exact Option.some.inj (written.symm.trans found)
    rfl
  tools key member := by
    refine ⟨[], ?_⟩
    have all : ∀ key ∈ ["read", "write", "external_write"],
        defaultTaskGrant.toolScope.get key = some (.array []) := by decide +kernel
    exact all key member
  connector _ := {
    lists := by
      have all : ∀ key ∈ connectorLists,
          defaultTaskGrant.connectorScope.get key = some (.array []) := by decide +kernel
      exact fun key member => ⟨[], all key member⟩
    bindings := by
      have unbound : defaultTaskGrant.connectorScope.get "native_operation_bindings" =
          none := by decide +kernel
      simp [unbound]
    effects := by
      intro key value found
      have flags : ∀ field ∈ [("account_mutation", Json.bool false),
          ("ad_spend_mutation", .bool false), ("external_message", .bool false),
          ("payment", .bool false), ("publish", .bool false)],
          field.2.asBool.isSome = true := by decide +kernel
      have fields : defaultTaskGrant.externalEffects = .object [("account_mutation", .bool false),
          ("ad_spend_mutation", .bool false), ("external_message", .bool false),
          ("payment", .bool false), ("publish", .bool false)] := by decide +kernel
      rw [fields] at found
      exact flags _ (Json.mem_of_getField found) }

/-- A grant that names its read tools and leaves the other two lists out. -/
def readOnlyTaskGrant : TaskGrant :=
  { defaultTaskGrant with toolScope := .object [("read", .array [.string "read_file"])] }

def readerVersion : AgentVersion where
  id := 1
  agentId := 1
  version := 1
  tools := ["read_file", "native.connector.call"]
  toolNames := []
  approvalPolicy := emptyJsonObject

def reviewAssignment : HandoffAssignment where
  run := {
    id := 1
    status := .running
    primarySessionId := 1
    rootTaskGrantId := some 1
    inputPayload := .null
    runtimeDelegation := .null }
  specialistSessionId := 2
  semanticScopes := emptyJsonObject
  stepId := 3
  grantId := 4
  now := 0

/-- The empty write lists of the child are refused as an expansion of a parent
without write lists. -/
theorem readOnly_parent_refuses_handoff :
    validateTaskGrantScopeObjects readOnlyTaskGrant = .ok () ∧
      (∃ scopes, childConnectorScopesForAgentVersion readOnlyTaskGrant.connectorScope
        readOnlyTaskGrant.externalEffects readerVersion = .ok scopes) ∧
      jsonScopeContains readOnlyTaskGrant.toolScope
        (childToolScopeForTools readOnlyTaskGrant.toolScope readerVersion.tools) = false ∧
      handoffAssignmentGrant readOnlyTaskGrant readerVersion reviewAssignment =
        .error (.badRequest "child task grant cannot expand parent grant") :=
  ⟨by decide +kernel, ⟨_, rfl⟩, by decide +kernel, by decide +kernel⟩

/-- A grant with the default scopes hands its step over, native calls denied. -/
theorem default_parent_accepts_handoff :
    ∃ grant, handoffAssignmentGrant defaultTaskGrant readerVersion reviewAssignment =
      .ok grant := by
  have distinct : GrantScopesDistinct defaultTaskGrant :=
    ⟨by decide +kernel, by decide +kernel, by decide +kernel, by decide +kernel,
      by decide +kernel⟩
  have accepted := (handoffGrant_accepted_iff_fits defaultTaskGrant readerVersion _ _
    (by decide +kernel) distinct rfl).2 reviewAssignment ⟨none, none, none, none⟩
      (by decide) (by decide +kernel) rfl rfl (by decide +kernel)
  exact ⟨_, accepted.1 (defaultTaskGrant_fits readerVersion)⟩

end MandoForge
