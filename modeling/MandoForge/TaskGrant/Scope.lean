/-
Module: MandoForge.TaskGrant.Scope
Purpose: The checks a child task grant passes against its parent: what budget is
  left, the containment of JSON scopes, and the order on optional limits.
Trusted boundary: 32- and 64-bit counters are integers with explicit range
  checks where the source uses checked arithmetic.
Main exports: jsonScopeContains, ensureChildTaskGrantWithinParent
-/
import MandoForge.Core.Records

namespace MandoForge

/-! ### Checked integer arithmetic -/

/-- The range of a signed integer of `bits + 1` bits. -/
def inSignedRange (bits : Nat) (value : Int) : Bool :=
  decide (-(2 ^ bits : Int) ≤ value ∧ value < 2 ^ bits)

/-- `i32::checked_sub` (`bits = 31`) and `i64::checked_sub` (`bits = 63`). -/
def checkedSub (bits : Nat) (a b : Int) : Option Int :=
  if inSignedRange bits (a - b) then some (a - b) else none

/-- `i32::checked_add` (`bits = 31`) and `i64::checked_add` (`bits = 63`). -/
def checkedAdd (bits : Nat) (a b : Int) : Option Int :=
  if inSignedRange bits (a + b) then some (a + b) else none

/-! ### Validation of a grant by itself -/

def validateTaskGrantScopeObjects (grant : TaskGrant) : Except AppError Unit :=
  [("semantic_scopes", grant.semanticScopes), ("memory_scope", grant.memoryScope),
    ("tool_scope", grant.toolScope), ("connector_scope", grant.connectorScope),
    ("approval_policy", grant.approvalPolicy),
    ("external_effects", grant.externalEffects)].forM fun (field, value) =>
      if value.isObject then .ok ()
      else .error (.badRequest ("task grant " ++ field ++ " must be a JSON object"))

def validateTaskGrantBudgets (grant : TaskGrant) : Except AppError Unit := do
  [("max_turns", grant.maxTurns), ("max_tool_calls", grant.maxToolCalls),
    ("max_runtime_seconds", grant.maxRuntimeSeconds)].forM fun (field, value) =>
      if value.any (· ≤ 0) then
        .error (.badRequest ("task grant " ++ field ++ " must be positive"))
      else .ok ()
  if grant.maxCostUsdMicros.any (· ≤ 0) then
    throw (.badRequest "task grant max_cost_usd_micros must be positive")
  if grant.turnsUsed < 0 ∨ grant.toolCallsUsed < 0 ∨ grant.costUsdMicrosUsed < 0 then
    throw (.badRequest "task grant usage counters cannot be negative")

/-! ### Remaining budgets -/

structure TaskGrantRemainingBudgets where
  maxTurns : Option Int
  maxToolCalls : Option Int
  maxRuntimeSeconds : Option Int
  maxCostUsdMicros : Option Int
deriving DecidableEq, Repr

/-- `signed_duration_since(..).num_seconds()`: whole seconds, rounded towards
zero. -/
def secondsSince (now earlier : Timestamp) : Int :=
  Int.tdiv (now - earlier) 1000000000

/-- What a limit leaves after `used`, or the error for an exhausted budget. -/
def remainingBudget (bits : Nat) (limit : Option Int) (used : Int) (exhausted : String) :
    Except AppError (Option Int) :=
  match limit with
  | none => .ok none
  | some limit =>
      match checkedSub bits limit used with
      | none => .error (.forbidden exhausted)
      | some remaining =>
          if remaining ≤ 0 then .error (.forbidden exhausted) else .ok (some remaining)

def taskGrantRemainingBudgets (grant : TaskGrant) (now : Timestamp) :
    Except AppError TaskGrantRemainingBudgets := do
  let maxRuntimeSeconds ←
    match ← remainingBudget 63 grant.maxRuntimeSeconds
        (max (secondsSince now grant.createdAt) 0)
        "task grant runtime budget is exhausted" with
    | none => pure none
    | some remaining =>
        if inSignedRange 31 remaining then pure (some remaining)
        else throw (.badRequest "task grant runtime budget exceeds supported range")
  let maxCostUsdMicros ←
    remainingBudget 63 grant.maxCostUsdMicros grant.costUsdMicrosUsed
      "task grant cost budget is exhausted"
  let maxTurns ←
    remainingBudget 31 grant.maxTurns grant.turnsUsed
      "task grant turn budget is exhausted"
  let maxToolCalls ←
    remainingBudget 31 grant.maxToolCalls grant.toolCallsUsed
      "task grant tool call budget is exhausted"
  return { maxTurns, maxToolCalls, maxRuntimeSeconds, maxCostUsdMicros }

def limitWithinParent (parent child : Option Int) : Bool :=
  match parent, child with
  | some parent, some child => decide (child ≤ parent)
  | some _, none => false
  | none, _ => true

/-! ### Containment of JSON scopes -/

/-- An array item of a child scope is covered by an item of the parent's array:
the same value, or any string under the wildcard. -/
def scopeItemCovers (childValue parentValue : Json) : Bool :=
  decide (parentValue = childValue) ||
    (decide (parentValue.asStr = some "*") && childValue.isString)

mutual

/-- `json_scope_contains`.  A key the child leaves out counts as narrower. -/
def jsonScopeContains (parent : Json) : (child : Json) → Bool
  | .null => true
  | .object childFields =>
      match parent with
      | .object parentFields => scopeFieldsContained parentFields childFields
      | _ => false
  | .array childItems =>
      match parent with
      | .array parentItems =>
          childItems.all fun childValue => parentItems.any (scopeItemCovers childValue)
      | _ => false
  | .bool childFlag =>
      match parent with
      | .bool true => true
      | _ => decide (parent = .bool childFlag)
  | .number childNumber => decide (parent = .number childNumber)
  | .string childText => decide (parent = .string childText)

/-- The object case of `json_scope_contains`: every field of the child is within
the parent's field of the same key. -/
def scopeFieldsContained (parentFields : List (String × Json)) :
    (childFields : List (String × Json)) → Bool
  | [] => true
  | (key, childValue) :: rest =>
      (match Json.getField key parentFields with
        | some parentValue => jsonScopeContains parentValue childValue
        | none => false) &&
        scopeFieldsContained parentFields rest

end

def ensureChildTaskGrantWithinParent (parent child : TaskGrant) : Except AppError Unit := do
  let remaining ← taskGrantRemainingBudgets parent child.createdAt
  let withinParent :=
    decide (child.workflowRunId = parent.workflowRunId) &&
      limitWithinParent remaining.maxTurns child.maxTurns &&
      limitWithinParent remaining.maxToolCalls child.maxToolCalls &&
      limitWithinParent remaining.maxRuntimeSeconds child.maxRuntimeSeconds &&
      limitWithinParent remaining.maxCostUsdMicros child.maxCostUsdMicros &&
      jsonScopeContains parent.semanticScopes child.semanticScopes &&
      jsonScopeContains parent.memoryScope child.memoryScope &&
      jsonScopeContains parent.toolScope child.toolScope &&
      jsonScopeContains parent.connectorScope child.connectorScope &&
      jsonScopeContains parent.approvalPolicy child.approvalPolicy &&
      jsonScopeContains parent.externalEffects child.externalEffects
  if withinParent then return ()
  else throw (.badRequest "child task grant cannot expand parent grant")

/-- The scopes of the child are contained in those of its parent, one by one. -/
structure ScopesContained (parent child : TaskGrant) : Prop where
  semantic : jsonScopeContains parent.semanticScopes child.semanticScopes = true
  memory : jsonScopeContains parent.memoryScope child.memoryScope = true
  tool : jsonScopeContains parent.toolScope child.toolScope = true
  connector : jsonScopeContains parent.connectorScope child.connectorScope = true
  approval : jsonScopeContains parent.approvalPolicy child.approvalPolicy = true
  effects : jsonScopeContains parent.externalEffects child.externalEffects = true

theorem scopesContained_of_accepted {parent child : TaskGrant}
    (accepted : ensureChildTaskGrantWithinParent parent child = .ok ()) :
    ScopesContained parent child := by
  unfold ensureChildTaskGrantWithinParent at accepted
  cases budgets : taskGrantRemainingBudgets parent child.createdAt with
  | error error => simp [budgets, bind, Except.bind] at accepted
  | ok remaining =>
      simp only [budgets, bind, Except.bind] at accepted
      split at accepted
      · rename_i within
        simp only [Bool.and_eq_true] at within
        obtain ⟨⟨⟨⟨⟨⟨_, semantic⟩, memory⟩, tool⟩, connector⟩, approval⟩, effects⟩ := within
        exact { semantic, memory, tool, connector, approval, effects }
      · cases accepted

/-- `json_string_array_contains`: the array has the string or the wildcard. -/
def jsonStringArrayContains (value : Option Json) (expected : String) : Bool :=
  match value.bind Json.asArray with
  | some items =>
      items.any fun item =>
        match item.asStr with
        | some text => decide (text = "*" ∨ text = expected)
        | none => false
  | none => false

/-! ### What containment says about single keys -/

theorem getField_contained {parentFields childFields : List (String × Json)}
    {key : String} {childValue : Json}
    (contained : scopeFieldsContained parentFields childFields = true)
    (found : Json.getField key childFields = some childValue) :
    ∃ parentValue, Json.getField key parentFields = some parentValue ∧
      jsonScopeContains parentValue childValue = true := by
  induction childFields with
  | nil => simp [Json.getField] at found
  | cons field rest inductionHypothesis =>
      obtain ⟨name, value⟩ := field
      simp only [scopeFieldsContained, Bool.and_eq_true] at contained
      by_cases same : name = key
      · subst same
        simp only [Json.getField, if_true, Option.some.injEq] at found
        subst found
        cases lookup : Json.getField name parentFields with
        | none => simp [lookup] at contained
        | some parentValue =>
            exact ⟨parentValue, rfl, by simpa [lookup] using contained.1⟩
      · simp only [Json.getField, if_neg same] at found
        exact inductionHypothesis contained.2 found

theorem get_contained {parent child childValue : Json} {key : String}
    (contained : jsonScopeContains parent child = true)
    (found : child.get key = some childValue) :
    ∃ parentValue, parent.get key = some parentValue ∧
      jsonScopeContains parentValue childValue = true := by
  cases child with
  | object childFields =>
      cases parent with
      | object parentFields =>
          simp only [jsonScopeContains] at contained
          exact getField_contained contained found
      | _ => simp [jsonScopeContains] at contained
  | _ => simp [Json.get] at found

/-- Containment of arrays, read off item by item. -/
theorem asArray_contained {parent child : Json} {childItems : List Json}
    (contained : jsonScopeContains parent child = true)
    (items : child.asArray = some childItems) :
    ∃ parentItems, parent.asArray = some parentItems ∧
      ∀ childValue ∈ childItems, ∃ parentValue ∈ parentItems,
        scopeItemCovers childValue parentValue = true := by
  cases child with
  | array elements =>
      cases items
      cases parent with
      | array parentItems =>
          refine ⟨parentItems, rfl, fun childValue member => ?_⟩
          simp only [jsonScopeContains, List.all_eq_true, List.any_eq_true] at contained
          exact contained childValue member
      | _ => simp [jsonScopeContains] at contained
  | _ => simp [Json.asArray] at items

theorem asStr_contained {parent child : Json} {text : String}
    (contained : jsonScopeContains parent child = true)
    (isText : child.asStr = some text) : parent.asStr = some text := by
  cases child with
  | string value =>
      simp only [jsonScopeContains, decide_eq_true_eq] at contained
      simpa [contained] using isText
  | _ => simp [Json.asStr] at isText

theorem asBool_true_contained {parent child : Json}
    (contained : jsonScopeContains parent child = true)
    (isTrue : child.asBool = some true) : parent.asBool = some true := by
  cases child with
  | bool flag =>
      simp only [Json.asBool, Option.some.injEq] at isTrue
      subst isTrue
      cases parent with
      | bool parentFlag => cases parentFlag <;> simp_all [jsonScopeContains, Json.asBool]
      | _ => simp [jsonScopeContains] at contained
  | _ => simp [Json.asBool] at isTrue

/-- Arrays of names attenuate: a name the child's array admits is admitted by
the parent's array, wildcards included. -/
theorem jsonStringArrayContains_contained {parent child : Json} {key name : String}
    (contained : jsonScopeContains parent child = true)
    (admitted : jsonStringArrayContains (child.get key) name = true) :
    jsonStringArrayContains (parent.get key) name = true := by
  cases found : child.get key with
  | none => simp [found, jsonStringArrayContains] at admitted
  | some childValue =>
      obtain ⟨parentValue, parentFound, valueContained⟩ := get_contained contained found
      cases items : childValue.asArray with
      | none => simp [found, jsonStringArrayContains, items] at admitted
      | some childItems =>
          obtain ⟨parentItems, parentIsArray, covered⟩ :=
            asArray_contained valueContained items
          simp only [found, jsonStringArrayContains, Option.bind_some, items,
            List.any_eq_true] at admitted
          obtain ⟨item, member, admits⟩ := admitted
          obtain ⟨parentItem, parentMember, covers⟩ := covered item member
          simp only [jsonStringArrayContains, parentFound, Option.bind_some,
            parentIsArray, List.any_eq_true]
          refine ⟨parentItem, parentMember, ?_⟩
          simp only [scopeItemCovers, Bool.or_eq_true, decide_eq_true_eq,
            Bool.and_eq_true] at covers
          rcases covers with same | wildcard
          · simpa [same] using admits
          · simp [wildcard.1]

end MandoForge
