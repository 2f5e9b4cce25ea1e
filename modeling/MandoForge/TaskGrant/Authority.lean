/-
Module: MandoForge.TaskGrant.Authority
Purpose: What a task grant permits: plain tools, MCP calls and native connector
  calls, and the proof that a child grant accepted under its parent permits no
  more, except where the parent binds native operations and the child leaves the
  binding list out.
Trusted boundary: `mcpCallRequest` follows the derived deserializer of the MCP
  request record (an object with ignored extra keys, or a tuple-like array).
Main exports: taskGrantAllowsTool, AuthorityWithin
-/
import MandoForge.Data.Text
import MandoForge.TaskGrant.Scope
import Mathlib.Logic.Relation

namespace MandoForge

/-! ### The checks of the source -/

def taskGrantAllowsTool (grant : TaskGrant) (toolName : String) : Bool :=
  ["read", "write", "external_write"].any fun key =>
    jsonStringArrayContains (grant.toolScope.get key) toolName

def taskGrantAllowsSideEffectClass (grant : TaskGrant) (sideEffectClass : String) : Bool :=
  jsonStringArrayContains (grant.connectorScope.get "side_effect_classes")
      sideEffectClass &&
    decide ((grant.externalEffects.get sideEffectClass).bind Json.asBool = some true)

def nativeConnectorInvocationRequested (toolName : String) (args : Json) : Bool :=
  decide (toolName = "native.connector.call") ||
    (args.get "connector_id").isSome || (args.get "connector").isSome

structure NativeConnectorCallTarget where
  connectorId : String
  operation : String
  sideEffectClass : String
deriving DecidableEq, Repr

/-- A required, trimmed, non-empty string argument. -/
def requiredText (value : Option Json) (missing : String) : Except AppError String :=
  match (value.bind Json.asStr).bind nonEmptyTrimmed with
  | some text => .ok text
  | none => .error (.badRequest missing)

def nativeConnectorCallTarget (args : Json) : Except AppError NativeConnectorCallTarget := do
  if !args.isObject then
    throw (.badRequest "native connector args must be a JSON object")
  let connectorId ← requiredText (args.get "connector_id" <|> args.get "connector")
    "native connector call requires connector_id"
  let operation ← requiredText
    (args.get "operation" <|> args.get "tool" <|> args.get "action")
    "native connector call requires operation"
  let sideEffectClass ← requiredText (args.get "side_effect_class")
    "native connector call requires side_effect_class"
  return { connectorId, operation, sideEffectClass }

/-- A binding of `native_operation_bindings` names the call's target. -/
def bindingMatches (target : NativeConnectorCallTarget) (binding : Json) : Bool :=
  decide ((binding.get "connector_id").bind Json.asStr = some target.connectorId) &&
    decide ((binding.get "operation").bind Json.asStr = some target.operation) &&
    decide ((binding.get "side_effect_class").bind Json.asStr =
      some target.sideEffectClass)

/-- `scope.get("mode").and_then(Value::as_str).unwrap_or_default()`. -/
def connectorMode (scope : Json) : String :=
  ((scope.get "mode").bind Json.asStr).getD ""

/-- The checks of a native connector call after its operation bindings. -/
def nativeListsDenial (grant : TaskGrant) (toolName : String)
    (target : NativeConnectorCallTarget) : Option String :=
  if !jsonStringArrayContains (grant.connectorScope.get "allowed_connector_ids")
      target.connectorId then
    some "task grant connector scope does not allow native connector id"
  else if !jsonStringArrayContains (grant.connectorScope.get "allowed_tool_names")
        target.operation &&
      !jsonStringArrayContains (grant.connectorScope.get "allowed_tool_names") toolName then
    some "task grant connector scope does not allow native connector operation"
  else if !taskGrantAllowsSideEffectClass grant target.sideEffectClass then
    some ("task grant side effect class " ++ target.sideEffectClass ++ " is not allowed")
  else none

structure McpCallRequest where
  server : String
  tool : String
  args : Json
deriving DecidableEq, Repr

/-- Deserialization of `McpCallRequest` from a JSON value: `args` may be left
out. -/
def mcpCallRequest : Json → Except AppError McpCallRequest
  | .object fields =>
      match (Json.getField "server" fields).bind Json.asStr,
        (Json.getField "tool" fields).bind Json.asStr with
      | some server, some tool =>
          .ok { server, tool, args := (Json.getField "args" fields).getD .null }
      | _, _ => .error (.badRequest "invalid MCP call request")
  | .array [.string server, .string tool] => .ok { server, tool, args := .null }
  | .array [.string server, .string tool, args] => .ok { server, tool, args }
  | _ => .error (.badRequest "invalid MCP call request")

/-- The checks of `task_grant_mcp_call_denial` on a decoded request. -/
def mcpRequestDenial (grant : TaskGrant) (request : McpCallRequest) : Option String :=
  let server := trim request.server
  let tool := trim request.tool
  let mode := connectorMode grant.connectorScope
  if server = "" ∨ tool = "" then
    some "task grant connector scope requires MCP server and tool"
  else if ¬(mode = "read_only" ∨ mode = "draft_write" ∨ mode = "commit_write") then
    some "task grant connector scope does not allow MCP call mode"
  else if !jsonStringArrayContains (grant.connectorScope.get "allowed_connector_ids")
      server then
    some "task grant connector scope does not allow MCP server"
  else if !jsonStringArrayContains (grant.connectorScope.get "allowed_tool_names") tool then
    some "task grant connector scope does not allow MCP tool"
  else
    match ((request.args.get "side_effect_class").bind Json.asStr).bind nonEmptyTrimmed with
    | some sideEffectClass =>
        if !taskGrantAllowsSideEffectClass grant sideEffectClass then
          some ("task grant side effect class " ++ sideEffectClass ++ " is not allowed")
        else none
    | none => none

def taskGrantMcpCallDenial (grant : TaskGrant) (args : Json) :
    Except AppError (Option String) := do
  let request ← mcpCallRequest args
  return mcpRequestDenial grant request

/-- The check of `native_operation_bindings`; a scope without the key binds
nothing and refuses nothing. -/
def nativeBindingsDenial (grant : TaskGrant) (target : NativeConnectorCallTarget) :
    Except AppError (Option String) :=
  match grant.connectorScope.get "native_operation_bindings" with
  | none => .ok none
  | some bindings =>
      match bindings.asArray with
      | none =>
          .error (.badRequest
            "task grant connector scope native_operation_bindings must be an array")
      | some items =>
          if items.any (bindingMatches target) then .ok none
          else .ok (some
            "task grant connector scope does not allow native connector operation binding")

/-- The native half of `task_grant_connector_invocation_denial`. -/
def nativeTargetDenial (grant : TaskGrant) (toolName : String)
    (target : NativeConnectorCallTarget) : Except AppError (Option String) :=
  if connectorMode grant.connectorScope ≠ "commit_write" then
    .ok (some "native connector side effects require commit_write connector scope")
  else do
    match ← nativeBindingsDenial grant target with
    | some denial => return some denial
    | none => return nativeListsDenial grant toolName target

def taskGrantConnectorInvocationDenial (grant : TaskGrant) (toolName : String)
    (args : Json) : Except AppError (Option String) :=
  if toolName = "mcp.call" then taskGrantMcpCallDenial grant args
  else if !nativeConnectorInvocationRequested toolName args then .ok none
  else do
    let target ← nativeConnectorCallTarget args
    nativeTargetDenial grant toolName target

/-! ### Authority as a relation between grants -/

/-- The lower grant permits nothing that the upper grant refuses: no tool, and
no connector invocation. -/
structure AuthorityWithin (upper lower : TaskGrant) : Prop where
  tools : ∀ toolName, taskGrantAllowsTool lower toolName = true →
    taskGrantAllowsTool upper toolName = true
  invocations : ∀ toolName args,
    taskGrantConnectorInvocationDenial lower toolName args = .ok none →
    taskGrantConnectorInvocationDenial upper toolName args = .ok none

theorem AuthorityWithin.refl (grant : TaskGrant) : AuthorityWithin grant grant :=
  ⟨fun _ allowed => allowed, fun _ _ permitted => permitted⟩

theorem AuthorityWithin.trans {upper middle lower : TaskGrant}
    (first : AuthorityWithin upper middle) (second : AuthorityWithin middle lower) :
    AuthorityWithin upper lower :=
  ⟨fun toolName allowed => first.tools toolName (second.tools toolName allowed),
    fun toolName args permitted =>
      first.invocations toolName args (second.invocations toolName args permitted)⟩

/-- The grant's mode commits writes, and its lists name the connector, the
operation or the tool, and an enabled side effect class. -/
structure ListsAdmitNativeCall (grant : TaskGrant) (toolName : String)
    (target : NativeConnectorCallTarget) : Prop where
  mode : connectorMode grant.connectorScope = "commit_write"
  connectorId : jsonStringArrayContains (grant.connectorScope.get "allowed_connector_ids")
    target.connectorId = true
  operation :
    jsonStringArrayContains (grant.connectorScope.get "allowed_tool_names")
        target.operation = true ∨
      jsonStringArrayContains (grant.connectorScope.get "allowed_tool_names")
        toolName = true
  sideEffectClass : taskGrantAllowsSideEffectClass grant target.sideEffectClass = true

/-- The grant's operation bindings name the target of a native call. -/
def BindsNativeCall (grant : TaskGrant) (target : NativeConnectorCallTarget) : Prop :=
  ∃ bindings items, grant.connectorScope.get "native_operation_bindings" = some bindings ∧
    bindings.asArray = some items ∧ items.any (bindingMatches target) = true

/-- A target that a call can name: its parts are trimmed and not empty. -/
def NativeConnectorCallTarget.Nameable (target : NativeConnectorCallTarget) : Prop :=
  nonEmptyTrimmed target.connectorId = some target.connectorId ∧
    nonEmptyTrimmed target.operation = some target.operation ∧
    nonEmptyTrimmed target.sideEffectClass = some target.sideEffectClass

/-- The child keeps the restriction of its parent to bound native operations:
the parent has none, the child carries a binding list of its own, or the parent
binds every native call that the child's other lists admit. -/
def NativeBindingsKept (parent child : TaskGrant) : Prop :=
  parent.connectorScope.get "native_operation_bindings" = none ∨
    (child.connectorScope.get "native_operation_bindings").isSome = true ∨
    ∀ toolName target, toolName ≠ "mcp.call" → target.Nameable →
      ListsAdmitNativeCall child toolName target → BindsNativeCall parent target

/-! ### What it takes to pass a check -/

theorem listsAdmitNativeCall_iff {grant : TaskGrant} {toolName : String}
    {target : NativeConnectorCallTarget} :
    ListsAdmitNativeCall grant toolName target ↔
      connectorMode grant.connectorScope = "commit_write" ∧
        nativeListsDenial grant toolName target = none := by
  have lists : nativeListsDenial grant toolName target = none ↔
      jsonStringArrayContains (grant.connectorScope.get "allowed_connector_ids")
          target.connectorId = true ∧
        (jsonStringArrayContains (grant.connectorScope.get "allowed_tool_names")
            target.operation = true ∨
          jsonStringArrayContains (grant.connectorScope.get "allowed_tool_names")
            toolName = true) ∧
        taskGrantAllowsSideEffectClass grant target.sideEffectClass = true := by
    unfold nativeListsDenial
    split_ifs <;> simp_all [imp_iff_not_or]
  rw [lists]
  exact ⟨fun admitted => ⟨admitted.mode, admitted.connectorId, admitted.operation,
      admitted.sideEffectClass⟩,
    fun ⟨mode, connectorId, operation, sideEffectClass⟩ =>
      ⟨mode, connectorId, operation, sideEffectClass⟩⟩

theorem mcpRequestDenial_eq_none {grant : TaskGrant} {request : McpCallRequest} :
    mcpRequestDenial grant request = none ↔
      ¬(trim request.server = "" ∨ trim request.tool = "") ∧
        (connectorMode grant.connectorScope = "read_only" ∨
          connectorMode grant.connectorScope = "draft_write" ∨
          connectorMode grant.connectorScope = "commit_write") ∧
        jsonStringArrayContains (grant.connectorScope.get "allowed_connector_ids")
          (trim request.server) = true ∧
        jsonStringArrayContains (grant.connectorScope.get "allowed_tool_names")
          (trim request.tool) = true ∧
        ∀ sideEffectClass,
          ((request.args.get "side_effect_class").bind Json.asStr).bind nonEmptyTrimmed =
              some sideEffectClass →
            taskGrantAllowsSideEffectClass grant sideEffectClass = true := by
  unfold mcpRequestDenial
  cases requested : ((request.args.get "side_effect_class").bind Json.asStr).bind
      nonEmptyTrimmed with
  | none => simp only; split_ifs <;> simp_all
  | some sideEffectClass => simp only; split_ifs <;> simp_all

/-- A native target is admitted when the mode commits writes, the bindings, if
there are any, name it, and the lists admit it. -/
theorem nativeTargetDenial_eq_ok_none {grant : TaskGrant} {toolName : String}
    {target : NativeConnectorCallTarget} :
    nativeTargetDenial grant toolName target = .ok none ↔
      ListsAdmitNativeCall grant toolName target ∧
        (grant.connectorScope.get "native_operation_bindings" = none ∨
          BindsNativeCall grant target) := by
  rw [listsAdmitNativeCall_iff]
  unfold nativeTargetDenial nativeBindingsDenial BindsNativeCall
  by_cases mode : connectorMode grant.connectorScope = "commit_write"
  · cases found : grant.connectorScope.get "native_operation_bindings" with
    | none => simp [mode, bind, Except.bind, pure, Except.pure]
    | some bindings =>
        cases isArray : bindings.asArray with
        | none => simp [mode, isArray, bind, Except.bind]
        | some items =>
            cases bound : items.any (bindingMatches target) with
            | false =>
                have unbound : ∀ item ∈ items, bindingMatches target item = false := by
                  simpa using bound
                simp [mode, isArray, bound, bind, Except.bind, pure, Except.pure]
                exact fun _ => unbound
            | true =>
                have bindsSome : ∃ item ∈ items, bindingMatches target item = true := by
                  simpa using bound
                simp [mode, isArray, bound, bind, Except.bind, pure, Except.pure]
                exact fun _ => bindsSome
  · simp [mode]

/-! ### Each check attenuates -/

/-- The scopes of an accepted child are within those of its parent. -/
structure ScopesWithin (parent child : TaskGrant) : Prop where
  tool : jsonScopeContains parent.toolScope child.toolScope = true
  connector : jsonScopeContains parent.connectorScope child.connectorScope = true
  effects : jsonScopeContains parent.externalEffects child.externalEffects = true

theorem scopesWithin_of_accepted {parent child : TaskGrant}
    (accepted : ensureChildTaskGrantWithinParent parent child = .ok ()) :
    ScopesWithin parent child :=
  let contained := scopesContained_of_accepted accepted
  ⟨contained.tool, contained.connector, contained.effects⟩

section

variable {parent child : TaskGrant}

theorem allowsTool_within (within : ScopesWithin parent child) {toolName : String}
    (allowed : taskGrantAllowsTool child toolName = true) :
    taskGrantAllowsTool parent toolName = true := by
  simp only [taskGrantAllowsTool, List.any_eq_true] at allowed ⊢
  obtain ⟨key, member, admitted⟩ := allowed
  exact ⟨key, member, jsonStringArrayContains_contained within.tool admitted⟩

theorem sideEffectClass_within (within : ScopesWithin parent child)
    {sideEffectClass : String}
    (allowed : taskGrantAllowsSideEffectClass child sideEffectClass = true) :
    taskGrantAllowsSideEffectClass parent sideEffectClass = true := by
  simp only [taskGrantAllowsSideEffectClass, Bool.and_eq_true, decide_eq_true_eq]
    at allowed ⊢
  refine ⟨jsonStringArrayContains_contained within.connector allowed.1, ?_⟩
  obtain ⟨flag, found, isTrue⟩ := Option.bind_eq_some_iff.mp allowed.2
  obtain ⟨parentFlag, parentFound, contained⟩ := get_contained within.effects found
  rw [parentFound]
  exact asBool_true_contained contained isTrue

theorem connectorMode_within (within : ScopesWithin parent child)
    (named : connectorMode child.connectorScope ≠ "") :
    connectorMode parent.connectorScope = connectorMode child.connectorScope := by
  unfold connectorMode at named ⊢
  cases found : (child.connectorScope.get "mode").bind Json.asStr with
  | none => simp [found] at named
  | some mode =>
      obtain ⟨value, present, isText⟩ := Option.bind_eq_some_iff.mp found
      obtain ⟨parentValue, parentPresent, contained⟩ :=
        get_contained within.connector present
      simp [parentPresent, asStr_contained contained isText]

theorem mcpRequest_within (within : ScopesWithin parent child) {request : McpCallRequest}
    (admitted : mcpRequestDenial child request = none) :
    mcpRequestDenial parent request = none := by
  rw [mcpRequestDenial_eq_none] at admitted ⊢
  obtain ⟨named, mode, server, tool, effect⟩ := admitted
  have sameMode : connectorMode parent.connectorScope =
      connectorMode child.connectorScope := by
    apply connectorMode_within within
    intro unnamed
    simp [unnamed] at mode
  exact ⟨named, sameMode ▸ mode,
    jsonStringArrayContains_contained within.connector server,
    jsonStringArrayContains_contained within.connector tool,
    fun sideEffectClass requested =>
      sideEffectClass_within within (effect sideEffectClass requested)⟩

theorem mcpCall_within (within : ScopesWithin parent child) {args : Json}
    (permitted : taskGrantMcpCallDenial child args = .ok none) :
    taskGrantMcpCallDenial parent args = .ok none := by
  unfold taskGrantMcpCallDenial at permitted ⊢
  cases decoded : mcpCallRequest args with
  | error error => simp [decoded, bind, Except.bind] at permitted
  | ok request =>
      simp only [decoded, bind, Except.bind, pure, Except.pure, Except.ok.injEq]
        at permitted ⊢
      exact mcpRequest_within within permitted

theorem bindsNativeCall_within (within : ScopesWithin parent child)
    {target : NativeConnectorCallTarget} (bound : BindsNativeCall child target) :
    BindsNativeCall parent target := by
  obtain ⟨bindings, items, found, isArray, matched⟩ := bound
  obtain ⟨parentBindings, parentFound, contained⟩ := get_contained within.connector found
  obtain ⟨parentItems, parentIsArray, covered⟩ := asArray_contained contained isArray
  obtain ⟨binding, member, isMatch⟩ := List.any_eq_true.mp matched
  obtain ⟨parentBinding, parentMember, covers⟩ := covered binding member
  refine ⟨parentBindings, parentItems, parentFound, parentIsArray,
    List.any_eq_true.mpr ⟨parentBinding, parentMember, ?_⟩⟩
  simp only [scopeItemCovers, Bool.or_eq_true, decide_eq_true_eq, Bool.and_eq_true] at covers
  rcases covers with same | ⟨_, isText⟩
  · exact same ▸ isMatch
  · -- the wildcard covers strings only, and a string has no `connector_id`
    cases binding <;> simp_all [Json.isString, bindingMatches, Json.get]

theorem listsAdmit_within (within : ScopesWithin parent child) {toolName : String}
    {target : NativeConnectorCallTarget}
    (admitted : ListsAdmitNativeCall child toolName target) :
    ListsAdmitNativeCall parent toolName target := by
  have names : ∀ key name,
      jsonStringArrayContains (child.connectorScope.get key) name = true →
        jsonStringArrayContains (parent.connectorScope.get key) name = true :=
    fun _ _ => jsonStringArrayContains_contained within.connector
  exact {
    mode := by rw [connectorMode_within within (by simp [admitted.mode]), admitted.mode]
    connectorId := names _ _ admitted.connectorId
    operation := admitted.operation.imp (names _ _) (names _ _)
    sideEffectClass := sideEffectClass_within within admitted.sideEffectClass }

/-! ### The targets that calls can name -/

theorem requiredText_trimmed {value : Option Json} {missing text : String}
    (found : requiredText value missing = .ok text) :
    nonEmptyTrimmed text = some text := by
  unfold requiredText at found
  cases present : (value.bind Json.asStr).bind nonEmptyTrimmed with
  | none => simp [present] at found
  | some trimmed =>
      obtain ⟨raw, _, isTrimmed⟩ := Option.bind_eq_some_iff.mp present
      simp only [present, Except.ok.injEq] at found
      exact nonEmptyTrimmed_of_eq_some (found ▸ isTrimmed)

theorem nativeConnectorCallTarget_nameable {args : Json}
    {target : NativeConnectorCallTarget}
    (decoded : nativeConnectorCallTarget args = .ok target) : target.Nameable := by
  unfold nativeConnectorCallTarget at decoded
  simp only [bind, Except.bind, throw, throwThe, MonadExceptOf.throw, pure,
    Except.pure] at decoded
  split at decoded
  · cases decoded
  · split at decoded
    · cases decoded
    · rename_i connectorId connectorFound
      split at decoded
      · cases decoded
      · rename_i operation operationFound
        split at decoded
        · cases decoded
        · rename_i sideEffectClass sideEffectFound
          cases decoded
          exact ⟨requiredText_trimmed connectorFound, requiredText_trimmed operationFound,
            requiredText_trimmed sideEffectFound⟩

/-- The arguments of a native call with the given target. -/
def NativeConnectorCallTarget.args (target : NativeConnectorCallTarget) : Json :=
  .object [("connector_id", .string target.connectorId),
    ("operation", .string target.operation),
    ("side_effect_class", .string target.sideEffectClass)]

theorem nativeConnectorCallTarget_args {target : NativeConnectorCallTarget}
    (nameable : target.Nameable) : nativeConnectorCallTarget target.args = .ok target := by
  obtain ⟨connectorId, operation, sideEffectClass⟩ := nameable
  simp [nativeConnectorCallTarget, NativeConnectorCallTarget.args, requiredText,
    Json.isObject, Json.get, Json.getField, Json.asStr, connectorId, operation,
    sideEffectClass, bind, Except.bind, pure, Except.pure]

theorem taskGrantConnectorInvocationDenial_args {grant : TaskGrant} {toolName : String}
    {target : NativeConnectorCallTarget} (native : toolName ≠ "mcp.call")
    (nameable : target.Nameable) :
    taskGrantConnectorInvocationDenial grant toolName target.args =
      nativeTargetDenial grant toolName target := by
  have requested : nativeConnectorInvocationRequested toolName target.args = true := by
    simp [nativeConnectorInvocationRequested, NativeConnectorCallTarget.args, Json.get,
      Json.getField]
  simp [taskGrantConnectorInvocationDenial, native, requested,
    nativeConnectorCallTarget_args nameable, bind, Except.bind]

/-! ### Attenuation -/

/-- With the bindings kept, every connector invocation attenuates. -/
theorem invocation_within (within : ScopesWithin parent child)
    (kept : NativeBindingsKept parent child) {toolName : String} {args : Json}
    (permitted : taskGrantConnectorInvocationDenial child toolName args = .ok none) :
    taskGrantConnectorInvocationDenial parent toolName args = .ok none := by
  unfold taskGrantConnectorInvocationDenial at permitted ⊢
  by_cases mcp : toolName = "mcp.call"
  · rw [if_pos mcp] at permitted ⊢
    exact mcpCall_within within permitted
  · rw [if_neg mcp] at permitted ⊢
    cases requested : nativeConnectorInvocationRequested toolName args with
    | false => simp
    | true =>
        simp only [requested, Bool.not_true, Bool.false_eq_true, if_false] at permitted ⊢
        cases decoded : nativeConnectorCallTarget args with
        | error error => simp [decoded, bind, Except.bind] at permitted
        | ok target =>
            simp only [decoded, bind, Except.bind] at permitted ⊢
            obtain ⟨admitted, bound⟩ := nativeTargetDenial_eq_ok_none.mp permitted
            refine nativeTargetDenial_eq_ok_none.mpr ⟨listsAdmit_within within admitted, ?_⟩
            rcases kept with parentUnbound | childBinds | parentBinds
            · exact .inl parentUnbound
            · rcases bound with unbound | bound
              · simp [unbound] at childBinds
              · exact .inr (bindsNativeCall_within within bound)
            · exact .inr (parentBinds toolName target mcp
                (nativeConnectorCallTarget_nameable decoded) admitted)

theorem authorityWithin_of_kept (within : ScopesWithin parent child)
    (kept : NativeBindingsKept parent child) : AuthorityWithin parent child :=
  ⟨fun _ => allowsTool_within within, fun _ _ => invocation_within within kept⟩

/-- A child that attenuates keeps the bindings: a native call that its lists
admit and that the parent does not bind would be a call the parent refuses. -/
theorem kept_of_authorityWithin (attenuates : AuthorityWithin parent child) :
    NativeBindingsKept parent child := by
  cases parentBindings : parent.connectorScope.get "native_operation_bindings" with
  | none => exact .inl parentBindings
  | some bindings =>
      cases childBindings : child.connectorScope.get "native_operation_bindings" with
      | some childBinds => exact .inr (.inl (by simp [childBindings]))
      | none =>
          refine .inr (.inr fun toolName target native nameable admitted => ?_)
          have permitted :
              taskGrantConnectorInvocationDenial child toolName target.args = .ok none := by
            rw [taskGrantConnectorInvocationDenial_args native nameable]
            exact nativeTargetDenial_eq_ok_none.mpr ⟨admitted, .inl childBindings⟩
          have parentPermitted := attenuates.invocations toolName target.args permitted
          rw [taskGrantConnectorInvocationDenial_args native nameable] at parentPermitted
          rcases (nativeTargetDenial_eq_ok_none.mp parentPermitted).2 with unbound | bound
          · simp [unbound] at parentBindings
          · exact bound

end

/-- A parent and a child grant that the control plane accepts together: the
scopes of both are objects, and the child passes the check against its parent. -/
structure AcceptedUnder (parent child : TaskGrant) : Prop where
  parentScopes : validateTaskGrantScopeObjects parent = .ok ()
  childScopes : validateTaskGrantScopeObjects child = .ok ()
  within : ensureChildTaskGrantWithinParent parent child = .ok ()

instance (parent child : TaskGrant) : Decidable (AcceptedUnder parent child) :=
  decidable_of_iff
    (validateTaskGrantScopeObjects parent = .ok () ∧
      validateTaskGrantScopeObjects child = .ok () ∧
      ensureChildTaskGrantWithinParent parent child = .ok ())
    ⟨fun ⟨parentScopes, childScopes, within⟩ => ⟨parentScopes, childScopes, within⟩,
      fun ⟨parentScopes, childScopes, within⟩ => ⟨parentScopes, childScopes, within⟩⟩

/-- An accepted child attenuates its parent exactly when it keeps the parent's
native operation bindings; so along any chain of such links the last grant holds
no authority that the first one lacks. -/
theorem acceptedChild_attenuates_iff_bindingsKept (ancestor : TaskGrant) :
    (∀ child, AcceptedUnder ancestor child →
      (AuthorityWithin ancestor child ↔ NativeBindingsKept ancestor child)) ∧
    ∀ descendant,
      Relation.ReflTransGen
          (fun parent child => AcceptedUnder parent child ∧ NativeBindingsKept parent child)
          ancestor descendant →
        AuthorityWithin ancestor descendant := by
  have single : ∀ parent child, AcceptedUnder parent child →
      (AuthorityWithin parent child ↔ NativeBindingsKept parent child) :=
    fun parent child accepted => ⟨kept_of_authorityWithin,
      authorityWithin_of_kept (scopesWithin_of_accepted accepted.within)⟩
  refine ⟨single ancestor, fun descendant chain => ?_⟩
  induction chain with
  | refl => exact AuthorityWithin.refl ancestor
  | tail _ link inductionHypothesis =>
      exact inductionHypothesis.trans ((single _ _ link.1).mpr link.2)

/-! ### A child without bindings -/

/-- A grant of one native connector, without budgets, with the given connector
scope. -/
def crmGrant (connectorScope : Json) : TaskGrant where
  id := 1
  workflowRunId := 1
  workflowStepRunId := none
  sessionId := none
  parentGrantId := none
  granteeSessionId := none
  status := .active
  expiresAt := none
  maxTurns := none
  maxToolCalls := none
  maxRuntimeSeconds := none
  maxCostUsdMicros := none
  turnsUsed := 0
  toolCallsUsed := 0
  costUsdMicrosUsed := 0
  semanticScopes := emptyJsonObject
  memoryScope := emptyJsonObject
  toolScope := emptyJsonObject
  connectorScope := connectorScope
  approvalPolicy := emptyJsonObject
  externalEffects := .object [("write", .bool true)]
  createdAt := 0

/-- The connector scope of a grant that may update and delete, with or without
the operation bindings. -/
def crmConnectorScope (bindings : List (String × Json)) : Json :=
  .object ([("allowed_connector_ids", .array [.string "crm"]),
    ("allowed_tool_names", .array [.string "update", .string "delete"]),
    ("mode", .string "commit_write")] ++ bindings ++
    [("side_effect_classes", .array [.string "write"])])

/-- Only the update is bound. -/
def crmUpdateBinding : List (String × Json) :=
  [("native_operation_bindings", .array [.object [("connector_id", .string "crm"),
    ("operation", .string "update"), ("side_effect_class", .string "write")]])]

def crmParent : TaskGrant := crmGrant (crmConnectorScope crmUpdateBinding)

def crmChild : TaskGrant :=
  { crmGrant (crmConnectorScope []) with id := 2, parentGrantId := some 1 }

def crmDelete : NativeConnectorCallTarget where
  connectorId := "crm"
  operation := "delete"
  sideEffectClass := "write"

/-- The child that leaves the bindings out may delete; its parent may not. -/
theorem accepted_child_exceeds_parent :
    AcceptedUnder crmParent crmChild ∧
      taskGrantConnectorInvocationDenial crmChild "native.connector.call"
        crmDelete.args = .ok none ∧
      taskGrantConnectorInvocationDenial crmParent "native.connector.call"
        crmDelete.args = .ok (some
          "task grant connector scope does not allow native connector operation binding") ∧
      ¬AuthorityWithin crmParent crmChild := by
  have childPermits : taskGrantConnectorInvocationDenial crmChild "native.connector.call"
      crmDelete.args = .ok none := by decide +kernel
  have parentRefuses : taskGrantConnectorInvocationDenial crmParent
      "native.connector.call" crmDelete.args = .ok (some
        "task grant connector scope does not allow native connector operation binding") := by
    decide +kernel
  refine ⟨by decide +kernel, childPermits, parentRefuses, fun within => ?_⟩
  have permitted := within.invocations _ _ childPermits
  rw [parentRefuses] at permitted
  cases permitted

/-- With the bindings copied, the child stays within its parent, and so does a
grandchild. -/
theorem bound_child_attenuates :
    AuthorityWithin crmParent { crmParent with id := 2, parentGrantId := some 1 } ∧
      AuthorityWithin crmParent { crmParent with id := 3, parentGrantId := some 2 } := by
  have accepted : ∀ lower ∈ [{ crmParent with id := 2, parentGrantId := some 1 },
      { crmParent with id := 3, parentGrantId := some 2 }],
      AcceptedUnder crmParent lower := by decide +kernel
  have acceptedBelow : AcceptedUnder { crmParent with id := 2, parentGrantId := some 1 }
      { crmParent with id := 3, parentGrantId := some 2 } := by decide +kernel
  have bound : ∀ parent : TaskGrant, ∀ id above,
      NativeBindingsKept parent { crmParent with id := id, parentGrantId := above } :=
    fun _ _ _ => .inr (.inl rfl)
  refine ⟨((acceptedChild_attenuates_iff_bindingsKept _).1 _ (accepted _ (by simp))).mpr
      (bound _ _ _), (acceptedChild_attenuates_iff_bindingsKept _).2 _ ?_⟩
  exact (Relation.ReflTransGen.single ⟨accepted _ (by simp), bound _ _ _⟩).tail
    ⟨acceptedBelow, bound _ _ _⟩

end MandoForge
