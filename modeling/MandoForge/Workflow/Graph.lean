/-
Module: MandoForge.Workflow.Graph
Purpose: How the engine reads a workflow's step graph: the keys, dependencies,
  failure sources, retry and join policies of its steps, and from the step runs
  so far which steps are ready, blocked or active.
Trusted boundary: `Host` stands for the parsers and printers of identifiers and
  timestamps; a map from keys to statuses is a function.
Main exports: Host, workflowGraphStepDependencies
-/
import MandoForge.Core.Records
import MandoForge.Data.Text
import MandoForge.Foundation.Outcome

namespace MandoForge

open Foundation

/-- The parsers and printers of third-party packages that the engine calls:
`Uuid::parse_str`, `DateTime::parse_from_rfc3339`, and how identifiers and instants
stand in JSON. -/
structure Host where
  parseUuid : String → Option Uuid
  parseRfc3339 : String → Option Timestamp
  printUuid : Uuid → String
  printTimestamp : Timestamp → String

/-! ### Steps -/

/-- The first of several keys that the object has. -/
def Json.getFirst (value : Json) (keys : List String) : Option Json :=
  keys.findSome? value.get

/-- A string field, trimmed, or nothing when it is missing or blank. -/
def trimmedText (value : Option Json) : Option String :=
  (value.bind Json.asStr).bind nonEmptyTrimmed

/-- `step_graph.get("steps").and_then(Value::as_array)`; no array is no steps. -/
def workflowGraphSteps (stepGraph : Json) : List Json :=
  ((stepGraph.get "steps").bind Json.asArray).getD []

def workflowGraphStepKey (step : Json) : Except AppError String :=
  okOr (trimmedText (step.get "key")) (.badRequest "workflow graph step requires key")

def workflowGraphStepKeys (stepGraph : Json) : Except AppError (List String) :=
  (workflowGraphSteps stepGraph).mapM workflowGraphStepKey

def workflowGraphStepType (graphStep : Json) : String :=
  (trimmedText (graphStep.getFirst ["type", "step_type"])).getD "agent"

def workflowGraphStepIsAdapterOwnedCompensation (graphStep : Json) : Bool :=
  let stepType := toAsciiLowercase (workflowGraphStepType graphStep)
  let typeIsAdapter := stepType == "rollback_adapter" || stepType == "compensation_adapter"
  let adapterKind := (graphStep.get "adapter").bind fun adapter =>
    ((adapter.getFirst ["kind", "type"]).bind Json.asStr).or adapter.asStr
  let adapterIsCompensation := (adapterKind.map fun kind => toAsciiLowercase (trim kind)).any
    fun kind => ["internal_compensation", "rollback", "rollback_adapter", "compensation"].contains
      kind
  let explicitFlag :=
    ((graphStep.getFirst ["rollback_adapter", "adapter_owned"]).bind Json.asBool).getD false
  let hasFailureSource :=
    (graphStep.getFirst ["on_failure_of", "compensates", "compensation_for"]).isSome
  hasFailureSource && (typeIsAdapter || adapterIsCompensation || explicitFlag)

def workflowGraphStepUuid (host : Host) (step : Json) (key : String) :
    Except AppError (Option Uuid) :=
  match (step.get key).bind Json.asStr with
  | none => .ok none
  | some text =>
      match host.parseUuid (trim text) with
      | some id => .ok (some id)
      | none => .error (.badRequest ("workflow graph step " ++ key ++ " must be a UUID"))

def workflowGraphStepAgentId (host : Host) (definition : WorkflowDefinition) (graphStep : Json) :
    Except AppError (Option Uuid) := do
  if workflowGraphStepIsAdapterOwnedCompensation graphStep then
    return none
  let agentId ← workflowGraphStepUuid host graphStep "agent_id"
  return agentId.or (some definition.defaultAgentId)

def workflowGraphStepAgentVersionId (host : Host) (graphStep : Json) :
    Except AppError (Option Uuid) :=
  if workflowGraphStepIsAdapterOwnedCompensation graphStep then .ok none
  else workflowGraphStepUuid host graphStep "agent_version_id"

/-- `workflow_graph_string_or_string_array`, with the messages of its two callers
and of the dependency reader, which has the same body. -/
def workflowGraphStringOrStringArray (notStrings notList : String) :
    Json → Except AppError (List String)
  | .string item => .ok (nonEmptyTrimmed item).toList
  | .array items => items.mapM fun item =>
      okOr (item.asStr.bind nonEmptyTrimmed) (.badRequest notStrings)
  | _ => .error (.badRequest notList)

def workflowGraphStepDependencies (step : Json) : Except AppError (List String) :=
  match step.getFirst ["depends_on", "after", "needs"] with
  | none => .ok []
  | some value =>
      workflowGraphStringOrStringArray
        "workflow graph step dependencies must be non-empty strings"
        "workflow graph step dependencies must be a string or array" value

def workflowGraphStepFailureSources (step : Json) : Except AppError (List String) :=
  match step.getFirst ["on_failure_of", "compensates", "compensation_for"] with
  | none => .ok []
  | some value =>
      workflowGraphStringOrStringArray
        "workflow graph failure source must be non-empty strings"
        "workflow graph failure source must be a string or array" value

/-! ### Retry and join policies -/

structure WorkflowGraphRetryPolicy where
  maxAttempts : Nat
  delaySeconds : Int
deriving DecidableEq, Repr

def workflowGraphRetryDelaySeconds (policy : Json) : Except AppError Int :=
  let directDelay :=
    (policy.getFirst ["delay_seconds", "backoff_seconds"]).bind Json.asI64
  let nestedDelay := ((policy.get "backoff").bind fun backoff =>
    backoff.getFirst ["initial_seconds", "delay_seconds", "backoff_seconds"]).bind Json.asI64
  let delaySeconds := (directDelay.or nestedDelay).getD 0
  if 0 ≤ delaySeconds ∧ delaySeconds ≤ 86400 then .ok delaySeconds
  else .error (.badRequest
    "workflow graph step retry delay_seconds must be between 0 and 86400")

def workflowGraphStepRetryPolicy (step : Json) : Except AppError WorkflowGraphRetryPolicy := do
  match step.getFirst ["retry", "retry_policy"] with
  | none => return { maxAttempts := 1, delaySeconds := 0 }
  | some policy =>
      let maxAttempts ← okOr ((policy.get "max_attempts").bind Json.asU64)
        (.badRequest "workflow graph step retry.max_attempts must be a positive integer")
      if maxAttempts = 0 then
        throw (.badRequest "workflow graph step retry.max_attempts must be at least 1")
      let delaySeconds ← workflowGraphRetryDelaySeconds policy
      return { maxAttempts, delaySeconds }

inductive WorkflowGraphFanInMode where
  | all
  | any
  | quorum
deriving DecidableEq, Repr

def WorkflowGraphFanInMode.text : WorkflowGraphFanInMode → String
  | .all => "all"
  | .any => "any"
  | .quorum => "quorum"

def workflowGraphFanInMode (graphStep : Json) : Except AppError WorkflowGraphFanInMode := do
  match graphStep.getFirst ["fan_in", "join"] with
  | none => return .all
  | some policy =>
      let mode ← match policy with
        | .string mode => pure mode
        | .object fields =>
            pure (((Json.getFirst (.object fields) ["mode", "strategy"]).bind
              Json.asStr).getD "all")
        | _ => throw (.badRequest "workflow graph step fan_in must be a string or object")
      let mode := toAsciiLowercase (trim mode)
      if mode = "all" then return .all
      else if mode = "any" then return .any
      else if mode = "quorum" then return .quorum
      else throw (.badRequest "workflow graph step fan_in mode must be all, any, or quorum")

/-- `workflow_graph_fan_in_min_success`.  The quorum is read from `fan_in`, also
when the mode came from `join`. -/
def workflowGraphFanInMinSuccess (graphStep : Json) (mode : WorkflowGraphFanInMode)
    (dependencyCount : Nat) : Except AppError Nat :=
  match mode with
  | .all => .ok dependencyCount
  | .any => .ok 1
  | .quorum => do
      let minSuccess ← okOr
        (((graphStep.get "fan_in").bind fun policy =>
          policy.getFirst ["min_success", "quorum"]).bind Json.asU64)
        (.badRequest "workflow graph step fan_in quorum requires min_success")
      if minSuccess = 0 ∨ dependencyCount < minSuccess then
        throw (.badRequest
          "workflow graph step fan_in min_success must be between 1 and dependency count")
      return minSuccess

/-! ### Step runs so far -/

def workflowGraphLatestStep (existingSteps : List WorkflowStepRun) (stepKey : String) :
    Option WorkflowStepRun :=
  existingSteps.reverse.find? fun step => decide (step.stepKey = stepKey)

/-- The map from step keys to statuses that the source collects: of several step
runs of a key the last one counts. -/
def statusByKey (existingSteps : List WorkflowStepRun) (stepKey : String) :
    Option WorkflowStatus :=
  (workflowGraphLatestStep existingSteps stepKey).map WorkflowStepRun.status

def workflowGraphStepAttemptCount (existingSteps : List WorkflowStepRun) (stepKey : String) :
    Nat :=
  existingSteps.countP fun step => decide (step.stepKey = stepKey)

/-- A step run that was skipped because a dependency failed. -/
def skippedForDependency (step : WorkflowStepRun) : Bool :=
  decide (step.status = .skipped) &&
    decide ((step.outputPayload.get "skip_reason").bind Json.asStr = some "dependency_failed")

/-- A step run whose failure blocks what depends on it. -/
def blocksDependents (step : WorkflowStepRun) : Bool :=
  decide (step.status = .failed) || decide (step.status = .canceled) ||
    skippedForDependency step

/-- Membership in `workflow_graph_blocking_failure_keys`. -/
def workflowGraphBlockingFailure (existingSteps : List WorkflowStepRun) (stepKey : String) :
    Bool :=
  (workflowGraphLatestStep existingSteps stepKey).any blocksDependents

def workflowGraphActiveParallelCount (existingSteps : List WorkflowStepRun) : Nat :=
  existingSteps.countP fun step =>
    !workflowStepStatusTerminal step.status &&
      [WorkflowStatus.queued, .scheduled, .running, .requiresAction].contains step.status

def workflowStepRunIsHandoffApprovalBlocked (step : WorkflowStepRun) : Bool :=
  decide (step.status = .requiresAction) &&
    decide ((step.outputPayload.get "block_reason").bind Json.asStr =
      some "handoff_approval_required")

/-! ### Ready steps -/

structure WorkflowGraphFanInReadiness where
  mode : WorkflowGraphFanInMode
  minSuccess : Nat
  dependencies : List String
  successfulDependencies : List String
  failedDependencies : List String
  pendingDependencies : List String
deriving DecidableEq, Repr

def workflowGraphFanInReadiness (graphStep : Json) (dependencies : List String)
    (existingByKey : String → Option WorkflowStatus) :
    Except AppError WorkflowGraphFanInReadiness := do
  let mode ← workflowGraphFanInMode graphStep
  let minSuccess ← workflowGraphFanInMinSuccess graphStep mode dependencies.length
  let successful := fun dependency =>
    (existingByKey dependency).any workflowStepStatusSuccessful
  let failed := fun dependency =>
    (existingByKey dependency).any fun status => status == .failed || status == .canceled
  return {
    mode, minSuccess, dependencies
    successfulDependencies := dependencies.filter successful
    failedDependencies := dependencies.filter fun dependency =>
      !successful dependency && failed dependency
    pendingDependencies := dependencies.filter fun dependency =>
      !successful dependency && !failed dependency }

def workflowGraphFanInReady (fanIn : WorkflowGraphFanInReadiness) : Bool :=
  decide (fanIn.minSuccess ≤ fanIn.successfulDependencies.length)

structure WorkflowGraphReadyStep where
  graphStep : Json
  fanIn : WorkflowGraphFanInReadiness
deriving DecidableEq, Repr

/-- One turn of the loop of `workflow_graph_ready_steps`. -/
def workflowGraphReadyStep (existingSteps : List WorkflowStepRun) (graphStep : Json) :
    Except AppError (Option WorkflowGraphReadyStep) := do
  let key ← workflowGraphStepKey graphStep
  if (workflowGraphLatestStep existingSteps key).isSome then
    return none
  let dependencies ← workflowGraphStepDependencies graphStep
  if dependencies.isEmpty then
    return none
  let fanIn ← workflowGraphFanInReadiness graphStep dependencies (statusByKey existingSteps)
  return if workflowGraphFanInReady fanIn then some { graphStep, fanIn } else none

def workflowGraphReadySteps (stepGraph : Json) (existingSteps : List WorkflowStepRun) :
    Except AppError (List WorkflowGraphReadyStep) := do
  let found ← (workflowGraphSteps stepGraph).mapM (workflowGraphReadyStep existingSteps)
  return found.filterMap id

/-- `workflow_graph_start_steps`: the steps marked as starts, or the first one. -/
def workflowGraphStartSteps (stepGraph : Json) : List Json :=
  let steps := workflowGraphSteps stepGraph
  let explicitStarts := steps.filter fun step =>
    ((step.getFirst ["start", "entrypoint"]).bind Json.asBool).getD false
  if explicitStarts.isEmpty then steps.head?.toList else explicitStarts

/-- `workflow_graph_step_by_key`: keys are read up to the match. -/
def workflowGraphStepByKey (stepKey : String) : List Json → Except AppError (Option Json)
  | [] => .ok none
  | step :: rest => do
      let key ← workflowGraphStepKey step
      if key = stepKey then return some step
      workflowGraphStepByKey stepKey rest

def workflowGraphFanOutMaxParallel (stepGraph : Json) : Except AppError (Option Nat) := do
  match stepGraph.getFirst ["fan_out", "fanout"] with
  | none => return none
  | some policy =>
      let maxParallel ← match policy with
        | .object fields =>
            pure ((Json.getFirst (.object fields) ["max_parallel", "parallelism"]).bind
              Json.asU64)
        | .number number => pure (Json.asU64 (.number number))
        | _ => throw (.badRequest
            "workflow graph fan_out must be an object or positive integer")
      let maxParallel ← okOr maxParallel
        (.badRequest "workflow graph fan_out.max_parallel is required")
      if maxParallel = 0 then
        throw (.badRequest "workflow graph fan_out.max_parallel must be at least 1")
      return some maxParallel

/-! ### Policy payloads of a step run's input -/

def workflowGraphFanInPayload (fanIn : WorkflowGraphFanInReadiness) : Json :=
  .ofFields [("mode", .string fanIn.mode.text), ("min_success", .ofNat fanIn.minSuccess),
    ("dependencies", .ofStrings fanIn.dependencies),
    ("successful_dependencies", .ofStrings fanIn.successfulDependencies),
    ("failed_dependencies", .ofStrings fanIn.failedDependencies),
    ("pending_dependencies", .ofStrings fanIn.pendingDependencies)]

def workflowGraphFanOutPayload (maxParallel : Option Nat) (activeParallelCount : Nat) : Json :=
  .ofFields [("max_parallel", (maxParallel.map Json.ofNat).getD .null),
    ("active_parallel_count", .ofNat activeParallelCount)]

end MandoForge
