/-
Module: MandoForge.Execution.Outcome
Purpose: The outcome of an attempt as the event log keeps it: the identifiers and
  payloads of the events that an execution records, which event is the durable
  outcome of a tool, and how the status of the tool call is brought in line with it.
Trusted boundary: a record identifier is a hash of the record it is derived from and
  some texts, so it is a parameter.
Main exports: executionAttemptEventId, isDurableToolOutcome
-/
import MandoForge.Store.Execution

namespace MandoForge

open Foundation

/-! ### Identifiers of the events -/

section Identifiers

variable (recordId : Uuid → String → List String → Uuid)

def executionAttemptEventId (job : ExecutionJob) (eventType : String) : Uuid :=
  recordId job.id "execution-attempt-event" [job.attemptCount.repr, eventType]

def executionCompletionEventId (job : ExecutionJob) : Uuid :=
  recordId job.id "execution-completion-event" [job.attemptCount.repr, job.claimGeneration.repr]

end Identifiers

/-! ### Completion and failure of a job -/

def executionCompletedPayload (job : ExecutionJob) : Json := .ofFields [
  ("execution_job_id", .ofUuid job.id),
  ("approval_id", .ofUuid job.approvalId),
  ("tool_call_id", .ofUuid job.toolCallId),
  ("tool", .string job.toolName),
  ("status", .string "completed"),
  ("worker_id", .ofOption .string job.workerId),
  ("attempt_count", .ofInt job.attemptCount),
  ("claim_generation", .ofInt job.claimGeneration),
  ("reason", .string "approved execution completed")]

/-- What `execution_completion_event_matches_job` and
`execution_failure_event_matches_job` ask of an event. -/
def outcomeEventMatchesJob (eventType status : String) (jobStatus : ExecutionJobStatus)
    (event : SessionEvent) (job : ExecutionJob) : Bool :=
  decide (event.actorType = "worker") && decide (event.actorId = some job.id) &&
    decide (event.sessionId = job.sessionId) && decide (event.eventType = eventType) &&
    decide (event.payload.index "status" = .string status) &&
    decide (job.status = jobStatus) &&
    decide (event.payload.index "execution_job_id" = .ofUuid job.id) &&
    decide (event.payload.index "tool_call_id" = .ofUuid job.toolCallId) &&
    decide (event.payload.index "attempt_count" = .ofInt job.attemptCount) &&
    decide (event.payload.index "claim_generation" = .ofInt job.claimGeneration)

def executionCompletionEventMatchesJob : SessionEvent → ExecutionJob → Bool :=
  outcomeEventMatchesJob "execution.completed" "completed" .completed

def executionFailureEventMatchesJob : SessionEvent → ExecutionJob → Bool :=
  outcomeEventMatchesJob "execution.failed" "failed" .failed

/-! ### The durable outcome of a tool -/

/-- The events that `latest_durable_tool_outcome_event` looks for. -/
def isDurableToolOutcome (job : ExecutionJob) (event : SessionEvent) : Bool :=
  decide (event.actorType = "tool") && decide (event.actorId = some job.toolCallId) &&
    decide (event.payload.index "execution_job_id" = .ofUuid job.id) &&
    decide (event.payload.index "tool_call_id" = .ofUuid job.toolCallId) &&
    decide (event.payload.index "attempt_count" = .ofInt job.attemptCount) &&
    ((event.payload.index "claim_generation").asI64.any fun generation =>
      decide (generation ≤ job.claimGeneration)) &&
    (decide (event.eventType = "tool.result") || decide (event.eventType = "tool.error")) &&
    (decide (event.eventType = "tool.result") ||
      decide ((event.payload.index "execution_outcome_known").asBool = some true))

/-- The latest of them. -/
def latestDurableToolOutcome (job : ExecutionJob) (events : List SessionEvent) :
    Option SessionEvent :=
  events.reverse.find? (isDurableToolOutcome job)

/-- `latest_tool_result_for_execution_job`, on the log of the session. -/
def latestToolResult (job : ExecutionJob) (events : List SessionEvent) : Option SessionEvent :=
  (latestDurableToolOutcome job events).filter fun event =>
    decide (event.eventType = "tool.result")

def latestDurableToolOutcomeEvent (job : ExecutionJob) :
    ExecutionProgram (Option SessionEvent) := do
  let events ← ExecutionState.listEvents job.sessionId
  pure (latestDurableToolOutcome job events)

/-- The event of the outcome of a tool, as `append_tool_outcome` and
`record_known_tool_failure_if_missing` append it. -/
def toolOutcomeEntry (job : ExecutionJob) (toolCallId : Uuid) (toolName eventType : String)
    (content : Json) (executionOutcomeKnown : Bool) : NewEvent where
  actorType := "tool"
  actorId := some toolCallId
  sessionId := job.sessionId
  eventType := eventType
  payload := .ofFields [
    ("execution_job_id", .ofUuid job.id),
    ("tool_call_id", .ofUuid toolCallId),
    ("tool", .string toolName),
    ("content", content),
    ("execution_outcome_known", .bool executionOutcomeKnown),
    ("attempt_count", .ofInt job.attemptCount),
    ("claim_generation", .ofInt job.claimGeneration)]

end MandoForge
