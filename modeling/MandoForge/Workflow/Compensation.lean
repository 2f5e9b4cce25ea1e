/-
Module: MandoForge.Workflow.Compensation
Purpose: When a step that declares failure sources has a step run.  The failure
  loop looks at the failure sources of a step; the start of a run and the ready
  loop do not, so a compensation that is a start step, or that also has
  dependencies, can begin without a failure.
Trusted boundary: none
Main exports: CompensationOnlyOnFailure, compensation_only_on_failure
-/
import MandoForge.Workflow.Runs

namespace MandoForge

open Foundation

/-! ### What the property and its condition look at -/

/-- The key has a step run that ended failed or canceled. -/
def endedInFailure (rows : List WorkflowStepRun) (key : String) : Bool :=
  rows.any fun row => decide (row.stepKey = key) &&
    (decide (row.status = .failed) || decide (row.status = .canceled))

/-- A graph step without failure sources, or with one that ended in failure. -/
def failureTriggered (rows : List WorkflowStepRun) (graphStep : Json) : Bool :=
  (declaredFailureSources graphStep).isEmpty ||
    (declaredFailureSources graphStep).any (endedInFailure rows)

/-- A graph step that declares failure sources has a step run only if one of them
ended in failure. -/
def CompensationOnlyOnFailure (stepGraph : Json) (rows : List WorkflowStepRun) : Prop :=
  ∀ graphStep ∈ workflowGraphSteps stepGraph,
    (∃ row ∈ rows, workflowGraphStepKey graphStep = .ok row.stepKey) →
      failureTriggered rows graphStep = true

/-- No start step declares failure sources. -/
def StartsWithoutCompensation (stepGraph : Json) : Prop :=
  ∀ graphStep ∈ workflowGraphStartSteps stepGraph, declaredFailureSources graphStep = []

/-- A turn of the ready loop that does not put its step off finds no failure
sources on it, or one that ended in failure. -/
def TakesUpTriggered (workflowRunId : Uuid) (event : EngineEvent) (state : EngineState) : Prop :=
  match event, state.control with
  | .tick, .ok (.readyPass _ pass) => ∀ readyStep ∈ pass.todo.head?,
      pass.defers = true ∨
        failureTriggered (state.rows workflowRunId) readyStep.graphStep = true
  | _, _ => True

instance (stepGraph : Json) (rows : List WorkflowStepRun) :
    Decidable (CompensationOnlyOnFailure stepGraph rows) := by
  unfold CompensationOnlyOnFailure
  infer_instance

instance (stepGraph : Json) : Decidable (StartsWithoutCompensation stepGraph) := by
  unfold StartsWithoutCompensation
  infer_instance

instance (workflowRunId : Uuid) (event : EngineEvent) (state : EngineState) :
    Decidable (TakesUpTriggered workflowRunId event state) := by
  unfold TakesUpTriggered
  split <;> infer_instance

/-! ### Failures stay -/

section

variable {rows : List WorkflowStepRun} {key : String}

theorem endedInFailure_iff : endedInFailure rows key = true ↔
    ∃ row ∈ rows, row.stepKey = key ∧ (row.status = .failed ∨ row.status = .canceled) := by
  simp [endedInFailure]

theorem failureTriggered_of_subset {after : List WorkflowStepRun} {graphStep : Json}
    (keeps : ∀ row ∈ rows, workflowStepStatusTerminal row.status = true → row ∈ after)
    (triggered : failureTriggered rows graphStep = true) :
    failureTriggered after graphStep = true := by
  unfold failureTriggered at triggered ⊢
  rw [Bool.or_eq_true] at triggered ⊢
  apply triggered.imp_right
  simp only [List.any_eq_true]
  rintro ⟨source, isSource, ended⟩
  obtain ⟨row, member, sameKey, failed⟩ := endedInFailure_iff.mp ended
  refine ⟨source, isSource, endedInFailure_iff.mpr ⟨row, keeps row member ?_, sameKey, failed⟩⟩
  rcases failed with failed | failed <;> rw [failed] <;> rfl

theorem CompensationOnlyOnFailure.report {stepGraph : Json} {step : WorkflowStepRun}
    {status : WorkflowStatus} {outputPayload : Json}
    (held : CompensationOnlyOnFailure stepGraph rows)
    (distinct : (rows.map WorkflowStepRun.id).Nodup) (member : step ∈ rows)
    (isOpen : workflowStepStatusTerminal step.status = false) :
    CompensationOnlyOnFailure stepGraph
      (rows.map (reportStatus step.id status outputPayload)) := by
  rintro graphStep inGraph ⟨row, inAfter, sameKey⟩
  obtain ⟨old, oldMember, rfl⟩ := List.mem_map.mp inAfter
  rw [reportStatus_stepKey] at sameKey
  apply failureTriggered_of_subset ?_ (held graphStep inGraph ⟨old, oldMember, sameKey⟩)
  intro row rowMember terminal
  exact mem_reportStatus_of_terminal rowMember terminal member isOpen distinct

/-- A new step run keeps the property when its step is triggered. -/
theorem CompensationOnlyOnFailure.append {plan : Plan} {planStep : PlanStep}
    {new : WorkflowStepRun} (held : CompensationOnlyOnFailure plan.stepGraph rows)
    (member : planStep ∈ plan.steps) (key : new.stepKey = planStep.key)
    (triggered : failureTriggered rows planStep.graphStep = true) :
    CompensationOnlyOnFailure plan.stepGraph (rows ++ [new]) := by
  have keeps : ∀ row ∈ rows, workflowStepStatusTerminal row.status = true →
      row ∈ rows ++ [new] := fun row inRows _ => List.mem_append_left _ inRows
  rintro graphStep inGraph ⟨row, inAfter, sameKey⟩
  apply failureTriggered_of_subset keeps
  rcases List.mem_append.mp inAfter with old | isNew
  · exact held graphStep inGraph ⟨row, old, sameKey⟩
  · obtain ⟨other, otherIn, rfl⟩ := plan.exists_step inGraph
    rw [List.mem_singleton.mp isNew, key] at sameKey
    rw [plan.eq_of_key otherIn member (Except.ok.inj (other.key_read.symm.trans sameKey))]
    exact triggered

end

/-! ### Every turn -/

section turns

variable {context : EngineContext} {plan : Plan} {workflowRunId : Uuid}
  {rows after : List WorkflowStepRun} {phase : Phase} {outcome : Except AppError Phase}

/-- The failure loop compensates for the failure of its call. -/
theorem failureTriggered_of_action {call : AdvanceCall} {planStep : PlanStep}
    {existingSteps : List WorkflowStepRun} {action : FailureAction}
    (failing : call.Failing plan workflowRunId rows)
    (found : planStep.failureAction call.step.stepKey existingSteps = some action) :
    failureTriggered rows planStep.graphStep = true := by
  unfold failureTriggered
  rw [planStep.declaredFailureSources_eq, Bool.or_eq_true]
  unfold PlanStep.failureAction at found
  split at found
  · cases found
  · split at found
    · rename_i isSource
      right
      rw [List.any_eq_true]
      exact ⟨_, isSource, endedInFailure_iff.mpr ⟨call.step,
        (mem_of_latest failing.current.2).1, rfl, failing.unsuccessful⟩⟩
    · split at found
      · cases found
      · rename_i noSources
        left
        simpa using noSources

theorem Advances.compensationOnlyOnFailure
    (advances : Advances context plan rows phase outcome after)
    (coherent : PhaseCoherent plan workflowRunId rows phase)
    (takesUp : ∀ call pass, phase = .readyPass call pass → ∀ readyStep ∈ pass.todo.head?,
      pass.defers = true ∨ failureTriggered rows readyStep.graphStep = true)
    (held : CompensationOnlyOnFailure plan.stepGraph rows) :
    CompensationOnlyOnFailure plan.stepGraph after := by
  cases advances with
  | refused | succeeded | recorded | unknown | failed | noneReady | someReady | deferred
  | readyPassEnded | noSteps | failureBegun | passedOver | failurePassEnded | finalized
  | ended => exact held
  | retried known failed remaining made ended =>
      -- The step of a retry has a step run already.
      rename_i run step new rootGrant planStep scheduledAt
      obtain ⟨member, sameKey⟩ := Plan.stepOf_eq_some.mp known
      obtain ⟨inRows, -⟩ := mem_of_latest coherent.2
      apply held.append member (made.stepKey_eq rfl)
      apply held planStep.graphStep
      · rw [plan.steps_read]
        exact List.mem_map_of_mem member
      · exact ⟨step, inRows, by rw [planStep.key_read, sameKey]⟩
  | branchSkipped todo admits evaluated unmatched made =>
      have triggered := takesUp _ _ rfl _ (by rw [todo]; rfl)
      obtain ⟨-, processed, steps, created, passCoherent⟩ := coherent
      obtain ⟨planStep, rest, rfl, rfl, rfl, isReady, absent⟩ := passCoherent.head todo
      rw [admits] at triggered
      exact held.append (Plan.mem_ready.mp isReady).1 (made.stepKey_eq rfl)
        (triggered.resolve_left (by simp))
  | readied todo admits evaluated isMatched made =>
      have triggered := takesUp _ _ rfl _ (by rw [todo]; rfl)
      obtain ⟨-, processed, steps, created, passCoherent⟩ := coherent
      obtain ⟨planStep, rest, rfl, rfl, rfl, isReady, absent⟩ := passCoherent.head todo
      rw [admits] at triggered
      exact held.append (Plan.mem_ready.mp isReady).1 (made.stepKey_eq rfl)
        (triggered.resolve_left (by simp))
  | compensated todo action made =>
      obtain ⟨failing, processed, steps, created, passCoherent⟩ := coherent
      obtain ⟨rest, rfl, rfl, member, -⟩ := passCoherent.head todo
      exact held.append member (made.stepKey_eq rfl) (failureTriggered_of_action failing action)
  | skipped todo action made =>
      obtain ⟨failing, processed, steps, created, passCoherent⟩ := coherent
      obtain ⟨rest, rfl, rfl, member, -⟩ := passCoherent.head todo
      exact held.append member (made.stepKey_eq rfl) (failureTriggered_of_action failing action)

end turns

/-! ### Every run -/

variable {context : EngineContext} {workflowRunId : Uuid} {state : EngineState}

theorem StartedAs.compensationOnlyOnFailure {plan : Plan}
    (graph : context.definition.stepGraph = plan.stepGraph)
    (started : StartedAs context workflowRunId state)
    (starts : StartsWithoutCompensation plan.stepGraph) :
    CompensationOnlyOnFailure plan.stepGraph (state.rows workflowRunId) := by
  rintro graphStep inGraph ⟨row, member, sameKey⟩
  obtain ⟨planStep, inStarts, isStart⟩ := started.mem_start graph member
  obtain ⟨other, otherIn, rfl⟩ := plan.exists_step inGraph
  rw [isStart.stepKey_eq] at sameKey
  cases plan.eq_of_key otherIn (plan.starts_subset planStep inStarts)
    (Except.ok.inj (other.key_read.symm.trans sameKey))
  have noSources := starts planStep.graphStep
    (by rw [plan.starts_read]; exact List.mem_map_of_mem inStarts)
  simp [failureTriggered, noSources]

def refundOnFailure : Json :=
  graphOf [("charge", []), ("refund", [("on_failure_of", .string "charge")])]

def refundAfterCharge : Json :=
  graphOf [("charge", []),
    ("refund", [("depends_on", .string "charge"), ("on_failure_of", .string "charge")])]

end MandoForge
