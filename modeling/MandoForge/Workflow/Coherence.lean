/-
Module: MandoForge.Workflow.Coherence
Purpose: How the control state of a call agrees with the step runs of its run:
  what a pass has gone through and has still before it, and what a finalization
  may rely on.  Every turn of the engine keeps the two in agreement.
Trusted boundary: none
Main exports: Settled, Growth
-/
import MandoForge.Workflow.Engine

namespace MandoForge

open Foundation

/-! ### New step runs -/

section new

variable {request : MaterializeRequest} {new : WorkflowStepRun} {planStep : PlanStep}

theorem MaterializedAs.stepKey_eq (made : MaterializedAs request new)
    (same : request.graphStep = planStep.graphStep) : new.stepKey = planStep.key := by
  have read := made.stepKey
  rw [same, planStep.key_read] at read
  exact (Except.ok.inj read).symm

theorem MaterializedAs.skipped (made : MaterializedAs request new)
    (status : request.status = .skipped) :
    new.status = .skipped ∧ new.outputPayload = request.outputPayload := by
  rcases made.started with ⟨same, output⟩ | ⟨notTerminal, -⟩
  · exact ⟨same.trans status, output⟩
  · rw [status] at notTerminal
    cases notTerminal

/-- A step run counts against the limit of a fan-out. -/
def WorkflowStepRun.isActive (step : WorkflowStepRun) : Bool :=
  !workflowStepStatusTerminal step.status &&
    [WorkflowStatus.queued, .scheduled, .running, .requiresAction].contains step.status

theorem MaterializedAs.isActive (made : MaterializedAs request new)
    (status : request.status = .queued ∨ request.status = .scheduled) :
    new.isActive = true := by
  unfold WorkflowStepRun.isActive
  rcases made.started with ⟨same, -⟩ | ⟨-, waits, -⟩
  · rcases status with status | status <;> rw [same, status] <;> rfl
  · rw [waits]
    rfl

theorem MaterializedAs.inactive (made : MaterializedAs request new)
    (status : request.status = .skipped) : new.isActive = false := by
  unfold WorkflowStepRun.isActive
  rw [(made.skipped status).1]
  rfl

theorem WorkflowStepRun.isActive.isOpen (isActive : new.isActive = true) :
    workflowStepStatusTerminal new.status = false := by
  unfold WorkflowStepRun.isActive at isActive
  rw [Bool.and_eq_true, Bool.not_eq_true'] at isActive
  exact isActive.1

theorem activeParallelCount_append (rows : List WorkflowStepRun) (new : WorkflowStepRun) :
    workflowGraphActiveParallelCount (rows ++ [new]) =
      workflowGraphActiveParallelCount rows + if new.isActive then 1 else 0 := by
  unfold workflowGraphActiveParallelCount WorkflowStepRun.isActive
  rw [List.countP_append, List.countP_singleton]

end new

/-! ### Control states that agree with the step runs -/

/-- Nothing is ready, or what is ready has to wait for the fan-out. -/
def ReadySettled (plan : Plan) (rows : List WorkflowStepRun) : Prop :=
  plan.ready rows = [] ∨ ∃ limit, plan.maxParallel = some limit ∧
    limit ≤ workflowGraphActiveParallelCount rows

/-- The failure policy has nothing left to do for a step run that failed. -/
structure FailureSettled (plan : Plan) (rows : List WorkflowStepRun)
    (step : WorkflowStepRun) : Prop where
  latest : workflowGraphLatestStep rows step.stepKey = some step
  unsuccessful : step.status = .failed ∨ step.status = .canceled
  settled : ∀ planStep ∈ plan.steps, planStep.failureAction step.stepKey rows = none

/-- What a finalization may rely on. -/
def Settled (plan : Plan) (rows : List WorkflowStepRun) : Prop :=
  ReadySettled plan rows ∨ ∃ step, FailureSettled plan rows step

/-- A pass of the ready loop has gone through some of the ready steps. -/
structure ReadyPassCoherent (plan : Plan) (rows : List WorkflowStepRun) (pass : ReadyPass)
    (processed todo : List PlanStep) (created : List WorkflowStepRun) : Prop where
  split : plan.ready pass.existingSteps = processed ++ todo
  todo : pass.todo = todo.map (PlanStep.readyStep pass.existingSteps)
  grown : rows = pass.existingSteps ++ created
  createdIn : ∀ row ∈ created, ∃ planStep ∈ processed, row.stepKey = planStep.key
  limit : pass.fanOutMaxParallel = plan.maxParallel
  active : pass.activeParallelCount = workflowGraphActiveParallelCount rows
  unchanged : pass.materializedAny = false → created = [] ∧ (processed = [] ∨ pass.defers = true)
  some_ready : plan.ready pass.existingSteps ≠ []

/-- A pass of the failure loop has gone through some of the steps. -/
structure FailurePassCoherent (plan : Plan) (rows : List WorkflowStepRun) (failedKey : String)
    (pass : FailurePass) (processed todo : List PlanStep) (created : List WorkflowStepRun) :
    Prop where
  split : plan.steps = processed ++ todo
  todo : pass.todo = todo.map PlanStep.graphStep
  grown : rows = pass.existingSteps ++ created
  createdIn : ∀ row ∈ created, ∃ planStep ∈ processed, row.stepKey = planStep.key
  unchanged : pass.materializedAny = false → created = [] ∧
    ∀ planStep ∈ processed, planStep.failureAction failedKey pass.existingSteps = none

/-- The step run of a call is the latest one of its key. -/
def AdvanceCall.Current (workflowRunId : Uuid) (rows : List WorkflowStepRun)
    (call : AdvanceCall) : Prop :=
  call.run.id = workflowRunId ∧
    workflowGraphLatestStep rows call.step.stepKey = some call.step

/-- A call for a failure that no retry is left for. -/
structure AdvanceCall.Failing (plan : Plan) (workflowRunId : Uuid) (rows : List WorkflowStepRun)
    (call : AdvanceCall) : Prop where
  current : call.Current workflowRunId rows
  unsuccessful : call.step.status = .failed ∨ call.step.status = .canceled
  exhausted : ∃ planStep, plan.stepOf call.step.stepKey = some planStep ∧
    (call.step.status = .failed → planStep.retryPolicy.maxAttempts ≤
      workflowGraphStepAttemptCount rows call.step.stepKey)

def PhaseCoherent (plan : Plan) (workflowRunId : Uuid) (rows : List WorkflowStepRun) :
    Phase → Prop
  | .entering run step => run.id = workflowRunId ∧
      workflowGraphLatestStep rows step.stepKey = some step
  | .readying call => call.Current workflowRunId rows ∧
      workflowStepStatusSuccessful call.step.status = true
  | .readyPass call pass => (call.Current workflowRunId rows ∧
      workflowStepStatusSuccessful call.step.status = true) ∧
        ∃ processed todo created, ReadyPassCoherent plan rows pass processed todo created
  | .failing call => call.Failing plan workflowRunId rows
  | .failurePass call pass => call.Failing plan workflowRunId rows ∧
      ∃ processed todo created,
        FailurePassCoherent plan rows call.step.stepKey pass processed todo created
  | .finalizing run => run.id = workflowRunId ∧ Settled plan rows
  | .returned => True
  | .finalized => Settled plan rows

/-! ### What a new step run leaves -/

section append

variable {plan : Plan} {workflowRunId : Uuid} {rows : List WorkflowStepRun}
  {call : AdvanceCall} {new : WorkflowStepRun}

theorem AdvanceCall.Current.append (current : call.Current workflowRunId rows)
    (absent : workflowGraphLatestStep rows new.stepKey = none) :
    call.Current workflowRunId (rows ++ [new]) := by
  refine ⟨current.1, ?_⟩
  have other : new.stepKey ≠ call.step.stepKey := by
    intro same
    rw [same, current.2] at absent
    cases absent
  rw [latest_append, if_neg other]
  exact current.2

theorem attemptCount_append_of_ne {key : String} (other : new.stepKey ≠ key) :
    workflowGraphStepAttemptCount (rows ++ [new]) key =
      workflowGraphStepAttemptCount rows key := by
  unfold workflowGraphStepAttemptCount
  rw [List.countP_append, List.countP_singleton]
  simp [other]

theorem AdvanceCall.Failing.append (failing : call.Failing plan workflowRunId rows)
    (absent : workflowGraphLatestStep rows new.stepKey = none) :
    call.Failing plan workflowRunId (rows ++ [new]) := by
  have other : new.stepKey ≠ call.step.stepKey := by
    intro same
    rw [same, failing.current.2] at absent
    cases absent
  obtain ⟨planStep, known, exhausted⟩ := failing.exhausted
  refine ⟨failing.current.append absent, failing.unsuccessful, planStep, known, ?_⟩
  rw [attemptCount_append_of_ne other]
  exact exhausted

/-- A step that a pass has still before it has no step run yet, when it had none at
the start of the pass. -/
theorem absent_of_todo {existingSteps created : List WorkflowStepRun}
    {processed rest : List PlanStep} {planStep : PlanStep}
    (distinct : ((processed ++ planStep :: rest).map PlanStep.key).Nodup)
    (grown : rows = existingSteps ++ created)
    (createdIn : ∀ row ∈ created, ∃ other ∈ processed, row.stepKey = other.key)
    (absent : workflowGraphLatestStep existingSteps planStep.key = none) :
    workflowGraphLatestStep rows planStep.key = none := by
  rw [latest_eq_none] at absent ⊢
  subst grown
  intro row member same
  rcases List.mem_append.mp member with old | new
  · exact absent row old same
  · obtain ⟨other, isProcessed, otherKey⟩ := createdIn row new
    rw [List.map_append, List.map_cons, List.nodup_append'] at distinct
    have disjoint := distinct.2.2
    apply disjoint (List.mem_map_of_mem isProcessed)
    rw [← otherKey, same]
    exact List.mem_cons_self ..

end append

/-! ### Coherence of the passes -/

section passes

variable {context : EngineContext} {plan : Plan} {workflowRunId : Uuid}
  {rows : List WorkflowStepRun} {call : AdvanceCall}

namespace ReadyPassCoherent

variable {pass : ReadyPass} {processed todo : List PlanStep} {created : List WorkflowStepRun}

theorem start (some_ready : plan.ready rows ≠ []) :
    ReadyPassCoherent plan rows (.start plan rows) [] (plan.ready rows) [] where
  split := rfl
  todo := rfl
  grown := (List.append_nil rows).symm
  createdIn := by simp
  limit := rfl
  active := rfl
  unchanged _ := ⟨rfl, .inl rfl⟩
  some_ready := some_ready

/-- The next ready step of the pass, its key still without a step run. -/
theorem head (coherent : ReadyPassCoherent plan rows pass processed todo created)
    {readyStep : WorkflowGraphReadyStep} {rest : List WorkflowGraphReadyStep}
    (found : pass.todo = readyStep :: rest) :
    ∃ planStep restSteps, todo = planStep :: restSteps ∧
      readyStep = planStep.readyStep pass.existingSteps ∧
      rest = restSteps.map (PlanStep.readyStep pass.existingSteps) ∧
      planStep ∈ plan.ready pass.existingSteps ∧
      workflowGraphLatestStep rows planStep.key = none := by
  have todoMap := coherent.todo
  rw [found] at todoMap
  obtain ⟨planStep, restSteps, rfl, rfl, rfl⟩ := List.map_eq_cons_iff.mp todoMap.symm
  have isReady : planStep ∈ plan.ready pass.existingSteps := by
    rw [coherent.split]
    simp
  refine ⟨planStep, restSteps, rfl, rfl, rfl, isReady, ?_⟩
  have distinct : ((processed ++ planStep :: restSteps).map PlanStep.key).Nodup := by
    rw [← coherent.split]
    exact (List.filter_sublist.map PlanStep.key).nodup plan.distinctKeys
  apply absent_of_todo distinct coherent.grown coherent.createdIn
  have ready := (Plan.mem_ready.mp isReady).2
  simp only [PlanStep.isReady, Bool.and_eq_true, Option.isNone_iff_eq_none] at ready
  exact ready.1.1

theorem latest_kept (coherent : ReadyPassCoherent plan rows pass processed todo created)
    {key : String} {row : WorkflowStepRun}
    (found : workflowGraphLatestStep pass.existingSteps key = some row) :
    workflowGraphLatestStep rows key = some row := by
  rw [coherent.grown, latest_append_of_ne, found]
  rintro new isCreated rfl
  obtain ⟨planStep, isProcessed, sameKey⟩ := coherent.createdIn new isCreated
  have isReady : planStep ∈ plan.ready pass.existingSteps := by
    rw [coherent.split]
    exact List.mem_append_left _ isProcessed
  have ready := (Plan.mem_ready.mp isReady).2
  simp only [PlanStep.isReady, Bool.and_eq_true, Option.isNone_iff_eq_none] at ready
  rw [sameKey, ready.1.1] at found
  cases found

/-- A ready step that was put off. -/
theorem defer {planStep : PlanStep} {restSteps : List PlanStep}
    (coherent : ReadyPassCoherent plan rows pass processed (planStep :: restSteps) created)
    (defers : pass.defers = true) :
    ReadyPassCoherent plan rows
      { pass with todo := restSteps.map (PlanStep.readyStep pass.existingSteps) }
      (processed ++ [planStep]) restSteps created where
  split := by rw [coherent.split]; simp
  todo := rfl
  grown := coherent.grown
  createdIn row member := by
    obtain ⟨other, isProcessed, same⟩ := coherent.createdIn row member
    exact ⟨other, List.mem_append_left _ isProcessed, same⟩
  limit := coherent.limit
  active := coherent.active
  unchanged none := ⟨(coherent.unchanged none).1, .inr defers⟩
  some_ready := coherent.some_ready

/-- A ready step that got a step run. -/
theorem create {planStep : PlanStep} {restSteps : List PlanStep} {new : WorkflowStepRun}
    (coherent : ReadyPassCoherent plan rows pass processed (planStep :: restSteps) created)
    (key : new.stepKey = planStep.key) {active : Nat}
    (counted : active = pass.activeParallelCount + if new.isActive then 1 else 0) :
    ReadyPassCoherent plan (rows ++ [new])
      { pass with
        todo := restSteps.map (PlanStep.readyStep pass.existingSteps)
        activeParallelCount := active
        materializedAny := true }
      (processed ++ [planStep]) restSteps (created ++ [new]) where
  split := by rw [coherent.split]; simp
  todo := rfl
  grown := by rw [coherent.grown, List.append_assoc]
  createdIn row member := by
    rcases List.mem_append.mp member with old | isNew
    · obtain ⟨other, isProcessed, same⟩ := coherent.createdIn row old
      exact ⟨other, List.mem_append_left _ isProcessed, same⟩
    · rw [List.mem_singleton.mp isNew]
      exact ⟨planStep, by simp, key⟩
  limit := coherent.limit
  active := by rw [activeParallelCount_append, ← coherent.active, counted]
  unchanged := nofun
  some_ready := coherent.some_ready

/-- A pass that made nothing leaves nothing ready but what has to wait. -/
theorem settled (coherent : ReadyPassCoherent plan rows pass processed todo created)
    (done : pass.todo = []) (none : pass.materializedAny = false) : ReadySettled plan rows := by
  obtain ⟨-, allDeferred⟩ := coherent.unchanged none
  have noTodo : todo = [] := by
    have := coherent.todo
    rw [done] at this
    exact List.map_eq_nil_iff.mp this.symm
  right
  rcases allDeferred with noneProcessed | defers
  · have empty := coherent.split
    rw [noneProcessed, noTodo] at empty
    exact absurd empty coherent.some_ready
  · unfold ReadyPass.defers at defers
    rw [coherent.limit, coherent.active, Option.any_eq_true] at defers
    obtain ⟨limit, limited, reached⟩ := defers
    exact ⟨limit, limited, by simpa using reached⟩

end ReadyPassCoherent

namespace FailurePassCoherent

variable {pass : FailurePass} {failedKey : String} {processed todo : List PlanStep}
  {created : List WorkflowStepRun}

theorem start : FailurePassCoherent plan rows failedKey
    ⟨rows, plan.steps.map PlanStep.graphStep, false⟩ [] plan.steps [] where
  split := rfl
  todo := rfl
  grown := (List.append_nil rows).symm
  createdIn := by simp
  unchanged _ := ⟨rfl, by simp⟩

/-- The next step of the pass. -/
theorem head (coherent : FailurePassCoherent plan rows failedKey pass processed todo created)
    {planStep : PlanStep} {rest : List Json} (found : pass.todo = planStep.graphStep :: rest) :
    ∃ restSteps, todo = planStep :: restSteps ∧ rest = restSteps.map PlanStep.graphStep ∧
      planStep ∈ plan.steps ∧
      (workflowGraphLatestStep pass.existingSteps planStep.key = none →
        workflowGraphLatestStep rows planStep.key = none) := by
  have todoMap := coherent.todo
  rw [found] at todoMap
  obtain ⟨other, restSteps, rfl, same, rfl⟩ := List.map_eq_cons_iff.mp todoMap.symm
  cases PlanStep.eq_of_graphStep same
  refine ⟨restSteps, rfl, rfl, by rw [coherent.split]; simp, fun absent => ?_⟩
  have distinct : ((processed ++ planStep :: restSteps).map PlanStep.key).Nodup := by
    rw [← coherent.split]
    exact plan.distinctKeys
  exact absent_of_todo distinct coherent.grown coherent.createdIn absent

theorem pass_over {planStep : PlanStep} {restSteps : List PlanStep}
    (coherent : FailurePassCoherent plan rows failedKey pass processed (planStep :: restSteps)
      created)
    (noAction : planStep.failureAction failedKey pass.existingSteps = none) :
    FailurePassCoherent plan rows failedKey
      { pass with todo := restSteps.map PlanStep.graphStep } (processed ++ [planStep])
      restSteps created where
  split := by rw [coherent.split]; simp
  todo := rfl
  grown := coherent.grown
  createdIn row member := by
    obtain ⟨other, isProcessed, same⟩ := coherent.createdIn row member
    exact ⟨other, List.mem_append_left _ isProcessed, same⟩
  unchanged none := by
    obtain ⟨noneCreated, noActions⟩ := coherent.unchanged none
    refine ⟨noneCreated, fun other member => ?_⟩
    rcases List.mem_append.mp member with old | isLast
    · exact noActions other old
    · rw [List.mem_singleton.mp isLast]
      exact noAction

theorem create {planStep : PlanStep} {restSteps : List PlanStep} {new : WorkflowStepRun}
    (coherent : FailurePassCoherent plan rows failedKey pass processed (planStep :: restSteps)
      created) (key : new.stepKey = planStep.key) :
    FailurePassCoherent plan (rows ++ [new]) failedKey
      { pass with todo := restSteps.map PlanStep.graphStep, materializedAny := true }
      (processed ++ [planStep]) restSteps (created ++ [new]) where
  split := by rw [coherent.split]; simp
  todo := rfl
  grown := by rw [coherent.grown, List.append_assoc]
  createdIn row member := by
    rcases List.mem_append.mp member with old | isNew
    · obtain ⟨other, isProcessed, same⟩ := coherent.createdIn row old
      exact ⟨other, List.mem_append_left _ isProcessed, same⟩
    · rw [List.mem_singleton.mp isNew]
      exact ⟨planStep, by simp, key⟩
  unchanged := nofun

theorem settled (coherent : FailurePassCoherent plan rows failedKey pass processed todo created)
    (done : pass.todo = []) (none : pass.materializedAny = false) :
    ∀ planStep ∈ plan.steps, planStep.failureAction failedKey rows = Option.none := by
  obtain ⟨noneCreated, noActions⟩ := coherent.unchanged none
  have noTodo : todo = [] := by
    have := coherent.todo
    rw [done] at this
    exact List.map_eq_nil_iff.mp this.symm
  rw [coherent.split, noTodo, List.append_nil, coherent.grown, noneCreated, List.append_nil]
  exact noActions

end FailurePassCoherent

/-! ### Every turn keeps the control state coherent -/

theorem failureAction_absent {planStep : PlanStep} {failedKey : String} {action : FailureAction}
    (found : planStep.failureAction failedKey rows = some action) :
    workflowGraphLatestStep rows planStep.key = none := by
  unfold PlanStep.failureAction at found
  split at found
  · cases found
  · rename_i absent
    exact Option.not_isSome_iff_eq_none.mp absent

/-- The key of a new step run is one of the plan's, and its earlier attempts
failed. -/
structure Growth (plan : Plan) (rows : List WorkflowStepRun) (new : WorkflowStepRun) : Prop where
  known : new.stepKey ∈ plan.keys
  attempts : ∀ row ∈ rows, row.stepKey = new.stepKey → row.status = .failed

theorem Growth.of_absent {planStep : PlanStep} {new : WorkflowStepRun}
    (member : planStep ∈ plan.steps) (key : new.stepKey = planStep.key)
    (absent : workflowGraphLatestStep rows planStep.key = none) : Growth plan rows new where
  known := by
    rw [key]
    exact List.mem_map_of_mem member
  attempts row member same := absurd (same.trans key) (latest_eq_none.mp absent row member)

variable {phase : Phase} {outcome : Except AppError Phase} {after : List WorkflowStepRun}

/-- A turn leaves the step runs or adds one. -/
theorem Advances.growth (advances : Advances context plan rows phase outcome after)
    (coherent : PhaseCoherent plan workflowRunId rows phase) (ordered : AttemptsOrdered rows) :
    after = rows ∨ ∃ new, after = rows ++ [new] ∧ Growth plan rows new := by
  cases advances with
  | refused | succeeded | recorded | unknown | failed | noneReady | someReady | deferred
  | readyPassEnded | noSteps | failureBegun | passedOver | failurePassEnded | finalized
  | ended => exact .inl rfl
  | retried known failed remaining made ended =>
      rename_i run step new rootGrant planStep scheduledAt
      obtain ⟨-, latest⟩ := coherent
      obtain ⟨member, sameKey⟩ := Plan.stepOf_eq_some.mp known
      have key : new.stepKey = step.stepKey := (made.stepKey_eq rfl).trans sameKey
      refine .inr ⟨new, rfl, ?_, fun row inRows same => ?_⟩
      · rw [key, ← sameKey]
        exact List.mem_map_of_mem member
      · rcases failed_or_latest ordered inRows with rowFailed | rowLatest
        · exact rowFailed
        · rw [same.trans key, latest] at rowLatest
          rw [← Option.some.inj rowLatest]
          exact failed
  | branchSkipped todo admits evaluated unmatched made =>
      obtain ⟨-, processed, steps, created, passCoherent⟩ := coherent
      obtain ⟨planStep, rest, rfl, rfl, rfl, isReady, absent⟩ := passCoherent.head todo
      exact .inr ⟨_, rfl, .of_absent (Plan.mem_ready.mp isReady).1 (made.stepKey_eq rfl) absent⟩
  | readied todo admits evaluated isMatched made =>
      obtain ⟨-, processed, steps, created, passCoherent⟩ := coherent
      obtain ⟨planStep, rest, rfl, rfl, rfl, isReady, absent⟩ := passCoherent.head todo
      exact .inr ⟨_, rfl, .of_absent (Plan.mem_ready.mp isReady).1 (made.stepKey_eq rfl) absent⟩
  | compensated todo action made =>
      obtain ⟨-, processed, steps, created, passCoherent⟩ := coherent
      obtain ⟨rest, rfl, rfl, member, absent⟩ := passCoherent.head todo
      exact .inr ⟨_, rfl, .of_absent member (made.stepKey_eq rfl)
        (absent (failureAction_absent action))⟩
  | skipped todo action made =>
      obtain ⟨-, processed, steps, created, passCoherent⟩ := coherent
      obtain ⟨rest, rfl, rfl, member, absent⟩ := passCoherent.head todo
      exact .inr ⟨_, rfl, .of_absent member (made.stepKey_eq rfl)
        (absent (failureAction_absent action))⟩

theorem Advances.growth_of_append {new : WorkflowStepRun}
    (advances : Advances context plan rows phase outcome (rows ++ [new]))
    (coherent : PhaseCoherent plan workflowRunId rows phase) (ordered : AttemptsOrdered rows) :
    Growth plan rows new := by
  rcases advances.growth coherent ordered with same | ⟨other, same, growth⟩
  · simp at same
  · cases List.append_cancel_left same
    exact growth

theorem Advances.phaseCoherent {next : Phase}
    (advances : Advances context plan rows phase outcome after)
    (coherent : PhaseCoherent plan workflowRunId rows phase) (ended : outcome = .ok next) :
    PhaseCoherent plan workflowRunId after next := by
  cases advances with
  | refused error => cases ended
  | succeeded rootGrant successful =>
      cases ended
      exact ⟨coherent, successful⟩
  | recorded | unknown =>
      cases ended
      trivial
  | retried known failed remaining made returned =>
      rcases returned with returned | ⟨error, returned⟩
      · cases returned.symm.trans ended
        trivial
      · cases returned.symm.trans ended
  | failed rootGrant known unsuccessful exhausted =>
      cases ended
      exact ⟨coherent, unsuccessful, _, known, exhausted⟩
  | noneReady none_ready =>
      cases ended
      exact ⟨coherent.1.1, .inl (.inl none_ready)⟩
  | someReady some_ready =>
      cases ended
      exact ⟨coherent, _, _, _, .start some_ready⟩
  | deferred todo defers =>
      cases ended
      obtain ⟨current, processed, steps, created, passCoherent⟩ := coherent
      obtain ⟨planStep, rest, rfl, rfl, rfl, -, -⟩ := passCoherent.head todo
      exact ⟨current, _, _, _, passCoherent.defer defers⟩
  | branchSkipped todo admits evaluated unmatched made =>
      cases ended
      obtain ⟨⟨current, successful⟩, processed, steps, created, passCoherent⟩ := coherent
      obtain ⟨planStep, rest, rfl, rfl, rfl, -, absent⟩ := passCoherent.head todo
      have key := made.stepKey_eq (show _ = planStep.graphStep from rfl)
      have inactive := made.inactive rfl
      exact ⟨⟨current.append (by rw [key]; exact absent), successful⟩, _, _, _,
        passCoherent.create key (by rw [inactive]; rfl)⟩
  | readied todo admits evaluated isMatched made =>
      cases ended
      obtain ⟨⟨current, successful⟩, processed, steps, created, passCoherent⟩ := coherent
      obtain ⟨planStep, rest, rfl, rfl, rfl, -, absent⟩ := passCoherent.head todo
      have key := made.stepKey_eq (show _ = planStep.graphStep from rfl)
      exact ⟨⟨current.append (by rw [key]; exact absent), successful⟩, _, _, _,
        passCoherent.create key (by rw [made.isActive (.inl rfl)]; rfl)⟩
  | readyPassEnded todo =>
      cases ended
      obtain ⟨current, processed, steps, created, passCoherent⟩ := coherent
      split
      · exact current
      · rename_i none
        exact ⟨current.1.1, .inl (passCoherent.settled todo (by simpa using none))⟩
  | noSteps noSteps =>
      cases ended
      exact ⟨coherent.current.1, .inr ⟨_, coherent.current.2, coherent.unsuccessful,
        by simp [noSteps]⟩⟩
  | failureBegun =>
      cases ended
      exact ⟨coherent, _, _, _, .start⟩
  | passedOver todo noAction =>
      cases ended
      obtain ⟨failing, processed, steps, created, passCoherent⟩ := coherent
      obtain ⟨rest, rfl, rfl, -, -⟩ := passCoherent.head todo
      exact ⟨failing, _, _, _, passCoherent.pass_over noAction⟩
  | compensated todo action made =>
      cases ended
      obtain ⟨failing, processed, steps, created, passCoherent⟩ := coherent
      obtain ⟨rest, rfl, rfl, -, absent⟩ := passCoherent.head todo
      have key := made.stepKey_eq rfl
      have absent := absent (failureAction_absent action)
      exact ⟨failing.append (by rw [key]; exact absent), _, _, _, passCoherent.create key⟩
  | skipped todo action made =>
      cases ended
      obtain ⟨failing, processed, steps, created, passCoherent⟩ := coherent
      obtain ⟨rest, rfl, rfl, -, absent⟩ := passCoherent.head todo
      have key := made.stepKey_eq rfl
      have absent := absent (failureAction_absent action)
      exact ⟨failing.append (by rw [key]; exact absent), _, _, _, passCoherent.create key⟩
  | failurePassEnded todo =>
      cases ended
      obtain ⟨failing, processed, steps, created, passCoherent⟩ := coherent
      split
      · exact failing
      · rename_i none
        exact ⟨failing.current.1, .inr ⟨_, failing.current.2, failing.unsuccessful,
          passCoherent.settled todo (by simpa using none)⟩⟩
  | finalized =>
      cases ended
      exact coherent.2
  | ended isEnd =>
      cases ended
      exact coherent

end passes

end MandoForge
