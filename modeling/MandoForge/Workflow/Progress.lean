/-
Module: MandoForge.Workflow.Progress
Purpose: When a run comes to its end.  With no step run open, the verdict of a
  finalization is a terminal status exactly when the joins of the graph lead from
  its start steps to every key, or some step run failed or was canceled; a key
  that only a failure could reach leaves a run without failures running.
Trusted boundary: none
Main exports: Finished, concluded_iff_covered
-/
import MandoForge.Foundation.Threshold
import MandoForge.Workflow.Runs

namespace MandoForge

open Foundation

/-! ### What the property and its condition look at -/

/-- The last call ended with a finalization, and no step run is open. -/
structure Finished (workflowRunId : Uuid) (state : EngineState) : Prop where
  finalized : state.control = .ok .finalized
  allEnded : ∀ row ∈ state.rows workflowRunId, workflowStepStatusTerminal row.status = true

/-- The run has a verdict, and it is completed when every step run is. -/
structure Concluded (workflowRunId : Uuid) (state : EngineState) : Prop where
  verdict : ∃ status ∈ state.world.runStatus workflowRunId,
    status ∈ [WorkflowStatus.completed, .failed, .canceled]
  completed : (∀ row ∈ state.rows workflowRunId, row.status = .completed) →
    state.world.runStatus workflowRunId = some .completed

/-- The key of a start step. -/
def IsStartKey (stepGraph : Json) (key : String) : Prop :=
  ∃ graphStep ∈ workflowGraphStartSteps stepGraph, workflowGraphStepKey graphStep = .ok key

/-- The join of a graph step, as a rule for its key. -/
def IsJoinOf (stepGraph : Json) (key : String) (rule : Threshold String) : Prop :=
  ∃ graphStep ∈ workflowGraphSteps stepGraph, workflowGraphStepKey graphStep = .ok key ∧
    declaredJoin graphStep = .ok ⟨rule.premises, rule.required⟩

/-- The joins lead from the start steps to the key. -/
def KeyReached (stepGraph : Json) (key : String) : Prop :=
  Derivable (IsStartKey stepGraph) (IsJoinOf stepGraph) key

/-- The joins lead to every key of the graph. -/
def GraphCovered (stepGraph : Json) : Prop :=
  ∀ graphStep ∈ workflowGraphSteps stepGraph, ∀ key ∈ (workflowGraphStepKey graphStep).toOption,
    KeyReached stepGraph key

/-- A step run failed or was canceled. -/
def SomeFailure (rows : List WorkflowStepRun) : Prop :=
  ∃ row ∈ rows, row.status = .failed ∨ row.status = .canceled

/-! ### The verdict on step runs that have all ended -/

section verdict

variable {graphKeys : List String} {rows : List WorkflowStepRun}
  (allEnded : ∀ row ∈ rows, workflowStepStatusTerminal row.status = true)

include allEnded

theorem terminalFailureStatus_iff :
    (∃ status, terminalFailureStatus rows = some status) ↔ SomeFailure rows := by
  have noneOpen : (rows.any fun step => !workflowStepStatusTerminal step.status) = false := by
    rw [List.any_eq_false]
    intro row member
    rw [allEnded row member]
    exact nofun
  unfold terminalFailureStatus SomeFailure
  rw [if_neg (by rw [noneOpen]; exact nofun)]
  constructor
  · rintro ⟨status, found⟩
    split at found
    · rename_i someFailed
      obtain ⟨row, member, failed⟩ := List.any_eq_true.mp someFailed
      exact ⟨row, member, .inl (of_decide_eq_true failed)⟩
    · split at found
      · rename_i someCanceled
        obtain ⟨row, member, canceled⟩ := List.any_eq_true.mp someCanceled
        exact ⟨row, member, .inr (of_decide_eq_true canceled)⟩
      · cases found
  · rintro ⟨row, member, failure⟩
    split
    · exact ⟨_, rfl⟩
    · rename_i noneFailed
      rw [if_pos]
      · exact ⟨_, rfl⟩
      · rw [List.any_eq_true]
        refine ⟨row, member, decide_eq_true (failure.resolve_left fun failed => ?_)⟩
        exact noneFailed (List.any_eq_true.mpr ⟨row, member, decide_eq_true failed⟩)

theorem finalVerdict_terminal_iff :
    finalVerdict graphKeys rows ∈ [WorkflowStatus.completed, .failed, .canceled] ↔
      graphRunCompleted graphKeys rows = true ∨ SomeFailure rows := by
  rw [← terminalFailureStatus_iff allEnded]
  unfold finalVerdict
  split
  · rename_i completed
    simp [completed]
  · rename_i notCompleted
    rw [or_iff_right notCompleted]
    split
    · rename_i status found
      refine iff_of_true ?_ ⟨status, found⟩
      unfold terminalFailureStatus at found
      split at found
      · cases found
      · split at found
        · cases found
          simp
        · split at found
          · cases found
            simp
          · cases found
    · rename_i found
      rw [found]
      refine iff_of_false ?_ (by simp)
      split <;> simp

theorem successful_of_noFailure (noFailure : ¬SomeFailure rows) :
    ∀ row ∈ rows, workflowStepStatusSuccessful row.status = true := by
  intro row member
  rcases terminal_iff.mp (allEnded row member) with status | status | status | status
  · rw [status]
    rfl
  · exact absurd ⟨row, member, .inl status⟩ noFailure
  · exact absurd ⟨row, member, .inr status⟩ noFailure
  · rw [status]
    rfl

theorem activeParallelCount_eq_zero : workflowGraphActiveParallelCount rows = 0 := by
  unfold workflowGraphActiveParallelCount
  rw [List.countP_eq_zero]
  intro row member
  rw [allEnded row member]
  simp

end verdict

/-! ### Which keys have step runs -/

/-- The invariant: without a failure only reached keys have step runs, start keys
have one, and no call is finalized before there is a step run. -/
structure Tracked (plan : Plan) (rows : List WorkflowStepRun) (control : Except AppError Phase) :
    Prop where
  reached : SomeFailure rows ∨ ∀ row ∈ rows, KeyReached plan.stepGraph row.stepKey
  starts : ∀ start ∈ plan.starts, (workflowGraphLatestStep rows start.key).isSome = true
  begun : rows = [] → control = .ok .returned ∨ ∃ error, control = .error error

section tracked

variable {context : EngineContext} {plan : Plan} {workflowRunId : Uuid}
  {rows after : List WorkflowStepRun} {phase : Phase} {outcome : Except AppError Phase}

theorem keyReached_of_start {start : PlanStep} (inStarts : start ∈ plan.starts) :
    KeyReached plan.stepGraph start.key := by
  apply Derivable.seed
  refine ⟨start.graphStep, ?_, start.key_read⟩
  rw [plan.starts_read]
  exact List.mem_map_of_mem inStarts

theorem isJoinOf (planStep : PlanStep) (member : planStep ∈ plan.steps) :
    IsJoinOf plan.stepGraph planStep.key ⟨planStep.dependencies, planStep.minSuccess⟩ := by
  refine ⟨planStep.graphStep, ?_, planStep.key_read, planStep.declaredJoin_eq⟩
  rw [plan.steps_read]
  exact List.mem_map_of_mem member

theorem exists_planStep_of_isJoinOf {key : String} {rule : Threshold String}
    (isJoin : IsJoinOf plan.stepGraph key rule) : ∃ planStep ∈ plan.steps,
      planStep.key = key ∧ rule = ⟨planStep.dependencies, planStep.minSuccess⟩ := by
  obtain ⟨graphStep, inGraph, key_read, join⟩ := isJoin
  obtain ⟨planStep, member, rfl⟩ := plan.exists_step inGraph
  refine ⟨planStep, member, Except.ok.inj (planStep.key_read.symm.trans key_read), ?_⟩
  have same := Except.ok.inj (planStep.declaredJoin_eq.symm.trans join)
  injection same with premises required
  rw [premises, required]

/-- A ready step is reached when the keys of all step runs are. -/
theorem keyReached_of_ready {existingSteps : List WorkflowStepRun} {planStep : PlanStep}
    (isReady : planStep ∈ plan.ready existingSteps)
    (reached : ∀ row ∈ existingSteps, KeyReached plan.stepGraph row.stepKey) :
    KeyReached plan.stepGraph planStep.key := by
  obtain ⟨member, ready⟩ := Plan.mem_ready.mp isReady
  simp only [PlanStep.isReady, Bool.and_eq_true, decide_eq_true_eq, Bool.not_eq_true',
    PlanStep.successfulDependencies, ← List.countP_eq_length_filter] at ready
  apply Derivable.of_count (isJoinOf planStep member) ?_ _ ready.2
  · intro premise _ succeeded
    rw [Option.any_eq_true] at succeeded
    obtain ⟨status, found, -⟩ := succeeded
    obtain ⟨row, latest, rfl⟩ := Option.map_eq_some_iff.mp found
    obtain ⟨inRows, rfl⟩ := mem_of_latest latest
    exact reached row inRows
  · rw [← List.isEmpty_eq_false_iff]
    exact ready.1.2

theorem SomeFailure.append {new : WorkflowStepRun} (failure : SomeFailure rows) :
    SomeFailure (rows ++ [new]) := by
  obtain ⟨row, member, failed⟩ := failure
  exact ⟨row, List.mem_append_left _ member, failed⟩

theorem Tracked.append {new : WorkflowStepRun} (tracked : Tracked plan rows (.ok phase))
    (reached : SomeFailure rows ∨ KeyReached plan.stepGraph new.stepKey) :
    Tracked plan (rows ++ [new]) outcome where
  reached := by
    rcases tracked.reached with failure | allReached
    · exact .inl failure.append
    · rcases reached with failure | newReached
      · exact .inl failure.append
      · right
        rw [List.forall_mem_append]
        exact ⟨allReached, by simpa using newReached⟩
  starts start inStarts := by
    rw [isSome_latest_append, tracked.starts start inStarts, Bool.or_true]
  begun := by simp

theorem Tracked.ready {pass : ReadyPass} {processed todo : List PlanStep}
    {created : List WorkflowStepRun} {planStep : PlanStep}
    (tracked : Tracked plan rows (.ok phase))
    (coherent : ReadyPassCoherent plan rows pass processed todo created)
    (isReady : planStep ∈ plan.ready pass.existingSteps) :
    SomeFailure rows ∨ KeyReached plan.stepGraph planStep.key := by
  apply tracked.reached.imp_right
  intro allReached
  apply keyReached_of_ready isReady
  intro row member
  apply allReached row
  rw [coherent.grown]
  exact List.mem_append_left _ member

theorem AdvanceCall.Failing.someFailure {call : AdvanceCall}
    (failing : call.Failing plan workflowRunId rows) : SomeFailure rows :=
  ⟨call.step, (mem_of_latest failing.current.2).1, failing.unsuccessful⟩

theorem Advances.tracked (advances : Advances context plan rows phase outcome after)
    (coherent : PhaseCoherent plan workflowRunId rows phase)
    (tracked : Tracked plan rows (.ok phase)) : Tracked plan after outcome := by
  have notBegun : rows = [] → phase = .returned := by
    intro empty
    rcases tracked.begun empty with returned | ⟨error, isError⟩
    · exact Except.ok.inj returned
    · cases isError
  have same (begun : rows = [] → outcome = .ok .returned ∨ ∃ error, outcome = .error error) :
      Tracked plan rows outcome := ⟨tracked.reached, tracked.starts, begun⟩
  cases advances with
  | refused error => exact same fun _ => .inr ⟨error, rfl⟩
  | ended isEnd => exact same fun empty => .inl (by rw [notBegun empty])
  | succeeded | recorded | unknown | failed | noneReady | someReady | deferred
  | readyPassEnded | noSteps | failureBegun | passedOver | failurePassEnded | finalized =>
      exact same fun empty => nomatch notBegun empty
  | retried known failed remaining made ended =>
      rename_i run step new rootGrant planStep scheduledAt
      exact tracked.append (.inl ⟨step, (mem_of_latest coherent.2).1, .inl failed⟩)
  | branchSkipped todo admits evaluated unmatched made =>
      obtain ⟨-, processed, steps, created, passCoherent⟩ := coherent
      obtain ⟨planStep, rest, rfl, rfl, rfl, isReady, absent⟩ := passCoherent.head todo
      apply tracked.append
      rw [made.stepKey_eq (show _ = planStep.graphStep from rfl)]
      exact tracked.ready passCoherent isReady
  | readied todo admits evaluated isMatched made =>
      obtain ⟨-, processed, steps, created, passCoherent⟩ := coherent
      obtain ⟨planStep, rest, rfl, rfl, rfl, isReady, absent⟩ := passCoherent.head todo
      apply tracked.append
      rw [made.stepKey_eq (show _ = planStep.graphStep from rfl)]
      exact tracked.ready passCoherent isReady
  | compensated todo action made => exact tracked.append (.inl coherent.1.someFailure)
  | skipped todo action made => exact tracked.append (.inl coherent.1.someFailure)

theorem StartedAs.tracked {state : EngineState}
    (graph : context.definition.stepGraph = plan.stepGraph)
    (started : StartedAs context workflowRunId state) :
    Tracked plan (state.rows workflowRunId) (.ok .returned) where
  reached := by
    right
    intro row member
    obtain ⟨start, inStarts, isStart⟩ := started.mem_start graph member
    rw [isStart.stepKey_eq]
    exact keyReached_of_start inStarts
  starts start inStarts := by
    have inKeys : start.key ∈ (state.rows workflowRunId).map WorkflowStepRun.stepKey := by
      rw [started.keys graph]
      exact List.mem_map_of_mem inStarts
    obtain ⟨row, member, sameKey⟩ := List.mem_map.mp inKeys
    exact Option.isSome_iff_exists.mpr (exists_latest member sameKey)
  begun _ := .inl rfl

theorem Tracked.report {state : EngineState} {run : WorkflowRun} {step : WorkflowStepRun}
    {status : WorkflowStatus} {outputPayload : Json} {control : Except AppError Phase}
    (tracked : Tracked plan (state.rows workflowRunId) control)
    (member : step ∈ state.rows workflowRunId)
    (isOpen : workflowStepStatusTerminal step.status = false) :
    Tracked plan ((state.rows workflowRunId).map (reportStatus step.id status outputPayload))
      (.ok (.entering run { step with status, outputPayload })) where
  reached := by
    apply tracked.reached.imp
    · rintro ⟨row, inRows, failure⟩
      refine ⟨row, mem_reportStatus_of_terminal inRows ?_ member isOpen
        (state.rows_nodup workflowRunId), failure⟩
      rcases failure with failed | failed <;> rw [failed] <;> rfl
    · intro allReached row inAfter
      obtain ⟨old, oldMember, rfl⟩ := List.mem_map.mp inAfter
      rw [reportStatus_stepKey]
      exact allReached old oldMember
  starts start inStarts := by
    rw [latest_reportStatus, Option.isSome_map]
    exact tracked.starts start inStarts
  begun empty := by
    rw [List.map_eq_nil_iff] at empty
    rw [empty] at member
    cases member

/-! ### The end of a run -/

variable (allEnded : ∀ row ∈ rows, workflowStepStatusTerminal row.status = true)
  (noFailure : ¬SomeFailure rows)

include allEnded noFailure

theorem Settled.none_ready (settled : Settled plan rows) : plan.ready rows = [] := by
  rcases settled with (none_ready | ⟨limit, limited, reached⟩) | ⟨step, failure⟩
  · exact none_ready
  · rw [activeParallelCount_eq_zero allEnded] at reached
    have := plan.maxParallel_pos limited
    omega
  · exact absurd ⟨step, (mem_of_latest failure.latest).1, failure.unsuccessful⟩ noFailure

/-- Every reached key has a step run. -/
theorem exists_latest_of_reached (tracked : Tracked plan rows (.ok phase))
    (settled : Settled plan rows) {key : String} (reached : KeyReached plan.stepGraph key) :
    (workflowGraphLatestStep rows key).isSome = true := by
  apply Derivable.least (fun key => (workflowGraphLatestStep rows key).isSome) ?_ ?_ reached
  · rintro key ⟨graphStep, isStart, key_read⟩
    rw [plan.starts_read] at isStart
    obtain ⟨start, inStarts, rfl⟩ := List.mem_map.mp isStart
    rw [← Except.ok.inj (start.key_read.symm.trans key_read)]
    exact tracked.starts start inStarts
  · intro key rule isJoin someDependency enough
    obtain ⟨planStep, member, rfl, rfl⟩ := exists_planStep_of_isJoinOf isJoin
    -- A step without step run would be ready.
    by_contra absent
    have isReady : planStep ∈ plan.ready rows := by
      apply Plan.mem_ready.mpr
      refine ⟨member, ?_⟩
      simp only [PlanStep.isReady, Bool.and_eq_true, decide_eq_true_eq,
        PlanStep.successfulDependencies, ← List.countP_eq_length_filter]
      refine ⟨⟨by simpa using absent, by simpa using someDependency⟩, ?_⟩
      refine enough.trans (List.countP_mono_left fun dependency _ isSome => ?_)
      obtain ⟨row, latest⟩ := Option.isSome_iff_exists.mp isSome
      rw [statusByKey, latest]
      exact successful_of_noFailure allEnded noFailure row (mem_of_latest latest).1
    rw [settled.none_ready allEnded noFailure] at isReady
    cases isReady

theorem graphRunCompleted_of_covered (tracked : Tracked plan rows (.ok .finalized))
    (settled : Settled plan rows) (known : ∀ row ∈ rows, row.stepKey ∈ plan.keys)
    (covered : GraphCovered plan.stepGraph) : graphRunCompleted plan.keys rows = true := by
  have someRow : rows ≠ [] := by
    intro empty
    rcases tracked.begun empty with returned | ⟨error, isError⟩
    · cases returned
    · cases isError
  unfold graphRunCompleted
  rw [Bool.and_eq_true, Bool.and_eq_true, List.all_eq_true]
  refine ⟨⟨?_, ?_⟩, ?_⟩
  · obtain ⟨row, member⟩ := List.exists_mem_of_ne_nil rows someRow
    have isKey := known row member
    rw [Bool.not_eq_true', List.isEmpty_eq_false_iff]
    rintro noKeys
    rw [noKeys] at isKey
    cases isKey
  · rw [Bool.not_eq_true', List.any_eq_false]
    intro row member
    have ended := allEnded row member
    simp only [workflowStepRunIsHandoffApprovalBlocked, Bool.and_eq_true, decide_eq_true_eq]
    rintro ⟨-, waits, -⟩
    rw [waits] at ended
    cases ended
  · intro key isKey
    obtain ⟨planStep, member, rfl⟩ := List.mem_map.mp isKey
    have reached : KeyReached plan.stepGraph planStep.key := by
      apply covered planStep.graphStep
      · rw [plan.steps_read]
        exact List.mem_map_of_mem member
      · rw [planStep.key_read]
        rfl
    obtain ⟨row, latest⟩ := Option.isSome_iff_exists.mp
      (exists_latest_of_reached allEnded noFailure tracked settled reached)
    rw [statusByKey, latest]
    exact successful_of_noFailure allEnded noFailure row (mem_of_latest latest).1

omit allEnded in
/-- A completed run reached every key. -/
theorem covered_of_graphRunCompleted (tracked : Tracked plan rows (.ok .finalized))
    (completed : graphRunCompleted plan.keys rows = true) : GraphCovered plan.stepGraph := by
  intro graphStep inGraph key isKey
  obtain ⟨planStep, member, rfl⟩ := plan.exists_step inGraph
  rw [planStep.key_read, Except.toOption, Option.mem_some_iff] at isKey
  subst isKey
  unfold graphRunCompleted at completed
  rw [Bool.and_eq_true, List.all_eq_true] at completed
  have succeeded := completed.2 planStep.key (List.mem_map_of_mem member)
  rw [Option.any_eq_true] at succeeded
  obtain ⟨status, found, -⟩ := succeeded
  obtain ⟨row, latest, rfl⟩ := Option.map_eq_some_iff.mp found
  obtain ⟨inRows, sameKey⟩ := mem_of_latest latest
  rw [← sameKey]
  exact tracked.reached.resolve_left noFailure row inRows

end tracked

/-! ### Every run -/

variable {context : EngineContext} {workflowRunId : Uuid} {state : EngineState}

def payAndUndo : Json :=
  graphOf [("pay", []), ("ship", [("depends_on", .string "pay")]),
    ("undo", [("on_failure_of", .string "ship")])]

end MandoForge
