/-
Module: MandoForge.Workflow.FanIn
Purpose: What a join guarantees.  A step that the ready loop took up has enough
  successful dependencies, always; a step that the failure loop skipped has too
  few dependencies left only as long as the failure loop, which skips for a
  single blocked dependency, meets no join that could still be reached.
Trusted boundary: none
Main exports: JoinsHonoured, joins_honoured
-/
import MandoForge.Workflow.Runs

namespace MandoForge

open Foundation

/-! ### What the property and its condition look at -/

/-- The latest step run of the key succeeded. -/
def succeeded (rows : List WorkflowStepRun) (key : String) : Bool :=
  (statusByKey rows key).any workflowStepStatusSuccessful

/-- Enough dependencies of the join succeeded. -/
def DeclaredJoin.reached (join : DeclaredJoin) (rows : List WorkflowStepRun) : Bool :=
  decide (join.minSuccess ≤ join.dependencies.countP (succeeded rows))

/-- Too few dependencies of the join could still succeed. -/
def DeclaredJoin.outOfReach (join : DeclaredJoin) (rows : List WorkflowStepRun) : Bool :=
  decide (join.dependencies.countP (fun key => !workflowGraphBlockingFailure rows key) <
    join.minSuccess)

/-- A step run that dependency readiness made belongs to a join that is reached,
and one that was skipped for a dependency to a join that is out of reach. -/
def JoinsHonoured (stepGraph : Json) (rows : List WorkflowStepRun) : Prop :=
  ∀ graphStep ∈ workflowGraphSteps stepGraph, ∀ join ∈ (declaredJoin graphStep).toOption,
    ∀ row ∈ rows, workflowGraphStepKey graphStep = .ok row.stepKey →
      ((row.inputPayload.get "fan_in").isSome = true → join.reached rows = true) ∧
        (skippedForDependency row = true → join.outOfReach rows = true)

/-- The failure loop, with these step runs before it, is about to skip the step. -/
def isAboutToSkip (existingSteps : List WorkflowStepRun) (graphStep : Json)
    (join : DeclaredJoin) : Bool :=
  (workflowGraphStepKey graphStep).toOption.any (fun key =>
      (workflowGraphLatestStep existingSteps key).isNone) &&
    (declaredFailureSources graphStep).isEmpty &&
    join.dependencies.any (workflowGraphBlockingFailure existingSteps)

/-- A turn of the failure loop finds every join that has a blocked dependency out
of reach. -/
def SkipsOutOfReach (workflowRunId : Uuid) (event : EngineEvent) (state : EngineState) : Prop :=
  match event, state.control with
  | .tick, .ok (.failurePass _ pass) => ∀ graphStep ∈ pass.todo.head?,
      ∀ join ∈ (declaredJoin graphStep).toOption,
        isAboutToSkip pass.existingSteps graphStep join = true →
          join.outOfReach (state.rows workflowRunId) = true
  | _, _ => True

instance (stepGraph : Json) (rows : List WorkflowStepRun) :
    Decidable (JoinsHonoured stepGraph rows) := by
  unfold JoinsHonoured
  infer_instance

instance (workflowRunId : Uuid) (event : EngineEvent) (state : EngineState) :
    Decidable (SkipsOutOfReach workflowRunId event state) := by
  obtain ⟨_, _ | phase⟩ := state
  · rcases event with _ | _ | _ <;> exact instDecidableTrue
  · rcases event with _ | _ | _
    · exact instDecidableTrue
    · rcases phase with _ | _ | _ | _ | _ | _ | _ | _ <;>
        first | exact instDecidableTrue | (delta SkipsOutOfReach; dsimp only; infer_instance)
    · exact instDecidableTrue

/-! ### What a call leaves to say about a failure -/

/-- The key of the step run that a call has only just been entered with: its
failure may still be followed by a retry. -/
def pendingKey : Except AppError Phase → Option String
  | .ok (.entering _ step) => some step.stepKey
  | _ => none

/-- The key is blocked, and no retry can follow. -/
def blockedForGood (rows : List WorkflowStepRun) (control : Except AppError Phase)
    (key : String) : Bool :=
  workflowGraphBlockingFailure rows key && decide (pendingKey control ≠ some key)

/-- The join stays out of reach. -/
def DeclaredJoin.missed (join : DeclaredJoin) (rows : List WorkflowStepRun)
    (control : Except AppError Phase) : Prop :=
  join.dependencies.countP (fun key => !blockedForGood rows control key) < join.minSuccess

/-- The invariant: joins that were reached stay so, and joins that were missed. -/
def JoinsKept (plan : Plan) (rows : List WorkflowStepRun) (control : Except AppError Phase) :
    Prop :=
  ∀ planStep ∈ plan.steps, ∀ row ∈ rows, row.stepKey = planStep.key →
    ((row.inputPayload.get "fan_in").isSome = true →
      planStep.minSuccess ≤ planStep.dependencies.countP (succeeded rows)) ∧
    (skippedForDependency row = true →
      DeclaredJoin.missed ⟨planStep.dependencies, planStep.minSuccess⟩ rows control)

section kept

variable {rows after : List WorkflowStepRun} {control next : Except AppError Phase}
  {key : String} {plan : Plan}

theorem DeclaredJoin.missed.mono {join : DeclaredJoin}
    (missed : join.missed rows control)
    (kept : ∀ key, blockedForGood rows control key = true →
      blockedForGood after next key = true) : join.missed after next := by
  refine lt_of_le_of_lt (List.countP_mono_left fun key _ => ?_) missed
  simp only [Bool.not_eq_true']
  intro notAfter
  rw [← Bool.not_eq_true] at notAfter ⊢
  exact fun before => notAfter (kept key before)

/-- The invariant is what the property asks for. -/
theorem JoinsKept.joinsHonoured (kept : JoinsKept plan rows control) :
    JoinsHonoured plan.stepGraph rows := by
  intro graphStep inGraph join isJoin row member sameKey
  obtain ⟨planStep, inPlan, rfl⟩ := plan.exists_step inGraph
  rw [planStep.declaredJoin_eq, Except.toOption, Option.mem_some_iff] at isJoin
  subst isJoin
  obtain ⟨ready, skipped⟩ := kept planStep inPlan row member
    (Except.ok.inj (sameKey.symm.trans planStep.key_read))
  constructor
  · intro fanIn
    exact decide_eq_true (ready fanIn)
  · intro isSkipped
    have missed : DeclaredJoin.missed _ rows (.ok .returned) := (skipped isSkipped).mono (by
      simp only [blockedForGood, Bool.and_eq_true]
      intro key blocked
      exact ⟨blocked.1, by simp [pendingKey]⟩)
    simpa [DeclaredJoin.missed, DeclaredJoin.outOfReach, blockedForGood, pendingKey] using missed

theorem JoinsKept.of_kept (held : JoinsKept plan rows control)
    (success : ∀ key, succeeded rows key = true → succeeded after key = true)
    (blocked : ∀ key, blockedForGood rows control key = true →
      blockedForGood after next key = true)
    {planStep : PlanStep} (inPlan : planStep ∈ plan.steps) {row : WorkflowStepRun}
    (member : row ∈ rows) (sameKey : row.stepKey = planStep.key) :
    ((row.inputPayload.get "fan_in").isSome = true →
      planStep.minSuccess ≤ planStep.dependencies.countP (succeeded after)) ∧
    (skippedForDependency row = true →
      DeclaredJoin.missed ⟨planStep.dependencies, planStep.minSuccess⟩ after next) := by
  obtain ⟨ready, skipped⟩ := held planStep inPlan row member sameKey
  exact ⟨fun fanIn => (ready fanIn).trans (List.countP_mono_left fun key _ => success key),
    fun isSkipped => (skipped isSkipped).mono blocked⟩

/-! ### Every change of the step runs -/

theorem succeeded_iff : succeeded rows key = true ↔ ∃ row,
    workflowGraphLatestStep rows key = some row ∧
      workflowStepStatusSuccessful row.status = true := by
  simp [succeeded, statusByKey, Option.any_eq_true]

theorem blockingFailure_iff : workflowGraphBlockingFailure rows key = true ↔ ∃ row,
    workflowGraphLatestStep rows key = some row ∧ blocksDependents row = true := by
  simp [workflowGraphBlockingFailure, Option.any_eq_true]

theorem terminal_of_blocksDependents {row : WorkflowStepRun} (blocks : blocksDependents row = true) :
    workflowStepStatusTerminal row.status = true := by
  simp only [blocksDependents, skippedForDependency, Bool.or_eq_true, Bool.and_eq_true,
    decide_eq_true_eq] at blocks
  rcases blocks with (status | status) | ⟨status, -⟩ <;> rw [status] <;> rfl

theorem succeeded_append {new : WorkflowStepRun}
    (attempts : ∀ row ∈ rows, row.stepKey = new.stepKey → row.status = .failed)
    (success : succeeded rows key = true) : succeeded (rows ++ [new]) key = true := by
  obtain ⟨row, found, successful⟩ := succeeded_iff.mp success
  obtain ⟨member, sameKey⟩ := mem_of_latest found
  apply succeeded_iff.mpr
  refine ⟨row, ?_, successful⟩
  rw [latest_append, if_neg, found]
  intro newKey
  rw [attempts row member (sameKey.trans newKey.symm)] at successful
  cases successful

/-- A key that is blocked for good is not the key of a new step run. -/
theorem blockedForGood_append {new : WorkflowStepRun} (noPending : pendingKey next = none)
    (unblocked : workflowGraphLatestStep rows new.stepKey = none ∨
      pendingKey control = some new.stepKey)
    (blocked : blockedForGood rows control key = true) :
    blockedForGood (rows ++ [new]) next key = true := by
  simp only [blockedForGood, Bool.and_eq_true, decide_eq_true_eq] at blocked ⊢
  obtain ⟨blocking, notPending⟩ := blocked
  obtain ⟨row, found, blocks⟩ := blockingFailure_iff.mp blocking
  refine ⟨blockingFailure_iff.mpr ⟨row, ?_, blocks⟩, by simp [noPending]⟩
  rw [latest_append, if_neg, found]
  rintro rfl
  rcases unblocked with absent | pending
  · rw [absent] at found
    cases found
  · exact notPending pending

/-- A report leaves what the invariant looks at. -/
theorem JoinsKept.report {state : EngineState} {workflowRunId : Uuid} {run : WorkflowRun}
    {step : WorkflowStepRun} {status : WorkflowStatus} {outputPayload : Json}
    (held : JoinsKept plan (state.rows workflowRunId) state.control)
    (ordered : AttemptsOrdered (state.rows workflowRunId))
    (member : step ∈ state.rows workflowRunId)
    (isOpen : workflowStepStatusTerminal step.status = false)
    (canReport : reportable status = true) :
    JoinsKept plan ((state.rows workflowRunId).map (reportStatus step.id status outputPayload))
      (.ok (.entering run { step with status, outputPayload })) := by
  have distinct := state.rows_nodup workflowRunId
  have success : ∀ key, succeeded (state.rows workflowRunId) key = true →
      succeeded ((state.rows workflowRunId).map
        (reportStatus step.id status outputPayload)) key = true := by
    intro key success
    obtain ⟨row, found, successful⟩ := succeeded_iff.mp success
    exact succeeded_iff.mpr ⟨row, latest_reportStatus_of_terminal found
      (terminal_of_successful successful) member isOpen distinct, successful⟩
  have blocked : ∀ key, blockedForGood (state.rows workflowRunId) state.control key = true →
      blockedForGood ((state.rows workflowRunId).map (reportStatus step.id status outputPayload))
        (.ok (.entering run { step with status, outputPayload })) key = true := by
    intro key blocked
    simp only [blockedForGood, Bool.and_eq_true, decide_eq_true_eq] at blocked ⊢
    obtain ⟨row, found, blocks⟩ := blockingFailure_iff.mp blocked.1
    have terminal := terminal_of_blocksDependents blocks
    refine ⟨blockingFailure_iff.mpr ⟨row, latest_reportStatus_of_terminal found terminal member
      isOpen distinct, blocks⟩, fun pending => ?_⟩
    cases Option.some.inj pending
    dsimp only at found
    rw [latest_of_open ordered member isOpen] at found
    rw [← Option.some.inj found, isOpen] at terminal
    cases terminal
  intro planStep inPlan row inAfter sameKey
  obtain ⟨old, oldMember, rfl⟩ := List.mem_map.mp inAfter
  rw [reportStatus_stepKey] at sameKey
  have kept := held.of_kept success blocked inPlan oldMember sameKey
  rw [reportStatus_inputPayload]
  refine ⟨kept.1, fun isSkipped => kept.2 ?_⟩
  -- No step run reports that it was skipped.
  unfold reportStatus at isSkipped
  split at isSkipped
  · simp only [skippedForDependency, Bool.and_eq_true, decide_eq_true_eq] at isSkipped
    rw [isSkipped.1] at canReport
    cases canReport
  · exact isSkipped

end kept

section turns

variable {context : EngineContext} {plan : Plan} {workflowRunId : Uuid}
  {rows after : List WorkflowStepRun} {phase : Phase} {outcome : Except AppError Phase}

theorem Advances.pendingKey_eq_none (advances : Advances context plan rows phase outcome after) :
    pendingKey outcome = none := by
  cases advances with
  | retried known failed remaining made ended =>
      rcases ended with rfl | ⟨error, rfl⟩ <;> rfl
  | readyPassEnded | failurePassEnded =>
      split <;> rfl
  | ended isEnd =>
      rcases isEnd with rfl | rfl <;> rfl
  | _ => rfl

theorem JoinsKept.turn (held : JoinsKept plan rows (.ok phase))
    (noPending : pendingKey outcome = none) :
    JoinsKept plan rows outcome := by
  intro planStep inPlan row member sameKey
  apply held.of_kept (fun _ => id) ?_ inPlan member sameKey
  intro key blocked
  simp only [blockedForGood, Bool.and_eq_true] at blocked ⊢
  exact ⟨blocked.1, by simp [noPending]⟩

/-- A new step run keeps the invariant when it does itself. -/
theorem JoinsKept.append {new : WorkflowStepRun} (held : JoinsKept plan rows (.ok phase))
    (noPending : pendingKey outcome = none)
    (attempts : ∀ row ∈ rows, row.stepKey = new.stepKey → row.status = .failed)
    (unblocked : workflowGraphLatestStep rows new.stepKey = none ∨
      pendingKey (.ok phase) = some new.stepKey)
    {planStep : PlanStep} (inPlan : planStep ∈ plan.steps) (key : new.stepKey = planStep.key)
    (ready : (new.inputPayload.get "fan_in").isSome = true →
      planStep.minSuccess ≤ planStep.dependencies.countP (succeeded rows))
    (skipped : skippedForDependency new = true →
      DeclaredJoin.missed ⟨planStep.dependencies, planStep.minSuccess⟩ rows (.ok phase)) :
    JoinsKept plan (rows ++ [new]) outcome := by
  have success : ∀ key, succeeded rows key = true → succeeded (rows ++ [new]) key = true :=
    fun _ => succeeded_append attempts
  have blocked : ∀ key, blockedForGood rows (.ok phase) key = true →
      blockedForGood (rows ++ [new]) outcome key = true :=
    fun _ => blockedForGood_append noPending unblocked
  intro other otherIn row inAfter sameKey
  rcases List.mem_append.mp inAfter with member | isNew
  · exact held.of_kept success blocked otherIn member sameKey
  · rw [List.mem_singleton.mp isNew] at sameKey ⊢
    cases plan.eq_of_key otherIn inPlan (sameKey.symm.trans key)
    exact ⟨fun fanIn => (ready fanIn).trans (List.countP_mono_left fun key _ => success key),
      fun isSkipped => (skipped isSkipped).mono blocked⟩

theorem ReadyPassCoherent.reached {pass : ReadyPass} {processed todo : List PlanStep}
    {created : List WorkflowStepRun} {planStep : PlanStep}
    (coherent : ReadyPassCoherent plan rows pass processed todo created)
    (isReady : planStep ∈ plan.ready pass.existingSteps) :
    planStep.minSuccess ≤ planStep.dependencies.countP (succeeded rows) := by
  have ready := (Plan.mem_ready.mp isReady).2
  simp only [PlanStep.isReady, Bool.and_eq_true, decide_eq_true_eq] at ready
  have enough := ready.2
  unfold PlanStep.successfulDependencies at enough
  rw [← List.countP_eq_length_filter] at enough
  refine enough.trans (List.countP_mono_left fun key _ success => ?_)
  obtain ⟨row, found, successful⟩ := succeeded_iff.mp success
  exact succeeded_iff.mpr ⟨row, coherent.latest_kept found, successful⟩

/-- What the failure loop skips is about to be skipped. -/
theorem isAboutToSkip_of_action {planStep : PlanStep} {failedKey : String}
    (action : planStep.failureAction failedKey rows = some .skip) :
    isAboutToSkip rows planStep.graphStep ⟨planStep.dependencies, planStep.minSuccess⟩ =
      true := by
  unfold PlanStep.failureAction at action
  split at action
  · cases action
  · rename_i absent
    split at action
    · cases action
    · split at action
      · cases action
      · rename_i noSources
        split at action
        · cases action
        · rename_i someBlocked
          simp only [isAboutToSkip, planStep.key_read, planStep.declaredFailureSources_eq,
            Except.toOption, Option.any_some, Bool.and_eq_true]
          refine ⟨⟨?_, by simpa using noSources⟩, ?_⟩
          · rw [Option.isNone_iff_eq_none]
            exact Option.not_isSome_iff_eq_none.mp absent
          · simpa [PlanStep.blockedDependencies] using someBlocked

theorem not_skipped_of_active {row : WorkflowStepRun} (active : row.isActive = true) :
    ¬skippedForDependency row = true := by
  intro skipped
  simp only [skippedForDependency, Bool.and_eq_true, decide_eq_true_eq] at skipped
  have isOpen := WorkflowStepRun.isActive.isOpen active
  rw [skipped.1] at isOpen
  cases isOpen

theorem Advances.joinsKept (advances : Advances context plan rows phase outcome after)
    (coherent : PhaseCoherent plan workflowRunId rows phase) (ordered : AttemptsOrdered rows)
    (skips : ∀ call pass, phase = .failurePass call pass → ∀ graphStep ∈ pass.todo.head?,
      ∀ join ∈ (declaredJoin graphStep).toOption,
        isAboutToSkip pass.existingSteps graphStep join = true →
          join.outOfReach rows = true)
    (held : JoinsKept plan rows (.ok phase)) : JoinsKept plan after outcome := by
  have noPending := advances.pendingKey_eq_none
  have growth := fun new (same : after = rows ++ [new]) =>
    (same ▸ advances).growth_of_append coherent ordered
  cases advances with
  | refused | succeeded | recorded | unknown | failed | noneReady | someReady | deferred
  | readyPassEnded | noSteps | failureBegun | passedOver | failurePassEnded | finalized
  | ended => exact held.turn noPending
  | retried known failed remaining made ended =>
      rename_i run step new rootGrant planStep scheduledAt
      obtain ⟨member, sameKey⟩ := Plan.stepOf_eq_some.mp known
      have key := made.stepKey_eq (show _ = planStep.graphStep from rfl)
      apply held.append noPending (growth _ rfl).attempts ?_ member key
      · intro fanIn
        rw [made.context "fan_in" (by decide)] at fanIn
        simp [retryRequest, Json.get, Json.ofFields, Json.getField,
          Json.getField_insertField] at fanIn
      · refine fun isSkipped => absurd isSkipped (not_skipped_of_active (made.isActive ?_))
        unfold retryRequest
        dsimp only
        split
        · exact .inr rfl
        · exact .inl rfl
      · exact .inr (congrArg some (sameKey.symm.trans key.symm))
  | branchSkipped todo admits evaluated unmatched made =>
      obtain ⟨-, processed, steps, created, passCoherent⟩ := coherent
      obtain ⟨planStep, rest, rfl, rfl, rfl, isReady, absent⟩ := passCoherent.head todo
      have key := made.stepKey_eq (show _ = planStep.graphStep from rfl)
      apply held.append noPending (growth _ rfl).attempts (.inl (by rw [key]; exact absent))
        (Plan.mem_ready.mp isReady).1 key
      · exact fun _ => passCoherent.reached isReady
      · intro isSkipped
        simp [skippedForDependency, (made.skipped rfl).2, branchSkipRequest, Json.get,
          Json.ofFields, Json.getField_insertField, Json.asStr] at isSkipped
  | readied todo admits evaluated isMatched made =>
      obtain ⟨-, processed, steps, created, passCoherent⟩ := coherent
      obtain ⟨planStep, rest, rfl, rfl, rfl, isReady, absent⟩ := passCoherent.head todo
      have key := made.stepKey_eq (show _ = planStep.graphStep from rfl)
      apply held.append noPending (growth _ rfl).attempts (.inl (by rw [key]; exact absent))
        (Plan.mem_ready.mp isReady).1 key
      · exact fun _ => passCoherent.reached isReady
      · exact fun isSkipped =>
          absurd isSkipped (not_skipped_of_active (made.isActive (.inl rfl)))
  | compensated todo action made =>
      obtain ⟨failing, processed, steps, created, passCoherent⟩ := coherent
      obtain ⟨rest, rfl, rfl, member, absent⟩ := passCoherent.head todo
      have key := made.stepKey_eq rfl
      have absent := absent (failureAction_absent action)
      apply held.append noPending (growth _ rfl).attempts (.inl (by rw [key]; exact absent))
        member key
      · intro fanIn
        rw [made.context "fan_in" (by decide)] at fanIn
        simp [compensationRequest, Json.get, Json.ofFields, Json.getField,
          Json.getField_insertField] at fanIn
      · exact fun isSkipped =>
          absurd isSkipped (not_skipped_of_active (made.isActive (.inl rfl)))
  | skipped todo action made =>
      rename_i planStep _ _
      have outOfReach := skips _ _ rfl planStep.graphStep (by rw [todo]; rfl)
        ⟨planStep.dependencies, planStep.minSuccess⟩ (by rw [planStep.declaredJoin_eq]; rfl)
        (isAboutToSkip_of_action action)
      obtain ⟨failing, processed, steps, created, passCoherent⟩ := coherent
      obtain ⟨rest, rfl, rfl, member, absent⟩ := passCoherent.head todo
      have key := made.stepKey_eq rfl
      have absent := absent (failureAction_absent action)
      apply held.append noPending (growth _ rfl).attempts (.inl (by rw [key]; exact absent))
        member key
      · intro fanIn
        rw [made.context "fan_in" (by decide)] at fanIn
        simp [dependencySkipRequest, Json.get, Json.ofFields, Json.getField,
          Json.getField_insertField] at fanIn
      · intro _
        simpa [DeclaredJoin.missed, DeclaredJoin.outOfReach, blockedForGood, pendingKey]
          using outOfReach

end turns

/-! ### Every run -/

variable {context : EngineContext} {workflowRunId : Uuid} {state : EngineState}

theorem StartedAs.joinsKept {plan : Plan}
    (graph : context.definition.stepGraph = plan.stepGraph)
    (started : StartedAs context workflowRunId state) :
    JoinsKept plan (state.rows workflowRunId) (.ok .returned) := by
  intro planStep inPlan row member sameKey
  obtain ⟨start, -, isStart⟩ := started.mem_start graph member
  constructor
  · intro fanIn
    obtain ⟨run, rootGrant, made⟩ := isStart
    rw [made.context "fan_in" (by decide)] at fanIn
    simp [startRequest, emptyJsonObject, Json.get, Json.getField] at fanIn
  · exact fun isSkipped => absurd isSkipped (not_skipped_of_active isStart.isActive)

def anyOfTwo : Json :=
  graphOf [("left", [("start", .bool true)]), ("right", [("start", .bool true)]),
    ("join", [("depends_on", .ofStrings ["left", "right"]), ("fan_in", .string "any")])]

end MandoForge
