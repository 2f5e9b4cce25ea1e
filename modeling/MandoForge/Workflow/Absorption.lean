/-
Module: MandoForge.Workflow.Absorption
Purpose: Whether a run that has its verdict keeps it.  The status of a run is
  written whatever the stored one is, and callers compare with a run value they
  read earlier; a run with a verdict keeps it, with its grants closed, as long as
  no turn is about to write another status over it.
Trusted boundary: what else happens to the run leaves a verdict alone, and closes
  the grants along with one that it gives.
Main exports: UpdateEvent, terminal_runs_absorb
-/
import MandoForge.Workflow.Runs
import MandoForge.Workflow.Updates

namespace MandoForge

open Foundation

/-! ### Runs with a verdict -/

def NoActiveGrants (workflowRunId : Uuid) (world : World) : Prop :=
  ∀ grant ∈ world.store.taskGrants.rows, grant.workflowRunId = workflowRunId →
    grant.status ≠ .active

/-- The stored run has a terminal status. -/
def World.hasVerdict (workflowRunId : Uuid) (world : World) : Bool :=
  (world.runStatus workflowRunId).any workflowStepStatusTerminal

/-- A run with a verdict has no active grant. -/
def GrantsClosed (workflowRunId : Uuid) (world : World) : Prop :=
  world.hasVerdict workflowRunId = true → NoActiveGrants workflowRunId world

instance (workflowRunId : Uuid) (world : World) :
    Decidable (NoActiveGrants workflowRunId world) := by
  unfold NoActiveGrants
  infer_instance

instance (workflowRunId : Uuid) (world : World) :
    Decidable (GrantsClosed workflowRunId world) := by
  unfold GrantsClosed
  infer_instance

/-- From one world to the other a verdict stays, and grants stay closed. -/
structure Absorbs (workflowRunId : Uuid) (before after : World) : Prop where
  status : before.hasVerdict workflowRunId = true →
    after.runStatus workflowRunId = before.runStatus workflowRunId
  grants : GrantsClosed workflowRunId before → GrantsClosed workflowRunId after

namespace Absorbs

variable {workflowRunId : Uuid} {before after : World}

theorem refl (world : World) : Absorbs workflowRunId world world := ⟨fun _ => rfl, id⟩

theorem trans {first second third : World} (early : Absorbs workflowRunId first second)
    (late : Absorbs workflowRunId second third) : Absorbs workflowRunId first third where
  status verdict := by
    have same := early.status verdict
    have stays : second.hasVerdict workflowRunId = true := by
      rw [World.hasVerdict, same]
      exact verdict
    exact (late.status stays).trans same
  grants closed := late.grants (early.grants closed)

theorem of_runs (runs : after.store.workflowRuns = before.store.workflowRuns)
    (activeGrants : ∀ grant ∈ after.store.taskGrants, grant.status = .active →
      grant ∈ before.store.taskGrants) : Absorbs workflowRunId before after := by
  have same : after.runStatus workflowRunId = before.runStatus workflowRunId := by
    rw [World.runStatus, runs, World.runStatus]
  refine ⟨fun _ => same, fun closed verdict grant member ofRun active => ?_⟩
  rw [World.hasVerdict, same] at verdict
  exact closed verdict grant (activeGrants grant member active) ofRun active

theorem of_unchanged (unchanged : before.Unchanged after) :
    Absorbs workflowRunId before after :=
  of_runs unchanged.runs unchanged.activeGrants

theorem of_stepAdded {step : WorkflowStepRun} (added : before.StepAdded after step) :
    Absorbs workflowRunId before after := by
  have same := added.runStatus workflowRunId
  refine ⟨fun _ => same, fun closed verdict grant member ofRun active => ?_⟩
  rw [World.hasVerdict, same] at verdict
  rcases added.activeGrants grant member active with old | new
  · exact closed verdict grant old ofRun active
  · have accepts := added.accepts
    rw [← new, ofRun] at accepts
    obtain ⟨status, stored, terminal⟩ := Option.any_eq_true .. |>.mp verdict
    rw [stored, Option.any_some, not_allowsStepCreation_of_terminal terminal] at accepts
    cases accepts

end Absorbs

theorem LeavesSteps.absorbs {Value : Type} {program : WorkflowProgram Value}
    (leaves : LeavesSteps program) (workflowRunId : Uuid) :
    program.Moves (Absorbs workflowRunId) :=
  fun world => .of_unchanged (leaves world)

theorem materialize_absorbs (context : EngineContext) (request : MaterializeRequest)
    (workflowRunId : Uuid) :
    (materializeWorkflowGraphStepWithPolicyContext context request).Moves
      (Absorbs workflowRunId) := by
  intro world
  have adds := materialize_adds context request world
  unfold Program.Ensures at adds
  generalize (materializeWorkflowGraphStepWithPolicyContext context request).run world = ran
    at adds ⊢
  obtain ⟨outcome, after⟩ := ran
  cases outcome with
  | error error => exact .of_unchanged adds
  | ok new => exact .of_stepAdded adds.2

/-! ### Closing the grants of a run -/

theorem updateTaskGrantStatus_closes {grant : TaskGrant} {nextStatus : TaskGrantStatus}
    (closes : nextStatus ≠ .active) (active : grant.status = .active) {store : MemoryStore}
    (stored : store.taskGrants.find? grant.id = some grant) :
    updateTaskGrantStatus grant.id nextStatus store =
      (.ok { grant with status := nextStatus }, { store with
        taskGrants := store.taskGrants.modify grant.id fun stored =>
          { stored with status := nextStatus } }) := by
  unfold updateTaskGrantStatus
  rw [if_neg closes, stored]
  dsimp only
  rw [if_neg (by rw [active]; exact Ne.symm closes), if_neg (by rw [active]; exact fun h => h rfl)]

/-- What closing a list of grants leaves active. -/
def ClosedOf (grants : List TaskGrant) (before after : World) : Prop :=
  after.store.workflowRuns = before.store.workflowRuns ∧
    ∀ grant ∈ after.store.taskGrants, grant.status = .active →
      grant ∈ before.store.taskGrants ∧ grant ∉ grants

theorem closeTaskGrants_closes {nextStatus : TaskGrantStatus} (closes : nextStatus ≠ .active)
    {grants : List TaskGrant} (distinct : (grants.map TaskGrant.id).Nodup) {world : World}
    (stored : ∀ grant ∈ grants, world.store.taskGrants.find? grant.id = some grant) :
    (closeTaskGrants nextStatus grants).Ensures world fun outcome after =>
      outcome = .ok () ∧ ClosedOf grants world after := by
  induction grants generalizing world with
  | nil => exact ⟨rfl, rfl, fun grant member _ => ⟨member, List.not_mem_nil⟩⟩
  | cons grant rest inductionHypothesis =>
      rw [List.map_cons, List.nodup_cons] at distinct
      rw [List.forall_mem_cons] at stored
      unfold closeTaskGrants
      split
      · rename_i active
        unfold Program.Ensures
        rw [Program.run_bind, AppState.run_updateTaskGrantStatus]
        unfold World.onStore
        rw [updateTaskGrantStatus_closes closes active stored.1]
        have restStored : ∀ other ∈ rest, (world.store.taskGrants.modify grant.id fun stored =>
            { stored with status := nextStatus }).find? other.id = some other := by
          intro other member
          rw [Table.find?_modify_ne, stored.2 other member]
          intro same
          apply distinct.1
          rw [← same]
          exact List.mem_map_of_mem member
        obtain ⟨isOk, runs, activeGrants⟩ := inductionHypothesis distinct.2
          (show ∀ other ∈ rest, ({ world with store := { world.store with
            taskGrants := world.store.taskGrants.modify grant.id fun stored =>
              { stored with status := nextStatus } } } : World).store.taskGrants.find? other.id =
                some other from restStored)
        refine ⟨isOk, runs, fun other member otherActive => ?_⟩
        obtain ⟨inBetween, notInRest⟩ := activeGrants other member otherActive
        change other ∈ world.store.taskGrants.modify grant.id _ at inBetween
        obtain ⟨old, oldMember, same⟩ := Table.mem_modify.mp inBetween
        split at same
        · subst same
          exact absurd otherActive closes
        · rename_i otherId
          subst same
          refine ⟨oldMember, List.not_mem_cons_of_ne_of_not_mem ?_ notInRest⟩
          rintro rfl
          exact otherId rfl
      · rename_i notActive
        obtain ⟨isOk, runs, activeGrants⟩ := inductionHypothesis distinct.2 stored.2
        refine ⟨isOk, runs, fun other member otherActive => ?_⟩
        obtain ⟨oldMember, notInRest⟩ := activeGrants other member otherActive
        refine ⟨oldMember, List.not_mem_cons_of_ne_of_not_mem ?_ notInRest⟩
        rintro rfl
        exact notActive otherActive

theorem closeActiveTaskGrantsForWorkflowRun_closes {nextStatus : TaskGrantStatus}
    (closes : nextStatus ≠ .active) (workflowRunId : Uuid) (world : World) :
    (closeActiveTaskGrantsForWorkflowRun workflowRunId nextStatus).Ensures world
      fun outcome after => outcome = .ok () ∧
        after.store.workflowRuns = world.store.workflowRuns ∧
        NoActiveGrants workflowRunId after := by
  have distinct : ((world.taskGrantsOf workflowRunId).map TaskGrant.id).Nodup :=
    (List.filter_sublist.map TaskGrant.id).nodup world.store.taskGrants.nodupKeys
  have stored : ∀ grant ∈ world.taskGrantsOf workflowRunId,
      world.store.taskGrants.find? grant.id = some grant :=
    fun grant member => Table.find?_key (List.mem_filter.mp member).1
  obtain ⟨isOk, runs, activeGrants⟩ := closeTaskGrants_closes closes distinct stored
  unfold closeActiveTaskGrantsForWorkflowRun Program.Ensures
  rw [Program.run_bind, AppState.run_listTaskGrantsForWorkflowRun]
  refine ⟨isOk, runs, fun grant member ofRun active => ?_⟩
  obtain ⟨old, notListed⟩ := activeGrants grant member active
  exact notListed (List.mem_filter.mpr ⟨old, by simpa using ofRun⟩)

/-! ### Status writes -/

/-- A write over a verdict is harmless when the caller's run value has the status
already, so that nothing is written, or the stored run has it. -/
def isHarmless (world : World) (write : WorkflowRun × WorkflowStatus) : Bool :=
  decide (write.1.status = write.2) || decide (world.runStatus write.1.id = some write.2)

theorem absorbs_bind {Value Next : Type} {workflowRunId : Uuid} {world : World}
    {first : WorkflowProgram Value} {next : Value → WorkflowProgram Next}
    (before : first.Ensures world fun _ after => Absorbs workflowRunId world after)
    (rest : ∀ value after, first.run world = (.ok value, after) →
      (next value).Ensures after fun _ last => Absorbs workflowRunId after last) :
    (first >>= next).Ensures world fun _ last => Absorbs workflowRunId world last := by
  unfold Program.Ensures at before ⊢
  rw [Program.run_bind]
  generalize ran : first.run world = out at before ⊢
  obtain ⟨outcome, after⟩ := out
  cases outcome with
  | error error => exact before
  | ok value => exact before.trans (rest value after ran)

/-- The write of a status and what follows it. -/
theorem writeStatus_absorbs (run : WorkflowRun) (status : WorkflowStatus) (world : World)
    (harmless : world.hasVerdict run.id = true → world.runStatus run.id = some status) :
    (do
      let updated ← AppState.updateWorkflowRunStatus run.id status
      updateWorkflowRunStatusAndRecord.closeGrantsOf run.id status
      finishCompletedWorkflowSession updated
      return updated : WorkflowProgram WorkflowRun).Ensures world
        fun _ after => Absorbs run.id world after := by
  unfold Program.Ensures
  rw [Program.run_bind, AppState.run_updateWorkflowRunStatus]
  unfold World.onStore updateWorkflowRunStatus
  cases found : world.store.workflowRuns.find? run.id with
  | none => exact .refl world
  | some stored =>
      dsimp only
      generalize written : ({ world with store := { world.store with
        workflowRuns := world.store.workflowRuns.modify run.id fun stored =>
          { stored with status } } } : World) = between
      have status_between : between.runStatus run.id = some status := by
        rw [← written, World.runStatus, Table.find?_modify_same, found]
        rfl
      -- Nothing behind the write changes the runs; a terminal status closes the grants.
      have runs := fun updated => (afterStatusWrite_keepsRecords run updated status).part
        Prod.snd between
      have after_status (updated : WorkflowRun) :
          ((do
            updateWorkflowRunStatusAndRecord.closeGrantsOf run.id status
            finishCompletedWorkflowSession updated
            return updated : WorkflowProgram WorkflowRun).run between).2.runStatus run.id =
            some status := by
        rw [← status_between, World.runStatus, World.runStatus]
        exact congrArg (fun runs => (runs.find? run.id).map WorkflowRun.status) (runs updated)
      refine ⟨fun verdict => ?_, fun _ verdict => ?_⟩
      · rw [after_status, harmless verdict]
      · rw [World.hasVerdict, after_status, Option.any_some] at verdict
        unfold updateWorkflowRunStatusAndRecord.closeGrantsOf
        rw [if_pos verdict, Program.run_bind]
        have closes : (if workflowStepStatusSuccessful status then TaskGrantStatus.completed
            else .cancelled) ≠ .active := by
          split <;> simp
        have closed := closeActiveTaskGrantsForWorkflowRun_closes closes run.id between
        unfold Program.Ensures at closed
        generalize (closeActiveTaskGrantsForWorkflowRun run.id _).run between = ran at closed ⊢
        obtain ⟨outcome, last⟩ := ran
        obtain ⟨rfl, -, closed⟩ := closed
        have finished : LeavesSteps (finishCompletedWorkflowSession { stored with status } >>=
            fun _ => (pure { stored with status } : WorkflowProgram WorkflowRun)) :=
          .bind (finishCompletedWorkflowSession_leavesSteps _) fun _ => .pure _
        exact fun grant member ofRun active =>
          closed grant ((finished last).activeGrants grant member active) ofRun active

theorem record_absorbs (run : WorkflowRun) (status : WorkflowStatus) (world : World)
    (harmless : world.hasVerdict run.id = true → isHarmless world (run, status) = true) :
    (updateWorkflowRunStatusAndRecord run status).Ensures world
      fun _ after => Absorbs run.id world after := by
  unfold updateWorkflowRunStatusAndRecord
  split
  · have finished : LeavesSteps (finishCompletedWorkflowSession run >>=
        fun _ => (pure run : WorkflowProgram WorkflowRun)) :=
      .bind (finishCompletedWorkflowSession_leavesSteps run) fun _ => .pure _
    exact finished.absorbs run.id world
  · rename_i different
    apply writeStatus_absorbs
    intro verdict
    have writes := harmless verdict
    rw [isHarmless, Bool.or_eq_true, decide_eq_true_eq, decide_eq_true_eq] at writes
    exact writes.resolve_left different

/-- The status that a turn is about to write, with the run value that it compares
to.  The write behind a retry is left out: it follows a step run, which a run with
a verdict refuses. -/
def Phase.statusWrite (context : EngineContext) (world : World) :
    Phase → Option (WorkflowRun × WorkflowStatus)
  | .entering run step =>
      match step.status with
      | .running | .requiresAction => some (run, step.status)
      | .failed | .canceled =>
          match workflowGraphStepByKey step.stepKey
            (workflowGraphSteps context.definition.stepGraph) with
          | .ok none => some (run, step.status)
          | _ => none
      | _ => none
  | .finalizing run =>
      match workflowGraphStepKeys context.definition.stepGraph,
        world.store.workflowRuns.find? run.id with
      | .ok graphKeys, some current =>
          some (current, finalVerdict graphKeys (world.stepRunsOf run.id))
      | _, _ => none
  | _ => none

section turns

variable {context : EngineContext} {world : World} {run : WorkflowRun}

theorem isHarmless_of_unchanged {after : World} (unchanged : world.Unchanged after)
    {write : WorkflowRun × WorkflowStatus} : isHarmless after write = isHarmless world write := by
  rw [isHarmless, unchanged.runStatus, isHarmless]

theorem hasVerdict_of_unchanged {after : World} (unchanged : world.Unchanged after)
    (workflowRunId : Uuid) :
    after.hasVerdict workflowRunId = world.hasVerdict workflowRunId := by
  rw [World.hasVerdict, unchanged.runStatus, World.hasVerdict]

theorem recordAndReturn_absorbs {status : WorkflowStatus} {Value : Type} (value : Value)
    (harmless : world.hasVerdict run.id = true → isHarmless world (run, status) = true) :
    (updateWorkflowRunStatusAndRecord run status >>= fun _ =>
      (pure value : WorkflowProgram Value)).Ensures world
      fun _ after => Absorbs run.id world after := by
  apply absorbs_bind (record_absorbs run status world harmless)
  exact fun _ after _ => .refl after

/-- A retry adds a step run, so the run has no verdict, before it writes. -/
theorem retryStep_absorbs (call : AdvanceCall) (graphStep : Json) (attempts : Nat)
    (retryPolicy : WorkflowGraphRetryPolicy) :
    (retryStep context call graphStep attempts retryPolicy).Ensures world
      fun _ after => Absorbs call.run.id world after := by
  have time : LeavesSteps (retryTime retryPolicy) := by
    unfold retryTime
    split
    · exact .bind .readClock fun _ => .pure _
    · exact .pure _
  unfold retryStep
  apply absorbs_bind (time.absorbs _ _)
  intro scheduledAt between _
  apply absorbs_bind (materialize_absorbs _ _ _ _)
  intro new after ran
  apply recordAndReturn_absorbs
  intro verdict
  have adds := materialize_adds context (retryRequest context call graphStep attempts retryPolicy
    scheduledAt) between
  unfold Program.Ensures at adds
  rw [ran] at adds
  obtain ⟨made, added⟩ := adds
  have accepts := added.accepts
  rw [← added.runStatus, made.workflowRunId] at accepts
  obtain ⟨status, stored, terminal⟩ := Option.any_eq_true .. |>.mp verdict
  change (after.runStatus call.run.id).any _ = true at accepts
  rw [stored, Option.any_some, not_allowsStepCreation_of_terminal terminal] at accepts
  cases accepts

theorem rootGrantOf_leavesSteps (run : WorkflowRun) : LeavesSteps (rootGrantOf run) :=
  .bind (.ofExcept _) fun _ => .getTaskGrant _

theorem unchanged_of_ran {Value : Type} {program : WorkflowProgram Value} {value : Value}
    {after : World} (leaves : LeavesSteps program)
    (ran : program.run world = (.ok value, after)) : world.Unchanged after := by
  have unchanged := leaves world
  rw [ran] at unchanged
  exact unchanged

theorem failure_absorbs {step : WorkflowStepRun}
    (failed : step.status = .failed ∨ step.status = .canceled)
    (harmless : world.hasVerdict run.id = true →
      ∀ write ∈ (Phase.entering run step).statusWrite context world,
        isHarmless world write = true) :
    (advanceWorkflowGraphAfterStepFailure context run step).Ensures world
      fun _ after => Absorbs run.id world after := by
  unfold advanceWorkflowGraphAfterStepFailure
  apply absorbs_bind ((rootGrantOf_leavesSteps run).absorbs _ _)
  intro rootGrant first ran
  have firstUnchanged := unchanged_of_ran (rootGrantOf_leavesSteps run) ran
  apply absorbs_bind ((LeavesSteps.listWorkflowStepRuns run.id).absorbs _ _)
  intro existingSteps second ran
  have secondUnchanged := firstUnchanged.trans
    (unchanged_of_ran (LeavesSteps.listWorkflowStepRuns run.id) ran)
  apply absorbs_bind ((LeavesSteps.ofExcept _).absorbs _ _)
  intro found third ran
  rw [Program.run_ofExcept] at ran
  obtain ⟨read, rfl⟩ := Prod.mk.inj ran
  split
  · apply recordAndReturn_absorbs
    intro verdict
    rw [hasVerdict_of_unchanged secondUnchanged] at verdict
    rw [isHarmless_of_unchanged secondUnchanged]
    apply harmless verdict
    unfold Phase.statusWrite
    rcases failed with failed | failed <;> simp [failed, read]
  · rename_i graphStep
    split
    · apply absorbs_bind ((LeavesSteps.ofExcept _).absorbs _ _)
      intro retryPolicy fourth _
      split
      · exact retryStep_absorbs _ _ _ _
      · exact .refl _
    · exact .refl _

theorem enterAdvance_absorbs {step : WorkflowStepRun}
    (harmless : world.hasVerdict run.id = true →
      ∀ write ∈ (Phase.entering run step).statusWrite context world,
        isHarmless world write = true) :
    (enterAdvance context run step).Ensures world fun _ after => Absorbs run.id world after := by
  have onSuccess : (rootGrantOf run >>= fun rootGrant =>
      (pure (.readying ⟨run, step, rootGrant⟩) : WorkflowProgram Phase)).Ensures world
      fun _ after => Absorbs run.id world after :=
    (LeavesSteps.bind (rootGrantOf_leavesSteps run) fun _ => .pure _).absorbs run.id world
  unfold enterAdvance
  split
  · rename_i status
    exact failure_absorbs (.inl status) harmless
  · rename_i status
    exact failure_absorbs (.inr status) harmless
  · exact onSuccess
  · exact onSuccess
  · rename_i status
    apply recordAndReturn_absorbs
    intro verdict
    exact harmless verdict _ (by simp [Phase.statusWrite, status])
  · rename_i status
    apply recordAndReturn_absorbs
    intro verdict
    exact harmless verdict _ (by simp [Phase.statusWrite, status])
  · exact .refl world

theorem finalize_absorbs
    (harmless : world.hasVerdict run.id = true →
      ∀ write ∈ (Phase.finalizing run).statusWrite context world,
        isHarmless world write = true) :
    (finalizeWorkflowGraphAfterTransitionPolicy context run).Ensures world
      fun _ after => Absorbs run.id world after := by
  unfold Program.Ensures
  cases found : world.store.workflowRuns.find? run.id with
  | none =>
      unfold finalizeWorkflowGraphAfterTransitionPolicy
      rw [Program.run_bind, AppState.run_getWorkflowRun, found]
      exact .refl world
  | some current =>
      have sameId : current.id = run.id := (Table.find?_eq_some.mp found).2
      cases keys_read : workflowGraphStepKeys context.definition.stepGraph with
      | error error =>
          unfold finalizeWorkflowGraphAfterTransitionPolicy
          simp only [Program.run_bind, AppState.run_getWorkflowRun, found, okOr,
            Program.run_ofExcept, keys_read]
          exact .refl world
      | ok graphKeys =>
          rw [finalize_run keys_read found]
          have write : (current, finalVerdict graphKeys (world.stepRunsOf run.id)) ∈
              (Phase.finalizing run).statusWrite context world := by
            simp [Phase.statusWrite, keys_read, found]
          rw [← sameId] at harmless write ⊢
          apply recordAndReturn_absorbs
          exact fun verdict => harmless verdict _ write

/-- A turn that is about to write nothing new over a verdict leaves the verdict. -/
theorem advance_absorbs {phase : Phase} {workflowRunId : Uuid}
    (ofRun : ∀ run, phase.run? = some run → run.id = workflowRunId)
    (harmless : world.hasVerdict workflowRunId = true →
      ∀ write ∈ phase.statusWrite context world, isHarmless world write = true) :
    (phase.advance context).Ensures world
      fun _ after => Absorbs workflowRunId world after := by
  cases phase with
  | entering run step =>
      rw [← ofRun run rfl] at harmless ⊢
      exact enterAdvance_absorbs harmless
  | readying call =>
      have leaves : LeavesSteps (beginReadyPass context call) := by
        unfold beginReadyPass
        apply LeavesSteps.bind (.listWorkflowStepRuns _)
        intro existingSteps
        apply LeavesSteps.bind (.ofExcept _)
        intro readySteps
        split
        · exact .pure _
        · exact .bind (.ofExcept _) fun _ => .pure _
      exact leaves.absorbs workflowRunId world
  | readyPass call pass =>
      simp only [Phase.advance]
      split
      · rename_i readyStep rest _
        unfold readyTurn
        split
        · exact .refl world
        · apply absorbs_bind ((LeavesSteps.ofExcept _).absorbs _ _)
          intro evaluation after _
          split
          all_goals
            apply absorbs_bind (materialize_absorbs _ _ _ _)
            intro new last _
            exact .refl last
      · exact .refl world
  | failing call =>
      have leaves : LeavesSteps (beginFailurePass context call) := by
        unfold beginFailurePass
        split
        · exact .pure _
        · exact .bind (.listWorkflowStepRuns _) fun _ => .pure _
      exact leaves.absorbs workflowRunId world
  | failurePass call pass =>
      simp only [Phase.advance]
      split
      · rename_i graphStep rest _
        unfold failureTurn
        apply absorbs_bind ((LeavesSteps.ofExcept _).absorbs _ _)
        intro request after _
        split
        · exact .refl after
        · apply absorbs_bind (materialize_absorbs _ _ _ _)
          intro new last _
          exact .refl last
      · exact .refl world
  | finalizing run =>
      rw [← ofRun run rfl] at harmless ⊢
      exact absorbs_bind (finalize_absorbs harmless) fun _ after _ => .refl after
  | returned => exact .refl world
  | finalized => exact .refl world

/-- A turn stays with the run of its call. -/
theorem advance_run? (phase : Phase) :
    (phase.advance context).Returns fun next =>
      ∀ run, next.run? = some run → phase.run? = some run := by
  have returned {next : Phase} (isEnd : next.run? = none) {start : Phase} :
      ∀ run, next.run? = some run → start.run? = some run :=
    fun run found => nomatch isEnd.symm.trans found
  have failed (run : WorkflowRun) (step : WorkflowStepRun) :
      (advanceWorkflowGraphAfterStepFailure context run step).Returns fun next =>
        ∀ other, next.run? = some other → (Phase.entering run step).run? = some other := by
    unfold advanceWorkflowGraphAfterStepFailure
    refine .bind fun rootGrant => .bind fun existingSteps => .bind fun found => ?_
    split
    · exact .bind fun _ => .pure (returned rfl)
    · split
      · refine .bind fun retryPolicy => ?_
        split
        · unfold retryStep
          exact .bind fun _ => .bind fun _ => .bind fun _ => .pure (returned rfl)
        · exact .pure fun _ found => found
      · exact .pure fun _ found => found
  cases phase with
  | entering run step =>
      simp only [Phase.advance]
      unfold enterAdvance
      split
      · exact failed run step
      · exact failed run step
      · exact .bind fun _ => .pure fun _ found => found
      · exact .bind fun _ => .pure fun _ found => found
      · exact .bind fun _ => .pure (returned rfl)
      · exact .bind fun _ => .pure (returned rfl)
      · exact .pure (returned rfl)
  | readying call =>
      simp only [Phase.advance]
      unfold beginReadyPass
      refine .bind fun existingSteps => .bind fun readySteps => ?_
      split
      · exact .pure fun _ found => found
      · exact .bind fun _ => .pure fun _ found => found
  | readyPass call pass =>
      simp only [Phase.advance]
      split
      · unfold readyTurn
        split
        · exact .pure fun _ found => found
        · refine .bind fun evaluation => ?_
          split <;> exact .bind fun _ => .pure fun _ found => found
      · split <;> exact .pure fun _ found => found
  | failing call =>
      simp only [Phase.advance]
      unfold beginFailurePass
      split
      · exact .pure fun _ found => found
      · exact .bind fun _ => .pure fun _ found => found
  | failurePass call pass =>
      simp only [Phase.advance]
      split
      · unfold failureTurn
        refine .bind fun request => ?_
        split
        · exact .pure fun _ found => found
        · exact .bind fun _ => .pure fun _ found => found
      · split <;> exact .pure fun _ found => found
  | finalizing run => exact .bind fun _ => .pure (returned rfl)
  | returned => exact .pure (returned rfl)
  | finalized => exact .pure (returned rfl)

end turns

/-! ### The other ways into the engine -/

theorem moves_pure {Value : Type} {workflowRunId : Uuid} (value : Value) :
    (pure value : WorkflowProgram Value).Moves (Absorbs workflowRunId) :=
  Program.Moves.pure Absorbs.refl value

theorem moves_bind {Value Next : Type} {workflowRunId : Uuid} {first : WorkflowProgram Value}
    {next : Value → WorkflowProgram Next} (moves : first.Moves (Absorbs workflowRunId))
    (rest : ∀ value, (next value).Moves (Absorbs workflowRunId)) :
    (first >>= next).Moves (Absorbs workflowRunId) :=
  Program.Moves.bind Absorbs.trans moves rest

/-- The runs and the grants. -/
def World.custody (world : World) : Table WorkflowRun.id × Table TaskGrant.id :=
  (world.store.workflowRuns, world.store.taskGrants)

theorem absorbs_of_keeps {Value : Type} {program : WorkflowProgram Value}
    (keeps : program.Keeps World.custody) (workflowRunId : Uuid) :
    program.Moves (Absorbs workflowRunId) := by
  intro world
  obtain ⟨runs, grants⟩ := Prod.mk.inj (keeps world)
  refine .of_runs runs fun grant member _ => ?_
  rw [grants] at member
  exact member

theorem adoptWorkflowStepForLoop_keeps (stepId : Uuid) (job : SessionLoopJob)
    (workerId : String) :
    (AppState.adoptWorkflowStepForLoop stepId job workerId).Keeps World.custody := by
  intro world
  rw [AppState.run_adoptWorkflowStepForLoop]
  unfold World.onStore adoptWorkflowStepForLoop
  dsimp only
  split
  · rfl
  · split <;> rfl

theorem updateClaimedWorkflowStepRun_keeps (step : WorkflowStepRun) (workerId : String) :
    (AppState.updateClaimedWorkflowStepRun step workerId).Keeps World.custody := by
  intro world
  rw [AppState.run_updateClaimedWorkflowStepRun]
  unfold World.onStore updateClaimedWorkflowStepRun
  dsimp only
  split
  · rfl
  · split <;> rfl

theorem activateScheduledWorkflowStepRun_keeps (stepId : Uuid) (checkedAt : Timestamp) :
    (AppState.activateScheduledWorkflowStepRun stepId checkedAt).Keeps World.custody := by
  intro world
  rw [AppState.run_activateScheduledWorkflowStepRun]
  unfold World.onStore activateScheduledWorkflowStepRun
  dsimp only
  split
  · rfl
  · split <;> rfl

theorem updateTaskGrantStatus_absorbs {nextStatus : TaskGrantStatus}
    (closes : nextStatus ≠ .active) (grantId : Uuid) (workflowRunId : Uuid) :
    (AppState.updateTaskGrantStatus grantId nextStatus).Moves (Absorbs workflowRunId) := by
  intro world
  rw [AppState.run_updateTaskGrantStatus]
  unfold World.onStore updateTaskGrantStatus
  dsimp only
  rw [if_neg closes]
  split
  · exact .refl world
  · split
    · exact .refl world
    · split
      · exact .refl world
      · refine .of_runs rfl fun grant member active => ?_
        change grant ∈ world.store.taskGrants.modify grantId _ at member
        obtain ⟨old, oldMember, rfl⟩ := Table.mem_modify.mp member
        split at active
        · exact absurd active closes
        · rename_i other
          rw [if_neg other]
          exact oldMember

theorem finalizeWorkflowStepTaskGrant_absorbs (updated : WorkflowStepRun)
    (workflowRunId : Uuid) :
    (finalizeWorkflowStepTaskGrant updated).Moves (Absorbs workflowRunId) := by
  unfold finalizeWorkflowStepTaskGrant
  split
  · apply moves_bind ((LeavesSteps.getWorkflowRun _).absorbs _)
    intro run
    split
    · exact moves_pure ()
    · apply moves_bind ((LeavesSteps.getTaskGrant _).absorbs _)
      intro grant
      split
      · exact moves_pure ()
      · refine moves_bind (updateTaskGrantStatus_absorbs ?_ _ _) fun _ => moves_pure ()
        split <;> exact nofun
  · exact moves_pure ()

/-- A worker's session writes no status of a run by itself. -/
theorem updateWorkflowStepAfterWorkerSession_absorbs (run : WorkflowRun)
    (step : WorkflowStepRun) (report : WorkerReport) (workflowRunId : Uuid) :
    (updateWorkflowStepAfterWorkerSession run step report).Moves (Absorbs workflowRunId) := by
  have adopted : (adoptedStep step report).Moves (Absorbs workflowRunId) := by
    unfold adoptedStep
    split
    · exact absorbs_of_keeps (adoptWorkflowStepForLoop_keeps _ _ _) _
    · exact moves_pure step
  unfold updateWorkflowStepAfterWorkerSession
  apply moves_bind adopted
  intro step
  apply moves_bind
    (absorbs_of_keeps (updateClaimedWorkflowStepRun_keeps _ _) _)
  intro updated
  apply moves_bind (finalizeWorkflowStepTaskGrant_absorbs _ _)
  intro _
  split <;> exact moves_pure _

theorem updateWorkflowStepAfterWorkerSession_run? (run : WorkflowRun) (step : WorkflowStepRun)
    (report : WorkerReport) :
    (updateWorkflowStepAfterWorkerSession run step report).Returns fun phase =>
      ∀ other, phase.run? = some other → other = run := by
  unfold updateWorkflowStepAfterWorkerSession
  refine .bind fun step => .bind fun updated => .bind fun _ => ?_
  split
  · exact .pure fun _ found => (Option.some.inj found).symm
  · exact .pure nofun

/-- A scheduled step run is due. -/
def isDue (checkedAt : Timestamp) (step : WorkflowStepRun) : Bool :=
  step.scheduledAt.any fun scheduledAt => decide (scheduledAt ≤ checkedAt)

theorem activateDueSteps_keeps (checkedAt : Timestamp) (steps : List WorkflowStepRun) :
    (activateDueSteps checkedAt steps).Keeps World.custody := by
  induction steps with
  | nil => exact .pure []
  | cons step rest inductionHypothesis =>
      unfold activateDueSteps
      split
      · apply Program.Keeps.bind (activateScheduledWorkflowStepRun_keeps _ _)
        intro activated
        split
        · exact .bind inductionHypothesis fun _ => .pure _
        · exact inductionHypothesis
      · exact inductionHypothesis

theorem activateDueSteps_due (checkedAt : Timestamp) (steps : List WorkflowStepRun) :
    (activateDueSteps checkedAt steps).Returns fun activated =>
      activated ≠ [] → steps.any (isDue checkedAt) = true := by
  induction steps with
  | nil => exact .pure fun some => absurd rfl some
  | cons step rest inductionHypothesis =>
      unfold activateDueSteps
      rw [List.any_cons]
      split
      · rename_i due
        intro world activated _ _
        rw [isDue, due, Bool.true_or]
      · intro world activated returned some
        rw [inductionHypothesis world activated returned some, Bool.or_true]

/-- The status that the activation of due step runs is about to write. -/
def activationWrite (world : World) (run : WorkflowRun) (checkedAt : Timestamp)
    (visibleSessionIds : Option (List Uuid)) : Option (WorkflowRun × WorkflowStatus) :=
  if (world.stepRunsOf run.id).any fun step =>
      isVisibleScheduled run visibleSessionIds step && isDue checkedAt step then
    some (run, .running)
  else none

theorem activation_absorbs {world : World} {run : WorkflowRun} {checkedAt : Timestamp}
    {visibleSessionIds : Option (List Uuid)}
    (harmless : world.hasVerdict run.id = true →
      ∀ write ∈ activationWrite world run checkedAt visibleSessionIds,
        isHarmless world write = true) :
    (activateDueWorkflowStepsForRun run checkedAt visibleSessionIds).Ensures world
      fun _ after => Absorbs run.id world after := by
  have listed := (LeavesSteps.listWorkflowStepRuns run.id).absorbs run.id
  unfold activateDueWorkflowStepsForRun
  apply absorbs_bind (listed world)
  intro existingSteps start ran
  rw [AppState.run_listWorkflowStepRuns] at ran
  obtain ⟨same, rfl⟩ := Prod.mk.inj ran
  cases same
  apply absorbs_bind (absorbs_of_keeps (activateDueSteps_keeps _ _) _ _)
  intro activated between ran
  have counted : (AppState.listWorkflowStepRuns run.id >>= fun remaining =>
      (pure (activated, remaining.countP (isVisibleScheduled run visibleSessionIds)) :
        WorkflowProgram (List Uuid × Nat))).Moves (Absorbs run.id) :=
    moves_bind listed fun _ => moves_pure _
  have runs : between.store.workflowRuns = world.store.workflowRuns := by
    have kept := (activateDueSteps_keeps checkedAt
      (((world.stepRunsOf run.id).filter (isVisibleScheduled run visibleSessionIds)).mergeSort
        scheduledNoLater)).part Prod.fst world
    rw [ran] at kept
    exact kept
  split
  · rename_i some_activated
    apply absorbs_bind (record_absorbs run .running between ?_)
    · exact fun _ last _ => counted last
    · intro verdict
      rw [World.hasVerdict, World.runStatus, runs] at verdict
      rw [isHarmless, World.runStatus, runs]
      apply harmless verdict
      have due := activateDueSteps_due checkedAt _ world activated (by rw [ran])
        (by simpa using some_activated)
      obtain ⟨step, member, isDue⟩ := List.any_eq_true.mp due
      rw [List.mem_mergeSort, List.mem_filter] at member
      rw [activationWrite, if_pos]
      · rfl
      · rw [List.any_eq_true]
        exact ⟨step, member.1, by rw [member.2, isDue]; rfl⟩
  · exact counted between

/-! ### Every run -/

/-- The world, and the calls of the engine that are under way. -/
structure UpdateState where
  world : World
  calls : List Phase

inductive UpdateEvent where
  /-- `advance_workflow_graph_after_step_update` is called, with any value of the
  run and of a step run. -/
  | advance (run : WorkflowRun) (step : WorkflowStepRun)
  /-- A worker's session settles a step run and calls the engine. -/
  | workerSession (run : WorkflowRun) (step : WorkflowStepRun) (report : WorkerReport)
  /-- The step runs that are due are queued. -/
  | activateDue (run : WorkflowRun) (checkedAt : Timestamp)
      (visibleSessionIds : Option (List Uuid))
  /-- One of the calls takes its next turn. -/
  | turn (index : Nat)
  /-- The world changes in another way. -/
  | elsewhere (world : World)

namespace UpdateEvent

/-- What else happens leaves a verdict, and closes the grants with it. -/
def isLawful (workflowRunId : Uuid) (before after : World) : Bool :=
  (!before.hasVerdict workflowRunId ||
      decide (after.runStatus workflowRunId = before.runStatus workflowRunId)) &&
    decide (GrantsClosed workflowRunId after)

/-- An event that cannot happen changes nothing, and a call that fails is over. -/
def perform (context : EngineContext) (workflowRunId : Uuid) (event : UpdateEvent)
    (state : UpdateState) : UpdateState :=
  match event with
  | .advance run step =>
      if run.id = workflowRunId then { state with calls := state.calls ++ [.entering run step] }
      else state
  | .workerSession run step report =>
      if run.id = workflowRunId then
        match (updateWorkflowStepAfterWorkerSession run step report).run state.world with
        | (.ok call, world) => { world, calls := state.calls ++ [call] }
        | (.error _, world) => { state with world }
      else state
  | .activateDue run checkedAt visibleSessionIds =>
      if run.id = workflowRunId then
        { state with world :=
          ((activateDueWorkflowStepsForRun run checkedAt visibleSessionIds).run state.world).2 }
      else state
  | .turn index =>
      match state.calls[index]? with
      | none => state
      | some call =>
          match (call.advance context).run state.world with
          | (.ok next, world) => { world, calls := state.calls.set index next }
          | (.error _, world) => { world, calls := state.calls.eraseIdx index }
  | .elsewhere world =>
      if isLawful workflowRunId state.world world then { state with world } else state

/-- The status that an event is about to write. -/
def statusWrite (context : EngineContext) (state : UpdateState) :
    UpdateEvent → Option (WorkflowRun × WorkflowStatus)
  | .activateDue run checkedAt visibleSessionIds =>
      activationWrite state.world run checkedAt visibleSessionIds
  | .turn index => state.calls[index]?.bind (Phase.statusWrite context state.world)
  | _ => none

end UpdateEvent

/-- The event writes nothing new over a verdict. -/
def KeepsVerdict (context : EngineContext) (workflowRunId : Uuid) (event : UpdateEvent)
    (state : UpdateState) : Prop :=
  state.world.hasVerdict workflowRunId = true →
    ∀ write ∈ event.statusWrite context state, isHarmless state.world write = true

instance (context : EngineContext) (workflowRunId : Uuid) (event : UpdateEvent)
    (state : UpdateState) : Decidable (KeepsVerdict context workflowRunId event state) := by
  unfold KeepsVerdict
  infer_instance

/-- The calls of a machine are about one run. -/
def CallsOf (workflowRunId : Uuid) (calls : List Phase) : Prop :=
  ∀ call ∈ calls, ∀ run, call.run? = some run → run.id = workflowRunId

section updates

variable {context : EngineContext} {workflowRunId : Uuid} {state : UpdateState}

theorem CallsOf.append {calls : List Phase} {call : Phase} (old : CallsOf workflowRunId calls)
    (new : ∀ run, call.run? = some run → run.id = workflowRunId) :
    CallsOf workflowRunId (calls ++ [call]) := by
  intro other member
  rcases List.mem_append.mp member with member | member
  · exact old other member
  · rw [List.mem_singleton.mp member]
    exact new

/-- One event: it absorbs what is a verdict, and its calls are about the run. -/
theorem UpdateEvent.perform_absorbs (event : UpdateEvent)
    (calls : CallsOf workflowRunId state.calls)
    (keeps : KeepsVerdict context workflowRunId event state) :
    Absorbs workflowRunId state.world (event.perform context workflowRunId state).world ∧
      CallsOf workflowRunId (event.perform context workflowRunId state).calls := by
  cases event with
  | advance run step =>
      unfold UpdateEvent.perform
      dsimp only
      split
      · rename_i ofRun
        refine ⟨.refl _, calls.append ?_⟩
        rintro other found
        rw [← Option.some.inj found]
        exact ofRun
      · exact ⟨.refl _, calls⟩
  | workerSession run step report =>
      unfold UpdateEvent.perform
      dsimp only
      split
      · rename_i ofRun
        have absorbs := updateWorkflowStepAfterWorkerSession_absorbs run step report
          workflowRunId state.world
        have sameRun := updateWorkflowStepAfterWorkerSession_run? run step report state.world
        generalize (updateWorkflowStepAfterWorkerSession run step report).run state.world = ran
          at absorbs sameRun ⊢
        obtain ⟨outcome, after⟩ := ran
        cases outcome with
        | error error => exact ⟨absorbs, calls⟩
        | ok call =>
            refine ⟨absorbs, calls.append fun other found => ?_⟩
            rw [sameRun call rfl other found]
            exact ofRun
      · exact ⟨.refl _, calls⟩
  | activateDue run checkedAt visibleSessionIds =>
      unfold UpdateEvent.perform
      dsimp only
      split
      · rename_i ofRun
        subst ofRun
        exact ⟨activation_absorbs keeps, calls⟩
      · exact ⟨.refl _, calls⟩
  | turn index =>
      unfold UpdateEvent.perform
      dsimp only
      split
      · exact ⟨.refl _, calls⟩
      · rename_i call found
        have ofRun := calls call (List.mem_of_getElem? found)
        have absorbs : (call.advance context).Ensures state.world
            fun _ after => Absorbs workflowRunId state.world after := by
          apply advance_absorbs ofRun
          intro verdict write pending
          apply keeps verdict
          rw [UpdateEvent.statusWrite, found]
          exact pending
        have sameRun : (call.advance context).Returns fun next =>
            ∀ run, next.run? = some run → call.run? = some run := advance_run? call
        specialize sameRun state.world
        unfold Program.Ensures at absorbs
        generalize (call.advance context).run state.world = ran at absorbs sameRun ⊢
        obtain ⟨outcome, after⟩ := ran
        cases outcome with
        | error error =>
            exact ⟨absorbs, fun other member => calls other (List.mem_of_mem_eraseIdx member)⟩
        | ok next =>
            refine ⟨absorbs, fun other member => ?_⟩
            rcases List.mem_or_eq_of_mem_set member with member | rfl
            · exact calls other member
            · exact fun run isNext => ofRun run (sameRun other rfl run isNext)
  | elsewhere world =>
      unfold UpdateEvent.perform
      dsimp only
      split
      · rename_i lawful
        rw [UpdateEvent.isLawful, Bool.and_eq_true, Bool.or_eq_true, Bool.not_eq_true',
          decide_eq_true_eq, decide_eq_true_eq] at lawful
        refine ⟨⟨fun verdict => ?_, fun _ => lawful.2⟩, calls⟩
        exact lawful.1.resolve_left (by simp [verdict])
      · exact ⟨.refl _, calls⟩

end updates

/-! ### A run that fails while a step of it waits -/

def oneStep : Json := graphOf [("only", [])]

def startedOne : UpdateState := ⟨(plainStart oneStep).world, []⟩

abbrev performOne : UpdateEvent → UpdateState → UpdateState :=
  UpdateEvent.perform (plainContext oneStep) 1

/-- A step run is updated, and the call that follows takes its turns. -/
def updateAndRun (state : UpdateState) (step : WorkflowStepRun) (turns : Nat) :
    List UpdateEvent :=
  .elsewhere { state.world with store := { state.world.store with
      workflowStepRuns := state.world.store.workflowStepRuns.insert step } } ::
    .advance plainRun step :: List.replicate turns (.turn state.calls.length)

/-- The step run of the graph with another status. -/
def onlyStep (status : WorkflowStatus) : Option WorkflowStepRun :=
  (startedOne.world.store.workflowStepRuns.find? 5).map fun step => { step with status }

/-- A step run that was added to the run through the interface fails. -/
def noteFails : List UpdateEvent :=
  (onlyStep .failed).toList.flatMap fun step =>
    updateAndRun startedOne { step with id := 50, stepKey := "note" } 1

/-- Then the step run of the graph reports. -/
def onlyReports (status : WorkflowStatus) (turns : Nat) : List UpdateEvent :=
  (onlyStep status).toList.flatMap fun step =>
    updateAndRun (runEvents performOne noteFails startedOne) step turns

end MandoForge
