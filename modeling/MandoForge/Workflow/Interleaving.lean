/-
Module: MandoForge.Workflow.Interleaving
Purpose: Calls of the engine that run at the same time, one store operation at a
  time.  As long as no key gets a step run between the listing and the creation
  that it leads to, a key that did not fail has one step run, and no key has more
  than its attempts.
Trusted boundary: identifiers are new when they are issued; what happens beside
  the calls leaves the step runs of the run and takes no identifier issued before.
Main exports: InterleavedEvent, no_duplicated_step_execution
-/
import MandoForge.Workflow.CallView

namespace MandoForge

open Foundation

/-! ### The machine -/

/-- A call under way: the program that is left of it, and what it has been told. -/
structure EngineCall where
  program : WorkflowProgram Phase
  view : CallView

structure InterleavedState where
  world : World
  calls : List EngineCall

inductive InterleavedEvent where
  /-- A step run that is not terminal gets a status and an output, and the engine
  is called with it. -/
  | report (run : WorkflowRun) (stepId : Uuid) (status : WorkflowStatus) (outputPayload : Json)
  /-- `resume_recorded_workflow_completion`: the engine is called again with a step
  run that completed. -/
  | resume (run : WorkflowRun) (stepId : Uuid)
  /-- One of the calls performs its next store operation, or goes on to its next
  control state. -/
  | operate (index : Nat)
  /-- The world changes outside this run. -/
  | elsewhere (world : World)

/-- The call of the engine with a step run. -/
def EngineCall.enter (context : EngineContext) (run : WorkflowRun) (step : WorkflowStepRun) :
    EngineCall where
  program := enterAdvance context run step
  view := .start

/-- The next operation of a call; an error has ended it. -/
def EngineCall.operate (context : EngineContext) (call : EngineCall) (world : World) :
    EngineCall × World :=
  match call.program with
  | .done phase => (⟨phase.advance context, call.view⟩, world)
  | .failed _ => (call, world)
  | .call operation next =>
      let (answer, after) := WorkflowStore.perform operation world
      (⟨next answer, CallView.observe operation answer call.view⟩, after)

namespace InterleavedEvent

/-- The step runs of the run stay, and new step runs have new identifiers. -/
def leavesRun (workflowRunId : Uuid) (before after : World) : Bool :=
  decide (after.stepRunsOf workflowRunId = before.stepRunsOf workflowRunId) &&
    decide (before.issuedUuid ≤ after.issuedUuid) &&
    after.store.workflowStepRuns.rows.all fun row =>
      (before.store.workflowStepRuns.find? row.id).isSome || decide (before.issuedUuid < row.id)

/-- An event that cannot happen changes nothing. -/
def perform (context : EngineContext) (workflowRunId : Uuid) (event : InterleavedEvent)
    (state : InterleavedState) : InterleavedState :=
  match event with
  | .report run stepId status outputPayload =>
      match state.world.store.workflowStepRuns.find? stepId with
      | some step =>
          if EngineEvent.reports workflowRunId run step status then
            { world := EngineEvent.reportIn state.world stepId status outputPayload
              calls := state.calls ++ [.enter context run { step with status, outputPayload }] }
          else state
      | none => state
  | .resume run stepId =>
      match state.world.store.workflowStepRuns.find? stepId with
      | some step =>
          if run.id = workflowRunId ∧ step.workflowRunId = workflowRunId ∧
              step.status = .completed then
            { state with calls := state.calls ++ [.enter context run step] }
          else state
      | none => state
  | .operate index =>
      match state.calls[index]? with
      | some call =>
          let (call, world) := call.operate context state.world
          { world, calls := state.calls.set index call }
      | none => state
  | .elsewhere world =>
      if leavesRun workflowRunId state.world world then { state with world } else state

end InterleavedEvent

/-! ### The condition and the property -/

/-- The step run that a call is about to create. -/
def EngineCall.creates (call : EngineCall) : Option WorkflowStepRun :=
  match call.program with
  | .call operation _ => WorkflowOperation.created operation
  | _ => none

/-- A call that creates a step run has listed all step runs of its key. -/
def CreatesInSight (workflowRunId : Uuid) (event : InterleavedEvent)
    (state : InterleavedState) : Prop :=
  match event with
  | .operate index => ∀ call ∈ state.calls[index]?, ∀ step ∈ call.creates,
      workflowGraphStepAttemptCount (state.world.stepRunsOf workflowRunId) step.stepKey =
        workflowGraphStepAttemptCount call.view.seen step.stepKey
  | _ => True

/-- A graph key that has not failed has at most one step run, and no key has more
than its attempts. -/
def ExecutedOnce (stepGraph : Json) (rows : List WorkflowStepRun) : Prop :=
  ∀ graphStep ∈ workflowGraphSteps stepGraph, ∀ key ∈ (workflowGraphStepKey graphStep).toOption,
    (failedAttempts rows key = 0 → workflowGraphStepAttemptCount rows key ≤ 1) ∧
      ∀ policy ∈ (workflowGraphStepRetryPolicy graphStep).toOption,
        workflowGraphStepAttemptCount rows key ≤ policy.maxAttempts

instance (workflowRunId : Uuid) (event : InterleavedEvent) (state : InterleavedState) :
    Decidable (CreatesInSight workflowRunId event state) := by
  unfold CreatesInSight
  cases event <;> infer_instance

instance (stepGraph : Json) (rows : List WorkflowStepRun) :
    Decidable (ExecutedOnce stepGraph rows) := by
  unfold ExecutedOnce
  infer_instance

/-! ### What an operation does to the step runs -/

/-- An operation that writes no existing step run adds the one it creates, or
leaves the step runs. -/
inductive OperationEffect (operation : WorkflowStore.Operation) (before after : World) : Prop
  | left (stepRuns : after.store.workflowStepRuns = before.store.workflowStepRuns)
  | added {step new : WorkflowStepRun}
      (created : WorkflowOperation.created operation = some step) (id : new.id = step.id)
      (stepKey : new.stepKey = step.stepKey)
      (rows : after.store.workflowStepRuns.rows = before.store.workflowStepRuns.rows ++ [new])

theorem operation_effect {operation : WorkflowStore.Operation} {world : World}
    (writes : WorkflowOperation.writesStep operation = false)
    (fresh : ∀ step, WorkflowOperation.created operation = some step →
      world.store.workflowStepRuns.find? step.id = none) :
    OperationEffect operation world (WorkflowStore.perform operation world).2 := by
  cases operation with
  | newUuid | readClock | listWorkflowStepRuns _ | getWorkflowRun _ | getTaskGrant _
  | getSession _ | getAgent _ | getEnvironment _ | listAgentVersions _ | createSession _
  | setSessionStatus _ _ | listTaskGrantsForWorkflowRun _ => exact .left rfl
  | adoptWorkflowStepForLoop _ _ _ | updateClaimedWorkflowStepRun _ _
  | activateScheduledWorkflowStepRun _ _ => cases writes
  | updateWorkflowRunStatus workflowRunId status =>
      have kept := updateWorkflowRunStatus_keepsStepRuns workflowRunId status world
      rw [AppState.run_updateWorkflowRunStatus] at kept
      exact .left kept
  | updateTaskGrantStatus grantId status =>
      have kept := (updateTaskGrantStatus_keepsRecords grantId status).part Prod.fst world
      rw [AppState.run_updateTaskGrantStatus] at kept
      exact .left kept
  | createWorkflowStepRun step =>
      have adds := createWorkflowStepRun_adds (fresh step rfl)
      unfold Program.Ensures at adds
      rw [AppState.run_createWorkflowStepRun] at adds
      change OperationEffect _ world (world.onStore (createWorkflowStepRun step)).2
      generalize world.onStore (createWorkflowStepRun step) = ran at adds ⊢
      obtain ⟨outcome, after⟩ := ran
      cases outcome with
      | error error => exact .left adds.stepRuns
      | ok created =>
          obtain ⟨rfl, added⟩ := adds
          exact .added rfl rfl rfl added.stepRuns
  | createWorkflowStepRunWithTaskGrant step grant =>
      have adds := createWorkflowStepRunWithTaskGrant_adds step grant world
      change OperationEffect _ world
        (world.onStore (createWorkflowStepRunWithTaskGrant world.clock step grant)).2
      generalize world.onStore (createWorkflowStepRunWithTaskGrant world.clock step grant) = ran
        at adds ⊢
      obtain ⟨outcome, after⟩ := ran
      cases outcome with
      | error error => exact .left adds.stepRuns
      | ok created =>
          obtain ⟨same, added⟩ := adds
          rw [same] at added
          refine .added rfl ?_ ?_ added.stepRuns <;> rfl

theorem operation_issued (operation : WorkflowStore.Operation) (world : World) :
    world.issuedUuid ≤ (WorkflowStore.perform operation world).2.issuedUuid := by
  cases operation with
  | newUuid =>
      refine Nat.le_of_lt (World.lt_freshUuid ?_)
      exact List.mem_cons_self
  | _ => exact Nat.le_refl _

/-! ### What holds in every state -/

/-- A key that has not failed has at most one step run. -/
def OneUnlessFailed (plan : Plan) (rows : List WorkflowStepRun) : Prop :=
  ∀ planStep ∈ plan.steps, failedAttempts rows planStep.key = 0 →
    workflowGraphStepAttemptCount rows planStep.key ≤ 1

/-- What a call has seen leads its program on, and the key of its step run failed
when the program goes by that. -/
def EngineCall.IsCoherent (plan : Plan) (rows : List WorkflowStepRun) (call : EngineCall) :
    Prop :=
  ∃ failedKey : Option String, (∀ key ∈ failedKey, failedAttempts rows key ≠ 0) ∧
    LeadsOn plan failedKey call.view call.program

/-- No step run has an identifier that a call has and did not use. -/
def EngineCall.OwnsUnused (world : World) (call : EngineCall) : Prop :=
  ∀ id ∈ call.view.issued,
    id ≤ world.issuedUuid ∧ world.store.workflowStepRuns.find? id = none

structure CallsCoherent (plan : Plan) (workflowRunId : Uuid) (state : InterleavedState) :
    Prop where
  bounded : AttemptsBounded plan (state.world.stepRunsOf workflowRunId)
  once : OneUnlessFailed plan (state.world.stepRunsOf workflowRunId)
  programs : ∀ call ∈ state.calls, call.IsCoherent plan (state.world.stepRunsOf workflowRunId)
  unused : ∀ call ∈ state.calls, call.OwnsUnused state.world
  distinct : ∀ (first second : Nat) (firstCall secondCall : EngineCall), first ≠ second →
    state.calls[first]? = some firstCall → state.calls[second]? = some secondCall →
    ∀ id ∈ firstCall.view.issued, id ∉ secondCall.view.issued

section invariant

variable {context : EngineContext} {plan : Plan} {workflowRunId : Uuid}
  {rows : List WorkflowStepRun} {world after : World} {state : InterleavedState}

theorem failedAttempts_append (new : WorkflowStepRun) (key : String) :
    failedAttempts rows key ≤ failedAttempts (rows ++ [new]) key := by
  unfold failedAttempts
  rw [List.countP_append]
  exact Nat.le_add_right _ _

/-- A failed step run has ended, so a report leaves it. -/
theorem failedAttempts_report {step : WorkflowStepRun} {status : WorkflowStatus}
    {outputPayload : Json} {key : String} (distinct : (rows.map WorkflowStepRun.id).Nodup)
    (member : step ∈ rows) (isOpen : workflowStepStatusTerminal step.status = false)
    (failed : failedAttempts rows key ≠ 0) :
    failedAttempts (rows.map (reportStatus step.id status outputPayload)) key ≠ 0 := by
  unfold failedAttempts at failed ⊢
  rw [Ne, List.countP_eq_zero] at failed ⊢
  intro none_failed
  apply failed
  intro row rowMember isFailed
  have terminal : workflowStepStatusTerminal row.status = true := by
    rw [Bool.and_eq_true, decide_eq_true_eq, decide_eq_true_eq] at isFailed
    rw [isFailed.2]
    rfl
  exact none_failed row
    (mem_reportStatus_of_terminal rowMember terminal member isOpen distinct) isFailed

theorem EngineCall.IsCoherent.mono {call : EngineCall} {later : List WorkflowStepRun}
    (coherent : call.IsCoherent plan rows)
    (failedStays : ∀ key, failedAttempts rows key ≠ 0 → failedAttempts later key ≠ 0) :
    call.IsCoherent plan later := by
  obtain ⟨failedKey, failed, leads⟩ := coherent
  exact ⟨failedKey, fun key isKey => failedStays key (failed key isKey), leads⟩

theorem OneUnlessFailed.append {planStep : PlanStep} {new : WorkflowStepRun}
    (once : OneUnlessFailed plan rows) (member : planStep ∈ plan.steps)
    (key : planStep.key = new.stepKey)
    (admitted : workflowGraphStepAttemptCount rows planStep.key = 0 ∨
      failedAttempts rows planStep.key ≠ 0) : OneUnlessFailed plan (rows ++ [new]) := by
  intro other otherIn noFailure
  have before : failedAttempts rows other.key = 0 :=
    Nat.le_zero.mp (noFailure ▸ failedAttempts_append new other.key)
  rw [attemptCount_append]
  split
  · rename_i same
    cases plan.eq_of_key otherIn member (same.symm.trans key.symm)
    rw [admitted.resolve_right (fun failed => failed before)]
  · exact once other otherIn before

/-- The step runs after the creation that a call has in sight. -/
theorem creation_keeps {failedKey : Option String} {view : CallView} {step new : WorkflowStepRun}
    (bounded : AttemptsBounded plan rows) (once : OneUnlessFailed plan rows)
    (failed : ∀ key ∈ failedKey, failedAttempts rows key ≠ 0)
    (admitted : ∃ planStep ∈ plan.steps, planStep.key = step.stepKey ∧
      Admits failedKey view.seen planStep)
    (inSight : workflowGraphStepAttemptCount rows step.stepKey =
      workflowGraphStepAttemptCount view.seen step.stepKey) (sameKey : new.stepKey = step.stepKey) :
    AttemptsBounded plan (rows ++ [new]) ∧ OneUnlessFailed plan (rows ++ [new]) := by
  obtain ⟨planStep, member, key, admits⟩ := admitted
  rw [← key] at inSight
  have newKey : planStep.key = new.stepKey := key.trans sameKey.symm
  unfold Admits at admits
  rw [← inSight] at admits
  rcases admits with none_yet | ⟨isFailed, remaining⟩
  · refine ⟨bounded.append member newKey.symm ?_, once.append member newKey (.inl none_yet)⟩
    rw [none_yet]
    exact planStep.maxAttempts_pos
  · exact ⟨bounded.append member newKey.symm remaining,
      once.append member newKey (.inr (failed _ isFailed))⟩

/-- Where the identifiers come from that a call has after an operation. -/
theorem observe_issued {operation : WorkflowStore.Operation} {view : CallView} {id : Uuid}
    (member : id ∈ (CallView.observe operation (WorkflowStore.perform operation world).1
      view).issued) :
    (id ∈ view.issued ∧ ∀ step, WorkflowOperation.created operation = some step →
        id ≠ step.id) ∨
      id = world.freshUuid ∧
        (WorkflowStore.perform operation world).2 = { world with issuedUuid := id } := by
  cases operation with
  | newUuid =>
      rcases List.mem_cons.mp member with rfl | member
      · exact .inr ⟨rfl, rfl⟩
      · exact .inl ⟨member, fun step created => nomatch created⟩
  | createWorkflowStepRun step | createWorkflowStepRunWithTaskGrant step _ =>
      obtain ⟨member, other⟩ := List.mem_filter.mp member
      rw [decide_eq_true_eq] at other
      refine .inl ⟨member, fun created same => ?_⟩
      cases Option.some.inj same
      exact other
  | _ => exact .inl ⟨member, fun step created => nomatch created⟩

/-- One call goes on, and with it the world. -/
theorem CallsCoherent.set (coherent : CallsCoherent plan workflowRunId state) {index : Nat}
    {old new : EngineCall} (found : state.calls[index]? = some old)
    (bounded : AttemptsBounded plan (after.stepRunsOf workflowRunId))
    (once : OneUnlessFailed plan (after.stepRunsOf workflowRunId))
    (failedStays : ∀ key, failedAttempts (state.world.stepRunsOf workflowRunId) key ≠ 0 →
      failedAttempts (after.stepRunsOf workflowRunId) key ≠ 0)
    (newCoherent : new.IsCoherent plan (after.stepRunsOf workflowRunId))
    (newUnused : new.OwnsUnused after)
    (othersUnused : ∀ other otherCall, other ≠ index → state.calls[other]? = some otherCall →
      otherCall.OwnsUnused after)
    (issued : ∀ id ∈ new.view.issued, id ∈ old.view.issued ∨
      ∀ otherCall ∈ state.calls, id ∉ otherCall.view.issued) :
    CallsCoherent plan workflowRunId ⟨after, state.calls.set index new⟩ where
  bounded := bounded
  once := once
  programs call member := by
    rcases List.mem_or_eq_of_mem_set member with member | rfl
    · exact (coherent.programs call member).mono failedStays
    · exact newCoherent
  unused call member := by
    obtain ⟨other, inRange, rfl⟩ := List.mem_iff_getElem.mp member
    rw [List.getElem_set]
    split
    · exact newUnused
    · rename_i different
      rw [List.length_set] at inRange
      exact othersUnused other _ (Ne.symm different) (List.getElem?_eq_getElem inRange)
  distinct first second firstCall secondCall different firstFound secondFound id owned := by
    change (state.calls.set index new)[first]? = some firstCall at firstFound
    change (state.calls.set index new)[second]? = some secondCall at secondFound
    rw [List.getElem?_set] at firstFound secondFound
    split at firstFound
    · rename_i same
      subst same
      rw [if_neg different] at secondFound
      split at firstFound
      · cases firstFound
        rcases issued id owned with inOld | elsewhere
        · exact coherent.distinct _ _ _ _ different found secondFound id inOld
        · exact elsewhere _ (List.mem_of_getElem? secondFound)
      · cases firstFound
    · split at secondFound
      · rename_i other same
        subst same
        split at secondFound
        · cases secondFound
          intro inNew
          rcases issued id inNew with inOld | elsewhere
          · exact coherent.distinct _ _ _ _ different firstFound found id owned inOld
          · exact elsewhere _ (List.mem_of_getElem? firstFound) owned
        · cases secondFound
      · exact coherent.distinct _ _ _ _ different firstFound secondFound id owned

theorem stepRunsOf_left (stepRuns : after.store.workflowStepRuns = world.store.workflowStepRuns) :
    after.stepRunsOf workflowRunId = world.stepRunsOf workflowRunId := by
  rw [World.stepRunsOf, stepRuns, World.stepRunsOf]

theorem find?_added {new : WorkflowStepRun} {id : Uuid} (other : id ≠ new.id)
    (rows : after.store.workflowStepRuns.rows = world.store.workflowStepRuns.rows ++ [new])
    (unused : world.store.workflowStepRuns.find? id = none) :
    after.store.workflowStepRuns.find? id = none := by
  rw [Table.find?_eq_none] at unused ⊢
  intro row member
  rw [Table.mem_iff, rows] at member
  rcases List.mem_append.mp member with old | isNew
  · exact unused row old
  · rw [List.mem_singleton.mp isNew]
    exact Ne.symm other

/-- The next operation of a call that creates in sight. -/
theorem CallsCoherent.operate (graph : context.definition.stepGraph = plan.stepGraph)
    (coherent : CallsCoherent plan workflowRunId state) {index : Nat} {call : EngineCall}
    (found : state.calls[index]? = some call)
    (inSight : ∀ step ∈ call.creates,
      workflowGraphStepAttemptCount (state.world.stepRunsOf workflowRunId) step.stepKey =
        workflowGraphStepAttemptCount call.view.seen step.stepKey) :
    CallsCoherent plan workflowRunId ⟨(call.operate context state.world).2,
      state.calls.set index (call.operate context state.world).1⟩ := by
  have member := List.mem_of_getElem? found
  obtain ⟨failedKey, failed, leads⟩ := coherent.programs call member
  have unused := coherent.unused call member
  have othersUnused : ∀ other otherCall, other ≠ index →
      state.calls[other]? = some otherCall → otherCall.OwnsUnused state.world :=
    fun _ _ _ otherFound => coherent.unused _ (List.mem_of_getElem? otherFound)
  obtain ⟨program, view⟩ := call
  cases program with
  | done phase =>
      exact coherent.set found coherent.bounded coherent.once (fun _ stays => stays)
        ⟨failedKey, failed, advance_leadsOn graph leads⟩ unused othersUnused
        fun id owned => .inl owned
  | failed error =>
      exact coherent.set found coherent.bounded coherent.once (fun _ stays => stays)
        ⟨failedKey, failed, leads⟩ unused othersUnused fun id owned => .inl owned
  | call operation next =>
      obtain ⟨⟨writes, creates⟩, leads⟩ := leads
      have fresh : ∀ step, WorkflowOperation.created operation = some step →
          state.world.store.workflowStepRuns.find? step.id = none :=
        fun step created => (unused step.id (creates step created).1).2
      have effect := operation_effect writes fresh
      have later := operation_issued operation state.world
      have issuedOf := fun id => @observe_issued state.world operation view id
      change CallsCoherent plan workflowRunId ⟨(WorkflowStore.perform operation state.world).2,
        state.calls.set index ⟨next (WorkflowStore.perform operation state.world).1,
          CallView.observe operation (WorkflowStore.perform operation state.world).1 view⟩⟩
      have newLeads := leads (WorkflowStore.perform operation state.world).1
      -- A new identifier is later than all that were issued.
      have issued : ∀ id ∈ (CallView.observe operation
          (WorkflowStore.perform operation state.world).1 view).issued, id ∈ view.issued ∨
          ∀ otherCall ∈ state.calls, id ∉ otherCall.view.issued := by
        intro id owned
        rcases issuedOf id owned with ⟨inOld, -⟩ | ⟨rfl, -⟩
        · exact .inl inOld
        · refine .inr fun otherCall otherMember inOther => ?_
          have old := (coherent.unused otherCall otherMember _ inOther).1
          exact absurd old (Nat.not_le_of_lt (World.lt_freshUuid List.mem_cons_self))
      generalize WorkflowStore.perform operation state.world = performed
        at effect later issuedOf newLeads issued ⊢
      obtain ⟨answer, after⟩ := performed
      cases effect with
      | left stepRuns =>
          have sameRows : after.stepRunsOf workflowRunId =
              state.world.stepRunsOf workflowRunId := stepRunsOf_left stepRuns
          refine coherent.set found ?_ ?_ ?_ ⟨failedKey, ?_, newLeads⟩ ?_ ?_ issued
          · rw [sameRows]
            exact coherent.bounded
          · rw [sameRows]
            exact coherent.once
          · rw [sameRows]
            exact fun _ stays => stays
          · rw [sameRows]
            exact failed
          · intro id owned
            change id ≤ after.issuedUuid ∧ after.store.workflowStepRuns.find? id = none
            rw [stepRuns]
            rcases issuedOf id owned with ⟨inOld, -⟩ | ⟨isFresh, same⟩
            · exact ⟨(unused id inOld).1.trans later, (unused id inOld).2⟩
            · refine ⟨?_, isFresh ▸ World.find?_freshUuid state.world⟩
              rw [show after = _ from same]
          · intro other otherCall different otherFound id owned
            have old := othersUnused other otherCall different otherFound id owned
            refine ⟨old.1.trans later, ?_⟩
            rw [show after.store.workflowStepRuns = _ from stepRuns]
            exact old.2
      | added created sameId sameKey rows =>
          rename_i step new
          obtain ⟨own, admitted⟩ := creates step created
          have grown : after.stepRunsOf workflowRunId = state.world.stepRunsOf workflowRunId ++
              if new.workflowRunId = workflowRunId then [new] else [] := by
            rw [World.stepRunsOf, show after.store.workflowStepRuns.rows = _ from rows,
              List.filter_append, World.stepRunsOf]
            by_cases ofRun : new.workflowRunId = workflowRunId <;> simp [ofRun]
          have kept : AttemptsBounded plan (after.stepRunsOf workflowRunId) ∧
              OneUnlessFailed plan (after.stepRunsOf workflowRunId) := by
            rw [grown]
            split
            · exact creation_keeps coherent.bounded coherent.once failed admitted
                (inSight step created) sameKey
            · rw [List.append_nil]
              exact ⟨coherent.bounded, coherent.once⟩
          have failedStays : ∀ key,
              failedAttempts (state.world.stepRunsOf workflowRunId) key ≠ 0 →
                failedAttempts (after.stepRunsOf workflowRunId) key ≠ 0 := by
            intro key isFailed
            rw [grown]
            split
            · exact fun none_failed =>
                isFailed (Nat.le_zero.mp (none_failed ▸ failedAttempts_append new key))
            · rwa [List.append_nil]
          refine coherent.set found kept.1 kept.2 failedStays
            ⟨failedKey, fun key isKey => failedStays key (failed key isKey), newLeads⟩ ?_ ?_ issued
          · intro id owned
            rcases issuedOf id owned with ⟨inOld, other⟩ | ⟨-, same⟩
            · have old := unused id inOld
              refine ⟨old.1.trans later, find?_added ?_ rows old.2⟩
              rw [sameId]
              exact other step created
            · rw [show after = _ from same] at rows
              exact absurd rows (by simp)
          · intro other otherCall different otherFound id owned
            have old := othersUnused other otherCall different otherFound id owned
            refine ⟨old.1.trans later, find?_added ?_ rows old.2⟩
            rw [sameId]
            rintro rfl
            exact coherent.distinct other index otherCall _ different otherFound found _ owned own

/-- A call of the engine is added, and the step runs change as a report changes
them. -/
theorem CallsCoherent.append (coherent : CallsCoherent plan workflowRunId state)
    {run : WorkflowRun} {step : WorkflowStepRun}
    (graph : context.definition.stepGraph = plan.stepGraph)
    (count : ∀ key, workflowGraphStepAttemptCount (after.stepRunsOf workflowRunId) key =
      workflowGraphStepAttemptCount (state.world.stepRunsOf workflowRunId) key)
    (failedStays : ∀ key, failedAttempts (state.world.stepRunsOf workflowRunId) key ≠ 0 →
      failedAttempts (after.stepRunsOf workflowRunId) key ≠ 0)
    (failed : step.status = .failed →
      failedAttempts (after.stepRunsOf workflowRunId) step.stepKey ≠ 0)
    (unused : ∀ call ∈ state.calls, call.OwnsUnused after) :
    CallsCoherent plan workflowRunId ⟨after, state.calls ++ [.enter context run step]⟩ where
  bounded planStep member := by
    rw [count]
    exact coherent.bounded planStep member
  once planStep member noFailure := by
    rw [count]
    apply coherent.once planStep member
    by_contra isFailed
    exact failedStays _ isFailed noFailure
  programs call member := by
    rcases List.mem_append.mp member with member | member
    · exact (coherent.programs call member).mono failedStays
    · rw [List.mem_singleton.mp member]
      refine ⟨(Phase.entering run step).failedKey, fun key isKey => ?_,
        enterAdvance_leadsOn graph run step⟩
      rw [Phase.failedKey] at isKey
      split at isKey
      · rename_i isFailed
        rw [← Option.some.inj isKey]
        exact failed isFailed
      · cases isKey
  unused call member := by
    rcases List.mem_append.mp member with member | member
    · exact unused call member
    · rw [List.mem_singleton.mp member]
      exact fun id owned => absurd owned List.not_mem_nil
  distinct first second firstCall secondCall different firstFound secondFound id owned := by
    -- The new call has no identifiers.
    have known {index : Nat} {call : EngineCall} {id : Uuid}
        (found : (state.calls ++ [EngineCall.enter context run step])[index]? = some call)
        (owned : id ∈ call.view.issued) : state.calls[index]? = some call := by
      rcases Nat.lt_or_ge index state.calls.length with inside | outside
      · rwa [List.getElem?_append_left inside] at found
      · rw [List.getElem?_append_right outside] at found
        have isNew := List.mem_of_getElem? found
        rw [List.mem_singleton.mp isNew] at owned
        exact absurd owned List.not_mem_nil
    intro inSecond
    exact coherent.distinct first second firstCall secondCall different (known firstFound owned)
      (known secondFound inSecond) id owned inSecond

theorem CallsCoherent.perform (graph : context.definition.stepGraph = plan.stepGraph)
    (event : InterleavedEvent) (coherent : CallsCoherent plan workflowRunId state)
    (inSight : CreatesInSight workflowRunId event state) :
    CallsCoherent plan workflowRunId (event.perform context workflowRunId state) := by
  cases event with
  | report run stepId status outputPayload =>
      simp only [InterleavedEvent.perform]
      split
      · rename_i step found
        obtain ⟨stored, rfl⟩ := Table.find?_eq_some.mp found
        split
        · rename_i accepted
          simp only [EngineEvent.reports, Bool.and_eq_true, decide_eq_true_eq,
            Bool.not_eq_true'] at accepted
          obtain ⟨⟨⟨-, stepOfRun⟩, isOpen⟩, -⟩ := accepted
          have member : step ∈ state.world.stepRunsOf workflowRunId :=
            List.mem_filter.mpr ⟨stored, by simpa using stepOfRun⟩
          have distinct : ((state.world.stepRunsOf workflowRunId).map
              WorkflowStepRun.id).Nodup :=
            (List.filter_sublist.map WorkflowStepRun.id).nodup
              state.world.store.workflowStepRuns.nodupKeys
          refine coherent.append graph ?_ ?_ ?_ ?_
          · intro key
            rw [stepRunsOf_reportIn]
            exact attemptCount_reportStatus key
          · intro key isFailed
            rw [stepRunsOf_reportIn]
            exact failedAttempts_report distinct member isOpen isFailed
          · intro isFailed
            rw [stepRunsOf_reportIn, failedAttempts, Ne, List.countP_eq_zero]
            intro none_failed
            apply none_failed { step with status, outputPayload }
            · exact (mem_reportStatus distinct member).mpr (.inl rfl)
            · simpa using isFailed
          · intro call callMember id owned
            obtain ⟨early, unused⟩ := coherent.unused call callMember id owned
            refine ⟨early, ?_⟩
            rw [Table.find?_eq_none] at unused ⊢
            intro row rowMember
            unfold EngineEvent.reportIn at rowMember
            rw [Table.mem_modify] at rowMember
            obtain ⟨old, oldMember, rfl⟩ := rowMember
            split <;> exact unused old oldMember
        · exact coherent
      · exact coherent
  | resume run stepId =>
      simp only [InterleavedEvent.perform]
      split
      · split
        · rename_i step _ accepted
          refine coherent.append graph (fun _ => rfl) (fun _ stays => stays) ?_ coherent.unused
          intro isFailed
          cases isFailed.symm.trans accepted.2.2
        · exact coherent
      · exact coherent
  | operate index =>
      simp only [InterleavedEvent.perform]
      split
      · rename_i call found
        exact coherent.operate graph found (inSight call found)
      · exact coherent
  | elsewhere world =>
      simp only [InterleavedEvent.perform]
      split
      · rename_i leaves
        simp only [InterleavedEvent.leavesRun, Bool.and_eq_true, decide_eq_true_eq,
          List.all_eq_true, Bool.or_eq_true] at leaves
        obtain ⟨⟨sameRows, issued⟩, newRows⟩ := leaves
        refine ⟨?_, ?_, ?_, ?_, coherent.distinct⟩
        · rw [sameRows]
          exact coherent.bounded
        · rw [sameRows]
          exact coherent.once
        · rw [sameRows]
          exact coherent.programs
        · intro call member id owned
          obtain ⟨early, unused⟩ := coherent.unused call member id owned
          refine ⟨early.trans issued, ?_⟩
          rw [Table.find?_eq_none]
          rintro row rowMember rfl
          rcases newRows row rowMember with old | later
          · rw [unused] at old
            cases old
          · exact absurd early (Nat.not_le_of_lt later)
      · exact coherent

end invariant

/-! ### Every interleaving -/

section runs

variable {context : EngineContext} {plan : Plan} {workflowRunId : Uuid} {started : EngineState}

theorem StartedAs.callsCoherent (graph : context.definition.stepGraph = plan.stepGraph)
    (start : StartedAs context workflowRunId started) :
    CallsCoherent plan workflowRunId ⟨started.world, []⟩ where
  bounded := start.attemptsBounded graph
  once planStep _ _ := start.attempts_le_one graph planStep.key
  programs _ member := absurd member List.not_mem_nil
  unused _ member := absurd member List.not_mem_nil
  distinct _ _ _ _ _ found := nomatch found

theorem CallsCoherent.executedOnce {state : InterleavedState}
    (coherent : CallsCoherent plan workflowRunId state) :
    ExecutedOnce plan.stepGraph (state.world.stepRunsOf workflowRunId) := by
  intro graphStep inGraph key isKey
  obtain ⟨planStep, member, rfl⟩ := plan.exists_step inGraph
  rw [planStep.key_read] at isKey
  cases Option.some.inj isKey
  refine ⟨coherent.once planStep member, fun policy isPolicy => ?_⟩
  rw [planStep.retryPolicy_read] at isPolicy
  cases Option.some.inj isPolicy
  exact coherent.bounded planStep member

/-- However the store operations of any number of calls are interleaved: as long
as every creation has in sight the step runs of its key, a key that has not
failed has at most one step run and no key more than its attempts. -/
theorem no_duplicated_step_execution {events : List InterleavedEvent}
    (accepted : validateWorkflowGraphDefinition context.host context.definition.stepGraph =
      .ok ()) (start : StartedAs context workflowRunId started)
    (along : MetAlong (InterleavedEvent.perform context workflowRunId)
      (CreatesInSight workflowRunId) events ⟨started.world, []⟩) :
    HeldAlong (InterleavedEvent.perform context workflowRunId)
      (fun state => ExecutedOnce context.definition.stepGraph
        (state.world.stepRunsOf workflowRunId)) events ⟨started.world, []⟩ := by
  obtain ⟨plan, same⟩ := exists_plan_of_accepted accepted
  rw [← same]
  have coherent : HeldAlong (InterleavedEvent.perform context workflowRunId)
      (CallsCoherent plan workflowRunId) events ⟨started.world, []⟩ := by
    refine heldAlong_of_step ?_ (start.callsCoherent same.symm) along
    exact fun event state inSight coherent => coherent.perform same.symm event inSight
  exact coherent.mono fun state coherent => coherent.executedOnce

end runs

/-! ### Two siblings that complete at the same time -/

def joinedPair : Json :=
  graphOf [("left", [("start", .bool true)]), ("right", [("start", .bool true)]),
    ("join", [("depends_on", .ofStrings ["left", "right"])])]

def startedPair : InterleavedState := ⟨(plainStart joinedPair).world, []⟩

abbrev performPair : InterleavedEvent → InterleavedState → InterleavedState :=
  InterleavedEvent.perform (plainContext joinedPair) 1

def bothComplete : List InterleavedEvent :=
  [.report plainRun 5 .completed emptyJsonObject, .report plainRun 6 .completed emptyJsonObject]

/-- The first call is over before the second one lists the step runs. -/
def oneAfterTheOther : List InterleavedEvent :=
  bothComplete ++ List.replicate 20 (.operate 0) ++ List.replicate 20 (.operate 1)

/-- Both calls list the step runs before either creates one. -/
def sideBySide : List InterleavedEvent :=
  bothComplete ++ List.replicate 4 (.operate 0) ++ List.replicate 4 (.operate 1) ++
    List.replicate 16 (.operate 0) ++ List.replicate 16 (.operate 1)

theorem join_runs_once :
    HeldAlong performPair
        (fun state => ExecutedOnce joinedPair (state.world.stepRunsOf 1)) oneAfterTheOther
        startedPair ∧
      workflowGraphStepAttemptCount ((runEvents performPair oneAfterTheOther
        startedPair).world.stepRunsOf 1) "join" = 1 :=
  ⟨no_duplicated_step_execution (by decide +kernel) (startedAs_plain (by decide +kernel))
    (by decide +kernel), by decide +kernel⟩

/-- The join gets two step runs. -/
theorem join_runs_twice :
    validateWorkflowGraphDefinition plainHost joinedPair = .ok () ∧
      StartedAs (plainContext joinedPair) 1 (plainStart joinedPair) ∧
      ¬ExecutedOnce joinedPair
        ((runEvents performPair sideBySide startedPair).world.stepRunsOf 1) :=
  ⟨by decide +kernel, startedAs_plain (by decide +kernel), by decide +kernel⟩

end MandoForge
