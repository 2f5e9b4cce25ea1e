/-
Module: MandoForge.Workflow.Runs
Purpose: Runs of the engine from the materialization of the start steps: what one
  event does to the step runs and to the call, and what holds in every state of a
  run whatever the events are.
Trusted boundary: none
Main exports: EngineEvent.Effect, EngineCoherent
-/
import MandoForge.Workflow.Coherence

namespace MandoForge

open Foundation

/-! ### What an event does -/

/-- The step runs of the run, oldest first. -/
def EngineState.rows (workflowRunId : Uuid) (state : EngineState) : List WorkflowStepRun :=
  state.world.stepRunsOf workflowRunId

/-- What an event does to the step runs of the run, to its status and to the call
that is under way. -/
inductive EngineEvent.Effect (context : EngineContext) (plan : Plan) (workflowRunId : Uuid)
    (before after : EngineState) : EngineEvent → Prop
  | unchanged {event : EngineEvent} (rows : after.rows workflowRunId = before.rows workflowRunId)
      (control : after.control = before.control)
      (status : after.world.runStatus workflowRunId = before.world.runStatus workflowRunId) :
      Effect context plan workflowRunId before after event
  | reported {run : WorkflowRun} {step : WorkflowStepRun} {status : WorkflowStatus}
      {outputPayload : Json} (idle : before.isIdle = true) (ofRun : run.id = workflowRunId)
      (member : step ∈ before.rows workflowRunId)
      (isOpen : workflowStepStatusTerminal step.status = false)
      (canReport : reportable status = true)
      (rows : after.rows workflowRunId =
        (before.rows workflowRunId).map (reportStatus step.id status outputPayload))
      (control : after.control = .ok (.entering run { step with status, outputPayload }))
      (runs : after.world.store.workflowRuns = before.world.store.workflowRuns) :
      Effect context plan workflowRunId before after (.report run step.id status outputPayload)
  | turned {phase : Phase} (control : before.control = .ok phase)
      (advances : Advances context plan (before.rows workflowRunId) phase after.control
        (after.rows workflowRunId))
      (verdict : after.control = .ok .finalized → before.control = .ok .finalized ∧
          after.world = before.world ∨
        after.world.runStatus workflowRunId =
          some (finalVerdict plan.keys (before.rows workflowRunId))) :
      Effect context plan workflowRunId before after .tick

section effect

variable {context : EngineContext} {plan : Plan} {workflowRunId : Uuid} {state : EngineState}

theorem stepRunsOf_reportIn (world : World) (stepId : Uuid) (status : WorkflowStatus)
    (outputPayload : Json) :
    (EngineEvent.reportIn world stepId status outputPayload).stepRunsOf workflowRunId =
      (world.stepRunsOf workflowRunId).map (reportStatus stepId status outputPayload) := by
  unfold EngineEvent.reportIn World.stepRunsOf
  rw [Table.rows_modify, List.filter_map]
  congr 1
  apply List.filter_congr
  intro row _
  simp only [Function.comp_apply]
  split <;> rfl

theorem EngineState.rows_nodup (workflowRunId : Uuid) (state : EngineState) :
    ((state.rows workflowRunId).map WorkflowStepRun.id).Nodup :=
  (List.filter_sublist.map WorkflowStepRun.id).nodup
    state.world.store.workflowStepRuns.nodupKeys

/-- Only a finalization ends finalized, and it leaves the step runs. -/
theorem Advances.of_finalized {rows after : List WorkflowStepRun} {phase : Phase}
    (advances : Advances context plan rows phase (.ok .finalized) after) :
    (phase = .finalized ∨ ∃ run, phase = .finalizing run) ∧ after = rows := by
  generalize ended : (Except.ok Phase.finalized : Except AppError Phase) = outcome at advances
  cases advances with
  | finalized => exact ⟨.inr ⟨_, rfl⟩, rfl⟩
  | ended isEnd =>
      cases ended
      exact ⟨.inl rfl, rfl⟩
  | retried known failed remaining made returned =>
      rcases returned with returned | ⟨error, returned⟩
      · cases ended.trans returned
      · cases ended.trans returned
  | readyPassEnded todo =>
      split at ended <;> cases ended
  | failurePassEnded todo =>
      split at ended <;> cases ended
  | _ => cases ended

/-- A turn that ends the call finalized leaves the verdict on the step runs. -/
theorem advance_verdict {phase : Phase} (graph : context.definition.stepGraph = plan.stepGraph)
    (ofRun : ∀ run, phase.run? = some run → run.id = workflowRunId)
    (todoRead : phase.todoRead plan) (world : World) :
    (phase.advance context).Ensures world fun outcome after => outcome = .ok .finalized →
      phase = .finalized ∧ after = world ∨
        after.runStatus workflowRunId =
          some (finalVerdict plan.keys (world.stepRunsOf workflowRunId)) := by
  intro ended
  have advances := advance_advances graph ofRun todoRead world
  unfold Program.Ensures Turn at advances
  rw [ended] at advances
  rcases advances.of_finalized.1 with rfl | ⟨run, rfl⟩
  · exact .inl ⟨rfl, rfl⟩
  · right
    have keys_read := plan.workflowGraphStepKeys_eq
    rw [← graph] at keys_read
    have verdict := finalize_verdict keys_read run world
    rw [ofRun run rfl] at verdict
    simp only [Phase.advance] at ended ⊢
    unfold Program.Ensures at verdict
    rw [Program.run_bind] at ended ⊢
    generalize (finalizeWorkflowGraphAfterTransitionPolicy context run).run world = ran
      at verdict ended ⊢
    obtain ⟨outcome, after⟩ := ran
    cases outcome with
    | error error => cases ended
    | ok done => exact verdict rfl

theorem PhaseCoherent.ofRun {rows : List WorkflowStepRun} {phase : Phase}
    (coherent : PhaseCoherent plan workflowRunId rows phase) :
    ∀ run, phase.run? = some run → run.id = workflowRunId := by
  intro run found
  cases phase with
  | entering | finalizing =>
      cases found
      exact coherent.1
  | readying =>
      cases found
      exact coherent.1.1
  | readyPass =>
      cases found
      exact coherent.1.1.1
  | failing =>
      cases found
      exact coherent.current.1
  | failurePass =>
      cases found
      exact coherent.1.current.1
  | returned | finalized => cases found

theorem PhaseCoherent.todoRead {rows : List WorkflowStepRun} {phase : Phase}
    (coherent : PhaseCoherent plan workflowRunId rows phase) : phase.todoRead plan := by
  cases phase with
  | failurePass call pass =>
      obtain ⟨-, processed, todo, created, passCoherent⟩ := coherent
      intro graphStep member
      rw [passCoherent.todo] at member
      obtain ⟨planStep, inTodo, same⟩ := List.mem_map.mp member
      refine ⟨planStep, ?_, same⟩
      rw [passCoherent.split]
      exact List.mem_append_right _ inTodo
  | _ => trivial

/-! ### States of a run -/

/-- What holds in every state of a run. -/
structure EngineCoherent (plan : Plan) (workflowRunId : Uuid) (state : EngineState) :
    Prop where
  ordered : AttemptsOrdered (state.rows workflowRunId)
  known : ∀ row ∈ state.rows workflowRunId, row.stepKey ∈ plan.keys
  control : ∀ phase, state.control = .ok phase →
    PhaseCoherent plan workflowRunId (state.rows workflowRunId) phase
  verdict : state.control = .ok .finalized → state.world.runStatus workflowRunId =
    some (finalVerdict plan.keys (state.rows workflowRunId))

/-- What an event does in a coherent state. -/
theorem perform_effect (graph : context.definition.stepGraph = plan.stepGraph)
    (coherent : EngineCoherent plan workflowRunId state) (event : EngineEvent) :
    event.Effect context plan workflowRunId state
      (event.perform context workflowRunId state) := by
  cases event with
  | report run stepId status outputPayload =>
      simp only [EngineEvent.perform]
      split
      · rename_i step found
        obtain ⟨stored, rfl⟩ := Table.find?_eq_some.mp found
        split
        · rename_i accepted
          simp only [EngineEvent.reports, Bool.and_eq_true, decide_eq_true_eq,
            Bool.not_eq_true'] at accepted
          obtain ⟨idle, ⟨⟨ofRun, stepOfRun⟩, isOpen⟩, canReport⟩ := accepted
          refine .reported idle ofRun ?_ isOpen canReport ?_ rfl rfl
          · exact List.mem_filter.mpr ⟨stored, by simpa using stepOfRun⟩
          · exact stepRunsOf_reportIn ..
        · exact .unchanged rfl rfl rfl
      · exact .unchanged rfl rfl rfl
  | tick =>
      simp only [EngineEvent.perform]
      split
      · rename_i phase control
        have phaseCoherent := coherent.control phase control
        have advances := advance_advances graph phaseCoherent.ofRun phaseCoherent.todoRead
          state.world
        have verdict := advance_verdict graph phaseCoherent.ofRun phaseCoherent.todoRead
          state.world
        refine .turned control advances fun ended => ?_
        rcases verdict ended with ⟨rfl, same⟩ | written
        · exact .inl ⟨control, same⟩
        · exact .inr written
      · exact .unchanged rfl rfl rfl
  | elsewhere world =>
      simp only [EngineEvent.perform]
      split
      · rename_i same
        simp only [EngineEvent.sameRun, Bool.and_eq_true, decide_eq_true_eq] at same
        refine .unchanged same.1 rfl ?_
        unfold World.runStatus
        rw [same.2]
      · exact .unchanged rfl rfl rfl

theorem Advances.coherent_rows {rows after : List WorkflowStepRun} {phase : Phase}
    {outcome : Except AppError Phase}
    (advances : Advances context plan rows phase outcome after)
    (coherent : PhaseCoherent plan workflowRunId rows phase) (ordered : AttemptsOrdered rows)
    (known : ∀ row ∈ rows, row.stepKey ∈ plan.keys) :
    AttemptsOrdered after ∧ ∀ row ∈ after, row.stepKey ∈ plan.keys := by
  rcases advances.growth coherent ordered with rfl | ⟨new, rfl, growth⟩
  · exact ⟨ordered, known⟩
  · refine ⟨attemptsOrdered_append ordered growth.attempts, fun row member => ?_⟩
    rcases List.mem_append.mp member with old | isNew
    · exact known row old
    · rw [List.mem_singleton.mp isNew]
      exact growth.known

theorem EngineCoherent.perform (graph : context.definition.stepGraph = plan.stepGraph)
    (coherent : EngineCoherent plan workflowRunId state) (event : EngineEvent) :
    EngineCoherent plan workflowRunId (event.perform context workflowRunId state) := by
  have effect := perform_effect graph coherent event
  generalize event.perform context workflowRunId state = after at effect ⊢
  cases effect with
  | unchanged rows control status =>
      refine ⟨?_, ?_, ?_, ?_⟩
      · rw [rows]
        exact coherent.ordered
      · rw [rows]
        exact coherent.known
      · rw [rows, control]
        exact coherent.control
      · rw [rows, control, status]
        exact coherent.verdict
  | reported idle ofRun member isOpen canReport rows control runs =>
      rename_i run step status outputPayload
      refine ⟨?_, ?_, ?_, ?_⟩
      · rw [rows]
        exact attemptsOrdered_reportStatus coherent.ordered member isOpen
          (state.rows_nodup workflowRunId)
      · rw [rows]
        intro row inRows
        obtain ⟨old, oldMember, rfl⟩ := List.mem_map.mp inRows
        rw [reportStatus_stepKey]
        exact coherent.known old oldMember
      · intro phase found
        cases Except.ok.inj (control.symm.trans found)
        rw [rows]
        refine ⟨ofRun, ?_⟩
        rw [latest_reportStatus]
        dsimp only
        rw [latest_of_open coherent.ordered member isOpen, Option.map_some, reportStatus_self]
      · intro ended
        cases control.symm.trans ended
  | turned control advances verdict =>
      rename_i phase
      have phaseCoherent := coherent.control phase control
      obtain ⟨ordered, known⟩ :=
        advances.coherent_rows phaseCoherent coherent.ordered coherent.known
      refine ⟨ordered, known, ?_, ?_⟩
      · intro next ended
        exact advances.phaseCoherent phaseCoherent ended
      · intro ended
        have sameRows := advances
        rw [ended] at sameRows
        rw [sameRows.of_finalized.2]
        rcases verdict ended with ⟨wasFinalized, sameWorld⟩ | written
        · rw [sameWorld]
          exact coherent.verdict wasFinalized
        · exact written

/-! ### The start of a run -/

/-- The request for a start step. -/
def startRequest (run : WorkflowRun) (rootGrant : TaskGrant) (graphStep : Json) :
    MaterializeRequest :=
  { run, rootGrant, graphStep, status := .queued, scheduledAt := none
    inputContext := emptyJsonObject, outputPayload := emptyJsonObject }

/-- The start steps get one step run each, in their order. -/
theorem materializeAll_adds {run : WorkflowRun} {rootGrant : TaskGrant}
    (ofRun : run.id = workflowRunId) (graphSteps : List Json) (world : World)
    {steps : List WorkflowStepRun} {after : World}
    (ran : (materializeAll context run rootGrant graphSteps).run world = (.ok steps, after)) :
    after.stepRunsOf workflowRunId = world.stepRunsOf workflowRunId ++ steps ∧
      List.Forall₂ (fun graphStep step => MaterializedAs (startRequest run rootGrant graphStep)
        step) graphSteps steps := by
  induction graphSteps generalizing world steps with
  | nil =>
      cases ran
      exact ⟨(List.append_nil _).symm, .nil⟩
  | cons graphStep rest inductionHypothesis =>
      unfold materializeAll at ran
      have adds := materialize_adds context (startRequest run rootGrant graphStep) world
      unfold Program.Ensures at adds
      rw [Program.run_bind, materializeWorkflowGraphStep] at ran
      unfold startRequest at adds
      generalize (materializeWorkflowGraphStepWithPolicyContext context _).run world = first
        at adds ran
      obtain ⟨outcome, between⟩ := first
      cases outcome with
      | error error => cases ran
      | ok step =>
          obtain ⟨made, added⟩ := adds
          dsimp only at ran
          rw [Program.run_bind] at ran
          generalize restRan : (materializeAll context run rootGrant rest).run between = second
            at ran
          obtain ⟨outcome, last⟩ := second
          cases outcome with
          | error error => cases ran
          | ok others =>
              cases ran
              obtain ⟨grown, allMade⟩ := inductionHypothesis between restRan
              refine ⟨?_, .cons made allMade⟩
              rw [grown, added.stepRunsOf, if_pos (made.workflowRunId.trans ofRun),
                List.append_assoc]
              rfl

/-- The step run of a start step. -/
def IsStart (planStep : PlanStep) (row : WorkflowStepRun) : Prop :=
  ∃ run rootGrant, MaterializedAs (startRequest run rootGrant planStep.graphStep) row

theorem IsStart.stepKey_eq {planStep : PlanStep} {row : WorkflowStepRun}
    (isStart : IsStart planStep row) : row.stepKey = planStep.key := by
  obtain ⟨run, rootGrant, made⟩ := isStart
  exact made.stepKey_eq rfl

theorem IsStart.isActive {planStep : PlanStep} {row : WorkflowStepRun}
    (isStart : IsStart planStep row) : row.isActive = true := by
  obtain ⟨run, rootGrant, made⟩ := isStart
  exact made.isActive (.inl rfl)

/-- The step runs at the start of a run are those of the start steps. -/
theorem StartedAs.rows (graph : context.definition.stepGraph = plan.stepGraph)
    (started : StartedAs context workflowRunId state) :
    List.Forall₂ IsStart plan.starts (state.rows workflowRunId) := by
  obtain ⟨before, run, updated, rootGrant, ofRun, noSteps, ran⟩ := started.started
  unfold materializeWorkflowGraphStartSteps at ran
  rw [Program.run_bind] at ran
  generalize allRan : (materializeAll context run rootGrant
    (workflowGraphStartSteps context.definition.stepGraph)).run before = first at ran
  obtain ⟨outcome, between⟩ := first
  cases outcome with
  | error error => cases ran
  | ok steps =>
      obtain ⟨grown, allMade⟩ := materializeAll_adds ofRun _ before allRan
      dsimp only at ran
      have kept := stepRunsOf_of_keeps (updateWorkflowRunStatus_keepsStepRuns run.id
        (if steps.any fun step => decide (step.status = .requiresAction) then .requiresAction
          else .queued)) between workflowRunId
      rw [ran] at kept
      unfold EngineState.rows
      rw [kept, grown, noSteps, List.nil_append]
      rw [graph, plan.starts_read, List.forall₂_map_left_iff] at allMade
      exact allMade.imp fun _ _ made => ⟨run, rootGrant, made⟩

theorem starts_keys {starts : List PlanStep} {rows : List WorkflowStepRun}
    (each : List.Forall₂ IsStart starts rows) :
    rows.map WorkflowStepRun.stepKey = starts.map PlanStep.key ∧
      ∀ row ∈ rows, ∃ planStep ∈ starts, IsStart planStep row := by
  induction each with
  | nil => exact ⟨rfl, by simp⟩
  | cons isStart _ inductionHypothesis =>
      obtain ⟨keys, members⟩ := inductionHypothesis
      refine ⟨by rw [List.map_cons, List.map_cons, isStart.stepKey_eq, keys], ?_⟩
      rw [List.forall_mem_cons]
      refine ⟨⟨_, List.mem_cons_self, isStart⟩, fun row member => ?_⟩
      obtain ⟨planStep, inStarts, isStart⟩ := members row member
      exact ⟨planStep, List.mem_cons_of_mem _ inStarts, isStart⟩

theorem StartedAs.keys (graph : context.definition.stepGraph = plan.stepGraph)
    (started : StartedAs context workflowRunId state) :
    (state.rows workflowRunId).map WorkflowStepRun.stepKey =
      plan.starts.map PlanStep.key :=
  (starts_keys (started.rows graph)).1

theorem StartedAs.keys_nodup (graph : context.definition.stepGraph = plan.stepGraph)
    (started : StartedAs context workflowRunId state) :
    ((state.rows workflowRunId).map WorkflowStepRun.stepKey).Nodup := by
  rw [started.keys graph]
  apply plan.starts_nodup.map_on
  intro first firstIn second secondIn same
  exact plan.eq_of_key (plan.starts_subset first firstIn) (plan.starts_subset second secondIn)
    same

theorem StartedAs.mem_start (graph : context.definition.stepGraph = plan.stepGraph)
    (started : StartedAs context workflowRunId state) {row : WorkflowStepRun}
    (member : row ∈ state.rows workflowRunId) :
    ∃ planStep ∈ plan.starts, IsStart planStep row :=
  (starts_keys (started.rows graph)).2 row member

theorem StartedAs.coherent (graph : context.definition.stepGraph = plan.stepGraph)
    (started : StartedAs context workflowRunId state) :
    EngineCoherent plan workflowRunId state where
  ordered := by
    have distinct := started.keys_nodup graph
    unfold AttemptsOrdered
    rw [List.Nodup, List.pairwise_map] at distinct
    exact distinct.imp fun different same => absurd same different
  known row member := by
    obtain ⟨planStep, inStarts, isStart⟩ := started.mem_start graph member
    rw [isStart.stepKey_eq]
    exact List.mem_map_of_mem (plan.starts_subset planStep inStarts)
  control phase found := by
    cases Except.ok.inj (started.idle.symm.trans found)
    trivial
  verdict ended := by
    cases started.idle.symm.trans ended

/-- A property of the step runs and the call that holds at the start, that reports
keep, and that turns keep which meet a condition, holds in every state of a run. -/
theorem heldAlong_of_turns (holds : List WorkflowStepRun → Except AppError Phase → Prop)
    {met : EngineEvent → EngineState → Prop} {events : List EngineEvent}
    (graph : context.definition.stepGraph = plan.stepGraph)
    (started : StartedAs context workflowRunId state)
    (start : holds (state.rows workflowRunId) (.ok .returned))
    (reported : ∀ {state : EngineState} {run : WorkflowRun} {step : WorkflowStepRun}
      {status : WorkflowStatus} {outputPayload : Json},
      EngineCoherent plan workflowRunId state → state.isIdle = true →
      step ∈ state.rows workflowRunId → workflowStepStatusTerminal step.status = false →
      reportable status = true → holds (state.rows workflowRunId) state.control →
      holds ((state.rows workflowRunId).map (reportStatus step.id status outputPayload))
        (.ok (.entering run { step with status, outputPayload })))
    (turned : ∀ {state : EngineState} {phase : Phase} {outcome : Except AppError Phase}
      {after : List WorkflowStepRun}, EngineCoherent plan workflowRunId state →
      state.control = .ok phase → met .tick state →
      Advances context plan (state.rows workflowRunId) phase outcome after →
      holds (state.rows workflowRunId) (.ok phase) → holds after outcome)
    (along : MetAlong (EngineEvent.perform context workflowRunId) met events state) :
    HeldAlong (EngineEvent.perform context workflowRunId)
      (fun state => EngineCoherent plan workflowRunId state ∧
        holds (state.rows workflowRunId) state.control) events state := by
  have startHeld : holds (state.rows workflowRunId) state.control := by
    rw [started.idle]
    exact start
  refine heldAlong_of_step ?_ ⟨started.coherent graph, startHeld⟩ along
  rintro event state meets ⟨coherent, held⟩
  refine ⟨coherent.perform graph event, ?_⟩
  have effect := perform_effect graph coherent event
  generalize event.perform context workflowRunId state = after at effect ⊢
  cases effect with
  | unchanged rows control status =>
      rw [rows, control]
      exact held
  | reported idle ofRun member isOpen canReport rows control runs =>
      rw [rows, control]
      exact reported coherent idle member isOpen canReport held
  | turned control advances verdict =>
      rw [control] at held
      exact turned coherent control meets advances held

end effect

/-! ### A small world to run a graph in -/

/-- The machine after the start steps were materialized in a world. -/
def startIn (context : EngineContext) (run : WorkflowRun) (rootGrant : TaskGrant)
    (before : World) : EngineState where
  world := ((materializeWorkflowGraphStartSteps context run rootGrant).run before).2
  control := .ok .returned

theorem startedAs_startIn {context : EngineContext} {run : WorkflowRun} {rootGrant : TaskGrant}
    {before : World} (noSteps : before.stepRunsOf run.id = [])
    (started : ((materializeWorkflowGraphStartSteps context run rootGrant).run before).1.isOk =
      true) : StartedAs context run.id (startIn context run rootGrant before) where
  idle := rfl
  started := by
    generalize ran : (materializeWorkflowGraphStartSteps context run rootGrant).run before = out
      at started
    obtain ⟨outcome, after⟩ := out
    cases outcome with
    | error error => cases started
    | ok updated =>
        refine ⟨before, run, updated, rootGrant, rfl, noSteps, ?_⟩
        simp [startIn, ran]

def plainHost : Host where
  parseUuid _ := none
  parseRfc3339 _ := none
  printUuid _ := ""
  printTimestamp _ := ""

def plainSession : Session := ⟨3, .running, 4, none, none⟩

/-- A run of a graph whose steps all work in the primary session. -/
def plainContext (stepGraph : Json) : EngineContext where
  host := plainHost
  releaseDenial _ _ := none
  definition := ⟨4, stepGraph⟩
  session := plainSession

def plainRun : WorkflowRun where
  id := 1
  status := .initializing
  primarySessionId := 3
  rootTaskGrantId := some 2
  inputPayload := emptyJsonObject
  runtimeDelegation := emptyJsonObject

def plainGrant : TaskGrant where
  id := 2
  workflowRunId := 1
  workflowStepRunId := none
  sessionId := some 3
  parentGrantId := none
  granteeSessionId := some 3
  status := .active
  expiresAt := none
  maxTurns := none
  maxToolCalls := none
  maxRuntimeSeconds := none
  maxCostUsdMicros := none
  turnsUsed := 0
  toolCallsUsed := 0
  costUsdMicrosUsed := 0
  semanticScopes := .array []
  memoryScope := emptyJsonObject
  toolScope := emptyJsonObject
  connectorScope := emptyJsonObject
  approvalPolicy := emptyJsonObject
  externalEffects := emptyJsonObject
  createdAt := 0

def plainWorld : World where
  store := { workflowRuns := Table.empty.insert plainRun
             taskGrants := Table.empty.insert plainGrant
             workflowStepRuns := .empty
             sessions := Table.empty.insert plainSession }
  clock := 0
  issuedUuid := 4

def plainStart (stepGraph : Json) : EngineState :=
  startIn (plainContext stepGraph) plainRun plainGrant plainWorld

theorem startedAs_plain {stepGraph : Json}
    (started : ((materializeWorkflowGraphStartSteps (plainContext stepGraph) plainRun
      plainGrant).run plainWorld).1.isOk = true) :
    StartedAs (plainContext stepGraph) 1 (plainStart stepGraph) :=
  startedAs_startIn rfl started

/-- A graph of steps, each a key with further fields. -/
def graphOf (steps : List (String × List (String × Json))) : Json :=
  .ofFields [("steps", .array (steps.map fun (key, fields) =>
    .ofFields (("key", .string key) :: fields)))]

/-- A step run reports, and the call that follows takes a number of turns. -/
def reportAndRun (stepId : Uuid) (status : WorkflowStatus) (turns : Nat) : List EngineEvent :=
  .report plainRun stepId status emptyJsonObject :: List.replicate turns .tick

end MandoForge
