/-
Module: MandoForge.Workflow.CallView
Purpose: What a call of the engine decides on.  Followed through every answer that
  the store may give it, a call creates step runs only for steps that the step
  runs it listed last admit, and only under identifiers that it got itself.
Trusted boundary: none
Main exports: CallView, LeadsOn
-/
import MandoForge.Workflow.Verdict

namespace MandoForge

open Foundation

/-! ### What a call has been told -/

/-- The list of step runs that a call read last, and the identifiers that it got
and has not used. -/
structure CallView where
  seen : List WorkflowStepRun
  issued : List Uuid

namespace CallView

def start : CallView := ⟨[], []⟩

/-- An identifier is used up when a step run is created with it. -/
def use (view : CallView) (id : Uuid) : CallView :=
  { view with issued := view.issued.filter fun other => decide (other ≠ id) }

def observe : (operation : WorkflowStore.Operation) → WorkflowStore.Answer operation →
    CallView → CallView
  | .listWorkflowStepRuns _, steps, view => { view with seen := steps }
  | .newUuid, id, view => { view with issued := id :: view.issued }
  | .createWorkflowStepRun step, _, view => view.use step.id
  | .createWorkflowStepRunWithTaskGrant step _, _, view => view.use step.id
  | _, _, view => view

end CallView

/-- The step run that an operation creates. -/
def WorkflowOperation.created : WorkflowOperation → Option WorkflowStepRun
  | .createWorkflowStepRun step => some step
  | .createWorkflowStepRunWithTaskGrant step _ => some step
  | _ => none

/-- The operations that write step runs that exist. -/
def WorkflowOperation.writesStep : WorkflowOperation → Bool
  | .adoptWorkflowStepForLoop _ _ _ | .updateClaimedWorkflowStepRun _ _
  | .activateScheduledWorkflowStepRun _ _ => true
  | _ => false

/-! ### What a call may do -/

/-- The listed step runs admit another one for the step: there is none yet, or the
step failed and has attempts left. -/
def Admits (failedKey : Option String) (seen : List WorkflowStepRun) (planStep : PlanStep) :
    Prop :=
  workflowGraphStepAttemptCount seen planStep.key = 0 ∨
    failedKey = some planStep.key ∧
      workflowGraphStepAttemptCount seen planStep.key < planStep.retryPolicy.maxAttempts

/-- A call writes no step run that exists, and creates one under an identifier of
its own for a step that its list admits. -/
def Allowed (plan : Plan) (failedKey : Option String) (view : CallView)
    (operation : WorkflowStore.Operation) : Prop :=
  WorkflowOperation.writesStep operation = false ∧
    ∀ step, WorkflowOperation.created operation = some step → step.id ∈ view.issued ∧
      ∃ planStep ∈ plan.steps, planStep.key = step.stepKey ∧ Admits failedKey view.seen planStep

theorem Allowed.of_quiet {plan : Plan} {failedKey : Option String} {view : CallView}
    {operation : WorkflowStore.Operation}
    (writes : WorkflowOperation.writesStep operation = false)
    (creates : WorkflowOperation.created operation = none) :
    Allowed plan failedKey view operation := by
  refine ⟨writes, fun step created => ?_⟩
  rw [creates] at created
  cases created

/-- What a control state has taken over from the list that its call read last. -/
def Phase.SeenBy (plan : Plan) (phase : Phase) (view : CallView) : Prop :=
  match phase with
  | .entering _ _ => False
  | .readyPass _ pass => pass.existingSteps = view.seen ∧
      ∀ readyStep ∈ pass.todo, ∃ planStep ∈ plan.steps,
        planStep.graphStep = readyStep.graphStep ∧
          workflowGraphStepAttemptCount view.seen planStep.key = 0
  | .failurePass _ pass => pass.existingSteps = view.seen ∧
      ∀ graphStep ∈ pass.todo, ∃ planStep ∈ plan.steps, planStep.graphStep = graphStep
  | _ => True

/-- The key whose failure a call is about. -/
def Phase.failedKey : Phase → Option String
  | .entering _ step => if step.status = .failed then some step.stepKey else none
  | _ => none

section programs

variable {context : EngineContext} {plan : Plan} {failedKey : Option String}
  {Value Next : Type}

/-- A program that creates no step run and lists none. -/
def Calm (plan : Plan) (failedKey : Option String) (program : WorkflowProgram Value) : Prop :=
  ∀ view : CallView, program.Respects CallView.observe (Allowed plan failedKey) view
    fun _ after => after.seen = view.seen ∧ view.issued ⊆ after.issued

namespace Calm

theorem pure (value : Value) : Calm plan failedKey (Pure.pure value : WorkflowProgram Value) :=
  fun _ => ⟨rfl, fun _ member => member⟩

theorem ofExcept (outcome : Except AppError Value) :
    Calm plan failedKey (Program.ofExcept outcome) := by
  intro view
  rw [Program.respects_ofExcept]
  exact fun _ _ => ⟨rfl, fun _ member => member⟩

theorem bind {first : WorkflowProgram Value} {next : Value → WorkflowProgram Next}
    (calm : Calm plan failedKey first) (rest : ∀ value, Calm plan failedKey (next value)) :
    Calm plan failedKey (first >>= next) := by
  intro view
  apply Program.Respects.bind
  apply (calm view).mono
  rintro value after ⟨seen, issued⟩
  apply (rest value after).mono
  rintro _ last ⟨seenLast, issuedLast⟩
  exact ⟨seenLast.trans seen, fun _ member => issuedLast (issued member)⟩

theorem attempt {operation : WorkflowStore.Operation}
    {answer : WorkflowStore.Answer operation → Except AppError Value}
    (allowed : ∀ view, Allowed plan failedKey view operation)
    (unseen : ∀ given view, CallView.observe operation given view = view) :
    Calm plan failedKey (Program.attempt operation answer) := by
  intro view
  rw [Program.respects_attempt]
  refine ⟨allowed view, fun given _ _ => ?_⟩
  rw [unseen]
  exact ⟨rfl, fun _ member => member⟩

theorem newUuid : Calm plan failedKey AppState.newUuid :=
  fun _ => ⟨.of_quiet rfl rfl, fun _ => ⟨rfl, fun _ member => List.mem_cons_of_mem _ member⟩⟩

theorem readClock : Calm plan failedKey AppState.readClock :=
  fun _ => ⟨.of_quiet rfl rfl, fun _ => ⟨rfl, fun _ member => member⟩⟩

theorem listAgentVersions (agentId : Uuid) :
    Calm plan failedKey (AppState.listAgentVersions agentId) :=
  fun _ => ⟨.of_quiet rfl rfl, fun _ => ⟨rfl, fun _ member => member⟩⟩

theorem getWorkflowRun (workflowRunId : Uuid) :
    Calm plan failedKey (AppState.getWorkflowRun workflowRunId) :=
  .attempt (fun _ => .of_quiet rfl rfl) fun _ _ => rfl

theorem getTaskGrant (grantId : Uuid) : Calm plan failedKey (AppState.getTaskGrant grantId) :=
  .attempt (fun _ => .of_quiet rfl rfl) fun _ _ => rfl

theorem getSession (sessionId : Uuid) : Calm plan failedKey (AppState.getSession sessionId) :=
  .attempt (fun _ => .of_quiet rfl rfl) fun _ _ => rfl

theorem getAgent (agentId : Uuid) : Calm plan failedKey (AppState.getAgent agentId) :=
  .attempt (fun _ => .of_quiet rfl rfl) fun _ _ => rfl

theorem getEnvironment (environmentId : Uuid) :
    Calm plan failedKey (AppState.getEnvironment environmentId) :=
  .attempt (fun _ => .of_quiet rfl rfl) fun _ _ => rfl

theorem createSession (session : Session) :
    Calm plan failedKey (AppState.createSession session) :=
  fun _ => ⟨.of_quiet rfl rfl, fun _ => ⟨rfl, fun _ member => member⟩⟩

theorem setSessionStatus (sessionId : Uuid) (status : SessionStatus) :
    Calm plan failedKey (AppState.setSessionStatus sessionId status) :=
  fun _ => ⟨.of_quiet rfl rfl, fun _ => ⟨rfl, fun _ member => member⟩⟩

theorem updateWorkflowRunStatus (workflowRunId : Uuid) (status : WorkflowStatus) :
    Calm plan failedKey (AppState.updateWorkflowRunStatus workflowRunId status) :=
  .attempt (fun _ => .of_quiet rfl rfl) fun _ _ => rfl

theorem updateTaskGrantStatus (grantId : Uuid) (status : TaskGrantStatus) :
    Calm plan failedKey (AppState.updateTaskGrantStatus grantId status) :=
  .attempt (fun _ => .of_quiet rfl rfl) fun _ _ => rfl

theorem listTaskGrantsForWorkflowRun (workflowRunId : Uuid) :
    Calm plan failedKey (AppState.listTaskGrantsForWorkflowRun workflowRunId) :=
  fun _ => ⟨.of_quiet rfl rfl, fun _ => ⟨rfl, fun _ member => member⟩⟩

theorem closeTaskGrants (nextStatus : TaskGrantStatus) (grants : List TaskGrant) :
    Calm plan failedKey (MandoForge.closeTaskGrants nextStatus grants) := by
  induction grants with
  | nil => exact .pure ()
  | cons grant rest inductionHypothesis =>
      unfold MandoForge.closeTaskGrants
      split
      · exact .bind (.updateTaskGrantStatus _ _) fun _ => inductionHypothesis
      · exact inductionHypothesis

theorem finishCompletedWorkflowSession (run : WorkflowRun) :
    Calm plan failedKey (MandoForge.finishCompletedWorkflowSession run) := by
  unfold MandoForge.finishCompletedWorkflowSession
  split
  · exact .pure ()
  · apply Calm.bind (.getSession _)
    intro session
    split
    · exact .pure ()
    · exact .setSessionStatus _ _

theorem recordStatus (run : WorkflowRun) (status : WorkflowStatus) :
    Calm plan failedKey (updateWorkflowRunStatusAndRecord run status) := by
  unfold updateWorkflowRunStatusAndRecord
  split
  · exact .bind (.finishCompletedWorkflowSession run) fun _ => .pure run
  · apply Calm.bind (.updateWorkflowRunStatus _ _)
    intro updated
    refine .bind ?_ fun _ => .bind (.finishCompletedWorkflowSession updated) fun _ => .pure updated
    unfold updateWorkflowRunStatusAndRecord.closeGrantsOf
    split
    · exact .bind (.listTaskGrantsForWorkflowRun _) fun grants => .closeTaskGrants _ grants
    · exact .pure ()

theorem rootGrantOf (run : WorkflowRun) : Calm plan failedKey (MandoForge.rootGrantOf run) :=
  .bind (.ofExcept _) fun _ => .getTaskGrant _

theorem findAgentVersion (agentId versionId : Uuid) (missing : String) :
    Calm plan failedKey (MandoForge.findAgentVersion agentId versionId missing) :=
  .bind (.listAgentVersions agentId) fun _ => .ofExcept _

theorem createSessionForAgentVersion (agentId versionId : Uuid)
    (environmentId : Option Uuid) :
    Calm plan failedKey (MandoForge.createSessionForAgentVersion context agentId versionId
      environmentId) := by
  have environment : Calm plan failedKey (ensureEnvironment environmentId) := by
    cases environmentId with
    | none => exact .pure ()
    | some environmentId => exact .getEnvironment environmentId
  unfold MandoForge.createSessionForAgentVersion
  apply Calm.bind (.getAgent agentId)
  intro agent
  apply Calm.bind (.ofExcept _)
  intro _
  apply Calm.bind environment
  intro _
  apply Calm.bind (.findAgentVersion _ _ _)
  intro version
  apply Calm.bind (.ofExcept _)
  intro _
  exact .bind .newUuid fun _ => .createSession _

end Calm

/-! ### The programs of a call -/

/-- A program that leaves the list as it is seen. -/
def LeavesSeen (plan : Plan) (failedKey : Option String) (view : CallView)
    (program : WorkflowProgram Value) : Prop :=
  program.Respects CallView.observe (Allowed plan failedKey) view
    fun _ after => after.seen = view.seen

theorem Calm.leavesSeen_bind {first : WorkflowProgram Value}
    {next : Value → WorkflowProgram Next} {view : CallView}
    (calm : Calm plan failedKey first)
    (rest : ∀ value after, after.seen = view.seen → view.issued ⊆ after.issued →
      LeavesSeen plan failedKey after (next value)) :
    LeavesSeen plan failedKey view (first >>= next) := by
  apply Program.Respects.bind
  apply (calm view).mono
  rintro value after ⟨seen, issued⟩
  apply (rest value after seen issued).mono
  exact fun _ last seenLast => seenLast.trans seen

variable {planStep : PlanStep} {draft : StepDraft} {request : MaterializeRequest}
  {view : CallView}

theorem createWorkflowStepRun_leavesSeen {step : WorkflowStepRun} (own : step.id ∈ view.issued)
    (member : planStep ∈ plan.steps) (key : planStep.key = step.stepKey)
    (admits : Admits failedKey view.seen planStep) :
    LeavesSeen plan failedKey view (AppState.createWorkflowStepRun step) := by
  refine Program.respects_attempt.mpr ⟨⟨rfl, ?_⟩, fun _ _ _ => rfl⟩
  rintro created ⟨⟩
  exact ⟨own, planStep, member, key, admits⟩

theorem newUuid_leavesSeen {next : Uuid → WorkflowProgram Value}
    (rest : ∀ id, LeavesSeen plan failedKey { view with issued := id :: view.issued }
      (next id)) : LeavesSeen plan failedKey view (AppState.newUuid >>= next) :=
  Program.Respects.bind ⟨.of_quiet rfl rfl, fun id => (rest id).mono fun _ _ seen => seen⟩

/-- What every route of a materialization has read. -/
theorem materializeUnstarted_leavesSeen (member : planStep ∈ plan.steps)
    (key : planStep.key = draft.stepKey) (admits : Admits failedKey view.seen planStep)
    (agentId : Uuid) (approvalBlocked : Bool) :
    LeavesSeen plan failedKey view
      (materializeUnstarted draft request agentId approvalBlocked) := by
  unfold materializeUnstarted
  apply Calm.leavesSeen_bind (.ofExcept _)
  intro agentVersionId view sameSeen _
  rw [← sameSeen] at admits
  apply Calm.leavesSeen_bind (.findAgentVersion _ _ _)
  intro version view sameSeen _
  rw [← sameSeen] at admits
  apply newUuid_leavesSeen
  intro id
  refine createWorkflowStepRun_leavesSeen ?_ member ?_ admits
  · cases approvalBlocked <;> exact List.mem_cons_self
  · cases approvalBlocked <;> exact key

theorem materializeBound_leavesSeen (member : planStep ∈ plan.steps)
    (key : planStep.key = draft.stepKey) (admits : Admits failedKey view.seen planStep) :
    LeavesSeen plan failedKey view (materializeBound context draft request) := by
  unfold materializeBound
  apply Calm.leavesSeen_bind (.ofExcept _)
  intro _ view sameSeen _
  rw [← sameSeen] at admits
  apply newUuid_leavesSeen
  intro id
  exact createWorkflowStepRun_leavesSeen List.mem_cons_self member key admits

theorem materializeHandoff_leavesSeen (member : planStep ∈ plan.steps)
    (key : planStep.key = draft.stepKey) (admits : Admits failedKey view.seen planStep)
    (agentId : Uuid) (now : Timestamp) :
    LeavesSeen plan failedKey view
      (materializeHandoff context draft request agentId now) := by
  unfold materializeHandoff
  apply Calm.leavesSeen_bind (.ofExcept _)
  intro agentVersionId first firstSeen _
  apply Calm.leavesSeen_bind (.getAgent agentId)
  intro _ second secondSeen _
  apply Calm.leavesSeen_bind (.findAgentVersion _ _ _)
  intro version third thirdSeen _
  have admits : Admits failedKey third.seen planStep := by
    rw [thirdSeen, secondSeen, firstSeen]
    exact admits
  apply newUuid_leavesSeen
  intro stepId
  -- The identifier of the step run stays unused until the step run is created.
  have own : stepId ∈ (stepId :: third.issued) := List.mem_cons_self
  apply newUuid_leavesSeen
  intro grantId
  apply Calm.leavesSeen_bind (.ofExcept _)
  intro grant fourth fourthSeen fourthIssued
  apply Calm.leavesSeen_bind (.createSessionForAgentVersion _ _ _)
  intro session fifth fifthSeen fifthIssued
  apply newUuid_leavesSeen
  intro threadId
  apply Program.Respects.bind
  refine ⟨⟨rfl, ?_⟩, fun answer => ?_⟩
  · rintro created ⟨⟩
    refine ⟨List.mem_cons_of_mem _ (fifthIssued (fourthIssued (List.mem_cons_of_mem _ own))),
      planStep, member, key, ?_⟩
    change Admits failedKey fifth.seen planStep
    rw [fifthSeen, fourthSeen]
    exact admits
  · cases answer with
    | ok created => exact rfl
    | error error => exact ⟨.of_quiet rfl rfl, fun _ => trivial⟩

/-- A materialization creates a step run for its graph step only. -/
theorem materialize_leavesSeen (member : planStep ∈ plan.steps)
    (graphStep : request.graphStep = planStep.graphStep)
    (admits : Admits failedKey view.seen planStep) :
    LeavesSeen plan failedKey view
      (materializeWorkflowGraphStepWithPolicyContext context request) := by
  unfold materializeWorkflowGraphStepWithPolicyContext
  apply Calm.leavesSeen_bind .readClock
  intro now after sameSeen _
  rw [← sameSeen] at admits
  apply Program.Respects.bind
  rw [Program.respects_ofExcept]
  intro draft read
  have key : planStep.key = draft.stepKey := by
    have key_read := readStepDraft_stepKey read
    rw [graphStep] at key_read
    exact Except.ok.inj (planStep.key_read.symm.trans key_read)
  change LeavesSeen plan failedKey after _
  dsimp only
  split
  · split
    · exact materializeUnstarted_leavesSeen member key admits _ _
    · exact materializeHandoff_leavesSeen member key admits _ _
  · exact materializeBound_leavesSeen member key admits

/-- The program takes over no more than its call has seen. -/
def LeadsOn (plan : Plan) (failedKey : Option String) (view : CallView)
    (program : WorkflowProgram Phase) : Prop :=
  program.Respects CallView.observe (Allowed plan failedKey) view (Phase.SeenBy plan)

theorem Calm.leadsOn_bind {first : WorkflowProgram Value} {next : Value → WorkflowProgram Phase}
    (calm : Calm plan failedKey first)
    (rest : ∀ value after, after.seen = view.seen → LeadsOn plan failedKey after (next value)) :
    LeadsOn plan failedKey view (first >>= next) :=
  Program.Respects.bind ((calm view).mono fun value after unchanged =>
    rest value after unchanged.1)

theorem LeavesSeen.leadsOn_bind {first : WorkflowProgram Value}
    {next : Value → WorkflowProgram Phase} (leaves : LeavesSeen plan failedKey view first)
    (rest : ∀ value after, after.seen = view.seen → LeadsOn plan failedKey after (next value)) :
    LeadsOn plan failedKey view (first >>= next) :=
  Program.Respects.bind (leaves.mono rest)

theorem ofExcept_leadsOn {outcome : Except AppError Value} {next : Value → WorkflowProgram Phase}
    (rest : ∀ value, outcome = .ok value → LeadsOn plan failedKey view (next value)) :
    LeadsOn plan failedKey view (Program.ofExcept outcome >>= next) :=
  Program.Respects.bind (Program.respects_ofExcept.mpr rest)

theorem listed_leadsOn {workflowRunId : Uuid}
    {next : List WorkflowStepRun → WorkflowProgram Phase}
    (rest : ∀ steps, LeadsOn plan failedKey { view with seen := steps } (next steps)) :
    LeadsOn plan failedKey view (AppState.listWorkflowStepRuns workflowRunId >>= next) :=
  Program.Respects.bind ⟨.of_quiet rfl rfl, rest⟩

/-- A call for a failed step run may create the next attempt of its key. -/
theorem failure_leadsOn (graph : context.definition.stepGraph = plan.stepGraph)
    (run : WorkflowRun) (step : WorkflowStepRun)
    (failed : step.status = .failed → failedKey = some step.stepKey) :
    LeadsOn plan failedKey view (advanceWorkflowGraphAfterStepFailure context run step) := by
  unfold advanceWorkflowGraphAfterStepFailure
  apply Calm.leadsOn_bind (.rootGrantOf run)
  intro rootGrant view _
  apply listed_leadsOn
  intro existingSteps
  apply ofExcept_leadsOn
  intro found read
  rw [graph, plan.workflowGraphStepByKey_eq] at read
  cases known : plan.stepOf step.stepKey with
  | none =>
      rw [known] at read
      cases read
      exact Calm.leadsOn_bind (.recordStatus run step.status) fun _ _ _ => trivial
  | some planStep =>
      rw [known, Option.map_some] at read
      cases read
      obtain ⟨member, sameKey⟩ := Plan.stepOf_eq_some.mp known
      dsimp only
      split
      · rename_i isFailed
        rw [planStep.retryPolicy_read]
        apply ofExcept_leadsOn
        rintro retryPolicy ⟨⟩
        split
        · rename_i remaining
          have time : Calm plan failedKey (retryTime planStep.retryPolicy) := by
            unfold retryTime
            split
            · exact .bind .readClock fun _ => .pure _
            · exact .pure _
          unfold retryStep
          apply Calm.leadsOn_bind time
          intro scheduledAt after sameSeen
          refine LeavesSeen.leadsOn_bind (materialize_leavesSeen member rfl (.inr ⟨?_, ?_⟩)) ?_
          · rw [failed isFailed, sameKey]
          · rw [sameSeen, sameKey]
            exact remaining
          · intro _ last _
            exact Calm.leadsOn_bind (.recordStatus run .running) fun _ _ _ => trivial
        · exact trivial
      · exact trivial

theorem enterAdvance_leadsOn (graph : context.definition.stepGraph = plan.stepGraph)
    (run : WorkflowRun) (step : WorkflowStepRun) :
    LeadsOn plan (Phase.entering run step).failedKey view (enterAdvance context run step) := by
  unfold enterAdvance
  split
  · apply failure_leadsOn graph
    intro isFailed
    rw [Phase.failedKey, if_pos isFailed]
  · apply failure_leadsOn graph
    intro isFailed
    rw [Phase.failedKey, if_pos isFailed]
  · exact Calm.leadsOn_bind (.rootGrantOf run) fun _ _ _ => trivial
  · exact Calm.leadsOn_bind (.rootGrantOf run) fun _ _ _ => trivial
  · exact Calm.leadsOn_bind (.recordStatus run .running) fun _ _ _ => trivial
  · exact Calm.leadsOn_bind (.recordStatus run .requiresAction) fun _ _ _ => trivial
  · exact trivial

theorem beginReadyPass_leadsOn (graph : context.definition.stepGraph = plan.stepGraph)
    (call : AdvanceCall) : LeadsOn plan failedKey view (beginReadyPass context call) := by
  unfold beginReadyPass
  apply listed_leadsOn
  intro existingSteps
  apply ofExcept_leadsOn
  intro readySteps read
  rw [graph, plan.workflowGraphReadySteps_eq] at read
  cases read
  split
  · exact trivial
  · apply ofExcept_leadsOn
    intro limit _
    refine ⟨rfl, fun readyStep member => ?_⟩
    obtain ⟨planStep, isReady, rfl⟩ := List.mem_map.mp member
    obtain ⟨inPlan, isReady⟩ := Plan.mem_ready.mp isReady
    refine ⟨planStep, inPlan, rfl, attemptCount_eq_zero ?_⟩
    simp only [PlanStep.isReady, Bool.and_eq_true, Option.isNone_iff_eq_none] at isReady
    exact isReady.1.1

theorem readyTurn_leadsOn {call : AdvanceCall} {pass : ReadyPass}
    {readyStep : WorkflowGraphReadyStep} {rest : List WorkflowGraphReadyStep}
    (todo : pass.todo = readyStep :: rest)
    (seenBy : (Phase.readyPass call pass).SeenBy plan view) :
    LeadsOn plan failedKey view (readyTurn context call pass readyStep rest) := by
  obtain ⟨seen, each⟩ := seenBy
  rw [todo, List.forall_mem_cons] at each
  obtain ⟨⟨planStep, member, graphStep, none_yet⟩, others⟩ := each
  have restSeen {after : CallView} (sameSeen : after.seen = view.seen) :
      pass.existingSteps = after.seen ∧ ∀ readyStep ∈ rest, ∃ planStep ∈ plan.steps,
        planStep.graphStep = readyStep.graphStep ∧
          workflowGraphStepAttemptCount after.seen planStep.key = 0 := by
    rw [sameSeen]
    exact ⟨seen, others⟩
  unfold readyTurn
  split
  · exact restSeen rfl
  · apply ofExcept_leadsOn
    intro evaluation _
    split
    all_goals
      apply LeavesSeen.leadsOn_bind
        (materialize_leavesSeen member graphStep.symm (.inl none_yet))
      exact fun _ after sameSeen => restSeen sameSeen

theorem failureTurn_leadsOn {call : AdvanceCall} {pass : FailurePass} {graphStep : Json}
    {rest : List Json} (todo : pass.todo = graphStep :: rest)
    (seenBy : (Phase.failurePass call pass).SeenBy plan view) :
    LeadsOn plan failedKey view (failureTurn context call pass graphStep rest) := by
  obtain ⟨seen, each⟩ := seenBy
  rw [todo, List.forall_mem_cons] at each
  obtain ⟨⟨planStep, member, rfl⟩, others⟩ := each
  unfold failureTurn
  apply ofExcept_leadsOn
  intro request read
  rw [failurePolicyRequest_eq] at read
  cases action : planStep.failureAction call.step.stepKey pass.existingSteps with
  | none =>
      rw [action] at read
      cases read
      exact ⟨seen, others⟩
  | some taken =>
      rw [action] at read
      cases read
      have none_yet : workflowGraphStepAttemptCount view.seen planStep.key = 0 := by
        rw [← seen]
        exact attemptCount_eq_zero (failureAction_absent action)
      refine LeavesSeen.leadsOn_bind (materialize_leavesSeen member ?_ (.inl none_yet)) ?_
      · cases taken <;> rfl
      · intro _ after sameSeen
        refine ⟨seen.trans sameSeen.symm, others⟩

/-- A program that creates no step run. -/
def Quiet (plan : Plan) (failedKey : Option String) (program : WorkflowProgram Value) : Prop :=
  ∀ view : CallView, program.Respects CallView.observe (Allowed plan failedKey) view
    fun _ _ => True

theorem Calm.quiet {program : WorkflowProgram Value} (calm : Calm plan failedKey program) :
    Quiet plan failedKey program :=
  fun view => (calm view).mono fun _ _ _ => trivial

theorem Quiet.bind {first : WorkflowProgram Value} {next : Value → WorkflowProgram Next}
    (quiet : Quiet plan failedKey first) (rest : ∀ value, Quiet plan failedKey (next value)) :
    Quiet plan failedKey (first >>= next) :=
  fun view => Program.Respects.bind ((quiet view).mono fun value after _ => rest value after)

theorem Quiet.listSteps (workflowRunId : Uuid) :
    Quiet plan failedKey (AppState.listWorkflowStepRuns workflowRunId) :=
  fun _ => ⟨.of_quiet rfl rfl, fun _ => trivial⟩

theorem finalize_quiet (run : WorkflowRun) :
    Quiet plan failedKey (finalizeWorkflowGraphAfterTransitionPolicy context run) := by
  have recorded (currentRun : WorkflowRun) (status : WorkflowStatus) :
      Quiet plan failedKey (updateWorkflowRunStatusAndRecord currentRun status >>= fun _ =>
        (pure () : WorkflowProgram Unit)) :=
    (Calm.bind (.recordStatus currentRun status) fun _ => .pure ()).quiet
  have completed (graphKeys : List String) (currentRun : WorkflowRun) :
      Quiet plan failedKey (workflowGraphRunCompleted graphKeys currentRun) := by
    unfold workflowGraphRunCompleted
    split
    · exact (Calm.pure false).quiet
    · exact .bind (.listSteps _) fun _ => (Calm.pure _).quiet
  unfold finalizeWorkflowGraphAfterTransitionPolicy
  apply Quiet.bind (Calm.getWorkflowRun run.id).quiet
  intro currentRun
  apply Quiet.bind (Calm.ofExcept _).quiet
  intro graphKeys
  apply Quiet.bind (completed graphKeys currentRun)
  intro isCompleted
  split
  · exact recorded currentRun .completed
  · apply Quiet.bind (.listSteps _)
    intro steps
    split
    · exact recorded currentRun _
    · apply Quiet.bind (.listSteps _)
      intro steps
      exact recorded currentRun _

/-- From every control state that has taken over no more than its call saw, the
call goes on to such a control state. -/
theorem advance_leadsOn (graph : context.definition.stepGraph = plan.stepGraph) {phase : Phase}
    (seenBy : phase.SeenBy plan view) :
    LeadsOn plan failedKey view (phase.advance context) := by
  cases phase with
  | entering run step => exact seenBy.elim
  | readying call => exact beginReadyPass_leadsOn graph call
  | readyPass call pass =>
      simp only [Phase.advance]
      split
      · rename_i readyStep rest todo
        exact readyTurn_leadsOn todo seenBy
      · split <;> exact trivial
  | failing call =>
      simp only [Phase.advance]
      unfold beginFailurePass
      split
      · exact trivial
      · rename_i steps read
        apply listed_leadsOn
        intro existingSteps
        refine ⟨rfl, fun graphStep member => ?_⟩
        have same : plan.steps.map PlanStep.graphStep = steps := by
          rw [← plan.steps_read, ← graph, workflowGraphSteps, read]
          rfl
        rw [← same] at member
        obtain ⟨planStep, inPlan, isSame⟩ := List.mem_map.mp member
        exact ⟨planStep, inPlan, isSame⟩
  | failurePass call pass =>
      simp only [Phase.advance]
      split
      · rename_i graphStep rest todo
        exact failureTurn_leadsOn todo seenBy
      · split <;> exact trivial
  | finalizing run =>
      exact Program.Respects.bind ((finalize_quiet run view).mono fun _ _ _ => trivial)
  | returned => exact trivial
  | finalized => exact trivial

end programs

end MandoForge
