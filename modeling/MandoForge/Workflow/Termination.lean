/-
Module: MandoForge.Workflow.Termination
Purpose: The two loops of the engine end.  Every iteration but the last one gives a step run
  to a key without one, so there is at most one iteration more than there are steps, on
  any step runs and on graphs with cycles.
Trusted boundary: as in `Engine`; a call takes its turns one after the other.
Main exports: engineLoop, advancement_terminates
-/
import MandoForge.Foundation.Descent
import MandoForge.Workflow.Runs

namespace MandoForge

open Foundation

/-! ### The loops -/

/-- A control state inside one of the two loops. -/
def Phase.inLoop : Phase → Bool
  | .readying _ | .readyPass _ _ | .failing _ | .failurePass _ _ => true
  | _ => false

/-- A control state in which an iteration of a loop begins. -/
def Phase.beginsIteration : Phase → Bool
  | .readying _ | .failing _ => true
  | _ => false

/-- What holds of the control state of the call; of an ended call, nothing. -/
def EngineState.isAt (state : EngineState) (test : Phase → Bool) : Bool :=
  match state.control with
  | .ok phase => test phase
  | .error _ => false

/-- The loop that a call is in, turn by turn; an error ends it. -/
def engineLoop (context : EngineContext) (workflowRunId : Uuid) : Loop EngineState where
  step := EngineEvent.tick.perform context workflowRunId
  inside state := state.isAt Phase.inLoop
  marked state := state.isAt Phase.beginsIteration

/-- What a turn does to step runs: nothing, or it adds one for a key of the graph that had
none. -/
def AddsForNewKey (stepGraph : Json) (before after : List WorkflowStepRun) : Prop :=
  after = before ∨ ∃ new : WorkflowStepRun, after = before ++ [new] ∧
    (∃ graphStep ∈ workflowGraphSteps stepGraph,
      workflowGraphStepKey graphStep = .ok new.stepKey) ∧
    workflowGraphLatestStep before new.stepKey = none

/-- A pass agrees with the step runs, whatever step runs there were before it. -/
def LoopCoherent (plan : Plan) (workflowRunId : Uuid) (rows : List WorkflowStepRun) :
    Phase → Prop
  | .readying call | .failing call => call.run.id = workflowRunId
  | .readyPass call pass => call.run.id = workflowRunId ∧
      ∃ processed todo created, ReadyPassCoherent plan rows pass processed todo created
  | .failurePass call pass => call.run.id = workflowRunId ∧
      ∃ processed todo created,
        FailurePassCoherent plan rows call.step.stepKey pass processed todo created
  | _ => True

/-! ### What is left to do -/

/-- How many steps of the plan have no step run. -/
def Plan.unstarted (plan : Plan) (rows : List WorkflowStepRun) : Nat :=
  plan.steps.countP fun step => (workflowGraphLatestStep rows step.key).isNone

/-- How many iterations can still begin. -/
def Phase.iterationsLeft (plan : Plan) (rows : List WorkflowStepRun) : Phase → Nat
  | .readying _ | .failing _ => plan.unstarted rows + 1
  | .readyPass _ pass => plan.unstarted rows + if pass.materializedAny then 1 else 0
  | .failurePass _ pass => plan.unstarted rows + if pass.materializedAny then 1 else 0
  | _ => 0

/-- How many turns a pass has still before it, its end included. -/
def Phase.passLeft : Phase → Nat
  | .readyPass _ pass => pass.todo.length + 1
  | .failurePass _ pass => pass.todo.length + 1
  | _ => 0

/-- The measure of the loops: an iteration takes at most two turns more than there are
steps. -/
def Phase.turnsLeft (plan : Plan) (rows : List WorkflowStepRun) (phase : Phase) : Nat :=
  phase.iterationsLeft plan rows * (plan.steps.length + 2) + phase.passLeft

section turns

variable {context : EngineContext} {plan : Plan} {workflowRunId : Uuid}
  {rows after : List WorkflowStepRun} {phase next : Phase} {outcome : Except AppError Phase}

theorem Plan.unstarted_le (plan : Plan) (rows : List WorkflowStepRun) :
    plan.unstarted rows ≤ plan.steps.length := List.countP_le_length

/-- A step run for a key without one leaves fewer steps unstarted. -/
theorem Plan.unstarted_append {planStep : PlanStep} {new : WorkflowStepRun}
    (member : planStep ∈ plan.steps) (key : new.stepKey = planStep.key)
    (absent : workflowGraphLatestStep rows planStep.key = none) :
    plan.unstarted (rows ++ [new]) + 1 ≤ plan.unstarted rows := by
  have fewer : ∀ step : PlanStep, (workflowGraphLatestStep (rows ++ [new]) step.key).isNone →
      (workflowGraphLatestStep rows step.key).isNone := by
    intro step still
    rw [latest_append] at still
    split at still
    · cases still
    · exact still
  obtain ⟨earlier, later, split⟩ := List.append_of_mem member
  have first := List.countP_mono_left (l := earlier) fun step _ => fewer step
  have last := List.countP_mono_left (l := later) fun step _ => fewer step
  unfold Plan.unstarted
  rw [split]
  simp only [List.countP_append, List.countP_cons, latest_append, key, absent, if_true,
    Option.isNone_some, Option.isNone_none, Bool.false_eq_true, if_false] at first last ⊢
  omega

theorem Phase.turnsLeft_lt (enough : next.passLeft ≤ plan.steps.length + 1)
    (lower : next.iterationsLeft plan after + 1 ≤ phase.iterationsLeft plan rows ∨
      (next.iterationsLeft plan after ≤ phase.iterationsLeft plan rows ∧
        next.passLeft < phase.passLeft)) :
    next.turnsLeft plan after < phase.turnsLeft plan rows := by
  unfold Phase.turnsLeft
  rcases lower with begun | ⟨sameIterations, shorter⟩
  · have fewer := Nat.mul_le_mul_right (plan.steps.length + 2) begun
    rw [Nat.add_mul, Nat.one_mul] at fewer
    omega
  · have fewer := Nat.mul_le_mul_right (plan.steps.length + 2) sameIterations
    omega

/-- What a turn leaves of the loop. -/
structure LoopTurn (plan : Plan) (workflowRunId : Uuid) (rows after : List WorkflowStepRun)
    (phase next : Phase) : Prop where
  coherent : LoopCoherent plan workflowRunId after next
  pays : next.iterationsLeft plan after + (if phase.beginsIteration then 1 else 0) ≤
    phase.iterationsLeft plan rows
  lowers : next.turnsLeft plan after < phase.turnsLeft plan rows

theorem LoopTurn.of_shorter (coherent : LoopCoherent plan workflowRunId after next)
    (short : phase.passLeft ≤ plan.steps.length + 1) (shorter : next.passLeft + 1 = phase.passLeft)
    (kept : next.iterationsLeft plan after ≤ phase.iterationsLeft plan rows)
    (goesOn : phase.beginsIteration = false) :
    LoopTurn plan workflowRunId rows after phase next := by
  refine ⟨coherent, by rwa [goesOn], ?_⟩
  apply Phase.turnsLeft_lt
  · omega
  · exact .inr ⟨kept, by omega⟩

theorem ready_length_le (plan : Plan) (rows : List WorkflowStepRun) :
    (plan.ready rows).length ≤ plan.steps.length := List.length_filter_le ..

namespace ReadyPassCoherent

variable {pass : ReadyPass} {processed todo : List PlanStep} {created : List WorkflowStepRun}

theorem todo_length (coherent : ReadyPassCoherent plan rows pass processed todo created) :
    pass.todo.length ≤ plan.steps.length := by
  have ready := ready_length_le plan pass.existingSteps
  rw [coherent.split, List.length_append] at ready
  rw [coherent.todo, List.length_map]
  omega

end ReadyPassCoherent

namespace FailurePassCoherent

variable {pass : FailurePass} {failedKey : String} {processed todo : List PlanStep}
  {created : List WorkflowStepRun}

theorem todo_length
    (coherent : FailurePassCoherent plan rows failedKey pass processed todo created) :
    pass.todo.length ≤ plan.steps.length := by
  rw [coherent.todo, List.length_map, coherent.split, List.length_append]
  omega

end FailurePassCoherent

theorem addsForNewKey_of_absent {planStep : PlanStep} {new : WorkflowStepRun}
    (member : planStep ∈ plan.steps) (key : new.stepKey = planStep.key)
    (absent : workflowGraphLatestStep rows planStep.key = none) :
    AddsForNewKey plan.stepGraph rows (rows ++ [new]) := by
  refine .inr ⟨new, rfl, ⟨planStep.graphStep, ?_, key ▸ planStep.key_read⟩, key ▸ absent⟩
  rw [plan.steps_read]
  exact List.mem_map_of_mem member

/-- A turn inside a loop adds step runs only for keys without one. -/
theorem Advances.addsForNewKey (advances : Advances context plan rows phase outcome after)
    (coherent : LoopCoherent plan workflowRunId rows phase) (inside : phase.inLoop = true) :
    AddsForNewKey plan.stepGraph rows after := by
  cases advances with
  | refused | noneReady | someReady | deferred | readyPassEnded | noSteps | failureBegun
  | passedOver | failurePassEnded => exact .inl rfl
  | succeeded | recorded | unknown | retried | failed | finalized => cases inside
  | ended isEnd => exact .inl rfl
  | branchSkipped todo admits evaluated unmatched made =>
      obtain ⟨-, processed, steps, created, passCoherent⟩ := coherent
      obtain ⟨planStep, rest, rfl, rfl, rfl, isReady, absent⟩ := passCoherent.head todo
      exact addsForNewKey_of_absent (Plan.mem_ready.mp isReady).1 (made.stepKey_eq rfl) absent
  | readied todo admits evaluated isMatched made =>
      obtain ⟨-, processed, steps, created, passCoherent⟩ := coherent
      obtain ⟨planStep, rest, rfl, rfl, rfl, isReady, absent⟩ := passCoherent.head todo
      exact addsForNewKey_of_absent (Plan.mem_ready.mp isReady).1 (made.stepKey_eq rfl) absent
  | compensated todo action made =>
      obtain ⟨-, processed, steps, created, passCoherent⟩ := coherent
      obtain ⟨rest, rfl, rfl, member, absent⟩ := passCoherent.head todo
      exact addsForNewKey_of_absent member (made.stepKey_eq rfl)
        (absent (failureAction_absent action))
  | skipped todo action made =>
      obtain ⟨-, processed, steps, created, passCoherent⟩ := coherent
      obtain ⟨rest, rfl, rfl, member, absent⟩ := passCoherent.head todo
      exact addsForNewKey_of_absent member (made.stepKey_eq rfl)
        (absent (failureAction_absent action))

/-- A turn that stays inside keeps the pass coherent, pays for the iteration it begins and
lowers the measure. -/
theorem Advances.loopTurn (advances : Advances context plan rows phase outcome after)
    (coherent : LoopCoherent plan workflowRunId rows phase) (inside : phase.inLoop = true)
    (ended : outcome = .ok next) (stays : next.inLoop = true) :
    LoopTurn plan workflowRunId rows after phase next := by
  cases advances with
  | refused => cases ended
  | noneReady | noSteps =>
      cases ended
      cases stays
  | succeeded | recorded | unknown | retried | failed | finalized => cases inside
  | ended isEnd =>
      rcases isEnd with rfl | rfl <;> cases inside
  | someReady some_ready =>
      cases ended
      have short := ready_length_le plan rows
      refine ⟨⟨coherent, _, _, _, .start some_ready⟩, Nat.le_refl _, ?_⟩
      apply Phase.turnsLeft_lt
      · simp [Phase.passLeft, ReadyPass.start, short]
      · exact .inl (Nat.le_refl _)
  | deferred todo defers =>
      cases ended
      obtain ⟨ofRun, processed, steps, created, passCoherent⟩ := coherent
      have short := Nat.succ_le_succ passCoherent.todo_length
      obtain ⟨planStep, rest, rfl, rfl, rfl, -, -⟩ := passCoherent.head todo
      exact .of_shorter ⟨ofRun, _, _, _, passCoherent.defer defers⟩ short
        (by simp [Phase.passLeft, todo]) (Nat.le_refl _) rfl
  | branchSkipped todo admits evaluated unmatched made =>
      cases ended
      obtain ⟨ofRun, processed, steps, created, passCoherent⟩ := coherent
      have short := Nat.succ_le_succ passCoherent.todo_length
      obtain ⟨planStep, rest, rfl, rfl, rfl, isReady, absent⟩ := passCoherent.head todo
      have key := made.stepKey_eq (show _ = planStep.graphStep from rfl)
      have fewer := Plan.unstarted_append (Plan.mem_ready.mp isReady).1 key absent
      exact .of_shorter
        ⟨ofRun, _, _, _, passCoherent.create key (by rw [made.inactive rfl]; rfl)⟩ short
        (by simp [Phase.passLeft, todo]) (Nat.le_trans fewer (Nat.le_add_right ..)) rfl
  | readied todo admits evaluated isMatched made =>
      cases ended
      obtain ⟨ofRun, processed, steps, created, passCoherent⟩ := coherent
      have short := Nat.succ_le_succ passCoherent.todo_length
      obtain ⟨planStep, rest, rfl, rfl, rfl, isReady, absent⟩ := passCoherent.head todo
      have key := made.stepKey_eq (show _ = planStep.graphStep from rfl)
      have fewer := Plan.unstarted_append (Plan.mem_ready.mp isReady).1 key absent
      exact .of_shorter
        ⟨ofRun, _, _, _, passCoherent.create key (by rw [made.isActive (.inl rfl)]; rfl)⟩ short
        (by simp [Phase.passLeft, todo]) (Nat.le_trans fewer (Nat.le_add_right ..)) rfl
  | readyPassEnded todo =>
      split at ended
      next some_made =>
        cases ended
        refine ⟨coherent.1, ?_, Phase.turnsLeft_lt (Nat.zero_le _) (.inr ⟨?_, ?_⟩)⟩ <;>
          simp [Phase.iterationsLeft, Phase.beginsIteration, Phase.passLeft, some_made]
      next =>
        cases ended
        cases stays
  | failureBegun =>
      cases ended
      refine ⟨⟨coherent, _, _, _, .start⟩, Nat.le_refl _, ?_⟩
      apply Phase.turnsLeft_lt
      · simp [Phase.passLeft]
      · exact .inl (Nat.le_refl _)
  | passedOver todo noAction =>
      cases ended
      obtain ⟨ofRun, processed, steps, created, passCoherent⟩ := coherent
      have short := Nat.succ_le_succ passCoherent.todo_length
      obtain ⟨rest, rfl, rfl, -, -⟩ := passCoherent.head todo
      exact .of_shorter ⟨ofRun, _, _, _, passCoherent.pass_over noAction⟩ short
        (by simp [Phase.passLeft, todo]) (Nat.le_refl _) rfl
  | compensated todo action made =>
      cases ended
      obtain ⟨ofRun, processed, steps, created, passCoherent⟩ := coherent
      have short := Nat.succ_le_succ passCoherent.todo_length
      obtain ⟨rest, rfl, rfl, member, absent⟩ := passCoherent.head todo
      have key := made.stepKey_eq rfl
      have fewer := Plan.unstarted_append member key (absent (failureAction_absent action))
      exact .of_shorter ⟨ofRun, _, _, _, passCoherent.create key⟩ short
        (by simp [Phase.passLeft, todo]) (Nat.le_trans fewer (Nat.le_add_right ..)) rfl
  | skipped todo action made =>
      cases ended
      obtain ⟨ofRun, processed, steps, created, passCoherent⟩ := coherent
      have short := Nat.succ_le_succ passCoherent.todo_length
      obtain ⟨rest, rfl, rfl, member, absent⟩ := passCoherent.head todo
      have key := made.stepKey_eq rfl
      have fewer := Plan.unstarted_append member key (absent (failureAction_absent action))
      exact .of_shorter ⟨ofRun, _, _, _, passCoherent.create key⟩ short
        (by simp [Phase.passLeft, todo]) (Nat.le_trans fewer (Nat.le_add_right ..)) rfl
  | failurePassEnded todo =>
      split at ended
      next some_made =>
        cases ended
        refine ⟨coherent.1, ?_, Phase.turnsLeft_lt (Nat.zero_le _) (.inr ⟨?_, ?_⟩)⟩ <;>
          simp [Phase.iterationsLeft, Phase.beginsIteration, Phase.passLeft, some_made]
      next =>
        cases ended
        cases stays

end turns

/-! ### The loops end -/

section loops

variable {context : EngineContext} {plan : Plan} {workflowRunId : Uuid} {state : EngineState}

/-- The control state agrees with the step runs of the run. -/
def StateCoherent (plan : Plan) (workflowRunId : Uuid) (state : EngineState) : Prop :=
  ∀ phase, state.control = .ok phase →
    LoopCoherent plan workflowRunId (state.rows workflowRunId) phase

def EngineState.turnsLeft (plan : Plan) (workflowRunId : Uuid) (state : EngineState) : Nat :=
  match state.control with
  | .ok phase => phase.turnsLeft plan (state.rows workflowRunId)
  | .error _ => 0

def EngineState.iterationsLeft (plan : Plan) (workflowRunId : Uuid) (state : EngineState) :
    Nat :=
  match state.control with
  | .ok phase => phase.iterationsLeft plan (state.rows workflowRunId)
  | .error _ => 0

theorem LoopCoherent.ofRun {rows : List WorkflowStepRun} {phase : Phase}
    (coherent : LoopCoherent plan workflowRunId rows phase) (inside : phase.inLoop = true) :
    ∀ run, phase.run? = some run → run.id = workflowRunId := by
  intro run isRun
  cases phase with
  | readying | failing =>
      cases isRun
      exact coherent
  | readyPass | failurePass =>
      cases isRun
      exact coherent.1
  | _ => cases inside

theorem LoopCoherent.todoRead {rows : List WorkflowStepRun} {phase : Phase}
    (coherent : LoopCoherent plan workflowRunId rows phase) : phase.todoRead plan := by
  cases phase with
  | failurePass call pass =>
      obtain ⟨-, processed, todo, created, passCoherent⟩ := coherent
      intro graphStep isTodo
      rw [passCoherent.todo] at isTodo
      obtain ⟨planStep, member, same⟩ := List.mem_map.mp isTodo
      exact ⟨planStep, by rw [passCoherent.split]; exact List.mem_append_right _ member, same⟩
  | _ => trivial

theorem tick_advances (graph : context.definition.stepGraph = plan.stepGraph)
    (coherent : StateCoherent plan workflowRunId state)
    (inside : (engineLoop context workflowRunId).inside state = true) :
    ∃ phase, state.control = .ok phase ∧ phase.inLoop = true ∧
      Advances context plan (state.rows workflowRunId) phase
        ((engineLoop context workflowRunId).step state).control
        (((engineLoop context workflowRunId).step state).rows workflowRunId) := by
  obtain ⟨world, control⟩ := state
  cases control with
  | error error => cases inside
  | ok phase =>
      have phaseCoherent := coherent phase rfl
      exact ⟨phase, rfl, inside, advance_advances graph (phaseCoherent.ofRun inside)
        phaseCoherent.todoRead world⟩

theorem exists_phase {test : Phase → Bool} (isAt : state.isAt test = true) :
    ∃ phase, state.control = .ok phase ∧ test phase = true := by
  unfold EngineState.isAt at isAt
  split at isAt
  next phase control => exact ⟨phase, control, isAt⟩
  next => cases isAt

theorem isAt_of_control {phase : Phase} (control : state.control = .ok phase)
    (test : Phase → Bool) : state.isAt test = test phase := by
  unfold EngineState.isAt
  rw [control]

theorem iterationsLeft_of_control {phase : Phase} (control : state.control = .ok phase) :
    state.iterationsLeft plan workflowRunId =
      phase.iterationsLeft plan (state.rows workflowRunId) := by
  unfold EngineState.iterationsLeft
  rw [control]

theorem tick_loopTurn (graph : context.definition.stepGraph = plan.stepGraph)
    (coherent : StateCoherent plan workflowRunId state)
    (inside : (engineLoop context workflowRunId).inside state = true)
    (stays : (engineLoop context workflowRunId).inside
      ((engineLoop context workflowRunId).step state) = true) :
    ∃ phase next, state.control = .ok phase ∧
      ((engineLoop context workflowRunId).step state).control = .ok next ∧
      LoopTurn plan workflowRunId (state.rows workflowRunId)
        (((engineLoop context workflowRunId).step state).rows workflowRunId) phase next := by
  obtain ⟨phase, control, inLoop, advances⟩ := tick_advances graph coherent inside
  obtain ⟨next, nextControl, nextInLoop⟩ := exists_phase stays
  exact ⟨phase, next, control, nextControl,
    advances.loopTurn (coherent phase control) inLoop nextControl nextInLoop⟩

theorem engineLoop_descends (graph : context.definition.stepGraph = plan.stepGraph) :
    (engineLoop context workflowRunId).Descends (StateCoherent plan workflowRunId)
      (EngineState.turnsLeft plan workflowRunId)
      (EngineState.iterationsLeft plan workflowRunId) := by
  constructor
  case keeps =>
    intro state coherent inside stays
    obtain ⟨phase, next, -, nextControl, turn⟩ := tick_loopTurn graph coherent inside stays
    intro found isControl
    cases nextControl.symm.trans isControl
    exact turn.coherent
  case lowers =>
    intro state coherent inside stays
    obtain ⟨phase, next, control, nextControl, turn⟩ := tick_loopTurn graph coherent inside stays
    unfold EngineState.turnsLeft
    rw [control, nextControl]
    exact turn.lowers
  case pays =>
    intro state coherent inside
    split
    next stays =>
      obtain ⟨phase, next, control, nextControl, turn⟩ :=
        tick_loopTurn graph coherent inside stays
      have marked : (engineLoop context workflowRunId).marked state = phase.beginsIteration :=
        isAt_of_control control _
      rw [iterationsLeft_of_control control, iterationsLeft_of_control nextControl, marked]
      exact turn.pays
    next =>
      obtain ⟨phase, control, inLoop⟩ := exists_phase inside
      have marked : (engineLoop context workflowRunId).marked state = phase.beginsIteration :=
        isAt_of_control control _
      rw [iterationsLeft_of_control control, marked]
      cases phase <;> simp [Phase.beginsIteration, Phase.iterationsLeft]

end loops

def mutualPair : Json :=
  graphOf [("first", [("depends_on", .ofStrings ["second"])]),
    ("second", [("depends_on", .ofStrings ["first"])])]

/-- A step run of the first of them that completed. -/
def firstCompleted : WorkflowStepRun where
  id := 5
  workflowRunId := 1
  stepKey := "first"
  stepType := "agent"
  agentId := none
  agentVersionId := none
  sessionId := none
  threadId := none
  taskGrantId := none
  environmentId := none
  status := .completed
  inputPayload := emptyJsonObject
  outputPayload := emptyJsonObject
  claimedByWorker := none
  claimOwnerVersion := 0
  leaseExpiresAt := none
  scheduledAt := none

def mutualCall : AdvanceCall := ⟨plainRun, firstCompleted, plainGrant⟩

end MandoForge
