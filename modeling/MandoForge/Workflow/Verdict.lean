/-
Module: MandoForge.Workflow.Verdict
Purpose: What the verdict of a finalization says about the latest attempts.  The
  test for completion looks at the latest step run of each key, the test for
  failure at all step runs there ever were; an attempt that was retried can fail
  a run unless some key has used up its attempts.
Trusted boundary: none
Main exports: VerdictFollowsLatest, AttemptsBounded
-/
import MandoForge.Workflow.Runs

namespace MandoForge

open Foundation

/-! ### The number of attempts -/

/-- No key has more step runs than attempts. -/
def AttemptsBounded (plan : Plan) (rows : List WorkflowStepRun) : Prop :=
  ∀ planStep ∈ plan.steps,
    workflowGraphStepAttemptCount rows planStep.key ≤ planStep.retryPolicy.maxAttempts

section attempts

variable {context : EngineContext} {plan : Plan} {workflowRunId : Uuid}
  {rows after : List WorkflowStepRun} {phase : Phase} {outcome : Except AppError Phase}

theorem attemptCount_eq_zero {key : String}
    (absent : workflowGraphLatestStep rows key = none) :
    workflowGraphStepAttemptCount rows key = 0 := by
  unfold workflowGraphStepAttemptCount
  rw [List.countP_eq_zero]
  simpa using latest_eq_none.mp absent

theorem attemptCount_append (rows : List WorkflowStepRun) (new : WorkflowStepRun)
    (key : String) : workflowGraphStepAttemptCount (rows ++ [new]) key =
      workflowGraphStepAttemptCount rows key + if new.stepKey = key then 1 else 0 := by
  unfold workflowGraphStepAttemptCount
  rw [List.countP_append, List.countP_singleton]
  simp

theorem attemptCount_reportStatus {stepId : Uuid} {status : WorkflowStatus}
    {outputPayload : Json} (key : String) :
    workflowGraphStepAttemptCount (rows.map (reportStatus stepId status outputPayload)) key =
      workflowGraphStepAttemptCount rows key := by
  unfold workflowGraphStepAttemptCount
  rw [List.countP_map]
  congr 1
  funext row
  simp

/-- A step run for a step with attempts left. -/
theorem AttemptsBounded.append {planStep : PlanStep} {new : WorkflowStepRun}
    (bounded : AttemptsBounded plan rows) (member : planStep ∈ plan.steps)
    (key : new.stepKey = planStep.key)
    (remaining : workflowGraphStepAttemptCount rows planStep.key <
      planStep.retryPolicy.maxAttempts) : AttemptsBounded plan (rows ++ [new]) := by
  intro other otherIn
  rw [attemptCount_append]
  split
  · rename_i same
    cases plan.eq_of_key otherIn member (same.symm.trans key)
    exact remaining
  · exact bounded other otherIn

theorem AttemptsBounded.first {planStep : PlanStep} {new : WorkflowStepRun}
    (bounded : AttemptsBounded plan rows) (member : planStep ∈ plan.steps)
    (key : new.stepKey = planStep.key)
    (absent : workflowGraphLatestStep rows planStep.key = none) :
    AttemptsBounded plan (rows ++ [new]) := by
  apply bounded.append member key
  rw [attemptCount_eq_zero absent]
  exact planStep.maxAttempts_pos

theorem Advances.attemptsBounded (advances : Advances context plan rows phase outcome after)
    (coherent : PhaseCoherent plan workflowRunId rows phase)
    (bounded : AttemptsBounded plan rows) : AttemptsBounded plan after := by
  cases advances with
  | refused | succeeded | recorded | unknown | failed | noneReady | someReady | deferred
  | readyPassEnded | noSteps | failureBegun | passedOver | failurePassEnded | finalized
  | ended => exact bounded
  | retried known failed remaining made ended =>
      obtain ⟨member, sameKey⟩ := Plan.stepOf_eq_some.mp known
      apply bounded.append member (made.stepKey_eq rfl)
      rw [sameKey]
      exact remaining
  | branchSkipped todo admits evaluated unmatched made =>
      obtain ⟨-, processed, steps, created, passCoherent⟩ := coherent
      obtain ⟨planStep, rest, rfl, rfl, rfl, isReady, absent⟩ := passCoherent.head todo
      exact bounded.first (Plan.mem_ready.mp isReady).1 (made.stepKey_eq rfl) absent
  | readied todo admits evaluated isMatched made =>
      obtain ⟨-, processed, steps, created, passCoherent⟩ := coherent
      obtain ⟨planStep, rest, rfl, rfl, rfl, isReady, absent⟩ := passCoherent.head todo
      exact bounded.first (Plan.mem_ready.mp isReady).1 (made.stepKey_eq rfl) absent
  | compensated todo action made =>
      obtain ⟨failing, processed, steps, created, passCoherent⟩ := coherent
      obtain ⟨rest, rfl, rfl, member, absent⟩ := passCoherent.head todo
      exact bounded.first member (made.stepKey_eq rfl) (absent (failureAction_absent action))
  | skipped todo action made =>
      obtain ⟨failing, processed, steps, created, passCoherent⟩ := coherent
      obtain ⟨rest, rfl, rfl, member, absent⟩ := passCoherent.head todo
      exact bounded.first member (made.stepKey_eq rfl) (absent (failureAction_absent action))

/-- Of the start steps every key has at most one step run. -/
theorem StartedAs.attempts_le_one {state : EngineState}
    (graph : context.definition.stepGraph = plan.stepGraph)
    (started : StartedAs context workflowRunId state) (key : String) :
    workflowGraphStepAttemptCount (state.rows workflowRunId) key ≤ 1 := by
  have count : workflowGraphStepAttemptCount (state.rows workflowRunId) key =
      ((state.rows workflowRunId).map WorkflowStepRun.stepKey).count key := by
    unfold workflowGraphStepAttemptCount
    rw [List.count, List.countP_map]
    congr 1
  rw [count]
  exact List.nodup_iff_count_le_one.mp (started.keys_nodup graph) key

theorem StartedAs.attemptsBounded {state : EngineState}
    (graph : context.definition.stepGraph = plan.stepGraph)
    (started : StartedAs context workflowRunId state) :
    AttemptsBounded plan (state.rows workflowRunId) :=
  fun planStep _ => (started.attempts_le_one graph planStep.key).trans planStep.maxAttempts_pos

end attempts

/-! ### What the property and its condition look at -/

/-- How often the key failed. -/
def failedAttempts (rows : List WorkflowStepRun) (key : String) : Nat :=
  rows.countP fun row => decide (row.stepKey = key) && decide (row.status = .failed)

/-- Some key failed as often as it may be attempted. -/
def AttemptsExhausted (stepGraph : Json) (rows : List WorkflowStepRun) : Prop :=
  ∃ graphStep ∈ workflowGraphSteps stepGraph, ∃ key ∈ (workflowGraphStepKey graphStep).toOption,
    ∃ policy ∈ (workflowGraphStepRetryPolicy graphStep).toOption,
      failedAttempts rows key = policy.maxAttempts

/-- A finalization that finds a failed step run, and the graph neither running nor
completed, finds a key that is out of attempts. -/
def FailsExhausted (stepGraph : Json) (workflowRunId : Uuid) (event : EngineEvent)
    (state : EngineState) : Prop :=
  match event, state.control with
  | .tick, .ok (.finalizing _) => ∀ graphKeys ∈ (workflowGraphStepKeys stepGraph).toOption,
      graphRunCompleted graphKeys (state.rows workflowRunId) = false →
        terminalFailureStatus (state.rows workflowRunId) = some .failed →
          AttemptsExhausted stepGraph (state.rows workflowRunId)
  | _, _ => True

/-- When a finalization left the run failed (or canceled), the latest step run of
some key is failed (or canceled). -/
def VerdictFollowsLatest (workflowRunId : Uuid) (state : EngineState) : Prop :=
  state.control = .ok .finalized → ∀ status ∈ [WorkflowStatus.failed, .canceled],
    state.world.runStatus workflowRunId = some status →
      ∃ row ∈ state.rows workflowRunId,
        workflowGraphLatestStep (state.rows workflowRunId) row.stepKey = some row ∧
          row.status = status

instance (stepGraph : Json) (rows : List WorkflowStepRun) :
    Decidable (AttemptsExhausted stepGraph rows) := by
  unfold AttemptsExhausted
  infer_instance

instance (stepGraph : Json) (workflowRunId : Uuid) (event : EngineEvent) (state : EngineState) :
    Decidable (FailsExhausted stepGraph workflowRunId event state) := by
  obtain ⟨_, _ | phase⟩ := state
  · rcases event with _ | _ | _ <;> exact instDecidableTrue
  · rcases event with _ | _ | _
    · exact instDecidableTrue
    · rcases phase with _ | _ | _ | _ | _ | _ | _ | _ <;>
        first | exact instDecidableTrue | (delta FailsExhausted; dsimp only; infer_instance)
    · exact instDecidableTrue

/-! ### From the attempts to the latest of them -/

section verdict

variable {plan : Plan} {graphKeys : List String} {rows : List WorkflowStepRun}

theorem finalVerdict_eq_failed : finalVerdict graphKeys rows = .failed ↔
    graphRunCompleted graphKeys rows = false ∧ terminalFailureStatus rows = some .failed := by
  unfold finalVerdict
  split
  · rename_i completed
    simp [completed]
  · rename_i notCompleted
    rw [Bool.not_eq_true] at notCompleted
    split
    · rename_i status found
      simp [notCompleted, found]
    · rename_i found
      simp only [notCompleted, found, reduceCtorEq, and_false, iff_false]
      split <;> simp

theorem finalVerdict_eq_canceled (canceled : finalVerdict graphKeys rows = .canceled) :
    terminalFailureStatus rows = some .canceled := by
  unfold finalVerdict at canceled
  split at canceled
  · cases canceled
  · split at canceled
    · rename_i found
      rw [found, canceled]
    · split at canceled <;> cases canceled

/-- A key that failed as often as it may be attempted failed the last time. -/
theorem latest_failed_of_exhausted {planStep : PlanStep} (member : planStep ∈ plan.steps)
    (bounded : AttemptsBounded plan rows)
    (exhausted : failedAttempts rows planStep.key = planStep.retryPolicy.maxAttempts) :
    ∃ row, workflowGraphLatestStep rows planStep.key = some row ∧ row.status = .failed := by
  have attempts := bounded planStep member
  have positive := planStep.maxAttempts_pos
  have allFailed : ∀ row ∈ rows.filter fun row => decide (row.stepKey = planStep.key),
      decide (row.status = .failed) = true := by
    apply List.countP_eq_length.mp
    apply le_antisymm List.countP_le_length
    rw [← List.countP_eq_length_filter, List.countP_filter]
    unfold failedAttempts at exhausted
    unfold workflowGraphStepAttemptCount at attempts
    simp only [Bool.and_comm] at exhausted ⊢
    omega
  have attempted : 0 < failedAttempts rows planStep.key := by omega
  obtain ⟨first, firstMember, firstKey⟩ := List.countP_pos_iff.mp attempted
  simp only [Bool.and_eq_true, decide_eq_true_eq] at firstKey
  obtain ⟨row, found⟩ := exists_latest firstMember firstKey.1
  obtain ⟨inRows, sameKey⟩ := mem_of_latest found
  have failed := allFailed row (List.mem_filter.mpr ⟨inRows, by simpa using sameKey⟩)
  exact ⟨row, found, of_decide_eq_true failed⟩

/-- A run is failed by its latest attempts when a key is out of attempts. -/
theorem exists_latest_failed (bounded : AttemptsBounded plan rows)
    (exhausted : AttemptsExhausted plan.stepGraph rows) :
    ∃ row ∈ rows, workflowGraphLatestStep rows row.stepKey = some row ∧
      row.status = .failed := by
  obtain ⟨graphStep, inGraph, key, isKey, policy, isPolicy, exhausted⟩ := exhausted
  obtain ⟨planStep, member, rfl⟩ := plan.exists_step inGraph
  rw [planStep.key_read, Except.toOption, Option.mem_some_iff] at isKey
  rw [planStep.retryPolicy_read, Except.toOption, Option.mem_some_iff] at isPolicy
  subst isKey isPolicy
  obtain ⟨row, found, failed⟩ := latest_failed_of_exhausted member bounded exhausted
  obtain ⟨inRows, sameKey⟩ := mem_of_latest found
  exact ⟨row, inRows, by rw [sameKey, found], failed⟩

/-- A canceled step run is the latest one of its key. -/
theorem exists_latest_canceled (ordered : AttemptsOrdered rows)
    (canceled : terminalFailureStatus rows = some .canceled) :
    ∃ row ∈ rows, workflowGraphLatestStep rows row.stepKey = some row ∧
      row.status = .canceled := by
  unfold terminalFailureStatus at canceled
  split at canceled
  · cases canceled
  · split at canceled
    · cases canceled
    · split at canceled
      · rename_i someCanceled
        obtain ⟨row, member, status⟩ := List.any_eq_true.mp someCanceled
        rw [decide_eq_true_iff] at status
        refine ⟨row, member, (failed_or_latest ordered member).resolve_left ?_, status⟩
        rw [status]
        exact nofun
      · cases canceled

/-- The invariant: attempts are bounded, and a failed verdict has an exhausted
key. -/
def FailuresExhausted (plan : Plan) (rows : List WorkflowStepRun)
    (control : Except AppError Phase) : Prop :=
  AttemptsBounded plan rows ∧ (control = .ok .finalized →
    finalVerdict plan.keys rows = .failed → AttemptsExhausted plan.stepGraph rows)

theorem FailuresExhausted.verdictFollowsLatest {workflowRunId : Uuid} {state : EngineState}
    (held : FailuresExhausted plan (state.rows workflowRunId) state.control)
    (coherent : EngineCoherent plan workflowRunId state) :
    VerdictFollowsLatest workflowRunId state := by
  intro ended status isFailure stored
  have verdict := Option.some.inj (stored.symm.trans (coherent.verdict ended))
  simp only [List.mem_cons, List.not_mem_nil, or_false] at isFailure
  rcases isFailure with rfl | rfl
  · exact exists_latest_failed held.1 (held.2 ended verdict.symm)
  · exact exists_latest_canceled coherent.ordered (finalVerdict_eq_canceled verdict.symm)

end verdict

/-! ### Every run -/

variable {context : EngineContext} {workflowRunId : Uuid} {state : EngineState}

/-- The step runs account for the verdict of a run. -/
structure VerdictSettles (stepGraph : Json) (workflowRunId : Uuid) (state : EngineState) :
    Prop where
  /-- Every step run but the latest of its key failed. -/
  retried : ∀ row ∈ state.rows workflowRunId, row.status = .failed ∨
    workflowGraphLatestStep (state.rows workflowRunId) row.stepKey = some row
  /-- A finalization that ends the run finds no step run open. -/
  ended : state.control = .ok .finalized →
    ∀ status ∈ [WorkflowStatus.completed, .failed, .canceled],
      state.world.runStatus workflowRunId = some status →
        ∀ row ∈ state.rows workflowRunId, workflowStepStatusTerminal row.status = true
  /-- A completed run has exactly one success of every key. -/
  completed : state.control = .ok .finalized →
    state.world.runStatus workflowRunId = some .completed →
      ∀ graphKeys ∈ (workflowGraphStepKeys stepGraph).toOption, graphKeys ≠ [] ∧
        ∀ key ∈ graphKeys, ∃ row ∈ state.rows workflowRunId, row.stepKey = key ∧
          workflowStepStatusSuccessful row.status = true ∧
          ∀ other ∈ state.rows workflowRunId, other.stepKey = key →
            other = row ∨ other.status = .failed

theorem latest_successful {graphKeys : List String} {rows : List WorkflowStepRun} {key : String}
    (completed : graphRunCompleted graphKeys rows = true) (isKey : key ∈ graphKeys) :
    ∃ row, workflowGraphLatestStep rows key = some row ∧
      workflowStepStatusSuccessful row.status = true := by
  unfold graphRunCompleted at completed
  rw [Bool.and_eq_true, List.all_eq_true] at completed
  have succeeded := completed.2 key isKey
  rw [Option.any_eq_true] at succeeded
  obtain ⟨status, found, successful⟩ := succeeded
  obtain ⟨row, latest, rfl⟩ := Option.map_eq_some_iff.mp found
  exact ⟨row, latest, successful⟩

theorem finalVerdict_eq_completed {graphKeys : List String} {rows : List WorkflowStepRun}
    (completed : finalVerdict graphKeys rows = .completed) :
    graphRunCompleted graphKeys rows = true := by
  unfold finalVerdict terminalFailureStatus at completed
  split at completed
  · assumption
  · split at completed
    · rename_i status found
      split at found
      · cases found
      · split at found
        · cases found
          cases completed
        · split at found
          · cases found
            cases completed
          · cases found
    · split at completed <;> cases completed

theorem allEnded_of_terminalFailure {rows : List WorkflowStepRun} {status : WorkflowStatus}
    (failure : terminalFailureStatus rows = some status) :
    ∀ row ∈ rows, workflowStepStatusTerminal row.status = true := by
  unfold terminalFailureStatus at failure
  split at failure
  · cases failure
  · rename_i noneOpen
    simpa using noneOpen

theorem EngineCoherent.verdictSettles {plan : Plan} {workflowRunId : Uuid} {state : EngineState}
    (coherent : EngineCoherent plan workflowRunId state) :
    VerdictSettles plan.stepGraph workflowRunId state := by
  have retried : ∀ row ∈ state.rows workflowRunId, row.status = .failed ∨
      workflowGraphLatestStep (state.rows workflowRunId) row.stepKey = some row :=
    fun row => failed_or_latest coherent.ordered
  have ended (completed : graphRunCompleted plan.keys (state.rows workflowRunId) = true) :
      ∀ row ∈ state.rows workflowRunId, workflowStepStatusTerminal row.status = true := by
    intro row member
    obtain ⟨last, isLast, successful⟩ := latest_successful completed (coherent.known row member)
    rcases retried row member with failed | latest
    · rw [failed]
      rfl
    · cases isLast.symm.trans latest
      revert successful
      cases row.status <;> decide
  refine ⟨retried, fun finalized status isFinal stored => ?_, fun finalized stored => ?_⟩
  · have verdict := Option.some.inj (stored.symm.trans (coherent.verdict finalized))
    simp only [List.mem_cons, List.not_mem_nil, or_false] at isFinal
    rcases isFinal with rfl | rfl | rfl
    · exact ended (finalVerdict_eq_completed verdict.symm)
    · exact allEnded_of_terminalFailure (finalVerdict_eq_failed.mp verdict.symm).2
    · exact allEnded_of_terminalFailure (finalVerdict_eq_canceled verdict.symm)
  · have verdict := Option.some.inj (stored.symm.trans (coherent.verdict finalized))
    have completed := finalVerdict_eq_completed verdict.symm
    rw [plan.workflowGraphStepKeys_eq]
    rintro graphKeys isKeys
    cases Option.some.inj isKeys
    refine ⟨?_, fun key isKey => ?_⟩
    · rintro noKeys
      rw [noKeys] at completed
      cases completed
    · obtain ⟨row, latest, successful⟩ := latest_successful completed isKey
      obtain ⟨member, sameKey⟩ := mem_of_latest latest
      refine ⟨row, member, sameKey, successful, fun other inRows otherKey => ?_⟩
      rcases retried other inRows with failed | isLatest
      · exact .inr failed
      · rw [otherKey, latest] at isLatest
        exact .inl (Option.some.inj isLatest).symm

/-- In every run a terminal verdict waits for the last step run, and a completed run has
one success for every key of its graph. -/
theorem terminal_verdict_settles {events : List EngineEvent}
    (accepted : validateWorkflowGraphDefinition context.host context.definition.stepGraph =
      .ok ()) (started : StartedAs context workflowRunId state) :
    HeldAlong (EngineEvent.perform context workflowRunId)
      (VerdictSettles context.definition.stepGraph workflowRunId) events state := by
  obtain ⟨plan, same⟩ := exists_plan_of_accepted accepted
  rw [← same]
  have along : HeldAlong (EngineEvent.perform context workflowRunId)
      (EngineCoherent plan workflowRunId) events state := by
    refine heldAlong_of_step ?_ (started.coherent same.symm) metAlong_trivial
    intro event state _ coherent
    exact coherent.perform same.symm event
  exact along.mono fun _ => EngineCoherent.verdictSettles

/-! ### How many step runs there are -/

/-- How many step runs the retry policies of a graph allow a run. -/
def allowedAttempts (stepGraph : Json) : Nat :=
  (workflowGraphSteps stepGraph).foldr (fun graphStep total =>
    ((workflowGraphStepRetryPolicy graphStep).toOption.map
      WorkflowGraphRetryPolicy.maxAttempts).getD 0 + total) 0

theorem length_le_sum_attempts {steps : List PlanStep} {rows : List WorkflowStepRun}
    (bounded : ∀ step ∈ steps, workflowGraphStepAttemptCount rows step.key ≤
      step.retryPolicy.maxAttempts)
    (known : ∀ row ∈ rows, row.stepKey ∈ steps.map PlanStep.key) :
    rows.length ≤ steps.foldr (fun step total => step.retryPolicy.maxAttempts + total) 0 := by
  induction steps generalizing rows with
  | nil => simpa [List.eq_nil_iff_forall_not_mem] using known
  | cons step steps inductionHypothesis =>
      obtain ⟨attempts, bounded⟩ := List.forall_mem_cons.mp bounded
      have others := @inductionHypothesis
        (rows.filter fun row => !decide (row.stepKey = step.key))
        (fun other member => List.filter_sublist.countP_le.trans (bounded other member))
        fun row member => by
          obtain ⟨inRows, other⟩ := List.mem_filter.mp member
          exact (List.mem_cons.mp (known row inRows)).resolve_left (by simpa using other)
      have total := List.length_eq_countP_add_countP
        (fun row : WorkflowStepRun => decide (row.stepKey = step.key)) (l := rows)
      rw [← List.countP_eq_length_filter] at others
      unfold workflowGraphStepAttemptCount at attempts
      rw [List.foldr_cons]
      simp only [Bool.decide_eq_true, decide_not] at total
      omega

theorem AttemptsBounded.length_le {plan : Plan} {rows : List WorkflowStepRun}
    (bounded : AttemptsBounded plan rows) (known : ∀ row ∈ rows, row.stepKey ∈ plan.keys) :
    rows.length ≤ allowedAttempts plan.stepGraph := by
  have total := length_le_sum_attempts bounded known
  unfold allowedAttempts
  rw [plan.steps_read, List.foldr_map]
  convert total using 4
  simp [PlanStep.retryPolicy_read, Except.toOption]

/-- A run makes no more step runs than the retry policies of its graph allow. -/
theorem step_runs_within_policies {events : List EngineEvent}
    (accepted : validateWorkflowGraphDefinition context.host context.definition.stepGraph =
      .ok ()) (started : StartedAs context workflowRunId state) :
    HeldAlong (EngineEvent.perform context workflowRunId) (fun state =>
      (state.rows workflowRunId).length ≤ allowedAttempts context.definition.stepGraph)
      events state := by
  obtain ⟨plan, same⟩ := exists_plan_of_accepted accepted
  rw [← same]
  refine (heldAlong_of_turns (fun rows _ => AttemptsBounded plan rows) same.symm started
    (started.attemptsBounded same.symm) ?_ ?_ metAlong_trivial).mono
    fun _ held => held.2.length_le held.1.known
  · intro state run step status outputPayload _ _ _ _ _ bounded planStep member
    rw [attemptCount_reportStatus]
    exact bounded planStep member
  · intro state phase outcome after coherent control _ advances bounded
    exact advances.attemptsBounded (coherent.control phase control) bounded

/-! ### A step with a second attempt -/

def chargeTwice : Json :=
  graphOf [("charge", [("retry", .ofFields [("max_attempts", .ofNat 2)])]),
    ("refund", [("on_failure_of", .string "charge")])]

/-- The charge fails once and succeeds, and there is nothing to refund. -/
theorem retried_charge_settles :
    HeldAlong (EngineEvent.perform (plainContext chargeTwice) 1) (VerdictSettles chargeTwice 1)
      (reportAndRun 5 .failed 1 ++ reportAndRun 6 .completed 4) (plainStart chargeTwice) :=
  terminal_verdict_settles (by decide +kernel) (startedAs_plain (by decide +kernel))

theorem charge_and_refund_take_three :
    HeldAlong (EngineEvent.perform (plainContext chargeTwice) 1)
      (fun state => (state.rows 1).length ≤ allowedAttempts chargeTwice)
      (reportAndRun 5 .failed 1 ++ reportAndRun 6 .failed 8) (plainStart chargeTwice) :=
  step_runs_within_policies (by decide +kernel) (startedAs_plain (by decide +kernel))

end MandoForge
