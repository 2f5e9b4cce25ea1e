/-
Module: MandoForge.Workflow.StepRuns
Purpose: Lists of step runs as the engine grows them: a new step run at the end,
  or a new status for one that is there.  What each of the two does to the latest
  step run of a key, and the order that all reachable lists keep.
Trusted boundary: none
Main exports: latest_append, latest_reportStatus
-/
import MandoForge.Workflow.Graph
import Mathlib.Data.List.Induction
import Mathlib.Data.List.Nodup

namespace MandoForge

variable {rows : List WorkflowStepRun} {step new : WorkflowStepRun} {key : String}

/-! ### The latest step run of a key -/

theorem latest_append (rows : List WorkflowStepRun) (new : WorkflowStepRun) (key : String) :
    workflowGraphLatestStep (rows ++ [new]) key =
      if new.stepKey = key then some new else workflowGraphLatestStep rows key := by
  unfold workflowGraphLatestStep
  rw [List.reverse_append, List.reverse_singleton, List.singleton_append, List.find?_cons]
  by_cases same : new.stepKey = key <;> simp [same]

theorem latest_append_of_ne {created : List WorkflowStepRun}
    (other : ∀ row ∈ created, row.stepKey ≠ key) :
    workflowGraphLatestStep (rows ++ created) key = workflowGraphLatestStep rows key := by
  induction created using List.reverseRecOn with
  | nil => rw [List.append_nil]
  | append_singleton created last inductionHypothesis =>
      rw [List.forall_mem_append] at other
      rw [← List.append_assoc, latest_append, if_neg (other.2 last (List.mem_singleton_self last))]
      exact inductionHypothesis other.1

theorem latest_eq_none :
    workflowGraphLatestStep rows key = none ↔ ∀ row ∈ rows, row.stepKey ≠ key := by
  simp [workflowGraphLatestStep]

theorem mem_of_latest (found : workflowGraphLatestStep rows key = some step) :
    step ∈ rows ∧ step.stepKey = key := by
  unfold workflowGraphLatestStep at found
  have member := List.mem_of_find?_eq_some found
  have same := List.find?_some found
  exact ⟨List.mem_reverse.mp member, by simpa using same⟩

theorem exists_latest (member : step ∈ rows) (same : step.stepKey = key) :
    ∃ latest, workflowGraphLatestStep rows key = some latest := by
  rw [← Option.ne_none_iff_exists']
  intro absent
  exact latest_eq_none.mp absent step member same

theorem latest_map {change : WorkflowStepRun → WorkflowStepRun}
    (keeps : ∀ row, (change row).stepKey = row.stepKey) :
    workflowGraphLatestStep (rows.map change) key =
      (workflowGraphLatestStep rows key).map change := by
  unfold workflowGraphLatestStep
  rw [← List.map_reverse, List.find?_map]
  simp only [Function.comp_def, keeps]

theorem isSome_latest_append : (workflowGraphLatestStep (rows ++ [new]) key).isSome =
    (decide (new.stepKey = key) || (workflowGraphLatestStep rows key).isSome) := by
  rw [latest_append]
  by_cases same : new.stepKey = key <;> simp [same]

/-! ### A new status for a step run -/

/-- The step run of an id gets a status and an output. -/
def reportStatus (stepId : Uuid) (status : WorkflowStatus) (outputPayload : Json)
    (row : WorkflowStepRun) : WorkflowStepRun :=
  if row.id = stepId then { row with status, outputPayload } else row

section reportStatus

variable {stepId : Uuid} {status : WorkflowStatus} {outputPayload : Json}

@[simp] theorem reportStatus_stepKey (row : WorkflowStepRun) :
    (reportStatus stepId status outputPayload row).stepKey = row.stepKey := by
  unfold reportStatus
  split <;> rfl

@[simp] theorem reportStatus_inputPayload (row : WorkflowStepRun) :
    (reportStatus stepId status outputPayload row).inputPayload = row.inputPayload := by
  unfold reportStatus
  split <;> rfl

theorem reportStatus_of_ne {row : WorkflowStepRun} (other : row.id ≠ stepId) :
    reportStatus stepId status outputPayload row = row := if_neg other

theorem reportStatus_self (row : WorkflowStepRun) :
    reportStatus row.id status outputPayload row = { row with status, outputPayload } :=
  if_pos rfl

theorem latest_reportStatus :
    workflowGraphLatestStep (rows.map (reportStatus stepId status outputPayload)) key =
      (workflowGraphLatestStep rows key).map (reportStatus stepId status outputPayload) :=
  latest_map reportStatus_stepKey

theorem mem_reportStatus_of_terminal {row : WorkflowStepRun} (member : row ∈ rows)
    (terminal : workflowStepStatusTerminal row.status = true) (stepMember : step ∈ rows)
    (isOpen : workflowStepStatusTerminal step.status = false)
    (distinct : (rows.map WorkflowStepRun.id).Nodup) :
    row ∈ rows.map (reportStatus step.id status outputPayload) := by
  have other : row.id ≠ step.id := by
    intro same
    rw [List.inj_on_of_nodup_map distinct member stepMember same, isOpen] at terminal
    cases terminal
  have same : reportStatus step.id status outputPayload row = row := reportStatus_of_ne other
  rw [← same]
  exact List.mem_map_of_mem member

/-- A step run after a report is the one that reported, or it was there before. -/
theorem mem_reportStatus {row : WorkflowStepRun} (distinct : (rows.map WorkflowStepRun.id).Nodup)
    (stepMember : step ∈ rows) :
    row ∈ rows.map (reportStatus step.id status outputPayload) ↔
      row = { step with status, outputPayload } ∨ row ∈ rows ∧ row.id ≠ step.id := by
  constructor
  · intro member
    obtain ⟨old, oldMember, rfl⟩ := List.mem_map.mp member
    by_cases same : old.id = step.id
    · left
      rw [← List.inj_on_of_nodup_map distinct oldMember stepMember same]
      exact reportStatus_self old
    · right
      rw [reportStatus_of_ne same]
      exact ⟨oldMember, same⟩
  · rintro (rfl | ⟨member, other⟩)
    · rw [← reportStatus_self]
      exact List.mem_map_of_mem stepMember
    · have same : reportStatus step.id status outputPayload row = row := reportStatus_of_ne other
      rw [← same]
      exact List.mem_map_of_mem member

end reportStatus

/-! ### The order of attempts -/

/-- Only a failed step run has a later one of the same key. -/
def AttemptsOrdered (rows : List WorkflowStepRun) : Prop :=
  rows.Pairwise fun earlier later => earlier.stepKey = later.stepKey → earlier.status = .failed

theorem attemptsOrdered_append (ordered : AttemptsOrdered rows)
    (failed : ∀ row ∈ rows, row.stepKey = new.stepKey → row.status = .failed) :
    AttemptsOrdered (rows ++ [new]) := by
  unfold AttemptsOrdered
  rw [List.pairwise_append]
  refine ⟨ordered, List.pairwise_singleton _ _, fun row member other isNew => ?_⟩
  rw [List.mem_singleton.mp isNew]
  exact failed row member

/-- All step runs of a key but the latest failed. -/
theorem failed_or_latest (ordered : AttemptsOrdered rows) (member : step ∈ rows) :
    step.status = .failed ∨ workflowGraphLatestStep rows step.stepKey = some step := by
  induction rows using List.reverseRecOn with
  | nil => cases member
  | append_singleton rows last inductionHypothesis =>
      obtain ⟨frontOrdered, -, before⟩ := List.pairwise_append.mp ordered
      rw [latest_append]
      rcases List.mem_append.mp member with inFront | isLast
      · by_cases same : last.stepKey = step.stepKey
        · exact .inl (before step inFront last (List.mem_singleton_self last) same.symm)
        · rw [if_neg same]
          exact inductionHypothesis frontOrdered inFront
      · cases List.mem_singleton.mp isLast
        rw [if_pos rfl]
        exact .inr rfl

theorem latest_of_open (ordered : AttemptsOrdered rows) (member : step ∈ rows)
    (isOpen : workflowStepStatusTerminal step.status = false) :
    workflowGraphLatestStep rows step.stepKey = some step := by
  rcases failed_or_latest ordered member with failed | latest
  · rw [failed] at isOpen
    cases isOpen
  · exact latest

theorem latest_reportStatus_of_terminal {status : WorkflowStatus} {outputPayload : Json}
    {row : WorkflowStepRun} (found : workflowGraphLatestStep rows key = some row)
    (terminal : workflowStepStatusTerminal row.status = true) (member : step ∈ rows)
    (isOpen : workflowStepStatusTerminal step.status = false)
    (distinct : (rows.map WorkflowStepRun.id).Nodup) :
    workflowGraphLatestStep (rows.map (reportStatus step.id status outputPayload)) key =
      some row := by
  have other : row.id ≠ step.id := by
    intro same
    rw [List.inj_on_of_nodup_map distinct (mem_of_latest found).1 member same, isOpen] at terminal
    cases terminal
  rw [latest_reportStatus, found, Option.map_some, reportStatus_of_ne other]

theorem attemptsOrdered_reportStatus {status : WorkflowStatus} {outputPayload : Json}
    (ordered : AttemptsOrdered rows) (member : step ∈ rows)
    (isOpen : workflowStepStatusTerminal step.status = false)
    (distinct : (rows.map WorkflowStepRun.id).Nodup) :
    AttemptsOrdered (rows.map (reportStatus step.id status outputPayload)) := by
  unfold AttemptsOrdered at ordered ⊢
  rw [List.pairwise_map]
  apply List.Pairwise.imp_of_mem ?_ ordered
  intro earlier later earlierMember _ failedBefore same
  simp only [reportStatus_stepKey] at same
  have failed := failedBefore same
  have other : earlier.id ≠ step.id := by
    intro sameId
    have := List.inj_on_of_nodup_map distinct earlierMember member sameId
    rw [← this, failed] at isOpen
    cases isOpen
  rw [reportStatus_of_ne other]
  exact failed

end MandoForge
