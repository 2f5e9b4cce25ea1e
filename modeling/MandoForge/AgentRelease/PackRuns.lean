/-
Module: MandoForge.AgentRelease.PackRuns
Purpose: Sequences of releases, rollbacks and archivals of workflow packs: what is
  claimed of them, what one call does to the store, and when it disturbs no other
  released installation.
Trusted boundary: none
Main exports: PackCall, SparesOthers
-/
import MandoForge.AgentRelease.PackReferences
import MandoForge.Foundation.Runs

namespace MandoForge

open Foundation

/-! ### Calls -/

/-- A release of a pack promotes its agents; a rollback and an archival take its
promotions back. -/
def WorkflowPackLifecycleTransitionRequest.IsLifecycleCall
    (request : WorkflowPackLifecycleTransitionRequest) : Prop :=
  match request.agentReleaseTransition with
  | .promoteFromPack _ _ _ _ => request.nextStatus = .released
  | .rollbackPackPromotions => request.nextStatus = .rolledBack ∨ request.nextStatus = .archived
  | .requirePromoted _ _ => False

/-- A call of `transition_workflow_pack_lifecycle` by the routes of a pack. -/
structure PackCall where
  enforcementRequired : Bool
  draws : TransitionDraws
  request : WorkflowPackLifecycleTransitionRequest
  isLifecycleCall : request.IsLifecycleCall

section calls

variable (parseUuid : String → Option Uuid)

namespace PackCall

def answer (call : PackCall) (store : PackStore) : Except AppError WorkflowPackInstallation :=
  (transitionWorkflowPackLifecycle parseUuid call.enforcementRequired call.draws call.request
    store).1

def perform (call : PackCall) (store : PackStore) : PackStore :=
  (transitionWorkflowPackLifecycle parseUuid call.enforcementRequired call.draws call.request
    store).2

/-- The call releases the installation with the target of the agent release. -/
def Releases (installationId : Uuid) (release : AgentRelease) (call : PackCall)
    (store : PackStore) : Prop :=
  call.request.installationId = installationId ∧ (call.answer parseUuid store).isOk = true ∧
    ∃ targets environment promotedBy gateEvidence,
      call.request.agentReleaseTransition =
        .promoteFromPack targets environment promotedBy gateEvidence ∧
      release.Targeted targets (trim environment)

end PackCall

/-! ### What is claimed -/

def IsReleased (installationId : Uuid) (store : PackStore) : Prop :=
  ∃ installation, store.workflowPackInstallations.find? installationId = some installation ∧
    installation.status = .released

/-- The store after the calls. -/
abbrev storeAfter (calls : List PackCall) (start : PackStore) : PackStore :=
  runEvents (PackCall.perform parseUuid) calls start

/-- The installation was released with the target of the agent release, since that one
is stored. -/
def ReleasedSince (release : AgentRelease) (installationId : Uuid) (calls : List PackCall)
    (start : PackStore) : Prop :=
  ∃ front call, front ++ [call] <+: calls ∧
    call.Releases parseUuid installationId release (storeAfter parseUuid front start) ∧
    (storeAfter parseUuid (front ++ [call]) start).agentReleases.find? release.id ≠ none

/-- A binding of the installation targets a version of the agent. -/
def ReliesOn (installationId : Uuid) (store : PackStore) (agentId : Uuid) : Prop :=
  ∃ version ∈ store.agentVersions, version.agentId = agentId ∧
    ∃ binding ∈ store.workflowPackBindings, binding.installationId = installationId ∧
      binding.targetId = some version.id

/-- Nothing that the installation relies on changes. -/
structure Undisturbed (installationId : Uuid) (before after : PackStore) : Prop where
  definitions : ∀ definition ∈ before.workflowDefinitions,
    definition.packInstallationId = some installationId →
      after.workflowDefinitions.find? definition.id = some definition
  bindings : ∀ binding ∈ before.workflowPackBindings, binding.installationId = installationId →
    after.workflowPackBindings.find? binding.id = some binding
  runtimeObjects : ∀ object ∈ before.workflowPackRuntimeObjects,
    object.installationId = installationId →
      after.workflowPackRuntimeObjects.find? object.id = some object
  agents : ∀ agent ∈ before.agents, ReliesOn installationId before agent.id →
    after.agents.find? agent.id = some agent

/-- The call disturbs no other released installation. -/
def IsolatesOthers (call : PackCall) (store : PackStore) : Prop :=
  ∀ installationId, installationId ≠ call.request.installationId →
    IsReleased installationId store →
      Undisturbed installationId store (call.perform parseUuid store)

/-- A pack's promoted release is rolled back when its only installation leaves the
released ones, and not before. -/
def RolledBackWithLast (call : PackCall) (store : PackStore) : Prop :=
  ∀ release ∈ store.agentReleases, release.status = .promoted →
    agentReleaseIsIndependent release = false →
    ∃ later, (call.perform parseUuid store).agentReleases.find? release.id = some later ∧
      (later.status = .rolledBack ↔ ∃ installationId,
        (∀ reference, reference ∈ workflowPackReleaseReferences parseUuid release ↔
          reference = installationId) ∧
        IsReleased installationId store ∧
        ¬IsReleased installationId (call.perform parseUuid store))

structure PacksIsolated (calls : List PackCall) (start : PackStore) : Prop where
  references : ∀ front, front <+: calls →
    ∀ release ∈ (storeAfter parseUuid front start).agentReleases, release.status = .promoted →
      agentReleaseIsIndependent release = false → ∀ installationId,
        installationId ∈ workflowPackReleaseReferences parseUuid release ↔
          IsReleased installationId (storeAfter parseUuid front start) ∧
            ReleasedSince parseUuid release installationId front start
  rolledBack : MetAlong (PackCall.perform parseUuid) (RolledBackWithLast parseUuid) calls start
  isolates : MetAlong (PackCall.perform parseUuid) (IsolatesOthers parseUuid) calls start

/-! ### When a call disturbs nobody -/

/-- The call goes through and takes the installation out of use. -/
def PackCall.TakesOut (call : PackCall) (store : PackStore) : Prop :=
  (call.request.nextStatus = .rolledBack ∨ call.request.nextStatus = .archived) ∧
    validateWorkflowPackLifecycleTransition call.request.expectedStatus call.request.nextStatus =
      .ok () ∧
    call.request.auditDetails.isObject = true ∧
    ∃ installation,
      store.workflowPackInstallations.find? call.request.installationId = some installation ∧
        installation.archivedAt = none ∧ installation.status = call.request.expectedStatus

/-- No agent of the installation that is taken out is in use by another released one,
unless it is disabled already. -/
def SparesOthers (call : PackCall) (store : PackStore) : Prop :=
  call.TakesOut store → ∀ installationId, installationId ≠ call.request.installationId →
    IsReleased installationId store → ∀ agent ∈ store.agents, agent.disabled = false →
      ReliesOn installationId store agent.id →
        ownedByInstallation call.request.installationId store agent.id = false

end calls

/-! ### What a call does -/

section step

variable {parseUuid : String → Option Uuid}

/-- What a call does, by how its checks end. -/
inductive PackStep (parseUuid : String → Option Uuid) (call : PackCall) (store : PackStore) :
    Prop where
  | refused (isRefused : (call.answer parseUuid store).isOk = false)
      (same : call.perform parseUuid store = store) (notTakenOut : ¬call.TakesOut store)
  | released (current : WorkflowPackInstallation) (targets known : List ReleaseTarget)
      (environment promotedBy : String) (gateEvidence : Json)
      (isOk : (call.answer parseUuid store).isOk = true)
      (transition : call.request.agentReleaseTransition =
        .promoteFromPack targets environment promotedBy gateEvidence)
      (isReleased : call.request.nextStatus = .released)
      (found : store.workflowPackInstallations.find? call.request.installationId = some current)
      (wasStaged : current.status = .staged) (sameTargets : ∀ target, target ∈ known ↔
        target ∈ targets)
      (written : call.perform parseUuid store = writeTransition parseUuid call.draws call.request
        (.promoteFromPack known (toAsciiLowercase (trim environment)) promotedBy gateEvidence) []
        current store)
  | takenOut (current : WorkflowPackInstallation) (takesOut : call.TakesOut store)
      (transition : call.request.agentReleaseTransition = .rollbackPackPromotions)
      (found : store.workflowPackInstallations.find? call.request.installationId = some current)
      (written : call.perform parseUuid store = writeTransition parseUuid call.draws call.request
        .rollbackPackPromotions [] current store)

theorem normalizeAgentReleaseTargets_eq_ok {targets known : List ReleaseTarget}
    (normalized : normalizeAgentReleaseTargets targets = .ok known) (target : ReleaseTarget) :
    target ∈ known ↔ target ∈ targets := by
  unfold normalizeAgentReleaseTargets at normalized
  dsimp only at normalized
  split at normalized
  · cases normalized
  · cases normalized
    rw [List.mem_insertionSort, List.mem_dedup]

theorem normalizeAgentReleaseEnvironment_eq_ok {environment normal : String}
    (normalized : normalizeAgentReleaseEnvironment environment = .ok normal) :
    normal = toAsciiLowercase (trim environment) := by
  unfold normalizeAgentReleaseEnvironment at normalized
  dsimp only at normalized
  split at normalized
  · cases normalized
  · exact (Except.ok.inj normalized).symm

/-- What the checks of a transition find. -/
theorem checkTransition_eq_ok {enforcementRequired : Bool}
    {request : WorkflowPackLifecycleTransitionRequest} {store : PackStore}
    {transition : WorkflowPackAgentReleaseTransition} {current : WorkflowPackInstallation}
    {required : List AgentRelease} :
    checkTransition enforcementRequired request store = .ok (transition, current, required) ↔
      validateWorkflowPackLifecycleTransition request.expectedStatus request.nextStatus = .ok () ∧
        request.auditDetails.isObject = true ∧
        prepareAgentReleaseTransition request.agentReleaseTransition = .ok transition ∧
        (enforcementRequired && (transition matches .promoteFromPack ..)) = false ∧
        store.workflowPackInstallations.find? request.installationId = some current ∧
        current.archivedAt = none ∧ current.status = request.expectedStatus ∧
        checkAgentReleases transition store = .ok required := by
  unfold checkTransition
  simp only [bind_eq_ok, guardThen_eq_ok, okOr_eq_ok, Option.filter_eq_some_iff,
    Option.isNone_iff_eq_none, Bool.not_eq_true, Bool.not_eq_false', not_not]
  constructor
  · rintro ⟨_, validated, isObject, prepared, isPrepared, allowed, found, ⟨isFound, isOpen⟩,
      sameStatus, releases, isRequired, same⟩
    cases same
    exact ⟨validated, isObject, isPrepared, allowed, isFound, isOpen, sameStatus, isRequired⟩
  · rintro ⟨validated, isObject, isPrepared, allowed, isFound, isOpen, sameStatus, isRequired⟩
    exact ⟨(), validated, isObject, transition, isPrepared, allowed, current, ⟨isFound, isOpen⟩,
      sameStatus, required, isRequired, rfl⟩

theorem staged_of_released {expected : PackStatus}
    (validated : validateWorkflowPackLifecycleTransition expected .released = .ok ()) :
    expected = .staged := by
  cases expected <;> first | rfl | cases validated

variable (parseUuid) in
theorem PackCall.perform_cases (call : PackCall) (store : PackStore) :
    PackStep parseUuid call store := by
  cases checked : checkTransition call.enforcementRequired call.request store with
  | error error =>
      have refused : transitionWorkflowPackLifecycle parseUuid call.enforcementRequired call.draws
          call.request store = (.error error, store) := by
        rw [transitionWorkflowPackLifecycle, checked]
      apply PackStep.refused
      case isRefused =>
        rw [answer, refused]
        rfl
      case same => rw [perform, refused]
      case notTakenOut =>
        rintro ⟨isOut, validated, isObject, current, found, isOpen, sameStatus⟩
        have isLifecycle := call.isLifecycleCall
        unfold WorkflowPackLifecycleTransitionRequest.IsLifecycleCall at isLifecycle
        split at isLifecycle
        · rw [isLifecycle] at isOut
          rcases isOut with isOut | isOut <;> cases isOut
        · rename_i transition
          have accepted : checkTransition call.enforcementRequired call.request store =
              .ok (.rollbackPackPromotions, current, []) := by
            rw [checkTransition_eq_ok, transition]
            exact ⟨validated, isObject, rfl, Bool.and_false _, found, isOpen, sameStatus, rfl⟩
          rw [checked] at accepted
          cases accepted
        · exact isLifecycle
  | ok accepted =>
      obtain ⟨transition, current, required⟩ := accepted
      obtain ⟨validated, isObject, isPrepared, -, found, isOpen, sameStatus, isRequired⟩ :=
        checkTransition_eq_ok.mp checked
      have succeeded : transitionWorkflowPackLifecycle parseUuid call.enforcementRequired
          call.draws call.request store = (.ok (call.request.moveInstallation current),
            writeTransition parseUuid call.draws call.request transition required current
              store) := by
        rw [transitionWorkflowPackLifecycle, checked]
      have isOk : (call.answer parseUuid store).isOk = true := by
        rw [answer, succeeded]
        rfl
      have written : call.perform parseUuid store = writeTransition parseUuid call.draws
          call.request transition required current store := by
        rw [perform, succeeded]
      have isLifecycle := call.isLifecycleCall
      unfold WorkflowPackLifecycleTransitionRequest.IsLifecycleCall at isLifecycle
      split at isLifecycle
      · rename_i targets environment promotedBy gateEvidence isTransition
        rw [isTransition] at isPrepared
        obtain ⟨known, isKnown, isPrepared⟩ := bind_eq_ok.mp isPrepared
        obtain ⟨normal, isNormal, isPrepared⟩ := bind_eq_ok.mp isPrepared
        cases isPrepared
        obtain ⟨_, -, isRequired⟩ := bind_eq_ok.mp isRequired
        cases isRequired
        rw [isLifecycle] at validated
        obtain rfl := normalizeAgentReleaseEnvironment_eq_ok isNormal
        exact .released current targets known environment promotedBy gateEvidence isOk isTransition
          isLifecycle found (sameStatus.trans (staged_of_released validated))
          (normalizeAgentReleaseTargets_eq_ok isKnown) written
      · rename_i isTransition
        rw [isTransition] at isPrepared
        cases isPrepared
        cases isRequired
        exact .takenOut current
          ⟨isLifecycle, validated, isObject, current, found, isOpen, sameStatus⟩ isTransition found
          written
      · exact isLifecycle.elim

/-! ### What a transition leaves of the installations -/

section writes

variable {draws : TransitionDraws} {request : WorkflowPackLifecycleTransitionRequest}
  {transition : WorkflowPackAgentReleaseTransition} {required : List AgentRelease}
  {current : WorkflowPackInstallation} {store : PackStore}

theorem installations_writeTransition : (writeTransition parseUuid draws request transition
    required current store).workflowPackInstallations =
      store.workflowPackInstallations.insert (request.moveInstallation current) := rfl

theorem isReleased_written_same
    (found : store.workflowPackInstallations.find? request.installationId = some current) :
    IsReleased request.installationId
        (writeTransition parseUuid draws request transition required current store) ↔
      request.nextStatus = .released := by
  have stored : (writeTransition parseUuid draws request transition required current
      store).workflowPackInstallations.find? request.installationId =
        some (request.moveInstallation current) := by
    rw [installations_writeTransition, ← (Table.find?_eq_some.mp found).2]
    exact Table.find?_insert_same
  unfold IsReleased
  rw [stored]
  constructor
  · rintro ⟨installation, same, isReleased⟩
    cases same
    exact isReleased
  · intro isReleased
    exact ⟨_, rfl, isReleased⟩

theorem find?_written_of_ne {installationId : Uuid}
    (found : store.workflowPackInstallations.find? request.installationId = some current)
    (isOther : installationId ≠ request.installationId) :
    (writeTransition parseUuid draws request transition required current
        store).workflowPackInstallations.find? installationId =
      store.workflowPackInstallations.find? installationId := by
  have differs : installationId ≠ (request.moveInstallation current).id := by
    rw [WorkflowPackLifecycleTransitionRequest.moveInstallation_id,
      (Table.find?_eq_some.mp found).2]
    exact isOther
  rw [installations_writeTransition, Table.find?_insert_of_ne differs]

theorem isReleased_written_of_ne {installationId : Uuid}
    (found : store.workflowPackInstallations.find? request.installationId = some current)
    (isOther : installationId ≠ request.installationId) :
    IsReleased installationId
        (writeTransition parseUuid draws request transition required current store) ↔
      IsReleased installationId store := by
  unfold IsReleased
  rw [find?_written_of_ne found isOther]

/-- What belongs to another installation stays, and the agents stay that the transition
does not disable. -/
theorem undisturbed_written {installationId : Uuid}
    (isOther : installationId ≠ request.installationId)
    (agents : ∀ agent ∈ store.agents, ReliesOn installationId store agent.id →
      (writeTransition parseUuid draws request transition required current
        store).agents.find? agent.id = some agent) :
    Undisturbed installationId store
      (writeTransition parseUuid draws request transition required current store) := by
  constructor
  case agents => exact agents
  case definitions =>
    intro definition member isIts
    have stays : request.moveDefinition definition = definition := by
      rw [WorkflowPackLifecycleTransitionRequest.moveDefinition, if_neg]
      simp [WorkflowPackLifecycleTransitionRequest.movesDefinition, isIts, isOther]
    have found : (store.workflowDefinitions.mapRows request.moveDefinition
        request.moveDefinition_id).find? definition.id =
          (store.workflowDefinitions.find? definition.id).map request.moveDefinition :=
      Table.find?_mapRows
    rw [Table.find?_key member, Option.map_some, stays] at found
    exact found
  case bindings =>
    intro binding member isIts
    have stays : request.moveBinding binding = binding := by
      rw [WorkflowPackLifecycleTransitionRequest.moveBinding, if_neg]
      simp [WorkflowPackLifecycleTransitionRequest.movesBinding, isIts, isOther]
    have found : (store.workflowPackBindings.mapRows request.moveBinding
        request.moveBinding_id).find? binding.id =
          (store.workflowPackBindings.find? binding.id).map request.moveBinding :=
      Table.find?_mapRows
    rw [Table.find?_key member, Option.map_some, stays] at found
    exact found
  case runtimeObjects =>
    intro object member isIts
    have stays : request.moveRuntimeObject object = object := by
      rw [WorkflowPackLifecycleTransitionRequest.moveRuntimeObject, if_neg]
      simp [WorkflowPackLifecycleTransitionRequest.movesRuntimeObject, isIts, isOther]
    have found : (store.workflowPackRuntimeObjects.mapRows request.moveRuntimeObject
        request.moveRuntimeObject_id).find? object.id =
          (store.workflowPackRuntimeObjects.find? object.id).map request.moveRuntimeObject :=
      Table.find?_mapRows
    rw [Table.find?_key member, Option.map_some, stays] at found
    exact found

theorem Undisturbed.refl (installationId : Uuid) (store : PackStore) :
    Undisturbed installationId store store where
  definitions _ member _ := Table.find?_key member
  bindings _ member _ := Table.find?_key member
  runtimeObjects _ member _ := Table.find?_key member
  agents _ member _ := Table.find?_key member

end writes

/-! ### When a call isolates the others -/

theorem isolatesOthers_iff (call : PackCall) (store : PackStore) :
    IsolatesOthers parseUuid call store ↔ SparesOthers call store := by
  cases call.perform_cases parseUuid store with
  | refused _ same notTakenOut =>
      refine ⟨fun _ takesOut => (notTakenOut takesOut).elim, fun _ installationId _ _ => ?_⟩
      rw [same]
      exact Undisturbed.refl installationId store
  | released current targets known environment promotedBy gateEvidence _ _ isReleased _ _ _
      written =>
      constructor
      · intro _ takesOut
        have isOut := takesOut.1
        rw [isReleased] at isOut
        rcases isOut with isOut | isOut <;> cases isOut
      · intro _ installationId isOther _
        rw [written]
        apply undisturbed_written isOther
        intro agent member _
        have stays : (writeTransition parseUuid call.draws call.request (.promoteFromPack known
            (toAsciiLowercase (trim environment)) promotedBy gateEvidence) [] current
              store).agents = store.agents := by
          rw [writeTransition]
          simp only [isReleased, reduceCtorEq, or_self, if_false]
        rw [stays]
        exact Table.find?_key member
  | takenOut current takesOut _ _ written =>
      have disabled : ∀ agent ∈ store.agents, (call.perform parseUuid store).agents.find? agent.id =
          some (disableOwned call.request.installationId store agent) := by
        intro agent member
        rw [written, writeTransition]
        dsimp only
        rw [if_pos takesOut.1, Table.find?_mapRows, Table.find?_key member, Option.map_some]
      constructor
      · intro isolates _ installationId isOther isReleased agent member inUse relied
        have same := (isolates installationId isOther isReleased).agents agent member relied
        rw [disabled agent member] at same
        apply Bool.eq_false_of_not_eq_true
        intro owned
        rw [disableOwned, if_pos owned] at same
        have isDisabled := congrArg Agent.disabled (Option.some.inj same)
        rw [inUse] at isDisabled
        cases isDisabled
      · intro spares installationId isOther isReleased
        rw [written]
        apply undisturbed_written isOther
        intro agent member relied
        rw [← written, disabled agent member, disableOwned]
        split
        · rename_i owned
          cases inUse : agent.disabled with
          | false =>
              rw [spares takesOut installationId isOther isReleased agent member inUse relied]
                at owned
              cases owned
          | true =>
              obtain ⟨id, isDisabled⟩ := agent
              subst inUse
              rfl
        · rfl

end step

end MandoForge
