/-
Module: MandoForge.AgentRelease.ReleaseCalls
Purpose: The calls that move agent releases, each a program over the store's operations:
  direct and requested promotions, the decisions on them, rollbacks, and the lifecycle
  of workflow packs.
Trusted boundary: an operation is one critical section of the in-memory store.  The
  effective release state that a read agent shows is left out, no call here uses it.
Main exports: PackWorld, ReleaseCall
-/
import MandoForge.AgentRelease.PackLifecycle
import MandoForge.Foundation.Interleaving

namespace MandoForge

open Foundation

/-! ### Operations -/

structure PackWorld where
  clock : Timestamp
  store : PackStore

namespace PackWorld

def releases (world : PackWorld) : AgentReleaseTable := world.store.agentReleases

def withReleases (releases : AgentReleaseTable) (world : PackWorld) : PackWorld :=
  { world with store := { world.store with agentReleases := releases } }

@[simp] theorem releases_withReleases (releases : AgentReleaseTable) (world : PackWorld) :
    (world.withReleases releases).releases = releases := rfl

/-- An operation on the agent releases, at the time of the clock. -/
def onReleases {Answer : Type}
    (operation : Timestamp → AgentReleaseTable → Answer × AgentReleaseTable)
    (world : PackWorld) : Answer × PackWorld :=
  ((operation world.clock world.releases).1,
    world.withReleases (operation world.clock world.releases).2)

end PackWorld

/-- The operations of the store, by the functions that perform them. -/
inductive ReleaseOperation where
  | getAgent (agentId : Uuid)
  | listAgentVersions (agentId : Uuid)
  | currentAgentVersion (agentId : Uuid)
  | listEvalRuns
  | createAgentRelease (draw agentId : Uuid) (gate : AgentReleaseGate) (promotedBy : String)
  | requestPromotion (draw agentId : Uuid) (gate : AgentReleaseGate) (request : PromotionRequest)
  | beginPromotion (agentId releaseId : Uuid) (decidedBy reason : String)
  | completePromotion (agentId releaseId : Uuid) (promotedBy : String)
  | failPromotion (agentId releaseId : Uuid) (decidedBy reason : String)
  | rejectPromotion (releaseId : Uuid) (rejectedBy : String) (reason : Option String)
  | automateRejection (agentId releaseId : Uuid) (decidedBy reason : String)
  | rollback (agentId releaseId : Uuid)
  | transitionPack (enforcementRequired : Bool) (draws : TransitionDraws)
      (request : WorkflowPackLifecycleTransitionRequest)

namespace ReleaseOperation

def Answer : ReleaseOperation → Type
  | getAgent _ => Except AppError Agent
  | listAgentVersions _ => Except AppError (List AgentVersion)
  | currentAgentVersion _ => Except AppError AgentVersion
  | listEvalRuns => List EvalRun
  | requestPromotion _ _ _ _ => AgentRelease
  | transitionPack _ _ _ => Except AppError WorkflowPackInstallation
  | _ => Except AppError AgentRelease

/-- The versions of an agent, in the order they were stored. -/
def versionsOf (agentId : Uuid) (store : PackStore) : List AgentVersion :=
  store.agentVersions.rows.filter fun version => decide (version.agentId = agentId)

/-- `max_by_key` of the version: the last of the greatest. -/
def latestVersion (versions : List AgentVersion) : Option AgentVersion :=
  versions.foldl (fun latest version =>
    match latest with
    | some best => if best.version ≤ version.version then some version else some best
    | none => some version) none

def perform (parseUuid : String → Option Uuid) :
    (operation : ReleaseOperation) → PackWorld → operation.Answer × PackWorld
  | getAgent agentId, world =>
      (okOr (world.store.agents.find? agentId) (.notFound "agent not found"), world)
  | listAgentVersions agentId, world =>
      (if (world.store.agents.find? agentId).isNone then .error (.notFound "agent not found")
        else .ok (versionsOf agentId world.store), world)
  | currentAgentVersion agentId, world =>
      (if (world.store.agents.find? agentId).isNone then .error (.notFound "agent not found")
        else okOr (latestVersion (versionsOf agentId world.store))
          (.notFound "agent version not found"), world)
  | listEvalRuns, world => (world.store.evalRuns.rows, world)
  | createAgentRelease draw agentId gate promotedBy, world =>
      world.onReleases fun now => MandoForge.createAgentRelease draw now agentId gate promotedBy
  | requestPromotion draw agentId gate request, world =>
      world.onReleases fun now => requestAgentReleasePromotion draw now agentId gate request
  | beginPromotion agentId releaseId decidedBy reason, world =>
      world.onReleases fun now =>
        beginAgentReleasePromotion now agentId releaseId decidedBy reason
  | completePromotion agentId releaseId promotedBy, world =>
      world.onReleases fun now => completeAgentReleasePromotion now agentId releaseId promotedBy
  | failPromotion agentId releaseId decidedBy reason, world =>
      world.onReleases fun _ => failAgentReleasePromotion agentId releaseId decidedBy reason
  | rejectPromotion releaseId rejectedBy reason, world =>
      world.onReleases fun now => rejectAgentReleasePromotion now releaseId rejectedBy reason
  | automateRejection agentId releaseId decidedBy reason, world =>
      world.onReleases fun now =>
        automateAgentReleaseRejection now agentId releaseId decidedBy reason
  | rollback agentId releaseId, world =>
      world.onReleases fun _ => rollbackAgentRelease agentId releaseId
  | transitionPack enforcementRequired draws request, world =>
      ((transitionWorkflowPackLifecycle parseUuid enforcementRequired draws request world.store).1,
        { world with store := (transitionWorkflowPackLifecycle parseUuid enforcementRequired draws
            request world.store).2 })

end ReleaseOperation

/-- The store as its operations show it. -/
def ReleaseStore (parseUuid : String → Option Uuid) : StoreInterface PackWorld where
  Operation := ReleaseOperation
  Answer := ReleaseOperation.Answer
  perform := ReleaseOperation.perform parseUuid

/-! ### Calls -/

section calls

variable {parseUuid : String → Option Uuid}

abbrev ReleaseProgram (parseUuid : String → Option Uuid) (Result : Type) :=
  Program (ReleaseStore parseUuid) AppError Result

def getReleaseAgent (agentId : Uuid) : ReleaseProgram parseUuid Agent :=
  Program.attempt (I := ReleaseStore parseUuid) (.getAgent agentId) id

/-- The version that the release names, or the current one. -/
def releasedAgentVersion (agentId : Uuid) :
    Option Uuid → ReleaseProgram parseUuid AgentVersion
  | none => Program.attempt (I := ReleaseStore parseUuid) (.currentAgentVersion agentId) id
  | some agentVersionId => do
      let versions : List AgentVersion ←
        Program.attempt (I := ReleaseStore parseUuid) (.listAgentVersions agentId) id
      Program.ofExcept (okOr (versions.find? fun version => decide (version.id = agentVersionId))
        (.notFound "agent version not found"))

def validateAgentReleaseInput (agentId : Uuid) (input : CreateAgentRelease) :
    ReleaseProgram parseUuid AgentReleaseGate := do
  let _agent ← getReleaseAgent agentId
  let agentVersion ← releasedAgentVersion agentId input.agentVersionId
  let evalRuns : List EvalRun ← Program.perform (I := ReleaseStore parseUuid) .listEvalRuns
  let evalRun ← Program.ofExcept (okOr
    (evalRuns.find? fun run => decide (run.id = input.evalRunId)) (.notFound "eval run not found"))
  Program.ofExcept (agentReleaseGate agentId input agentVersion evalRun)

/-- A call of one of the functions that move agent releases. -/
inductive ReleaseCall where
  | create (draw agentId : Uuid) (input : CreateAgentRelease) (promotedBy : String)
  | requestPromotion (draw agentId : Uuid) (input : CreateAgentRelease)
      (request : PromotionRequest)
  | begin (agentId releaseId : Uuid) (decidedBy reason : String)
  | complete (agentId releaseId : Uuid) (promotedBy : String)
  | fail (agentId releaseId : Uuid) (decidedBy reason : String)
  | reject (agentId releaseId : Uuid) (rejectedBy : String) (reason : Option String)
  | automate (agentId releaseId : Uuid) (nextStatus : AgentReleaseStatus)
      (decidedBy reason : String)
  | rollback (agentId releaseId : Uuid)
  | transitionPack (enforcementRequired : Bool) (draws : TransitionDraws)
      (request : WorkflowPackLifecycleTransitionRequest)

/-- `begin_agent_release_promotion`. -/
def beginPromotionCall (agentId releaseId : Uuid) (decidedBy reason : String) :
    ReleaseProgram parseUuid AgentRelease := do
  let _agent ← getReleaseAgent agentId
  Program.attempt (I := ReleaseStore parseUuid)
    (.beginPromotion agentId releaseId decidedBy reason) id

/-- `complete_agent_release_promotion`. -/
def completePromotionCall (agentId releaseId : Uuid) (promotedBy : String) :
    ReleaseProgram parseUuid AgentRelease := do
  let _agent ← getReleaseAgent agentId
  Program.attempt (I := ReleaseStore parseUuid)
    (.completePromotion agentId releaseId promotedBy) id

def automateAgentReleaseDecision (agentId releaseId : Uuid) (nextStatus : AgentReleaseStatus)
    (decidedBy reason : String) : ReleaseProgram parseUuid AgentRelease := do
  let _agent ← getReleaseAgent agentId
  match nextStatus with
  | .promoted => do
      let _begun ← beginPromotionCall agentId releaseId decidedBy reason
      completePromotionCall agentId releaseId decidedBy
  | .rejected =>
      Program.attempt (I := ReleaseStore parseUuid)
        (.automateRejection agentId releaseId decidedBy reason) id
  | _ => throw (.badRequest "unsupported automated release decision")

/-- The program of a call.  What it returns nobody reads here. -/
def ReleaseCall.program : ReleaseCall → ReleaseProgram parseUuid Unit
  | create draw agentId input promotedBy => do
      let gate ← validateAgentReleaseInput agentId input
      let _release : AgentRelease ← Program.attempt (I := ReleaseStore parseUuid)
        (.createAgentRelease draw agentId gate promotedBy) id
  | requestPromotion draw agentId input request => do
      let gate ← validateAgentReleaseInput agentId input
      let _release : AgentRelease ← Program.perform (I := ReleaseStore parseUuid)
        (.requestPromotion draw agentId gate request)
  | begin agentId releaseId decidedBy reason => do
      let _release ← beginPromotionCall agentId releaseId decidedBy reason
  | complete agentId releaseId promotedBy => do
      let _release ← completePromotionCall agentId releaseId promotedBy
  | fail agentId releaseId decidedBy reason => do
      let _agent ← getReleaseAgent agentId
      let _release : AgentRelease ← Program.attempt (I := ReleaseStore parseUuid)
        (.failPromotion agentId releaseId decidedBy reason) id
  | reject agentId releaseId rejectedBy reason => do
      let _agent ← getReleaseAgent agentId
      let _release : AgentRelease ← Program.attempt (I := ReleaseStore parseUuid)
        (.rejectPromotion releaseId rejectedBy reason) id
  | automate agentId releaseId nextStatus decidedBy reason => do
      let _release ← automateAgentReleaseDecision agentId releaseId nextStatus decidedBy reason
  | rollback agentId releaseId => do
      let _agent ← getReleaseAgent agentId
      let _release : AgentRelease ← Program.attempt (I := ReleaseStore parseUuid)
        (.rollback agentId releaseId) id
  | transitionPack enforcementRequired draws request => do
      let _installation : WorkflowPackInstallation ←
        Program.attempt (I := ReleaseStore parseUuid)
          (.transitionPack enforcementRequired draws request) id

end calls

end MandoForge
