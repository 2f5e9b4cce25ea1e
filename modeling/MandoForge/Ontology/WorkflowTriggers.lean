/-
Module: MandoForge.Ontology.WorkflowTriggers
Purpose: How the promotion of an ontology release starts workflow runs: a trigger of a
  release and a workflow definition is claimed, a run is looked for and else created,
  and the trigger is completed; a drain tries again what failed or went stale.
Trusted boundary: an operation is one critical section of the store's lock.  What a run
  needs before it is created and what is started after it are programs over the rest of
  the store; so are the tool specs of a run and the event that announces it.  Of a run
  only the columns are kept that no later operation changes.  Audit logs are recorded
  elsewhere, the counts of a drain are left out.
Main exports: OntologyReleaseWorkflowTrigger, triggerWorkflowRunFromOntologyReleaseDefinition
-/
import MandoForge.Ontology.Releases

namespace MandoForge

open Foundation

/-! ### Records -/

/-- `ontology_release_workflow_trigger_status_allowed`: the four statuses; the source
keeps them as strings. -/
inductive WorkflowTriggerStatus where
  | pending
  | triggered
  | failed
  | skipped
deriving DecidableEq, Repr

structure OntologyReleaseWorkflowTrigger where
  id : Uuid
  ontologyReleaseId : Uuid
  workflowDefinitionId : Uuid
  workflowRunId : Option Uuid
  status : WorkflowTriggerStatus
  attemptCount : Int
  claimedAt : Option Timestamp
  errorMessage : Option String
  createdAt : Timestamp
  updatedAt : Timestamp
deriving DecidableEq, Repr

abbrev WorkflowTriggerTable := Table OntologyReleaseWorkflowTrigger.id

/-- What stays of a `WorkflowRun` from its creation on. -/
structure TriggeredWorkflowRun where
  id : Uuid
  workflowDefinitionId : Uuid
  inputPayload : Json
deriving DecidableEq, Repr

abbrev TriggeredRunTable := Table TriggeredWorkflowRun.id

/-- What a trigger reads of a `WorkflowDefinition`. -/
structure TriggerDefinition where
  id : Uuid
  releaseState : String
  handoffRules : Json
  stepGraph : Json
deriving DecidableEq, Repr

def OntologyReleaseStatus.text : OntologyReleaseStatus → String
  | candidate => "candidate"
  | failedGate => "failed_gate"
  | active => "active"
  | activeTriggerFailed => "active_trigger_failed"
  | superseded => "superseded"
  | rolledBack => "rolled_back"
  | archived => "archived"

/-! ### Which definitions a release triggers -/

def ontologyReleaseTriggerEnabled : Json → Bool
  | .bool value => value
  | .object fields => ((Json.getField "enabled" fields).bind Json.asBool).getD false
  | _ => false

def ontologyReleaseTriggerConfig (definition : TriggerDefinition) : Option Json :=
  [definition.handoffRules, definition.stepGraph].findSome? fun source =>
    (source.getFirst ["ontology_release_trigger", "ontology_trigger"]).filter
      ontologyReleaseTriggerEnabled

def jsonDomainScopeMatches (value : Option Json) (domainScope : String) : Bool :=
  match value with
  | none => true
  | some (.string scope) =>
      let scope := trim scope
      decide (scope = "") || decide (scope = "*") || eqIgnoreAsciiCase scope domainScope
  | some (.array scopes) => (scopes.filterMap Json.asStr).any fun scope =>
      let scope := trim scope
      decide (scope = "*") || eqIgnoreAsciiCase scope domainScope
  | _ => false

def ontologyReleaseTriggerMatchesRelease (trigger : Json) (release : OntologyReleaseRecord) :
    Bool :=
  match trigger with
  | .bool value => value
  | .object fields =>
      ((Json.getField "event" fields).bind Json.asStr).all (fun event =>
        decide (trim event ∈ ["ontology_release.promoted", "ontology.promoted", "promoted"])) &&
        jsonDomainScopeMatches (Json.getField "domain_scope" fields) release.domainScope
  | _ => false

/-- `ontology_release_workflow_definitions`, of the listed definitions. -/
def ontologyReleaseWorkflowDefinitions (release : OntologyReleaseRecord)
    (definitions : List TriggerDefinition) : List TriggerDefinition :=
  definitions.filter fun definition => decide (definition.releaseState = "released") &&
    (ontologyReleaseTriggerConfig definition).any fun trigger =>
      ontologyReleaseTriggerMatchesRelease trigger release

/-! ### Operations -/

namespace OntologyReleaseWorkflowTrigger

def isFor (releaseId definitionId : Uuid) (trigger : OntologyReleaseWorkflowTrigger) : Bool :=
  decide (trigger.ontologyReleaseId = releaseId) &&
    decide (trigger.workflowDefinitionId = definitionId)

/-- A trigger that failed, or whose claim is older than the reclaim time. -/
def isRetryable (staleBefore : Timestamp) (trigger : OntologyReleaseWorkflowTrigger) : Bool :=
  decide (trigger.status = .failed) || (decide (trigger.status = .pending) &&
    decide (trigger.claimedAt.getD trigger.updatedAt ≤ staleBefore))

def claimed (now : Timestamp) (trigger : OntologyReleaseWorkflowTrigger) :
    OntologyReleaseWorkflowTrigger :=
  { trigger with
    status := .pending
    attemptCount := trigger.attemptCount + 1
    claimedAt := some now
    workflowRunId := none
    errorMessage := none
    updatedAt := now }

def completed (now : Timestamp) (status : WorkflowTriggerStatus) (workflowRunId : Option Uuid)
    (errorMessage : Option String) (trigger : OntologyReleaseWorkflowTrigger) :
    OntologyReleaseWorkflowTrigger :=
  { trigger with status, workflowRunId, errorMessage, updatedAt := now }

end OntologyReleaseWorkflowTrigger

def newOntologyReleaseWorkflowTrigger (now : Timestamp) (id releaseId definitionId : Uuid) :
    OntologyReleaseWorkflowTrigger where
  id := id
  ontologyReleaseId := releaseId
  workflowDefinitionId := definitionId
  workflowRunId := none
  status := .pending
  attemptCount := 1
  claimedAt := some now
  errorMessage := none
  createdAt := now
  updatedAt := now

/-- The trigger of the pair is claimed, when it is new, failed or stale. -/
def claimOntologyReleaseWorkflowTrigger (now reclaimAfter : Timestamp)
    (draw releaseId definitionId : Uuid) (triggers : WorkflowTriggerTable) :
    Option OntologyReleaseWorkflowTrigger × WorkflowTriggerTable :=
  match triggers.rows.find? (OntologyReleaseWorkflowTrigger.isFor releaseId definitionId) with
  | some trigger =>
      if trigger.isRetryable (now - reclaimAfter) then
        (some (trigger.claimed now), triggers.insert (trigger.claimed now))
      else (none, triggers)
  | none =>
      let trigger :=
        newOntologyReleaseWorkflowTrigger now (triggers.drawKey draw) releaseId definitionId
      (some trigger, triggers.insert trigger)

def ontologyReleaseWorkflowTriggerNotFound : AppError :=
  .notFound "ontology release workflow trigger not found"

/-- Whoever calls it: the row of the identifier is written. -/
def completeOntologyReleaseWorkflowTrigger (now : Timestamp) (triggerId : Uuid)
    (status : WorkflowTriggerStatus) (workflowRunId : Option Uuid) (errorMessage : Option String)
    (triggers : WorkflowTriggerTable) :
    Except AppError OntologyReleaseWorkflowTrigger × WorkflowTriggerTable :=
  match triggers.find? triggerId with
  | none => (.error ontologyReleaseWorkflowTriggerNotFound, triggers)
  | some trigger =>
      let trigger := trigger.completed now status workflowRunId errorMessage
      (.ok trigger, triggers.insert trigger)

def retryableOntologyReleaseWorkflowTriggers (now reclaimAfter : Timestamp) (limit : Nat)
    (triggers : WorkflowTriggerTable) : List OntologyReleaseWorkflowTrigger :=
  ((triggers.rows.filter
    (OntologyReleaseWorkflowTrigger.isRetryable (now - reclaimAfter))).insertionSort
      fun left right => left.updatedAt ≤ right.updatedAt).take limit

/-- The run was created for the promotion of the release, from the definition. -/
def TriggeredWorkflowRun.isFor (releaseId definitionId : Uuid) (run : TriggeredWorkflowRun) :
    Bool :=
  decide (run.workflowDefinitionId = definitionId) &&
    decide (run.inputPayload.index "trigger" = .string "ontology_release.promoted") &&
    decide (run.inputPayload.index "ontology_release_id" = .ofUuid releaseId)

/-- `ontology_release_workflow_run_for_trigger`. -/
def workflowRunForTrigger (releaseId definitionId : Uuid) (runs : TriggeredRunTable) :
    Option TriggeredWorkflowRun :=
  runs.rows.find? (TriggeredWorkflowRun.isFor releaseId definitionId)

/-- `create_workflow_run`, with the identifier drawn where the run is stored. -/
def createWorkflowRun (draw : Uuid) (run : TriggeredWorkflowRun) (runs : TriggeredRunTable) :
    TriggeredWorkflowRun × TriggeredRunTable :=
  let run := { run with id := runs.drawKey draw }
  (run, runs.insert run)

/-! ### The store as its operations show it -/

/-- The triggers and the runs, the releases with the clock, and the rest of the store. -/
structure TriggerWorld (RestState : Type) where
  releases : OntologyReleaseWorld
  triggers : WorkflowTriggerTable
  workflowRuns : TriggeredRunTable
  /-- How long a claim is good, as the environment says. -/
  reclaimAfter : Timestamp
  rest : RestState

section store

variable {RestState : Type}

namespace TriggerWorld

def now (world : TriggerWorld RestState) : Timestamp := world.releases.clock

end TriggerWorld

inductive TriggerOperation (Rest : StoreInterface RestState) where
  | claim (draw releaseId definitionId : Uuid)
  | complete (triggerId : Uuid) (status : WorkflowTriggerStatus) (workflowRunId : Option Uuid)
      (errorMessage : Option String)
  | listRetryable (limit : Nat)
  | getTrigger (triggerId : Uuid)
  | findRun (releaseId definitionId : Uuid)
  | createRun (draw : Uuid) (run : TriggeredWorkflowRun)
  /-- An operation on the releases. -/
  | onReleases (operation : OntologyReleaseOperation)
  /-- An operation on the rest of the store. -/
  | onRest (operation : Rest.Operation)

namespace TriggerOperation

variable {Rest : StoreInterface RestState}

def Answer : TriggerOperation Rest → Type
  | claim _ _ _ => Option OntologyReleaseWorkflowTrigger
  | complete _ _ _ _ => Except AppError OntologyReleaseWorkflowTrigger
  | listRetryable _ => List OntologyReleaseWorkflowTrigger
  | getTrigger _ => Except AppError OntologyReleaseWorkflowTrigger
  | findRun _ _ => Option TriggeredWorkflowRun
  | createRun _ _ => TriggeredWorkflowRun
  | onReleases operation => operation.Answer
  | onRest operation => Rest.Answer operation

def perform : (operation : TriggerOperation Rest) → TriggerWorld RestState →
    operation.Answer × TriggerWorld RestState
  | claim draw releaseId definitionId, world =>
      let claimed := claimOntologyReleaseWorkflowTrigger world.now world.reclaimAfter draw
        releaseId definitionId world.triggers
      (claimed.1, { world with triggers := claimed.2 })
  | complete triggerId status workflowRunId errorMessage, world =>
      let completed := completeOntologyReleaseWorkflowTrigger world.now triggerId status
        workflowRunId errorMessage world.triggers
      (completed.1, { world with triggers := completed.2 })
  | listRetryable limit, world =>
      (retryableOntologyReleaseWorkflowTriggers world.now world.reclaimAfter limit world.triggers,
        world)
  | getTrigger triggerId, world =>
      (okOr (world.triggers.find? triggerId) ontologyReleaseWorkflowTriggerNotFound, world)
  | findRun releaseId definitionId, world =>
      (workflowRunForTrigger releaseId definitionId world.workflowRuns, world)
  | createRun draw run, world =>
      let created := createWorkflowRun draw run world.workflowRuns
      (created.1, { world with workflowRuns := created.2 })
  | onReleases operation, world =>
      let performed := operation.perform world.releases
      (performed.1, { world with releases := performed.2 })
  | onRest operation, world =>
      let performed := Rest.perform operation world.rest
      (performed.1, { world with rest := performed.2 })

end TriggerOperation

variable (Rest : StoreInterface RestState)

def TriggerStore : StoreInterface (TriggerWorld RestState) where
  Operation := TriggerOperation Rest
  Answer := TriggerOperation.Answer
  perform := TriggerOperation.perform

def releasesWithin : StorePart OntologyReleaseStore (TriggerStore Rest) where
  operation := .onReleases
  answer _ given := given

def restWithin : StorePart Rest (TriggerStore Rest) where
  operation := .onRest
  answer _ given := given

end store

/-! ### Programs -/

section programs

variable {RestState : Type}

/-- What the programs take from outside: programs over the rest of the store. -/
structure TriggerOutside (Rest : StoreInterface RestState) where
  host : Host
  listWorkflowDefinitions : Program Rest AppError (List TriggerDefinition)
  /-- `ontology_onboarding_tool_specs_for_run`. -/
  toolSpecsForRun : Uuid → Program Rest AppError (List Json)
  /-- The checks of a definition, the session and the runtime envelope of its run. -/
  prepareRun : TriggerDefinition → String → Json → Program Rest AppError Unit
  /-- The root grant of a run and the start of its graph. -/
  startRun : TriggerDefinition → TriggeredWorkflowRun → Program Rest AppError Unit
  /-- The event that a run was triggered. -/
  announceRun : TriggeredWorkflowRun → Program Rest AppError Unit

/-- The identifiers that are drawn for the trigger and the run of a definition. -/
structure TriggerDraws where
  trigger : Uuid
  run : Uuid

variable {Rest : StoreInterface RestState}

abbrev TriggerProgram (Rest : StoreInterface RestState) (Result : Type) :=
  Program (TriggerStore Rest) AppError Result

namespace TriggerProgram

def claim (draw releaseId definitionId : Uuid) :
    TriggerProgram Rest (Option OntologyReleaseWorkflowTrigger) :=
  Program.perform (I := TriggerStore Rest) (.claim draw releaseId definitionId)

def complete (triggerId : Uuid) (status : WorkflowTriggerStatus) (workflowRunId : Option Uuid)
    (errorMessage : Option String) : TriggerProgram Rest OntologyReleaseWorkflowTrigger :=
  Program.attempt (I := TriggerStore Rest) (.complete triggerId status workflowRunId errorMessage)
    id

def listRetryable (limit : Nat) : TriggerProgram Rest (List OntologyReleaseWorkflowTrigger) :=
  Program.perform (I := TriggerStore Rest) (.listRetryable limit)

def getTrigger (triggerId : Uuid) : TriggerProgram Rest OntologyReleaseWorkflowTrigger :=
  Program.attempt (I := TriggerStore Rest) (.getTrigger triggerId) id

def findRun (releaseId definitionId : Uuid) :
    TriggerProgram Rest (Option TriggeredWorkflowRun) :=
  Program.perform (I := TriggerStore Rest) (.findRun releaseId definitionId)

def createRun (draw : Uuid) (run : TriggeredWorkflowRun) :
    TriggerProgram Rest TriggeredWorkflowRun :=
  Program.perform (I := TriggerStore Rest) (.createRun draw run)

def onReleases {Result : Type} (program : OntologyReleaseProgram Result) :
    TriggerProgram Rest Result :=
  program.within (releasesWithin Rest)

def onRest {Result : Type} (program : Program Rest AppError Result) : TriggerProgram Rest Result :=
  program.within (restWithin Rest)

end TriggerProgram

open TriggerProgram

variable (outside : TriggerOutside Rest)

def createWorkflowRunFromDefinition (draw : Uuid) (definition : TriggerDefinition)
    (title : String) (inputPayload : Json) : TriggerProgram Rest TriggeredWorkflowRun := do
  if definition.releaseState ≠ "released" then
    throw (.badRequest "workflow run requires a released workflow definition")
  else do
    onRest (outside.prepareRun definition title inputPayload)
    let run ← createRun draw ⟨0, definition.id, inputPayload⟩
    onRest (outside.startRun definition run)
    return run

/-- The payload that a triggered run starts with. -/
def triggeredInputPayload (release : OntologyReleaseRecord) (toolSpecs : List Json) : Json :=
  .ofFields [
    ("trigger", .string "ontology_release.promoted"),
    ("ontology_release_id", .ofUuid release.id),
    ("ontology_version", .string release.version),
    ("domain_scope", .string release.domainScope),
    ("release_class", .string release.releaseClass),
    ("status", .string release.status.text),
    ("ontology_release", .ofFields [
      ("id", .ofUuid release.id),
      ("version", .string release.version),
      ("domain_scope", .string release.domainScope),
      ("release_class", .string release.releaseClass),
      ("status", .string release.status.text)]),
    ("action_catalog", .ofFields [
      ("source", .string "active_ontology_release"),
      ("tool_count", .ofNat toolSpecs.length),
      ("tool_specs", .array toolSpecs)])]

/-- The tool specs of the run that a release was built from. -/
def releaseToolSpecs (release : OntologyReleaseRecord) : TriggerProgram Rest (List Json) :=
  match release.sourceRunId with
  | some runId => onRest (outside.toolSpecsForRun runId)
  | none => pure []

/-- The claimed trigger is completed as failed, and the error is passed on. -/
def failTrigger {Result : Type} (triggerId : Uuid) (error : AppError) :
    TriggerProgram Rest Result := do
  let _trigger ← complete triggerId .failed none (some error.message)
  throw error

/-- The trigger is claimed, and what it starts is looked for before it is created. -/
def triggerWorkflowRunFromOntologyReleaseDefinition (draws : TriggerDraws)
    (release : OntologyReleaseRecord) (definition : TriggerDefinition) :
    TriggerProgram Rest (Option TriggeredWorkflowRun) := do
  match ← claim draws.trigger release.id definition.id with
  | none => return none
  | some trigger =>
      match ← findRun release.id definition.id with
      | some existingRun => do
          let _trigger ← complete trigger.id .triggered (some existingRun.id) none
          return some existingRun
      | none =>
          match ← (releaseToolSpecs outside release).caught with
          | .error error => failTrigger trigger.id error
          | .ok toolSpecs =>
              match ← (createWorkflowRunFromDefinition outside draws.run definition
                  ("Ontology promoted: " ++ release.domainScope ++ " " ++ release.version)
                  (triggeredInputPayload release toolSpecs)).caught with
              | .error error => failTrigger trigger.id error
              | .ok run => do
                  let _trigger ← complete trigger.id .triggered (some run.id) none
                  onRest (outside.announceRun run)
                  return some run

/-- Every definition is triggered; the first run and the first error are kept. -/
def triggerDefinitions (draws : Uuid → TriggerDraws) (release : OntologyReleaseRecord) :
    List TriggerDefinition → Option TriggeredWorkflowRun → Option AppError →
      TriggerProgram Rest (Option TriggeredWorkflowRun)
  | [], firstRun, none => return firstRun
  | [], _, some firstError => throw firstError
  | definition :: definitions, firstRun, firstError => do
      match ← (triggerWorkflowRunFromOntologyReleaseDefinition outside (draws definition.id) release
          definition).caught with
      | .ok run => triggerDefinitions draws release definitions (firstRun <|> run) firstError
      | .error error =>
          triggerDefinitions draws release definitions firstRun (firstError <|> some error)

def triggerWorkflowRunFromOntologyRelease (draws : Uuid → TriggerDraws)
    (release : OntologyReleaseRecord) : TriggerProgram Rest (Option TriggeredWorkflowRun) := do
  let definitions ← onRest outside.listWorkflowDefinitions
  triggerDefinitions outside draws release
    (ontologyReleaseWorkflowDefinitions release definitions) none none

/-- The status of the release after its workflows were triggered. -/
def recordTriggerStatus (releaseId : Uuid) (releaseStatus : TriggeredStatus)
    (triggerStatus actorSubject : String) (errorMessage : Option String) :
    TriggerProgram Rest OntologyReleaseRecord :=
  onReleases (updateOntologyReleaseWorkflowTriggerStatus outside.host releaseId releaseStatus
    triggerStatus actorSubject errorMessage)

def promoteOntologyReleaseWithActor (draws : Uuid → TriggerDraws) (releaseId : Uuid)
    (actorSubject : String) : TriggerProgram Rest OntologyReleaseRecord := do
  let (release, _previous) ← onReleases (Program.attempt (I := OntologyReleaseStore)
    (.promote releaseId actorSubject) id)
  match ← (triggerWorkflowRunFromOntologyRelease outside draws release).caught with
  | .ok (some _) => recordTriggerStatus outside release.id .active "triggered" actorSubject none
  | .ok none => recordTriggerStatus outside release.id .active "skipped" actorSubject none
  | .error error =>
      recordTriggerStatus outside release.id .activeTriggerFailed "failed" actorSubject
        (some error.message)

/-- A listed trigger of a release that is current. -/
def retryTrigger (draws : Uuid → TriggerDraws) (actorSubject : String) (triggerId : Uuid)
    (release : OntologyReleaseRecord) : TriggerProgram Rest Unit := do
  match ← (triggerWorkflowRunFromOntologyRelease outside draws release).caught with
  | .ok (some _) =>
      if release.status = .activeTriggerFailed then do
        let _release ← recordTriggerStatus outside release.id .active "triggered" actorSubject none
      else return
  | .ok none => do
      let _trigger ← complete triggerId .skipped none
        (some "workflow definition no longer matches ontology release trigger")
  | .error error => do
      let trigger ← getTrigger triggerId
      if trigger.status = .triggered ∧ trigger.workflowRunId.isSome then return
      else do
        let _release ← recordTriggerStatus outside release.id .activeTriggerFailed "failed"
          actorSubject (some error.message)
        let _trigger ← complete triggerId .failed none (some error.message)

/-- One turn of the drain. -/
def drainTrigger (draws : Uuid → TriggerDraws) (actorSubject : String)
    (trigger : OntologyReleaseWorkflowTrigger) : TriggerProgram Rest Unit := do
  match ← (onReleases (OntologyReleaseProgram.getOntologyRelease
      trigger.ontologyReleaseId)).caught with
  | .error error => do
      let _trigger ← complete trigger.id .failed none (some error.message)
  | .ok release =>
      if !release.isCurrent then do
        let _trigger ← complete trigger.id .skipped none (some ("ontology release status is " ++
          release.status.text ++ "; workflow trigger skipped"))
      else retryTrigger outside draws actorSubject trigger.id release

def drainTriggers (draws : Uuid → Uuid → TriggerDraws) (actorSubject : String) :
    List OntologyReleaseWorkflowTrigger → TriggerProgram Rest Unit
  | [] => return
  | trigger :: triggers => do
      drainTrigger outside (draws trigger.id) actorSubject trigger
      drainTriggers draws actorSubject triggers

def drainDueOntologyReleaseWorkflowTriggers (draws : Uuid → Uuid → TriggerDraws)
    (actorSubject : String) (limit : Nat) : TriggerProgram Rest Unit := do
  let triggers ← listRetryable limit
  drainTriggers outside draws actorSubject triggers

/-! ### Calls -/

inductive TriggerCall where
  | promote (draws : Uuid → TriggerDraws) (releaseId : Uuid) (actorSubject : String)
  | drain (draws : Uuid → Uuid → TriggerDraws) (actorSubject : String) (limit : Nat)
  /-- The trigger of one definition by itself. -/
  | trigger (draws : TriggerDraws) (release : OntologyReleaseRecord)
      (definition : TriggerDefinition)

/-- The program of a call.  What it returns nobody reads here. -/
def TriggerCall.program : TriggerCall → TriggerProgram Rest Unit
  | promote draws releaseId actorSubject => do
      let _release ← promoteOntologyReleaseWithActor outside draws releaseId actorSubject
  | drain draws actorSubject limit =>
      drainDueOntologyReleaseWorkflowTriggers outside draws actorSubject limit
  | trigger draws release definition => do
      let _run ← triggerWorkflowRunFromOntologyReleaseDefinition outside draws release definition

end programs

end MandoForge
