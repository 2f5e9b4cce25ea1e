/-
Module: MandoForge.Ontology.TriggerClaims
Purpose: What a call may rely on while it holds the claim of a workflow trigger, and that
  every call goes by it: a run is looked for and created under the claim of its pair, and
  who completes a trigger without its claim does not record it as triggered.
Trusted boundary: none
Main exports: TriggerTold, triggerProtocol
-/
import MandoForge.Ontology.WorkflowTriggers

namespace MandoForge

open Foundation

/-! ### What a call remembers -/

/-- A trigger that a call claimed, and the pair that it is for. -/
structure HeldTrigger where
  triggerId : Uuid
  releaseId : Uuid
  definitionId : Uuid
deriving DecidableEq, Repr

structure TriggerTold where
  /-- The trigger that the call claimed and has not completed. -/
  held : Option HeldTrigger
  /-- The call looked for a run of the pair and found none. -/
  vacant : Bool
deriving DecidableEq, Repr

def TriggerTold.nothing : TriggerTold := ⟨none, false⟩

section

variable {RestState : Type} {Rest : StoreInterface RestState}

def triggerTells : (operation : TriggerOperation Rest) → operation.Answer → TriggerTold →
    TriggerTold
  | .claim _ releaseId definitionId, some trigger, _ =>
      ⟨some ⟨trigger.id, releaseId, definitionId⟩, false⟩
  | .complete triggerId _ _ _, _, told =>
      if told.held.any fun held => decide (held.triggerId = triggerId) then .nothing else told
  | .findRun _ _, none, told => { told with vacant := true }
  | .findRun _ _, some _, told => { told with vacant := false }
  | .createRun _ _, _, told => { told with vacant := false }
  | _, _, told => told

def triggerObserver : Observer (TriggerStore Rest) TriggerTold Unit where
  tells := triggerTells
  acts _ _ heard := heard
  overhears _ _ heard := heard

/-- What a call does under a claim, and what it does without one. -/
def TriggerAllowed (told : TriggerTold) : TriggerOperation Rest → Prop
  | .claim _ _ _ => told.held = none
  | .complete triggerId status _ _ =>
      (∃ held, told.held = some held ∧ held.triggerId = triggerId) ∨
        (told.held = none ∧ status ≠ .triggered)
  | .findRun releaseId definitionId => ∃ held, told.held = some held ∧
      held.releaseId = releaseId ∧ held.definitionId = definitionId
  | .createRun _ run => ∃ held, told.held = some held ∧ told.vacant = true ∧
      run.isFor held.releaseId held.definitionId = true
  | _ => True

/-! ### What the operations do to the triggers -/

/-- A pair has one trigger. -/
def OneTriggerPerPair (triggers : WorkflowTriggerTable) : Prop :=
  ∀ releaseId definitionId, ∀ first ∈ triggers, ∀ second ∈ triggers,
    first.isFor releaseId definitionId = true → second.isFor releaseId definitionId = true →
      first = second

/-- A stored trigger stays stored, for its pair. -/
def TriggersKept (before after : WorkflowTriggerTable) : Prop :=
  ∀ triggerId old, before.find? triggerId = some old → ∃ new,
    after.find? triggerId = some new ∧ new.ontologyReleaseId = old.ontologyReleaseId ∧
      new.workflowDefinitionId = old.workflowDefinitionId

/-- A row is written: a new trigger of a pair that has none, or one in place of another
of its pair. -/
structure TriggerWritten (before after : WorkflowTriggerTable)
    (trigger : OntologyReleaseWorkflowTrigger) : Prop where
  stored : after = before.insert trigger
  placed : (before.find? trigger.id = none ∧ ∀ other ∈ before,
      other.isFor trigger.ontologyReleaseId trigger.workflowDefinitionId = false) ∨
    ∃ old, before.find? trigger.id = some old ∧
      trigger.ontologyReleaseId = old.ontologyReleaseId ∧
      trigger.workflowDefinitionId = old.workflowDefinitionId

theorem OntologyReleaseWorkflowTrigger.isFor_iff {releaseId definitionId : Uuid}
    {trigger : OntologyReleaseWorkflowTrigger} :
    trigger.isFor releaseId definitionId = true ↔
      trigger.ontologyReleaseId = releaseId ∧ trigger.workflowDefinitionId = definitionId := by
  simp [isFor]

namespace TriggerWritten

variable {before after : WorkflowTriggerTable} {trigger : OntologyReleaseWorkflowTrigger}

theorem kept (written : TriggerWritten before after trigger) : TriggersKept before after := by
  intro triggerId old found
  by_cases same : triggerId = trigger.id
  · subst same
    rcases written.placed with ⟨fresh, -⟩ | ⟨stored, isStored, sameRelease, sameDefinition⟩
    · rw [fresh] at found
      cases found
    · obtain rfl := Option.some.inj (found.symm.trans isStored)
      exact ⟨trigger, by rw [written.stored, Table.find?_insert_same], sameRelease,
        sameDefinition⟩
  · exact ⟨old, by rw [written.stored, Table.find?_insert_of_ne same, found], rfl, rfl⟩

theorem onePerPair (written : TriggerWritten before after trigger)
    (one : OneTriggerPerPair before) : OneTriggerPerPair after := by
  have only : ∀ other ∈ before, other.id ≠ trigger.id →
      other.isFor trigger.ontologyReleaseId trigger.workflowDefinitionId = false := by
    intro other member differs
    rcases written.placed with ⟨-, free⟩ | ⟨old, found, sameRelease, sameDefinition⟩
    · exact free other member
    · apply Bool.eq_false_of_not_eq_true
      intro isFor
      obtain ⟨oldMember, sameId⟩ := Table.find?_eq_some.mp found
      have same := one _ _ other member old oldMember isFor
        (OntologyReleaseWorkflowTrigger.isFor_iff.mpr ⟨sameRelease.symm, sameDefinition.symm⟩)
      exact differs (same ▸ sameId)
  intro releaseId definitionId first firstMember second secondMember firstFor secondFor
  rw [written.stored] at firstMember secondMember
  rcases Table.mem_insert_iff.mp firstMember with rfl | ⟨firstDiffers, firstIn⟩
  · rcases Table.mem_insert_iff.mp secondMember with rfl | ⟨secondDiffers, secondIn⟩
    · rfl
    · obtain ⟨rfl, rfl⟩ := OntologyReleaseWorkflowTrigger.isFor_iff.mp firstFor
      rw [only second secondIn secondDiffers] at secondFor
      cases secondFor
  · rcases Table.mem_insert_iff.mp secondMember with rfl | ⟨-, secondIn⟩
    · obtain ⟨rfl, rfl⟩ := OntologyReleaseWorkflowTrigger.isFor_iff.mp secondFor
      rw [only first firstIn firstDiffers] at firstFor
      cases firstFor
    · exact one releaseId definitionId first firstIn second secondIn firstFor secondFor

end TriggerWritten

theorem TriggersKept.refl (triggers : WorkflowTriggerTable) : TriggersKept triggers triggers :=
  fun _ old found => ⟨old, found, rfl, rfl⟩

/-- A claim that goes through writes a pending trigger of the pair, a new one or one that
could be tried again. -/
structure TriggerClaimed (before after : WorkflowTriggerTable) (staleBefore : Timestamp)
    (releaseId definitionId : Uuid) (trigger : OntologyReleaseWorkflowTrigger) : Prop
    extends TriggerWritten before after trigger where
  isFor : trigger.isFor releaseId definitionId = true
  pending : trigger.status = .pending
  retryable : ∀ old, before.find? trigger.id = some old →
    old.isFor releaseId definitionId = true ∧ old.isRetryable staleBefore = true

theorem claimOntologyReleaseWorkflowTrigger_cases {now reclaimAfter : Timestamp}
    {draw releaseId definitionId : Uuid} {triggers : WorkflowTriggerTable} :
    claimOntologyReleaseWorkflowTrigger now reclaimAfter draw releaseId definitionId triggers =
        (none, triggers) ∨
      ∃ trigger, (claimOntologyReleaseWorkflowTrigger now reclaimAfter draw releaseId definitionId
          triggers).1 = some trigger ∧
        TriggerClaimed triggers (claimOntologyReleaseWorkflowTrigger now reclaimAfter draw
          releaseId definitionId triggers).2 (now - reclaimAfter) releaseId definitionId
          trigger := by
  unfold claimOntologyReleaseWorkflowTrigger
  split
  · rename_i old found
    have member : old ∈ triggers := List.mem_of_find?_eq_some found
    have isFor := List.find?_some found
    split
    · rename_i retryable
      have oldFound : triggers.find? (old.claimed now).id = some old := Table.find?_key member
      refine .inr ⟨old.claimed now, rfl, ⟨rfl, .inr ⟨old, oldFound, rfl, rfl⟩⟩, isFor, rfl, ?_⟩
      intro stored isStored
      obtain rfl := Option.some.inj (oldFound.symm.trans isStored)
      exact ⟨isFor, retryable⟩
    · exact .inl rfl
  · rename_i free
    refine .inr ⟨newOntologyReleaseWorkflowTrigger now (triggers.drawKey draw) releaseId
      definitionId, rfl, ⟨rfl, .inl ⟨Table.find?_drawKey, fun other member => ?_⟩⟩,
      OntologyReleaseWorkflowTrigger.isFor_iff.mpr ⟨rfl, rfl⟩, rfl, ?_⟩
    · exact Bool.eq_false_of_not_eq_true (List.find?_eq_none.mp free other member)
    · intro stored isStored
      have fresh : triggers.find? (triggers.drawKey draw) = none := Table.find?_drawKey
      cases fresh.symm.trans isStored

theorem completeOntologyReleaseWorkflowTrigger_cases {now : Timestamp} {triggerId : Uuid}
    {status : WorkflowTriggerStatus} {workflowRunId : Option Uuid} {errorMessage : Option String}
    {triggers : WorkflowTriggerTable} :
    (completeOntologyReleaseWorkflowTrigger now triggerId status workflowRunId errorMessage
        triggers).2 = triggers ∨
      ∃ old, triggers.find? triggerId = some old ∧
        TriggerWritten triggers (completeOntologyReleaseWorkflowTrigger now triggerId status
            workflowRunId errorMessage triggers).2
          (old.completed now status workflowRunId errorMessage) := by
  unfold completeOntologyReleaseWorkflowTrigger
  split
  · exact .inl rfl
  · rename_i old found
    obtain rfl := (Table.find?_eq_some.mp found).2
    exact .inr ⟨old, found, rfl, .inr ⟨old, found, rfl, rfl⟩⟩

/-- Every operation keeps the triggers stored, and one for a pair. -/
theorem TriggerOperation.triggers_perform (operation : TriggerOperation Rest)
    (world : TriggerWorld RestState) (one : OneTriggerPerPair world.triggers) :
    TriggersKept world.triggers (operation.perform world).2.triggers ∧
      OneTriggerPerPair (operation.perform world).2.triggers := by
  cases operation with
  | claim draw releaseId definitionId =>
      rcases @claimOntologyReleaseWorkflowTrigger_cases world.now world.reclaimAfter draw
        releaseId definitionId world.triggers with refused | ⟨trigger, -, claimed⟩
      · have same : ((TriggerOperation.claim draw releaseId definitionId :
            TriggerOperation Rest).perform world).2.triggers = world.triggers :=
          congrArg Prod.snd refused
        rw [same]
        exact ⟨TriggersKept.refl _, one⟩
      · exact ⟨claimed.kept, claimed.onePerPair one⟩
  | complete triggerId status workflowRunId errorMessage =>
      rcases @completeOntologyReleaseWorkflowTrigger_cases world.now triggerId status workflowRunId
        errorMessage world.triggers with same | ⟨old, -, written⟩
      · have isSame : ((TriggerOperation.complete triggerId status workflowRunId errorMessage :
            TriggerOperation Rest).perform world).2.triggers = world.triggers := same
        rw [isSame]
        exact ⟨TriggersKept.refl _, one⟩
      · exact ⟨written.kept, written.onePerPair one⟩
  | listRetryable limit => exact ⟨TriggersKept.refl _, one⟩
  | getTrigger triggerId => exact ⟨TriggersKept.refl _, one⟩
  | findRun releaseId definitionId => exact ⟨TriggersKept.refl _, one⟩
  | createRun draw run => exact ⟨TriggersKept.refl _, one⟩
  | onReleases operation => exact ⟨TriggersKept.refl _, one⟩
  | onRest operation => exact ⟨TriggersKept.refl _, one⟩

/-! ### The protocol -/

/-- The trigger that a call holds is stored, for its pair. -/
def HeldStored (world : TriggerWorld RestState) (told : TriggerTold) (_ : Unit) : Prop :=
  ∀ held, told.held = some held → ∃ trigger, world.triggers.find? held.triggerId = some trigger ∧
    trigger.isFor held.releaseId held.definitionId = true

theorem HeldStored.of_kept {world later : TriggerWorld RestState} {told : TriggerTold}
    (owned : HeldStored world told ()) (kept : TriggersKept world.triggers later.triggers) :
    HeldStored later told () := by
  intro held isHeld
  obtain ⟨trigger, found, isFor⟩ := owned held isHeld
  obtain ⟨new, isNew, sameRelease, sameDefinition⟩ := kept held.triggerId trigger found
  obtain ⟨isRelease, isDefinition⟩ := OntologyReleaseWorkflowTrigger.isFor_iff.mp isFor
  exact ⟨new, isNew, OntologyReleaseWorkflowTrigger.isFor_iff.mpr
    ⟨sameRelease.trans isRelease, sameDefinition.trans isDefinition⟩⟩

/-- Only a claim that goes through gives a call a trigger. -/
theorem triggerTells_held {operation : TriggerOperation Rest} {answer : operation.Answer}
    {told : TriggerTold} {held : HeldTrigger}
    (isHeld : (triggerTells operation answer told).held = some held) :
    told.held = some held ∨ ∃ draw releaseId definitionId trigger,
      operation = .claim draw releaseId definitionId ∧
        HEq answer (some trigger : Option OntologyReleaseWorkflowTrigger) ∧
        held = ⟨trigger.id, releaseId, definitionId⟩ := by
  unfold triggerTells at isHeld
  split at isHeld
  · rename_i draw releaseId definitionId trigger
    cases isHeld
    exact .inr ⟨draw, releaseId, definitionId, trigger, rfl, HEq.rfl, rfl⟩
  · split at isHeld
    · cases isHeld
    · exact .inl isHeld
  · exact .inl isHeld
  · exact .inl isHeld
  · exact .inl isHeld
  · exact .inl isHeld

theorem triggerProtocol :
    Protocol (I := TriggerStore Rest) triggerObserver TriggerAllowed
      (fun world => OneTriggerPerPair world.triggers) HeldStored := by
  constructor
  case state =>
    intro operation world told _ one _ _
    exact (operation.triggers_perform world one).2
  case acting =>
    intro operation world told _ one owned _ held isHeld
    rcases triggerTells_held isHeld with
      before | ⟨draw, releaseId, definitionId, trigger, rfl, answered, rfl⟩
    · exact HeldStored.of_kept owned (operation.triggers_perform world one).1 held before
    · have isSome : (claimOntologyReleaseWorkflowTrigger world.now world.reclaimAfter draw releaseId
          definitionId world.triggers).1 = some trigger := eq_of_heq answered
      rcases @claimOntologyReleaseWorkflowTrigger_cases world.now world.reclaimAfter draw
        releaseId definitionId world.triggers with refused | ⟨claimed, isClaimed, written⟩
      · rw [refused] at isSome
        cases isSome
      · obtain rfl := Option.some.inj (isSome.symm.trans isClaimed)
        refine ⟨trigger, ?_, written.isFor⟩
        change (claimOntologyReleaseWorkflowTrigger world.now world.reclaimAfter draw releaseId
          definitionId world.triggers).2.find? trigger.id = some trigger
        rw [written.stored, Table.find?_insert_same]
  case others =>
    intro operation world told _ otherTold _ one _ _ otherOwned
    exact HeldStored.of_kept otherOwned (operation.triggers_perform world one).1

/-! ### The programs -/

section programs

variable (outside : TriggerOutside Rest) {told : TriggerTold}

/-- The program, called with no trigger in hand, has none when it ends. -/
def HoldsNothingAfter {Result : Type} (program : TriggerProgram Rest Result) : Prop :=
  ∀ told : TriggerTold, told.held = none →
    program.caught.Respects triggerTells TriggerAllowed told fun _ after => after.held = none

theorem HoldsNothingAfter.pure {Result : Type} (result : Result) :
    HoldsNothingAfter (Pure.pure result : TriggerProgram Rest Result) := fun _ free => free

theorem HoldsNothingAfter.throw {Result : Type} (error : AppError) :
    HoldsNothingAfter (MonadExcept.throw error : TriggerProgram Rest Result) := fun _ free => free

theorem HoldsNothingAfter.bind {Result Next : Type} {program : TriggerProgram Rest Result}
    {next : Result → TriggerProgram Rest Next} (before : HoldsNothingAfter program)
    (rest : ∀ result, HoldsNothingAfter (next result)) : HoldsNothingAfter (program >>= next) := by
  intro told free
  apply Program.Respects.caught_bind
  apply (before told free).mono
  intro outcome after stillFree
  cases outcome with
  | ok result => exact rest result after stillFree
  | error error => exact stillFree

theorem HoldsNothingAfter.caught {Result : Type} {program : TriggerProgram Rest Result}
    (holds : HoldsNothingAfter program) : HoldsNothingAfter program.caught :=
  fun told free => Program.Respects.caught_caught (holds told free)

theorem HoldsNothingAfter.perform {operation : TriggerOperation Rest}
    (isAllowed : ∀ told, told.held = none → TriggerAllowed told operation)
    (gives : ∀ answer told, told.held = none → (triggerTells operation answer told).held = none) :
    HoldsNothingAfter (Program.perform (I := TriggerStore Rest) operation) :=
  fun told free => ⟨isAllowed told free, fun answer => gives answer told free⟩

theorem HoldsNothingAfter.attempt {Result : Type} {operation : TriggerOperation Rest}
    {answer : operation.Answer → Except AppError Result}
    (isAllowed : ∀ told, told.held = none → TriggerAllowed told operation)
    (gives : ∀ answer told, told.held = none → (triggerTells operation answer told).held = none) :
    HoldsNothingAfter (Program.attempt (I := TriggerStore Rest) operation answer) :=
  fun told free => Program.respects_caught_attempt.mpr
    ⟨isAllowed told free, fun given => gives given told free⟩

theorem HoldsNothingAfter.onReleases {Result : Type} (program : OntologyReleaseProgram Result) :
    HoldsNothingAfter (TriggerProgram.onReleases program : TriggerProgram Rest Result) :=
  fun _ free => Program.caught_within_respects (fun _ => trivial) (fun _ _ => rfl) fun _ => free

theorem HoldsNothingAfter.onRest {Result : Type} (program : Program Rest AppError Result) :
    HoldsNothingAfter (TriggerProgram.onRest program) :=
  fun _ free => Program.caught_within_respects (fun _ => trivial) (fun _ _ => rfl) fun _ => free

theorem onRest_caught_respects {Result : Type} {program : Program Rest AppError Result}
    {post : Except AppError Result → TriggerTold → Prop} (holds : ∀ outcome, post outcome told) :
    (TriggerProgram.onRest program).caught.Respects triggerTells TriggerAllowed told post :=
  Program.caught_within_respects (fun _ => trivial) (fun _ _ => rfl) holds

theorem HoldsNothingAfter.complete {triggerId : Uuid} {status : WorkflowTriggerStatus}
    {workflowRunId : Option Uuid} {errorMessage : Option String} (untriggered : status ≠ .triggered) :
    HoldsNothingAfter (TriggerProgram.complete triggerId status workflowRunId errorMessage :
      TriggerProgram Rest OntologyReleaseWorkflowTrigger) := by
  apply HoldsNothingAfter.attempt
  · exact fun told free => .inr ⟨free, untriggered⟩
  · intro answer told free
    simp only [triggerTells, free, Option.any_none, Bool.false_eq_true, if_false]

theorem complete_caught_respects (held : HeldTrigger) {triggerId : Uuid}
    {status : WorkflowTriggerStatus} {workflowRunId : Option Uuid} {errorMessage : Option String}
    (isHeld : told.held = some held) (same : held.triggerId = triggerId) :
    (TriggerProgram.complete triggerId status workflowRunId errorMessage :
      TriggerProgram Rest OntologyReleaseWorkflowTrigger).caught.Respects triggerTells
        TriggerAllowed told fun _ after => after.held = none := by
  refine Program.respects_caught_attempt.mpr ⟨.inl ⟨held, isHeld, same⟩, fun given => ?_⟩
  simp only [triggerTells, isHeld, Option.any_some, same, decide_true, if_true]
  rfl

theorem failTrigger_caught_respects {Result : Type} (held : HeldTrigger) {triggerId : Uuid}
    {error : AppError} (isHeld : told.held = some held) (same : held.triggerId = triggerId) :
    (failTrigger triggerId error : TriggerProgram Rest Result).caught.Respects triggerTells
      TriggerAllowed told fun _ after => after.held = none := by
  unfold failTrigger
  apply Program.Respects.caught_bind
  apply (complete_caught_respects held isHeld same).mono
  intro outcome after free
  cases outcome with
  | ok trigger => exact free
  | error error => exact free

theorem triggeredInputPayload_isFor {release : OntologyReleaseRecord} {toolSpecs : List Json}
    {id definitionId : Uuid} :
    TriggeredWorkflowRun.isFor release.id definitionId
      ⟨id, definitionId, triggeredInputPayload release toolSpecs⟩ = true := by
  simp [TriggeredWorkflowRun.isFor, triggeredInputPayload, Json.ofFields, Json.index, Json.get,
    Json.getField_insertField]

/-- A run is created for the pair of the claim, and the claim stays. -/
theorem createWorkflowRunFromDefinition_caught_respects {draw : Uuid} (held : HeldTrigger)
    {definition : TriggerDefinition} {title : String} {inputPayload : Json}
    (isHeld : told.held = some held) (vacant : told.vacant = true)
    (isFor : TriggeredWorkflowRun.isFor held.releaseId held.definitionId
      ⟨0, definition.id, inputPayload⟩ = true) :
    (createWorkflowRunFromDefinition outside draw definition title
      inputPayload).caught.Respects triggerTells TriggerAllowed told
        fun _ after => after.held = some held := by
  unfold createWorkflowRunFromDefinition
  split
  · exact isHeld
  · apply Program.Respects.caught_bind
    apply onRest_caught_respects
    intro outcome
    cases outcome with
    | error error => exact isHeld
    | ok _ =>
        apply Program.Respects.caught_bind
        refine Program.respects_caught_perform.mpr ⟨⟨held, isHeld, vacant, isFor⟩, fun run => ?_⟩
        apply Program.Respects.caught_bind
        apply onRest_caught_respects
        intro outcome
        cases outcome with
        | error error => exact isHeld
        | ok _ => exact isHeld

theorem completed_caught_respects {Result : Type} (held : HeldTrigger) {triggerId : Uuid}
    {status : WorkflowTriggerStatus} {workflowRunId : Option Uuid} {errorMessage : Option String}
    {next : OntologyReleaseWorkflowTrigger → TriggerProgram Rest Result}
    (isHeld : told.held = some held) (same : held.triggerId = triggerId)
    (rest : ∀ trigger, HoldsNothingAfter (next trigger)) :
    (TriggerProgram.complete triggerId status workflowRunId errorMessage >>= next).caught.Respects
      triggerTells TriggerAllowed told fun _ after => after.held = none := by
  apply Program.Respects.caught_bind
  apply (complete_caught_respects held isHeld same).mono
  intro outcome after free
  cases outcome with
  | ok trigger => exact rest trigger after free
  | error error => exact free

theorem releaseToolSpecs_caught_respects {release : OntologyReleaseRecord}
    {post : Except AppError (List Json) → TriggerTold → Prop} (holds : ∀ outcome, post outcome told) :
    (releaseToolSpecs outside release).caught.Respects triggerTells TriggerAllowed told post := by
  unfold releaseToolSpecs
  split
  · exact onRest_caught_respects holds
  · exact holds (.ok [])

theorem triggerWorkflowRunFromOntologyReleaseDefinition_holds {draws : TriggerDraws}
    {release : OntologyReleaseRecord} {definition : TriggerDefinition} :
    HoldsNothingAfter
      (triggerWorkflowRunFromOntologyReleaseDefinition outside draws release definition) := by
  intro told free
  unfold triggerWorkflowRunFromOntologyReleaseDefinition
  apply Program.Respects.caught_bind
  refine Program.respects_caught_perform.mpr ⟨free, fun claimed => ?_⟩
  cases claimed with
  | none => exact free
  | some trigger =>
      apply Program.Respects.caught_bind
      refine Program.respects_caught_perform.mpr ⟨⟨_, rfl, rfl, rfl⟩, fun existing => ?_⟩
      cases existing with
      | some run =>
          exact completed_caught_respects ⟨trigger.id, release.id, definition.id⟩ rfl rfl
            fun _ => HoldsNothingAfter.pure _
      | none =>
          apply Program.Respects.caught_bind
          apply Program.Respects.caught_caught
          apply releaseToolSpecs_caught_respects
          intro toolSpecs
          cases toolSpecs with
          | error error =>
              exact failTrigger_caught_respects ⟨trigger.id, release.id, definition.id⟩ rfl rfl
          | ok toolSpecs =>
              apply Program.Respects.caught_bind
              apply Program.Respects.caught_caught
              apply (createWorkflowRunFromDefinition_caught_respects outside
                ⟨trigger.id, release.id, definition.id⟩ rfl rfl triggeredInputPayload_isFor).mono
              intro created after isHeld
              cases created with
              | error error => exact failTrigger_caught_respects _ isHeld rfl
              | ok run =>
                  exact completed_caught_respects _ isHeld rfl fun _ =>
                    (HoldsNothingAfter.onRest _).bind fun _ => HoldsNothingAfter.pure _

theorem triggerDefinitions_holds {draws : Uuid → TriggerDraws} {release : OntologyReleaseRecord}
    {definitions : List TriggerDefinition} {firstRun : Option TriggeredWorkflowRun}
    {firstError : Option AppError} :
    HoldsNothingAfter (triggerDefinitions outside draws release definitions firstRun firstError) := by
  induction definitions generalizing firstRun firstError with
  | nil =>
      cases firstError with
      | none => exact HoldsNothingAfter.pure firstRun
      | some error => exact HoldsNothingAfter.throw error
  | cons definition definitions inductionHypothesis =>
      unfold triggerDefinitions
      apply (triggerWorkflowRunFromOntologyReleaseDefinition_holds outside).caught.bind
      intro outcome
      cases outcome with
      | ok run => exact inductionHypothesis
      | error error => exact inductionHypothesis

theorem triggerWorkflowRunFromOntologyRelease_holds {draws : Uuid → TriggerDraws}
    {release : OntologyReleaseRecord} :
    HoldsNothingAfter (triggerWorkflowRunFromOntologyRelease outside draws release) :=
  (HoldsNothingAfter.onRest _).bind fun _ => triggerDefinitions_holds outside

theorem promoteOntologyReleaseWithActor_holds {draws : Uuid → TriggerDraws} {releaseId : Uuid}
    {actorSubject : String} :
    HoldsNothingAfter (promoteOntologyReleaseWithActor outside draws releaseId actorSubject) := by
  unfold promoteOntologyReleaseWithActor
  apply (HoldsNothingAfter.onReleases _).bind
  rintro ⟨release, previous⟩
  apply (triggerWorkflowRunFromOntologyRelease_holds outside).caught.bind
  intro outcome
  match outcome with
  | .ok (some run) => exact HoldsNothingAfter.onReleases _
  | .ok none => exact HoldsNothingAfter.onReleases _
  | .error error => exact HoldsNothingAfter.onReleases _

theorem HoldsNothingAfter.completeLast {triggerId : Uuid} {status : WorkflowTriggerStatus}
    {errorMessage : Option String} (untriggered : status ≠ .triggered) :
    HoldsNothingAfter (do
      let _trigger ← TriggerProgram.complete triggerId status none errorMessage
      Pure.pure () : TriggerProgram Rest Unit) :=
  (HoldsNothingAfter.complete untriggered).bind fun _ => HoldsNothingAfter.pure _

theorem retryTrigger_holds {draws : Uuid → TriggerDraws} {actorSubject : String}
    {triggerId : Uuid} {release : OntologyReleaseRecord} :
    HoldsNothingAfter (retryTrigger outside draws actorSubject triggerId release) := by
  unfold retryTrigger
  apply (triggerWorkflowRunFromOntologyRelease_holds outside).caught.bind
  intro outcome
  match outcome with
  | .ok (some run) =>
      dsimp only
      split
      · exact (HoldsNothingAfter.onReleases _).bind fun _ => HoldsNothingAfter.pure _
      · exact HoldsNothingAfter.pure _
  | .ok none => exact HoldsNothingAfter.completeLast nofun
  | .error error =>
      have getTrigger : HoldsNothingAfter (TriggerProgram.getTrigger triggerId :
          TriggerProgram Rest OntologyReleaseWorkflowTrigger) :=
        HoldsNothingAfter.attempt (fun _ _ => trivial) fun _ _ free => free
      apply getTrigger.bind
      intro trigger
      split
      · exact HoldsNothingAfter.pure _
      · exact (HoldsNothingAfter.onReleases _).bind fun _ => HoldsNothingAfter.completeLast nofun

theorem drainTrigger_holds {draws : Uuid → TriggerDraws} {actorSubject : String}
    {trigger : OntologyReleaseWorkflowTrigger} :
    HoldsNothingAfter (drainTrigger outside draws actorSubject trigger) := by
  unfold drainTrigger
  apply (HoldsNothingAfter.onReleases _).caught.bind
  intro outcome
  cases outcome with
  | error error => exact HoldsNothingAfter.completeLast nofun
  | ok release =>
      dsimp only
      split
      · exact HoldsNothingAfter.completeLast nofun
      · exact retryTrigger_holds outside

theorem drainTriggers_holds {draws : Uuid → Uuid → TriggerDraws} {actorSubject : String}
    {triggers : List OntologyReleaseWorkflowTrigger} :
    HoldsNothingAfter (drainTriggers outside draws actorSubject triggers) := by
  induction triggers with
  | nil => exact HoldsNothingAfter.pure _
  | cons trigger triggers inductionHypothesis =>
      exact (drainTrigger_holds outside).bind fun _ => inductionHypothesis

/-- Every call goes by the protocol. -/
theorem TriggerCall.program_respects (call : TriggerCall) :
    (call.program outside).Respects triggerTells TriggerAllowed .nothing fun _ _ => True := by
  have holds : HoldsNothingAfter (call.program outside) := by
    cases call with
    | promote draws releaseId actorSubject =>
        exact (promoteOntologyReleaseWithActor_holds outside).bind fun _ =>
          HoldsNothingAfter.pure _
    | drain draws actorSubject limit =>
        have listed : HoldsNothingAfter (TriggerProgram.listRetryable limit :
            TriggerProgram Rest (List OntologyReleaseWorkflowTrigger)) :=
          HoldsNothingAfter.perform (fun _ _ => trivial) fun _ _ free => free
        exact listed.bind fun _ => drainTriggers_holds outside
    | trigger draws release definition =>
        exact (triggerWorkflowRunFromOntologyReleaseDefinition_holds outside).bind fun _ =>
          HoldsNothingAfter.pure _
  apply Program.Respects.of_caught
  exact (holds .nothing rfl).mono fun _ _ _ _ _ => trivial

end programs

end

end MandoForge
