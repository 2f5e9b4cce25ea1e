/-
Module: MandoForge.Ontology.TriggerRuns
Purpose: Every interleaving of the calls that trigger workflow runs from ontology
  releases.  A pair of a release and a workflow definition gets one run, and what is
  recorded as triggered stays, as long as no claim is taken over from a call that still
  holds it and no drain completes a triggered trigger.
Trusted boundary: beside the calls the releases and the rest of the store change, and
  calls are given up.
Main exports: TriggerEvent, two_runs_for_one_trigger
-/
import MandoForge.Foundation.Runs
import MandoForge.Ontology.TriggerClaims
import Mathlib.Logic.Function.Basic

namespace MandoForge

open Foundation

/-! ### Runs -/

section runs

variable {RestState : Type} {Rest : StoreInterface RestState}

abbrev TriggerPool (Rest : StoreInterface RestState) :=
  Pool (TriggerStore Rest) AppError Unit TriggerTold Unit

inductive TriggerEvent (RestState : Type) where
  | enter (call : TriggerCall)
  /-- One of the calls performs its next store operation. -/
  | operate (index : Nat)
  /-- One of the calls is given up where it is. -/
  | abandon (index : Nat)
  /-- The rest of the store changes beside the calls, and the clock moves. -/
  | elsewhere (releases : OntologyReleaseWorld) (reclaimAfter : Timestamp) (rest : RestState)

def callAbandoned : AppError := .internal "call abandoned"

def TriggerEvent.perform (outside : TriggerOutside Rest) (event : TriggerEvent RestState)
    (pool : TriggerPool Rest) : TriggerPool Rest :=
  match event with
  | .enter call => pool.enter (call.program outside) .nothing ()
  | .operate index => pool.operate triggerObserver index
  | .abandon index => pool.abandon callAbandoned .nothing () index
  | .elsewhere releases reclaimAfter rest =>
      { pool with state := { pool.state with releases, reclaimAfter, rest } }

/-- No trigger and no triggered run is stored, and no call is under way. -/
def noTriggers (world : TriggerWorld RestState) : TriggerPool Rest where
  state := { world with triggers := Table.empty, workflowRuns := Table.empty }
  calls := []

/-! ### What is claimed -/

/-- A pair of a release and a definition has at most one run. -/
def OneRunPerPair (runs : TriggeredRunTable) : Prop :=
  ∀ releaseId definitionId, ∀ first ∈ runs, ∀ second ∈ runs,
    first.isFor releaseId definitionId = true → second.isFor releaseId definitionId = true →
      first = second

/-- A trigger that is recorded as triggered keeps its status and its run. -/
def KeepsTriggered (before after : WorkflowTriggerTable) : Prop :=
  ∀ trigger ∈ before, trigger.status = .triggered → ∀ runId, trigger.workflowRunId = some runId →
    ∃ later, after.find? trigger.id = some later ∧ later.status = .triggered ∧
      later.workflowRunId = some runId

structure TriggersSettled (outside : TriggerOutside Rest) (events : List (TriggerEvent RestState))
    (world : TriggerWorld RestState) : Prop where
  oneRun : HeldAlong (TriggerEvent.perform outside)
    (fun pool => OneRunPerPair pool.state.workflowRuns) events (noTriggers world)
  kept : MetAlong (TriggerEvent.perform outside)
    (fun event pool => KeepsTriggered pool.state.triggers
      (event.perform outside pool).state.triggers) events (noTriggers world)

/-! ### What the calls have to keep apart -/

/-- A claim that goes through takes the trigger over from no call under way; a trigger that
is completed without its claim is not triggered. -/
def TriggerOperation.Apart (pool : TriggerPool Rest) (told : TriggerTold) :
    TriggerOperation Rest → Prop
  | .claim _ releaseId definitionId => ∀ trigger ∈ pool.state.triggers.rows,
      trigger.isFor releaseId definitionId = true →
      trigger.isRetryable (pool.state.now - pool.state.reclaimAfter) = true →
      ∀ call ∈ pool.calls, ∀ held ∈ call.told.held, held.triggerId ≠ trigger.id
  | .complete triggerId _ _ _ => told.held = none →
      ∀ trigger ∈ pool.state.triggers.rows, trigger.id = triggerId → trigger.status ≠ .triggered
  | _ => True

def ClaimsApart (event : TriggerEvent RestState) (pool : TriggerPool Rest) : Prop :=
  match event with
  | .operate index => ∀ next ∈ pool.next index, next.2.Apart pool next.1
  | _ => True

/-! ### What the claims rest on -/

/-- What holds of the triggers and the runs, and of what the calls hold: a trigger is held
once, it is not triggered, and what was found vacant is vacant. -/
structure ClaimsSound (triggers : WorkflowTriggerTable) (runs : TriggeredRunTable)
    (told : Nat → Option TriggerTold) : Prop where
  oneRun : OneRunPerPair runs
  exclusive : ∀ first second firstTold secondTold one two, told first = some firstTold →
    told second = some secondTold → firstTold.held = some one → secondTold.held = some two →
    one.triggerId = two.triggerId → first = second
  untriggered : ∀ index isTold held trigger, told index = some isTold → isTold.held = some held →
    triggers.find? held.triggerId = some trigger → trigger.status ≠ .triggered
  vacant : ∀ index isTold held, told index = some isTold → isTold.held = some held →
    isTold.vacant = true → ∀ run ∈ runs, run.isFor held.releaseId held.definitionId = false

section steps

variable {triggers later : WorkflowTriggerTable} {runs laterRuns : TriggeredRunTable}
  {told laterTold : Nat → Option TriggerTold} {index : Nat} {now next : TriggerTold}

/-- Nobody holds more than before. -/
theorem ClaimsSound.of_source (sound : ClaimsSound triggers runs told)
    (source : ∀ index isTold held, laterTold index = some isTold → isTold.held = some held →
      ∃ was, told index = some was ∧ was.held = some held)
    (oneRun : OneRunPerPair laterRuns)
    (untriggered : ∀ index isTold held trigger, laterTold index = some isTold →
      isTold.held = some held → later.find? held.triggerId = some trigger →
        trigger.status ≠ .triggered)
    (vacant : ∀ index isTold held, laterTold index = some isTold → isTold.held = some held →
      isTold.vacant = true → ∀ run ∈ laterRuns,
        run.isFor held.releaseId held.definitionId = false) :
    ClaimsSound later laterRuns laterTold := by
  refine ⟨oneRun, ?exclusive, untriggered, vacant⟩
  intro first second firstTold secondTold one two isFirst isSecond firstHeld secondHeld same
  obtain ⟨firstWas, wasFirst, firstHad⟩ := source first firstTold one isFirst firstHeld
  obtain ⟨secondWas, wasSecond, secondHad⟩ := source second secondTold two isSecond secondHeld
  exact sound.exclusive first second firstWas secondWas one two wasFirst wasSecond firstHad
    secondHad same

theorem eq_or_told_of_update {other : Nat} {found : TriggerTold}
    (isFound : Function.update told index (some next) other = some found) :
    (other = index ∧ found = next) ∨ (other ≠ index ∧ told other = some found) := by
  by_cases same : other = index
  · subst same
    rw [Function.update_self] at isFound
    exact .inl ⟨rfl, (Option.some.inj isFound).symm⟩
  · rw [Function.update_of_ne same] at isFound
    exact .inr ⟨same, isFound⟩

theorem held_of_update (isNow : told index = some now)
    (holds : ∀ held, next.held = some held → now.held = some held) :
    ∀ other isTold held, Function.update told index (some next) other = some isTold →
      isTold.held = some held → ∃ was, told other = some was ∧ was.held = some held := by
  intro other isTold held isFound isHeld
  rcases eq_or_told_of_update isFound with ⟨rfl, rfl⟩ | ⟨-, was⟩
  · exact ⟨now, isNow, holds held isHeld⟩
  · exact ⟨isTold, was, isHeld⟩

theorem ClaimsSound.update (sound : ClaimsSound triggers runs told) (isNow : told index = some now)
    (holds : ∀ held, next.held = some held → now.held = some held)
    (vacant : next.vacant = true → now.vacant = true) :
    ClaimsSound triggers runs (Function.update told index (some next)) := by
  apply sound.of_source (held_of_update isNow holds) sound.oneRun
  case untriggered =>
    intro other isTold held trigger isFound isHeld
    obtain ⟨was, isWas, had⟩ := held_of_update isNow holds other isTold held isFound isHeld
    exact sound.untriggered other was held trigger isWas had
  case vacant =>
    intro other isTold held isFound isHeld isVacant
    rcases eq_or_told_of_update isFound with ⟨rfl, rfl⟩ | ⟨-, was⟩
    · exact sound.vacant other now held isNow (holds held isHeld) (vacant isVacant)
    · exact sound.vacant other isTold held was isHeld isVacant

/-- A call looks for a run of the pair that it holds, and finds none. -/
theorem ClaimsSound.findNone (sound : ClaimsSound triggers runs told) (isNow : told index = some now)
    (none : ∀ held, now.held = some held → ∀ run ∈ runs,
      run.isFor held.releaseId held.definitionId = false) :
    ClaimsSound triggers runs (Function.update told index (some { now with vacant := true })) := by
  have holds : ∀ held, { now with vacant := true }.held = some held → now.held = some held :=
    fun _ isHeld => isHeld
  apply sound.of_source (held_of_update isNow holds) sound.oneRun
  case untriggered =>
    intro other isTold held trigger isFound isHeld
    obtain ⟨was, isWas, had⟩ := held_of_update isNow holds other isTold held isFound isHeld
    exact sound.untriggered other was held trigger isWas had
  case vacant =>
    intro other isTold held isFound isHeld isVacant
    rcases eq_or_told_of_update isFound with ⟨rfl, rfl⟩ | ⟨-, was⟩
    · exact none held isHeld
    · exact sound.vacant other isTold held was isHeld isVacant

/-- A call claims a trigger that no other one holds. -/
theorem ClaimsSound.claim (sound : ClaimsSound triggers runs told)
    {trigger : OntologyReleaseWorkflowTrigger} {releaseId definitionId : Uuid}
    (stored : later = triggers.insert trigger) (pending : trigger.status = .pending)
    (alone : ∀ other isTold held, told other = some isTold → isTold.held = some held →
      held.triggerId ≠ trigger.id) :
    ClaimsSound later runs
      (Function.update told index (some ⟨some ⟨trigger.id, releaseId, definitionId⟩, false⟩)) := by
  have found : later.find? trigger.id = some trigger := stored ▸ Table.find?_insert_same
  constructor
  case oneRun => exact sound.oneRun
  case exclusive =>
    intro first second firstTold secondTold one two isFirst isSecond firstHeld secondHeld same
    rcases eq_or_told_of_update isFirst with ⟨rfl, rfl⟩ | ⟨-, wasFirst⟩
    · rcases eq_or_told_of_update isSecond with ⟨rfl, -⟩ | ⟨-, wasSecond⟩
      · rfl
      · cases firstHeld
        exact absurd same.symm (alone second secondTold two wasSecond secondHeld)
    · rcases eq_or_told_of_update isSecond with ⟨rfl, rfl⟩ | ⟨-, wasSecond⟩
      · cases secondHeld
        exact absurd same (alone first firstTold one wasFirst firstHeld)
      · exact sound.exclusive first second firstTold secondTold one two wasFirst wasSecond
          firstHeld secondHeld same
  case untriggered =>
    intro other isTold held row isFound isHeld isStored
    rcases eq_or_told_of_update isFound with ⟨rfl, rfl⟩ | ⟨-, was⟩
    · cases isHeld
      obtain rfl := Option.some.inj (found.symm.trans isStored)
      rw [pending]
      exact nofun
    · rw [stored, Table.find?_insert_of_ne (alone other isTold held was isHeld)] at isStored
      exact sound.untriggered other isTold held row was isHeld isStored
  case vacant =>
    intro other isTold held isFound isHeld isVacant
    rcases eq_or_told_of_update isFound with ⟨rfl, rfl⟩ | ⟨-, was⟩
    · cases isVacant
    · exact sound.vacant other isTold held was isHeld isVacant

/-- The trigger that a call holds is completed, or one is completed as untriggered. -/
theorem ClaimsSound.complete (sound : ClaimsSound triggers runs told)
    (isNow : told index = some now) {trigger : OntologyReleaseWorkflowTrigger}
    (stored : later = triggers.insert trigger)
    (owner : (∃ held, now.held = some held ∧ held.triggerId = trigger.id ∧ next.held = none) ∨
      (trigger.status ≠ .triggered ∧ next = now)) :
    ClaimsSound later runs (Function.update told index (some next)) := by
  have holds : ∀ held, next.held = some held → now.held = some held := by
    intro held isHeld
    rcases owner with ⟨_, _, _, released⟩ | ⟨-, rfl⟩
    · rw [released] at isHeld
      cases isHeld
    · exact isHeld
  apply sound.of_source (held_of_update isNow holds) sound.oneRun
  case untriggered =>
    intro other isTold held row isFound isHeld isStored
    obtain ⟨was, isWas, had⟩ := held_of_update isNow holds other isTold held isFound isHeld
    by_cases same : held.triggerId = trigger.id
    · rcases owner with ⟨mine, isMine, isTrigger, released⟩ | ⟨untriggered, -⟩
      · -- Two calls would hold the trigger.
        have isIndex := sound.exclusive other index was now held mine isWas isNow had isMine
          (same.trans isTrigger.symm)
        subst isIndex
        rw [Function.update_self] at isFound
        obtain rfl := Option.some.inj isFound
        rw [released] at isHeld
        cases isHeld
      · rw [stored, same, Table.find?_insert_same] at isStored
        obtain rfl := Option.some.inj isStored
        exact untriggered
    · rw [stored, Table.find?_insert_of_ne same] at isStored
      exact sound.untriggered other was held row isWas had isStored
  case vacant =>
    intro other isTold held isFound isHeld isVacant
    rcases eq_or_told_of_update isFound with ⟨rfl, rfl⟩ | ⟨-, was⟩
    · rcases owner with ⟨_, _, _, released⟩ | ⟨-, rfl⟩
      · rw [released] at isHeld
        cases isHeld
      · exact sound.vacant other isTold held isNow isHeld isVacant
    · exact sound.vacant other isTold held was isHeld isVacant

theorem TriggeredWorkflowRun.isFor_inj {run : TriggeredWorkflowRun}
    {releaseId definitionId otherRelease otherDefinition : Uuid}
    (one : run.isFor releaseId definitionId = true)
    (two : run.isFor otherRelease otherDefinition = true) :
    releaseId = otherRelease ∧ definitionId = otherDefinition := by
  simp only [isFor, Bool.and_eq_true, decide_eq_true_eq] at one two
  exact ⟨Json.ofUuid_inj.mp (one.2.symm.trans two.2), one.1.1.symm.trans two.1.1⟩

/-- A run is created for the vacant pair of a claim. -/
theorem ClaimsSound.createRun (sound : ClaimsSound triggers runs told)
    (isNow : told index = some now) {held : HeldTrigger} {run : TriggeredWorkflowRun}
    (isHeld : now.held = some held) (isVacant : now.vacant = true)
    (isFor : run.isFor held.releaseId held.definitionId = true)
    (fresh : runs.find? run.id = none)
    (stored : ∀ other isTold otherHeld, told other = some isTold → isTold.held = some otherHeld →
      ∃ trigger, triggers.find? otherHeld.triggerId = some trigger ∧
        trigger.isFor otherHeld.releaseId otherHeld.definitionId = true)
    (onePerPair : OneTriggerPerPair triggers) :
    ClaimsSound triggers (runs.insert run)
      (Function.update told index (some { now with vacant := false })) := by
  have vacant := sound.vacant index now held isNow isHeld isVacant
  have holds : ∀ held, { now with vacant := false }.held = some held → now.held = some held :=
    fun _ isHeld => isHeld
  apply sound.of_source (held_of_update isNow holds)
  case oneRun =>
    intro releaseId definitionId first firstMember second secondMember firstFor secondFor
    rcases (Table.mem_insert_of_fresh fresh).mp firstMember with firstIn | rfl
    · rcases (Table.mem_insert_of_fresh fresh).mp secondMember with secondIn | rfl
      · exact sound.oneRun releaseId definitionId first firstIn second secondIn firstFor secondFor
      · obtain ⟨rfl, rfl⟩ := TriggeredWorkflowRun.isFor_inj isFor secondFor
        rw [vacant first firstIn] at firstFor
        cases firstFor
    · rcases (Table.mem_insert_of_fresh fresh).mp secondMember with secondIn | rfl
      · obtain ⟨rfl, rfl⟩ := TriggeredWorkflowRun.isFor_inj isFor firstFor
        rw [vacant second secondIn] at secondFor
        cases secondFor
      · rfl
  case untriggered =>
    intro other isTold otherHeld trigger isFound otherIsHeld
    obtain ⟨was, isWas, had⟩ := held_of_update isNow holds other isTold otherHeld isFound otherIsHeld
    exact sound.untriggered other was otherHeld trigger isWas had
  case vacant =>
    intro other isTold otherHeld isFound otherIsHeld otherVacant
    rcases eq_or_told_of_update isFound with ⟨rfl, rfl⟩ | ⟨differs, was⟩
    · cases otherVacant
    · intro created member
      rcases (Table.mem_insert_of_fresh fresh).mp member with old | rfl
      · exact sound.vacant other isTold otherHeld was otherIsHeld otherVacant created old
      · -- The other claim would be for the same pair, so for the same trigger.
        apply Bool.eq_false_of_not_eq_true
        intro alsoFor
        obtain ⟨sameRelease, sameDefinition⟩ := TriggeredWorkflowRun.isFor_inj isFor alsoFor
        obtain ⟨mine, mineFound, mineFor⟩ := stored index now held isNow isHeld
        obtain ⟨theirs, theirsFound, theirsFor⟩ := stored other isTold otherHeld was otherIsHeld
        rw [← sameRelease, ← sameDefinition] at theirsFor
        obtain ⟨mineIn, mineId⟩ := Table.find?_eq_some.mp mineFound
        obtain ⟨theirsIn, theirsId⟩ := Table.find?_eq_some.mp theirsFound
        have same := onePerPair _ _ mine mineIn theirs theirsIn mineFor theirsFor
        apply differs
        apply sound.exclusive other index isTold now otherHeld held was isNow otherIsHeld isHeld
        rw [← theirsId, ← mineId, same]

end steps

/-! ### Every run -/

/-- Every call of the pool goes by the protocol. -/
abbrev TriggerPool.Follows (pool : TriggerPool Rest) : Prop :=
  Pool.Follows triggerObserver TriggerAllowed (fun world => OneTriggerPerPair world.triggers)
    HeldStored (fun _ _ => True) pool

/-- What holds in every state of a run whose claims are kept apart. -/
structure TriggerRunSound (pool : TriggerPool Rest) : Prop where
  follows : TriggerPool.Follows pool
  claims : ClaimsSound pool.state.triggers pool.state.workflowRuns pool.told

theorem noTriggers_sound (world : TriggerWorld RestState) :
    TriggerRunSound (noTriggers world : TriggerPool Rest) where
  follows := {
    state := fun _ _ _ isStored => absurd isStored List.not_mem_nil
    owned := fun _ isCall => absurd isCall List.not_mem_nil
    programs := fun _ isCall => absurd isCall List.not_mem_nil }
  claims := {
    oneRun := fun _ _ _ isStored => absurd isStored List.not_mem_nil
    exclusive := nofun
    untriggered := nofun
    vacant := nofun }

section everyRun

variable (outside : TriggerOutside Rest) {pool : TriggerPool Rest}

theorem heldStored_of_told (follows : TriggerPool.Follows pool) {index : Nat} {told : TriggerTold}
    (isTold : pool.told index = some told) : HeldStored pool.state told () := by
  obtain ⟨call, isCall, rfl⟩ := Option.map_eq_some_iff.mp isTold
  exact follows.owned call (List.mem_of_getElem? isCall)

theorem heldStored_nothing (world : TriggerWorld RestState) : HeldStored world .nothing () := by
  intro held isHeld
  cases isHeld

/-- Nobody holds the trigger that a claim goes through for. -/
theorem claimed_alone (follows : TriggerPool.Follows pool) {draw releaseId definitionId : Uuid}
    {now : TriggerTold} {trigger : OntologyReleaseWorkflowTrigger} {later : WorkflowTriggerTable}
    (apart : (TriggerOperation.claim draw releaseId definitionId : TriggerOperation Rest).Apart pool
      now)
    (claimed : TriggerClaimed pool.state.triggers later
      (pool.state.now - pool.state.reclaimAfter) releaseId definitionId trigger) :
    ∀ other isTold held, pool.told other = some isTold → isTold.held = some held →
      held.triggerId ≠ trigger.id := by
  intro other isTold held isFound isHeld same
  obtain ⟨row, isStored, -⟩ := heldStored_of_told follows isFound held isHeld
  rw [same] at isStored
  obtain ⟨isFor, retryable⟩ := claimed.retryable row isStored
  obtain ⟨call, isCall, rfl⟩ := Option.map_eq_some_iff.mp isFound
  obtain ⟨member, sameId⟩ := Table.find?_eq_some.mp isStored
  exact apart row member isFor retryable call (List.mem_of_getElem? isCall) held isHeld
    (same.trans sameId.symm)

theorem told_operate_update {index : Nat} {told : TriggerTold} {operation : TriggerOperation Rest}
    (pending : pool.next index = some (told, operation)) :
    (pool.operate triggerObserver index).told = Function.update pool.told index
      (some (triggerTells operation (operation.perform pool.state).1 told)) := by
  funext other
  by_cases same : other = index
  · subst same
    rw [Function.update_self]
    exact Pool.told_operate pending
  · rw [Function.update_of_ne same]
    exact Pool.told_operate_of_ne same

/-- The claims after an operation. -/
theorem claimsSound_operate (sound : TriggerRunSound pool) {index : Nat} {told : TriggerTold}
    {operation : TriggerOperation Rest} (pending : pool.next index = some (told, operation))
    (apart : operation.Apart pool told) :
    ClaimsSound (operation.perform pool.state).2.triggers
      (operation.perform pool.state).2.workflowRuns (Function.update pool.told index
        (some (triggerTells operation (operation.perform pool.state).1 told))) := by
  have isTold : pool.told index = some told := Pool.told_of_next pending
  obtain ⟨-, allowed⟩ := sound.follows.of_next pending
  have unchanged := sound.claims.update isTold (fun _ isHeld => isHeld) fun isVacant => isVacant
  cases operation with
  | listRetryable limit => exact unchanged
  | getTrigger triggerId => exact unchanged
  | onReleases operation => exact unchanged
  | onRest operation => exact unchanged
  | claim draw releaseId definitionId =>
      rcases @claimOntologyReleaseWorkflowTrigger_cases pool.state.now pool.state.reclaimAfter draw
        releaseId definitionId pool.state.triggers with refused | ⟨trigger, isSome, claimed⟩
      · dsimp only [TriggerOperation.perform]
        rw [refused]
        exact unchanged
      · have alone := claimed_alone sound.follows apart claimed
        dsimp only [TriggerOperation.perform]
        rw [isSome]
        exact sound.claims.claim claimed.stored claimed.pending alone
  | complete triggerId status workflowRunId errorMessage =>
      have releases : ∀ held, told.held = some held → held.triggerId = triggerId → ∀ answer,
          (triggerTells (.complete triggerId status workflowRunId errorMessage :
            TriggerOperation Rest) answer told) = .nothing := by
        intro held isHeld same answer
        simp only [triggerTells, isHeld, Option.any_some, same, decide_true, if_true]
      have keepsTold : told.held = none → ∀ answer,
          (triggerTells (.complete triggerId status workflowRunId errorMessage :
            TriggerOperation Rest) answer told) = told := by
        intro free answer
        simp only [triggerTells, free, Option.any_none, Bool.false_eq_true, if_false]
      rcases @completeOntologyReleaseWorkflowTrigger_cases pool.state.now triggerId status
        workflowRunId errorMessage pool.state.triggers with same | ⟨old, found, written⟩
      · have sameTriggers : ((TriggerOperation.complete triggerId status workflowRunId errorMessage :
            TriggerOperation Rest).perform pool.state).2.triggers = pool.state.triggers := same
        rw [sameTriggers]
        rcases allowed with ⟨held, isHeld, isTrigger⟩ | ⟨free, -⟩
        · rw [releases held isHeld isTrigger]
          exact sound.claims.update isTold (fun _ isHeld => by cases isHeld)
            fun isVacant => by cases isVacant
        · rw [keepsTold free]
          exact unchanged
      · apply sound.claims.complete isTold written.stored
        have sameId : (old.completed pool.state.now status workflowRunId errorMessage).id =
            triggerId := (Table.find?_eq_some.mp found).2
        rcases allowed with ⟨held, isHeld, isTrigger⟩ | ⟨free, untriggered⟩
        · exact .inl ⟨held, isHeld, isTrigger.trans sameId.symm,
            congrArg TriggerTold.held (releases held isHeld isTrigger _)⟩
        · exact .inr ⟨untriggered, keepsTold free _⟩
  | findRun releaseId definitionId =>
      obtain ⟨held, isHeld, rfl, rfl⟩ := allowed
      dsimp only [TriggerOperation.perform]
      cases found : workflowRunForTrigger held.releaseId held.definitionId
          pool.state.workflowRuns with
      | some run =>
          exact sound.claims.update isTold (fun _ isHeld => isHeld) fun isVacant => by cases isVacant
      | none =>
          apply sound.claims.findNone isTold
          intro other otherHeld run member
          obtain rfl := Option.some.inj (isHeld.symm.trans otherHeld)
          exact Bool.eq_false_of_not_eq_true (List.find?_eq_none.mp found run member)
  | createRun draw run =>
      obtain ⟨held, isHeld, isVacant, isFor⟩ := allowed
      have storedFor : TriggeredWorkflowRun.isFor held.releaseId held.definitionId
          { run with id := pool.state.workflowRuns.drawKey draw } = true := isFor
      apply sound.claims.createRun isTold isHeld isVacant storedFor Table.find?_drawKey
      · intro other otherTold otherHeld isOther
        exact heldStored_of_told sound.follows isOther otherHeld
      · exact sound.follows.state

theorem TriggerEvent.sound (event : TriggerEvent RestState) (sound : TriggerRunSound pool)
    (apart : ClaimsApart event pool) : TriggerRunSound (event.perform outside pool) := by
  -- A call that joins or leaves holds nothing.
  have source : ∀ {laterTold : Nat → Option TriggerTold},
      (∀ index found, laterTold index = some found → pool.told index = some found ∨
        found = .nothing) →
      ClaimsSound pool.state.triggers pool.state.workflowRuns laterTold := by
    intro laterTold isOld
    have was : ∀ index isTold held, laterTold index = some isTold → isTold.held = some held →
        pool.told index = some isTold := by
      intro index isTold held isFound isHeld
      rcases isOld index isTold isFound with old | rfl
      · exact old
      · cases isHeld
    apply sound.claims.of_source
    case source =>
      intro index isTold held isFound isHeld
      exact ⟨isTold, was index isTold held isFound isHeld, isHeld⟩
    case oneRun => exact sound.claims.oneRun
    case untriggered =>
      intro index isTold held trigger isFound isHeld
      exact sound.claims.untriggered index isTold held trigger (was _ _ _ isFound isHeld) isHeld
    case vacant =>
      intro index isTold held isFound isHeld
      exact sound.claims.vacant index isTold held (was _ _ _ isFound isHeld) isHeld
  cases event with
  | enter call =>
      refine ⟨sound.follows.enter (heldStored_nothing _) (call.program_respects outside), source ?_⟩
      exact fun index found isFound => Pool.told_enter isFound
  | abandon index =>
      refine ⟨sound.follows.abandon (heldStored_nothing _) index, source ?_⟩
      exact fun other found isFound => Pool.told_abandon isFound
  | elsewhere releases reclaimAfter rest =>
      exact ⟨sound.follows.elsewhere sound.follows.state fun _ _ owned => owned, sound.claims⟩
  | operate index =>
      refine ⟨sound.follows.operate triggerProtocol index, ?_⟩
      cases pending : pool.next index with
      | none =>
          rw [perform, Pool.operate_of_next_eq_none pending]
          exact sound.claims
      | some next =>
          obtain ⟨told, operation⟩ := next
          rw [perform, told_operate_update pending, Pool.state_operate pending]
          exact claimsSound_operate sound pending (apart _ pending)

theorem TriggerWritten.keepsTriggered {before after : WorkflowTriggerTable}
    {trigger : OntologyReleaseWorkflowTrigger} (written : TriggerWritten before after trigger)
    (untriggered : ∀ old, before.find? trigger.id = some old → old.status ≠ .triggered) :
    KeepsTriggered before after := by
  intro row member isTriggered runId isRun
  have found := Table.find?_key member
  have differs : row.id ≠ trigger.id := by
    intro same
    rw [same] at found
    exact untriggered row found isTriggered
  exact ⟨row, by rw [written.stored, Table.find?_insert_of_ne differs, found], isTriggered, isRun⟩

theorem KeepsTriggered.refl (triggers : WorkflowTriggerTable) : KeepsTriggered triggers triggers :=
  fun trigger member isTriggered _ isRun => ⟨trigger, Table.find?_key member, isTriggered, isRun⟩

theorem TriggerEvent.keepsTriggered (event : TriggerEvent RestState) (sound : TriggerRunSound pool)
    (apart : ClaimsApart event pool) :
    KeepsTriggered pool.state.triggers (event.perform outside pool).state.triggers := by
  cases event with
  | enter call => exact KeepsTriggered.refl _
  | abandon index => exact KeepsTriggered.refl _
  | elsewhere releases reclaimAfter rest => exact KeepsTriggered.refl _
  | operate index =>
      cases pending : pool.next index with
      | none =>
          rw [perform, Pool.operate_of_next_eq_none pending]
          exact KeepsTriggered.refl _
      | some next =>
          obtain ⟨told, operation⟩ := next
          have isApart := apart _ pending
          have isTold : pool.told index = some told := Pool.told_of_next pending
          obtain ⟨-, allowed⟩ := sound.follows.of_next pending
          rw [perform, Pool.state_operate pending]
          change KeepsTriggered _ (operation.perform pool.state).2.triggers
          cases operation with
          | listRetryable limit => exact KeepsTriggered.refl _
          | getTrigger triggerId => exact KeepsTriggered.refl _
          | findRun releaseId definitionId => exact KeepsTriggered.refl _
          | createRun draw run => exact KeepsTriggered.refl _
          | onReleases operation => exact KeepsTriggered.refl _
          | onRest operation => exact KeepsTriggered.refl _
          | claim draw releaseId definitionId =>
              dsimp only [TriggerOperation.perform]
              rcases @claimOntologyReleaseWorkflowTrigger_cases pool.state.now
                pool.state.reclaimAfter draw releaseId definitionId pool.state.triggers with
                refused | ⟨trigger, -, claimed⟩
              · rw [refused]
                exact KeepsTriggered.refl _
              · apply claimed.keepsTriggered
                intro old found isTriggered
                have retryable := (claimed.retryable old found).2
                simp [OntologyReleaseWorkflowTrigger.isRetryable, isTriggered] at retryable
          | complete triggerId status workflowRunId errorMessage =>
              dsimp only [TriggerOperation.perform]
              rcases @completeOntologyReleaseWorkflowTrigger_cases pool.state.now triggerId status
                workflowRunId errorMessage pool.state.triggers with same | ⟨old, found, written⟩
              · rw [same]
                exact KeepsTriggered.refl _
              · apply written.keepsTriggered
                intro row isRow
                obtain ⟨rowIn, rowId⟩ := Table.find?_eq_some.mp isRow
                have sameId : row.id = triggerId := rowId.trans (Table.find?_eq_some.mp found).2
                rcases allowed with ⟨held, isHeld, isTrigger⟩ | ⟨free, -⟩
                · apply sound.claims.untriggered index told held row isTold isHeld
                  rw [isTrigger, ← sameId]
                  exact Table.find?_key rowIn
                · exact isApart free row rowIn sameId

end everyRun

/-- However the calls interleave: while no claim is taken over from a call that still holds
it, and no drain completes what is triggered, a pair gets at most one run and a triggered
trigger keeps its run. -/
theorem triggers_settled_of_claimsApart (outside : TriggerOutside Rest)
    (events : List (TriggerEvent RestState)) (world : TriggerWorld RestState)
    (apart : MetAlong (TriggerEvent.perform outside) ClaimsApart events (noTriggers world)) :
    TriggersSettled outside events world := by
  have sound := heldAlong_of_step
    (fun event pool isApart isSound => TriggerEvent.sound outside event isSound isApart)
    (noTriggers_sound world) apart
  constructor
  case oneRun => exact sound.mono fun pool isSound => isSound.claims.oneRun
  case kept =>
    intro front event isPrefix
    have before := sound front ((List.prefix_append front [event]).trans isPrefix)
    exact event.keepsTriggered outside before (apart front event isPrefix)

end runs

/-! ### A claim that goes stale while its owner runs -/

section decidable

variable {RestState : Type} {Rest : StoreInterface RestState} (pool : TriggerPool Rest)

instance TriggerOperation.Apart.decidable (told : TriggerTold) :
    (operation : TriggerOperation Rest) → Decidable (operation.Apart pool told)
  | .claim _ releaseId definitionId => inferInstanceAs (Decidable
      (∀ trigger ∈ pool.state.triggers.rows, trigger.isFor releaseId definitionId = true →
        trigger.isRetryable (pool.state.now - pool.state.reclaimAfter) = true →
        ∀ call ∈ pool.calls, ∀ held ∈ call.told.held, held.triggerId ≠ trigger.id))
  | .complete triggerId _ _ _ => inferInstanceAs (Decidable (told.held = none →
      ∀ trigger ∈ pool.state.triggers.rows, trigger.id = triggerId →
        trigger.status ≠ .triggered))
  | .listRetryable _ => isTrue trivial
  | .getTrigger _ => isTrue trivial
  | .findRun _ _ => isTrue trivial
  | .createRun _ _ => isTrue trivial
  | .onReleases _ => isTrue trivial
  | .onRest _ => isTrue trivial

instance ClaimsApart.decidable : (event : TriggerEvent RestState) →
    Decidable (ClaimsApart event pool)
  | .enter _ => isTrue trivial
  | .abandon _ => isTrue trivial
  | .elsewhere _ _ _ => isTrue trivial
  | .operate index =>
      match pending : pool.next index with
      | none => isTrue (by simp [ClaimsApart, pending])
      | some (told, operation) =>
          have := TriggerOperation.Apart.decidable pool told operation
          decidable_of_iff (TriggerOperation.Apart pool told operation)
            (by simp [ClaimsApart, pending])

end decidable

namespace StaleClaim

/-- The rest of the store answers nothing. -/
def nothing : StoreInterface Unit where
  Operation := Empty
  Answer := nofun
  perform := nofun

def definition : TriggerDefinition where
  id := 7
  releaseState := "released"
  handoffRules := .object [("ontology_release_trigger", .bool true)]
  stepGraph := .object []

def outside : TriggerOutside nothing where
  host := {
    parseUuid := String.toNat?
    parseRfc3339 := fun _ => none
    printUuid := Nat.repr
    printTimestamp := fun time => toString time }
  listWorkflowDefinitions := .done [definition]
  toolSpecsForRun _ := .done []
  prepareRun _ _ _ := .done ()
  startRun _ _ := .done ()
  announceRun _ := .done ()

def release : OntologyReleaseRecord where
  id := 1
  version := "v1"
  domainScope := "commerce"
  sourceRunId := none
  parentReleaseId := none
  rollbackTargetReleaseId := none
  status := .active
  releaseClass := "additive"
  objectCount := 1
  relationCount := 0
  actionCount := 0
  migrationPolicy := .object []
  gateResult := .object []
  materializedObjectIds := .array []
  materializedLinkIds := .array []
  evidenceRefs := .array []
  promotedBy := some "reviewer"
  promotedAt := some 0
  rolledBackBy := none
  rolledBackAt := none
  archivedAt := none
  createdAt := 0

/-- The releases with the promoted one, at a time. -/
def releasesAt (clock : Timestamp) : OntologyReleaseWorld where
  clock := clock
  releases := Table.empty.insert release

def world : TriggerWorld Unit where
  releases := releasesAt 0
  triggers := Table.empty
  workflowRuns := Table.empty
  reclaimAfter := 300
  rest := ()

def triggered : TriggerCall := .trigger ⟨10, 20⟩ release definition

/-- The trigger is claimed and no run is found; when the claim has gone stale, the drain
does the same, and then both go on. -/
def overlapping : List (TriggerEvent Unit) :=
  [.enter triggered, .operate 0, .operate 0, .elsewhere (releasesAt 300) 300 (),
    .enter (.drain (fun _ _ => ⟨11, 21⟩) "system" 100)] ++
      List.replicate 5 (.operate 1) ++ [.operate 0]

/-- The call that claimed first ends before the drain starts. -/
def inTurn : List (TriggerEvent Unit) :=
  [.enter triggered, .operate 0, .operate 0, .operate 0, .operate 0,
    .elsewhere (releasesAt 300) 300 (), .enter (.drain (fun _ _ => ⟨11, 21⟩) "system" 100),
    .operate 1]

end StaleClaim

/-- Two calls find no run of the pair, and both create one. -/
theorem two_runs_for_one_trigger :
    ¬TriggersSettled StaleClaim.outside StaleClaim.overlapping StaleClaim.world := by
  intro settled
  have one := settled.oneRun StaleClaim.overlapping List.prefix_rfl
  have two : ∃ first ∈ (runEvents (TriggerEvent.perform StaleClaim.outside) StaleClaim.overlapping
      (noTriggers StaleClaim.world)).state.workflowRuns.rows,
      ∃ second ∈ (runEvents (TriggerEvent.perform StaleClaim.outside) StaleClaim.overlapping
        (noTriggers StaleClaim.world)).state.workflowRuns.rows,
        first.isFor 1 7 = true ∧ second.isFor 1 7 = true ∧ first.id ≠ second.id := by
    decide +kernel
  obtain ⟨first, firstMember, second, secondMember, firstFor, secondFor, differ⟩ := two
  exact differ (congrArg _ (one 1 7 first firstMember second secondMember firstFor secondFor))

theorem triggers_settled_in_turn :
    MetAlong (TriggerEvent.perform StaleClaim.outside) ClaimsApart StaleClaim.inTurn
        (noTriggers StaleClaim.world) ∧
      TriggersSettled StaleClaim.outside StaleClaim.inTurn StaleClaim.world :=
  have apart : MetAlong (TriggerEvent.perform StaleClaim.outside) ClaimsApart StaleClaim.inTurn
      (noTriggers StaleClaim.world) := by
    decide +kernel
  ⟨apart, triggers_settled_of_claimsApart StaleClaim.outside StaleClaim.inTurn StaleClaim.world
    apart⟩

end MandoForge
