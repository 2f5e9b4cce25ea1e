/-
Module: MandoForge.Workflow.StepClaimRuns
Purpose: Runs in which any number of callers update and claim step runs, one store
  operation at a time.  An ended step run stays ended and a live claim stays until its
  holder or a final update ends it, in exactly the runs whose unconditional writes fit
  the step run that is stored when they are made.
Trusted boundary: an operation is one critical section of the in-memory store.  Beside
  the calls the clock only moves forward, and stored step runs stay as they are.
Main exports: StepRunEvent, stepRunsKept_iff_writesFit
-/
import MandoForge.Foundation.Runs
import MandoForge.Workflow.StepClaims

namespace MandoForge

open Foundation

/-! ### Calls that run at the same time -/

/-- What a call was told: what it was asked, the step run and the time that it read. -/
structure StepRunTold where
  input : UpdateWorkflowStepRun := {}
  current : Option WorkflowStepRun := none
  clockRead : Option Timestamp := none

def stepRunObserver : Observer StepRunStore StepRunTold Unit where
  tells
    | .readClock, now, told => { told with clockRead := some now }
    | .getWorkflowStepRun _, found, told => { told with current := found.toOption }
    | _, _, told => told
  acts _ _ heard := heard
  overhears _ _ heard := heard

abbrev StepRunPool := Pool StepRunStore AppError WorkflowStepRun StepRunTold Unit

/-- A call of one of the three writers. -/
inductive StepRunCall where
  | update (request : StepUpdateRequest)
  | claim (step : Timestamp → WorkflowStepRun)
  | updateClaimed (step : WorkflowStepRun) (workerId : String)

namespace StepRunCall

def program : StepRunCall → StepRunProgram WorkflowStepRun
  | update request => handleUpdateWorkflowStepRun request
  | claim step => claimStep step
  | updateClaimed step workerId => updateClaimedStep step workerId

def told : StepRunCall → StepRunTold
  | update request => { input := request.input }
  | _ => {}

end StepRunCall

inductive StepRunEvent where
  | enter (call : StepRunCall)
  /-- One of the calls performs its next store operation. -/
  | operate (index : Nat)
  /-- The world changes beside the calls. -/
  | elsewhere (world : World)

/-- The clock does not go back and the stored step runs stay. -/
def World.Continues (before after : World) : Prop :=
  before.clock ≤ after.clock ∧
    ∀ step ∈ before.store.workflowStepRuns.rows, after.stepRun step.id = some step

instance (before after : World) : Decidable (before.Continues after) :=
  inferInstanceAs (Decidable (_ ∧ _))

/-- An event that cannot happen changes nothing. -/
def StepRunEvent.perform (event : StepRunEvent) (pool : StepRunPool) : StepRunPool :=
  match event with
  | .enter call => pool.enter call.program call.told ()
  | .operate index => pool.operate stepRunObserver index
  | .elsewhere world => if pool.state.Continues world then { pool with state := world } else pool

/-- No call is under way. -/
def idleStepRuns (world : World) : StepRunPool where
  state := world
  calls := []

/-! ### What is to be kept -/

/-- A worker runs the step under a claim that is not over. -/
def HoldsClaim (now : Timestamp) (step : WorkflowStepRun) : Prop :=
  step.status = .running ∧ step.claimedByWorker.isSome = true ∧
    ∀ expiresAt ∈ step.leaseExpiresAt, now < expiresAt

instance (now : Timestamp) (step : WorkflowStepRun) : Decidable (HoldsClaim now step) :=
  inferInstanceAs (Decidable (_ ∧ _ ∧ _))

/-- The claim of the step run is the one it was. -/
structure SameClaim (step later : WorkflowStepRun) : Prop where
  running : later.status = .running
  claimedByWorker : later.claimedByWorker = step.claimedByWorker
  leaseExpiresAt : later.leaseExpiresAt = step.leaseExpiresAt

/-- The operation ends the claim: the claimant updates the step, or an update ends it. -/
def StepRunOperation.EndsClaim (step : WorkflowStepRun) (world : World) :
    StepRunOperation → Prop
  | updateWorkflowStepRun next =>
      next.id = step.id ∧ workflowStepStatusTerminal next.status = true
  | updateClaimedWorkflowStepRun next workerId =>
      next.id = step.id ∧ step.claimedByWorker = some workerId ∧
        (MandoForge.updateClaimedWorkflowStepRun world.clock next workerId world.store).1 = .ok next
  | _ => False

def EndsClaim (step : WorkflowStepRun) (event : StepRunEvent) (pool : StepRunPool) : Prop :=
  match event with
  | .operate index => ∃ told operation, pool.next index = some (told, operation) ∧
      StepRunOperation.EndsClaim step pool.state operation
  | _ => False

/-- The pool after a list of events. -/
abbrev stepRunsAfter (events : List StepRunEvent) (pool : StepRunPool) : StepRunPool :=
  runEvents StepRunEvent.perform events pool

/-- Between any two moments of the run, an ended step run stays ended, and a claim that
is not over stays unless an event ends it. -/
structure StepRunsKept (events : List StepRunEvent) (pool : StepRunPool) : Prop where
  ended : ∀ front middle stepId step, front ++ middle <+: events →
    (stepRunsAfter front pool).state.stepRun stepId = some step →
    workflowStepStatusTerminal step.status = true →
    ∃ later, (stepRunsAfter (front ++ middle) pool).state.stepRun stepId = some later ∧
      workflowStepStatusTerminal later.status = true
  claims : ∀ front middle stepId step, front ++ middle <+: events →
    (stepRunsAfter front pool).state.stepRun stepId = some step →
    HoldsClaim (stepRunsAfter (front ++ middle) pool).state.clock step →
    MetAlong StepRunEvent.perform (fun event pool => ¬ EndsClaim step event pool) middle
      (stepRunsAfter front pool) →
    ∃ later, (stepRunsAfter (front ++ middle) pool).state.stepRun stepId = some later ∧
      SameClaim step later

/-! ### When it is kept -/

/-- An unconditional write of a step that was read as `current`, with this status, over
the stored step run: an ended one stays ended, and a live claim is ended for good or is
the one that was read. -/
structure WriteFits (now : Timestamp) (stored current : WorkflowStepRun)
    (status : WorkflowStatus) : Prop where
  ended : workflowStepStatusTerminal stored.status = true →
    workflowStepStatusTerminal status = true
  claimed : HoldsClaim now stored → workflowStepStatusTerminal status = true ∨
    (status = .running ∧ current.claimedByWorker = stored.claimedByWorker ∧
      current.leaseExpiresAt = stored.leaseExpiresAt)

/-- An unconditional write fits what is stored. -/
def WritesFit (event : StepRunEvent) (pool : StepRunPool) : Prop :=
  match event with
  | .operate index => ∀ told step, pool.next index = some (told, .updateWorkflowStepRun step) →
      ∀ current status stored, told.current = some current →
        requestedStepStatus told.input current = .ok status →
        pool.state.stepRun current.id = some stored →
        WriteFits pool.state.clock stored current status
  | _ => True

/-! ### The protocol of the calls -/

/-- The handler writes without a condition what it computed from the step it read; a
claim is made for an instant that was read from the clock. -/
def StepRunAllowed (told : StepRunTold) (operation : StepRunStore.Operation) : Prop :=
  match operation with
  | .updateWorkflowStepRun next =>
      ∃ current, told.current = some current ∧ updatedStep told.input current = .ok next
  | .claimWorkflowStepRunIfAvailable _ now => told.clockRead = some now
  | _ => True

/-- What was read from the clock is past. -/
def ClockRead (world : World) (told : StepRunTold) (_heard : Unit) : Prop :=
  ∀ now ∈ told.clockRead, now ≤ world.clock

theorem stepRunProtocol :
    Protocol stepRunObserver StepRunAllowed (fun _ => True) ClockRead := by
  constructor
  case state =>
    intro _ _ _ _ _ _ _
    trivial
  case acting =>
    intro operation world told heard _ isPast _ now
    rw [show (StepRunStore.perform operation world).2.clock = world.clock from
      perform_clock operation world]
    cases operation with
    | readClock =>
        rintro ⟨⟩
        exact Int.le_refl world.clock
    | getWorkflowStepRun stepId => exact isPast now
    | getWorkflowRun workflowRunId => exact isPast now
    | updateWorkflowStepRun step => exact isPast now
    | claimWorkflowStepRunIfAvailable step claimedAt => exact isPast now
    | updateClaimedWorkflowStepRun step workerId => exact isPast now
  case others =>
    intro operation world told heard otherTold otherHeard _ _ _ isPast now wasRead
    rw [show (StepRunStore.perform operation world).2.clock = world.clock from
      perform_clock operation world]
    exact isPast now wasRead

theorem writeUpdatedStep_respects {executionOwner : Except AppError String}
    {current next : WorkflowStepRun} {told : StepRunTold} (wasRead : told.current = some current)
    (computed : updatedStep told.input current = .ok next) :
    (writeUpdatedStep executionOwner current next).Respects stepRunObserver.tells StepRunAllowed
      told fun _ _ => True := by
  unfold writeUpdatedStep
  split
  · apply Program.Respects.bind
    refine Program.respects_ofExcept.mpr fun owner _ => ?_
    split
    · trivial
    · exact Program.respects_attempt.mpr ⟨trivial, fun _ _ _ => trivial⟩
  · exact Program.respects_attempt.mpr ⟨⟨current, wasRead, computed⟩, fun _ _ _ => trivial⟩

theorem call_respects (call : StepRunCall) :
    call.program.Respects stepRunObserver.tells StepRunAllowed call.told fun _ _ => True := by
  cases call with
  | update request =>
      change (handleUpdateWorkflowStepRun request).Respects _ _ _ _
      unfold handleUpdateWorkflowStepRun
      apply Program.Respects.bind
      refine Program.respects_attempt.mpr ⟨trivial, fun given current isCurrent => ?_⟩
      obtain rfl : given = .ok current := isCurrent
      apply Program.Respects.bind
      refine Program.respects_attempt.mpr ⟨trivial, fun given run _ => ?_⟩
      apply Program.Respects.bind
      refine Program.respects_ofExcept.mpr fun _ _ => ?_
      apply Program.Respects.bind
      refine Program.respects_ofExcept.mpr fun next computed => ?_
      exact writeUpdatedStep_respects rfl computed
  | claim step =>
      change (claimStep step).Respects _ _ _ _
      unfold claimStep
      apply Program.Respects.bind
      refine Program.respects_perform.mpr ⟨trivial, fun now => ?_⟩
      exact Program.respects_attempt.mpr ⟨rfl, fun _ _ _ => trivial⟩
  | updateClaimed step workerId =>
      exact Program.respects_attempt.mpr ⟨trivial, fun _ _ _ => trivial⟩

/-- Every call of the pool goes by the protocol. -/
abbrev StepRunPool.Follows (pool : StepRunPool) : Prop :=
  Pool.Follows stepRunObserver StepRunAllowed (fun _ => True) ClockRead (fun _ _ => True) pool

theorem idleStepRuns_follows (world : World) : StepRunPool.Follows (idleStepRuns world) where
  state := trivial
  owned _ isCall := absurd isCall List.not_mem_nil
  programs _ isCall := absurd isCall List.not_mem_nil

theorem follows_perform (event : StepRunEvent) (pool : StepRunPool)
    (follows : StepRunPool.Follows pool) : StepRunPool.Follows (event.perform pool) := by
  cases event with
  | enter call =>
      apply follows.enter
      · cases call <;> exact fun now wasRead => nomatch wasRead
      · exact call_respects call
  | operate index => exact follows.operate stepRunProtocol index
  | elsewhere world =>
      unfold StepRunEvent.perform
      dsimp only
      split
      · rename_i continues
        exact follows.elsewhere trivial fun told heard isPast now wasRead =>
          Int.le_trans (isPast now wasRead) continues.1
      · exact follows

/-! ### What one event keeps -/

/-- One event keeps what is ended and what is claimed. -/
structure StepRunsStay (event : StepRunEvent) (pool : StepRunPool) : Prop where
  ended : ∀ stepId step, pool.state.stepRun stepId = some step →
    workflowStepStatusTerminal step.status = true →
    ∃ later, (event.perform pool).state.stepRun stepId = some later ∧
      workflowStepStatusTerminal later.status = true
  claims : ∀ stepId step, pool.state.stepRun stepId = some step →
    HoldsClaim (event.perform pool).state.clock step → ¬ EndsClaim step event pool →
    ∃ later, (event.perform pool).state.stepRun stepId = some later ∧ SameClaim step later

theorem World.id_of_stepRun {world : World} {stepId : Uuid} {step : WorkflowStepRun}
    (found : world.stepRun stepId = some step) : step.id = stepId :=
  (Table.find?_eq_some.mp found).2

theorem HoldsClaim.mono {earlier later : Timestamp} {step : WorkflowStepRun}
    (holds : HoldsClaim later step) (order : earlier ≤ later) : HoldsClaim earlier step :=
  ⟨holds.1, holds.2.1, fun expiresAt isLease =>
    Int.lt_of_le_of_lt order (holds.2.2 expiresAt isLease)⟩

theorem HoldsClaim.sameClaim {now : Timestamp} {step : WorkflowStepRun}
    (holds : HoldsClaim now step) : SameClaim step step := ⟨holds.1, rfl, rfl⟩

theorem SameClaim.holdsClaim {now : Timestamp} {step later : WorkflowStepRun}
    (same : SameClaim step later) (holds : HoldsClaim now step) : HoldsClaim now later := by
  refine ⟨same.running, ?_, ?_⟩
  · rw [same.claimedByWorker]
    exact holds.2.1
  · rw [same.leaseExpiresAt]
    exact holds.2.2

theorem open_of_claimable {now clock : Timestamp} {stored : WorkflowStepRun}
    (isClaimable : stepClaimable now stored = true) (isPast : now ≤ clock) :
    workflowStepStatusTerminal stored.status = false ∧ ¬ HoldsClaim clock stored := by
  simp only [stepClaimable, Bool.or_eq_true, Bool.and_eq_true, decide_eq_true_eq,
    Option.any_eq_true] at isClaimable
  obtain ⟨⟨queued, -⟩, -⟩ | ⟨⟨running, -⟩, expiresAt, isLease, isOver⟩ := isClaimable
  · refine ⟨by rw [queued]; rfl, fun holds => ?_⟩
    have running := holds.1
    rw [queued] at running
    cases running
  · refine ⟨by rw [running]; rfl, fun holds => ?_⟩
    have inTime := holds.2.2 expiresAt isLease
    exact Int.not_lt.mpr (Int.le_trans isOver isPast) inTime

theorem claimant_of_accepts {now clock : Timestamp} {workerId : String} {stored : WorkflowStepRun}
    (accepts : acceptsClaimedUpdate now workerId stored = true) :
    workflowStepStatusTerminal stored.status = false ∧
      (HoldsClaim clock stored → stored.claimedByWorker = some workerId) := by
  simp only [acceptsClaimedUpdate, Bool.or_eq_true, Bool.and_eq_true,
    decide_eq_true_eq] at accepts
  obtain ⟨⟨running, isClaimant⟩, -⟩ | ⟨requiresAction, -⟩ := accepts
  · exact ⟨by rw [running]; rfl, fun _ => isClaimant⟩
  · refine ⟨by rw [requiresAction]; rfl, fun holds => ?_⟩
    have running := holds.1
    rw [requiresAction] at running
    cases running

theorem updatedStep_ok {input : UpdateWorkflowStepRun} {current next : WorkflowStepRun}
    (computed : updatedStep input current = .ok next) :
    requestedStepStatus input current = .ok next.status ∧ next.id = current.id ∧
      next.claimedByWorker = current.claimedByWorker ∧
      next.leaseExpiresAt = current.leaseExpiresAt := by
  unfold updatedStep at computed
  rw [guardThen_eq_ok, bind_eq_ok] at computed
  obtain ⟨-, status, isNext, computed⟩ := computed
  rw [guardThen_eq_ok, bind_eq_ok] at computed
  obtain ⟨-, outputPayload, -, computed⟩ := computed
  obtain rfl := Except.ok.inj computed
  exact ⟨isNext, rfl, rfl, rfl⟩

/-- A row written over the stored one, as one event is to leave it. -/
structure RowStays (now : Timestamp) (endsClaim : Prop) (stored next : WorkflowStepRun) :
    Prop where
  ended : workflowStepStatusTerminal stored.status = true →
    workflowStepStatusTerminal next.status = true
  claims : HoldsClaim now stored → ¬ endsClaim → SameClaim stored next

/-- An unconditional write leaves the row as it is to be left when it fits. -/
theorem rowStays_iff_writeFits {now : Timestamp} {stored current next : WorkflowStepRun}
    {input : UpdateWorkflowStepRun} (sameId : next.id = stored.id)
    (computed : updatedStep input current = .ok next) :
    RowStays now (next.id = stored.id ∧ workflowStepStatusTerminal next.status = true)
        stored next ↔
      WriteFits now stored current next.status := by
  obtain ⟨-, -, sameClaimant, sameLease⟩ := updatedStep_ok computed
  constructor
  · intro stays
    refine ⟨stays.ended, fun holds => ?_⟩
    by_cases isFinal : workflowStepStatusTerminal next.status = true
    · exact .inl isFinal
    · obtain ⟨running, claimant, lease⟩ := stays.claims holds fun ends => isFinal ends.2
      rw [← sameClaimant, ← sameLease]
      exact .inr ⟨running, claimant, lease⟩
  · intro fits
    refine ⟨fits.ended, fun holds notEnded => ?_⟩
    obtain isFinal | ⟨running, claimant, lease⟩ := fits.claimed holds
    · exact absurd ⟨sameId, isFinal⟩ notEnded
    · exact ⟨running, sameClaimant.trans claimant, sameLease.trans lease⟩

section

variable {event : StepRunEvent} {pool : StepRunPool}

theorem stepRunsStay_of_stays
    (stays : ∀ stepId step, pool.state.stepRun stepId = some step →
      (event.perform pool).state.stepRun stepId = some step) : StepRunsStay event pool where
  ended stepId step found isEnded := ⟨step, stays stepId step found, isEnded⟩
  claims stepId step found holds _ := ⟨step, stays stepId step found, holds.sameClaim⟩

/-- An event that writes one row keeps everything when that row is left as it is to be. -/
theorem stepRunsStay_iff_of_write {stored next : WorkflowStepRun}
    (sameClock : (event.perform pool).state.clock = pool.state.clock)
    (found : pool.state.stepRun next.id = some stored)
    (written : (event.perform pool).state.stepRun =
      Function.update pool.state.stepRun next.id (some next)) :
    StepRunsStay event pool ↔
      RowStays pool.state.clock (EndsClaim stored event pool) stored next := by
  have atNext : (event.perform pool).state.stepRun next.id = some next := by
    rw [written, Function.update_self]
  constructor
  · intro stay
    constructor
    case ended =>
      intro isEnded
      obtain ⟨later, isLater, laterEnded⟩ := stay.ended next.id stored found isEnded
      obtain rfl := Option.some.inj (atNext.symm.trans isLater)
      exact laterEnded
    case claims =>
      intro holds notEnded
      rw [← sameClock] at holds
      obtain ⟨later, isLater, same⟩ := stay.claims next.id stored found holds notEnded
      obtain rfl := Option.some.inj (atNext.symm.trans isLater)
      exact same
  · intro stays
    constructor
    case ended =>
      intro stepId step isStored isEnded
      by_cases same : stepId = next.id
      · subst same
        obtain rfl := Option.some.inj (found.symm.trans isStored)
        exact ⟨next, atNext, stays.ended isEnded⟩
      · exact ⟨step, by rw [written, Function.update_of_ne same, isStored], isEnded⟩
    case claims =>
      intro stepId step isStored holds notEnded
      by_cases same : stepId = next.id
      · subst same
        obtain rfl := Option.some.inj (found.symm.trans isStored)
        rw [sameClock] at holds
        exact ⟨next, atNext, stays.claims holds notEnded⟩
      · exact ⟨step, by rw [written, Function.update_of_ne same, isStored], holds.sameClaim⟩

end

section

variable {pool : StepRunPool} {index : Nat} {told : StepRunTold} {operation : StepRunOperation}

theorem endsClaim_operate {step : WorkflowStepRun}
    (pending : pool.next index = some (told, operation)) :
    EndsClaim step (.operate index) pool ↔
      StepRunOperation.EndsClaim step pool.state operation := by
  constructor
  · rintro ⟨other, performed, isNext, ends⟩
    cases pending.symm.trans isNext
    exact ends
  · intro ends
    exact ⟨told, operation, pending, ends⟩

/-- A write of the claim or of a claimant leaves the row as it is to be. -/
theorem rowStays_of_writes {world : World} {stored next : WorkflowStepRun} {heard : Unit}
    (guarded : ∀ step, operation ≠ .updateWorkflowStepRun step)
    (sameId : next.id = stored.id) (isPast : ClockRead world told heard)
    (isAllowed : StepRunAllowed told operation) (writes : operation.Writes world stored next) :
    RowStays world.clock (operation.EndsClaim stored world) stored next := by
  cases operation with
  | readClock => exact writes.elim
  | getWorkflowStepRun stepId => exact writes.elim
  | getWorkflowRun workflowRunId => exact writes.elim
  | updateWorkflowStepRun step => exact absurd rfl (guarded step)
  | claimWorkflowStepRunIfAvailable step now =>
      obtain ⟨rfl, isClaimable⟩ := writes
      obtain ⟨isOpen, free⟩ := open_of_claimable isClaimable (isPast now isAllowed)
      refine ⟨fun isEnded => ?_, fun holds _ => absurd holds free⟩
      rw [isOpen] at isEnded
      cases isEnded
  | updateClaimedWorkflowStepRun step workerId =>
      obtain ⟨rfl, accepts, succeeded⟩ := writes
      obtain ⟨isOpen, isClaimant⟩ :=
        @claimant_of_accepts world.clock world.clock workerId stored accepts
      refine ⟨fun isEnded => ?_, fun holds notEnded => ?_⟩
      · rw [isOpen] at isEnded
        cases isEnded
      · exact absurd ⟨sameId, isClaimant holds, succeeded⟩ notEnded

theorem stepRunsStay_of_guarded (follows : StepRunPool.Follows pool)
    (pending : pool.next index = some (told, operation))
    (guarded : ∀ step, operation ≠ .updateWorkflowStepRun step) :
    StepRunsStay (.operate index) pool := by
  have after : (StepRunEvent.perform (.operate index) pool).state =
      (operation.perform pool.state).2 := Pool.state_operate pending
  obtain ⟨⟨heard, isPast⟩, isAllowed⟩ := follows.of_next pending
  obtain same | ⟨stored, next, found, writes, written⟩ := perform_stepRuns operation pool.state
  · apply stepRunsStay_of_stays
    intro stepId step isStored
    rw [after, same, isStored]
  · rw [stepRunsStay_iff_of_write (by rw [after, perform_clock]) found (by rw [after, written]),
      endsClaim_operate pending]
    exact rowStays_of_writes guarded (World.id_of_stepRun found).symm isPast isAllowed writes

/-- An unconditional write keeps everything exactly when it fits. -/
theorem stepRunsStay_iff_of_update {step : WorkflowStepRun} (follows : StepRunPool.Follows pool)
    (pending : pool.next index = some (told, .updateWorkflowStepRun step)) :
    StepRunsStay (.operate index) pool ↔ WritesFit (.operate index) pool := by
  have after : (StepRunEvent.perform (.operate index) pool).state =
      ((StepRunOperation.updateWorkflowStepRun step).perform pool.state).2 :=
    Pool.state_operate pending
  obtain ⟨-, current, wasRead, computed⟩ := follows.of_next pending
  obtain ⟨isNext, sameId, -, -⟩ := updatedStep_ok computed
  have fitsIff : WritesFit (.operate index) pool ↔ ∀ stored,
      pool.state.stepRun current.id = some stored →
        WriteFits pool.state.clock stored current step.status := by
    constructor
    · intro fits stored found
      exact fits told step pending current step.status stored wasRead isNext found
    · intro fits other written isPending read status stored isRead requested found
      cases pending.symm.trans isPending
      cases wasRead.symm.trans isRead
      cases isNext.symm.trans requested
      exact fits stored found
  rw [fitsIff, ← sameId]
  obtain ⟨absent, same⟩ | ⟨stored, found, written⟩ :=
    updateWorkflowStepRun_cases step pool.state.store
  · refine ⟨fun _ stored found => ?_, fun _ => stepRunsStay_of_stays fun stepId row isStored => ?_⟩
    · cases absent.symm.trans found
    · rw [after]
      exact (congrFun (World.stepRun_onStore_of_same same) stepId).trans isStored
  · have isStored : pool.state.stepRun step.id = some stored := found
    rw [stepRunsStay_iff_of_write (by rw [after, perform_clock]) isStored
        (by rw [after]; exact World.stepRun_onStore_of_insert written),
      endsClaim_operate pending]
    rw [show (StepRunOperation.updateWorkflowStepRun step).EndsClaim stored pool.state ↔
        step.id = stored.id ∧ workflowStepStatusTerminal step.status = true from Iff.rfl,
      rowStays_iff_writeFits (World.id_of_stepRun isStored).symm computed]
    constructor
    · intro fits other isOther
      cases isStored.symm.trans isOther
      exact fits
    · intro fits
      exact fits stored isStored

end

/-- One event keeps what is ended and what is claimed exactly when its write fits. -/
theorem stepRunsStay_iff_writesFit (event : StepRunEvent) (pool : StepRunPool)
    (follows : StepRunPool.Follows pool) : StepRunsStay event pool ↔ WritesFit event pool := by
  cases event with
  | enter call =>
      exact ⟨fun _ => trivial, fun _ => stepRunsStay_of_stays fun _ _ found => found⟩
  | elsewhere world =>
      refine ⟨fun _ => trivial, fun _ => stepRunsStay_of_stays fun stepId step found => ?_⟩
      unfold StepRunEvent.perform
      dsimp only
      split
      · rename_i continues
        have same := World.id_of_stepRun found
        rw [← same]
        exact continues.2 step (Table.find?_eq_some.mp found).1
      · exact found
  | operate index =>
      cases pending : pool.next index with
      | none =>
          constructor
          · intro _ told step isPending
            cases pending.symm.trans isPending
          · intro _
            apply stepRunsStay_of_stays
            intro stepId step found
            rw [StepRunEvent.perform, Pool.operate_of_next_eq_none pending]
            exact found
      | some next =>
          obtain ⟨told, operation⟩ := next
          by_cases isUpdate : ∃ step, operation = .updateWorkflowStepRun step
          · obtain ⟨step, rfl⟩ := isUpdate
            exact stepRunsStay_iff_of_update follows pending
          · have guarded : ∀ step, operation ≠ .updateWorkflowStepRun step :=
              fun step same => isUpdate ⟨step, same⟩
            refine ⟨fun _ other step isPending => ?_,
              fun _ => stepRunsStay_of_guarded follows pending guarded⟩
            cases pending.symm.trans isPending
            exact absurd rfl (guarded step)

/-! ### What a run keeps -/

/-- The clock does not go back. -/
theorem clock_perform_le (event : StepRunEvent) (pool : StepRunPool) :
    pool.state.clock ≤ (event.perform pool).state.clock := by
  cases event with
  | enter call => exact Int.le_refl _
  | elsewhere world =>
      unfold StepRunEvent.perform
      dsimp only
      split
      · rename_i continues
        exact continues.1
      · exact Int.le_refl _
  | operate index =>
      rw [StepRunEvent.perform]
      cases pending : pool.next index with
      | none =>
          exact Int.le_of_eq (congrArg (fun after => after.state.clock)
            (Pool.operate_of_next_eq_none pending).symm)
      | some next =>
          rw [Pool.state_operate pending]
          exact Int.le_of_eq (perform_clock next.2 pool.state).symm

theorem clock_stepRunsAfter_le (events : List StepRunEvent) (pool : StepRunPool) :
    pool.state.clock ≤ (stepRunsAfter events pool).state.clock := by
  induction events generalizing pool with
  | nil => exact Int.le_refl _
  | cons event events inductionHypothesis =>
      exact Int.le_trans (clock_perform_le event pool) (inductionHypothesis (event.perform pool))

theorem ended_stepRunsAfter {events : List StepRunEvent} {pool : StepRunPool} {stepId : Uuid}
    {step : WorkflowStepRun} (along : MetAlong StepRunEvent.perform StepRunsStay events pool)
    (found : pool.state.stepRun stepId = some step)
    (isEnded : workflowStepStatusTerminal step.status = true) :
    ∃ later, (stepRunsAfter events pool).state.stepRun stepId = some later ∧
      workflowStepStatusTerminal later.status = true := by
  induction events generalizing pool step with
  | nil => exact ⟨step, found, isEnded⟩
  | cons event events inductionHypothesis =>
      rw [metAlong_cons] at along
      obtain ⟨next, isNext, nextEnded⟩ := along.1.ended stepId step found isEnded
      exact inductionHypothesis along.2 isNext nextEnded

theorem endsClaim_congr {step later : WorkflowStepRun} (sameId : later.id = step.id)
    (same : SameClaim step later) (event : StepRunEvent) (pool : StepRunPool) :
    EndsClaim later event pool ↔ EndsClaim step event pool := by
  cases event with
  | enter call => exact Iff.rfl
  | elsewhere world => exact Iff.rfl
  | operate index =>
      have sameEnd : ∀ operation : StepRunOperation,
          operation.EndsClaim later pool.state ↔ operation.EndsClaim step pool.state := by
        intro operation
        unfold StepRunOperation.EndsClaim
        rw [sameId, same.claimedByWorker]
      exact exists_congr fun told => exists_congr fun operation =>
        and_congr_right fun _ => sameEnd operation

theorem claim_stepRunsAfter {events : List StepRunEvent} {pool : StepRunPool} {stepId : Uuid}
    {step : WorkflowStepRun} (along : MetAlong StepRunEvent.perform StepRunsStay events pool)
    (found : pool.state.stepRun stepId = some step)
    (holds : HoldsClaim (stepRunsAfter events pool).state.clock step)
    (notEnded : MetAlong StepRunEvent.perform (fun event pool => ¬ EndsClaim step event pool)
      events pool) :
    ∃ later, (stepRunsAfter events pool).state.stepRun stepId = some later ∧
      SameClaim step later := by
  induction events generalizing pool step with
  | nil => exact ⟨step, found, holds.sameClaim⟩
  | cons event events inductionHypothesis =>
      rw [metAlong_cons] at along notEnded
      have holdsNow : HoldsClaim (event.perform pool).state.clock step :=
        holds.mono (clock_stepRunsAfter_le events (event.perform pool))
      obtain ⟨next, isNext, same⟩ := along.1.claims stepId step found holdsNow notEnded.1
      have sameId : next.id = step.id :=
        (World.id_of_stepRun isNext).trans (World.id_of_stepRun found).symm
      have nextNotEnded : MetAlong StepRunEvent.perform
          (fun event pool => ¬ EndsClaim next event pool) events (event.perform pool) := by
        intro front later isPrefix
        rw [endsClaim_congr sameId same]
        exact notEnded.2 front later isPrefix
      obtain ⟨later, isLater, sameLater⟩ :=
        inductionHypothesis along.2 isNext (same.holdsClaim holds) nextNotEnded
      exact ⟨later, isLater, sameLater.running,
        sameLater.claimedByWorker.trans same.claimedByWorker,
        sameLater.leaseExpiresAt.trans same.leaseExpiresAt⟩

/-- A run keeps what is ended and claimed when every event does, and only then. -/
theorem stepRunsKept_iff_metAlong {events : List StepRunEvent} {pool : StepRunPool} :
    StepRunsKept events pool ↔ MetAlong StepRunEvent.perform StepRunsStay events pool := by
  constructor
  · intro kept front event isPrefix
    have after : stepRunsAfter (front ++ [event]) pool = event.perform (stepRunsAfter front pool) :=
      runEvents_append StepRunEvent.perform front [event] pool
    constructor
    case ended =>
      intro stepId step found isEnded
      rw [← after]
      exact kept.ended front [event] stepId step isPrefix found isEnded
    case claims =>
      intro stepId step found holds notEnded
      rw [← after] at holds ⊢
      refine kept.claims front [event] stepId step isPrefix found holds ?_
      rw [metAlong_cons]
      exact ⟨notEnded, metAlong_nil⟩
  · intro along
    have between : ∀ front middle, front ++ middle <+: events →
        MetAlong StepRunEvent.perform StepRunsStay middle (stepRunsAfter front pool) :=
      fun front middle isPrefix => (metAlong_append.mp (along.of_prefix isPrefix)).2
    constructor
    case ended =>
      intro front middle stepId step isPrefix found isEnded
      rw [stepRunsAfter, runEvents_append]
      exact ended_stepRunsAfter (between front middle isPrefix) found isEnded
    case claims =>
      intro front middle stepId step isPrefix found holds notEnded
      rw [stepRunsAfter, runEvents_append] at holds ⊢
      exact claim_stepRunsAfter (between front middle isPrefix) found holds notEnded

/-- Ended step runs stay ended and live claims stay, in exactly the runs whose
unconditional writes fit what is stored. -/
theorem stepRunsKept_iff_writesFit (events : List StepRunEvent) (world : World) :
    StepRunsKept events (idleStepRuns world) ↔
      MetAlong StepRunEvent.perform WritesFit events (idleStepRuns world) := by
  rw [stepRunsKept_iff_metAlong]
  exact metAlong_congr follows_perform stepRunsStay_iff_writesFit (idleStepRuns_follows world)

/-! ### A claim and a completion that are lost -/

def draftStepRun : WorkflowStepRun where
  id := 7
  workflowRunId := 1
  stepKey := "draft"
  stepType := "agent"
  agentId := some 2
  agentVersionId := none
  sessionId := some 5
  threadId := none
  taskGrantId := some 3
  environmentId := none
  status := .queued
  inputPayload := .object []
  outputPayload := .object []
  claimedByWorker := none
  claimOwnerVersion := 0
  leaseExpiresAt := none
  scheduledAt := none

/-- The step run as a worker claims it. -/
def claimedDraft (now : Timestamp) : WorkflowStepRun :=
  { draftStepRun with
    status := .running
    claimedByWorker := some "worker:a"
    claimOwnerVersion := workflowStepClaimOwnerVersion
    leaseExpiresAt := some (now + workerJobLease) }

def draftWorld : World where
  store := {
    sessions := Table.empty
    workflowRuns := Table.empty.insert ⟨1, .running, 5, none, .object [], .object []⟩
    workflowStepRuns := Table.empty.insert draftStepRun
    taskGrants := Table.empty }
  clock := 100
  issuedUuid := 9

/-- A request that changes the output of the step and not its status. -/
def draftOutputRequest : StepUpdateRequest where
  stepId := 7
  input := { outputPayload := some (.object [("note", .string "reviewed")]) }
  authorization := .ok ()
  executionOwner := .ok "subject:operator"

/-- The handler has read the queued step, and then a worker claims it. -/
def claimBesideUpdate : List StepRunEvent :=
  [.enter (.update draftOutputRequest), .operate 0, .operate 0,
    .enter (.claim claimedDraft), .operate 1, .operate 1]

/-- The worker also completes the step before the handler writes. -/
def completionBesideUpdate : List StepRunEvent :=
  claimBesideUpdate ++
    [.enter (.updateClaimed { claimedDraft 100 with status := .completed } "worker:a"), .operate 2]

/-- The write of the handler ends a claim that is in time, and brings a completed step back
into the queue. -/
theorem update_loses_claim_and_completion :
    ¬ StepRunsKept (claimBesideUpdate ++ [.operate 0]) (idleStepRuns draftWorld) ∧
      ¬ StepRunsKept (completionBesideUpdate ++ [.operate 0]) (idleStepRuns draftWorld) := by
  constructor
  · intro kept
    have claimed : (stepRunsAfter claimBesideUpdate (idleStepRuns draftWorld)).state.stepRun 7 =
        some (claimedDraft 100) := by decide +kernel
    have inTime : HoldsClaim
        (stepRunsAfter (claimBesideUpdate ++ [.operate 0]) (idleStepRuns draftWorld)).state.clock
        (claimedDraft 100) := by decide +kernel
    have notEnded : MetAlong StepRunEvent.perform
        (fun event pool => ¬ EndsClaim (claimedDraft 100) event pool) [.operate 0]
        (stepRunsAfter claimBesideUpdate (idleStepRuns draftWorld)) := by
      rw [metAlong_cons]
      refine ⟨?_, metAlong_nil⟩
      rintro ⟨told, operation, isNext, ends⟩
      obtain ⟨-, rfl⟩ := Prod.mk.inj (Option.some.inj isNext)
      cases ends.2
    obtain ⟨later, isLater, same⟩ := kept.claims claimBesideUpdate [.operate 0] 7 _
      List.prefix_rfl claimed inTime notEnded
    obtain rfl := Option.some.inj isLater
    cases same.running
  · intro kept
    have completed : (stepRunsAfter completionBesideUpdate (idleStepRuns draftWorld)).state.stepRun
        7 = some { claimedDraft 100 with status := .completed } := by decide +kernel
    obtain ⟨later, isLater, isEnded⟩ := kept.ended completionBesideUpdate [.operate 0] 7 _
      List.prefix_rfl completed rfl
    obtain rfl := Option.some.inj isLater
    cases isEnded

end MandoForge
