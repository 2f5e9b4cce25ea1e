/-
Module: MandoForge.Execution.Publication
Purpose: How the outcome of a job reaches the session loop: the tail appends the
  completion event, projects it, and marks the job as published.  A published
  completion has its result and its event in the charge of the loop, unless the event
  was logged by an earlier try and the session waits for a later result by now.
Trusted boundary: none
Main exports: publishExecutionOutcomeEvent, publication_skips_event
-/
import MandoForge.SessionLoop.ProjectionRuns
import MandoForge.Store.EventLog

namespace MandoForge

open Foundation
open ExecutionWorld

/-! ### The tails -/

def publishExecutionOutcomeEvent (job : ExecutionJob) (event : SessionEvent) :
    ExecutionProgram Unit := do
  let accepts ← sessionAcceptsWorkerExecution job.sessionId
  if !accepts then do
    let _ ← ExecutionState.queue (.markOutcomePublished job.id)
    pure ()
  else do
    let pending ← earliestUncoveredPendingToolResultSeq job.sessionId
    let pendingStart := pending.getD event.seq
    let projected ← projectSessionEventToLoopFrom event (some pendingStart)
    let reached ← if projected.isSome then pure true
      else sessionLoopProjectionCoversRange job.sessionId pendingStart event.seq
    if reached then do
      let _ ← ExecutionState.queue (.markOutcomePublished job.id)
      pure ()
    else pure ()

/-- The event of a completed job. -/
def executionCompletedEntry (job : ExecutionJob) : NewEvent :=
  ⟨"worker", some job.id, job.sessionId, "execution.completed", executionCompletedPayload job⟩

/-- The stage of the job is one of the two. -/
def stageIsOneOf (job : ExecutionJob) (pending published : String) : Bool :=
  match (job.finalizationDetails.index "stage").asStr with
  | some stage => decide (stage = pending) || decide (stage = published)
  | none => false

def publishExecutionCompletionTail (recordId : Uuid → String → List String → Uuid)
    (job : ExecutionJob) : ExecutionProgram Unit :=
  if job.status ≠ .completed ∨
      !stageIsOneOf job "completion_pending" "completion_published" then
    throw (.notFound "execution completion is not pending publication")
  else do
    let event ← ExecutionState.appendEventOnce (executionCompletionEventId recordId job)
      (executionCompletedEntry job)
    publishExecutionOutcomeEvent job event

/-! ### What a publication is to do -/

section Publication

variable (recordId : Uuid → String → List String → Uuid)

/-- The event of the completion of the job, if the log has it. -/
def completionEvent (job : ExecutionJob) (store : MemoryStore) : Option SessionEvent :=
  store.events.find? fun event => decide (event.id = executionCompletionEventId recordId job)

/-- The result of the job and its completion are in the charge of the session loop. -/
def OutcomeReached (job : ExecutionJob) (store : MemoryStore) : Prop :=
  (∃ result, latestToolResult job (eventsOf job.sessionId store) = some result ∧
      InEffectiveRange job.sessionId store result.seq) ∧
    ∃ event, completionEvent recordId job store = some event ∧
      InEffectiveRange job.sessionId store event.seq

/-- The completions in the log. -/
def completionsLogged (store : MemoryStore) : List SessionEvent :=
  store.events.filter fun event => decide (event.eventType = "execution.completed")

/-- The world after the tail of the job, run as one step. -/
def afterCompletionTail (job : ExecutionJob) (world : ExecutionWorld) : ExecutionWorld :=
  ((publishExecutionCompletionTail recordId job).run world).2

/-- The job with its completion published. -/
def ExecutionJob.published (job : ExecutionJob) : ExecutionJob :=
  { job with finalizationDetails := stageDetails "completion_published" }

/-- The tail publishes what has reached the session loop, or what a session that takes
up no work will not need; otherwise the job stays, and another try appends no second
completion. -/
def PublicationReaches (job : ExecutionJob) (world : ExecutionWorld) : Prop :=
  let after := afterCompletionTail recordId job world
  (after.queue.jobs.find? job.id = some job.published ∧
      (SessionAccepts job.sessionId world.store → OutcomeReached recordId job after.store)) ∨
    (after.queue.jobs.find? job.id = some job ∧
      completionsLogged (afterCompletionTail recordId job after).store =
        completionsLogged after.store)

/-- The job is completed, and its completion is to be published.  Its result was logged
before its completion was. -/
structure AwaitsPublication (job : ExecutionJob) (world : ExecutionWorld) : Prop where
  stored : world.queue.jobs.find? job.id = some job
  completed : job.status = .completed
  pending : job.finalizationDetails.index "stage" = .string "completion_pending"
  numbered : LogNumbered job.sessionId world.store
  resultFirst : ∀ event result, completionEvent recordId job world.store = some event →
    latestToolResult job (eventsOf job.sessionId world.store) = some result →
    result.seq < event.seq

/-- The completion is in the log since an earlier try, in the charge of no job, and what
the session waits for is later. -/
structure CompletionOvertaken (job : ExecutionJob) (world : ExecutionWorld)
    (event : SessionEvent) : Prop where
  accepts : SessionAccepts job.sessionId world.store
  logged : completionEvent recordId job world.store = some event
  same : validateIdempotentEventIdentity event (executionCompletedEntry job) = .ok event
  uncovered : ¬InEffectiveRange job.sessionId world.store event.seq
  recorded : ResultsRecorded job.sessionId world
  waits : ∃ seq, UncoveredResult job.sessionId world seq
  later : ∀ seq, UncoveredResult job.sessionId world seq → event.seq < seq

/-! ### The steps of the tail -/

variable {recordId}
variable {job : ExecutionJob} {world after : ExecutionWorld} {event : SessionEvent}

theorem completionsLogged_noted (noted : world.Noted after) :
    completionsLogged after.store = completionsLogged world.store := by
  obtain ⟨notes, grown, areNotes⟩ := noted.log
  have none : notes.filter (fun event => decide (event.eventType = "execution.completed")) =
      [] := by
    rw [List.filter_eq_nil_iff]
    intro event member isCompletion
    exact (areNotes event member).2 (of_decide_eq_true isCompletion)
  rw [completionsLogged, grown, List.filter_append, none, List.append_nil, completionsLogged]

theorem completionEvent_noted (noted : world.Noted after)
    (logged : completionEvent recordId job world.store = some event) :
    completionEvent recordId job after.store = some event := by
  obtain ⟨notes, grown, -⟩ := noted.log
  rw [completionEvent, grown]
  exact find?_append_of_some logged

theorem identity_of_validate {entry : NewEvent} {found : SessionEvent}
    (same : validateIdempotentEventIdentity event entry = .ok found) :
    found = event ∧ event.actorType = entry.actorType ∧ event.actorId = entry.actorId ∧
      event.sessionId = entry.sessionId ∧ event.eventType = entry.eventType ∧
      event.payload = entry.payload := by
  unfold validateIdempotentEventIdentity at same
  split at same
  · next fields => exact ⟨(Except.ok.inj same).symm, fields⟩
  · cases same

/-- The completion is in the log, as it is to be appended. -/
structure CompletionLogged (recordId : Uuid → String → List String → Uuid) (job : ExecutionJob)
    (event : SessionEvent) (store : MemoryStore) : Prop where
  logged : completionEvent recordId job store = some event
  same : validateIdempotentEventIdentity event (executionCompletedEntry job) = .ok event

theorem CompletionLogged.noted (completion : CompletionLogged recordId job event world.store)
    (noted : world.Noted after) : CompletionLogged recordId job event after.store :=
  ⟨completionEvent_noted noted completion.logged, completion.same⟩

theorem validate_newSessionEvent (eventId : Uuid) (entry : NewEvent) (store : MemoryStore) :
    validateIdempotentEventIdentity (newSessionEvent eventId entry store) entry =
      .ok (newSessionEvent eventId entry store) :=
  if_pos ⟨rfl, rfl, rfl, rfl, rfl⟩

/-- The append of the completion fails and leaves the store, or the completion is in the
log: as the last event, or as it was found. -/
theorem appendCompletion_cases (recordId : Uuid → String → List String → Uuid)
    (job : ExecutionJob) (store : MemoryStore) :
    (∃ error, appendEventWithId (executionCompletionEventId recordId job) true
        (executionCompletedEntry job) store = (.error error, store)) ∨
    ∃ event after, appendEventWithId (executionCompletionEventId recordId job) true
        (executionCompletedEntry job) store = (.ok event, after) ∧
      CompletionLogged recordId job event after ∧
      (∃ session, store.sessions.find? job.sessionId = some session) ∧
      (after = store ∨ (completionEvent recordId job store = none ∧
        event = newSessionEvent (executionCompletionEventId recordId job)
          (executionCompletedEntry job) store ∧
        after = { store with events := store.events ++ [event] })) := by
  cases found : store.sessions.find? job.sessionId with
  | none => exact .inl ⟨_, if_pos found⟩
  | some session =>
      have present : ¬store.sessions.find? (executionCompletedEntry job).sessionId = none := by
        rw [show (executionCompletedEntry job).sessionId = job.sessionId from rfl, found]
        exact Option.some_ne_none session
      rw [appendEventWithId, if_neg present, if_pos rfl]
      cases logged : completionEvent recordId job store with
      | some existing =>
          rw [show store.events.find? _ = some existing from logged]
          dsimp only
          cases same : validateIdempotentEventIdentity existing (executionCompletedEntry job) with
          | error error => exact .inl ⟨error, rfl⟩
          | ok event =>
              obtain ⟨rfl, -⟩ := identity_of_validate same
              exact .inr ⟨event, store, rfl, ⟨logged, same⟩, ⟨session, rfl⟩, .inl rfl⟩
      | none =>
          rw [show store.events.find? _ = none from logged]
          refine .inr ⟨_, _, rfl, ⟨?_, validate_newSessionEvent ..⟩, ⟨session, rfl⟩,
            .inr ⟨rfl, rfl, rfl⟩⟩
          rw [completionEvent, List.find?_append]
          rw [show store.events.find? _ = none from logged, Option.none_or]
          exact List.find?_cons_of_pos (decide_eq_true rfl)

/-- The world with the job marked as published. -/
def marked (job : ExecutionJob) (world : ExecutionWorld) : ExecutionWorld :=
  (world.onQueue (.markOutcomePublished job.id)).2

/-- A job that awaits publication is marked. -/
theorem marked_find? (stored : world.queue.jobs.find? job.id = some job)
    (completed : job.status = .completed)
    (pending : job.finalizationDetails.index "stage" = .string "completion_pending") :
    (marked job world).queue.jobs.find? job.id = some job.published := by
  have stage : job.stage = some (.string "completion_pending") := by
    unfold Json.index at pending
    unfold ExecutionJob.stage
    cases isStage : job.finalizationDetails.get "stage" with
    | none =>
        rw [isStage] at pending
        cases pending
    | some stage =>
        rw [isStage, Option.getD_some] at pending
        rw [pending]
  have publishable : MemoryExecutionQueue.hasPublishableOutcome job = true := by
    unfold MemoryExecutionQueue.hasPublishableOutcome
    rw [completed, stage]
    decide
  change (MemoryExecutionQueue.markOutcomePublished job.id world.queue).2.jobs.find? job.id = _
  simp only [MemoryExecutionQueue.markOutcomePublished, MemoryExecutionQueue.changeJob, stored,
    publishable, if_true]
  rw [Table.find?_modify_same, stored, Option.map_some, if_pos completed]
  rfl

/-! ### The run of the tail -/

theorem sessionEventSeq_of_logged {eventId : Uuid} {store : MemoryStore}
    (logged : store.events.find? (fun other => decide (other.id = eventId)) = some event) :
    sessionEventSeq event.sessionId event.id store = some event.seq := by
  obtain ⟨isId, front, back, split, before⟩ := List.find?_eq_some_iff_append.mp logged
  obtain rfl : event.id = eventId := of_decide_eq_true isId
  rw [sessionEventSeq, Option.map_eq_some_iff]
  refine ⟨event, ?_, rfl⟩
  rw [eventsOf, List.find?_filter, List.find?_eq_some_iff_append]
  refine ⟨by simp, front, back, split, fun other member => ?_⟩
  have isOther := before other member
  simp only [Bool.not_eq_eq_eq_not, Bool.not_true, decide_eq_false_iff_not] at isOther
  simp [isOther]

theorem projected_of_logged (completion : CompletionLogged recordId job event world.store)
    (stored : world.queue.jobs.find? job.id = some job) (completed : job.status = .completed)
    (accepts : SessionAccepts job.sessionId world.store)
    (recorded : ResultsRecorded job.sessionId world) :
    event.sessionId = job.sessionId ∧ CompletionProjected event world := by
  obtain ⟨-, actorType, actorId, ofSession, eventType, payload⟩ :=
    identity_of_validate completion.same
  have ofSession : event.sessionId = job.sessionId := ofSession
  have matchesJob : executionCompletionEventMatchesJob event job = true := by
    simp only [executionCompletionEventMatchesJob, outcomeEventMatchesJob, actorType, actorId,
      ofSession, eventType, payload, completed]
    simp [executionCompletedEntry, executionCompletedPayload, Json.index, Json.get, Json.ofFields,
      Json.getField_insertField]
  refine ⟨ofSession, eventType, ⟨job, (Table.find?_eq_some.mp stored).1, actorId, matchesJob⟩,
    ofSession ▸ accepts, sessionEventSeq_of_logged completion.logged, ofSession ▸ recorded⟩

theorem run_publishExecutionOutcomeEvent_refused {session : Session}
    (found : world.store.sessions.find? job.sessionId = some session)
    (refuses : session.status.acceptsWorkerExecution = false) :
    ((publishExecutionOutcomeEvent job event).run world).2 = marked job world := by
  rw [publishExecutionOutcomeEvent, Program.run_bind, run_sessionAcceptsWorkerExecution found,
    refuses]
  dsimp only
  rw [if_pos (by decide), Program.run_bind, ExecutionState.run_queue]
  cases (world.onQueue (.markOutcomePublished job.id)).1 <;> rfl

theorem run_publishExecutionOutcomeEvent_missing (event : SessionEvent)
    (accepts : SessionAccepts job.sessionId world.store)
    (missing : ¬ResultsRecorded job.sessionId world) :
    ((publishExecutionOutcomeEvent job event).run world).2 = world := by
  obtain ⟨session, found, accepting⟩ := accepts
  obtain ⟨recorded, -⟩ | ⟨-, error, ran⟩ :=
    run_earliestUncoveredPendingToolResultSeq job.sessionId world
  · exact absurd recorded missing
  · rw [publishExecutionOutcomeEvent, Program.run_bind, run_sessionAcceptsWorkerExecution found,
      accepting]
    dsimp only
    rw [if_neg (by simp), Program.run_bind, ran]

/-- What the publication leaves when it is marked: a job took charge, or the span was
covered. -/
def SpanReached (job : ExecutionJob) (floor seqEnd : Int) (before after : MemoryStore) : Prop :=
  TakesCharge job.sessionId floor seqEnd before after ∨
    (after.sessionLoopJobs = before.sessionLoopJobs ∧
      SpanCovered job.sessionId after floor seqEnd)

/-- Otherwise the span from the earliest uncovered result to the event is projected, and
the job is marked if that span is reached. -/
theorem run_publishExecutionOutcomeEvent {earliest : Option Int}
    (completion : CompletionLogged recordId job event world.store)
    (stored : world.queue.jobs.find? job.id = some job) (completed : job.status = .completed)
    (accepts : SessionAccepts job.sessionId world.store)
    (recorded : ResultsRecorded job.sessionId world)
    (isEarliest : IsEarliestUncovered job.sessionId world earliest) :
    ∃ noted : ExecutionWorld, world.Noted noted ∧
      ((((publishExecutionOutcomeEvent job event).run world).2 = noted ∧
          earliest.getD event.seq ≤ event.seq) ∨
        (((publishExecutionOutcomeEvent job event).run world).2 = marked job noted ∧
          SpanReached job (earliest.getD event.seq) event.seq world.store noted.store)) := by
  obtain ⟨ofSession, projected⟩ := projected_of_logged completion stored completed accepts recorded
  obtain ⟨projection, noted, projects, reached⟩ :=
    run_projectSessionEventToLoopFrom projected (ofSession ▸ isEarliest)
  rw [ofSession] at reached
  have isNoted : world.Noted noted := by
    have moved := projectSessionEventToLoopFrom_notes event (some (earliest.getD event.seq)) world
    rwa [projects] at moved
  have marks : ∀ now : ExecutionWorld, ((do
      let _ ← ExecutionState.queue (.markOutcomePublished job.id)
      pure () : ExecutionProgram Unit).run now).2 = marked job now := by
    intro now
    rw [Program.run_bind, ExecutionState.run_queue]
    cases (now.onQueue (.markOutcomePublished job.id)).1 <;> rfl
  obtain ⟨session, found, accepting⟩ := accepts
  refine ⟨noted, isNoted, ?_⟩
  rw [publishExecutionOutcomeEvent, Program.run_bind, run_sessionAcceptsWorkerExecution found,
    accepting]
  dsimp only
  rw [if_neg (by simp), Program.run_bind,
    run_earliestUncoveredPendingToolResultSeq_ok recorded isEarliest]
  dsimp only
  rw [Program.run_bind, projects]
  dsimp only
  rcases reached with ⟨rfl, loopJobs⟩ | ⟨isSome, takesCharge⟩
  · obtain ⟨covered, covers, isCovered⟩ := run_sessionLoopProjectionCoversRange job.sessionId
      (earliest.getD event.seq) event.seq noted
    rw [if_neg (by simp), Program.run_bind, covers]
    cases covered with
    | true => exact .inr ⟨marks noted, .inr ⟨loopJobs, isCovered.mp rfl⟩⟩
    | false =>
        refine .inl ⟨rfl, ?_⟩
        by_contra beyond
        have empty : SpanCovered job.sessionId noted.store (earliest.getD event.seq) event.seq :=
          fun seq above below => by omega
        exact Bool.noConfusion (isCovered.mpr empty)
  · rw [if_pos isSome, Program.run_bind, Program.run_pure]
    dsimp only
    rw [if_pos rfl]
    exact .inr ⟨marks noted, .inl takesCharge⟩

/-! ### Publication -/

theorem afterCompletionTail_eq (recordId : Uuid → String → List String → Uuid)
    (world : ExecutionWorld) (completed : job.status = .completed)
    (pending : job.finalizationDetails.index "stage" = .string "completion_pending") :
    afterCompletionTail recordId job world =
      match appendEventWithId (executionCompletionEventId recordId job) true
          (executionCompletedEntry job) world.store with
      | (.ok event, store) =>
          ((publishExecutionOutcomeEvent job event).run { world with store := store }).2
      | (.error _, store) => { world with store := store } := by
  have passes : ¬(job.status ≠ .completed ∨
      (!stageIsOneOf job "completion_pending" "completion_published") = true) := by
    simp [completed, stageIsOneOf, pending, Json.asStr]
  rw [afterCompletionTail, publishExecutionCompletionTail, if_neg passes, Program.run_bind,
    ExecutionState.run_appendEventOnce]
  generalize appendEventWithId (executionCompletionEventId recordId job) true
    (executionCompletedEntry job) world.store = appended
  obtain ⟨outcome, store⟩ := appended
  cases outcome <;> rfl

/-- What a publication leaves: notes, and perhaps the mark. -/
theorem publishExecutionOutcomeEvent_leaves (job : ExecutionJob) (event : SessionEvent)
    (world : ExecutionWorld) :
    ∃ noted : ExecutionWorld, world.Noted noted ∧
      (((publishExecutionOutcomeEvent job event).run world).2 = noted ∨
        ((publishExecutionOutcomeEvent job event).run world).2 = marked job noted) := by
  have marks : ∀ now : ExecutionWorld, ((do
      let _ ← ExecutionState.queue (.markOutcomePublished job.id)
      pure () : ExecutionProgram Unit).run now).2 = marked job now := by
    intro now
    rw [Program.run_bind, ExecutionState.run_queue]
    cases (now.onQueue (.markOutcomePublished job.id)).1 <;> rfl
  have decides : ∀ (now : ExecutionWorld) (reached : Bool), ((if reached then (do
      let _ ← ExecutionState.queue (.markOutcomePublished job.id)
      pure ()) else pure () : ExecutionProgram Unit).run now).2 = now ∨
      ((if reached then (do
        let _ ← ExecutionState.queue (.markOutcomePublished job.id)
        pure ()) else pure () : ExecutionProgram Unit).run now).2 = marked job now := by
    intro now reached
    cases reached with
    | true => exact .inr (marks now)
    | false => exact .inl rfl
  rw [publishExecutionOutcomeEvent, Program.run_bind]
  have accepting := sessionAcceptsWorkerExecution_notes job.sessionId world
  generalize (sessionAcceptsWorkerExecution job.sessionId).run world = ran at accepting ⊢
  obtain ⟨outcome, first⟩ := ran
  cases outcome with
  | error error => exact ⟨first, accepting, .inl rfl⟩
  | ok accepts =>
      cases accepts with
      | false => exact ⟨first, accepting, .inr (marks first)⟩
      | true =>
          dsimp only
          rw [if_neg (by simp), Program.run_bind]
          have reading := earliestUncoveredPendingToolResultSeq_notes job.sessionId first
          generalize (earliestUncoveredPendingToolResultSeq job.sessionId).run first = ran
            at reading ⊢
          obtain ⟨outcome, second⟩ := ran
          cases outcome with
          | error error => exact ⟨second, accepting.trans reading, .inl rfl⟩
          | ok pending =>
              dsimp only
              rw [Program.run_bind]
              have projecting := projectSessionEventToLoopFrom_notes event
                (some (pending.getD event.seq)) second
              generalize (projectSessionEventToLoopFrom event
                (some (pending.getD event.seq))).run second = ran at projecting ⊢
              obtain ⟨outcome, third⟩ := ran
              have noted := (accepting.trans reading).trans projecting
              cases outcome with
              | error error => exact ⟨third, noted, .inl rfl⟩
              | ok projected =>
                  cases projected with
                  | some _ => exact ⟨third, noted, .inr (marks third)⟩
                  | none =>
                      obtain ⟨covered, covers, -⟩ := run_sessionLoopProjectionCoversRange
                        job.sessionId (pending.getD event.seq) event.seq third
                      dsimp only
                      rw [if_neg (by simp), Program.run_bind, covers]
                      exact ⟨third, noted, decides third covered⟩

/-- A completion that is in the log is appended no second time. -/
theorem completionsLogged_again (completed : job.status = .completed)
    (pending : job.finalizationDetails.index "stage" = .string "completion_pending")
    (completion : CompletionLogged recordId job event world.store) :
    completionsLogged (afterCompletionTail recordId job world).store =
      completionsLogged world.store := by
  rw [afterCompletionTail_eq recordId world completed pending]
  rcases appendCompletion_cases recordId job world.store with
    ⟨error, refused⟩ | ⟨found, store, appended, -, -, rfl | ⟨absent, -⟩⟩
  · rw [refused]
  · rw [appended]
    dsimp only
    obtain ⟨noted, isNoted, same | same⟩ := publishExecutionOutcomeEvent_leaves job found world
    · rw [same]
      exact completionsLogged_noted isNoted
    · rw [same]
      change completionsLogged noted.store = _
      exact completionsLogged_noted isNoted
  · rw [completion.logged] at absent
    cases absent

theorem reaches_of_stays (awaits : AwaitsPublication recordId job world)
    (stays : (afterCompletionTail recordId job world).queue = world.queue)
    (again : completionsLogged (afterCompletionTail recordId job
        (afterCompletionTail recordId job world)).store =
      completionsLogged (afterCompletionTail recordId job world).store) :
    PublicationReaches recordId job world :=
  .inr ⟨by rw [stays]; exact awaits.stored, again⟩

theorem latestToolResult_mem {events : List SessionEvent}
    (isResult : latestToolResult job events = some event) : event ∈ events :=
  List.mem_reverse.mp (List.mem_of_find?_eq_some (Option.filter_eq_some_iff.mp isResult).1)

/-- The append of the completion leaves what tools returned. -/
theorem latestToolResult_appended {store : MemoryStore} (other : ExecutionJob)
    (sessionId : Uuid) :
    latestToolResult other (eventsOf sessionId { store with events := store.events ++
        [newSessionEvent (executionCompletionEventId recordId job)
          (executionCompletedEntry job) store] }) =
      latestToolResult other (eventsOf sessionId store) := by
  rw [eventsOf, List.filter_append]
  simp only [List.filter_cons, List.filter_nil]
  split
  · have notTool : isDurableToolOutcome other (newSessionEvent
        (executionCompletionEventId recordId job) (executionCompletedEntry job) store) =
        false := by
      simp [isDurableToolOutcome, newSessionEvent, executionCompletedEntry]
    rw [latestToolResult, latestDurableToolOutcome, List.reverse_append, List.reverse_singleton,
      List.singleton_append, List.find?_cons_of_neg (by simp [notTool])]
    rfl
  · rw [List.append_nil]
    rfl

theorem completionIsPending_of_awaits (awaits : AwaitsPublication recordId job world) :
    completionIsPending job.sessionId job = true := by
  simp [completionIsPending, awaits.completed, awaits.pending]

/-- When the span is reached, so is the result; and so is the event, if it is in the span
or was covered. -/
theorem outcomeReached_of_span {earliest : Option Int} {noted : ExecutionWorld}
    (isNoted : world.Noted noted)
    (completion : CompletionLogged recordId job event world.store)
    (isEarliest : IsEarliestUncovered job.sessionId world earliest)
    {result : SessionEvent} (member : job ∈ world.queue.jobs)
    (pending : completionIsPending job.sessionId job = true)
    (isResult : latestToolResult job (eventsOf job.sessionId world.store) = some result)
    (resultFirst : result.seq < event.seq)
    (span : SpanReached job (earliest.getD event.seq) event.seq world.store noted.store)
    (eventIn : earliest.getD event.seq ≤ event.seq ∨
      InEffectiveRange job.sessionId world.store event.seq) :
    OutcomeReached recordId job noted.store := by
  have covers : SpanCovered job.sessionId noted.store (earliest.getD event.seq) event.seq :=
    span.elim (fun takes => takes.span) And.right
  have keeps : ∀ seq, seq ≤ event.seq → InEffectiveRange job.sessionId world.store seq →
      InEffectiveRange job.sessionId noted.store seq := by
    intro seq below was
    rcases span with takes | ⟨loopJobs, -⟩
    · exact takes.keeps seq below was
    · exact (inEffectiveRange_congr loopJobs).mpr was
  refine ⟨⟨result, by rw [latestToolResult_noted isNoted, isResult], ?_⟩,
    event, completionEvent_noted isNoted completion.logged, ?_⟩
  · by_cases was : InEffectiveRange job.sessionId world.store result.seq
    · exact keeps _ (Int.le_of_lt resultFirst) was
    · obtain ⟨first, isFirst, before⟩ := isEarliest.least result.seq
        ⟨job, member, pending, result, isResult, rfl, was⟩
      refine covers _ ?_ (Int.le_of_lt resultFirst)
      rw [isFirst, Option.getD_some]
      exact before
  · rcases eventIn with within | was
    · exact covers _ within (Int.le_refl _)
    · exact keeps _ (Int.le_refl _) was

/-- A completion that was just appended is later than every result. -/
theorem earliest_le_of_appended {store : MemoryStore} {earliest : Option Int}
    (numbered : LogNumbered job.sessionId store)
    (isNew : event = newSessionEvent (executionCompletionEventId recordId job)
      (executionCompletedEntry job) store)
    (isEarliest : IsEarliestUncovered job.sessionId
      { world with store := { store with events := store.events ++ [event] } } earliest) :
    earliest.getD event.seq ≤ event.seq := by
  cases earliest with
  | none => exact Int.le_refl _
  | some seq =>
      subst isNew
      obtain ⟨other, -, pending, result, isResult, rfl, -⟩ := isEarliest.uncovered seq rfl
      rw [latestToolResult_appended] at isResult
      simp only [completionIsPending, Bool.and_eq_true, decide_eq_true_eq] at pending
      rw [pending.1.1] at isResult
      have inside := seq_le_of_numbered numbered (latestToolResult_mem isResult)
      change result.seq ≤ ((eventsOf job.sessionId store).length : Int) + 1
      omega

/-- The world after the first step of the tail: the completion is in the log, later than
the result.  It is later than all that the session waits for, or it was there before. -/
structure TailLogged (recordId : Uuid → String → List String → Uuid) (job : ExecutionJob)
    (event : SessionEvent) (before logged : ExecutionWorld) : Prop where
  tail : afterCompletionTail recordId job before =
    ((publishExecutionOutcomeEvent job event).run logged).2
  queue : logged.queue = before.queue
  sessions : logged.store.sessions = before.store.sessions
  completion : CompletionLogged recordId job event logged.store
  resultFirst : ∀ result,
    latestToolResult job (eventsOf job.sessionId logged.store) = some result →
    result.seq < event.seq
  last : logged = before ∨ ∀ earliest, IsEarliestUncovered job.sessionId logged earliest →
    earliest.getD event.seq ≤ event.seq

/-- The first step fails and leaves the world, or the completion is in the log. -/
theorem tail_cases (awaits : AwaitsPublication recordId job world) :
    afterCompletionTail recordId job world = world ∨
      ∃ event logged, TailLogged recordId job event world logged ∧
        ∃ session, world.store.sessions.find? job.sessionId = some session := by
  have isTail := afterCompletionTail_eq recordId world awaits.completed awaits.pending
  rcases appendCompletion_cases recordId job world.store with
    ⟨error, refused⟩ | ⟨event, store, appended, completion, found, how⟩
  · rw [refused] at isTail
    exact .inl isTail
  · rw [appended] at isTail
    refine .inr ⟨event, { world with store := store }, ?_, found⟩
    rcases how with rfl | ⟨absent, isNew, rfl⟩
    · exact ⟨isTail, rfl, rfl, completion,
        fun result => awaits.resultFirst event result completion.logged, .inl rfl⟩
    · refine ⟨isTail, rfl, rfl, completion, fun result isResult => ?_,
        .inr fun earliest => earliest_le_of_appended awaits.numbered isNew⟩
      subst isNew
      rw [latestToolResult_appended] at isResult
      have inside := seq_le_of_numbered awaits.numbered (latestToolResult_mem isResult)
      change result.seq < ((eventsOf job.sessionId world.store).length : Int) + 1
      omega

/-- From a session that takes up work, the tail publishes what was reached. -/
theorem reaches_of_logged {logged : ExecutionWorld} (awaits : AwaitsPublication recordId job world)
    (notOvertaken : ¬∃ event, CompletionOvertaken recordId job world event)
    (isLogged : TailLogged recordId job event world logged)
    (accepts : SessionAccepts job.sessionId logged.store) :
    PublicationReaches recordId job world := by
  have stored : logged.queue.jobs.find? job.id = some job := by
    rw [isLogged.queue]
    exact awaits.stored
  have isPending := completionIsPending_of_awaits awaits
  by_cases recorded : ResultsRecorded job.sessionId logged
  · obtain ⟨-, earliest, -, isEarliest⟩ | ⟨missing, -⟩ :=
      run_earliestUncoveredPendingToolResultSeq job.sessionId logged
    · obtain ⟨noted, isNoted, ⟨stays, -⟩ | ⟨marks, span⟩⟩ :=
        run_publishExecutionOutcomeEvent isLogged.completion stored awaits.completed accepts
          recorded isEarliest
      · have isAfter : afterCompletionTail recordId job world = noted := isLogged.tail.trans stays
        refine reaches_of_stays awaits ?_ ?_
        · rw [isAfter, isNoted.queue, isLogged.queue]
        · rw [isAfter]
          exact completionsLogged_again awaits.completed awaits.pending
            (isLogged.completion.noted isNoted)
      · have isAfter : afterCompletionTail recordId job world = marked job noted :=
          isLogged.tail.trans marks
        refine .inl ⟨?_, fun _ => ?_⟩
        · rw [isAfter]
          exact marked_find? (isNoted.queue ▸ stored) awaits.completed awaits.pending
        · rw [isAfter]
          have member := (Table.find?_eq_some.mp stored).1
          obtain ⟨result, isResult⟩ := recorded job member isPending
          change OutcomeReached recordId job noted.store
          refine outcomeReached_of_span isNoted isLogged.completion isEarliest member isPending
            isResult (isLogged.resultFirst result isResult) span ?_
          rcases isLogged.last with rfl | last
          · by_contra neither
            rw [not_or, Int.not_le] at neither
            obtain ⟨beyond, uncovered⟩ := neither
            cases earliest with
            | none => exact absurd beyond (Int.lt_irrefl _)
            | some first =>
                refine notOvertaken ⟨event, accepts, isLogged.completion.logged,
                  isLogged.completion.same, uncovered, recorded,
                  ⟨first, isEarliest.uncovered first rfl⟩, fun seq isUncovered => ?_⟩
                obtain ⟨least, isLeast, before⟩ := isEarliest.least seq isUncovered
                cases isLeast
                exact Int.lt_of_lt_of_le beyond before
          · exact .inl (last earliest isEarliest)
    · exact absurd recorded missing
  · have stays := run_publishExecutionOutcomeEvent_missing event accepts recorded
    have isAfter : afterCompletionTail recordId job world = logged := isLogged.tail.trans stays
    refine reaches_of_stays awaits (by rw [isAfter, isLogged.queue]) ?_
    rw [isAfter]
    exact completionsLogged_again awaits.completed awaits.pending isLogged.completion

/-- Unless the completion was overtaken, the tail publishes what was reached. -/
theorem reaches_of_not_overtaken (awaits : AwaitsPublication recordId job world)
    (notOvertaken : ¬∃ event, CompletionOvertaken recordId job world event) :
    PublicationReaches recordId job world := by
  rcases tail_cases awaits with isAfter | ⟨event, logged, isLogged, session, found⟩
  · exact reaches_of_stays awaits (by rw [isAfter]) (by rw [isAfter, isAfter])
  · have sessions : logged.store.sessions.find? job.sessionId = some session := by
      rw [isLogged.sessions]
      exact found
    cases accepting : session.status.acceptsWorkerExecution with
    | true => exact reaches_of_logged awaits notOvertaken isLogged ⟨session, sessions, accepting⟩
    | false =>
        refine .inl ⟨?_, fun ⟨other, isOther, accepts⟩ => ?_⟩
        · rw [isLogged.tail, run_publishExecutionOutcomeEvent_refused sessions accepting]
          exact marked_find? (isLogged.queue ▸ awaits.stored) awaits.completed awaits.pending
        · rw [found] at isOther
          cases isOther
          rw [accepting] at accepts
          cases accepts

/-- An overtaken completion is published all the same, in the charge of no job. -/
theorem not_reaches_of_overtaken (awaits : AwaitsPublication recordId job world)
    (overtaken : CompletionOvertaken recordId job world event) :
    ¬PublicationReaches recordId job world := by
  have completion : CompletionLogged recordId job event world.store :=
    ⟨overtaken.logged, overtaken.same⟩
  have isTail := afterCompletionTail_eq recordId world awaits.completed awaits.pending
  have appended : appendEventWithId (executionCompletionEventId recordId job) true
      (executionCompletedEntry job) world.store = (.ok event, world.store) := by
    obtain ⟨session, found, -⟩ := overtaken.accepts
    have present : ¬world.store.sessions.find? (executionCompletedEntry job).sessionId = none := by
      rw [show (executionCompletedEntry job).sessionId = job.sessionId from rfl, found]
      exact Option.some_ne_none session
    rw [appendEventWithId, if_neg present, if_pos rfl,
      show world.store.events.find? _ = some event from overtaken.logged]
    dsimp only
    rw [overtaken.same]
  rw [appended] at isTail
  obtain ⟨-, earliest, -, isEarliest⟩ | ⟨missing, -⟩ :=
    run_earliestUncoveredPendingToolResultSeq job.sessionId world
  · obtain ⟨seq, waits⟩ := overtaken.waits
    obtain ⟨first, rfl, -⟩ := isEarliest.least seq waits
    have beyond := overtaken.later first (isEarliest.uncovered first rfl)
    obtain ⟨noted, isNoted, ⟨-, within⟩ | ⟨marks, span⟩⟩ :=
      run_publishExecutionOutcomeEvent completion awaits.stored awaits.completed
        overtaken.accepts overtaken.recorded isEarliest
    · exact absurd within (Int.not_le.mpr beyond)
    · have isAfter : afterCompletionTail recordId job world = marked job noted :=
        isTail.trans marks
      have isMarked : (marked job noted).queue.jobs.find? job.id = some job.published :=
        marked_find? (isNoted.queue ▸ awaits.stored) awaits.completed awaits.pending
      rintro (⟨-, reached⟩ | ⟨stays, -⟩)
      · obtain ⟨-, found, isFound, covered⟩ := reached overtaken.accepts
        rw [isAfter] at isFound covered
        obtain rfl := Option.some.inj
          ((completionEvent_noted isNoted completion.logged).symm.trans isFound)
        rcases span with takes | ⟨loopJobs, -⟩
        · exact absurd takes.within (Int.not_le.mpr beyond)
        · exact overtaken.uncovered ((inEffectiveRange_congr loopJobs).mp covered)
      · rw [isAfter, isMarked] at stays
        have sameStage : stageDetails "completion_published" = job.finalizationDetails :=
          congrArg ExecutionJob.finalizationDetails (Option.some.inj stays)
        have pending := awaits.pending
        rw [← sameStage] at pending
        exact absurd pending (by decide)
  · exact absurd overtaken.recorded missing

end Publication

/-- An identifier for each kind of record of a job. -/
def numberedRecordId (id : Uuid) (kind : String) (_ : List String) : Uuid :=
  1000 * id + kind.length

/-- A completed job whose completion is to be published. -/
def pendingJob (id : Uuid) : ExecutionJob where
  id := id
  sessionId := 1
  environmentId := none
  approvalId := id + 100
  toolCallId := id + 200
  toolName := "file.write"
  status := .completed
  enqueuedAt := 0
  startedAt := some 0
  completedAt := some 0
  workerId := some "worker"
  leaseExpiresAt := none
  claimGeneration := 1
  finalizationDetails := stageDetails "completion_pending"
  attemptCount := 1
  maxAttempts := 3
  lastError := none

/-- The result of the tool of the job, as the event with that number. -/
def resultEvent (job : ExecutionJob) (seq : Int) : SessionEvent where
  id := numberedRecordId job.id "execution-attempt-event" []
  sessionId := 1
  seq := seq
  actorType := "tool"
  actorId := some job.toolCallId
  eventType := "tool.result"
  payload := (toolOutcomeEntry job job.toolCallId job.toolName "tool.result" .null true).payload

/-- A session with these events and jobs, and a loop that ran its first event. -/
def publicationWorld (events : List SessionEvent) (jobs : List ExecutionJob)
    (distinct : (jobs.map ExecutionJob.id).Nodup) : ExecutionWorld where
  store := {
    sessions := Table.empty.insert ⟨1, .running, 2, none, none⟩
    workflowRuns := Table.empty
    workflowStepRuns := Table.empty
    taskGrants := Table.empty
    events := events
    sessionLoopJobs := Table.empty.insert
      { newSessionLoopJob 0 3 1 none "user.message" ⟨none, some 1, some 1, none⟩ with
        status := .completed
        processedEventSeq := some 1 } }
  queue := ⟨⟨jobs, distinct⟩⟩
  clock := 10
  issuedUuid := 10000

/-- The completion of the first job was logged by a try that went no further; the second
job returned since. -/
def overtakenWorld : ExecutionWorld :=
  publicationWorld
    [resultEvent (pendingJob 4) 1,
      ⟨executionCompletionEventId numberedRecordId (pendingJob 4), 1, 2, "worker", some 4,
        "execution.completed", executionCompletedPayload (pendingJob 4)⟩,
      resultEvent (pendingJob 5) 3]
    [pendingJob 4, pendingJob 5] (by decide)

theorem logNumbered_of_positions {sessionId : Uuid} {store : MemoryStore}
    (positions : ∀ entry ∈ (eventsOf sessionId store).zipIdx, entry.1.seq = (entry.2 : Int) + 1) :
    LogNumbered sessionId store :=
  fun index event isEvent =>
    positions (event, index) (List.mk_mem_zipIdx_iff_getElem?.mpr isEvent)

theorem overtakenWorld_awaits :
    AwaitsPublication numberedRecordId (pendingJob 4) overtakenWorld where
  stored := by decide
  completed := rfl
  pending := by decide
  numbered := logNumbered_of_positions (by decide)
  resultFirst event result isEvent isResult := by
    have eventSeq : (completionEvent numberedRecordId (pendingJob 4) overtakenWorld.store).map
        SessionEvent.seq = some 2 := by decide +kernel
    have resultSeq : (latestToolResult (pendingJob 4) (eventsOf 1 overtakenWorld.store)).map
        SessionEvent.seq = some 1 := by decide +kernel
    rw [isEvent, Option.map_some, Option.some.injEq] at eventSeq
    rw [show eventsOf 1 overtakenWorld.store = eventsOf (pendingJob 4).sessionId
      overtakenWorld.store from rfl, isResult, Option.map_some, Option.some.injEq] at resultSeq
    omega

/-- A job that returned, with nothing published so far. -/
def freshCompletion : ExecutionWorld :=
  publicationWorld [resultEvent (pendingJob 4) 1] [pendingJob 4] (by decide)

end MandoForge
