/-
Module: MandoForge.SessionLoop.Runs
Purpose: Runs of the session loop: calls of any workers on the jobs, one after the
  other as the lock lets them through, with whatever other operations do to the
  other tables in between.  What a call can do to the jobs is said once.
Trusted boundary: what an enqueue, or a start, reads before it has the lock is an
  argument of the call, so it may be of any earlier time.  A job gets a new random
  identifier, so an enqueue under an identifier in use is no call that can occur.
Main exports: LoopOperation, LoopEvent
-/
import MandoForge.SessionLoop.Jobs
import MandoForge.Foundation.Runs

namespace MandoForge

open Foundation

/-- A call about the jobs of the session loop. -/
inductive LoopOperation where
  | enqueue (id sessionId : Uuid) (triggerEventId : Option Uuid) (reason : String)
      (window : LoopWindow)
  | start (id : Uuid) (workerId : String) (executions : ExecutionQueueState)
  | renew (id : Uuid) (workerId : String) (leaseSeconds : Int)
  | complete (id : Uuid) (workerId : String)
  | fails (id : Uuid) (workerId : String) (error : String)

namespace LoopOperation

/-- What the store does on a call. -/
def perform (now : Timestamp) : LoopOperation → MemoryStore →
    Except AppError SessionLoopJob × MemoryStore
  | enqueue id sessionId triggerEventId reason window, store =>
      let (job, store) := commitSessionLoopJob now id sessionId triggerEventId reason window store
      (.ok job, store)
  | start id workerId executions, store => startSessionLoopJob now id workerId executions store
  | renew id workerId leaseSeconds, store =>
      renewSessionLoopJobLease now id workerId leaseSeconds store
  | complete id workerId, store => completeSessionLoopJob now id workerId store
  | fails id workerId error, store => failSessionLoopJob now id workerId error store

/-- The call draws an identifier that a job already has. -/
def drawsUsedId (store : MemoryStore) : LoopOperation → Bool
  | enqueue id _ _ _ _ => (store.sessionLoopJobs.find? id).isSome
  | _ => false

end LoopOperation

/-- A call, or what other operations do to the other tables. -/
inductive LoopEvent where
  | call (now : Timestamp) (operation : LoopOperation)
  | others (changed : MemoryStore)

/-- One event. -/
def LoopEvent.step : LoopEvent → MemoryStore → MemoryStore
  | .call now operation, store =>
      if operation.drawsUsedId store then store else (operation.perform now store).2
  | .others changed, store => { changed with sessionLoopJobs := store.sessionLoopJobs }

def MemoryStore.empty : MemoryStore where
  sessions := Table.empty
  workflowRuns := Table.empty
  workflowStepRuns := Table.empty
  taskGrants := Table.empty

/-- The store after a list of events, from an empty one. -/
def runLoop (events : List LoopEvent) : MemoryStore :=
  runEvents LoopEvent.step events MemoryStore.empty

theorem runLoop_concat (events : List LoopEvent) (event : LoopEvent) :
    runLoop (events ++ [event]) = event.step (runLoop events) := by
  simp [runLoop]

/-! ### What a call does to the job it finds -/

/-- A call that is accepted on the job `before` leaves it as `after`. -/
inductive LoopTransition (now : Timestamp) (store : MemoryStore) :
    LoopOperation → SessionLoopJob → SessionLoopJob → Prop where
  | coalesced {job : SessionLoopJob} {id : Uuid} {triggerEventId : Option Uuid}
      {reason : String} {window : LoopWindow} (queued : job.status = .queued) :
      LoopTransition now store (.enqueue id job.sessionId triggerEventId reason window) job
        (coalescedJob triggerEventId reason window job)
  | started {job : SessionLoopJob} {workerId : String} {executions : ExecutionQueueState}
      (isClaimable : claimable now store job = true) :
      LoopTransition now store (.start job.id workerId executions) job
        (applyRunning now workerId job)
  | renewed {job : SessionLoopJob} {workerId : String} {leaseSeconds : Int}
      (running : job.status = .running) (owned : job.workerId = some workerId) :
      LoopTransition now store (.renew job.id workerId leaseSeconds) job
        { job with leaseExpiresAt := some (now + seconds leaseSeconds) }
  | completed {job : SessionLoopJob} {workerId : String}
      (running : job.status = .running) (owned : job.workerId = some workerId) :
      LoopTransition now store (.complete job.id workerId) job (applyCompleted now job)
  | failed {job : SessionLoopJob} {workerId error : String}
      (running : job.status = .running) (owned : job.workerId = some workerId) :
      LoopTransition now store (.fails job.id workerId error) job (applyFailed now error job)

theorem LoopTransition.id_eq {now : Timestamp} {store : MemoryStore}
    {operation : LoopOperation} {before after : SessionLoopJob}
    (transition : LoopTransition now store operation before after) : after.id = before.id := by
  cases transition <;> rfl

theorem LoopTransition.sessionId_eq {now : Timestamp} {store : MemoryStore}
    {operation : LoopOperation} {before after : SessionLoopJob}
    (transition : LoopTransition now store operation before after) :
    after.sessionId = before.sessionId := by
  cases transition <;> rfl

/-- One event leaves the jobs, adds one to a session that has none queued, or takes
one transition of one job. -/
inductive LoopStep (event : LoopEvent) (before : MemoryStore) : MemoryStore → Prop where
  | kept {after : MemoryStore} (same : after.sessionLoopJobs = before.sessionLoopJobs) :
      LoopStep event before after
  | added {after : MemoryStore} {now : Timestamp} {job : SessionLoopJob}
      {triggerEventId : Option Uuid} {reason : String} {window : LoopWindow}
      (enqueued : event = .call now (.enqueue job.id job.sessionId triggerEventId reason window))
      (isNew : job = newSessionLoopJob now job.id job.sessionId triggerEventId reason window)
      (fresh : before.sessionLoopJobs.find? job.id = none)
      (noneQueued : queuedJobOf job.sessionId before = none)
      (replaces : Table.Replaces job.id job before.sessionLoopJobs after.sessionLoopJobs) :
      LoopStep event before after
  | moved {after : MemoryStore} {now : Timestamp} {operation : LoopOperation}
      {old job : SessionLoopJob} (called : event = .call now operation)
      (found : old ∈ before.sessionLoopJobs)
      (transition : LoopTransition now before operation old job)
      (accepted : (operation.perform now before).1 = .ok job)
      (replaces : Table.Replaces old.id job before.sessionLoopJobs after.sessionLoopJobs) :
      LoopStep event before after

theorem queuedJobOf_some {sessionId : Uuid} {store : MemoryStore} {job : SessionLoopJob}
    (found : queuedJobOf sessionId store = some job) :
    job ∈ store.sessionLoopJobs ∧ job.sessionId = sessionId ∧ job.status = .queued := by
  refine ⟨List.mem_of_find?_eq_some found, ?_⟩
  simpa using List.find?_some found

theorem queuedJobOf_none {sessionId : Uuid} {store : MemoryStore} :
    queuedJobOf sessionId store = none ↔
      ∀ job ∈ store.sessionLoopJobs, job.sessionId = sessionId → job.status ≠ .queued := by
  simp [queuedJobOf, Table.mem_iff]

theorem changeRunningJob_cases (id : Uuid) (workerId : String)
    {change : SessionLoopJob → SessionLoopJob} (keeps : ∀ job, (change job).id = job.id)
    (store : MemoryStore) :
    (changeRunningJob id workerId change store keeps = (.error sessionLoopJobNotFound, store)) ∨
      ∃ job ∈ store.sessionLoopJobs, job.id = id ∧ job.status = .running ∧
        job.workerId = some workerId ∧
        (changeRunningJob id workerId change store keeps).1 = .ok (change job) ∧
        Table.Replaces job.id (change job) store.sessionLoopJobs
          (changeRunningJob id workerId change store keeps).2.sessionLoopJobs := by
  unfold changeRunningJob
  cases found : store.sessionLoopJobs.find? id with
  | none => exact .inl rfl
  | some job =>
      obtain ⟨member, rfl⟩ := Table.find?_eq_some.mp found
      by_cases owned : job.status = .running ∧ job.workerId = some workerId
      · simp only [owned, and_self, if_true]
        exact .inr ⟨job, member, rfl, owned.1, owned.2, rfl,
          Table.replaces_modify keeps found⟩
      · left
        simp only [owned, if_false]

theorem startSessionLoopJob_cases (now : Timestamp) (id : Uuid) (workerId : String)
    (executions : ExecutionQueueState) (store : MemoryStore) :
    (∃ error, startSessionLoopJob now id workerId executions store = (.error error, store)) ∨
      ∃ job ∈ store.sessionLoopJobs, job.id = id ∧ claimable now store job = true ∧
        (startSessionLoopJob now id workerId executions store).1 =
          .ok (applyRunning now workerId job) ∧
        Table.Replaces job.id (applyRunning now workerId job) store.sessionLoopJobs
          (startSessionLoopJob now id workerId executions store).2.sessionLoopJobs := by
  unfold startSessionLoopJob
  cases found : store.sessionLoopJobs.find? id with
  | none => exact .inl ⟨_, rfl⟩
  | some job =>
      obtain ⟨member, rfl⟩ := Table.find?_eq_some.mp found
      simp only
      split
      · exact .inl ⟨_, rfl⟩
      · split
        · exact .inl ⟨_, rfl⟩
        · split
          · next isClaimable =>
              have keeps : ∀ job, (applyRunning now workerId job).id = job.id := fun _ => rfl
              exact .inr ⟨job, member, rfl, isClaimable, rfl, Table.replaces_modify keeps found⟩
          · exact .inl ⟨_, rfl⟩

/-! ### What an event does to the jobs -/

theorem loopStep_of_changeRunningJob {now : Timestamp} {operation : LoopOperation}
    {id : Uuid} {workerId : String} {change : SessionLoopJob → SessionLoopJob}
    {keeps : ∀ job, (change job).id = job.id} {store : MemoryStore}
    (performs : operation.perform now store = changeRunningJob id workerId change store keeps)
    (transition : ∀ job ∈ store.sessionLoopJobs, job.id = id → job.status = .running →
      job.workerId = some workerId → LoopTransition now store operation job (change job)) :
    LoopStep (.call now operation) store (operation.perform now store).2 := by
  rcases changeRunningJob_cases id workerId keeps store with
    refused | ⟨job, member, isJob, running, owned, accepted, replaces⟩
  · rw [performs, refused]
    exact .kept rfl
  · rw [← performs] at accepted replaces
    exact .moved rfl member (transition job member isJob running owned) accepted replaces

theorem commitSessionLoopJob_cases (now : Timestamp) {id : Uuid} (sessionId : Uuid)
    (triggerEventId : Option Uuid) (reason : String) (window : LoopWindow) {store : MemoryStore}
    (fresh : store.sessionLoopJobs.find? id = none) :
    (∃ existing ∈ store.sessionLoopJobs, existing.sessionId = sessionId ∧
        existing.status = .queued ∧
        (commitSessionLoopJob now id sessionId triggerEventId reason window store).1 =
          coalescedJob triggerEventId reason window existing ∧
        Table.Replaces existing.id (coalescedJob triggerEventId reason window existing)
          store.sessionLoopJobs
          (commitSessionLoopJob now id sessionId triggerEventId reason window
            store).2.sessionLoopJobs) ∨
      (queuedJobOf sessionId store = none ∧
        Table.Replaces id (newSessionLoopJob now id sessionId triggerEventId reason window)
          store.sessionLoopJobs
          (commitSessionLoopJob now id sessionId triggerEventId reason window
            store).2.sessionLoopJobs) := by
  unfold commitSessionLoopJob
  cases found : queuedJobOf sessionId store with
  | some existing =>
      obtain ⟨member, ofSession, queued⟩ := queuedJobOf_some found
      have keeps : ∀ job, (coalescedJob triggerEventId reason window job).id = job.id :=
        fun _ => rfl
      exact .inl ⟨existing, member, ofSession, queued, rfl,
        Table.replaces_modify keeps (Table.find?_key member)⟩
  | none => exact .inr ⟨rfl, Table.replaces_insert⟩

theorem commit_step {now : Timestamp} {id sessionId : Uuid} {triggerEventId : Option Uuid}
    {reason : String} {window : LoopWindow} {store : MemoryStore}
    (fresh : store.sessionLoopJobs.find? id = none) :
    LoopStep (.call now (.enqueue id sessionId triggerEventId reason window)) store
      (commitSessionLoopJob now id sessionId triggerEventId reason window store).2 := by
  rcases commitSessionLoopJob_cases now sessionId triggerEventId reason window fresh with
    ⟨existing, member, rfl, queued, accepted, replaces⟩ | ⟨noneQueued, replaces⟩
  · exact .moved rfl member (.coalesced queued) (congrArg Except.ok accepted) replaces
  · generalize isNew : newSessionLoopJob now id sessionId triggerEventId reason window = job
      at replaces
    obtain ⟨rfl, rfl⟩ : id = job.id ∧ sessionId = job.sessionId := by
      rw [← isNew]
      exact ⟨rfl, rfl⟩
    exact .added rfl isNew.symm fresh noneQueued replaces

theorem start_step {now : Timestamp} {id : Uuid} {workerId : String}
    {executions : ExecutionQueueState} {store : MemoryStore} :
    LoopStep (.call now (.start id workerId executions)) store
      (startSessionLoopJob now id workerId executions store).2 := by
  rcases startSessionLoopJob_cases now id workerId executions store with
    ⟨error, refused⟩ | ⟨job, member, rfl, isClaimable, accepted, replaces⟩
  · rw [refused]
    exact .kept rfl
  · exact .moved rfl member (.started isClaimable) accepted replaces

theorem loopStep_cases (event : LoopEvent) (store : MemoryStore) :
    LoopStep event store (event.step store) := by
  cases event with
  | others changed => exact .kept rfl
  | call now operation =>
      by_cases drawsUsed : operation.drawsUsedId store = true
      · rw [LoopEvent.step, if_pos drawsUsed]
        exact .kept rfl
      · rw [LoopEvent.step, if_neg drawsUsed]
        cases operation with
        | enqueue id sessionId triggerEventId reason window =>
            exact commit_step (by simpa [LoopOperation.drawsUsedId] using drawsUsed)
        | start id workerId executions => exact start_step
        | renew id workerId leaseSeconds =>
            by_cases inRange : 1 ≤ leaseSeconds ∧ leaseSeconds ≤ 86400
            · refine loopStep_of_changeRunningJob (if_pos inRange) ?_
              rintro job - rfl running owned
              exact .renewed running owned
            · rw [LoopOperation.perform, renewSessionLoopJobLease, if_neg inRange]
              exact .kept rfl
        | complete id workerId =>
            refine loopStep_of_changeRunningJob rfl ?_
            rintro job - rfl running owned
            exact .completed running owned
        | fails id workerId error =>
            refine loopStep_of_changeRunningJob rfl ?_
            rintro job - rfl running owned
            exact .failed running owned

theorem runLoop_induction {held : MemoryStore → Prop} (atStart : held MemoryStore.empty)
    (keeps : ∀ event before after, LoopStep event before after → held before → held after)
    (events : List LoopEvent) : held (runLoop events) :=
  heldAlong_of_step (fun event store _ => keeps event store _ (loopStep_cases event store))
    atStart metAlong_trivial events List.prefix_rfl

end MandoForge
