/-
Module: MandoForge.SessionLoop.Exclusivity
Purpose: A session has one queued and one running job at most.  A running job is
  taken over when the claim on it is over, and from then on who ran it before has
  no say in it.  What is completed or failed stays as it is.
Trusted boundary: none
Main exports: OnePerStatus, session_loop_is_exclusive
-/
import MandoForge.SessionLoop.Runs

namespace MandoForge

open Foundation

/-! ### One queued and one running job -/

/-- No two jobs of one session have the status. -/
def OnePerStatus (status : SessionLoopJobStatus) (store : MemoryStore) : Prop :=
  ∀ first ∈ store.sessionLoopJobs, ∀ second ∈ store.sessionLoopJobs,
    first.sessionId = second.sessionId → first.status = status → second.status = status →
    first = second

theorem onePerStatus_of_replaces {status : SessionLoopJobStatus} {id : Uuid}
    {job : SessionLoopJob} {before after : MemoryStore} (one : OnePerStatus status before)
    (replaces : Table.Replaces id job before.sessionLoopJobs after.sessionLoopJobs)
    (alone : job.status = status → ∀ other ∈ before.sessionLoopJobs, other.id ≠ id →
      other.sessionId = job.sessionId → other.status ≠ status) :
    OnePerStatus status after := by
  intro first firstMember second secondMember sameSession firstHas secondHas
  rcases replaces.mem firstMember with rfl | ⟨firstOther, firstOld⟩
  · rcases replaces.mem secondMember with rfl | ⟨secondOther, secondOld⟩
    · rfl
    · exact absurd secondHas (alone firstHas second secondOld secondOther sameSession.symm)
  · rcases replaces.mem secondMember with rfl | ⟨-, secondOld⟩
    · exact absurd firstHas (alone secondHas first firstOld firstOther sameSession)
    · exact one first firstOld second secondOld sameSession firstHas secondHas

theorem OnePerStatus.others_lack {status : SessionLoopJobStatus} {old job : SessionLoopJob}
    {store : MemoryStore} (one : OnePerStatus status store) (found : old ∈ store.sessionLoopJobs)
    (sameSession : job.sessionId = old.sessionId) (had : old.status = status) :
    ∀ other ∈ store.sessionLoopJobs, other.id ≠ old.id → other.sessionId = job.sessionId →
      other.status ≠ status := by
  intro other member isOther otherSession otherHas
  have same := one other member old found (otherSession.trans sameSession) otherHas had
  exact isOther (congrArg SessionLoopJob.id same)

theorem hasOtherRunningJob_false {store : MemoryStore} {job : SessionLoopJob}
    (alone : hasOtherRunningJob store job = false) :
    ∀ other ∈ store.sessionLoopJobs, other.id ≠ job.id → other.sessionId = job.sessionId →
      other.status ≠ .running := by
  intro other member isOther sameSession running
  have absent := List.any_eq_false.mp alone other member
  simp [isOther, sameSession, running] at absent

theorem claimable_cases {now : Timestamp} {store : MemoryStore} {job : SessionLoopJob}
    (isClaimable : claimable now store job = true) :
    (job.status = .queued ∧ hasOtherRunningJob store job = false) ∨
      (job.status = .running ∧ job.leaseExpired now = true) := by
  unfold claimable at isClaimable
  split at isClaimable <;> simp_all

theorem LoopTransition.queued {now : Timestamp} {store : MemoryStore}
    {operation : LoopOperation} {old job : SessionLoopJob}
    (transition : LoopTransition now store operation old job) (queued : job.status = .queued) :
    old.status = .queued := by
  cases transition with
  | coalesced wasQueued => exact wasQueued
  | started | completed | failed => cases queued
  | renewed running => cases running.symm.trans queued

theorem LoopTransition.running {now : Timestamp} {store : MemoryStore}
    {operation : LoopOperation} {old job : SessionLoopJob}
    (transition : LoopTransition now store operation old job) (running : job.status = .running) :
    old.status = .running ∨ hasOtherRunningJob store old = false := by
  cases transition with
  | coalesced wasQueued => cases wasQueued.symm.trans running
  | started isClaimable =>
      rcases claimable_cases isClaimable with ⟨-, alone⟩ | ⟨wasRunning, -⟩
      · exact .inr alone
      · exact .inl wasRunning
  | renewed wasRunning => exact .inl wasRunning
  | completed | failed => cases running

theorem LoopStep.oneQueued {event : LoopEvent} {before after : MemoryStore}
    (stepped : LoopStep event before after) (one : OnePerStatus .queued before) :
    OnePerStatus .queued after := by
  cases stepped with
  | kept same =>
      unfold OnePerStatus
      rw [same]
      exact one
  | added enqueued isNew fresh noneQueued replaces =>
      refine onePerStatus_of_replaces one replaces fun _ other member _ sameSession => ?_
      exact queuedJobOf_none.mp noneQueued other member sameSession
  | moved called found transition accepted replaces =>
      refine onePerStatus_of_replaces one replaces fun queued => ?_
      exact one.others_lack found transition.sessionId_eq (transition.queued queued)

theorem LoopStep.oneRunning {event : LoopEvent} {before after : MemoryStore}
    (stepped : LoopStep event before after) (one : OnePerStatus .running before) :
    OnePerStatus .running after := by
  cases stepped with
  | kept same =>
      unfold OnePerStatus
      rw [same]
      exact one
  | added enqueued isNew fresh noneQueued replaces =>
      refine onePerStatus_of_replaces one replaces fun running => ?_
      rw [isNew] at running
      cases running
  | moved called found transition accepted replaces =>
      refine onePerStatus_of_replaces one replaces fun running => ?_
      rcases transition.running running with wasRunning | alone
      · exact one.others_lack found transition.sessionId_eq wasRunning
      · rw [transition.sessionId_eq]
        exact hasOtherRunningJob_false alone

theorem onePerStatus_empty {status : SessionLoopJobStatus} :
    OnePerStatus status MemoryStore.empty :=
  fun _ member => absurd member List.not_mem_nil

/-! ### Who runs a job -/

/-- The worker runs no job under the identifier. -/
def DisownedBy (workerId : String) (id : Uuid) (store : MemoryStore) : Prop :=
  ∀ job ∈ store.sessionLoopJobs, job.id = id → job.workerId ≠ some workerId

/-- The event is a start of the job by the worker that is accepted. -/
def LoopEvent.StartsFor (workerId : String) (id : Uuid) (store : MemoryStore)
    (event : LoopEvent) : Prop :=
  ∃ now executions job, event = .call now (.start id workerId executions) ∧
    (startSessionLoopJob now id workerId executions store).1 = .ok job

/-- What a worker does with a job that it runs. -/
inductive LoopOperation.ReportsOn (workerId : String) (id : Uuid) : LoopOperation → Prop where
  | renew (leaseSeconds : Int) : ReportsOn workerId id (.renew id workerId leaseSeconds)
  | complete : ReportsOn workerId id (.complete id workerId)
  | fails (error : String) : ReportsOn workerId id (.fails id workerId error)

theorem LoopTransition.reassigned {now : Timestamp} {store : MemoryStore}
    {operation : LoopOperation} {old job : SessionLoopJob}
    (transition : LoopTransition now store operation old job)
    (changed : job.workerId ≠ old.workerId ∨ job.attemptCount ≠ old.attemptCount) :
    ∃ workerId executions, operation = .start old.id workerId executions ∧
      job.workerId = some workerId ∧ claimable now store old = true := by
  cases transition with
  | coalesced | renewed | completed | failed => exact absurd changed (by simp [coalescedJob,
      applyCompleted, applyFailed])
  | started isClaimable => exact ⟨_, _, rfl, rfl, isClaimable⟩

/-- The worker of a job changes by a start only. -/
theorem LoopStep.disowned {event : LoopEvent} {before after : MemoryStore} {workerId : String}
    {id : Uuid} (stepped : LoopStep event before after) (disowned : DisownedBy workerId id before)
    (starts : ¬event.StartsFor workerId id before) : DisownedBy workerId id after := by
  cases stepped with
  | kept same =>
      unfold DisownedBy
      rw [same]
      exact disowned
  | added enqueued isNew fresh noneQueued replaces =>
      rintro job member rfl owned
      rcases replaces.mem member with rfl | ⟨-, old⟩
      · rw [isNew] at owned
        cases owned
      · exact disowned job old rfl owned
  | moved called found transition accepted replaces =>
      rintro job member rfl owned
      rcases replaces.mem member with rfl | ⟨-, old⟩
      · have wasOther := disowned _ found transition.id_eq.symm
        obtain ⟨starter, executions, rfl, owner, -⟩ := transition.reassigned
          (.inl fun same => wasOther (same.symm.trans owned))
        obtain rfl := Option.some.inj (owner.symm.trans owned)
        rw [← transition.id_eq] at called accepted
        exact starts ⟨_, _, _, called, accepted⟩
      · exact disowned job old rfl owned

/-- Who runs no job under the identifier can report on none. -/
theorem report_refused {workerId : String} {id : Uuid} {store : MemoryStore}
    {operation : LoopOperation} (disowned : DisownedBy workerId id store) (now : Timestamp)
    (reports : operation.ReportsOn workerId id) :
    ∃ error, operation.perform now store = (.error error, store) := by
  have refused : ∀ change keeps, changeRunningJob id workerId change store keeps =
      (.error sessionLoopJobNotFound, store) := by
    intro change keeps
    rcases changeRunningJob_cases id workerId keeps store with
      refused | ⟨job, member, isJob, -, owned, -⟩
    · exact refused
    · exact absurd owned (disowned job member isJob)
  cases reports with
  | renew leaseSeconds =>
      by_cases inRange : 1 ≤ leaseSeconds ∧ leaseSeconds ≤ 86400
      · exact ⟨_, (if_pos inRange).trans (refused _ _)⟩
      · exact ⟨_, if_neg inRange⟩
  | complete => exact ⟨_, refused _ _⟩
  | fails error => exact ⟨_, refused _ _⟩

/-! ### Jobs that have ended -/

theorem LoopTransition.live {now : Timestamp} {store : MemoryStore}
    {operation : LoopOperation} {old job : SessionLoopJob}
    (transition : LoopTransition now store operation old job) : old.isLive = true := by
  unfold SessionLoopJob.isLive
  cases transition with
  | coalesced queued => rw [queued]
  | started isClaimable =>
      rcases claimable_cases isClaimable with ⟨queued, -⟩ | ⟨running, -⟩
      · rw [queued]
      · rw [running]
  | renewed running | completed running | failed running => rw [running]

theorem LoopStep.ended {event : LoopEvent} {before after : MemoryStore} {job : SessionLoopJob}
    (stepped : LoopStep event before after) (ended : job.isLive = false)
    (member : job ∈ before.sessionLoopJobs) : job ∈ after.sessionLoopJobs := by
  cases stepped with
  | kept same =>
      rw [same]
      exact member
  | added enqueued isNew fresh noneQueued replaces =>
      exact replaces.mem_old member (Table.find?_eq_none.mp fresh job member)
  | moved called found transition accepted replaces =>
      refine replaces.mem_old member fun same => ?_
      obtain rfl := Table.eq_of_key_eq member found same
      cases ended.symm.trans transition.live

/-! ### Runs -/

/-- What holds of the session loop after the events. -/
structure LoopExclusive (events : List LoopEvent) : Prop where
  oneQueued : OnePerStatus .queued (runLoop events)
  oneRunning : OnePerStatus .running (runLoop events)
  /-- A running job got another worker, or was started once more, by a start at a
  time at which the claim on it was over. -/
  takenOver : ∀ front event rest, events = front ++ event :: rest →
    ∀ before ∈ (runLoop front).sessionLoopJobs,
    ∀ after ∈ (runLoop (front ++ [event])).sessionLoopJobs,
    after.id = before.id → before.status = .running →
    after.workerId ≠ before.workerId ∨ after.attemptCount ≠ before.attemptCount →
    ∃ now workerId executions, event = .call now (.start before.id workerId executions) ∧
      after.workerId = some workerId ∧ before.leaseExpired now = true
  /-- Once an event took the job from the worker, and until it starts the job
  again, what it reports on the job is refused and changes nothing. -/
  stale : ∀ front event rest, events = front ++ event :: rest →
    ∀ before ∈ (runLoop front).sessionLoopJobs,
    ∀ after ∈ (runLoop (front ++ [event])).sessionLoopJobs,
    ∀ workerId, after.id = before.id → before.status = .running →
    before.workerId = some workerId → after.workerId ≠ some workerId →
    MetAlong LoopEvent.step (fun later store => ¬later.StartsFor workerId before.id store)
      rest (runLoop (front ++ [event])) →
    ∀ now operation, LoopOperation.ReportsOn workerId before.id operation →
      ∃ error, operation.perform now (runLoop events) = (.error error, runLoop events)
  final : ∀ front rest, events = front ++ rest →
    ∀ job ∈ (runLoop front).sessionLoopJobs,
    job.status = .completed ∨ job.status = .failed → job ∈ (runLoop events).sessionLoopJobs

theorem LoopStep.takenOver {event : LoopEvent} {before after : MemoryStore}
    {old job : SessionLoopJob} (stepped : LoopStep event before after)
    (oldMember : old ∈ before.sessionLoopJobs) (member : job ∈ after.sessionLoopJobs)
    (sameId : job.id = old.id) (running : old.status = .running)
    (changed : job.workerId ≠ old.workerId ∨ job.attemptCount ≠ old.attemptCount) :
    ∃ now workerId executions, event = .call now (.start old.id workerId executions) ∧
      job.workerId = some workerId ∧ old.leaseExpired now = true := by
  have unchanged : job ∉ before.sessionLoopJobs := fun unchanged => by
    obtain rfl := Table.eq_of_key_eq unchanged oldMember sameId
    simp at changed
  cases stepped with
  | kept same => exact absurd (same ▸ member) unchanged
  | added enqueued isNew fresh noneQueued replaces =>
      rcases replaces.mem member with rfl | ⟨-, unmoved⟩
      · exact absurd sameId.symm (Table.find?_eq_none.mp fresh old oldMember)
      · exact absurd unmoved unchanged
  | moved called found transition accepted replaces =>
      rcases replaces.mem member with rfl | ⟨-, unmoved⟩
      · obtain rfl := Table.eq_of_key_eq oldMember found (sameId.symm.trans transition.id_eq)
        obtain ⟨workerId, executions, rfl, owner, isClaimable⟩ := transition.reassigned changed
        rcases claimable_cases isClaimable with ⟨queued, -⟩ | ⟨-, expired⟩
        · cases queued.symm.trans running
        · exact ⟨_, workerId, executions, called, owner, expired⟩
      · exact absurd unmoved unchanged

theorem runLoop_append (front rest : List LoopEvent) :
    runLoop (front ++ rest) = runEvents LoopEvent.step rest (runLoop front) := by
  simp [runLoop]

theorem disowned_along {rest : List LoopEvent} {store : MemoryStore} {workerId : String}
    {id : Uuid} (disowned : DisownedBy workerId id store)
    (noStart : MetAlong LoopEvent.step (fun later store => ¬later.StartsFor workerId id store)
      rest store) : DisownedBy workerId id (runEvents LoopEvent.step rest store) :=
  heldAlong_of_step (fun event store starts held => (loopStep_cases event store).disowned
    held starts) disowned noStart rest List.prefix_rfl

/-- `enqueue_session_loop_job_from`, `update_session_loop_job_status`,
`renew_session_loop_job_lease`. -/
theorem session_loop_is_exclusive (events : List LoopEvent) : LoopExclusive events where
  oneQueued := runLoop_induction onePerStatus_empty
    (fun _ _ _ stepped one => stepped.oneQueued one) events
  oneRunning := runLoop_induction onePerStatus_empty
    (fun _ _ _ stepped one => stepped.oneRunning one) events
  takenOver := by
    rintro front event rest - before beforeMember after afterMember sameId running changed
    rw [runLoop_concat] at afterMember
    exact (loopStep_cases event _).takenOver beforeMember afterMember sameId running changed
  stale := by
    rintro front event rest rfl before beforeMember after afterMember workerId sameId running
      owned lost noStart now operation reports
    have disowned : DisownedBy workerId before.id (runLoop (front ++ [event])) := by
      intro job member isJob
      obtain rfl := Table.eq_of_key_eq member afterMember (isJob.trans sameId.symm)
      exact lost
    have split : front ++ event :: rest = (front ++ [event]) ++ rest := by simp
    rw [split, runLoop_append (front ++ [event])]
    exact report_refused (disowned_along disowned noStart) now reports
  final := by
    rintro front rest rfl job member ended
    have notLive : job.isLive = false := by
      unfold SessionLoopJob.isLive
      rcases ended with completed | failed
      · rw [completed]
      · rw [failed]
    rw [runLoop_append]
    exact heldAlong_of_step (fun event store _ => (loopStep_cases event store).ended notLive)
      member metAlong_trivial rest List.prefix_rfl

end MandoForge
