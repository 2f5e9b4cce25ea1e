/-
Module: MandoForge.Store.SessionTransitions
Purpose: Whether a call that moves a session writes everything or nothing: the completion
  of a task does, and so does a change of status unless its thread is missing when the
  session is already written.
Trusted boundary: as in `Execution` and `ToolCalls`; the times of the last update of
  sessions and threads are kept beside the store.
Main exports: StampedStore, session_transition_atomic_iff
-/
import MandoForge.Store.LogRuns

namespace MandoForge

open Foundation

/-! ### Events numbered in one go -/

/-- The event that a request becomes under a number. -/
def RequestedEvent.numbered (requested : RequestedEvent) (seq : Int) : SessionEvent where
  id := requested.id
  sessionId := requested.entry.sessionId
  seq := seq
  actorType := requested.entry.actorType
  actorId := requested.entry.actorId
  eventType := requested.entry.eventType
  payload := requested.entry.payload

/-- The requests numbered from the end of the log of their session. -/
def numberedEvents (sessionId : Uuid) (requests : List RequestedEvent) (store : MemoryStore) :
    List SessionEvent :=
  let nextSeq : Int := (eventsOf sessionId store).length + 1
  requests.mapIdx fun offset requested => requested.numbered (nextSeq + offset)

/-! ### Sessions and threads with the times of their updates -/

/-- The store with the `updated_at` of its sessions and threads. -/
structure StampedStore where
  store : MemoryStore
  sessionUpdatedAt : Uuid → Timestamp
  threadUpdatedAt : Uuid → Timestamp

namespace StampedStore

/-- Write the status and the time of a session. -/
def setSessionStatus (now : Timestamp) (sessionId : Uuid) (status : SessionStatus)
    (state : StampedStore) : StampedStore where
  store := { state.store with
    sessions := state.store.sessions.modify sessionId (Session.withStatus status)
      (Session.withStatus_id status) }
  sessionUpdatedAt := Function.update state.sessionUpdatedAt sessionId now
  threadUpdatedAt := state.threadUpdatedAt

/-- Write the status and the time of a thread whose status changes. -/
def setThreadStatus (now : Timestamp) (threadId : Uuid) (thread : SessionThread)
    (threadStatus : String) (state : StampedStore) : Option SessionThread × StampedStore :=
  if thread.status = threadStatus then (none, state)
  else
    (some (thread.withStatus threadStatus), {
      store := { state.store with
        sessionThreads := state.store.sessionThreads.modify threadId
          (SessionThread.withStatus threadStatus) (SessionThread.withStatus_id threadStatus) }
      sessionUpdatedAt := state.sessionUpdatedAt
      threadUpdatedAt := Function.update state.threadUpdatedAt threadId now })

/-- The thread, if it is one of the session. -/
def threadOf (sessionId threadId : Uuid) (state : StampedStore) : Option SessionThread :=
  (state.store.sessionThreads.find? threadId).filter fun thread =>
    decide (thread.sessionId = sessionId)

end StampedStore

/-- The memory branch of `set_session_and_primary_thread_status`. -/
def setSessionAndPrimaryThreadStatusAt (now : Timestamp) (sessionId threadId : Uuid)
    (status : SessionStatus) (threadStatus : String) (state : StampedStore) :
    Except AppError (Session × Option SessionThread) × StampedStore :=
  match state.store.sessions.find? sessionId with
  | none => (.error (.notFound "session not found"), state)
  | some session =>
      if session.status.isTerminal ∧ !status.isTerminal then
        (.error (.badRequest "session is terminal and cannot run session loop work"), state)
      else
        -- the session is written before its thread is looked up
        let state := state.setSessionStatus now sessionId status
        match state.threadOf sessionId threadId with
        | none => (.error (.notFound "session thread not found"), state)
        | some thread =>
            let (updatedThread, state) := state.setThreadStatus now threadId thread threadStatus
            (.ok (session.withStatus status, updatedThread), state)

/-- The Postgres branch of `set_session_and_primary_thread_status`: the updates reach the
tables when the transaction commits. -/
def setSessionAndPrimaryThreadStatusPostgres (now : Timestamp) (sessionId threadId : Uuid)
    (status : SessionStatus) (threadStatus : String) (state : StampedStore) :
    Except AppError (Session × Option SessionThread) × StampedStore :=
  match state.store.sessions.find? sessionId with
  | none => (.error (.notFound "session not found"), state)
  | some session =>
      if session.status.isTerminal ∧ !status.isTerminal then
        (.error (.badRequest "session is terminal and cannot run session loop work"), state)
      else
        let updated := state.setSessionStatus now sessionId status
        let (threadRow, updated) :=
          match updated.threadOf sessionId threadId with
          | none => (none, updated)
          | some thread => updated.setThreadStatus now threadId thread threadStatus
        if (updated.threadOf sessionId threadId).isNone then
          (.error (.notFound "session thread not found"), state)
        else (.ok (session.withStatus status, threadRow), updated)

/-- `commit_provider_completion`. -/
def commitProviderCompletionAt (now : Timestamp) (ids : CompletionIds)
    (completion : ProviderCompletion) (state : StampedStore) :
    Except AppError (ToolCall × Session × List SessionEvent) × StampedStore :=
  match providerCompletionChecks completion state.store with
  | .error error => (.error error, state)
  | .ok (callEventId, goalType, session, thread) =>
      let sessionId := completion.toolCall.sessionId
      let state := state.setSessionStatus now sessionId completion.sessionStatus
      let session := session.withStatus completion.sessionStatus
      let (updatedThread, state) :=
        state.setThreadStatus now completion.threadId thread completion.threadStatus
      let events := numberedEvents sessionId
        (providerCompletionEvents ids completion callEventId session updatedThread goalType)
        state.store
      let audit := providerCompletionAudit ids completion session goalType
      (.ok (completion.toolCall, session, events), { state with
        store := insertRecords completion.toolCall [audit]
          { state.store with events := state.store.events ++ events } })

/-! ### What a call writes -/

/-- Both statuses are written, and nothing else of sessions and threads. -/
structure StatusesWritten (now : Timestamp) (sessionId threadId : Uuid) (status : SessionStatus)
    (threadStatus : String) (before after : StampedStore) : Prop where
  session : ∃ session, before.store.sessions.find? sessionId = some session ∧
    after.store.sessions.find? sessionId = some (session.withStatus status)
  thread : ∃ thread, before.threadOf sessionId threadId = some thread ∧
    after.store.sessionThreads.find? threadId = some (thread.withStatus threadStatus)
  otherSessions : ∀ other, other ≠ sessionId →
    after.store.sessions.find? other = before.store.sessions.find? other
  otherThreads : ∀ other, other ≠ threadId →
    after.store.sessionThreads.find? other = before.store.sessionThreads.find? other
  sessionUpdated : after.sessionUpdatedAt = Function.update before.sessionUpdatedAt sessionId now

/-- Nothing but sessions and threads differs. -/
def SessionsOnly (before after : MemoryStore) : Prop :=
  ∃ sessions sessionThreads, after = { before with sessions, sessionThreads }

/-- The tool call, the events and the audit log of a completion are written. -/
structure RecordsWritten (ids : CompletionIds) (completion : ProviderCompletion)
    (before after : StampedStore) : Prop where
  toolCall : after.store.toolCalls = before.store.toolCalls.insert completion.toolCall
  log : ∃ callEventId goalType session thread,
    completion.toolCall.eventId = some callEventId ∧
      goalEventType completion.completionStatus = some goalType ∧
      before.store.sessions.find? completion.toolCall.sessionId = some session ∧
      before.threadOf completion.toolCall.sessionId completion.threadId = some thread ∧
      after.store.events = before.store.events ++
        numberedEvents completion.toolCall.sessionId
          (providerCompletionEvents ids completion callEventId
            (session.withStatus completion.sessionStatus)
            (if thread.status = completion.threadStatus then none
              else some (thread.withStatus completion.threadStatus)) goalType) before.store ∧
      after.store.auditLogs = before.store.auditLogs.insert
        (providerCompletionAudit ids completion
          (session.withStatus completion.sessionStatus) goalType)

/-- The calls that move a session. -/
inductive SessionTransition where
  | setStatus (sessionId threadId : Uuid) (status : SessionStatus) (threadStatus : String)
  | complete (ids : CompletionIds) (completion : ProviderCompletion)

namespace SessionTransition

/-- The error of the call, if any, and the store after it. -/
def run (now : Timestamp) (transition : SessionTransition) (state : StampedStore) :
    Except AppError Unit × StampedStore :=
  match transition with
  | setStatus sessionId threadId status threadStatus =>
      (setSessionAndPrimaryThreadStatusAt now sessionId threadId status threadStatus state).map
        (Except.map fun _ => ()) id
  | complete ids completion =>
      (commitProviderCompletionAt now ids completion state).map (Except.map fun _ => ()) id

/-- All that the call is there to write is written. -/
def Written (now : Timestamp) (before after : StampedStore) : SessionTransition → Prop
  | setStatus sessionId threadId status threadStatus =>
      StatusesWritten now sessionId threadId status threadStatus before after ∧
        SessionsOnly before.store after.store
  | complete ids completion =>
      StatusesWritten now completion.toolCall.sessionId completion.threadId
          completion.sessionStatus completion.threadStatus before after ∧
        RecordsWritten ids completion before after

/-- A call that succeeds writes all, and a call that fails leaves the store as it was. -/
def Atomic (now : Timestamp) (state : StampedStore) (transition : SessionTransition) : Prop :=
  match transition.run now state with
  | (.ok _, after) => transition.Written now state after
  | (.error _, after) => after = state

/-- A change of status is refused before it writes, or finds its thread, or rewrites the
session with what it holds. -/
def FindsThread (now : Timestamp) (state : StampedStore) : SessionTransition → Prop
  | setStatus sessionId threadId status _ =>
      ∀ session, state.store.sessions.find? sessionId = some session →
        (session.status.isTerminal ∧ !status.isTerminal) ∨
          (state.threadOf sessionId threadId).isSome ∨
          (session.status = status ∧ state.sessionUpdatedAt sessionId = now)
  | complete _ _ => True

end SessionTransition

section

variable {now : Timestamp} {sessionId threadId : Uuid} {status : SessionStatus}
  {threadStatus : String} {state : StampedStore} {session : Session} {thread : SessionThread}

namespace StampedStore

theorem threadOf_eq_some : state.threadOf sessionId threadId = some thread ↔
    state.store.sessionThreads.find? threadId = some thread ∧ thread.sessionId = sessionId := by
  simp [threadOf, Option.filter_eq_some_iff]

theorem setThreadStatus_answer : (state.setThreadStatus now threadId thread threadStatus).1 =
    if thread.status = threadStatus then none else some (thread.withStatus threadStatus) := by
  unfold setThreadStatus
  split <;> rfl

theorem setThreadStatus_store : ∃ sessionThreads,
    (state.setThreadStatus now threadId thread threadStatus).2.store =
      { state.store with sessionThreads } := by
  unfold setThreadStatus
  split
  · exact ⟨state.store.sessionThreads, rfl⟩
  · exact ⟨_, rfl⟩

@[simp] theorem setThreadStatus_sessionUpdatedAt :
    (state.setThreadStatus now threadId thread threadStatus).2.sessionUpdatedAt =
      state.sessionUpdatedAt := by
  unfold setThreadStatus
  split <;> rfl

theorem find?_setThreadStatus_same
    (found : state.store.sessionThreads.find? threadId = some thread) :
    (state.setThreadStatus now threadId thread threadStatus).2.store.sessionThreads.find?
      threadId = some (thread.withStatus threadStatus) := by
  unfold setThreadStatus
  split
  next same =>
    rw [found]
    subst same
    rfl
  next => simp only [Table.find?_modify_same, found, Option.map_some]

theorem find?_setThreadStatus_ne {other : Uuid} (different : other ≠ threadId) :
    (state.setThreadStatus now threadId thread threadStatus).2.store.sessionThreads.find? other =
      state.store.sessionThreads.find? other := by
  unfold setThreadStatus
  split
  · rfl
  · simp only [Table.find?_modify_ne different]

/-- The write of a session changes nothing exactly when it holds the status already and was
last updated at this time. -/
theorem setSessionStatus_eq_self (found : state.store.sessions.find? sessionId = some session) :
    state.setSessionStatus now sessionId status = state ↔
      session.status = status ∧ state.sessionUpdatedAt sessionId = now := by
  constructor
  · intro same
    have rows := congrArg (fun after => after.store.sessions.find? sessionId) same
    have times := congrFun (congrArg StampedStore.sessionUpdatedAt same) sessionId
    simp only [setSessionStatus, Table.find?_modify_same, found, Option.map_some,
      Option.some.injEq] at rows
    refine ⟨?_, by simpa [setSessionStatus] using times.symm⟩
    rw [← rows]
    rfl
  · rintro ⟨rfl, rfl⟩
    have unchanged : state.store.sessions.modify sessionId (Session.withStatus session.status)
        (Session.withStatus_id session.status) = state.store.sessions := by
      apply Table.modify_of_unchanged
      intro row member isKey
      rw [← isKey, Table.find?_key member, Option.some.injEq] at found
      subst found
      rfl
    simp only [setSessionStatus, unchanged, Function.update_eq_self]

end StampedStore

/-- The writes of a call whose session and thread are there. -/
theorem statusesWritten_of_found (found : state.store.sessions.find? sessionId = some session)
    (threadFound : state.threadOf sessionId threadId = some thread) :
    StatusesWritten now sessionId threadId status threadStatus state
      ((state.setSessionStatus now sessionId status).setThreadStatus now threadId thread
        threadStatus).2 := by
  obtain ⟨sessionThreads, written⟩ : ∃ sessionThreads,
      ((state.setSessionStatus now sessionId status).setThreadStatus now threadId thread
        threadStatus).2.store =
          { (state.setSessionStatus now sessionId status).store with sessionThreads } :=
    StampedStore.setThreadStatus_store
  constructor
  case session =>
    refine ⟨session, found, ?_⟩
    rw [written]
    simp only [StampedStore.setSessionStatus, Table.find?_modify_same, found, Option.map_some]
  case thread =>
    exact ⟨thread, threadFound, StampedStore.find?_setThreadStatus_same
      (StampedStore.threadOf_eq_some.mp threadFound).1⟩
  case otherSessions =>
    intro other different
    rw [written]
    simp only [StampedStore.setSessionStatus, Table.find?_modify_ne different]
  case otherThreads =>
    intro other different
    rw [StampedStore.find?_setThreadStatus_ne different]
    rfl
  case sessionUpdated =>
    rw [StampedStore.setThreadStatus_sessionUpdatedAt]
    rfl

/-! ### The checks of a completion -/

theorem providerCompletionChecks_thread {completion : ProviderCompletion} {callEventId : Uuid}
    {goalType : String}
    (checked : providerCompletionChecks completion state.store =
      .ok (callEventId, goalType, session, thread)) :
    goalEventType completion.completionStatus = some goalType ∧
      state.threadOf completion.toolCall.sessionId completion.threadId = some thread := by
  obtain ⟨_, _, checked⟩ := bind_eq_ok.mp checked
  obtain ⟨goal, isGoal, checked⟩ := bind_eq_ok.mp checked
  obtain ⟨_, _, checked⟩ := bind_eq_ok.mp checked
  obtain ⟨_, checked⟩ := guardThen_eq_ok.mp checked
  obtain ⟨_, checked⟩ := guardThen_eq_ok.mp checked
  obtain ⟨found, isFound, checked⟩ := bind_eq_ok.mp checked
  obtain ⟨-, rfl, -, rfl⟩ : _ ∧ goal = goalType ∧ _ ∧ found = thread := by
    simpa [pure, Except.pure] using checked
  exact ⟨okOr_eq_ok.mp isGoal, okOr_eq_ok.mp isFound⟩

/-! ### Everything or nothing -/

/-- The Postgres branch answers as the memory branch does; it leaves the same tables when it
succeeds, and the tables as they were when it fails. -/
theorem postgres_agrees_and_rolls_back :
    let memory := setSessionAndPrimaryThreadStatusAt now sessionId threadId status threadStatus
      state
    let postgres := setSessionAndPrimaryThreadStatusPostgres now sessionId threadId status
      threadStatus state
    postgres.1 = memory.1 ∧
      postgres.2 = if memory.1.isOk then memory.2 else state := by
  intro memory postgres
  unfold memory postgres setSessionAndPrimaryThreadStatusAt
    setSessionAndPrimaryThreadStatusPostgres
  cases state.store.sessions.find? sessionId with
  | none => exact ⟨rfl, rfl⟩
  | some session =>
      dsimp only
      split
      · exact ⟨rfl, rfl⟩
      · cases threadFound :
            (state.setSessionStatus now sessionId status).threadOf sessionId threadId with
        | none =>
            dsimp only
            rw [threadFound]
            exact ⟨rfl, rfl⟩
        | some thread =>
            obtain ⟨inThreads, isOf⟩ := StampedStore.threadOf_eq_some.mp threadFound
            have stays : (((state.setSessionStatus now sessionId status).setThreadStatus now
                threadId thread threadStatus).2.threadOf sessionId threadId) =
                  some (thread.withStatus threadStatus) :=
              StampedStore.threadOf_eq_some.mpr
                ⟨StampedStore.find?_setThreadStatus_same inThreads, isOf⟩
            dsimp only
            rw [stays]
            exact ⟨rfl, rfl⟩

namespace SessionTransition

variable {transition : SessionTransition} {after : StampedStore}

theorem atomic_of_ok (ran : transition.run now state = (.ok (), after)) :
    transition.Atomic now state ↔ transition.Written now state after := by
  unfold Atomic
  rw [ran]

theorem atomic_of_error {error : AppError} (ran : transition.run now state = (.error error, after)) :
    transition.Atomic now state ↔ after = state := by
  unfold Atomic
  rw [ran]

end SessionTransition

/-- The completion of a task checks everything before it writes. -/
theorem completion_atomic (ids : CompletionIds) (completion : ProviderCompletion) :
    (SessionTransition.complete ids completion).Atomic now state := by
  cases checked : providerCompletionChecks completion state.store with
  | error error =>
      have ran : (SessionTransition.complete ids completion).run now state =
          (.error error, state) := by
        unfold SessionTransition.run commitProviderCompletionAt
        simp only [checked]
        rfl
      exact (SessionTransition.atomic_of_error ran).mpr rfl
  | ok found =>
      obtain ⟨callEventId, goalType, session, thread⟩ := found
      obtain ⟨named, sessionFound⟩ := providerCompletionChecks_ok checked
      obtain ⟨isGoal, threadFound⟩ := providerCompletionChecks_thread checked
      obtain ⟨sessionThreads, written⟩ : ∃ sessionThreads,
          ((state.setSessionStatus now completion.toolCall.sessionId
            completion.sessionStatus).setThreadStatus now completion.threadId thread
              completion.threadStatus).2.store =
            { (state.setSessionStatus now completion.toolCall.sessionId
                completion.sessionStatus).store with sessionThreads } :=
        StampedStore.setThreadStatus_store
      have statuses : StatusesWritten now completion.toolCall.sessionId completion.threadId
          completion.sessionStatus completion.threadStatus state _ :=
        statusesWritten_of_found sessionFound threadFound
      have answered : (SessionTransition.complete ids completion).run now state =
        (commitProviderCompletionAt now ids completion state).map (Except.map fun _ => ()) id := rfl
      unfold commitProviderCompletionAt at answered
      simp only [checked] at answered
      refine (SessionTransition.atomic_of_ok answered).mpr (And.intro ?left ?right)
      case left =>
        exact ⟨statuses.session, statuses.thread, statuses.otherSessions, statuses.otherThreads,
          statuses.sessionUpdated⟩
      case right =>
        refine ⟨?_, callEventId, goalType, session, thread, named, isGoal, sessionFound,
          threadFound, ?_, ?_⟩
        · show (insertRecords _ _ _).toolCalls = _
          simp only [insertRecords]
          rw [written]
          rfl
        · show (insertRecords _ _ _).events = _
          simp only [insertRecords, StampedStore.setThreadStatus_answer]
          rw [written]
          rfl
        · show (insertRecords _ _ _).auditLogs = _
          simp only [insertRecords, List.foldl_cons, List.foldl_nil]
          rw [written]
          rfl

theorem setStatus_atomic_iff :
    (SessionTransition.setStatus sessionId threadId status threadStatus).Atomic now state ↔
      (SessionTransition.setStatus sessionId threadId status threadStatus).FindsThread now
        state := by
  have answered : (SessionTransition.setStatus sessionId threadId status threadStatus).run now
      state = (setSessionAndPrimaryThreadStatusAt now sessionId threadId status threadStatus
        state).map (Except.map fun _ => ()) id := rfl
  unfold setSessionAndPrimaryThreadStatusAt at answered
  cases sessionFound : state.store.sessions.find? sessionId with
  | none =>
      simp only [sessionFound] at answered
      refine iff_of_true ((SessionTransition.atomic_of_error answered).mpr rfl) ?_
      intro session found
      cases sessionFound.symm.trans found
  | some session =>
      have condition : (SessionTransition.setStatus sessionId threadId status
          threadStatus).FindsThread now state ↔
            (session.status.isTerminal ∧ !status.isTerminal) ∨
              (state.threadOf sessionId threadId).isSome ∨
              (session.status = status ∧ state.sessionUpdatedAt sessionId = now) := by
        simp only [SessionTransition.FindsThread, sessionFound, Option.some.injEq, forall_eq']
      rw [condition]
      by_cases refused : session.status.isTerminal = true ∧ (!status.isTerminal) = true
      · simp only [sessionFound, if_pos refused] at answered
        exact iff_of_true ((SessionTransition.atomic_of_error answered).mpr rfl) (.inl refused)
      · have asked : (state.setSessionStatus now sessionId status).threadOf sessionId threadId =
          state.threadOf sessionId threadId := rfl
        simp only [refused, false_or]
        cases threadFound : state.threadOf sessionId threadId with
        | none =>
            simp only [sessionFound, if_neg refused, asked, threadFound] at answered
            simp only [Option.isSome_none, Bool.false_eq_true, false_or]
            exact (SessionTransition.atomic_of_error answered).trans
              (StampedStore.setSessionStatus_eq_self sessionFound)
        | some thread =>
            simp only [sessionFound, if_neg refused, asked, threadFound] at answered
            obtain ⟨sessionThreads, written⟩ : ∃ sessionThreads,
                ((state.setSessionStatus now sessionId status).setThreadStatus now threadId thread
                  threadStatus).2.store =
                    { (state.setSessionStatus now sessionId status).store with sessionThreads } :=
              StampedStore.setThreadStatus_store
            exact iff_of_true ((SessionTransition.atomic_of_ok answered).mpr
              ⟨statusesWritten_of_found sessionFound threadFound, _, sessionThreads, written⟩)
              (.inl rfl)

/-- A call that moves a session writes everything or nothing exactly when it is a completion,
or a change of status that does not miss its thread after the session is written. -/
theorem session_transition_atomic_iff (now : Timestamp) (state : StampedStore)
    (transition : SessionTransition) :
    transition.Atomic now state ↔ transition.FindsThread now state := by
  cases transition with
  | setStatus sessionId threadId status threadStatus => exact setStatus_atomic_iff
  | complete ids completion => exact iff_of_true (completion_atomic ids completion) trivial

end

def threadlessSession : StampedStore where
  store := {
    sessions := ⟨[⟨1, .idle, 2, none, none⟩], by decide⟩
    workflowRuns := .empty
    workflowStepRuns := .empty
    taskGrants := .empty }
  sessionUpdatedAt := fun _ => 0
  threadUpdatedAt := fun _ => 0

theorem status_change_stays_without_thread :
    ¬ ∀ (now : Timestamp) (state : StampedStore) (transition : SessionTransition),
      transition.Atomic now state := by
  intro atomic
  have unwritten := setStatus_atomic_iff.mp
    (atomic 5 threadlessSession (.setStatus 1 7 .running "running"))
  rcases unwritten _ rfl with refused | found | same
  · exact absurd refused (by decide)
  · exact absurd found (by decide)
  · exact absurd same.1 (by decide)

end MandoForge
