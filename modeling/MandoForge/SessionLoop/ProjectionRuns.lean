/-
Module: MandoForge.SessionLoop.ProjectionRuns
Purpose: What a projection reads, and what it leaves: the execution jobs stay, the
  log gets notes of the system, and a job of the session takes charge of the events
  from the floor to the projected one.
Trusted boundary: none
Main exports: Noted, IsEarliestUncovered
-/
import MandoForge.SessionLoop.Projection
import MandoForge.SessionLoop.Runs

namespace MandoForge

open Foundation

/-! ### Notes -/

namespace ExecutionWorld

/-- An event that the session loop notes beside the outcomes. -/
def IsNote (event : SessionEvent) : Prop :=
  event.actorType = "system" ∧ event.eventType ≠ "execution.completed"

/-- The jobs stayed, and the log only got notes. -/
structure Noted (before after : ExecutionWorld) : Prop where
  queue : after.queue = before.queue
  log : ∃ notes, after.store.events = before.store.events ++ notes ∧
    ∀ event ∈ notes, IsNote event

theorem Noted.refl (world : ExecutionWorld) : world.Noted world :=
  ⟨rfl, [], (List.append_nil _).symm, fun _ member => nomatch member⟩

theorem Noted.trans {first second third : ExecutionWorld} (before : first.Noted second)
    (after : second.Noted third) : first.Noted third := by
  obtain ⟨notes, grown, areNotes⟩ := before.log
  obtain ⟨later, grownLater, areLater⟩ := after.log
  refine ⟨after.queue.trans before.queue, notes ++ later, ?_, fun event member => ?_⟩
  · rw [grownLater, grown, List.append_assoc]
  · exact (List.mem_append.mp member).elim (areNotes event) (areLater event)

theorem Noted.of_same {before after : ExecutionWorld} (queue : after.queue = before.queue)
    (events : after.store.events = before.store.events) : before.Noted after :=
  ⟨queue, [], by rw [events, List.append_nil], fun _ member => nomatch member⟩

end ExecutionWorld

open ExecutionWorld

/-- A program that notes at most. -/
abbrev NotesOnly {Value : Type} (program : ExecutionProgram Value) : Prop :=
  program.Moves ExecutionWorld.Noted

namespace NotesOnly

variable {Value Next : Type}

theorem pure (value : Value) : NotesOnly (Pure.pure value) :=
  Program.Moves.pure Noted.refl value

theorem throw (error : ExecutionError) :
    NotesOnly (MonadExcept.throw error : ExecutionProgram Value) :=
  Program.Moves.throw Noted.refl error

theorem bind {first : ExecutionProgram Value} {next : Value → ExecutionProgram Next}
    (notes : NotesOnly first) (rest : ∀ value, NotesOnly (next value)) :
    NotesOnly (first >>= next) :=
  Program.Moves.bind Noted.trans notes rest

theorem perform {operation : ExecutionOperation}
    (notes : ∀ world : ExecutionWorld, world.Noted (operation.perform world).2) :
    NotesOnly (Program.perform (I := ExecutionStore) operation) :=
  Program.Moves.perform (I := ExecutionStore) notes

theorem attempt {operation : ExecutionOperation}
    {answer : operation.Answer → Except ExecutionError Value}
    (notes : ∀ world : ExecutionWorld, world.Noted (operation.perform world).2) :
    NotesOnly (Program.attempt (I := ExecutionStore) operation answer) :=
  Program.Moves.attempt (I := ExecutionStore) notes

theorem reads {operation : ExecutionOperation}
    {answer : operation.Answer → Except ExecutionError Value}
    (same : ∀ world : ExecutionWorld, (operation.perform world).2 = world) :
    NotesOnly (Program.attempt (I := ExecutionStore) operation answer) :=
  attempt fun world => by rw [same world]; exact Noted.refl world

end NotesOnly

theorem appendEventWithId_events (eventId : Uuid) (idempotent : Bool) (entry : NewEvent)
    (store : MemoryStore) :
    (appendEventWithId eventId idempotent entry store).2 = store ∨
      (appendEventWithId eventId idempotent entry store).2 = { store with
        events := store.events ++ [newSessionEvent eventId entry store] } := by
  unfold appendEventWithId
  split
  · exact .inl rfl
  · split
    · exact .inl rfl
    · exact .inr rfl

theorem appendEvent_notes {entry : NewEvent} (bySystem : entry.actorType = "system")
    (other : entry.eventType ≠ "execution.completed") :
    NotesOnly (ExecutionState.appendEvent entry) := by
  refine NotesOnly.attempt fun world => ?_
  rcases appendEventWithId_events world.freshUuid false entry world.store with same | added
  · exact Noted.of_same rfl (congrArg MemoryStore.events same)
  · refine ⟨rfl, [newSessionEvent world.freshUuid entry world.store],
      congrArg MemoryStore.events added, fun event member => ?_⟩
    obtain rfl := List.mem_singleton.mp member
    exact ⟨bySystem, other⟩

theorem systemEntry_notes {actorId : Option Uuid} {sessionId : Uuid} {eventType : String}
    {payload : Json} (other : eventType ≠ "execution.completed") :
    NotesOnly (ExecutionState.appendEvent (systemEntry actorId sessionId eventType payload)) :=
  appendEvent_notes rfl other

theorem ensurePrimarySessionThread_notes (sessionId : Uuid) :
    NotesOnly (ensurePrimarySessionThread sessionId) := by
  refine .bind (.perform Noted.refl) fun existing => ?_
  cases existing with
  | some thread => exact .pure thread
  | none =>
      refine .bind (.reads fun _ => rfl) fun session => ?_
      refine .bind (.perform fun _ => .of_same rfl rfl) fun id => ?_
      refine .bind (.attempt fun world => .of_same rfl ?_) fun thread => ?_
      · change (createSessionThread _ world.store).2.events = world.store.events
        unfold createSessionThread
        split <;> rfl
      · exact .bind (systemEntry_notes (by decide)) fun _ => .pure thread

theorem setSessionAndPrimaryThreadStatus_events (sessionId threadId : Uuid)
    (status : SessionStatus) (threadStatus : String) (store : MemoryStore) :
    (setSessionAndPrimaryThreadStatus sessionId threadId status threadStatus store).2.events =
      store.events := by
  unfold setSessionAndPrimaryThreadStatus
  split
  · rfl
  · split
    · rfl
    · dsimp only
      split
      · rfl
      · split
        · rfl
        · split <;> rfl

theorem managedSessionStatusEvent_ne (status : SessionStatus) :
    managedSessionStatusEvent status ≠ "execution.completed" := by
  cases status <;> decide

theorem setManagedSessionStatus_notes (sessionId : Uuid) (status : SessionStatus)
    (reason : String) : NotesOnly (setManagedSessionStatus sessionId status reason) := by
  refine .bind (ensurePrimarySessionThread_notes sessionId) fun thread => ?_
  refine .bind (.attempt fun world => .of_same rfl
    (setSessionAndPrimaryThreadStatus_events ..)) fun changed => ?_
  obtain ⟨session, updatedThread⟩ := changed
  have last : NotesOnly (do
      let _ ← ExecutionState.appendEvent (systemEntry none sessionId
        (managedSessionStatusEvent session.status) (.ofFields [
          ("status", .string (managedThreadStatusForSession session.status)),
          ("reason", .string reason),
          ("environment_id", .ofOption .ofUuid session.environmentId)]))
      Pure.pure session) :=
    .bind (systemEntry_notes (managedSessionStatusEvent_ne session.status)) fun _ => .pure session
  cases updatedThread with
  | none => exact last
  | some updatedThread => exact .bind (systemEntry_notes (by decide)) fun _ => last

/-! ### What the reads answer -/

/-- A tool result of a pending completion that no job is in charge of. -/
def UncoveredResult (sessionId : Uuid) (world : ExecutionWorld) (seq : Int) : Prop :=
  ∃ job ∈ world.queue.jobs, completionIsPending sessionId job = true ∧
    ∃ result, latestToolResult job (eventsOf job.sessionId world.store) = some result ∧
      result.seq = seq ∧ ¬InEffectiveRange sessionId world.store seq

/-- The first of them, if there is one. -/
structure IsEarliestUncovered (sessionId : Uuid) (world : ExecutionWorld)
    (earliest : Option Int) : Prop where
  uncovered : ∀ seq, earliest = some seq → UncoveredResult sessionId world seq
  least : ∀ seq, UncoveredResult sessionId world seq →
    ∃ first, earliest = some first ∧ first ≤ seq

/-- Every pending completion of the session has its tool result. -/
def ResultsRecorded (sessionId : Uuid) (world : ExecutionWorld) : Prop :=
  ∀ job ∈ world.queue.jobs, completionIsPending sessionId job = true →
    ∃ result, latestToolResult job (eventsOf job.sessionId world.store) = some result

theorem run_latestDurableToolOutcomeEvent (job : ExecutionJob) (world : ExecutionWorld) :
    (latestDurableToolOutcomeEvent job).run world =
      (.ok (latestDurableToolOutcome job (eventsOf job.sessionId world.store)), world) := rfl

/-- One round of the loop. -/
theorem run_earliestUncovered_cons (sessionId : Uuid) {job : ExecutionJob}
    (rest : List ExecutionJob) (earliest : Option Int) {world : ExecutionWorld}
    {result : SessionEvent}
    (isResult : latestToolResult job (eventsOf job.sessionId world.store) = some result) :
    ∃ next, (earliestUncovered sessionId (job :: rest) earliest).run world =
        (earliestUncovered sessionId rest next).run world ∧
      (∀ seq, next = some seq → earliest = some seq ∨
        (result.seq = seq ∧ ¬InEffectiveRange sessionId world.store seq)) ∧
      (∀ seq, earliest = some seq ∨
          (result.seq = seq ∧ ¬InEffectiveRange sessionId world.store seq) →
        ∃ first, next = some first ∧ first ≤ seq) := by
  obtain ⟨covered, coveredRun, isCovered⟩ :=
    run_sessionLoopProjectionCoversRange sessionId result.seq result.seq world
  have inRange : covered = true ↔ InEffectiveRange sessionId world.store result.seq := by
    refine isCovered.trans ⟨fun all => all _ (Int.le_refl _) (Int.le_refl _), fun holds => ?_⟩
    intro seq after before
    rwa [← Int.le_antisymm after before]
  refine ⟨if covered then earliest
    else some (earliest.elim result.seq fun seq => min seq result.seq), ?_, ?_⟩
  · rw [earliestUncovered, Program.run_bind, run_latestDurableToolOutcomeEvent]
    dsimp only
    rw [show Option.filter _ _ = some result from isResult]
    dsimp only
    rw [Program.run_bind, coveredRun]
  · cases covered with
    | true =>
        refine ⟨fun seq isNext => .inl isNext, fun seq either => ?_⟩
        rcases either with isEarliest | ⟨rfl, notCovered⟩
        · exact ⟨seq, isEarliest, Int.le_refl _⟩
        · exact absurd (inRange.mp rfl) notCovered
    | false =>
        have notCovered : ¬InEffectiveRange sessionId world.store result.seq :=
          fun holds => Bool.noConfusion (inRange.mpr holds)
        cases earliest with
        | none =>
            refine ⟨fun seq isNext => ?_, fun seq either => ?_⟩
            · obtain rfl : result.seq = seq := Option.some.inj isNext
              exact .inr ⟨rfl, notCovered⟩
            · obtain ⟨rfl, -⟩ := either.resolve_left nofun
              exact ⟨_, rfl, Int.le_refl _⟩
        | some earlier =>
            refine ⟨fun seq isNext => ?_, fun seq either => ⟨_, rfl, ?_⟩⟩
            · have isMin : min earlier result.seq = seq := Option.some.inj isNext
              rcases Int.le_total earlier result.seq with before | before
              · rw [Int.min_eq_left before] at isMin
                exact .inl (congrArg some isMin)
              · rw [Int.min_eq_right before] at isMin
                subst isMin
                exact .inr ⟨rfl, notCovered⟩
            · rcases either with isEarliest | ⟨rfl, -⟩
              · rw [← Option.some.inj isEarliest]
                exact Int.min_le_left ..
              · exact Int.min_le_right ..

/-- The loop finds the earliest of what it was given and the uncovered results of the
jobs, if each of them has its result. -/
theorem run_earliestUncovered (sessionId : Uuid) {world : ExecutionWorld}
    (jobs : List ExecutionJob) (earliest : Option Int)
    (recorded : ∀ job ∈ jobs, ∃ result,
      latestToolResult job (eventsOf job.sessionId world.store) = some result) :
    ∃ first, (earliestUncovered sessionId jobs earliest).run world = (.ok first, world) ∧
      (∀ seq, first = some seq → earliest = some seq ∨ ∃ job ∈ jobs, ∃ result,
        latestToolResult job (eventsOf job.sessionId world.store) = some result ∧
          result.seq = seq ∧ ¬InEffectiveRange sessionId world.store seq) ∧
      (∀ seq, (earliest = some seq ∨ ∃ job ∈ jobs, ∃ result,
        latestToolResult job (eventsOf job.sessionId world.store) = some result ∧
          result.seq = seq ∧ ¬InEffectiveRange sessionId world.store seq) →
        ∃ least, first = some least ∧ least ≤ seq) := by
  induction jobs generalizing earliest with
  | nil =>
      refine ⟨earliest, rfl, fun seq isFirst => .inl isFirst, fun seq either => ?_⟩
      rcases either with isEarliest | ⟨_, member, -⟩
      · exact ⟨seq, isEarliest, Int.le_refl _⟩
      · cases member
  | cons job rest inductionHypothesis =>
      obtain ⟨result, isResult⟩ := recorded job List.mem_cons_self
      obtain ⟨next, stepped, fromNext, leastNext⟩ :=
        run_earliestUncovered_cons sessionId rest earliest isResult
      obtain ⟨first, ran, fromFirst, leastFirst⟩ :=
        @inductionHypothesis next fun other member =>
          recorded other (List.mem_cons_of_mem _ member)
      refine ⟨first, stepped.trans ran, fun seq isFirst => ?_, fun seq either => ?_⟩
      · rcases fromFirst seq isFirst with isNext | ⟨other, member, holds⟩
        · rcases fromNext seq isNext with isEarliest | ⟨sameSeq, notCovered⟩
          · exact .inl isEarliest
          · exact .inr ⟨job, List.mem_cons_self, result, isResult, sameSeq, notCovered⟩
        · exact .inr ⟨other, List.mem_cons_of_mem _ member, holds⟩
      · have viaNext : ∀ {middle : Int}, next = some middle → middle ≤ seq →
            ∃ least, first = some least ∧ least ≤ seq := by
          intro middle isNext before
          obtain ⟨least, isLeast, below⟩ := leastFirst middle (.inl isNext)
          exact ⟨least, isLeast, Int.le_trans below before⟩
        rcases either with isEarliest | ⟨other, member, found, isFound, sameSeq, notCovered⟩
        · obtain ⟨middle, isNext, before⟩ := leastNext seq (.inl isEarliest)
          exact viaNext isNext before
        · rcases List.mem_cons.mp member with rfl | member
          · obtain rfl := Option.some.inj (isResult.symm.trans isFound)
            obtain ⟨middle, isNext, before⟩ := leastNext seq (.inr ⟨sameSeq, notCovered⟩)
            exact viaNext isNext before
          · exact leastFirst seq (.inr ⟨other, member, found, isFound, sameSeq, notCovered⟩)

/-- A pending completion without its result fails the loop. -/
theorem run_earliestUncovered_error {sessionId : Uuid} {world : ExecutionWorld}
    {jobs : List ExecutionJob} {earliest : Option Int} {job : ExecutionJob} (member : job ∈ jobs)
    (missing : latestToolResult job (eventsOf job.sessionId world.store) = none) :
    ∃ error, (earliestUncovered sessionId jobs earliest).run world = (.error error, world) := by
  induction jobs generalizing earliest with
  | nil => cases member
  | cons first rest inductionHypothesis =>
      cases isResult : latestToolResult first (eventsOf first.sessionId world.store) with
      | none =>
          refine ⟨.internal "completed execution is missing its durable tool result", ?_⟩
          rw [earliestUncovered, Program.run_bind, run_latestDurableToolOutcomeEvent]
          dsimp only
          rw [show Option.filter _ _ = none from isResult]
          rfl
      | some result =>
          obtain ⟨next, stepped, -⟩ := run_earliestUncovered_cons sessionId rest earliest
            isResult
          rcases List.mem_cons.mp member with rfl | member
          · rw [missing] at isResult
            cases isResult
          · obtain ⟨error, ran⟩ := @inductionHypothesis next member
            exact ⟨error, stepped.trans ran⟩

theorem run_earliestUncoveredPendingToolResultSeq (sessionId : Uuid) (world : ExecutionWorld) :
    (ResultsRecorded sessionId world ∧ ∃ earliest,
      (earliestUncoveredPendingToolResultSeq sessionId).run world = (.ok earliest, world) ∧
        IsEarliestUncovered sessionId world earliest) ∨
    (¬ResultsRecorded sessionId world ∧ ∃ error,
      (earliestUncoveredPendingToolResultSeq sessionId).run world = (.error error, world)) := by
  have isLoop : (earliestUncoveredPendingToolResultSeq sessionId).run world =
      (earliestUncovered sessionId
        (world.queue.jobs.rows.filter (completionIsPending sessionId)) none).run world := rfl
  rw [isLoop]
  by_cases recorded : ResultsRecorded sessionId world
  · obtain ⟨first, ran, isFrom, isLeast⟩ := run_earliestUncovered sessionId
      (world.queue.jobs.rows.filter (completionIsPending sessionId)) none fun job member =>
        recorded job (List.mem_filter.mp member).1 (List.mem_filter.mp member).2
    refine .inl ⟨recorded, first, ran, fun seq isFirst => ?_, fun seq uncovered => ?_⟩
    · obtain ⟨job, member, holds⟩ := (isFrom seq isFirst).resolve_left nofun
      exact ⟨job, (List.mem_filter.mp member).1, (List.mem_filter.mp member).2, holds⟩
    · obtain ⟨job, member, pending, holds⟩ := uncovered
      exact isLeast seq (.inr ⟨job, List.mem_filter.mpr ⟨member, pending⟩, holds⟩)
  · refine .inr ⟨recorded, ?_⟩
    simp only [ResultsRecorded, not_forall] at recorded
    obtain ⟨job, member, pending, missing⟩ := recorded
    refine run_earliestUncovered_error (List.mem_filter.mpr ⟨member, pending⟩) ?_
    exact Option.eq_none_iff_forall_ne_some.mpr fun result isResult => missing ⟨result, isResult⟩

/-! ### How a session is woken -/

/-- The session is there, and takes up work. -/
def SessionAccepts (sessionId : Uuid) (store : MemoryStore) : Prop :=
  ∃ session, store.sessions.find? sessionId = some session ∧
    session.status.acceptsWorkerExecution = true

theorem getSession_of_found {sessionId : Uuid} {session : Session} {store : MemoryStore}
    (found : store.sessions.find? sessionId = some session) :
    getSession sessionId store = .ok session := by
  rw [getSession, found]
  rfl

theorem run_sessionAcceptsWorkerExecution {sessionId : Uuid} {session : Session}
    {world : ExecutionWorld} (found : world.store.sessions.find? sessionId = some session) :
    (sessionAcceptsWorkerExecution sessionId).run world =
      (.ok session.status.acceptsWorkerExecution, world) := by
  rw [sessionAcceptsWorkerExecution, Program.run_bind, ExecutionState.run_getSession,
    getSession_of_found found]
  rfl

theorem appendEventWithId_of_found {eventId : Uuid} {entry : NewEvent} {session : Session}
    {store : MemoryStore} (found : store.sessions.find? entry.sessionId = some session) :
    appendEventWithId eventId false entry store =
      (.ok (newSessionEvent eventId entry store), { store with
        events := store.events ++ [newSessionEvent eventId entry store] }) := by
  rw [appendEventWithId, if_neg (by rw [found]; exact Option.some_ne_none _)]
  rfl

/-- The world after an event of the system. -/
def ExecutionWorld.afterEvent (world : ExecutionWorld) (entry : NewEvent) : ExecutionWorld :=
  { world with
    store := { world.store with
      events := world.store.events ++ [newSessionEvent world.freshUuid entry world.store] }
    issuedUuid := world.freshUuid }

theorem run_appendEvent_of_found {entry : NewEvent} (session : Session) {world : ExecutionWorld}
    (found : world.store.sessions.find? entry.sessionId = some session) :
    (ExecutionState.appendEvent entry).run world =
      (.ok (newSessionEvent world.freshUuid entry world.store), world.afterEvent entry) := by
  rw [ExecutionState.run_appendEvent, appendEventWithId_of_found found]
  rfl

theorem run_ensurePrimarySessionThread {sessionId : Uuid} {session : Session}
    {world : ExecutionWorld} (found : world.store.sessions.find? sessionId = some session) :
    ∃ thread after, (ensurePrimarySessionThread sessionId).run world = (.ok thread, after) ∧
      after.store.sessions = world.store.sessions ∧
      after.store.sessionLoopJobs = world.store.sessionLoopJobs ∧
      after.store.sessionThreads.find? thread.id = some thread ∧
      thread.sessionId = sessionId := by
  rw [ensurePrimarySessionThread, Program.run_bind, ExecutionState.run_primarySessionThread]
  dsimp only
  cases existing : primarySessionThread sessionId world.store with
  | some thread =>
      have isPrimary := List.find?_some existing
      simp only [Bool.and_eq_true, decide_eq_true_eq] at isPrimary
      exact ⟨thread, world, rfl, rfl, rfl, Table.find?_key (List.mem_of_find?_eq_some existing),
        isPrimary.1⟩
  | none =>
      have isNew : ∀ thread : SessionThread, thread.sessionId = sessionId →
          createSessionThread thread world.store = (.ok thread, { world.store with
            sessionThreads := world.store.sessionThreads.insert thread }) := by
        rintro thread rfl
        rw [createSessionThread, if_neg]
        rintro ⟨-, isSome⟩
        rw [existing] at isSome
        cases isSome
      dsimp only
      rw [Program.run_bind, ExecutionState.run_getSession, getSession_of_found found]
      simp only [liftAppError_ok]
      rw [Program.run_bind, ExecutionState.run_newUuid]
      dsimp only
      rw [Program.run_bind, ExecutionState.run_createSessionThread]
      dsimp only
      rw [isNew _ rfl]
      simp only [liftAppError_ok]
      rw [Program.run_bind, run_appendEvent_of_found session found]
      exact ⟨_, _, rfl, rfl, rfl, Table.find?_insert_same, rfl⟩

/-- A session that takes up work can be set to idle. -/
theorem setSessionAndPrimaryThreadStatus_idle {sessionId threadId : Uuid} {session : Session}
    {thread : SessionThread} {store : MemoryStore}
    (found : store.sessions.find? sessionId = some session)
    (accepts : session.status.acceptsWorkerExecution = true)
    (threadFound : store.sessionThreads.find? threadId = some thread)
    (ofSession : thread.sessionId = sessionId) (threadStatus : String) :
    ∃ changed after, setSessionAndPrimaryThreadStatus sessionId threadId .idle threadStatus store =
        (.ok changed, after) ∧
      after.sessions.find? sessionId = some { session with status := .idle } ∧
      after.sessionLoopJobs = store.sessionLoopJobs := by
  have notTerminal : session.status.isTerminal = false := by
    cases status : session.status <;> rw [status] at accepts <;> first | rfl | cases accepts
  have idle : (store.sessions.modify sessionId fun stored =>
      { stored with status := .idle }).find? sessionId = some { session with status := .idle } := by
    rw [Table.find?_modify_same, found]
    rfl
  simp only [setSessionAndPrimaryThreadStatus, found, notTerminal, threadFound, ofSession]
  by_cases sameStatus : thread.status = threadStatus
  · rw [if_neg (by simp), if_neg (by simp), if_pos sameStatus]
    exact ⟨_, _, rfl, idle, rfl⟩
  · rw [if_neg (by simp), if_neg (by simp), if_neg sameStatus]
    exact ⟨_, _, rfl, idle, rfl⟩

theorem run_setManagedSessionStatus_idle {sessionId : Uuid} {world : ExecutionWorld}
    (accepts : SessionAccepts sessionId world.store) (reason : String) :
    ∃ session after, (setManagedSessionStatus sessionId .idle reason).run world =
        (.ok session, after) ∧
      SessionAccepts sessionId after.store ∧
      after.store.sessionLoopJobs = world.store.sessionLoopJobs := by
  obtain ⟨session, found, accepting⟩ := accepts
  obtain ⟨thread, ensured, ensures, sessions, loopJobs, threadFound, ofSession⟩ :=
    run_ensurePrimarySessionThread found
  obtain ⟨⟨changed, updatedThread⟩, store, sets, idle, sameLoopJobs⟩ :=
    setSessionAndPrimaryThreadStatus_idle (sessions ▸ found) accepting threadFound ofSession
      (managedThreadStatusForSession .idle)
  rw [setManagedSessionStatus, Program.run_bind, ensures]
  dsimp only
  rw [Program.run_bind, ExecutionState.run_setSessionAndPrimaryThreadStatus, sets]
  simp only [liftAppError_ok]
  cases updatedThread with
  | none =>
      dsimp only
      rw [Program.run_bind, run_appendEvent_of_found { session with status := .idle } idle]
      exact ⟨_, _, rfl, ⟨_, idle, rfl⟩, sameLoopJobs.trans loopJobs⟩
  | some updatedThread =>
      dsimp only
      rw [Program.run_bind, run_appendEvent_of_found { session with status := .idle } idle]
      dsimp only
      rw [Program.run_bind, run_appendEvent_of_found { session with status := .idle } idle]
      exact ⟨_, _, rfl, ⟨_, idle, rfl⟩, sameLoopJobs.trans loopJobs⟩

/-! ### The projection of a completion -/

theorem sessionLoopProjectionCoversRange_notes (sessionId : Uuid) (seqStart seqEnd : Int) :
    NotesOnly (sessionLoopProjectionCoversRange sessionId seqStart seqEnd) := by
  unfold sessionLoopProjectionCoversRange
  split
  · exact .pure true
  · exact .bind (.perform Noted.refl) fun _ => .pure _

theorem earliestUncoveredPendingToolResultSeq_notes (sessionId : Uuid) :
    NotesOnly (earliestUncoveredPendingToolResultSeq sessionId) := by
  intro world
  rcases run_earliestUncoveredPendingToolResultSeq sessionId world with
    ⟨-, earliest, ran, -⟩ | ⟨-, error, ran⟩ <;> rw [ran] <;> exact Noted.refl world

theorem sessionAcceptsWorkerExecution_notes (sessionId : Uuid) :
    NotesOnly (sessionAcceptsWorkerExecution sessionId) :=
  .bind (.reads fun _ => rfl) fun _ => .pure _

theorem eventIsTrusted_notes (event : SessionEvent) : NotesOnly (eventIsTrusted event) := by
  have trusted : ∀ matchesJob, NotesOnly (trustedOutcomeEvent matchesJob event) := by
    intro matchesJob
    unfold trustedOutcomeEvent
    split
    · exact .pure false
    · exact .bind (.perform Noted.refl) fun _ => .pure _
  unfold eventIsTrusted
  split
  · exact trusted _
  · split
    · exact trusted _
    · exact .pure true

theorem wakeSession_notes (event : SessionEvent) : NotesOnly (wakeSession event) := by
  unfold wakeSession
  split
  · refine .bind (sessionAcceptsWorkerExecution_notes _) fun accepts => ?_
    cases accepts with
    | true => exact .bind (setManagedSessionStatus_notes _ _ _) fun _ => .pure true
    | false => exact .pure false
  · exact .pure true

theorem commitSessionLoopJob_frame (now : Timestamp) (id sessionId : Uuid)
    (triggerEventId : Option Uuid) (reason : String) (window : LoopWindow)
    (store : MemoryStore) :
    (commitSessionLoopJob now id sessionId triggerEventId reason window store).2.events =
        store.events ∧
      (commitSessionLoopJob now id sessionId triggerEventId reason window store).2.sessions =
        store.sessions := by
  unfold commitSessionLoopJob
  split <;> exact ⟨rfl, rfl⟩

theorem enqueueSessionLoopFrom_notes (sessionId : Uuid) (triggerEventId : Option Uuid)
    (reason : String) (floor : Option Int) :
    NotesOnly (enqueueSessionLoopFrom sessionId triggerEventId reason floor) := by
  refine .bind (sessionAcceptsWorkerExecution_notes sessionId) fun accepts => ?_
  cases accepts with
  | false => exact .throw _
  | true =>
      refine .bind (.reads fun _ => rfl) fun window => ?_
      refine .bind (.perform fun world => .of_same rfl ?_) fun job => ?_
      · exact (commitSessionLoopJob_frame ..).1
      · exact .bind (systemEntry_notes (by decide)) fun _ => .pure job

theorem projectSessionEventToLoopFrom_notes (event : SessionEvent) (floor : Option Int) :
    NotesOnly (projectSessionEventToLoopFrom event floor) := by
  unfold projectSessionEventToLoopFrom
  split
  · exact .pure none
  · refine .bind (eventIsTrusted_notes event) fun trusted => ?_
    cases trusted with
    | false => exact .pure none
    | true =>
        refine .bind (wakeSession_notes event) fun awake => ?_
        cases awake with
        | false => exact .pure none
        | true =>
            refine .bind (.bind (.perform Noted.refl) fun _ => .bind (.perform Noted.refl)
              fun _ => .pure _) fun unresolved => ?_
            cases unresolved with
            | true => exact .pure none
            | false =>
                refine .bind (earliestUncoveredPendingToolResultSeq_notes _) fun pending => ?_
                refine .bind ?_ fun covered => ?_
                · cases floorOf floor pending with
                  | some seqStart => exact sessionLoopProjectionCoversRange_notes _ _ _
                  | none => exact .bind (.perform Noted.refl) fun _ => .pure _
                · cases covered with
                  | true => exact .pure none
                  | false => exact .bind (enqueueSessionLoopFrom_notes _ _ _ _) fun _ => .pure _

/-! The enqueue. -/

theorem effectiveRange_bounds {job : SessionLoopJob} {range : Int × Int}
    (isRange : effectiveRange job = some range) :
    job.pendingEventSeqStart = some range.1 ∧ job.reach = some range.2 := by
  unfold effectiveRange at isRange
  split at isRange
  · next isStart isReach =>
      split at isRange
      · cases isRange
        exact ⟨isStart, isReach⟩
      · cases isRange
  · cases isRange

theorem effectiveRange_of_window (job : SessionLoopJob) {floor seqEnd first last : Int}
    (isLive : job.isLive = true) (isStart : job.pendingEventSeqStart = some first)
    (before : first ≤ floor) (isEnd : job.pendingEventSeqEnd = some last) (after : seqEnd ≤ last)
    (within : floor ≤ seqEnd) :
    ∃ range, effectiveRange job = some range ∧ range.1 ≤ floor ∧ seqEnd ≤ range.2 := by
  obtain ⟨reached, reaches, further⟩ := SessionLoopJob.le_reach (.inr ⟨isLive, isEnd⟩)
  refine ⟨(first, reached), ?_, before, Int.le_trans after further⟩
  simp only [effectiveRange, isStart, reaches]
  rw [if_pos]
  omega

/-- A job takes charge of the span, and what was covered up to its end still is. -/
structure TakesCharge (sessionId : Uuid) (floor seqEnd : Int) (before after : MemoryStore) :
    Prop where
  within : floor ≤ seqEnd
  span : SpanCovered sessionId after floor seqEnd
  keeps : ∀ seq, seq ≤ seqEnd → InEffectiveRange sessionId before seq →
    InEffectiveRange sessionId after seq

theorem commitSessionLoopJob_covers (now : Timestamp) {id : Uuid} (sessionId : Uuid)
    (triggerEventId : Option Uuid) (reason : String) {window : LoopWindow} {store : MemoryStore}
    {floor seqEnd : Int} (fresh : store.sessionLoopJobs.find? id = none)
    (isStart : window.pendingEventSeqStart = some floor)
    (isEnd : window.pendingEventSeqEnd = some seqEnd) (within : floor ≤ seqEnd) :
    TakesCharge sessionId floor seqEnd store
      (commitSessionLoopJob now id sessionId triggerEventId reason window store).2 := by
  have inSpan : ∀ {job : SessionLoopJob} {range : Int × Int}, job ∈ (commitSessionLoopJob now id
      sessionId triggerEventId reason window store).2.sessionLoopJobs →
      job.sessionId = sessionId → effectiveRange job = some range → seqEnd ≤ range.2 →
      ∀ seq, range.1 ≤ seq → seq ≤ seqEnd → InEffectiveRange sessionId
        (commitSessionLoopJob now id sessionId triggerEventId reason window store).2 seq :=
    fun member ofSession isRange ends seq starts before =>
      ⟨_, member, ofSession, _, isRange, starts, Int.le_trans before ends⟩
  rcases commitSessionLoopJob_cases now sessionId triggerEventId reason window fresh with
    ⟨existing, member, ofSession, queued, -, replaces⟩ | ⟨-, replaces⟩
  · obtain ⟨last, isLast, after⟩ : ∃ last, maxOptional existing.pendingEventSeqEnd
        window.pendingEventSeqEnd = some last ∧ seqEnd ≤ last := le_maxOptional (.inr isEnd)
    have isLive : existing.isLive = true := by rw [SessionLoopJob.isLive, queued]
    obtain ⟨first, isFirst, beforeFloor, beforeExisting⟩ : ∃ first,
        (coalescedJob triggerEventId reason window existing).pendingEventSeqStart = some first ∧
          first ≤ floor ∧ ∀ old, existing.pendingEventSeqStart = some old → first ≤ old := by
      simp only [coalescedJob]
      cases isEarlier : earlierStart window existing with
      | some first =>
          obtain ⟨isFloor, before⟩ := earlierStart_some isEarlier
          rw [isStart] at isFloor
          exact ⟨first, rfl, Int.le_of_eq (Option.some.inj isFloor).symm,
            fun old isOld => Int.le_of_lt (before old isOld)⟩
      | none =>
          obtain ⟨first, isFirst, before⟩ := earlierStart_none isEarlier isStart
          refine ⟨first, isFirst, before, fun old isOld => ?_⟩
          exact Int.le_of_eq (Option.some.inj (isFirst.symm.trans isOld))
    obtain ⟨range, isRange, starts, ends⟩ := effectiveRange_of_window
      (coalescedJob triggerEventId reason window existing) isLive isFirst
      (Int.le_refl _) isLast after (Int.le_trans beforeFloor within)
    refine ⟨within, fun seq above below => ?_, fun seq below covered => ?_⟩
    · refine inSpan replaces.mem_new ofSession isRange ends seq ?_ below
      exact Int.le_trans starts (Int.le_trans beforeFloor above)
    · obtain ⟨other, otherMember, otherSession, otherRange, isOther, otherStarts, otherEnds⟩ :=
        covered
      by_cases same : other.id = existing.id
      · obtain rfl := Table.eq_of_key_eq otherMember member same
        obtain ⟨isOld, -⟩ := effectiveRange_bounds isOther
        refine inSpan replaces.mem_new ofSession isRange ends seq ?_ below
        exact Int.le_trans starts (Int.le_trans (beforeExisting _ isOld) otherStarts)
      · exact ⟨other, replaces.mem_old otherMember same, otherSession, otherRange, isOther,
          otherStarts, otherEnds⟩
  · obtain ⟨range, isRange, starts, ends⟩ := effectiveRange_of_window
      (newSessionLoopJob now id sessionId triggerEventId reason window) rfl isStart
      (Int.le_refl _) isEnd (Int.le_refl _) within
    refine ⟨within, fun seq above below => ?_, fun seq below covered => ?_⟩
    · exact inSpan replaces.mem_new rfl isRange ends seq (Int.le_trans starts above) below
    · obtain ⟨other, otherMember, holds⟩ := covered
      exact ⟨other, replaces.mem_old otherMember
        (Table.find?_eq_none.mp fresh other otherMember), holds⟩

theorem planSessionLoopWindow_floor {sessionId eventId : Uuid} {session : Session}
    {store : MemoryStore} {floor seq : Int}
    (found : store.sessions.find? sessionId = some session)
    (logged : sessionEventSeq sessionId eventId store = some seq) (within : floor ≤ seq) :
    ∃ window, planSessionLoopWindow sessionId (some eventId) (some floor) store = .ok window ∧
      window.pendingEventSeqStart = some floor ∧ window.pendingEventSeqEnd = some seq := by
  have isTrigger : sessionLoopTriggerEventSeq sessionId (some eventId) store = some seq := by
    rw [sessionLoopTriggerEventSeq, Option.bind_some, logged, Option.some_or]
  rw [planSessionLoopWindow, getSession_of_found found]
  refine ⟨_, rfl, ?_, isTrigger⟩
  simp only [isTrigger, Option.bind_some, Option.getD_some, if_pos within]

/-- An enqueue for a session that takes up work puts a job in charge from the floor to
the event. -/
theorem run_enqueueSessionLoopFrom {sessionId eventId : Uuid} {world : ExecutionWorld}
    {floor seq : Int} (accepts : SessionAccepts sessionId world.store)
    (logged : sessionEventSeq sessionId eventId world.store = some seq) (within : floor ≤ seq)
    (reason : String) :
    ∃ job after, (enqueueSessionLoopFrom sessionId (some eventId) reason (some floor)).run world =
        (.ok job, after) ∧ TakesCharge sessionId floor seq world.store after.store := by
  obtain ⟨session, found, accepting⟩ := accepts
  obtain ⟨window, planned, isStart, isEnd⟩ := planSessionLoopWindow_floor found logged within
  rw [enqueueSessionLoopFrom, Program.run_bind, run_sessionAcceptsWorkerExecution found, accepting]
  dsimp only
  rw [if_neg (by simp), Program.run_bind, ExecutionState.run_planSessionLoopWindow, planned]
  simp only [liftAppError_ok]
  rw [Program.run_bind, ExecutionState.run_commitSessionLoopJob]
  dsimp only
  rw [Program.run_bind, run_appendEvent_of_found session]
  · obtain ⟨-, span, keeps⟩ := commitSessionLoopJob_covers world.clock sessionId
      (some eventId) reason world.sessionLoopJobs_freshUuid isStart isEnd within
    exact ⟨_, _, rfl, within, span, keeps⟩
  · change (commitSessionLoopJob _ _ _ _ _ _ world.store).2.sessions.find? sessionId = _
    rw [(commitSessionLoopJob_frame ..).2, found]

/-! What notes leave of the reads. -/

theorem eventsOf_noted {before after : ExecutionWorld} (noted : before.Noted after)
    (sessionId : Uuid) :
    ∃ notes, eventsOf sessionId after.store = eventsOf sessionId before.store ++ notes ∧
      ∀ event ∈ notes, IsNote event := by
  obtain ⟨notes, grown, areNotes⟩ := noted.log
  refine ⟨notes.filter fun event => decide (event.sessionId = sessionId), ?_, fun event member =>
    areNotes event (List.mem_filter.mp member).1⟩
  rw [eventsOf, grown, List.filter_append, eventsOf]

theorem latestDurableToolOutcome_append {job : ExecutionJob} {events notes : List SessionEvent}
    (areNotes : ∀ event ∈ notes, IsNote event) :
    latestDurableToolOutcome job (events ++ notes) = latestDurableToolOutcome job events := by
  have none : notes.reverse.find? (isDurableToolOutcome job) = none := by
    rw [List.find?_eq_none]
    intro event member outcome
    have bySystem := (areNotes event (List.mem_reverse.mp member)).1
    simp only [isDurableToolOutcome, bySystem, Bool.and_eq_true, decide_eq_true_eq] at outcome
    exact absurd outcome.1.1.1.1.1.1.1 (by decide)
  rw [latestDurableToolOutcome, List.reverse_append, List.find?_append, none, Option.none_or,
    latestDurableToolOutcome]

theorem latestToolResult_noted {before after : ExecutionWorld} (noted : before.Noted after)
    (job : ExecutionJob) (sessionId : Uuid) :
    latestToolResult job (eventsOf sessionId after.store) =
      latestToolResult job (eventsOf sessionId before.store) := by
  obtain ⟨notes, grown, areNotes⟩ := eventsOf_noted noted sessionId
  rw [latestToolResult, grown, latestDurableToolOutcome_append areNotes, latestToolResult]

theorem inEffectiveRange_congr {sessionId : Uuid} {before after : MemoryStore} {seq : Int}
    (loopJobs : after.sessionLoopJobs = before.sessionLoopJobs) :
    InEffectiveRange sessionId after seq ↔ InEffectiveRange sessionId before seq := by
  rw [InEffectiveRange, loopJobs, InEffectiveRange]

theorem uncoveredResult_noted {before after : ExecutionWorld} (noted : before.Noted after)
    (loopJobs : after.store.sessionLoopJobs = before.store.sessionLoopJobs) {sessionId : Uuid}
    {seq : Int} :
    UncoveredResult sessionId after seq ↔ UncoveredResult sessionId before seq := by
  simp only [UncoveredResult, noted.queue, latestToolResult_noted noted,
    inEffectiveRange_congr loopJobs]

theorem isEarliestUncovered_noted {before after : ExecutionWorld} (noted : before.Noted after)
    (loopJobs : after.store.sessionLoopJobs = before.store.sessionLoopJobs) {sessionId : Uuid}
    {earliest : Option Int} (isEarliest : IsEarliestUncovered sessionId before earliest) :
    IsEarliestUncovered sessionId after earliest where
  uncovered seq isFirst := (uncoveredResult_noted noted loopJobs).mpr
    (isEarliest.uncovered seq isFirst)
  least seq uncovered := isEarliest.least seq ((uncoveredResult_noted noted loopJobs).mp uncovered)

theorem resultsRecorded_noted {before after : ExecutionWorld} (noted : before.Noted after)
    {sessionId : Uuid} (recorded : ResultsRecorded sessionId before) :
    ResultsRecorded sessionId after := by
  intro job member pending
  rw [noted.queue] at member
  rw [latestToolResult_noted noted]
  exact recorded job member pending

theorem IsEarliestUncovered.unique {sessionId : Uuid} {world : ExecutionWorld}
    {first second : Option Int} (isFirst : IsEarliestUncovered sessionId world first)
    (isSecond : IsEarliestUncovered sessionId world second) : first = second := by
  cases first with
  | none =>
      cases second with
      | none => rfl
      | some seq =>
          obtain ⟨least, isLeast, -⟩ := isFirst.least seq (isSecond.uncovered seq rfl)
          cases isLeast
  | some seq =>
      obtain ⟨least, rfl, below⟩ := isSecond.least seq (isFirst.uncovered seq rfl)
      obtain ⟨_, same, above⟩ := isFirst.least least (isSecond.uncovered least rfl)
      cases same
      exact congrArg some (Int.le_antisymm above below)

theorem run_earliestUncoveredPendingToolResultSeq_ok {sessionId : Uuid} {world : ExecutionWorld}
    {earliest : Option Int} (recorded : ResultsRecorded sessionId world)
    (isEarliest : IsEarliestUncovered sessionId world earliest) :
    (earliestUncoveredPendingToolResultSeq sessionId).run world = (.ok earliest, world) := by
  rcases run_earliestUncoveredPendingToolResultSeq sessionId world with
    ⟨-, found, ran, isFound⟩ | ⟨missing, -⟩
  · rw [ran, isEarliest.unique isFound]
  · exact absurd recorded missing

theorem find?_append_of_some {events notes : List SessionEvent} {event : SessionEvent}
    {holds : SessionEvent → Bool} (found : events.find? holds = some event) :
    (events ++ notes).find? holds = some event := by
  rw [List.find?_append, found, Option.some_or]

theorem sessionEventSeq_noted {before after : ExecutionWorld} (noted : before.Noted after)
    {sessionId eventId : Uuid} {seq : Int}
    (logged : sessionEventSeq sessionId eventId before.store = some seq) :
    sessionEventSeq sessionId eventId after.store = some seq := by
  obtain ⟨notes, grown, -⟩ := eventsOf_noted noted sessionId
  obtain ⟨event, found, isSeq⟩ := Option.map_eq_some_iff.mp logged
  rw [sessionEventSeq, grown, find?_append_of_some found, Option.map_some, isSeq]

/-! The run. -/

/-- The completion that is projected: it is logged, a job stands behind it, and the
session takes up work. -/
structure CompletionProjected (event : SessionEvent) (world : ExecutionWorld) : Prop where
  isCompletion : event.eventType = "execution.completed"
  trusted : ∃ job ∈ world.queue.jobs, event.actorId = some job.id ∧
    executionCompletionEventMatchesJob event job = true
  accepts : SessionAccepts event.sessionId world.store
  logged : sessionEventSeq event.sessionId event.id world.store = some event.seq
  recorded : ResultsRecorded event.sessionId world

theorem run_eventIsTrusted {event : SessionEvent} {world : ExecutionWorld}
    (projected : CompletionProjected event world) :
    (eventIsTrusted event).run world = (.ok true, world) := by
  obtain ⟨job, member, isActor, matchesJob⟩ := projected.trusted
  have anyJob : (world.queue.jobs.rows.any fun known =>
      decide (known.id = job.id) && executionCompletionEventMatchesJob event known) = true := by
    refine List.any_eq_true.mpr ⟨job, member, ?_⟩
    rw [decide_eq_true rfl, matchesJob]
    rfl
  rw [eventIsTrusted, if_pos projected.isCompletion, trustedOutcomeEvent, isActor]
  dsimp only
  rw [Program.run_bind, ExecutionState.run_listExecutionJobs]
  dsimp only
  rw [anyJob]
  rfl

theorem run_wakeSession {event : SessionEvent} {world : ExecutionWorld}
    (isCompletion : event.eventType = "execution.completed")
    (accepts : SessionAccepts event.sessionId world.store) :
    ∃ after, (wakeSession event).run world = (.ok true, after) ∧
      SessionAccepts event.sessionId after.store ∧
      after.store.sessionLoopJobs = world.store.sessionLoopJobs := by
  obtain ⟨session, after, ran, acceptsAfter, loopJobs⟩ :=
    run_setManagedSessionStatus_idle accepts "durable event projected to session loop"
  obtain ⟨before, found, accepting⟩ := accepts
  refine ⟨after, ?_, acceptsAfter, loopJobs⟩
  rw [wakeSession, if_pos (by rw [isCompletion]; decide), Program.run_bind,
    run_sessionAcceptsWorkerExecution found, accepting]
  dsimp only
  rw [if_pos rfl, Program.run_bind, ran]
  rfl

/-- A completion is projected from the earliest uncovered result, or from itself: it is
held back, or it is covered already, or a job takes charge. -/
theorem run_projectSessionEventToLoopFrom {event : SessionEvent} {world : ExecutionWorld}
    {earliest : Option Int} (projected : CompletionProjected event world)
    (isEarliest : IsEarliestUncovered event.sessionId world earliest) :
    ∃ projection after, (projectSessionEventToLoopFrom event
        (some (earliest.getD event.seq))).run world = (.ok projection, after) ∧
      ((projection = none ∧ after.store.sessionLoopJobs = world.store.sessionLoopJobs) ∨
        (projection.isSome ∧ TakesCharge event.sessionId (earliest.getD event.seq) event.seq
          world.store after.store)) := by
  obtain ⟨awake, wakes, acceptsAwake, loopJobs⟩ :=
    run_wakeSession projected.isCompletion projected.accepts
  have noted : world.Noted awake := by
    have moved := wakeSession_notes event world
    rwa [wakes] at moved
  have isEarliestAwake := isEarliestUncovered_noted noted loopJobs isEarliest
  have recordedAwake := resultsRecorded_noted noted projected.recorded
  have loggedAwake := sessionEventSeq_noted noted projected.logged
  have isFloor : floorOf (some (earliest.getD event.seq)) earliest =
      some (earliest.getD event.seq) := by
    cases earliest with
    | none => rfl
    | some seq => exact congrArg some (Int.min_self seq)
  have isReason : sessionLoopReasonForEvent event.eventType =
      some "approved execution completed" := by
    rw [projected.isCompletion]
    rfl
  rw [projectSessionEventToLoopFrom, isReason]
  dsimp only
  rw [Program.run_bind, run_eventIsTrusted projected]
  dsimp only
  rw [if_neg (by simp), Program.run_bind, wakes]
  dsimp only
  obtain ⟨unresolved, answers⟩ : ∃ unresolved,
      (hasUnresolvedExecutionResultAtOrBefore event.sessionId event.seq).run awake =
        (.ok unresolved, awake) := ⟨_, rfl⟩
  rw [if_neg (by simp), Program.run_bind, answers]
  cases unresolved with
  | true => exact ⟨none, awake, rfl, .inl ⟨rfl, loopJobs⟩⟩
  | false =>
      dsimp only
      rw [if_neg (by simp), Program.run_bind,
        run_earliestUncoveredPendingToolResultSeq_ok recordedAwake isEarliestAwake]
      dsimp only
      rw [isFloor, Program.run_bind, projectionCoversEvent]
      obtain ⟨covered, covers, isCovered⟩ := run_sessionLoopProjectionCoversRange event.sessionId
        (earliest.getD event.seq) event.seq awake
      rw [covers]
      cases covered with
      | true => exact ⟨none, awake, rfl, .inl ⟨rfl, loopJobs⟩⟩
      | false =>
          have within : earliest.getD event.seq ≤ event.seq := by
            by_contra beyond
            have empty : SpanCovered event.sessionId awake.store (earliest.getD event.seq)
                event.seq := fun seq after before => by omega
            exact Bool.noConfusion (isCovered.mpr empty)
          obtain ⟨job, after, enqueues, takesCharge⟩ := run_enqueueSessionLoopFrom acceptsAwake
            loggedAwake within "approved execution completed"
          dsimp only
          rw [if_neg (by simp), Program.run_bind, enqueues]
          refine ⟨some job, after, rfl, .inr ⟨rfl, within, takesCharge.span, fun seq below was => ?_⟩⟩
          exact takesCharge.keeps seq below ((inEffectiveRange_congr loopJobs).mpr was)

end MandoForge
