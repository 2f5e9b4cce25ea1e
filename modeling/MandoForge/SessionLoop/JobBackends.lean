/-
Module: MandoForge.SessionLoop.JobBackends
Purpose: The same calls on the session loop in memory and in the database, one after
  the other.  Over every run whose calls fit, both accept the same calls, and at every
  moment the jobs, the watermark and the covered ranges are the same.
Trusted boundary: both backends read the same clock, draw the same identifiers and see
  the same other tables, which change between the calls and keep what the schema promises.
Main exports: LoopBackendEvent, loop_backends_agree
-/
import MandoForge.Foundation.Lockstep
import MandoForge.SessionLoop.JobAgreement

namespace MandoForge

open Foundation

/-! ### Runs of both backends -/

instance (tables : MemoryStore) : Decidable (SoundTables tables) :=
  decidable_of_iff
    ((∀ event ∈ tables.events, 1 ≤ event.seq) ∧
      ∀ step ∈ tables.workflowStepRuns.rows,
        (tables.workflowRuns.find? step.workflowRunId).isSome = true)
    ⟨fun sound => ⟨sound.1, sound.2⟩, fun sound => ⟨sound.numbered, sound.ofRun⟩⟩

/-- Other operations can bring the other tables there: the schema holds, and no session
goes away. -/
def MemoryStore.CanBecome (tables changed : MemoryStore) : Prop :=
  SoundTables changed ∧
    ∀ session ∈ tables.sessions.rows, (changed.sessions.find? session.id).isSome = true

instance (tables changed : MemoryStore) : Decidable (tables.CanBecome changed) :=
  inferInstanceAs (Decidable (_ ∧ _))

inductive LoopBackendEvent where
  | call (now : Timestamp) (request : LoopCall)
  /-- Other operations change the other tables. -/
  | others (changed : MemoryStore)

namespace LoopBackendEvent

/-- What a backend makes of an event.  An enqueue that draws an identifier in use is no
call, and a change that the schema forbids no change. -/
def respond (perform : Timestamp → LoopCall → MemoryStore →
      Except AppError SessionLoopJob × MemoryStore)
    (event : LoopBackendEvent) (tables : MemoryStore) :
    Option (Except AppError SessionLoopJob) × MemoryStore :=
  match event with
  | .call now request =>
      if request.drawsUsedId tables then (none, tables)
      else
        let (answer, tables) := perform now request tables
        (some answer, tables)
  | .others changed =>
      if tables.CanBecome changed then
        (none, { changed with sessionLoopJobs := tables.sessionLoopJobs })
      else (none, tables)

def memory : LoopBackendEvent → MemoryStore →
    Option (Except AppError SessionLoopJob) × MemoryStore :=
  respond LoopCall.performMemory

def postgres : LoopBackendEvent → MemoryStore →
    Option (Except AppError SessionLoopJob) × MemoryStore :=
  respond LoopCall.performPostgres

/-- The event fits the jobs in memory. -/
def Fits (event : LoopBackendEvent) (store : MemoryStore) : Prop :=
  match event with
  | .call _ request => request.drawsUsedId store = false → request.Fits store
  | .others _ => True

instance (event : LoopBackendEvent) (store : MemoryStore) : Decidable (event.Fits store) :=
  match event with
  | .call _ _ => inferInstanceAs (Decidable (_ → _))
  | .others _ => isTrue trivial

end LoopBackendEvent

/-- The events as a run in memory. -/
def LoopBackendEvent.step (event : LoopBackendEvent) (store : MemoryStore) : MemoryStore :=
  (event.memory store).2

/-- What is seen of an answer. -/
def seenLoopAnswer (answer : Option (Except AppError SessionLoopJob)) :
    Option (Option (SessionLoopJobStatus × Option Int × Option Int)) :=
  answer.map fun outcome => outcome.toOption.map SessionLoopJob.seen

/-- The tables of a backend after the events, from empty ones. -/
def loopTables (backend : LoopBackendEvent → MemoryStore →
      Option (Except AppError SessionLoopJob) × MemoryStore)
    (events : List LoopBackendEvent) : MemoryStore :=
  (answers backend events MemoryStore.empty).2

/-- The two backends have accepted the same calls with the same windows, and they agree on
the jobs and on what is covered. -/
structure LoopBackendsAgree (events : List LoopBackendEvent) : Prop where
  answers : (answers LoopBackendEvent.memory events MemoryStore.empty).1.map seenLoopAnswer =
    (answers LoopBackendEvent.postgres events MemoryStore.empty).1.map seenLoopAnswer
  jobs : ∀ id,
    ((loopTables LoopBackendEvent.memory events).sessionLoopJobs.find? id).map
        SessionLoopJob.seen =
      ((loopTables LoopBackendEvent.postgres events).sessionLoopJobs.find? id).map
        SessionLoopJob.seen
  covers : ∀ sessionId eventSeq,
    projectionCovers (sessionLoopCursorHighWatermark sessionId
        (loopTables LoopBackendEvent.memory events)) eventSeq =
      projectionCovers (PostgresLoop.cursorHighWatermark sessionId
        (loopTables LoopBackendEvent.postgres events)) eventSeq
  coversRange : ∀ sessionId seqStart seqEnd,
    projectionCoversRange sessionId seqStart seqEnd
        (loopTables LoopBackendEvent.memory events).sessionLoopJobs.rows =
      projectionCoversRange sessionId seqStart seqEnd
        (loopTables LoopBackendEvent.postgres events).sessionLoopJobs.rows

/-! ### The simulation -/

theorem empty_mirrors : LoopMirrors MemoryStore.empty MemoryStore.empty where
  others := rfl
  rows := .nil
  sound := ⟨fun _ member => absurd member List.not_mem_nil,
    fun _ member => absurd member List.not_mem_nil⟩
  sessions _ member := absurd member List.not_mem_nil
  cursors _ _ isMark := nomatch isMark

theorem call_agrees {store tables : MemoryStore} (mirrors : LoopMirrors store tables)
    (now : Timestamp) (call : LoopCall) (drawsNew : call.drawsUsedId store = false)
    (fits : call.Fits store) :
    LoopAnswersAgree (call.performMemory now store) (call.performPostgres now tables) := by
  cases call with
  | enqueue id sessionId triggerEventId reason floor =>
      have fresh : store.sessionLoopJobs.find? id = none := by
        simpa [LoopCall.drawsUsedId] using drawsNew
      exact enqueueSessionLoopJob_agrees mirrors now sessionId triggerEventId reason floor fresh
        fits
  | start id workerId executions =>
      exact startSessionLoopJob_agrees mirrors now id workerId executions
  | complete id workerId => exact completeSessionLoopJob_agrees mirrors now id workerId
  | fails id workerId error => exact failSessionLoopJob_agrees mirrors now id workerId error fits

theorem drawsUsedId_eq {store tables : MemoryStore} (mirrors : LoopMirrors store tables)
    (call : LoopCall) : call.drawsUsedId tables = call.drawsUsedId store := by
  cases call with
  | enqueue id sessionId triggerEventId reason floor =>
      change (tables.sessionLoopJobs.find? id).isSome = (store.sessionLoopJobs.find? id).isSome
      rcases mirrors.at_job id with ⟨noJob, noRow⟩ | ⟨job, row, found, rowFound, -⟩
      · rw [noJob, noRow]
      · rw [found, rowFound]
        rfl
  | start id workerId executions => rfl
  | complete id workerId => rfl
  | fails id workerId error => rfl

theorem LoopMirrors.become {store tables changed : MemoryStore}
    (mirrors : LoopMirrors store tables) (canBecome : store.CanBecome changed) :
    LoopMirrors { changed with sessionLoopJobs := store.sessionLoopJobs }
      { changed with sessionLoopJobs := tables.sessionLoopJobs } where
  others := rfl
  rows := mirrors.rows
  sound := ⟨canBecome.1.numbered, canBecome.1.ofRun⟩
  sessions job member := by
    obtain ⟨session, found⟩ := Option.isSome_iff_exists.mp (mirrors.sessions job member)
    obtain ⟨isSession, sameId⟩ := Table.find?_eq_some.mp found
    rw [← sameId]
    exact canBecome.2 session isSession
  cursors := mirrors.cursors

theorem event_agrees (event : LoopBackendEvent) (store tables : MemoryStore)
    (fits : event.Fits store) (mirrors : LoopMirrors store tables) :
    seenLoopAnswer (event.memory store).1 = seenLoopAnswer (event.postgres tables).1 ∧
      LoopMirrors (event.memory store).2 (event.postgres tables).2 := by
  cases event with
  | call now request =>
      unfold LoopBackendEvent.memory LoopBackendEvent.postgres LoopBackendEvent.respond
      dsimp only
      rw [drawsUsedId_eq mirrors]
      cases drawsUsed : request.drawsUsedId store with
      | true => exact ⟨rfl, mirrors⟩
      | false =>
          have agree := call_agrees mirrors now request drawsUsed (fits drawsUsed)
          exact ⟨congrArg some agree.answers, agree.tables⟩
  | others changed =>
      have sameChange : tables.CanBecome changed ↔ store.CanBecome changed := by
        rw [← mirrors.others]
        exact Iff.rfl
      unfold LoopBackendEvent.memory LoopBackendEvent.postgres LoopBackendEvent.respond
      dsimp only
      by_cases canBecome : store.CanBecome changed
      · rw [if_pos canBecome, if_pos (sameChange.mpr canBecome)]
        exact ⟨rfl, mirrors.become canBecome⟩
      · rw [if_neg canBecome, if_neg fun holds => canBecome (sameChange.mp holds)]
        exact ⟨rfl, mirrors⟩

theorem LoopMirrors.backendsAgree {events : List LoopBackendEvent}
    (alike : List.Forall₂ (fun first second => seenLoopAnswer first = seenLoopAnswer second)
      (answers LoopBackendEvent.memory events MemoryStore.empty).1
      (answers LoopBackendEvent.postgres events MemoryStore.empty).1)
    (mirrors : LoopMirrors (loopTables LoopBackendEvent.memory events)
      (loopTables LoopBackendEvent.postgres events)) : LoopBackendsAgree events where
  answers := by
    rw [← List.forall₂_eq_eq_eq, List.forall₂_map_left_iff, List.forall₂_map_right_iff]
    exact alike
  jobs id := by
    rcases mirrors.at_job id with ⟨noJob, noRow⟩ | ⟨job, row, found, rowFound, isMirror⟩
    · rw [noJob, noRow]
    · rw [found, rowFound]
      exact congrArg some isMirror.seen
  covers sessionId eventSeq := (mirrors.covers sessionId eventSeq).symm
  coversRange sessionId seqStart seqEnd := (mirrors.coversRange sessionId seqStart seqEnd).symm

/-- In every run whose calls fit, the two backends agree in every state. -/
theorem loop_backends_agree (events : List LoopBackendEvent)
    (fits : MetAlong LoopBackendEvent.step LoopBackendEvent.Fits events MemoryStore.empty)
    (front : List LoopBackendEvent) (isPrefix : front <+: events) : LoopBackendsAgree front := by
  obtain ⟨alike, mirrors⟩ := lockstep_along LoopMirrors
    (fun first second => seenLoopAnswer first = seenLoopAnswer second) event_agrees
    (fits.of_prefix isPrefix) empty_mirrors
  exact mirrors.backendsAgree alike

/-! ### Runs that agree and a run that does not -/

def threeEvents : MemoryStore :=
  let event := fun (id : Uuid) (seq : Int) =>
    (⟨id, 5, seq, "user", none, "user.message", .object []⟩ : SessionEvent)
  { MemoryStore.empty with
    sessions := Table.empty.insert ⟨5, .idle, 2, none, none⟩
    events := [event 11 1, event 12 2, event 13 3] }

/-- A window from the first event that is completed, and a lowered floor whose window
fails and is taken up again. -/
def loweredFloor : List LoopBackendEvent :=
  [.others threeEvents,
    .call 0 (.enqueue 1 5 (some 11) "user.message" (some 1)),
    .call 1 (.enqueue 2 5 none "user.message" none),
    .call 2 (.start 1 "first" ⟨Table.empty⟩),
    .call 3 (.complete 1 "first"),
    .call 4 (.enqueue 3 5 none "tool.result" (some 2)),
    .call 5 (.start 3 "second" ⟨Table.empty⟩),
    .call 6 (.fails 3 "second" "model is away"),
    .call 7 (.enqueue 4 5 (some 13) "tool.result" (some 2))]

theorem loweredFloor_agrees : LoopBackendsAgree loweredFloor :=
  loop_backends_agree loweredFloor (by decide +kernel) loweredFloor List.prefix_rfl

/-- A window from the first event that fails, and an enqueue without a floor. -/
def failedFirstWindow : List LoopBackendEvent :=
  [.others threeEvents,
    .call 0 (.enqueue 1 5 none "user.message" (some 1)),
    .call 1 (.start 1 "first" ⟨Table.empty⟩),
    .call 2 (.fails 1 "first" "model is away"),
    .call 3 (.enqueue 2 5 none "user.message" none)]

/-- In memory the second job takes up the events from the first on, in the database only
the last one. -/
theorem failedFirstWindow_differs :
    ((loopTables LoopBackendEvent.memory failedFirstWindow).sessionLoopJobs.find? 2).map
        SessionLoopJob.seen = some (.queued, some 1, some 3) ∧
      ((loopTables LoopBackendEvent.postgres failedFirstWindow).sessionLoopJobs.find? 2).map
        SessionLoopJob.seen = some (.queued, some 3, some 3) ∧
      ¬ ∀ events, LoopBackendsAgree events := by
  have inMemory : ((loopTables LoopBackendEvent.memory
      failedFirstWindow).sessionLoopJobs.find? 2).map SessionLoopJob.seen =
        some (.queued, some 1, some 3) := by decide +kernel
  have inPostgres : ((loopTables LoopBackendEvent.postgres
      failedFirstWindow).sessionLoopJobs.find? 2).map SessionLoopJob.seen =
        some (.queued, some 3, some 3) := by decide +kernel
  refine ⟨inMemory, inPostgres, fun agree => ?_⟩
  have same := (agree failedFirstWindow).jobs 2
  rw [inMemory, inPostgres] at same
  cases same

end MandoForge
