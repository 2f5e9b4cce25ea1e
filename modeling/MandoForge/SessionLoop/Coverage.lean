/-
Module: MandoForge.SessionLoop.Coverage
Purpose: No event is lost between the windows of a session.  An enqueue puts its
  window behind what the jobs of the session reach, so a job that fails is made up
  for by the next window unless another job already reaches past its input, or the
  session has no cursor left and the next window begins at its own trigger.
Trusted boundary: none
Main exports: windowsOf, loop_windows_lose_input
-/
import MandoForge.SessionLoop.Runs
import Mathlib.Data.List.Induction

namespace MandoForge

open Foundation

/-! ### Windows and the cursor -/

namespace SessionLoopJob

/-- The sequence number lies in the window of the job. -/
def Covers (job : SessionLoopJob) (seq : Int) : Prop :=
  (∃ first, job.pendingEventSeqStart = some first ∧ first ≤ seq) ∧
    ∃ last, job.pendingEventSeqEnd = some last ∧ seq ≤ last

end SessionLoopJob

/-- A queued, running or completed job of the session has the sequence number in its
window. -/
def CoveredBy (sessionId : Uuid) (store : MemoryStore) (seq : Int) : Prop :=
  ∃ job ∈ store.sessionLoopJobs, job.sessionId = sessionId ∧ job.status ≠ .failed ∧
    job.Covers seq

theorem watermark_eq_some {sessionId : Uuid} {store : MemoryStore} {mark : Int}
    (isMark : sessionLoopCursorHighWatermark sessionId store = some mark) :
    (∃ job ∈ store.sessionLoopJobs, job.sessionId = sessionId ∧ job.reach = some mark) ∧
      ∀ job ∈ store.sessionLoopJobs, job.sessionId = sessionId → ∀ seq, job.reach = some seq →
        seq ≤ mark := by
  obtain ⟨member, isMax⟩ := List.max?_eq_some_iff.mp isMark
  constructor
  · obtain ⟨job, jobMember, reaches⟩ := List.mem_filterMap.mp member
    obtain ⟨stored, ofSession⟩ := List.mem_filter.mp jobMember
    exact ⟨job, stored, of_decide_eq_true ofSession, reaches⟩
  · intro job stored ofSession seq reaches
    refine isMax seq (List.mem_filterMap.mpr ⟨job, ?_, reaches⟩)
    exact List.mem_filter.mpr ⟨stored, decide_eq_true ofSession⟩

theorem watermark_eq_none {sessionId : Uuid} {store : MemoryStore}
    (noMark : sessionLoopCursorHighWatermark sessionId store = none) :
    ∀ job ∈ store.sessionLoopJobs, job.sessionId = sessionId → job.reach = none := by
  intro job stored ofSession
  have noReach := List.max?_eq_none_iff.mp noMark
  refine List.filterMap_eq_nil_iff.mp noReach job ?_
  exact List.mem_filter.mpr ⟨stored, decide_eq_true ofSession⟩

/-- The last event before the trigger, or 0. -/
def lastEventBefore (sessionId : Uuid) (store : MemoryStore) (trigger : Int) : Int :=
  (sessionEventSeqBefore sessionId trigger store).getD 0

theorem sessionEventSeqBefore_lt {sessionId : Uuid} {store : MemoryStore} {trigger seq : Int}
    (isLast : sessionEventSeqBefore sessionId trigger store = some seq) : seq < trigger := by
  obtain ⟨member, -⟩ := List.max?_eq_some_iff.mp isLast
  exact of_decide_eq_true (List.mem_filter.mp member).2

/-- The cursor that a window without a floor follows. -/
def cursorBefore (sessionId : Uuid) (store : MemoryStore) (trigger : Option Int) : Option Int :=
  (sessionLoopCursorHighWatermark sessionId store).or
    (trigger.bind fun seqEnd => sessionEventSeqBefore sessionId seqEnd store)

/-- What a window without a floor is. -/
theorem planSessionLoopWindow_ok {sessionId : Uuid} {triggerEventId : Option Uuid}
    {store : MemoryStore} {window : LoopWindow}
    (planned : planSessionLoopWindow sessionId triggerEventId none store = .ok window) :
    window.pendingEventSeqEnd = sessionLoopTriggerEventSeq sessionId triggerEventId store ∧
      window.cursorHighWatermark = cursorBefore sessionId store window.pendingEventSeqEnd ∧
      window.pendingEventSeqStart = window.pendingEventSeqEnd.bind fun seqEnd =>
        if window.cursorHighWatermark.getD 0 + 1 ≤ seqEnd then
          some (window.cursorHighWatermark.getD 0 + 1) else none := by
  unfold planSessionLoopWindow at planned
  cases session : getSession sessionId store with
  | error error =>
      rw [session] at planned
      cases planned
  | ok session' =>
      rw [session] at planned
      cases planned
      refine ⟨rfl, ?_, rfl⟩
      simp only [sessionLoopCursor, cursorBefore]
      cases sessionLoopTriggerEventSeq sessionId triggerEventId store <;> rfl

/-! ### Runs with atomic enqueues -/

/-- The windows that were enqueued for the session, oldest first. -/
def windowsOf (sessionId : Uuid) (events : List LoopEvent) : List LoopWindow :=
  events.filterMap fun event => match event with
    | .call _ (.enqueue _ ofSession _ _ window) =>
        if ofSession = sessionId then some window else none
    | _ => none

def startsOf (sessionId : Uuid) (events : List LoopEvent) : List Int :=
  (windowsOf sessionId events).filterMap LoopWindow.pendingEventSeqStart

def triggersOf (sessionId : Uuid) (events : List LoopEvent) : List Int :=
  (windowsOf sessionId events).filterMap LoopWindow.pendingEventSeqEnd

/-- An enqueue takes a new identifier, and the window that is read from the store
that it changes, without a floor. -/
def EnqueuesAtOnce (event : LoopEvent) (store : MemoryStore) : Prop :=
  match event with
  | .call _ (.enqueue id sessionId triggerEventId _ window) =>
      store.sessionLoopJobs.find? id = none ∧
        planSessionLoopWindow sessionId triggerEventId none store = .ok window
  | _ => True

/-- No trigger is before an earlier one. -/
def TriggersInOrder (sessionId : Uuid) (events : List LoopEvent) : Prop :=
  (windowsOf sessionId events).Pairwise fun earlier later =>
    ∀ seq, earlier.pendingEventSeqEnd = some seq →
      ∃ last, later.pendingEventSeqEnd = some last ∧ seq ≤ last

/-- The event leaves the input of the session within reach of the next window.
When a job fails, no other job reaches as far as the start of its window.  When
there is no cursor at an enqueue, the session has no event from the start of an
earlier window up to the trigger. -/
def InputStaysReachable (sessionId : Uuid) (front : List LoopEvent) (event : LoopEvent) : Prop :=
  match event with
  | .call _ (.fails id workerId _) =>
      ∀ job ∈ (runLoop front).sessionLoopJobs, job.id = id → job.sessionId = sessionId →
        job.status = .running → job.workerId = some workerId →
        ∀ first, job.pendingEventSeqStart = some first →
        ∀ other ∈ (runLoop front).sessionLoopJobs, other.id ≠ id → other.sessionId = sessionId →
        ∀ seq, other.reach = some seq → seq < first
  | .call _ (.enqueue _ ofSession triggerEventId _ _) =>
      ofSession = sessionId →
        sessionLoopCursorHighWatermark sessionId (runLoop front) = none →
        ∀ first ∈ startsOf sessionId front, ∀ trigger,
          sessionLoopTriggerEventSeq sessionId triggerEventId (runLoop front) = some trigger →
          lastEventBefore sessionId (runLoop front) trigger < first
  | _ => True

/-- What holds of the session after the events, while its input stays reachable. -/
structure LoopCoverage (sessionId : Uuid) (events : List LoopEvent) : Prop where
  /-- From the start of a window as far as any job reaches, all is covered. -/
  covered : ∀ first ∈ startsOf sessionId events,
    ∀ job ∈ (runLoop events).sessionLoopJobs, job.sessionId = sessionId →
    ∀ last, job.reach = some last → ∀ seq, first ≤ seq → seq ≤ last →
    CoveredBy sessionId (runLoop events) seq
  beforeStart : ∀ job ∈ (runLoop events).sessionLoopJobs, job.sessionId = sessionId →
    job.isLive = true → ∀ first, job.pendingEventSeqStart = some first →
    ∀ seq, job.processedEventSeq = some seq → seq < first
  started : ∀ job ∈ (runLoop events).sessionLoopJobs, job.sessionId = sessionId →
    ∀ first, job.pendingEventSeqStart = some first → first ∈ startsOf sessionId events
  triggered : ∀ job ∈ (runLoop events).sessionLoopJobs, job.sessionId = sessionId →
    ∀ last, job.pendingEventSeqEnd = some last → last ∈ triggersOf sessionId events
  ordered : ∀ first ∈ startsOf sessionId events, ∃ last ∈ triggersOf sessionId events,
    first ≤ last

theorem windowsOf_append (sessionId : Uuid) (front rest : List LoopEvent) :
    windowsOf sessionId (front ++ rest) =
      windowsOf sessionId front ++ windowsOf sessionId rest := by
  simp [windowsOf]

/-- The event enqueues nothing for the session. -/
def QuietFor (sessionId : Uuid) (event : LoopEvent) : Prop :=
  windowsOf sessionId [event] = []

theorem QuietFor.startsOf_eq {sessionId : Uuid} {front : List LoopEvent} {event : LoopEvent}
    (quiet : QuietFor sessionId event) :
    startsOf sessionId (front ++ [event]) = startsOf sessionId front := by
  rw [startsOf, windowsOf_append, quiet, List.append_nil, startsOf]

theorem QuietFor.triggersOf_eq {sessionId : Uuid} {front : List LoopEvent} {event : LoopEvent}
    (quiet : QuietFor sessionId event) :
    triggersOf sessionId (front ++ [event]) = triggersOf sessionId front := by
  rw [triggersOf, windowsOf_append, quiet, List.append_nil, triggersOf]

/-- A job of the session as it was before, as far as coverage goes. -/
structure SameInput (before after : SessionLoopJob) : Prop where
  start_eq : after.pendingEventSeqStart = before.pendingEventSeqStart
  end_eq : after.pendingEventSeqEnd = before.pendingEventSeqEnd
  session_eq : after.sessionId = before.sessionId
  reach_le : ∀ last, after.reach = some last → ∃ further, before.reach = some further ∧
    last ≤ further
  processed_eq : after.isLive = true → before.isLive = true ∧
    after.processedEventSeq = before.processedEventSeq

theorem SameInput.rfl' (job : SessionLoopJob) : SameInput job job :=
  ⟨rfl, rfl, rfl, fun last reaches => ⟨last, reaches, Int.le_refl _⟩, fun live => ⟨live, rfl⟩⟩

theorem SameInput.covers {before after : SessionLoopJob} (same : SameInput before after)
    {seq : Int} : after.Covers seq ↔ before.Covers seq := by
  rw [SessionLoopJob.Covers, same.start_eq, same.end_eq, SessionLoopJob.Covers]

namespace LoopCoverage

variable {sessionId : Uuid} {front : List LoopEvent} {event : LoopEvent}

/-- An event that enqueues nothing for the session keeps the coverage if the jobs of
the session keep their input, and nothing within reach is uncovered. -/
theorem of_quiet (coverage : LoopCoverage sessionId front) (quiet : QuietFor sessionId event)
    (kept : ∀ job ∈ (runLoop (front ++ [event])).sessionLoopJobs, job.sessionId = sessionId →
      ∃ old ∈ (runLoop front).sessionLoopJobs, SameInput old job)
    (survives : ∀ job ∈ (runLoop (front ++ [event])).sessionLoopJobs, job.sessionId = sessionId →
      ∀ last, job.reach = some last → ∀ seq, seq ≤ last →
      CoveredBy sessionId (runLoop front) seq →
      CoveredBy sessionId (runLoop (front ++ [event])) seq) :
    LoopCoverage sessionId (front ++ [event]) := by
  constructor
  · intro first isStart job member ofSession last reaches seq after within
    rw [quiet.startsOf_eq] at isStart
    obtain ⟨old, oldMember, same⟩ := kept job member ofSession
    obtain ⟨further, oldReaches, isFurther⟩ := same.reach_le last reaches
    refine survives job member ofSession last reaches seq within ?_
    exact coverage.covered first isStart old oldMember (same.session_eq.symm.trans ofSession)
      further oldReaches seq after (Int.le_trans within isFurther)
  · intro job member ofSession isLive first isStart seq processed
    obtain ⟨old, oldMember, same⟩ := kept job member ofSession
    obtain ⟨wasLive, sameProcessed⟩ := same.processed_eq isLive
    exact coverage.beforeStart old oldMember (same.session_eq.symm.trans ofSession) wasLive
      first (same.start_eq ▸ isStart) seq (sameProcessed ▸ processed)
  · intro job member ofSession first isStart
    obtain ⟨old, oldMember, same⟩ := kept job member ofSession
    rw [quiet.startsOf_eq]
    exact coverage.started old oldMember (same.session_eq.symm.trans ofSession) first
      (same.start_eq ▸ isStart)
  · intro job member ofSession last isEnd
    obtain ⟨old, oldMember, same⟩ := kept job member ofSession
    rw [quiet.triggersOf_eq]
    exact coverage.triggered old oldMember (same.session_eq.symm.trans ofSession) last
      (same.end_eq ▸ isEnd)
  · rw [quiet.startsOf_eq, quiet.triggersOf_eq]
    exact coverage.ordered

/-- A transition of one job that keeps its input. -/
theorem of_moved (coverage : LoopCoverage sessionId front) (quiet : QuietFor sessionId event)
    {old job : SessionLoopJob} (found : old ∈ (runLoop front).sessionLoopJobs)
    (replaces : Table.Replaces old.id job (runLoop front).sessionLoopJobs
      (runLoop (front ++ [event])).sessionLoopJobs)
    (sameSession : job.sessionId = old.sessionId)
    (same : job.sessionId = sessionId → SameInput old job)
    (survives : ∀ other ∈ (runLoop (front ++ [event])).sessionLoopJobs,
      other.sessionId = sessionId → ∀ last, other.reach = some last → ∀ seq, seq ≤ last →
      old.sessionId = sessionId → old.Covers seq → job.status ≠ .failed) :
    LoopCoverage sessionId (front ++ [event]) := by
  refine coverage.of_quiet quiet ?_ ?_
  · intro other member ofSession
    rcases replaces.mem member with rfl | ⟨-, unmoved⟩
    · exact ⟨old, found, same ofSession⟩
    · exact ⟨other, unmoved, SameInput.rfl' other⟩
  · rintro other member ofSession last reaches seq within
      ⟨covering, coveringMember, coveringSession, notFailed, covers⟩
    by_cases isMoved : covering.id = old.id
    · obtain rfl := Table.eq_of_key_eq coveringMember found isMoved
      have movedSession := sameSession.trans coveringSession
      exact ⟨job, replaces.mem_new, movedSession,
        survives other member ofSession last reaches seq within coveringSession covers,
        (same movedSession).covers.mpr covers⟩
    · exact ⟨covering, replaces.mem_old coveringMember isMoved, coveringSession, notFailed,
        covers⟩

theorem of_unfailed (coverage : LoopCoverage sessionId front) (quiet : QuietFor sessionId event)
    {old job : SessionLoopJob} (found : old ∈ (runLoop front).sessionLoopJobs)
    (replaces : Table.Replaces old.id job (runLoop front).sessionLoopJobs
      (runLoop (front ++ [event])).sessionLoopJobs)
    (same : SameInput old job) (notFailed : job.status ≠ .failed) :
    LoopCoverage sessionId (front ++ [event]) :=
  coverage.of_moved quiet found replaces same.session_eq (fun _ => same)
    fun _ _ _ _ _ _ _ _ _ => notFailed

end LoopCoverage

/-! ### What each transition does to the input -/

theorem claimable_isLive {now : Timestamp} {store : MemoryStore} {job : SessionLoopJob}
    (isClaimable : claimable now store job = true) : job.isLive = true := by
  unfold claimable at isClaimable
  unfold SessionLoopJob.isLive
  split at isClaimable <;> simp_all

theorem isLive_of_running {job : SessionLoopJob} (running : job.status = .running) :
    job.isLive = true := by
  rw [SessionLoopJob.isLive, running]

/-- A job that was live and is, with the same window. -/
theorem SameInput.of_live {before after : SessionLoopJob} (wasLive : before.isLive = true)
    (isLive : after.isLive = true)
    (sameStart : after.pendingEventSeqStart = before.pendingEventSeqStart)
    (sameEnd : after.pendingEventSeqEnd = before.pendingEventSeqEnd)
    (sameSession : after.sessionId = before.sessionId)
    (sameProcessed : after.processedEventSeq = before.processedEventSeq) :
    SameInput before after where
  start_eq := sameStart
  end_eq := sameEnd
  session_eq := sameSession
  reach_le := by
    intro last reaches
    refine ⟨last, ?_, Int.le_refl _⟩
    rw [SessionLoopJob.reach, isLive, sameEnd, sameProcessed] at reaches
    rw [SessionLoopJob.reach, wasLive]
    exact reaches
  processed_eq := fun _ => ⟨wasLive, sameProcessed⟩

theorem sameInput_completed {now : Timestamp} {job : SessionLoopJob} (wasLive : job.isLive = true) :
    SameInput job (applyCompleted now job) where
  start_eq := rfl
  end_eq := rfl
  session_eq := rfl
  reach_le := by
    intro last reaches
    refine SessionLoopJob.le_reach ?_
    rcases SessionLoopJob.reach_cases reaches with processed | ⟨isLive, -⟩
    · cases pending : job.pendingEventSeqEnd with
      | none => exact .inl (by simpa [applyCompleted, pending] using processed)
      | some seqEnd => exact .inr ⟨wasLive, by simpa [applyCompleted, pending] using processed⟩
    · cases isLive
  processed_eq := nofun

theorem sameInput_failed {now : Timestamp} {error : String} {job : SessionLoopJob} :
    SameInput job (applyFailed now error job) where
  start_eq := rfl
  end_eq := rfl
  session_eq := rfl
  reach_le := by
    intro last reaches
    refine SessionLoopJob.le_reach ?_
    rcases SessionLoopJob.reach_cases reaches with processed | ⟨isLive, -⟩
    · exact .inl processed
    · cases isLive
  processed_eq := nofun

theorem reach_of_failed {now : Timestamp} {error : String} {job : SessionLoopJob} {last : Int}
    (reaches : (applyFailed now error job).reach = some last) :
    job.processedEventSeq = some last := by
  rcases SessionLoopJob.reach_cases reaches with processed | ⟨isLive, -⟩
  · exact processed
  · cases isLive

namespace LoopCoverage

variable {sessionId : Uuid} {front : List LoopEvent}

/-- A job whose input no other job reaches can fail. -/
theorem of_failed {now : Timestamp} {workerId error : String} {old : SessionLoopJob}
    (coverage : LoopCoverage sessionId front)
    (reachable : InputStaysReachable sessionId front (.call now (.fails old.id workerId error)))
    (found : old ∈ (runLoop front).sessionLoopJobs) (running : old.status = .running)
    (owned : old.workerId = some workerId)
    (replaces : Table.Replaces old.id (applyFailed now error old) (runLoop front).sessionLoopJobs
      (runLoop (front ++ [.call now (.fails old.id workerId error)])).sessionLoopJobs) :
    LoopCoverage sessionId (front ++ [.call now (.fails old.id workerId error)]) := by
  refine coverage.of_moved rfl found replaces rfl (fun _ => sameInput_failed) ?_
  rintro other member ofSession last reaches seq within oldSession ⟨⟨first, isStart, after⟩, -⟩
  -- nothing that is left reaches the window of the failed job
  have short : last < first := by
    rcases replaces.mem member with rfl | ⟨isOther, unmoved⟩
    · exact coverage.beforeStart old found oldSession (isLive_of_running running) first isStart
        last (reach_of_failed reaches)
    · exact reachable old found rfl oldSession running owned first isStart other unmoved isOther
        ofSession last reaches
  omega

end LoopCoverage

/-! ### What an enqueue does to the input -/

theorem startsOf_enqueue {now : Timestamp} {id sessionId : Uuid} {triggerEventId : Option Uuid}
    {reason : String} {window : LoopWindow} {front : List LoopEvent} {seq : Int} :
    seq ∈ startsOf sessionId
        (front ++ [.call now (.enqueue id sessionId triggerEventId reason window)]) ↔
      seq ∈ startsOf sessionId front ∨ window.pendingEventSeqStart = some seq := by
  simp [startsOf, windowsOf]

theorem triggersOf_enqueue {now : Timestamp} {id sessionId : Uuid}
    {triggerEventId : Option Uuid} {reason : String} {window : LoopWindow}
    {front : List LoopEvent} {seq : Int} :
    seq ∈ triggersOf sessionId
        (front ++ [.call now (.enqueue id sessionId triggerEventId reason window)]) ↔
      seq ∈ triggersOf sessionId front ∨ window.pendingEventSeqEnd = some seq := by
  simp [triggersOf, windowsOf]

/-- What an enqueue of the window makes of the jobs of the session: the queued job
takes in the window, and reaches no further than its trigger and the jobs before. -/
structure TakesIn (sessionId : Uuid) (window : LoopWindow) (before : MemoryStore)
    (job : SessionLoopJob) : Prop where
  session_eq : job.sessionId = sessionId
  queued : job.status = .queued
  start_le : ∀ seq, window.pendingEventSeqStart = some seq →
    ∃ first, job.pendingEventSeqStart = some first ∧ first ≤ seq
  le_end : ∀ seq, window.pendingEventSeqEnd = some seq →
    ∃ last, job.pendingEventSeqEnd = some last ∧ seq ≤ last
  start_from : ∀ first, job.pendingEventSeqStart = some first →
    window.pendingEventSeqStart = some first ∨
      ∃ old ∈ before.sessionLoopJobs, old.sessionId = sessionId ∧
        old.pendingEventSeqStart = some first
  end_from : ∀ last, job.pendingEventSeqEnd = some last →
    window.pendingEventSeqEnd = some last ∨
      ∃ old ∈ before.sessionLoopJobs, old.sessionId = sessionId ∧
        old.pendingEventSeqEnd = some last
  reach_from : ∀ last, job.reach = some last →
    (∃ trigger, window.pendingEventSeqEnd = some trigger ∧ last ≤ trigger) ∨
      ∃ old ∈ before.sessionLoopJobs, old.sessionId = sessionId ∧
        ∃ further, old.reach = some further ∧ last ≤ further
  beforeStart : ∀ first, job.pendingEventSeqStart = some first →
    ∀ seq, job.processedEventSeq = some seq → seq < first

/-- The window follows the cursor: it starts right behind it, and ends at the trigger. -/
theorem window_start {sessionId : Uuid} {triggerEventId : Option Uuid} {store : MemoryStore}
    {window : LoopWindow} {first : Int}
    (planned : planSessionLoopWindow sessionId triggerEventId none store = .ok window) :
    window.pendingEventSeqStart = some first ↔
      first = window.cursorHighWatermark.getD 0 + 1 ∧
        ∃ trigger, window.pendingEventSeqEnd = some trigger ∧ first ≤ trigger := by
  rw [(planSessionLoopWindow_ok planned).2.2]
  cases window.pendingEventSeqEnd with
  | none => simp
  | some trigger =>
      simp only [Option.bind_some, Option.some.injEq, exists_eq_left', Option.ite_none_right_eq_some]
      constructor
      · rintro ⟨within, rfl⟩
        exact ⟨rfl, within⟩
      · rintro ⟨rfl, within⟩
        exact ⟨within, rfl⟩

/-- The cursor of the window is as far as a job of the session reaches, or it is
before the trigger. -/
theorem window_cursor {sessionId : Uuid} {triggerEventId : Option Uuid} {store : MemoryStore}
    {window : LoopWindow} {cursor : Int}
    (planned : planSessionLoopWindow sessionId triggerEventId none store = .ok window)
    (isCursor : window.cursorHighWatermark = some cursor) :
    (∃ trigger, window.pendingEventSeqEnd = some trigger ∧ cursor ≤ trigger) ∨
      ∃ old ∈ store.sessionLoopJobs, old.sessionId = sessionId ∧ old.reach = some cursor := by
  rw [(planSessionLoopWindow_ok planned).2.1, cursorBefore] at isCursor
  cases isMark : sessionLoopCursorHighWatermark sessionId store with
  | some mark =>
      rw [isMark, Option.some_or] at isCursor
      exact .inr ((watermark_eq_some isMark).1 |> fun ⟨old, member, ofSession, reaches⟩ =>
        ⟨old, member, ofSession, reaches.trans isCursor⟩)
  | none =>
      rw [isMark, Option.none_or] at isCursor
      obtain ⟨trigger, isTrigger, isLast⟩ := Option.bind_eq_some_iff.mp isCursor
      exact .inl ⟨trigger, isTrigger, Int.le_of_lt (sessionEventSeqBefore_lt isLast)⟩

theorem takesIn_new {now : Timestamp} {id sessionId : Uuid} {triggerEventId : Option Uuid}
    {reason : String} {window : LoopWindow} {store : MemoryStore}
    (planned : planSessionLoopWindow sessionId triggerEventId none store = .ok window) :
    TakesIn sessionId window store
      (newSessionLoopJob now id sessionId triggerEventId reason window) where
  session_eq := rfl
  queued := rfl
  start_le := fun seq isStart => ⟨seq, isStart, Int.le_refl _⟩
  le_end := fun seq isEnd => ⟨seq, isEnd, Int.le_refl _⟩
  start_from := fun _ isStart => .inl isStart
  end_from := fun _ isEnd => .inl isEnd
  reach_from := by
    intro last reaches
    rcases SessionLoopJob.reach_cases reaches with isCursor | ⟨-, isTrigger⟩
    · rcases window_cursor planned isCursor with short | ⟨old, member, ofSession, oldReaches⟩
      · exact .inl short
      · exact .inr ⟨old, member, ofSession, last, oldReaches, Int.le_refl _⟩
    · exact .inl ⟨last, isTrigger, Int.le_refl _⟩
  beforeStart := by
    intro first isStart seq isCursor
    obtain ⟨rfl, -⟩ := (window_start planned).mp isStart
    have isCursor : window.cursorHighWatermark = some seq := isCursor
    rw [isCursor, Option.getD_some]
    omega

/-- The queued job moves back to an earlier start, and out to a later trigger. -/
theorem takesIn_coalesced {sessionId : Uuid} {triggerEventId : Option Uuid} {reason : String}
    {window : LoopWindow} {store : MemoryStore} {existing : SessionLoopJob}
    (planned : planSessionLoopWindow sessionId triggerEventId none store = .ok window)
    (member : existing ∈ store.sessionLoopJobs) (ofSession : existing.sessionId = sessionId)
    (queued : existing.status = .queued)
    (beforeStart : ∀ first, existing.pendingEventSeqStart = some first →
      ∀ seq, existing.processedEventSeq = some seq → seq < first) :
    TakesIn sessionId window store (coalescedJob triggerEventId reason window existing) := by
  have wasLive : existing.isLive = true := by rw [SessionLoopJob.isLive, queued]
  constructor
  · exact ofSession
  · exact queued
  · intro seq isStart
    simp only [coalescedJob]
    cases isEarlier : earlierStart window existing with
    | some first =>
        obtain rfl := Option.some.inj ((earlierStart_some isEarlier).1.symm.trans isStart)
        exact ⟨first, rfl, Int.le_refl _⟩
    | none => exact earlierStart_none isEarlier isStart
  · exact fun seq isEnd => le_maxOptional (.inr isEnd)
  · intro first isStart
    simp only [coalescedJob] at isStart
    cases isEarlier : earlierStart window existing with
    | some seq =>
        rw [isEarlier, Option.some_or] at isStart
        exact .inl ((earlierStart_some isEarlier).1.trans isStart)
    | none =>
        rw [isEarlier, Option.none_or] at isStart
        exact .inr ⟨existing, member, ofSession, isStart⟩
  · intro last isEnd
    rcases maxOptional_cases isEnd with wasEnd | isTrigger
    · exact .inr ⟨existing, member, ofSession, wasEnd⟩
    · exact .inl isTrigger
  · intro last reaches
    rcases SessionLoopJob.reach_cases reaches with processed | ⟨-, isEnd⟩
    · simp only [coalescedJob] at processed
      cases isEarlier : earlierStart window existing with
      | some first =>
          obtain ⟨-, trigger, isTrigger, within⟩ :=
            (window_start planned).mp (earlierStart_some isEarlier).1
          simp only [isEarlier, Option.map_some, Option.some_or, Option.some.injEq] at processed
          exact .inl ⟨trigger, isTrigger, by omega⟩
      | none =>
          rw [isEarlier, Option.map_none, Option.none_or] at processed
          exact .inr ⟨existing, member, ofSession, SessionLoopJob.le_reach (.inl processed)⟩
    · rcases maxOptional_cases isEnd with wasEnd | isTrigger
      · exact .inr ⟨existing, member, ofSession,
          SessionLoopJob.le_reach (.inr ⟨wasLive, wasEnd⟩)⟩
      · exact .inl ⟨last, isTrigger, Int.le_refl _⟩
  · intro first isStart seq processed
    simp only [coalescedJob] at isStart processed
    cases isEarlier : earlierStart window existing with
    | some earlier =>
        simp only [isEarlier, Option.map_some, Option.some_or, Option.some.injEq]
          at isStart processed
        omega
    | none =>
        rw [isEarlier, Option.none_or] at isStart
        rw [isEarlier, Option.map_none, Option.none_or] at processed
        exact beforeStart first isStart seq processed

theorem coalescedJob_covers {triggerEventId : Option Uuid} {reason : String}
    {window : LoopWindow} {existing : SessionLoopJob} {seq : Int} (covers : existing.Covers seq) :
    (coalescedJob triggerEventId reason window existing).Covers seq := by
  obtain ⟨⟨first, isStart, after⟩, last, isEnd, within⟩ := covers
  constructor
  · simp only [coalescedJob]
    cases isEarlier : earlierStart window existing with
    | some earlier =>
        have before := (earlierStart_some isEarlier).2 first isStart
        exact ⟨earlier, rfl, by omega⟩
    | none => exact ⟨first, isStart, after⟩
  · obtain ⟨further, isFurther, isLater⟩ := le_maxOptional (.inl isEnd)
    exact ⟨further, isFurther, Int.le_trans within isLater⟩

/-- The store after an enqueue: a job of the session takes in the window, and the
other jobs are as they were. -/
structure Enqueued (sessionId : Uuid) (window : LoopWindow) (before after : MemoryStore)
    (job : SessionLoopJob) : Prop where
  takesIn : TakesIn sessionId window before job
  member : job ∈ after.sessionLoopJobs
  others : ∀ other ∈ after.sessionLoopJobs, other = job ∨ other ∈ before.sessionLoopJobs
  covers : ∀ seq, CoveredBy sessionId before seq → CoveredBy sessionId after seq

theorem enqueued_of_commit {now : Timestamp} {id sessionId : Uuid}
    {triggerEventId : Option Uuid} {reason : String} {window : LoopWindow} {front : List LoopEvent}
    (coverage : LoopCoverage sessionId front)
    (atOnce : EnqueuesAtOnce (.call now (.enqueue id sessionId triggerEventId reason window))
      (runLoop front)) :
    ∃ job, Enqueued sessionId window (runLoop front)
      (runLoop (front ++ [.call now (.enqueue id sessionId triggerEventId reason window)]))
      job := by
  obtain ⟨fresh, planned⟩ := atOnce
  have stepped : runLoop (front ++
      [.call now (.enqueue id sessionId triggerEventId reason window)]) =
      (commitSessionLoopJob now id sessionId triggerEventId reason window (runLoop front)).2 := by
    rw [runLoop_concat, LoopEvent.step, if_neg (by simp [LoopOperation.drawsUsedId, fresh])]
    rfl
  rw [stepped]
  rcases commitSessionLoopJob_cases now sessionId triggerEventId reason window fresh with
    ⟨existing, member, ofSession, queued, -, replaces⟩ | ⟨-, replaces⟩
  · have wasLive : existing.isLive = true := by rw [SessionLoopJob.isLive, queued]
    refine ⟨_, takesIn_coalesced planned member ofSession queued
      (coverage.beforeStart existing member ofSession wasLive), replaces.mem_new, ?_, ?_⟩
    · exact fun other otherMember => (replaces.mem otherMember).imp_right And.right
    · rintro seq ⟨covering, coveringMember, coveringSession, notFailed, covers⟩
      by_cases isExisting : covering.id = existing.id
      · obtain rfl := Table.eq_of_key_eq coveringMember member isExisting
        exact ⟨_, replaces.mem_new, coveringSession, notFailed, coalescedJob_covers covers⟩
      · exact ⟨covering, replaces.mem_old coveringMember isExisting, coveringSession, notFailed,
          covers⟩
  · refine ⟨_, takesIn_new planned, replaces.mem_new, ?_, ?_⟩
    · exact fun other otherMember => (replaces.mem otherMember).imp_right And.right
    · rintro seq ⟨covering, coveringMember, coveringSession, notFailed, covers⟩
      exact ⟨covering, replaces.mem_old coveringMember
        (Table.find?_eq_none.mp fresh covering coveringMember), coveringSession, notFailed, covers⟩

section enqueue

variable {now : Timestamp} {id sessionId : Uuid} {triggerEventId : Option Uuid}
  {reason : String} {window : LoopWindow} {front : List LoopEvent}

theorem trigger_le_trigger
    (inOrder : TriggersInOrder sessionId
      (front ++ [.call now (.enqueue id sessionId triggerEventId reason window)]))
    {earlier : Int} (isTrigger : earlier ∈ triggersOf sessionId front) :
    ∃ trigger, window.pendingEventSeqEnd = some trigger ∧ earlier ≤ trigger := by
  obtain ⟨old, isWindow, isEnd⟩ := List.mem_filterMap.mp isTrigger
  rw [TriggersInOrder, windowsOf_append, List.pairwise_append] at inOrder
  exact inOrder.2.2 old isWindow window (by simp [windowsOf]) earlier isEnd

theorem start_le_trigger
    (coverage : LoopCoverage sessionId front)
    (inOrder : TriggersInOrder sessionId
      (front ++ [.call now (.enqueue id sessionId triggerEventId reason window)]))
    {first : Int} (isStart : first ∈ startsOf sessionId front) :
    ∃ trigger, window.pendingEventSeqEnd = some trigger ∧ first ≤ trigger := by
  obtain ⟨last, isTrigger, within⟩ := coverage.ordered first isStart
  obtain ⟨trigger, isEnd, later⟩ := trigger_le_trigger inOrder isTrigger
  exact ⟨trigger, isEnd, Int.le_trans within later⟩

/-- After an enqueue all is covered from the start of any window so far, as far as
its trigger and as far as a job reached before. -/
theorem enqueue_covers (coverage : LoopCoverage sessionId front)
    (atOnce : EnqueuesAtOnce (.call now (.enqueue id sessionId triggerEventId reason window))
      (runLoop front))
    (inOrder : TriggersInOrder sessionId
      (front ++ [.call now (.enqueue id sessionId triggerEventId reason window)]))
    (reachable : InputStaysReachable sessionId front
      (.call now (.enqueue id sessionId triggerEventId reason window)))
    {job : SessionLoopJob} {after : MemoryStore}
    (enqueued : Enqueued sessionId window (runLoop front) after job) {first seq : Int}
    (isStart : first ∈ startsOf sessionId front ∨ window.pendingEventSeqStart = some first)
    (behind : first ≤ seq)
    (within : (∃ trigger, window.pendingEventSeqEnd = some trigger ∧ seq ≤ trigger) ∨
      ∃ old ∈ (runLoop front).sessionLoopJobs, old.sessionId = sessionId ∧
        ∃ last, old.reach = some last ∧ seq ≤ last) :
    CoveredBy sessionId after seq := by
  have planned := atOnce.2
  have ofWindow : ∀ start trigger, window.pendingEventSeqStart = some start → start ≤ seq →
      window.pendingEventSeqEnd = some trigger → seq ≤ trigger →
      CoveredBy sessionId after seq := by
    intro start trigger isStart behind isTrigger before
    obtain ⟨jobFirst, jobStart, isEarlier⟩ := enqueued.takesIn.start_le start isStart
    obtain ⟨jobLast, jobEnd, isLater⟩ := enqueued.takesIn.le_end trigger isTrigger
    refine ⟨job, enqueued.member, enqueued.takesIn.session_eq, ?_,
      ⟨jobFirst, jobStart, by omega⟩, jobLast, jobEnd, by omega⟩
    exact fun failed => nomatch enqueued.takesIn.queued.symm.trans failed
  cases isMark : sessionLoopCursorHighWatermark sessionId (runLoop front) with
  | some mark =>
      obtain ⟨⟨furthest, member, ofSession, reaches⟩, isMax⟩ := watermark_eq_some isMark
      have cursor : window.cursorHighWatermark = some mark := by
        rw [(planSessionLoopWindow_ok planned).2.1, cursorBefore, isMark, Option.some_or]
      by_cases reached : seq ≤ mark
      · rcases isStart with isStart | isStart
        · exact enqueued.covers seq
            (coverage.covered first isStart furthest member ofSession mark reaches seq behind
              reached)
        · obtain ⟨rfl, -⟩ := (window_start planned).mp isStart
          rw [cursor, Option.getD_some] at behind
          omega
      · rcases within with
          ⟨trigger, isTrigger, before⟩ | ⟨old, oldMember, oldSession, last, oldReaches, before⟩
        · refine ofWindow (mark + 1) trigger ((window_start planned).mpr ?_) (by omega)
            isTrigger before
          rw [cursor, Option.getD_some]
          exact ⟨rfl, trigger, isTrigger, by omega⟩
        · have short := isMax old oldMember oldSession last oldReaches
          omega
  | none =>
      have noReach := watermark_eq_none isMark
      rcases within with
        ⟨trigger, isTrigger, before⟩ | ⟨old, oldMember, oldSession, last, oldReaches, -⟩
      · rcases isStart with isStart | isStart
        · -- the window begins at or before the earlier start
          obtain ⟨trigger', isTrigger', startBefore⟩ := start_le_trigger coverage inOrder isStart
          obtain rfl : trigger = trigger' := Option.some.inj (isTrigger.symm.trans isTrigger')
          have isSeq := (planSessionLoopWindow_ok planned).1.symm.trans isTrigger
          have noneBetween := reachable rfl isMark first isStart trigger isSeq
          have cursor : window.cursorHighWatermark.getD 0 =
              lastEventBefore sessionId (runLoop front) trigger := by
            rw [(planSessionLoopWindow_ok planned).2.1, cursorBefore, isMark, isTrigger]
            rfl
          refine ofWindow (window.cursorHighWatermark.getD 0 + 1) trigger
            ((window_start planned).mpr ⟨rfl, trigger, isTrigger, ?_⟩) ?_ isTrigger before <;>
          · rw [cursor]
            omega
        · exact ofWindow first trigger isStart behind isTrigger before
      · cases (noReach old oldMember oldSession).symm.trans oldReaches

theorem LoopCoverage.of_enqueue (coverage : LoopCoverage sessionId front)
    (atOnce : EnqueuesAtOnce (.call now (.enqueue id sessionId triggerEventId reason window))
      (runLoop front))
    (inOrder : TriggersInOrder sessionId
      (front ++ [.call now (.enqueue id sessionId triggerEventId reason window)]))
    (reachable : InputStaysReachable sessionId front
      (.call now (.enqueue id sessionId triggerEventId reason window))) :
    LoopCoverage sessionId
      (front ++ [.call now (.enqueue id sessionId triggerEventId reason window)]) := by
  obtain ⟨queued, enqueued⟩ := enqueued_of_commit coverage atOnce
  constructor
  · intro first isStart job member ofSession last reaches seq behind within
    rw [startsOf_enqueue] at isStart
    refine enqueue_covers coverage atOnce inOrder reachable enqueued isStart behind ?_
    rcases enqueued.others job member with rfl | unmoved
    · rcases enqueued.takesIn.reach_from last reaches with
        ⟨trigger, isTrigger, before⟩ | ⟨old, oldMember, oldSession, further, oldReaches, before⟩
      · exact .inl ⟨trigger, isTrigger, Int.le_trans within before⟩
      · exact .inr ⟨old, oldMember, oldSession, further, oldReaches,
          Int.le_trans within before⟩
    · exact .inr ⟨job, unmoved, ofSession, last, reaches, within⟩
  · intro job member ofSession isLive
    rcases enqueued.others job member with rfl | unmoved
    · exact enqueued.takesIn.beforeStart
    · exact coverage.beforeStart job unmoved ofSession isLive
  · intro job member ofSession first isStart
    rw [startsOf_enqueue]
    rcases enqueued.others job member with rfl | unmoved
    · rcases enqueued.takesIn.start_from first isStart with
        ofWindow | ⟨old, oldMember, oldSession, isOld⟩
      · exact .inr ofWindow
      · exact .inl (coverage.started old oldMember oldSession first isOld)
    · exact .inl (coverage.started job unmoved ofSession first isStart)
  · intro job member ofSession last isEnd
    rw [triggersOf_enqueue]
    rcases enqueued.others job member with rfl | unmoved
    · rcases enqueued.takesIn.end_from last isEnd with
        ofWindow | ⟨old, oldMember, oldSession, isOld⟩
      · exact .inr ofWindow
      · exact .inl (coverage.triggered old oldMember oldSession last isOld)
    · exact .inl (coverage.triggered job unmoved ofSession last isEnd)
  · intro first isStart
    rcases startsOf_enqueue.mp isStart with earlier | isWindow
    · obtain ⟨last, isTrigger, within⟩ := coverage.ordered first earlier
      exact ⟨last, triggersOf_enqueue.mpr (.inl isTrigger), within⟩
    · obtain ⟨-, trigger, isTrigger, within⟩ := (window_start atOnce.2).mp isWindow
      exact ⟨trigger, triggersOf_enqueue.mpr (.inr isTrigger), within⟩

end enqueue

/-! ### Runs -/

theorem enqueue_of_not_quiet {sessionId : Uuid} {event : LoopEvent}
    (loud : ¬QuietFor sessionId event) : ∃ now id triggerEventId reason window,
      event = .call now (.enqueue id sessionId triggerEventId reason window) := by
  cases event with
  | others changed => exact absurd rfl loud
  | call now operation =>
      cases operation with
      | enqueue id ofSession triggerEventId reason window =>
          by_cases isSession : ofSession = sessionId
          · subst isSession
            exact ⟨now, id, triggerEventId, reason, window, rfl⟩
          · exact absurd (by simp [QuietFor, windowsOf, isSession]) loud
      | start | renew | complete | fails => exact absurd rfl loud

theorem QuietFor.other_session {sessionId : Uuid} {now : Timestamp} {id ofSession : Uuid}
    {triggerEventId : Option Uuid} {reason : String} {window : LoopWindow}
    (quiet : QuietFor sessionId (.call now (.enqueue id ofSession triggerEventId reason window))) :
    ofSession ≠ sessionId := by
  rintro rfl
  simp [QuietFor, windowsOf] at quiet

/-- What is not an enqueue for the session keeps its coverage, if no job fails whose
input another job reaches past. -/
theorem LoopCoverage.of_quiet_step {sessionId : Uuid} {front : List LoopEvent} {event : LoopEvent}
    (coverage : LoopCoverage sessionId front) (quiet : QuietFor sessionId event)
    (reachable : InputStaysReachable sessionId front event) :
    LoopCoverage sessionId (front ++ [event]) := by
  have stepped := loopStep_cases event (runLoop front)
  rw [← runLoop_concat] at stepped
  generalize isAfter : runLoop (front ++ [event]) = after at stepped
  cases stepped with
  | kept same =>
      rw [← isAfter] at same
      refine coverage.of_quiet quiet ?_ ?_
      · rw [same]
        exact fun job member _ => ⟨job, member, SameInput.rfl' job⟩
      · unfold CoveredBy
        rw [same]
        exact fun _ _ _ _ _ _ _ covered => covered
  | added enqueued isNew fresh noneQueued replaces =>
      subst enqueued
      rw [← isAfter] at replaces
      have otherSession := quiet.other_session
      refine coverage.of_quiet quiet ?_ ?_
      · intro job member ofSession
        rcases replaces.mem member with rfl | ⟨-, unmoved⟩
        · exact absurd ofSession otherSession
        · exact ⟨job, unmoved, SameInput.rfl' job⟩
      · rintro _ _ _ _ _ _ _ ⟨job, member, covering⟩
        exact ⟨job, replaces.mem_old member (Table.find?_eq_none.mp fresh job member), covering⟩
  | moved called found transition accepted replaces =>
      rw [← isAfter] at replaces
      cases transition with
      | coalesced queued =>
          subst called
          have otherSession := quiet.other_session
          exact coverage.of_moved quiet found replaces rfl
            (fun ofSession => absurd ofSession otherSession)
            fun _ _ _ _ _ _ _ ofSession _ => absurd ofSession otherSession
      | started isClaimable =>
          exact coverage.of_unfailed quiet found replaces
            (.of_live (claimable_isLive isClaimable) rfl rfl rfl rfl rfl) nofun
      | renewed running =>
          have wasLive := isLive_of_running running
          refine coverage.of_unfailed quiet found replaces
            (.of_live wasLive wasLive rfl rfl rfl rfl) ?_
          exact fun failed => nomatch running.symm.trans failed
      | completed running =>
          exact coverage.of_unfailed quiet found replaces
            (sameInput_completed (isLive_of_running running)) nofun
      | failed running owned =>
          subst called
          exact coverage.of_failed reachable found running owned replaces

theorem loopCoverage_nil {sessionId : Uuid} : LoopCoverage sessionId [] where
  covered := fun _ member => absurd member List.not_mem_nil
  beforeStart := fun _ member => absurd member List.not_mem_nil
  started := fun _ member => absurd member List.not_mem_nil
  triggered := fun _ member => absurd member List.not_mem_nil
  ordered := fun _ member => absurd member List.not_mem_nil

theorem TriggersInOrder.of_prefix {sessionId : Uuid} {front events : List LoopEvent}
    (inOrder : TriggersInOrder sessionId events) (isPrefix : front <+: events) :
    TriggersInOrder sessionId front := by
  obtain ⟨rest, rfl⟩ := isPrefix
  rw [TriggersInOrder, windowsOf_append, List.pairwise_append] at inOrder
  exact inOrder.1

theorem loop_coverage {sessionId : Uuid} {events : List LoopEvent}
    (atOnce : MetAlong LoopEvent.step EnqueuesAtOnce events MemoryStore.empty)
    (inOrder : TriggersInOrder sessionId events)
    (reachable : ∀ front event, front ++ [event] <+: events →
      InputStaysReachable sessionId front event) :
    LoopCoverage sessionId events := by
  induction events using List.reverseRecOn with
  | nil => exact loopCoverage_nil
  | append_singleton front event inductionHypothesis =>
      have isFront : front <+: front ++ [event] := List.prefix_append _ _
      rw [metAlong_append] at atOnce
      have coverage := inductionHypothesis atOnce.1 (inOrder.of_prefix isFront)
        fun earlier next isPrefix => reachable earlier next (isPrefix.trans isFront)
      have stays := reachable front event List.prefix_rfl
      by_cases quiet : QuietFor sessionId event
      · exact coverage.of_quiet_step quiet stays
      · obtain ⟨now, id, triggerEventId, reason, window, rfl⟩ := enqueue_of_not_quiet quiet
        exact coverage.of_enqueue (metAlong_cons.mp atOnce.2).1 inOrder stays

/-- The input of the session that is in no window of a job that is queued, runs or
is completed: there is none from the start of the first window to any trigger so
far, and none in the window of a failed job. -/
structure NothingLost (sessionId : Uuid) (events : List LoopEvent) : Prop where
  inputs : ∀ first, (startsOf sessionId events).head? = some first →
    ∀ trigger ∈ triggersOf sessionId events, ∀ seq, first ≤ seq → seq ≤ trigger →
    CoveredBy sessionId (runLoop events) seq
  failures : ∀ job ∈ (runLoop events).sessionLoopJobs, job.sessionId = sessionId →
    job.status = .failed → ∀ seq, job.Covers seq → CoveredBy sessionId (runLoop events) seq

/-- Whenever a window was just enqueued for the session, no input of it is lost. -/
def LoopWindowsCover (sessionId : Uuid) (events : List LoopEvent) : Prop :=
  ∀ front now id triggerEventId reason window,
    front ++ [.call now (.enqueue id sessionId triggerEventId reason window)] <+: events →
    NothingLost sessionId
      (front ++ [.call now (.enqueue id sessionId triggerEventId reason window)])

/-- `enqueue_session_loop_job_from`: while the input of the session stays reachable,
nothing is lost between its windows. -/
theorem loop_windows_cover {sessionId : Uuid} {events : List LoopEvent}
    (atOnce : MetAlong LoopEvent.step EnqueuesAtOnce events MemoryStore.empty)
    (inOrder : TriggersInOrder sessionId events)
    (reachable : ∀ front event, front ++ [event] <+: events →
      InputStaysReachable sessionId front event) :
    LoopWindowsCover sessionId events := by
  intro front now id triggerEventId reason window isPrefix
  have isFront := (List.prefix_append front
    [LoopEvent.call now (.enqueue id sessionId triggerEventId reason window)]).trans isPrefix
  have inOrder := inOrder.of_prefix isPrefix
  have stays := reachable front _ isPrefix
  have enqueuesAtOnce := atOnce front _ isPrefix
  have coverage : LoopCoverage sessionId front :=
    loop_coverage (fun earlier next before => atOnce earlier next (before.trans isFront))
      (inOrder.of_prefix (List.prefix_append _ _))
      fun earlier next before => reachable earlier next (before.trans isFront)
  have after := coverage.of_enqueue enqueuesAtOnce inOrder stays
  obtain ⟨queued, enqueued⟩ := enqueued_of_commit coverage enqueuesAtOnce
  have covers : ∀ first ∈ startsOf sessionId
      (front ++ [.call now (.enqueue id sessionId triggerEventId reason window)]),
      ∀ trigger ∈ triggersOf sessionId
        (front ++ [.call now (.enqueue id sessionId triggerEventId reason window)]),
      ∀ seq, first ≤ seq → seq ≤ trigger → CoveredBy sessionId (runLoop
        (front ++ [.call now (.enqueue id sessionId triggerEventId reason window)])) seq := by
    intro first isStart trigger isTrigger seq behind within
    refine enqueue_covers coverage enqueuesAtOnce inOrder stays enqueued
      (startsOf_enqueue.mp isStart) behind (.inl ?_)
    rcases triggersOf_enqueue.mp isTrigger with earlier | isWindow
    · obtain ⟨last, isEnd, isLater⟩ := trigger_le_trigger inOrder earlier
      exact ⟨last, isEnd, Int.le_trans within isLater⟩
    · exact ⟨trigger, isWindow, within⟩
  constructor
  · intro first isFirst
    exact covers first (List.mem_of_mem_head? isFirst)
  · rintro job member ofSession - seq ⟨⟨first, isStart, behind⟩, last, isEnd, within⟩
    exact covers first (after.started job member ofSession first isStart) last
      (after.triggered job member ofSession last isEnd) seq behind within

/-! ### Runs of one session -/

def threeMessages : MemoryStore :=
  { MemoryStore.empty with
    sessions := Table.empty.insert ⟨1, .running, 2, none, none⟩
    events := [1, 2, 3].map fun seq =>
      { id := seq
        sessionId := 1
        seq := seq
        actorType := "user"
        actorId := none
        eventType := "user.message"
        payload := .null } }

/-- The window of one message. -/
def messageWindow (seq : Int) (cursor : Option Int) : LoopWindow where
  environmentId := none
  pendingEventSeqStart := some seq
  pendingEventSeqEnd := some seq
  cursorHighWatermark := cursor

/-- The second message comes while the first one is processed, which fails. -/
def overtakenFailure : List LoopEvent :=
  [.others threeMessages,
   .call 0 (.enqueue 11 1 (some 1) "user.message" (messageWindow 1 none)),
   .call 1 (.start 11 "loop-worker" MemoryExecutionQueue.empty),
   .call 2 (.enqueue 12 1 (some 2) "user.message" (messageWindow 2 (some 1))),
   .call 3 (.fails 11 "loop-worker" "turn failed"),
   .call 4 (.enqueue 13 1 (some 3) "user.message" (messageWindow 3 (some 2)))]

/-- What of a job decides what input is covered. -/
def inputRow (job : SessionLoopJob) :
    Uuid × SessionLoopJobStatus × Option Int × Option Int :=
  (job.id, job.status, job.pendingEventSeqStart, job.reach)

def inputRows (store : MemoryStore) :
    List (Uuid × SessionLoopJobStatus × Option Int × Option Int) :=
  store.sessionLoopJobs.rows.map inputRow

instance EnqueuesAtOnce.decidable : (event : LoopEvent) → (store : MemoryStore) →
    Decidable (EnqueuesAtOnce event store)
  | .call _ (.enqueue id sessionId triggerEventId _ window), store =>
      inferInstanceAs (Decidable (store.sessionLoopJobs.find? id = none ∧
        planSessionLoopWindow sessionId triggerEventId none store = .ok window))
  | .call _ (.start ..), _ | .call _ (.renew ..), _ | .call _ (.complete ..), _
  | .call _ (.fails ..), _ | .others _, _ => isTrue trivial

/-- The first message is in no window that is still to be processed. -/
theorem loop_windows_lose_input : ¬∀ (sessionId : Uuid) (events : List LoopEvent),
    MetAlong LoopEvent.step EnqueuesAtOnce events MemoryStore.empty →
    TriggersInOrder sessionId events → LoopWindowsCover sessionId events := by
  intro claimed
  have atOnce : MetAlong LoopEvent.step EnqueuesAtOnce overtakenFailure MemoryStore.empty := by
    decide
  have inOrder : TriggersInOrder 1 overtakenFailure := by
    simp [TriggersInOrder, windowsOf, overtakenFailure, messageWindow]
  have nothingLost := claimed 1 overtakenFailure atOnce inOrder (overtakenFailure.take 5) 4 13
    (some 3) "user.message" (messageWindow 3 (some 2)) List.prefix_rfl
  obtain ⟨job, member, -, notFailed, ⟨first, isStart, before⟩, -⟩ :=
    nothingLost.inputs 1 rfl 3 (by decide) 1 (by decide) (by decide)
  have rows : inputRows (runLoop overtakenFailure) =
      [(11, .failed, some 1, none), (12, .queued, some 2, some 3)] := by decide
  have row : inputRow job ∈ inputRows (runLoop overtakenFailure) := List.mem_map_of_mem member
  rw [rows] at row
  simp [inputRow, isStart, notFailed] at row
  omega

/-- The first message is processed, the second one fails before the third comes. -/
def madeUpFailure : List LoopEvent :=
  [.others threeMessages,
   .call 0 (.enqueue 11 1 (some 1) "user.message" (messageWindow 1 none)),
   .call 1 (.start 11 "loop-worker" MemoryExecutionQueue.empty),
   .call 2 (.complete 11 "loop-worker"),
   .call 3 (.enqueue 12 1 (some 2) "user.message" (messageWindow 2 (some 1))),
   .call 4 (.start 12 "loop-worker" MemoryExecutionQueue.empty),
   .call 5 (.fails 12 "loop-worker" "turn failed"),
   .call 6 (.enqueue 13 1 (some 3) "user.message"
     { messageWindow 3 (some 1) with pendingEventSeqStart := some 2 })]

/-- The next window takes up the second message again. -/
theorem madeUpFailure_covers : LoopWindowsCover 1 madeUpFailure := by
  refine loop_windows_cover (by decide) ?_ ?_
  · simp [TriggersInOrder, windowsOf, madeUpFailure, messageWindow]
  · rw [madeUpFailure]
    simp only [forall_prefixes_cons]
    refine ⟨trivial, fun _ _ _ member => absurd member List.not_mem_nil, trivial, trivial, ?_,
      trivial, ?_, ?_, forall_prefixes_nil⟩
    · exact fun _ isNone => absurd isNone (by decide)
    · rintro job member isJob - - - first isStart other otherMember isOther - seq reaches
      have rows : inputRows (runLoop (madeUpFailure.take 6)) =
          [(11, .completed, some 1, some 1), (12, .running, some 2, some 2)] := by decide
      have row : inputRow job ∈ inputRows (runLoop (madeUpFailure.take 6)) :=
        List.mem_map_of_mem member
      have otherRow : inputRow other ∈ inputRows (runLoop (madeUpFailure.take 6)) :=
        List.mem_map_of_mem otherMember
      rw [rows] at row otherRow
      simp [inputRow, isJob, isStart, isOther, reaches] at row otherRow
      omega
    · exact fun _ isNone => absurd isNone (by decide)

end MandoForge
