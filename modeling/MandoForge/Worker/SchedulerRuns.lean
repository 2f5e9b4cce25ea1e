/-
Module: MandoForge.Worker.SchedulerRuns
Purpose: The worker loop stays within its limits, never runs two attempts of one
  session or one key, lets unscoped work run alone and in its turn, and always
  finds something to dispatch when it has work and nothing runs.
Trusted boundary: none
Main exports: Work.Apart, worker_loop_is_safe
-/
import MandoForge.Foundation.Runs
import MandoForge.Worker.Scheduler

namespace MandoForge

open Foundation

/-- The two may run side by side. -/
def Work.Apart (left right : Work) : Prop :=
  left.key ≠ right.key ∧ ∀ session, left.sessionId = some session → right.sessionId ≠ some session

theorem Work.Apart.symm {left right : Work} (apart : left.Apart right) : right.Apart left :=
  ⟨apart.1.symm, fun session ofRight ofLeft => apart.2 session ofLeft ofRight⟩

/-- A list around one of its positions. -/
theorem exists_split_of_getElem? {Item : Type} {items : List Item} {index : Nat} {item : Item}
    (found : items[index]? = some item) :
    ∃ front back, items = front ++ item :: back ∧ front = items.take index ∧
      items.eraseIdx index = front ++ back := by
  induction items generalizing index with
  | nil => simp at found
  | cons head rest inductionHypothesis =>
      cases index with
      | zero =>
          obtain rfl : head = item := by simpa using found
          exact ⟨[], rest, rfl, rfl, rfl⟩
      | succ index =>
          obtain ⟨front, back, split, isFront, erased⟩ := inductionHypothesis (by simpa using found)
          refine ⟨head :: front, back, by simp [split], by simp [isFront], ?_⟩
          simp [erased]

namespace Scheduler

variable {config : WorkerConfig} {state next : Scheduler}

/-! ### What one step can do -/

/-- The item goes from the queue to the active set. -/
def admitted (state : Scheduler) (front : List Work) (work : Work) (back : List Work) : Scheduler :=
  { state with
    pending := front ++ back
    activeIds := insert work.key state.activeIds
    activeSessions :=
      match work.sessionId with
      | some session => insert session state.activeSessions
      | none => state.activeSessions
    exclusive :=
      match work.sessionId with
      | some _ => state.exclusive
      | none => true
    active := state.active ++ [work] }

/-- Everything a step may do. -/
inductive Change (config : WorkerConfig) (state : Scheduler) : WorkerEvent → Scheduler → Prop
  | stayed (event : WorkerEvent) : Change config state event state
  | moved (event : WorkerEvent) (phase : SchedulerPhase) :
      Change config state event { state with phase := phase }
  | dropped {front back : List Work} {work : Work}
      (split : state.pending = front ++ work :: back) :
      Change config state .turn { state with pending := front ++ back }
  | started {front back : List Work} {work : Work}
      (split : state.pending = front ++ work :: back)
      (inOrder : ∀ earlier ∈ front, earlier.sessionId ≠ none)
      (admissible : state.canDispatch config = true) (ready : state.isReady work = true)
      (isNew : work.key ∉ state.activeIds) :
      Change config state .turn (state.admitted front work back)
  | finished {index : Nat} {result : Except WorkerFailure Bool} {front back : List Work}
      {work : Work} (found : state.active[index]? = some work)
      (split : state.active = front ++ work :: back)
      (erased : state.active.eraseIdx index = front ++ back) :
      Change config state (.finished index result) (state.finish index result)
  | discovered (result : Except WorkerFailure (List Work)) (work : List Work) :
      Change config state (.discovered result)
        { state with phase := .dispatching, pending := work }

theorem selected_some {index : Nat} (picked : state.selected config = some index) :
    state.canDispatch config = true ∧ ∃ work, state.pending[index]? = some work ∧
      state.isReady work = true ∧
      ∀ earlier ∈ state.pending.take index, earlier.sessionId ≠ none := by
  unfold selected at picked
  split at picked
  · rename_i admissible
    refine ⟨admissible, ?_⟩
    split at picked
    · cases picked
    · rename_i position atPosition
      split at picked
      · cases picked
      · rename_i noneUnscoped
        obtain rfl : position = index := by simpa using picked
        obtain ⟨inside, ready, -⟩ := List.findIdx?_eq_some_iff_getElem.mp atPosition
        refine ⟨state.pending[position], by simp, ready, fun earlier member unscoped => ?_⟩
        apply noneUnscoped
        exact List.any_eq_true.mpr ⟨earlier, member, by simp [unscoped]⟩
  · cases picked

theorem leaveDispatch_change (event : WorkerEvent) :
    Change config state event (state.leaveDispatch config) := by
  unfold leaveDispatch
  split
  · split
    · exact .moved event _
    · split
      · exact .stayed event
      · exact .moved event .idle
  · exact .moved event .awaiting

theorem dispatch_change : Change config state .turn (state.dispatch config) := by
  unfold dispatch
  split
  · exact leaveDispatch_change .turn
  · rename_i index picked
    obtain ⟨admissible, work, found, ready, inOrder⟩ := selected_some picked
    obtain ⟨front, back, split, isFront, erased⟩ := exists_split_of_getElem? found
    rw [found]
    dsimp only
    unfold runWork
    rw [erased]
    split
    · exact .dropped split
    · rename_i isNew
      rw [← isFront] at inOrder
      exact .started split inOrder admissible ready isNew

theorem discover_change (result : Except WorkerFailure (List Work)) :
    Change config state (.discovered result) (state.discover config result) := by
  unfold discover
  split
  · split
    · exact .moved _ _
    · exact .moved _ _
  · exact .discovered _ _
  · exact .discovered _ _
  · exact .discovered _ _
  · split
    · exact .stayed _
    · exact .discovered _ _
  · exact .stayed _

theorem step_change (event : WorkerEvent) :
    Change config state event (state.step config event) := by
  unfold step
  split
  · exact dispatch_change
  · rename_i index result phase
    cases found : state.active[index]? with
    | none =>
        have unchanged : state.finish index result = state := by
          unfold finish
          rw [found]
        rw [unchanged]
        exact .stayed _
    | some work =>
        obtain ⟨front, back, split, -, erased⟩ := exists_split_of_getElem? found
        exact .finished found split erased
  · exact discover_change _
  · exact .stayed _

/-! ### The invariant -/

/-- The sets and the flag say what is active, and the active items may run together. -/
structure Consistent (config : WorkerConfig) (state : Scheduler) : Prop where
  withinConcurrency : state.active.length ≤ config.concurrency
  withinLimit : 0 < config.maxJobs → state.processed + state.active.length ≤ config.maxJobs
  apart : state.active.Pairwise Work.Apart
  alone : ∀ work ∈ state.active, work.sessionId = none → state.active = [work]
  ids : ∀ key, key ∈ state.activeIds ↔ ∃ work ∈ state.active, work.key = key
  sessions : ∀ session, session ∈ state.activeSessions ↔
    ∃ work ∈ state.active, work.sessionId = some session
  exclusive : state.exclusive = true ↔ ∃ work ∈ state.active, work.sessionId = none

theorem start_consistent : Consistent config start where
  withinConcurrency := Nat.zero_le _
  withinLimit _ := Nat.zero_le _
  apart := .nil
  alone work member := by simp [start] at member
  ids key := by simp [start]
  sessions session := by simp [start]
  exclusive := by simp [start]

theorem Consistent.of_active_eq (consistent : Consistent config state)
    (active : next.active = state.active) (activeIds : next.activeIds = state.activeIds)
    (activeSessions : next.activeSessions = state.activeSessions)
    (exclusive : next.exclusive = state.exclusive) (processed : next.processed = state.processed) :
    Consistent config next where
  withinConcurrency := by rw [active]; exact consistent.withinConcurrency
  withinLimit := by rw [active, processed]; exact consistent.withinLimit
  apart := by rw [active]; exact consistent.apart
  alone := by rw [active]; exact consistent.alone
  ids := by rw [active, activeIds]; exact consistent.ids
  sessions := by rw [active, activeSessions]; exact consistent.sessions
  exclusive := by rw [active, exclusive]; exact consistent.exclusive

theorem canDispatch_cases (admissible : state.canDispatch config = true) :
    state.active.length < config.concurrency ∧
      (config.maxJobs = 0 ∨ state.processed + state.active.length < config.maxJobs) ∧
      state.exclusive = false := by
  simpa [canDispatch, hasJobsLeft, and_assoc] using admissible

theorem Consistent.ready_apart (consistent : Consistent config state) {work : Work}
    (ready : state.isReady work = true) (isNew : work.key ∉ state.activeIds) :
    ∀ other ∈ state.active, other.Apart work := by
  intro other member
  constructor
  · intro sameKey
    exact isNew ((consistent.ids _).mpr ⟨other, member, sameKey⟩)
  · intro session ofOther ofWork
    have absent : session ∉ state.activeSessions := by simpa [isReady, ofWork] using ready
    exact absent ((consistent.sessions session).mpr ⟨other, member, ofOther⟩)

theorem Consistent.admitted (consistent : Consistent config state) {front back : List Work}
    {work : Work} (admissible : state.canDispatch config = true)
    (ready : state.isReady work = true) (isNew : work.key ∉ state.activeIds) :
    Consistent config (state.admitted front work back) := by
  obtain ⟨hasRoom, hasJobs, notExclusive⟩ := canDispatch_cases admissible
  have noneUnscoped : ∀ other ∈ state.active, other.sessionId ≠ none := by
    intro other member unscoped
    have isExclusive := consistent.exclusive.mpr ⟨other, member, unscoped⟩
    rw [notExclusive] at isExclusive
    cases isExclusive
  constructor
  case withinConcurrency =>
    simp only [Scheduler.admitted, List.length_append, List.length_singleton]
    omega
  case withinLimit =>
    intro limited
    simp only [Scheduler.admitted, List.length_append, List.length_singleton]
    omega
  case apart =>
    refine List.pairwise_append.mpr ⟨consistent.apart, List.pairwise_singleton _ _, ?_⟩
    intro other member last isLast
    obtain rfl := List.mem_singleton.mp isLast
    exact consistent.ready_apart ready isNew other member
  case alone =>
    intro other member unscoped
    rcases List.mem_append.mp member with isOld | isLast
    · exact absurd unscoped (noneUnscoped other isOld)
    · obtain rfl := List.mem_singleton.mp isLast
      -- Unscoped work is ready only when nothing runs.
      have nothingRuns : state.active = [] := by simpa [isReady, unscoped] using ready
      simp [Scheduler.admitted, nothingRuns]
  case ids =>
    intro key
    simp [Scheduler.admitted, consistent.ids, or_and_right, exists_or, or_comm, eq_comm]
  case sessions =>
    intro session
    cases ofWork : work.sessionId with
    | none => simp [Scheduler.admitted, ofWork, consistent.sessions, or_and_right, exists_or]
    | some own =>
        simp [Scheduler.admitted, ofWork, consistent.sessions, or_and_right, exists_or, or_comm,
          eq_comm]
  case exclusive =>
    cases ofWork : work.sessionId with
    | none => simp [Scheduler.admitted, ofWork, or_and_right, exists_or]
    | some own =>
        simp [Scheduler.admitted, ofWork, consistent.exclusive, or_and_right, exists_or]

theorem finish_active {index : Nat} {result : Except WorkerFailure Bool} {work : Work}
    (found : state.active[index]? = some work) :
    (state.finish index result).active = state.active.eraseIdx index := by
  simp [finish, found]

theorem finish_processed {index : Nat} {result : Except WorkerFailure Bool} {work : Work}
    (found : state.active[index]? = some work) :
    (state.finish index result).processed ≤ state.processed + 1 := by
  unfold finish
  rw [found]
  dsimp only
  split <;> omega

/-- A set of the tags of the active items loses the tag of one that leaves. -/
theorem mem_erase_iff_of_split {Tag : Type} [DecidableEq Tag] {tags : Finset Tag}
    {reads : Work → Tag → Prop} {front back : List Work} {work : Work} {tag : Tag}
    (marks : ∀ other, other ∈ tags ↔ ∃ item ∈ front ++ work :: back, reads item other)
    (ofWork : ∀ other, reads work other → other = tag)
    (others : ∀ item ∈ front ++ back, ¬reads item tag) (other : Tag) :
    other ∈ tags.erase tag ↔ ∃ item ∈ front ++ back, reads item other := by
  rw [Finset.mem_erase, marks]
  constructor
  · rintro ⟨isOther, item, member, hasTag⟩
    simp only [List.mem_append, List.mem_cons] at member ⊢
    rcases member with inFront | rfl | inBack
    · exact ⟨item, .inl inFront, hasTag⟩
    · exact absurd (ofWork other hasTag) isOther
    · exact ⟨item, .inr inBack, hasTag⟩
  · rintro ⟨item, member, hasTag⟩
    refine ⟨?_, item, ?_, hasTag⟩
    · rintro rfl
      exact others item member hasTag
    · simp only [List.mem_append, List.mem_cons] at member ⊢
      exact member.imp_right .inr

theorem Consistent.finish (consistent : Consistent config state) {index : Nat}
    {result : Except WorkerFailure Bool} {front back : List Work} {work : Work}
    (found : state.active[index]? = some work) (split : state.active = front ++ work :: back)
    (erased : state.active.eraseIdx index = front ++ back) :
    Consistent config (state.finish index result) := by
  have rest : (state.finish index result).active = front ++ back :=
    (finish_active found).trans erased
  have processed : (state.finish index result).processed ≤ state.processed + 1 :=
    finish_processed found
  have length : state.active.length = (front ++ back).length + 1 := by
    simp [split]
    omega
  have stillActive : ∀ other ∈ front ++ back, other ∈ state.active := by
    rw [← erased]
    exact fun other member => (List.eraseIdx_sublist ..).subset member
  have others : ∀ other ∈ front ++ back, other.Apart work := by
    have apart := consistent.apart
    rw [split, List.pairwise_append, List.pairwise_cons] at apart
    intro other member
    rcases List.mem_append.mp member with inFront | inBack
    · exact apart.2.2 other inFront work (List.mem_cons_self ..)
    · exact (apart.2.1.1 other inBack).symm
  have noneUnscoped : ∀ other ∈ front ++ back, other.sessionId ≠ none := by
    intro other member unscoped
    have single := consistent.alone other (stillActive other member) unscoped
    have positive := List.length_pos_of_mem member
    rw [single, List.length_singleton] at length
    omega
  constructor
  case withinConcurrency =>
    have bound := consistent.withinConcurrency
    rw [rest]
    omega
  case withinLimit =>
    intro limited
    have bound := consistent.withinLimit limited
    rw [rest]
    omega
  case apart =>
    rw [rest, ← erased]
    exact consistent.apart.sublist (List.eraseIdx_sublist ..)
  case alone =>
    rw [rest]
    intro other member unscoped
    exact absurd unscoped (noneUnscoped other member)
  case ids =>
    rw [rest]
    simp only [Scheduler.finish, found]
    refine mem_erase_iff_of_split ?_ (fun key isKey => isKey.symm)
      fun other member => (others other member).1
    rw [← split]
    exact consistent.ids
  case sessions =>
    rw [rest]
    have marks := consistent.sessions
    rw [split] at marks
    cases ofWork : work.sessionId with
    | none =>
        simp only [Scheduler.finish, found, ofWork]
        simpa [ofWork, or_and_right, exists_or] using marks
    | some own =>
        simp only [Scheduler.finish, found, ofWork]
        refine mem_erase_iff_of_split marks ?_ fun other member isOwn =>
          (others other member).2 own isOwn ofWork
        intro session isSession
        rw [ofWork] at isSession
        exact (Option.some.inj isSession).symm
  case exclusive =>
    rw [rest]
    have noneLeft : ¬∃ other ∈ front ++ back, other.sessionId = none := by
      rintro ⟨other, member, unscoped⟩
      exact noneUnscoped other member unscoped
    rw [iff_false_right noneLeft]
    have isExclusive := consistent.exclusive
    rw [split] at isExclusive
    cases ofWork : work.sessionId with
    | none => simp [Scheduler.finish, found, ofWork]
    | some own =>
        simp only [Scheduler.finish, found, ofWork]
        rw [isExclusive]
        rintro ⟨other, member, unscoped⟩
        simp only [List.mem_append, List.mem_cons] at member
        rcases member with inFront | rfl | inBack
        · exact noneUnscoped other (List.mem_append_left _ inFront) unscoped
        · rw [ofWork] at unscoped
          cases unscoped
        · exact noneUnscoped other (List.mem_append_right _ inBack) unscoped

theorem Change.consistent {event : WorkerEvent} (change : Change config state event next)
    (consistent : Consistent config state) : Consistent config next := by
  cases change with
  | stayed => exact consistent
  | moved => exact consistent.of_active_eq rfl rfl rfl rfl rfl
  | dropped split => exact consistent.of_active_eq rfl rfl rfl rfl rfl
  | started split inOrder admissible ready isNew => exact consistent.admitted admissible ready isNew
  | finished found split erased => exact consistent.finish found split erased
  | discovered => exact consistent.of_active_eq rfl rfl rfl rfl rfl

/-! ### Dispatches -/

/-- The event makes the item active. -/
def Dispatches (config : WorkerConfig) (event : WorkerEvent) (state : Scheduler) (work : Work) :
    Prop :=
  (state.step config event).active = state.active ++ [work]

/-- What is dispatched leaves the queue, and no unscoped work is in front of it. -/
def TakenInOrder (config : WorkerConfig) (event : WorkerEvent) (state : Scheduler)
    (work : Work) : Prop :=
  ∃ front back, state.pending = front ++ work :: back ∧
    (state.step config event).pending = front ++ back ∧
    ∀ earlier ∈ front, earlier.sessionId ≠ none

theorem Change.dispatches {event : WorkerEvent} {work : Work}
    (change : Change config state event next) (dispatches : next.active = state.active ++ [work]) :
    ∃ front back, state.pending = front ++ work :: back ∧ next.pending = front ++ back ∧
      ∀ earlier ∈ front, earlier.sessionId ≠ none := by
  cases change with
  | stayed | moved | dropped | discovered => simp at dispatches
  | @started front back other split inOrder =>
      obtain rfl : other = work := by simpa [Scheduler.admitted] using dispatches
      exact ⟨front, back, split, rfl, inOrder⟩
  | finished found split erased =>
      rw [finish_active found, erased, split] at dispatches
      have shorter := congrArg List.length dispatches
      simp only [List.length_append, List.length_cons, List.length_nil] at shorter
      omega

theorem Dispatches.takenInOrder {event : WorkerEvent} {work : Work}
    (dispatches : Dispatches config event state work) : TakenInOrder config event state work :=
  (step_change event).dispatches dispatches

/-- The first item of the queue is dispatched when nothing runs and jobs are left. -/
theorem Consistent.dispatches_first (consistent : Consistent config state)
    (positive : 1 ≤ config.concurrency) (dispatching : state.phase = .dispatching)
    (nothingRuns : state.active = []) {work : Work} {rest : List Work}
    (waiting : state.pending = work :: rest) (jobsLeft : state.hasJobsLeft config = true) :
    Dispatches config .turn state work := by
  have noIds : work.key ∉ state.activeIds := by
    rw [consistent.ids, nothingRuns]
    simp
  have noSessions : ∀ session, session ∉ state.activeSessions := by
    intro session
    rw [consistent.sessions, nothingRuns]
    simp
  have notExclusive : state.exclusive = false := by
    have isExclusive := consistent.exclusive
    rw [nothingRuns] at isExclusive
    simpa using isExclusive
  have admissible : state.canDispatch config = true := by
    simp [canDispatch, nothingRuns, jobsLeft, notExclusive]
    omega
  have ready : state.isReady work = true := by
    unfold isReady
    split
    · simpa using noSessions _
    · simp [nothingRuns]
  have picked : state.selected config = some 0 := by
    simp [selected, admissible, waiting, List.findIdx?_cons, ready]
  simp [Dispatches, step, dispatching, dispatch, picked, waiting, runWork, noIds]

/-! ### After a failure -/

/-- The item may be dispatched after the other one failed. -/
def MayFollow (failed work : Work) : Prop :=
  ∃ session, failed.sessionId = some session ∧ work.sessionId ≠ some session

theorem mayFollow_of_withoutSiblings {failed work : Work} {pending : List Work}
    (member : work ∈ withoutSiblings failed pending) : MayFollow failed work := by
  obtain ⟨-, passes⟩ := List.mem_filter.mp member
  simp only [Bool.and_eq_true, decide_eq_true_eq] at passes
  obtain ⟨session, ofFailed⟩ := Option.isSome_iff_exists.mp passes.1
  exact ⟨session, ofFailed, fun sameSession => passes.2 (sameSession.trans ofFailed.symm)⟩

/-- Only a discovery adds to the queue. -/
theorem Change.pending_sublist {event : WorkerEvent} (change : Change config state event next)
    (noDiscovery : ∀ result, event ≠ .discovered result) :
    next.pending.Sublist state.pending := by
  cases change with
  | stayed => exact .refl _
  | moved => exact .refl _
  | dropped split | started split =>
      rw [split]
      exact (List.Sublist.refl _).append (List.sublist_cons_self ..)
  | @finished index result front back work found =>
      unfold finish
      rw [found]
      dsimp only
      split
      · exact List.filter_sublist
      · exact .refl _
  | discovered result => exact absurd rfl (noDiscovery result)

theorem runEvents_pending_sublist {between : List WorkerEvent}
    (noDiscovery : ∀ event ∈ between, ∀ result, event ≠ .discovered result) :
    (runEvents (step config) between state).pending.Sublist state.pending := by
  induction between generalizing state with
  | nil => exact .refl _
  | cons event between inductionHypothesis =>
      have first : (state.step config event).pending.Sublist state.pending :=
        (step_change event).pending_sublist (noDiscovery event (List.mem_cons_self ..))
      rw [runEvents_cons]
      apply List.Sublist.trans _ first
      exact inductionHypothesis fun other member =>
        noDiscovery other (List.mem_cons_of_mem _ member)

/-- From a failed attempt to the next discovery no sibling of it is dispatched, and
nothing at all when it was unscoped. -/
def FailuresHoldBack (config : WorkerConfig) (events : List WorkerEvent) : Prop :=
  ∀ front index error between event failed work,
    front ++ .finished index (.error error) :: between ++ [event] <+: events →
    (∀ other ∈ between, ∀ result, other ≠ .discovered result) →
    (runEvents (step config) front start).phase = .awaiting →
    (runEvents (step config) front start).active[index]? = some failed →
    Dispatches config event
      (runEvents (step config) (front ++ .finished index (.error error) :: between) start) work →
    MayFollow failed work

theorem failures_hold_back (events : List WorkerEvent) : FailuresHoldBack config events := by
  intro front index error between event failed work _ noDiscovery awaiting found dispatches
  obtain ⟨earlier, later, waiting, -⟩ := dispatches.takenInOrder
  rw [runEvents_append, runEvents_cons] at waiting
  have stillWaiting := (runEvents_pending_sublist noDiscovery).subset
    (waiting.symm ▸ List.mem_append_right earlier (List.mem_cons_self ..))
  have passed : work ∈ withoutSiblings failed (runEvents (step config) front start).pending := by
    simpa [step, awaiting, finish, found] using stillWaiting
  exact mayFollow_of_withoutSiblings passed

/-! ### Every run -/

/-- What holds of the loop in every state. -/
structure Safe (config : WorkerConfig) (state : Scheduler) : Prop where
  withinConcurrency : state.active.length ≤ config.concurrency
  withinLimit : 0 < config.maxJobs → state.processed + state.active.length ≤ config.maxJobs
  apart : state.active.Pairwise Work.Apart
  alone : ∀ work ∈ state.active, work.sessionId = none → state.active = [work]
  inOrder : ∀ event work, Dispatches config event state work →
    TakenInOrder config event state work
  noSpin : state.phase = .dispatching → state.active = [] → state.pending ≠ [] →
    state.hasJobsLeft config = true → ∃ work, Dispatches config .turn state work

theorem Consistent.safe (consistent : Consistent config state)
    (positive : 1 ≤ config.concurrency) : Safe config state where
  withinConcurrency := consistent.withinConcurrency
  withinLimit := consistent.withinLimit
  apart := consistent.apart
  alone := consistent.alone
  inOrder _ _ dispatches := dispatches.takenInOrder
  noSpin dispatching nothingRuns hasWork jobsLeft := by
    obtain ⟨work, rest, waiting⟩ := List.exists_cons_of_ne_nil hasWork
    exact ⟨work, consistent.dispatches_first positive dispatching nothingRuns waiting jobsLeft⟩

theorem consistent_along (events : List WorkerEvent) :
    HeldAlong (step config) (Consistent config) events start :=
  heldAlong_of_step (fun event _ _ consistent => (step_change event).consistent consistent)
    start_consistent metAlong_trivial

theorem worker_loop_is_safe (config : WorkerConfig) (positive : 1 ≤ config.concurrency)
    (events : List WorkerEvent) :
    HeldAlong (step config) (Safe config) events start ∧ FailuresHoldBack config events :=
  ⟨(consistent_along events).mono fun _ consistent => consistent.safe positive,
    failures_hold_back events⟩

/-- Two siblings and an unscoped item, discovered by a worker with two lanes; the
first attempt fails. -/
def siblingsRun : List WorkerEvent :=
  let first : Work := { id := "1", sessionId := some "s", kind := .execution }
  let second : Work := { id := "2", sessionId := some "s", kind := .sessionLoop }
  let unscoped : Work := { id := "3", sessionId := none, kind := .workflowStep "a" }
  [.discovered (.ok [first, second, unscoped]), .turn, .turn, .finished 0 (.error "lost"), .turn]

theorem siblingsRun_is_safe :
    HeldAlong (step ⟨2, 0, true⟩) (Safe ⟨2, 0, true⟩) siblingsRun start ∧
      FailuresHoldBack ⟨2, 0, true⟩ siblingsRun :=
  worker_loop_is_safe ⟨2, 0, true⟩ (by decide) siblingsRun

end Scheduler

end MandoForge
