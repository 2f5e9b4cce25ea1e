/-
Module: MandoForge.Worker.Scheduler
Purpose: The loop of the worker process: it takes work from the queue of the last
  discovery, runs several attempts at a time, at most one a session, and asks for
  work again when nothing is left.
Trusted boundary: discoveries, the attempts and their order are events from
  outside.  Time is left out: `refresh_at` fires at any moment, and a wait before a
  discovery (`refresh_after_completion`) is part of the idle phase.
Main exports: Work, Scheduler
-/
import Mathlib.Data.Finset.Basic
import Mathlib.Data.List.Basic

namespace MandoForge

inductive WorkKind
  | sessionLoop
  | execution
  | workflowStep (agentId : String)
  deriving DecidableEq, Repr

structure Work where
  id : String
  sessionId : Option String
  kind : WorkKind
  deriving DecidableEq, Repr

def Work.route (work : Work) : String :=
  match work.kind with
  | .sessionLoop => "session-loop-jobs"
  | .execution => "execution-jobs"
  | .workflowStep _ => "workflow-step-runs"

def Work.key (work : Work) : String :=
  work.route ++ "/" ++ work.id

/-- The message of an `anyhow::Error`. -/
abbrev WorkerFailure := String

/-- The arguments of `run_worker`; a limit of no jobs is no limit. -/
structure WorkerConfig where
  concurrency : Nat
  maxJobs : Nat
  runOnce : Bool
  deriving DecidableEq, Repr

/-- Where `run_worker` stands. -/
inductive SchedulerPhase
  /-- Before the first discovery. -/
  | starting
  /-- At the head of the dispatch loop. -/
  | dispatching
  /-- In `select!`, with attempts under way. -/
  | awaiting
  /-- With nothing to do, before the next discovery. -/
  | idle
  | returned (result : Except WorkerFailure Nat)

/-- The variables of `run_worker`. -/
structure Scheduler where
  phase : SchedulerPhase
  pending : List Work
  active : List Work
  activeIds : Finset String
  activeSessions : Finset String
  exclusive : Bool
  processed : Nat
  lastFailure : Option WorkerFailure

def Scheduler.start : Scheduler where
  phase := .starting
  pending := []
  active := []
  activeIds := ∅
  activeSessions := ∅
  exclusive := false
  processed := 0
  lastFailure := none

namespace Scheduler

variable (config : WorkerConfig) (state : Scheduler)

/-! ### The dispatch loop -/

def hasJobsLeft : Bool :=
  config.maxJobs == 0 || decide (state.processed + state.active.length < config.maxJobs)

def canDispatch : Bool :=
  decide (state.active.length < config.concurrency) && state.hasJobsLeft config &&
    !state.exclusive

/-- The item may run next to the active ones. -/
def isReady (work : Work) : Bool :=
  match work.sessionId with
  | some session => decide (session ∉ state.activeSessions)
  | none => state.active.isEmpty

/-- The position the dispatch loop takes work from; `none` where it is left. -/
def selected : Option Nat :=
  if state.canDispatch config then
    match state.pending.findIdx? state.isReady with
    | none => none
    | some index =>
        -- Unscoped work must not starve: nothing overtakes it.
        if (state.pending.take index).any (fun work => work.sessionId.isNone) then none
        else some index
  else none

/-- The pass of the loop for the item at the position: it runs, unless its key does. -/
def runWork (index : Nat) (work : Work) : Scheduler :=
  let rest := { state with pending := state.pending.eraseIdx index }
  if work.key ∈ state.activeIds then rest
  else
    { rest with
      activeIds := insert work.key state.activeIds
      activeSessions :=
        match work.sessionId with
        | some session => insert session state.activeSessions
        | none => state.activeSessions
      exclusive :=
        match work.sessionId with
        | some _ => state.exclusive
        | none => true
      active := state.active ++ [work] }

/-- The part of the outer loop between the dispatch loop and `select!`. -/
def leaveDispatch : Scheduler :=
  if state.active.isEmpty then
    if (decide (0 < config.maxJobs) && decide (config.maxJobs ≤ state.processed)) ||
        (config.runOnce && state.pending.isEmpty) then
      { state with
        phase := .returned <| match state.lastFailure with
          | some error => .error error
          | none => .ok state.processed }
    else if !state.pending.isEmpty then state
    else { state with phase := .idle }
  else { state with phase := .awaiting }

/-- One pass of the dispatch loop, or the way out of it. -/
def dispatch : Scheduler :=
  match state.selected config with
  | none => state.leaveDispatch config
  | some index =>
      match state.pending[index]? with
      | none => state
      | some work => state.runWork index work

/-! ### Completions and discoveries -/

/-- What may still be dispatched after the attempt failed: no sibling of it. -/
def withoutSiblings (failed : Work) (pending : List Work) : List Work :=
  pending.filter fun work => failed.sessionId.isSome && decide (work.sessionId ≠ failed.sessionId)

/-- The first arm of `select!`, for the attempt of the active item. -/
def finish (index : Nat) (result : Except WorkerFailure Bool) : Scheduler :=
  match state.active[index]? with
  | none => state
  | some work =>
      { phase := .dispatching
        pending :=
          match result with
          | .error _ => withoutSiblings work state.pending
          | .ok _ => state.pending
        active := state.active.eraseIdx index
        activeIds := state.activeIds.erase work.key
        activeSessions :=
          match work.sessionId with
          | some session => state.activeSessions.erase session
          | none => state.activeSessions
        exclusive :=
          match work.sessionId with
          | some _ => state.exclusive
          | none => false
        processed :=
          match result with
          | .ok true | .error _ => state.processed + 1
          | .ok false => state.processed
        lastFailure :=
          match result with
          | .error error => some error
          | .ok _ => state.lastFailure }

/-- The work whose key was not seen before. -/
def unseen (seen : Finset String) : List Work → List Work
  | [] => []
  | work :: rest =>
      if work.key ∈ seen then unseen seen rest
      else work :: unseen (insert work.key seen) rest

/-- What a discovery found; a failed one counts as an empty one. -/
def found (result : Except WorkerFailure (List Work)) : List Work :=
  match result with
  | .ok work => work
  | .error _ => []

/-- The end of a discovery: the first one, the one of an idle worker, or the one of
the timer in `select!`. -/
def discover (result : Except WorkerFailure (List Work)) : Scheduler :=
  match state.phase, result with
  | .starting, .error error =>
      if config.runOnce then { state with phase := .returned (.error error) }
      else { state with phase := .dispatching }
  | .starting, .ok work | .idle, .ok work =>
      { state with phase := .dispatching, pending := work }
  | .idle, .error _ => { state with phase := .dispatching, pending := [] }
  | .awaiting, result =>
      if config.runOnce then state
      else
        { state with
          phase := .dispatching
          pending := unseen state.activeIds (found result) }
  | _, _ => state

end Scheduler

inductive WorkerEvent
  /-- The loop runs on by itself. -/
  | turn
  /-- The attempt of the active item at the position ends. -/
  | finished (index : Nat) (result : Except WorkerFailure Bool)
  | discovered (result : Except WorkerFailure (List Work))

/-- One event.  One that the phase has no place for is passed over. -/
def Scheduler.step (config : WorkerConfig) (event : WorkerEvent) (state : Scheduler) : Scheduler :=
  match event, state.phase with
  | .turn, .dispatching => state.dispatch config
  | .finished index result, .awaiting => state.finish index result
  | .discovered result, _ => state.discover config result
  | _, _ => state

end MandoForge
