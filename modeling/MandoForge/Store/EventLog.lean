/-
Module: MandoForge.Store.EventLog
Purpose: How the log of a session grows: every writer appends requested events at
  the end, numbered by position.
Trusted boundary: none
Main exports: RequestedEvent, LogNumbered
-/
import MandoForge.Store.Execution

namespace MandoForge

/-- The log of the session is numbered by position. -/
def LogNumbered (sessionId : Uuid) (store : MemoryStore) : Prop :=
  ∀ (index : Nat) event, (eventsOf sessionId store)[index]? = some event →
    event.seq = (index : Int) + 1

theorem seq_le_of_numbered {sessionId : Uuid} {store : MemoryStore} {event : SessionEvent}
    (numbered : LogNumbered sessionId store) (member : event ∈ eventsOf sessionId store) :
    event.seq ≤ (eventsOf sessionId store).length := by
  obtain ⟨index, inside, rfl⟩ := List.mem_iff_getElem.mp member
  rw [numbered index _ (List.getElem?_eq_getElem inside)]
  exact Int.ofNat_le.mpr inside

/-- An event to be logged under an identifier of its own. -/
structure RequestedEvent where
  id : Uuid
  entry : NewEvent
deriving DecidableEq, Repr

/-- The requested events at the end of the log, one after the other. -/
def appendRequested : List RequestedEvent → MemoryStore → MemoryStore
  | [], store => store
  | requested :: rest, store =>
      appendRequested rest
        { store with events := store.events ++ [newSessionEvent requested.id requested.entry store] }

section

variable {store : MemoryStore} {sessionId : Uuid}

theorem appendRequested_events (requests : List RequestedEvent) (store : MemoryStore) :
    ∃ added, appendRequested requests store = { store with events := store.events ++ added } ∧
      added.map SessionEvent.id = requests.map RequestedEvent.id := by
  induction requests generalizing store with
  | nil => exact ⟨[], by simp [appendRequested], rfl⟩
  | cons requested rest inductionHypothesis =>
      obtain ⟨added, grown, ids⟩ := inductionHypothesis
        { store with events := store.events ++ [newSessionEvent requested.id requested.entry store] }
      refine ⟨newSessionEvent requested.id requested.entry store :: added, ?_, ?_⟩
      · rw [appendRequested, grown, List.append_assoc, List.singleton_append]
      · rw [List.map_cons, List.map_cons, ids]
        rfl

theorem appendRequested_prefix (requests : List RequestedEvent) (store : MemoryStore) :
    store.events <+: (appendRequested requests store).events := by
  obtain ⟨added, grown, -⟩ := appendRequested_events requests store
  rw [grown]
  exact List.prefix_append ..

theorem appendRequested_ids (requests : List RequestedEvent) (store : MemoryStore) :
    (appendRequested requests store).events.map SessionEvent.id =
      store.events.map SessionEvent.id ++ requests.map RequestedEvent.id := by
  obtain ⟨added, grown, ids⟩ := appendRequested_events requests store
  rw [grown, List.map_append, ids]

theorem LogNumbered.of_events_eq {other : MemoryStore} (numbered : LogNumbered sessionId store)
    (same : other.events = store.events) : LogNumbered sessionId other := by
  unfold LogNumbered eventsOf at numbered ⊢
  rw [same]
  exact numbered

/-- A new event carries the next number of its session. -/
theorem LogNumbered.append (numbered : LogNumbered sessionId store) (eventId : Uuid)
    (entry : NewEvent) :
    LogNumbered sessionId
      { store with events := store.events ++ [newSessionEvent eventId entry store] } := by
  intro index event isEvent
  have extended : eventsOf sessionId
      { store with events := store.events ++ [newSessionEvent eventId entry store] } =
        eventsOf sessionId store ++
          (if entry.sessionId = sessionId then [newSessionEvent eventId entry store] else []) := by
    unfold eventsOf
    rw [List.filter_append]
    congr 1
    by_cases sameSession : entry.sessionId = sessionId <;>
      simp [newSessionEvent, sameSession]
  rw [extended] at isEvent
  by_cases inside : index < (eventsOf sessionId store).length
  · rw [List.getElem?_append_left inside] at isEvent
    exact numbered index event isEvent
  · rw [List.getElem?_append_right (Nat.le_of_not_lt inside)] at isEvent
    split at isEvent
    · rename_i sameSession
      have isFirst : index - (eventsOf sessionId store).length = 0 := by
        by_contra later
        rw [List.getElem?_singleton, if_neg later] at isEvent
        cases isEvent
      obtain rfl : newSessionEvent eventId entry store = event := by
        simpa [isFirst] using isEvent
      have position : index = (eventsOf sessionId store).length := by omega
      rw [position, ← sameSession]
      rfl
    · cases isEvent

theorem LogNumbered.appendRequested (requests : List RequestedEvent)
    (numbered : LogNumbered sessionId store) :
    LogNumbered sessionId (appendRequested requests store) := by
  induction requests generalizing store with
  | nil => exact numbered
  | cons requested rest inductionHypothesis =>
      exact inductionHypothesis (numbered.append requested.id requested.entry)

theorem logNumbered_of_empty (isEmpty : store.events = []) : LogNumbered sessionId store := by
  intro index event isEvent
  simp [eventsOf, isEmpty] at isEvent

end

end MandoForge
