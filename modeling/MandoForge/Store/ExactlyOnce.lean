/-
Module: MandoForge.Store.ExactlyOnce
Purpose: What is left of a repeated write: an append under an identifier that is
  stored answers with the stored event, or is refused when it is another event; a
  repeated decline leaves one event for each of its records.
Trusted boundary: none
Main exports: SameIdentity, event_log_contiguous_and_exactly_once
-/
import MandoForge.Store.LogRuns
import Mathlib.Logic.Encodable.Basic
import Mathlib.Logic.Equiv.List

namespace MandoForge

open Foundation

/-- The stored event is the one that is asked for, its identifier and number aside. -/
def SameIdentity (event : SessionEvent) (entry : NewEvent) : Prop :=
  event.actorType = entry.actorType ∧ event.actorId = entry.actorId ∧
    event.sessionId = entry.sessionId ∧ event.eventType = entry.eventType ∧
    event.payload = entry.payload

instance (event : SessionEvent) (entry : NewEvent) : Decidable (SameIdentity event entry) :=
  inferInstanceAs (Decidable (_ ∧ _))

section

variable {store : MemoryStore} {event : SessionEvent} {entry : NewEvent}

theorem validate_same (same : SameIdentity event entry) :
    validateIdempotentEventIdentity event entry = .ok event := if_pos same

theorem validate_different (different : ¬SameIdentity event entry) :
    validateIdempotentEventIdentity event entry =
      .error (.badRequest "idempotent session event identity collision") := if_neg different

theorem sameIdentity_of_validated {validated : SessionEvent}
    (isValid : validateIdempotentEventIdentity event entry = .ok validated) :
    SameIdentity event entry := by
  by_contra different
  rw [validate_different different] at isValid
  cases isValid

/-! ### One event for an identifier -/

theorem find?_of_distinct (distinct : (store.events.map SessionEvent.id).Nodup)
    (stored : event ∈ store.events) :
    store.events.find? (fun other => decide (other.id = event.id)) = some event := by
  cases found : store.events.find? fun other => decide (other.id = event.id) with
  | none =>
      rw [List.find?_eq_none] at found
      exact absurd (found event stored) (by simp)
  | some other =>
      have sameId : other.id = event.id := by simpa using List.find?_some found
      exact congrArg some
        (List.inj_on_of_nodup_map distinct (List.mem_of_find?_eq_some found) stored sameId)

theorem storedOnce_of_stored (distinct : (store.events.map SessionEvent.id).Nodup)
    (stored : event ∈ store.events) : StoredOnce event.id store := by
  have once := List.count_eq_one_of_mem distinct (List.mem_map_of_mem stored)
  rw [List.count, List.countP_map] at once
  unfold StoredOnce
  rw [← once]
  exact List.countP_congr fun other _ => by simp

theorem find?_of_prefix {Item : Type} {front items : List Item} {matched : Item → Bool}
    {item : Item} (isPrefix : front <+: items) (found : front.find? matched = some item) :
    items.find? matched = some item := by
  obtain ⟨rest, rfl⟩ := isPrefix
  rw [List.find?_append, found, Option.some_or]

/-! ### A repeated append -/

/-- What an append that answered left behind. -/
structure Appended (eventId : Uuid) (entry : NewEvent) (event : SessionEvent)
    (store : MemoryStore) : Prop where
  found : store.events.find? (fun other => decide (other.id = eventId)) = some event
  identity : SameIdentity event entry
  session : (store.sessions.find? entry.sessionId).isSome = true

theorem Appended.isId {eventId : Uuid} (appended : Appended eventId entry event store) :
    event.id = eventId := by
  simpa using List.find?_some appended.found

theorem appended_of_answered {now : Timestamp} {claim : Option ClaimFence}
    {queue : ExecutionQueueState} {eventId : Uuid}
    (answered : (appendEventUnderClaim now claim queue eventId true entry store).1 = .ok event) :
    Appended eventId entry event
      (appendEventUnderClaim now claim queue eventId true entry store).2 := by
  have unfenced : (appendEventWithId eventId true entry store).1 = .ok event →
      Appended eventId entry event (appendEventWithId eventId true entry store).2 := by
    intro answered
    rcases appendEventWithId_cases eventId true entry store with
      ⟨⟨error, failed⟩, -⟩ | ⟨existing, inSession, found, identity, kept⟩ |
      ⟨inSession, isNew, appended⟩
    · rw [failed] at answered
      cases answered
    · rw [kept] at answered ⊢
      cases answered
      exact ⟨found, sameIdentity_of_validated identity, Option.isSome_iff_ne_none.mpr inSession⟩
    · rw [appended] at answered ⊢
      cases answered
      refine ⟨?_, ⟨rfl, rfl, rfl, rfl, rfl⟩, Option.isSome_iff_ne_none.mpr inSession⟩
      have unlogged : store.events.find? (fun other => decide (other.id = eventId)) = none := by
        rw [List.find?_eq_none]
        intro other stored isId
        exact isNew rfl (List.mem_map.mpr ⟨other, stored, by simpa using isId⟩)
      rw [List.find?_append, unlogged, Option.none_or]
      simp [newSessionEvent]
  unfold appendEventUnderClaim at answered ⊢
  cases claim with
  | none => exact unfenced answered
  | some fence =>
      dsimp only at answered ⊢
      cases held : lockOwnedClaim now fence queue with
      | error error =>
          rw [held] at answered
          cases answered
      | ok job =>
          rw [held] at answered
          exact unfenced answered

theorem Appended.repeated {eventId : Uuid} {before after : MemoryStore}
    (appended : Appended eventId entry event before)
    (grown : before.events <+: after.events) (stay : SessionsStay before after) :
    appendEventOnce eventId entry after = (.ok event, after) := by
  have inSession : after.sessions.find? entry.sessionId ≠ none :=
    Option.isSome_iff_ne_none.mp (stay _ appended.session)
  simp only [appendEventOnce, appendEventWithId, if_neg inSession, if_true,
    find?_of_prefix grown appended.found, validate_same appended.identity]

/-- An identifier that is stored for another event is refused. -/
theorem appendEventUnderClaim_refused (intact : LogIntact store) (stored : event ∈ store.events)
    (different : ¬SameIdentity event entry) (now : Timestamp) (claim : Option ClaimFence)
    (queue : ExecutionQueueState) :
    ∃ error, appendEventUnderClaim now claim queue event.id true entry store =
      (.error error, store) := by
  have unfenced : ∃ error, appendEventWithId event.id true entry store =
      (.error error, store) := by
    unfold appendEventWithId
    split
    · exact ⟨_, rfl⟩
    · rw [if_pos rfl, find?_of_distinct intact.distinct stored]
      dsimp only
      rw [validate_different different]
      exact ⟨_, rfl⟩
  unfold appendEventUnderClaim
  cases claim with
  | none => exact unfenced
  | some fence =>
      dsimp only
      split
      · exact ⟨_, rfl⟩
      · exact unfenced

/-! ### A repeated decline -/

variable {codec : RecordCodec}

/-- The event of a decline that is logged under its identifier, or the event of the
same identity that an older expiry left. -/
def RecordLogged (current : Approval) (decision : ApprovalStatus) (requested : RequestedEvent)
    (store : MemoryStore) : Prop :=
  requested.id ∈ store.events.map SessionEvent.id ∨
    repairsExpiry current decision = true ∧
      ∃ event ∈ store.events, SameIdentity event requested.entry

theorem recordLogged_of_kept {current : Approval} {decision : ApprovalStatus}
    {requested : RequestedEvent}
    (isKept : (keptEvent (repairsExpiry current decision) requested store).isSome = true) :
    RecordLogged current decision requested store := by
  unfold keptEvent at isKept
  rw [Option.isSome_or, Bool.or_eq_true] at isKept
  rcases isKept with underId | byIdentity
  · obtain ⟨event, stored, isId⟩ := List.find?_isSome.mp underId
    exact .inl (List.mem_map.mpr ⟨event, stored, by simpa using isId⟩)
  · split at byIdentity
    · rename_i legacy
      rw [Bool.and_eq_true] at legacy
      obtain ⟨event, inSession, isValid⟩ := List.find?_isSome.mp byIdentity
      refine .inr ⟨legacy.1, event, (List.mem_filter.mp inSession).1, ?_⟩
      by_contra different
      rw [validate_different different] at isValid
      cases isValid
    · cases byIdentity

theorem RecordLogged.mono {current : Approval} {decision : ApprovalStatus}
    {requested : RequestedEvent} {before after : MemoryStore}
    (logged : RecordLogged current decision requested before)
    (grown : before.events <+: after.events) :
    RecordLogged current decision requested after := by
  rcases logged with underId | ⟨repairs, event, stored, identity⟩
  · exact .inl ((grown.map SessionEvent.id).subset underId)
  · exact .inr ⟨repairs, event, grown.subset stored, identity⟩

/-- A decline that went through logged its records, and once repeated it changes
nothing. -/
theorem decline_logged {now : Timestamp} {approvalId : Uuid} {decision : ApprovalStatus}
    {actorType : String} {current : Approval}
    (found : store.approvals.find? approvalId = some current)
    (declinable : current.status = .pending ∨ current.status = decision)
    {answer : Approval × Option ToolCall × List SessionEvent}
    (answered : (declineApprovalAndToolCall codec now approvalId decision actorType store).1 =
      .ok answer) :
    (∀ requested ∈ requestedEvents codec current decision actorType (boundToolCall current store),
        RecordLogged current decision requested
          (declineApprovalAndToolCall codec now approvalId decision actorType store).2) ∧
      ∀ later, (declineApprovalAndToolCall codec later approvalId decision actorType
          (declineApprovalAndToolCall codec now approvalId decision actorType store).2).2 =
        (declineApprovalAndToolCall codec now approvalId decision actorType store).2 := by
  rcases decline_cases now approvalId decision actorType store with
    ⟨⟨error, failed⟩, -⟩ | ⟨rfl, ⟨other, isOther, settled⟩, -, -⟩ |
    ⟨decides, approval, isApproval, -, isStored, -, declined⟩
  · rw [failed] at answered
    cases answered
  · rw [found] at isOther
    obtain rfl := Option.some.inj isOther
    exact absurd declinable (not_or.mpr settled)
  · rw [found] at isApproval
    obtain rfl := Option.some.inj isApproval
    rw [declined]
    obtain ⟨added, grown, ids⟩ := @declinedStore_eq codec now current decision actorType store
    constructor
    · intro requested member
      by_cases isKept : (keptEvent (repairsExpiry current decision) requested store).isSome
      · refine (recordLogged_of_kept isKept).mono ?_
        rw [grown]
        exact List.prefix_append ..
      · refine .inl ?_
        rw [grown]
        simp only [List.map_append, ids]
        exact List.mem_append_right _ (List.mem_map_of_mem (mem_unkept member isKept))
    · intro later
      obtain ⟨approval, done⟩ :=
        @declinedStore_answered codec now current decision actorType store approvalId decides found
          declinable isStored
      exact done.unchanged later

theorem mapM_ok_of_mem {Item Result : Type} {items : List Item} {results : List Result}
    {check : Item → Except AppError Result} (checked : items.mapM check = .ok results)
    {item : Item} (member : item ∈ items) : ∃ result, check item = .ok result := by
  have each := mapM_eq_ok.mp checked
  clear checked
  induction each with
  | nil => cases member
  | cons head _ inductionHypothesis =>
      rcases List.mem_cons.mp member with rfl | inRest
      · exact ⟨_, head⟩
      · exact inductionHypothesis inRest

/-- A decline that would log an event under the identifier of another one fails. -/
theorem decline_refused (intact : LogIntact store) {approvalId : Uuid}
    {decision : ApprovalStatus} {actorType : String} {current : Approval}
    (found : store.approvals.find? approvalId = some current)
    (declinable : current.status = .pending ∨ current.status = decision)
    {requested : RequestedEvent}
    (member : requested ∈
      requestedEvents codec current decision actorType (boundToolCall current store))
    (stored : event ∈ store.events) (isId : event.id = requested.id)
    (different : ¬SameIdentity event requested.entry) (now : Timestamp) :
    ∃ error, declineApprovalAndToolCall codec now approvalId decision actorType store =
      (.error error, store) := by
  have refused : ∃ error, declineChecks codec current decision actorType store =
      .error error := by
    cases checked : declineChecks codec current decision actorType store with
    | error error => exact ⟨error, rfl⟩
    | ok records =>
        exfalso
        unfold declineChecks at checked
        obtain ⟨toolCall, isToolCall, checked⟩ := bind_eq_ok.mp checked
        obtain ⟨events, eventsChecked, -⟩ := bind_eq_ok.mp checked
        obtain ⟨rfl, -⟩ := existingToolCall_ok isToolCall
        obtain ⟨pair, isPair⟩ := mapM_ok_of_mem eventsChecked member
        have underId := find?_of_distinct intact.distinct stored
        rw [isId] at underId
        simp [existingEvent, keptEvent, underId, validate_different different, Except.map]
          at isPair
  obtain ⟨error, refused⟩ := refused
  unfold declineApprovalAndToolCall
  split
  · exact ⟨_, rfl⟩
  · rw [found]
    dsimp only
    have isDeclinable : ¬(current.status ≠ .pending ∧ current.status ≠ decision) :=
      fun neither => declinable.elim neither.1 neither.2
    rw [if_neg isDeclinable, refused]
    exact ⟨error, rfl⟩

end

/-! ### Every run -/

/-- In every run of the writers: the log of every session is numbered by position and
grows at its end only; with new identifiers, no two events share one.  An event that
was appended once is answered again, after any writes, and stored once; the records of
a decline are stored once, after any writes, and the decline repeated at once changes
nothing.  An identifier that is stored for another event is refused by both, and the
store stays. -/
theorem event_log_contiguous_and_exactly_once (codec : RecordCodec)
    (parseUuid : String → Option Uuid) :
    (∀ writes start, (∀ sessionId, LogNumbered sessionId start) → ∀ sessionId,
      LogNumbered sessionId (storeAfterWrites codec parseUuid writes start) ∧
        eventsOf sessionId start <+:
          eventsOf sessionId (storeAfterWrites codec parseUuid writes start)) ∧
    (codec.CollisionFree → ∀ writes start, LogIntact start →
      DrawsNewAlong codec parseUuid writes start →
        LogIntact (storeAfterWrites codec parseUuid writes start)) ∧
    (codec.CollisionFree → ∀ start, LogIntact start → ∀ now claim queue eventId entry event,
      (appendEventUnderClaim now claim queue eventId true entry start).1 = .ok event →
        ∀ writes, let appended := (appendEventUnderClaim now claim queue eventId true entry start).2
          DrawsNewAlong codec parseUuid writes appended →
            StoredOnce eventId (storeAfterWrites codec parseUuid writes appended) ∧
              appendEventOnce eventId entry (storeAfterWrites codec parseUuid writes appended) =
                (.ok event, storeAfterWrites codec parseUuid writes appended)) ∧
    (∀ store, LogIntact store → ∀ event ∈ store.events, ∀ entry, ¬SameIdentity event entry →
      ∀ now claim queue, ∃ error,
        appendEventUnderClaim now claim queue event.id true entry store =
          (.error error, store)) ∧
    (codec.CollisionFree → ∀ start, LogIntact start → ∀ now approvalId decision actorType current,
      start.approvals.find? approvalId = some current →
      (current.status = .pending ∨ current.status = decision) →
        let declined := (declineApprovalAndToolCall codec now approvalId decision actorType start)
        (∃ answer, declined.1 = .ok answer) →
          (∀ later, (declineApprovalAndToolCall codec later approvalId decision actorType
            declined.2).2 = declined.2) ∧
          ∀ writes, DrawsNewAlong codec parseUuid writes declined.2 →
            ∀ requested ∈ requestedEvents codec current decision actorType
                (boundToolCall current start),
              StoredOnce requested.id (storeAfterWrites codec parseUuid writes declined.2) ∨
                repairsExpiry current decision = true ∧
                  ∃ event ∈ (storeAfterWrites codec parseUuid writes declined.2).events,
                    SameIdentity event requested.entry) ∧
    (∀ store, LogIntact store → ∀ approvalId decision actorType current,
      store.approvals.find? approvalId = some current →
      (current.status = .pending ∨ current.status = decision) →
        ∀ requested ∈ requestedEvents codec current decision actorType
            (boundToolCall current store),
          ∀ event ∈ store.events, event.id = requested.id →
            ¬SameIdentity event requested.entry → ∀ now, ∃ error,
              declineApprovalAndToolCall codec now approvalId decision actorType store =
                (.error error, store)) := by
  refine ⟨?numbered, ?distinct, ?appendedOnce, ?appendRefused, ?declinedOnce, ?declineRefused⟩
  case numbered =>
    intro writes start numbered sessionId
    exact ⟨storeAfterWrites_numbered writes (numbered sessionId),
      (storeAfterWrites_extends writes start).filter _⟩
  case distinct =>
    intro collisionFree writes start intact drawsNew
    exact storeAfterWrites_intact collisionFree intact drawsNew
  case appendedOnce =>
    intro collisionFree start intact now claim queue eventId entry event answered writes appended
      drawsNew
    have left : Appended eventId entry event appended := appended_of_answered answered
    -- the append is itself a write, and draws no identifier
    have appendedIntact : LogIntact appended :=
      @storeAfterWrites_intact codec parseUuid collisionFree
        [.appendEvent now claim queue eventId true entry] start intact
        (metAlong_cons.mpr ⟨nofun, metAlong_nil⟩)
    have grown := @storeAfterWrites_extends codec parseUuid writes appended
    have lastIntact := storeAfterWrites_intact collisionFree appendedIntact drawsNew
    refine ⟨?_, left.repeated grown (storeAfterWrites_sessionsStay writes appended)⟩
    rw [← left.isId]
    exact storedOnce_of_stored lastIntact.distinct
      (grown.subset (List.mem_of_find?_eq_some left.found))
  case appendRefused =>
    intro store intact event stored entry different now claim queue
    exact appendEventUnderClaim_refused intact stored different now claim queue
  case declinedOnce =>
    intro collisionFree start intact now approvalId decision actorType current found declinable
      declined answered
    obtain ⟨answer, answered⟩ := answered
    obtain ⟨logged, unchanged⟩ := decline_logged found declinable answered
    refine ⟨unchanged, fun writes drawsNew requested member => ?_⟩
    have declinedIntact : LogIntact declined.2 :=
      @storeAfterWrites_intact codec parseUuid collisionFree
        [.decline now approvalId decision actorType] start intact
        (metAlong_cons.mpr ⟨trivial, metAlong_nil⟩)
    have lastIntact := storeAfterWrites_intact collisionFree declinedIntact drawsNew
    have stays := (logged requested member).mono
      (@storeAfterWrites_extends codec parseUuid writes declined.2)
    rcases stays with underId | repaired
    · obtain ⟨event, stored, isId⟩ := List.mem_map.mp underId
      rw [← isId]
      exact .inl (storedOnce_of_stored lastIntact.distinct stored)
    · exact .inr repaired
  case declineRefused =>
    intro store intact approvalId decision actorType current found declinable requested member
      event stored isId different now
    exact decline_refused intact found declinable member stored isId different now

/-! ### A note and a rejection -/

/-- Identifiers that number what they are derived from. -/
def numberingCodec : RecordCodec where
  recordId namespaceId kind parts :=
    Encodable.encode (namespaceId, kind.toList.map Char.toNat,
      parts.map fun part => part.toList.map Char.toNat)
  jsonSha256 _ := ""
  printTimestamp _ := ""

theorem numberingCodec_collisionFree : numberingCodec.CollisionFree := by
  intro namespaceId otherId kind otherKind parts otherParts same
  have codes : Function.Injective fun text : String => text.toList.map Char.toNat := by
    intro first second same
    have chars : Function.Injective Char.toNat := fun _ _ same =>
      Char.ext (UInt32.toNat_inj.mp same)
    exact String.toList_inj.mp (List.map_injective_iff.mpr chars same)
  obtain ⟨sameId, rest⟩ := Prod.mk.inj (Encodable.encode_injective same)
  obtain ⟨sameKind, sameParts⟩ := Prod.mk.inj rest
  exact ⟨sameId, codes sameKind, List.map_injective_iff.mpr codes sameParts⟩

def noteApproval : Approval where
  id := 5
  sessionId := 1
  toolCallId := none
  reason := ""
  decisionPayload := .null
  status := .pending
  expiresAt := none
  decidedAt := none

/-- A session with an approval to be decided, and no events. -/
def noteStore : MemoryStore where
  sessions := Table.empty.insert
    { id := 1, status := .running, agentId := 1, agentVersionId := none, environmentId := none }
  workflowRuns := Table.empty
  workflowStepRuns := Table.empty
  taskGrants := Table.empty
  approvals := Table.empty.insert noteApproval

def noteEntry (text : String) : NewEvent := ⟨"user", none, 1, "user.message", .string text⟩

def noteCall : ToolCall where
  id := 7
  sessionId := 1
  eventId := some 11
  toolName := "read_file"
  args := .null
  taskGrantId := none
  normalizedArgsHash := none
  targetBinding := .null
  status := .running
  riskLevel := "low"
  result := none
  error := none

/-- A tool call starts and answers. -/
def noteWrites : List LogWrite :=
  [.commitToolInvocationStart 0 ⟨12, 13, 14⟩ noteCall 1 1,
    .commitToolInvocationResult ⟨15, 16, 17⟩ 7 .completed .null "manual"]

def notedStore : MemoryStore :=
  (appendEventUnderClaim 0 none MemoryExecutionQueue.empty 10 true (noteEntry "first")
    noteStore).2

def lastStore : MemoryStore :=
  storeAfterWrites numberingCodec (fun _ => none) noteWrites notedStore

def rejectedStore : MemoryStore :=
  (declineApprovalAndToolCall numberingCodec 0 5 .rejected "user" noteStore).2

/-- The store with a note where the event of the rejection belongs. -/
def occupiedStore : MemoryStore :=
  storeAfterWrites numberingCodec (fun _ => none)
    [.appendEvent 0 none MemoryExecutionQueue.empty
      (approvalEventId numberingCodec noteApproval .rejected) true (noteEntry "first")] noteStore

theorem noteStore_intact : LogIntact noteStore :=
  ⟨fun _ => logNumbered_of_empty rfl, List.nodup_nil⟩

/-- A note that is appended before and after a tool call is stored once and cannot be
replaced; a rejection is recorded once, and fails where its record would replace a
note. -/
theorem note_and_rejection_stored_once :
    (LogIntact lastStore ∧ StoredOnce 10 lastStore ∧
        appendEventOnce 10 (noteEntry "first") lastStore =
          (.ok (newSessionEvent 10 (noteEntry "first") noteStore), lastStore) ∧
        ∃ error, appendEventUnderClaim 0 none MemoryExecutionQueue.empty 10 true
          (noteEntry "second") lastStore = (.error error, lastStore)) ∧
      (StoredOnce (approvalEventId numberingCodec noteApproval .rejected) rejectedStore ∧
        (declineApprovalAndToolCall numberingCodec 9 5 .rejected "user" rejectedStore).2 =
          rejectedStore) ∧
      ∃ error, declineApprovalAndToolCall numberingCodec 0 5 .rejected "user" occupiedStore =
        (.error error, occupiedStore) := by
  obtain ⟨-, distinct, appendedOnce, appendRefused, declinedOnce, declineRefused⟩ :=
    event_log_contiguous_and_exactly_once numberingCodec fun _ => none
  have notedIntact : LogIntact notedStore :=
    distinct numberingCodec_collisionFree
      [.appendEvent 0 none MemoryExecutionQueue.empty 10 true (noteEntry "first")] noteStore
      noteStore_intact (metAlong_cons.mpr ⟨nofun, metAlong_nil⟩)
  have drawsNew : DrawsNewAlong numberingCodec (fun _ => none) noteWrites notedStore := by
    unfold DrawsNewAlong
    decide +kernel
  have lastIntact : LogIntact lastStore :=
    distinct numberingCodec_collisionFree noteWrites notedStore notedIntact drawsNew
  have once := appendedOnce numberingCodec_collisionFree noteStore noteStore_intact 0 none
    MemoryExecutionQueue.empty 10 (noteEntry "first") _ rfl noteWrites drawsNew
  have noted : newSessionEvent 10 (noteEntry "first") noteStore ∈ lastStore.events := by
    decide +kernel
  have rejected := declinedOnce numberingCodec_collisionFree noteStore noteStore_intact 0 5
    .rejected "user" noteApproval rfl (.inl rfl) ⟨_, rfl⟩
  have recorded := rejected.2 [] metAlong_nil
    (declinedApprovalEvent numberingCodec noteApproval .rejected "user") List.mem_cons_self
  have occupiedIntact : LogIntact occupiedStore :=
    distinct numberingCodec_collisionFree _ noteStore noteStore_intact
      (metAlong_cons.mpr ⟨nofun, metAlong_nil⟩)
  refine ⟨⟨lastIntact, once.1, once.2, ?_⟩, ⟨?_, rejected.1 9⟩, ?_⟩
  · exact appendRefused lastStore lastIntact _ noted (noteEntry "second") (by decide +kernel)
      0 none MemoryExecutionQueue.empty
  · exact recorded.resolve_right fun repaired => nomatch repaired.1
  · exact declineRefused occupiedStore occupiedIntact 5 .rejected "user" noteApproval rfl
      (.inl rfl) (declinedApprovalEvent numberingCodec noteApproval .rejected "user")
      List.mem_cons_self
      (newSessionEvent (approvalEventId numberingCodec noteApproval .rejected)
        (noteEntry "first") noteStore)
      List.mem_cons_self rfl (fun same => by simp [SameIdentity, newSessionEvent, noteEntry,
        declinedApprovalEvent] at same) 0

end MandoForge
