/-
Module: MandoForge.Store.LogRuns
Purpose: The writers of the event log in any order: the log of every session stays
  numbered by position and grows at its end only, an event that is appended once is
  stored once however often and whenever it is appended again, and an identifier
  that is used for something else is refused.
Trusted boundary: a write is one critical section of the store's lock.  Identifiers
  that are drawn at random are new, and derived ones collide only when they are
  derived from the same record and texts.
Main exports: LogWrite, LogIntact
-/
import MandoForge.Approval.Decline
import MandoForge.Foundation.Runs
import MandoForge.Store.ToolCalls

namespace MandoForge

open Foundation

/-! ### Writes -/

/-- `append_event_with_id`, behind the claim if there is one. -/
def appendEventUnderClaim (now : Timestamp) (claim : Option ClaimFence)
    (queue : ExecutionQueueState) (eventId : Uuid) (idempotent : Bool) (entry : NewEvent)
    (store : MemoryStore) : Except AppError SessionEvent × MemoryStore :=
  match claim with
  | none => appendEventWithId eventId idempotent entry store
  | some fence =>
      match lockOwnedClaim now fence queue with
      | .error error => (.error error, store)
      | .ok _ => appendEventWithId eventId idempotent entry store

def appendEventOnce (eventId : Uuid) (entry : NewEvent) (store : MemoryStore) :
    Except AppError SessionEvent × MemoryStore :=
  appendEventWithId eventId true entry store

/-- A call of a writer of the log, with the clock it reads, the queue it finds and
the identifiers it draws. -/
inductive LogWrite where
  | appendEvent (now : Timestamp) (claim : Option ClaimFence) (queue : ExecutionQueueState)
      (eventId : Uuid) (idempotent : Bool) (entry : NewEvent)
  | commitProviderCompletion (ids : CompletionIds) (completion : ProviderCompletion)
  | commitToolInvocationStart (now : Timestamp) (ids : StartIds) (toolCall : ToolCall)
      (agentVersionId : Uuid) (agentVersion : Int)
  | commitToolInvocationResult (ids : ResultIds) (toolCallId : Uuid) (status : ToolCallStatus)
      (result : Json) (origin : String)
  | commitApprovedOntologyActionProposal (now : Timestamp) (queue : ExecutionQueueState)
      (proposal : OntologyProposal)
  | decline (now : Timestamp) (approvalId : Uuid) (decision : ApprovalStatus)
      (actorType : String)
deriving DecidableEq

section

variable (codec : RecordCodec) (parseUuid : String → Option Uuid)

def storeAfterWrite (write : LogWrite) (store : MemoryStore) : MemoryStore :=
  match write with
  | .appendEvent now claim queue eventId idempotent entry =>
      (appendEventUnderClaim now claim queue eventId idempotent entry store).2
  | .commitProviderCompletion ids completion => (commitProviderCompletion ids completion store).2
  | .commitToolInvocationStart now ids toolCall agentVersionId agentVersion =>
      (commitToolInvocationStartWithRecords now ids toolCall agentVersionId agentVersion store).2
  | .commitToolInvocationResult ids toolCallId status result origin =>
      (commitToolInvocationResult ids toolCallId status result origin store).2
  | .commitApprovedOntologyActionProposal now queue proposal =>
      (commitApprovedOntologyActionProposal codec parseUuid now queue proposal store).2
  | .decline now approvalId decision actorType =>
      (declineApprovalAndToolCall codec now approvalId decision actorType store).2

/-- The store after a run of writes. -/
def storeAfterWrites (writes : List LogWrite) (start : MemoryStore) : MemoryStore :=
  runEvents (storeAfterWrite codec parseUuid) writes start

end

/-! ### Identifiers -/

/-- Derived identifiers are the same only for the same record, kind and texts. -/
def RecordCodec.CollisionFree (codec : RecordCodec) : Prop :=
  ∀ {namespaceId otherId : Uuid} {kind otherKind : String} {parts otherParts : List String},
    codec.recordId namespaceId kind parts = codec.recordId otherId otherKind otherParts →
      namespaceId = otherId ∧ kind = otherKind ∧ parts = otherParts

/-- No event is stored under any of the identifiers, and no two of them are equal. -/
def NewIds (ids : List Uuid) (store : MemoryStore) : Prop :=
  ids.Nodup ∧ ∀ id ∈ ids, id ∉ store.events.map SessionEvent.id

instance (ids : List Uuid) (store : MemoryStore) : Decidable (NewIds ids store) :=
  inferInstanceAs (Decidable (_ ∧ _))

/-- The identifiers that a write draws at random, or that its caller drew for it, are
new. -/
def DrawsNew : LogWrite → MemoryStore → Prop
  | .appendEvent _ _ _ eventId idempotent _, store =>
      idempotent = false → NewIds [eventId] store
  | .commitProviderCompletion ids completion, store =>
      NewIds (completion.toolCall.eventId.toList ++
        [ids.toolUse, ids.result, ids.goal, ids.thread, ids.session]) store
  | .commitToolInvocationStart _ ids toolCall _ _, store =>
      NewIds (ids.checked :: (toolCall.eventId.toList ++ [ids.toolUse])) store
  | .commitToolInvocationResult ids _ _ _ _, store => NewIds [ids.result, ids.agentResult] store
  | .commitApprovedOntologyActionProposal .., _ => True
  | .decline .., _ => True

instance : ∀ write store, Decidable (DrawsNew write store)
  | .appendEvent _ _ _ _ _ _, _ => inferInstanceAs (Decidable (_ → _))
  | .commitProviderCompletion _ _, _ => inferInstanceAs (Decidable (NewIds _ _))
  | .commitToolInvocationStart _ _ _ _ _, _ => inferInstanceAs (Decidable (NewIds _ _))
  | .commitToolInvocationResult _ _ _ _ _, _ => inferInstanceAs (Decidable (NewIds _ _))
  | .commitApprovedOntologyActionProposal .., _ => isTrue trivial
  | .decline .., _ => isTrue trivial

/-- Every session's log is numbered by position, and no two events share an
identifier. -/
structure LogIntact (store : MemoryStore) : Prop where
  numbered : ∀ sessionId, LogNumbered sessionId store
  distinct : (store.events.map SessionEvent.id).Nodup

/-- Exactly one event is stored under the identifier. -/
def StoredOnce (eventId : Uuid) (store : MemoryStore) : Prop :=
  store.events.countP (fun event => decide (event.id = eventId)) = 1

/-! ### What requested events do to the log -/

section

variable {store other : MemoryStore} {sessionId : Uuid}

theorem appendRequested_congr (same : store.events = other.events)
    (requests : List RequestedEvent) :
    (appendRequested requests store).events = (appendRequested requests other).events := by
  induction requests generalizing store other with
  | nil => exact same
  | cons requested rest inductionHypothesis =>
      apply inductionHypothesis
      have sameEvent : newSessionEvent requested.id requested.entry store =
          newSessionEvent requested.id requested.entry other := by
        simp only [newSessionEvent, eventsOf, same]
      change store.events ++ [_] = other.events ++ [_]
      rw [same, sameEvent]

/-- The events that a write appends. -/
def Logged (requests : List RequestedEvent) (before after : MemoryStore) : Prop :=
  after.events = (appendRequested requests before).events

theorem logged_nil (same : other.events = store.events) : Logged [] store other := same

theorem Logged.prefix {requests : List RequestedEvent} (logged : Logged requests store other) :
    store.events <+: other.events := by
  rw [logged]
  exact appendRequested_prefix requests store

theorem Logged.numbered {requests : List RequestedEvent} (logged : Logged requests store other)
    (numbered : LogNumbered sessionId store) : LogNumbered sessionId other :=
  (numbered.appendRequested requests).of_events_eq logged

theorem Logged.distinct {requests : List RequestedEvent} (logged : Logged requests store other)
    (new : NewIds (requests.map RequestedEvent.id) store)
    (distinct : (store.events.map SessionEvent.id).Nodup) :
    (other.events.map SessionEvent.id).Nodup := by
  rw [logged, appendRequested_ids, List.nodup_append]
  refine ⟨distinct, new.1, ?_⟩
  rintro id stored _ requested rfl
  exact new.2 id requested stored

theorem NewIds.sublist {ids some : List Uuid} (new : NewIds ids store)
    (sublist : some.Sublist ids) : NewIds some store :=
  ⟨new.1.sublist sublist, fun id member => new.2 id (sublist.subset member)⟩

theorem insertRecords_events (toolCall : ToolCall) (audits : List AuditLog)
    (store : MemoryStore) : (insertRecords toolCall audits store).events = store.events := rfl

/-! ### What each writer appends -/

/-- A write appends events, under new identifiers if it drew new ones. -/
def AppendsNew (drawsNew : Prop) (before after : MemoryStore) : Prop :=
  ∃ requests, Logged requests before after ∧
    (drawsNew → NewIds (requests.map RequestedEvent.id) before)

theorem appendsNew_nothing {drawsNew : Prop} (same : other.events = store.events) :
    AppendsNew drawsNew store other :=
  ⟨[], logged_nil same, fun _ => ⟨List.nodup_nil, by simp⟩⟩

/-- An append fails or finds the event, and leaves the store; or the event is new. -/
theorem appendEventWithId_cases (eventId : Uuid) (idempotent : Bool) (entry : NewEvent)
    (store : MemoryStore) :
    ((∃ error, (appendEventWithId eventId idempotent entry store).1 = .error error) ∧
      (appendEventWithId eventId idempotent entry store).2 = store) ∨
    (∃ existing, store.sessions.find? entry.sessionId ≠ none ∧
      store.events.find? (fun event => decide (event.id = eventId)) = some existing ∧
      validateIdempotentEventIdentity existing entry = .ok existing ∧
      appendEventWithId eventId idempotent entry store = (.ok existing, store)) ∨
    (store.sessions.find? entry.sessionId ≠ none ∧
      (idempotent = true → eventId ∉ store.events.map SessionEvent.id) ∧
      appendEventWithId eventId idempotent entry store =
        (.ok (newSessionEvent eventId entry store),
          { store with events := store.events ++ [newSessionEvent eventId entry store] })) := by
  unfold appendEventWithId
  split
  · exact .inl ⟨⟨_, rfl⟩, rfl⟩
  · rename_i inSession
    split
    · rename_i existing found
      split at found
      · cases identity : validateIdempotentEventIdentity existing entry with
        | error error => exact .inl ⟨⟨error, rfl⟩, rfl⟩
        | ok event =>
            obtain rfl : existing = event := by
              unfold validateIdempotentEventIdentity at identity
              split at identity
              · exact Except.ok.inj identity
              · cases identity
            exact .inr (.inl ⟨existing, inSession, found, identity, rfl⟩)
      · cases found
    · rename_i notFound
      refine .inr (.inr ⟨inSession, ?_, rfl⟩)
      rintro rfl logged
      obtain ⟨event, member, isId⟩ := List.mem_map.mp logged
      rw [if_pos rfl, List.find?_eq_none] at notFound
      exact notFound event member (by simp [isId])

theorem appendEventUnderClaim_appends (now : Timestamp) (claim : Option ClaimFence)
    (queue : ExecutionQueueState) (eventId : Uuid) (idempotent : Bool) (entry : NewEvent)
    (store : MemoryStore) :
    AppendsNew (idempotent = false → NewIds [eventId] store) store
      (appendEventUnderClaim now claim queue eventId idempotent entry store).2 := by
  have appends : AppendsNew (idempotent = false → NewIds [eventId] store) store
      (appendEventWithId eventId idempotent entry store).2 := by
    rcases appendEventWithId_cases eventId idempotent entry store with
      ⟨-, same⟩ | ⟨existing, -, -, -, same⟩ | ⟨-, isNew, appended⟩
    · exact appendsNew_nothing (congrArg MemoryStore.events same)
    · rw [same]
      exact appendsNew_nothing rfl
    · rw [appended]
      refine ⟨[⟨eventId, entry⟩], rfl, fun drawsNew => ?_⟩
      cases idempotent with
      | false => exact drawsNew rfl
      | true => exact ⟨List.nodup_singleton _, by simpa using isNew rfl⟩
  unfold appendEventUnderClaim
  cases claim with
  | none => exact appends
  | some fence =>
      dsimp only
      split
      · exact appendsNew_nothing rfl
      · exact appends

theorem providerCompletionChecks_ok {completion : ProviderCompletion} {callEventId : Uuid}
    {goalType : String} {session : Session} {thread : SessionThread}
    (checked : providerCompletionChecks completion store =
      .ok (callEventId, goalType, session, thread)) :
    completion.toolCall.eventId = some callEventId ∧
      store.sessions.find? completion.toolCall.sessionId = some session := by
  obtain ⟨eventId, named, checked⟩ := bind_eq_ok.mp checked
  obtain ⟨goal, _, checked⟩ := bind_eq_ok.mp checked
  obtain ⟨found, isFound, checked⟩ := bind_eq_ok.mp checked
  obtain ⟨_, checked⟩ := guardThen_eq_ok.mp checked
  obtain ⟨_, checked⟩ := guardThen_eq_ok.mp checked
  obtain ⟨_, _, checked⟩ := bind_eq_ok.mp checked
  obtain ⟨rfl, rfl, rfl, rfl⟩ : eventId = callEventId ∧ goal = goalType ∧ found = session ∧ _ := by
    simpa [pure, Except.pure] using checked
  exact ⟨okOr_eq_ok.mp named, okOr_eq_ok.mp isFound⟩

theorem commitProviderCompletion_appends (ids : CompletionIds) (completion : ProviderCompletion)
    (store : MemoryStore) :
    AppendsNew (NewIds (completion.toolCall.eventId.toList ++
        [ids.toolUse, ids.result, ids.goal, ids.thread, ids.session]) store) store
      (commitProviderCompletion ids completion store).2 := by
  unfold commitProviderCompletion
  split
  · exact appendsNew_nothing rfl
  · rename_i callEventId goalType session thread checked
    obtain ⟨named, -⟩ := providerCompletionChecks_ok checked
    dsimp only
    refine ⟨_, (insertRecords_events _ _ _).trans (appendRequested_congr (by rfl) _),
      fun drawsNew => drawsNew.sublist ?_⟩
    rw [named]
    split
    · -- the thread keeps its status, and the identifier for its event is not used
      exact .cons_cons _ (.cons_cons _ (.cons_cons _ (.cons_cons _ (.cons _ (.cons_cons _ .slnil)))))
    · exact List.Sublist.refl _

/-- Only the grants differ. -/
def GrantsOnly (before after : MemoryStore) : Prop :=
  ∃ taskGrants, after = { before with taskGrants := taskGrants }

theorem GrantsOnly.events {before after : MemoryStore} (grantsOnly : GrantsOnly before after) :
    after.events = before.events := by
  obtain ⟨_, rfl⟩ := grantsOnly
  rfl

theorem GrantsOnly.refl (store : MemoryStore) : GrantsOnly store store := ⟨_, rfl⟩

theorem refuseGrant_grantsOnly {Result : Type} (grantId : Uuid) (denial : String × Bool)
    (store : MemoryStore) :
    GrantsOnly store (@refuseGrant Result grantId denial store).2 := by
  unfold refuseGrant
  dsimp only
  split
  · exact ⟨_, rfl⟩
  · exact .refl store

theorem admitLineage_grantsOnly (reservation : TaskGrantReservation) (now : Timestamp)
    (check : TaskGrant → Except AppError Unit) (store : MemoryStore) (lineage : List TaskGrant) :
    GrantsOnly store (admitLineage reservation now check store lineage).2 := by
  induction lineage with
  | nil => exact .refl store
  | cons grant rest inductionHypothesis =>
      unfold admitLineage
      split
      · exact refuseGrant_grantsOnly _ _ _
      · split
        · exact .refl store
        · exact inductionHypothesis

theorem chargeToolCalls_grantsOnly (lineage : List TaskGrant) (store : MemoryStore) :
    GrantsOnly store (chargeToolCalls lineage store) := by
  induction lineage generalizing store with
  | nil => exact .refl store
  | cons grant rest inductionHypothesis =>
      obtain ⟨taskGrants, charged⟩ := inductionHypothesis
        { store with taskGrants := store.taskGrants.modify grant.id TaskGrant.addToolCall }
      exact ⟨taskGrants, charged⟩

theorem GrantsOnly.trans {middle : MemoryStore} (first : GrantsOnly store middle)
    (second : GrantsOnly middle other) : GrantsOnly store other := by
  obtain ⟨_, rfl⟩ := first
  obtain ⟨taskGrants, rfl⟩ := second
  exact ⟨taskGrants, rfl⟩

/-- The reservation of a start changes grants only, and answers with the call it was
given, which has an event id. -/
theorem commitToolInvocationStart_spec (now : Timestamp) (toolCall : ToolCall)
    (store : MemoryStore) :
    GrantsOnly store (commitToolInvocationStart now toolCall store).2 ∧
      ∀ call taskGrant, (commitToolInvocationStart now toolCall store).1 =
        .ok (call, taskGrant) → call = toolCall := by
  unfold commitToolInvocationStart
  split
  · exact ⟨.refl store, fun _ _ answered => by cases answered⟩
  · split
    · exact ⟨.refl store, fun _ _ answered => by cases answered⟩
    · split
      · split
        · exact ⟨.refl store, fun _ _ answered => by cases answered⟩
        · refine ⟨.refl store, fun _ _ answered => ?_⟩
          cases answered
          rfl
      · rename_i grantId _
        split
        · exact ⟨.refl store, fun _ _ answered => by cases answered⟩
        · rename_i lineage _
          have admits := admitLineage_grantsOnly .toolCall now (toolCallGrantCheck store) store
            lineage
          split
          · rename_i admitted
            rw [admitted] at admits
            exact ⟨admits, fun _ _ answered => by cases answered⟩
          · rename_i admitted
            rw [admitted] at admits
            have charges := admits.trans (chargeToolCalls_grantsOnly lineage _)
            split
            · exact ⟨charges, fun _ _ answered => by cases answered⟩
            · refine ⟨charges, fun _ _ answered => ?_⟩
              cases answered
              rfl

theorem commitToolInvocationStart_appends (now : Timestamp) (ids : StartIds)
    (toolCall : ToolCall) (agentVersionId : Uuid) (agentVersion : Int) (store : MemoryStore) :
    AppendsNew (NewIds (ids.checked :: (toolCall.eventId.toList ++ [ids.toolUse])) store) store
      (commitToolInvocationStartWithRecords now ids toolCall agentVersionId agentVersion
        store).2 := by
  obtain ⟨grantsOnly, sameCall⟩ := commitToolInvocationStart_spec now toolCall store
  unfold commitToolInvocationStartWithRecords
  split
  · rename_i error after refused
    rw [refused] at grantsOnly
    exact appendsNew_nothing grantsOnly.events
  · rename_i call taskGrant after answered
    rw [answered] at grantsOnly
    have sameEvents : after.events = store.events := grantsOnly.events
    obtain rfl := sameCall call taskGrant (congrArg Prod.fst answered)
    split
    · exact appendsNew_nothing sameEvents
    · rename_i events audit recorded
      refine ⟨events, appendRequested_congr sameEvents events, fun drawsNew => ?_⟩
      unfold toolInvocationRecords at recorded
      split at recorded
      · cases recorded
      · rename_i callEventId named
        cases recorded
        refine drawsNew.sublist ?_
        rw [named]
        cases taskGrant with
        | none => exact .cons _ (List.Sublist.refl _)
        | some grant => exact List.Sublist.refl _

theorem commitToolInvocationResult_appends (ids : ResultIds) (toolCallId : Uuid)
    (status : ToolCallStatus) (result : Json) (origin : String) (store : MemoryStore) :
    AppendsNew (NewIds [ids.result, ids.agentResult] store) store
      (commitToolInvocationResult ids toolCallId status result origin store).2 := by
  unfold commitToolInvocationResult
  split
  · exact appendsNew_nothing rfl
  · split
    · exact appendsNew_nothing rfl
    · split
      · exact appendsNew_nothing rfl
      · exact ⟨_, rfl, fun drawsNew => drawsNew⟩

variable {codec : RecordCodec}

theorem ontologyProposalEvents_nodup (collisionFree : codec.CollisionFree) (job : ExecutionJob)
    (toolCall : ToolCall) (artifact : Artifact) (proposalDetails result : Json) :
    ((ontologyProposalEvents codec job toolCall artifact proposalDetails result).map
      RequestedEvent.id).Nodup := by
  have kinds : ∀ part, ontologyArtifactEventId codec artifact part ≠
      executionAttemptEventId codec.recordId job "tool.result" := by
    intro part same
    have : "ontology-action-event" = "execution-attempt-event" := (collisionFree same).2.1
    simp at this
  have parts : ontologyArtifactEventId codec artifact "artifact.created" ≠
      ontologyArtifactEventId codec artifact "proposal_created" := by
    intro same
    have : ["artifact.created"] = ["proposal_created"] := (collisionFree same).2.2
    simp at this
  simp [ontologyProposalEvents, invocationEvent, parts, kinds]

theorem commitApprovedOntologyActionProposal_appends (parseUuid : String → Option Uuid)
    (now : Timestamp) (queue : ExecutionQueueState) (proposal : OntologyProposal) (store : MemoryStore) :
    AppendsNew codec.CollisionFree store
      (commitApprovedOntologyActionProposal codec parseUuid now queue proposal store).2 := by
  unfold commitApprovedOntologyActionProposal
  split
  · exact appendsNew_nothing rfl
  · split
    · exact appendsNew_nothing rfl
    · split
      · exact appendsNew_nothing rfl
      · split
        · exact appendsNew_nothing rfl
        · rename_i toolCall checked
          refine ⟨_, rfl, fun collisionFree =>
            ⟨ontologyProposalEvents_nodup collisionFree .., ?_⟩⟩
          obtain ⟨found, isFound, checked⟩ := bind_eq_ok.mp checked
          obtain ⟨_, _, checked⟩ := bind_eq_ok.mp checked
          obtain ⟨_, isNew, checked⟩ := bind_eq_ok.mp checked
          obtain rfl : found = toolCall := by simpa [pure, Except.pure] using checked
          unfold OntologyProposal.newRecordChecks at isNew
          obtain ⟨_, isNew⟩ := guardThen_eq_ok.mp isNew
          obtain ⟨_, isNew⟩ := guardThen_eq_ok.mp isNew
          have unlogged := (not_or.mp (guard_eq_ok.mp isNew)).1
          intro id requestedId storedId
          obtain ⟨requested, member, rfl⟩ := List.mem_map.mp requestedId
          obtain ⟨event, stored, isId⟩ := List.mem_map.mp storedId
          exact unlogged (List.any_eq_true.mpr ⟨requested, member,
            List.any_eq_true.mpr ⟨event, stored, by simpa using isId⟩⟩)

theorem requestedEvents_nodup (collisionFree : codec.CollisionFree) (approval : Approval)
    (decision : ApprovalStatus) (actorType : String) (toolCall : Option ToolCall) :
    ((requestedEvents codec approval decision actorType toolCall).map
      RequestedEvent.id).Nodup := by
  have kinds : ∀ parts, codec.recordId approval.id "approval-tool-result-event" parts ≠
      approvalEventId codec approval decision := by
    intro parts same
    have : "approval-tool-result-event" = "approval-event" := (collisionFree same).2.1
    simp at this
  have results : codec.recordId approval.id "approval-tool-result-event"
        [decision.text, "tool.result"] ≠
      codec.recordId approval.id "approval-tool-result-event"
        [decision.text, "agent.tool_result"] := by
    intro same
    have := (collisionFree same).2.2
    simp at this
  unfold requestedEvents declinedApprovalRecords
  dsimp only
  cases toolCall.filter (ToolCall.takesDecline (declinedResult approval decision)) with
  | none => simp
  | some call => simp [deniedToolCallEvents, declinedApprovalEvent, results, kinds]

theorem decline_appends (now : Timestamp) (approvalId : Uuid) (decision : ApprovalStatus)
    (actorType : String) (store : MemoryStore) :
    AppendsNew codec.CollisionFree store
      (declineApprovalAndToolCall codec now approvalId decision actorType store).2 := by
  rcases decline_cases now approvalId decision actorType store with
    ⟨-, same⟩ | ⟨-, -, -, same⟩ | ⟨-, current, -, -, -, -, declined⟩
  · exact appendsNew_nothing (congrArg MemoryStore.events same)
  · exact appendsNew_nothing (congrArg MemoryStore.events same)
  · rw [declined]
    refine ⟨newEvents codec current decision actorType store,
      appendRequested_congr (by rfl) _, fun collisionFree => ⟨?_, ?_⟩⟩
    · exact (requestedEvents_nodup collisionFree current decision actorType _).sublist
        (List.filter_sublist.map RequestedEvent.id)
    · intro id requestedId storedId
      obtain ⟨requested, member, rfl⟩ := List.mem_map.mp requestedId
      obtain ⟨event, stored, isId⟩ := List.mem_map.mp storedId
      obtain ⟨-, isNew⟩ := List.mem_filter.mp member
      have underId : (store.events.find? fun event =>
          decide (event.id = requested.id)).isSome = true := by
        rw [List.find?_isSome]
        exact ⟨event, stored, by simpa using isId⟩
      simp [keptEvent, Option.isNone_or, Option.isSome_iff_ne_none.mp underId] at isNew

/-! ### Runs -/

variable {parseUuid : String → Option Uuid}

theorem AppendsNew.mono {drawsNew stronger : Prop} (appends : AppendsNew drawsNew store other)
    (implies : stronger → drawsNew) : AppendsNew stronger store other := by
  obtain ⟨requests, logged, new⟩ := appends
  exact ⟨requests, logged, fun isNew => new (implies isNew)⟩

/-- Every write appends to the log, under new identifiers if it drew new ones. -/
theorem storeAfterWrite_appends (write : LogWrite) (store : MemoryStore) :
    AppendsNew (codec.CollisionFree ∧ DrawsNew write store) store
      (storeAfterWrite codec parseUuid write store) := by
  cases write with
  | appendEvent now claim queue eventId idempotent entry =>
      exact (appendEventUnderClaim_appends now claim queue eventId idempotent entry store).mono
        And.right
  | commitProviderCompletion ids completion =>
      exact (commitProviderCompletion_appends ids completion store).mono And.right
  | commitToolInvocationStart now ids toolCall agentVersionId agentVersion =>
      exact (commitToolInvocationStart_appends now ids toolCall agentVersionId agentVersion
        store).mono And.right
  | commitToolInvocationResult ids toolCallId status result origin =>
      exact (commitToolInvocationResult_appends ids toolCallId status result origin store).mono
        And.right
  | commitApprovedOntologyActionProposal now queue proposal =>
      exact (commitApprovedOntologyActionProposal_appends parseUuid now queue proposal
        store).mono And.left
  | decline now approvalId decision actorType =>
      exact (decline_appends now approvalId decision actorType store).mono And.left

/-- The identifiers drawn along a run are new. -/
def DrawsNewAlong (codec : RecordCodec) (parseUuid : String → Option Uuid)
    (writes : List LogWrite) (start : MemoryStore) : Prop :=
  MetAlong (storeAfterWrite codec parseUuid) DrawsNew writes start

theorem storeAfterWrites_numbered (writes : List LogWrite) {start : MemoryStore}
    (numbered : LogNumbered sessionId start) :
    LogNumbered sessionId (storeAfterWrites codec parseUuid writes start) := by
  induction writes generalizing start with
  | nil => exact numbered
  | cons write writes inductionHypothesis =>
      obtain ⟨requests, logged, -⟩ := @storeAfterWrite_appends codec parseUuid write start
      exact inductionHypothesis (logged.numbered numbered)

theorem storeAfterWrites_extends (writes : List LogWrite) (start : MemoryStore) :
    start.events <+: (storeAfterWrites codec parseUuid writes start).events := by
  induction writes generalizing start with
  | nil => exact List.prefix_rfl
  | cons write writes inductionHypothesis =>
      obtain ⟨requests, logged, -⟩ := @storeAfterWrite_appends codec parseUuid write start
      exact logged.prefix.trans (inductionHypothesis _)

theorem storeAfterWrites_intact (collisionFree : codec.CollisionFree) {writes : List LogWrite}
    {start : MemoryStore} (intact : LogIntact start)
    (drawsNew : DrawsNewAlong codec parseUuid writes start) :
    LogIntact (storeAfterWrites codec parseUuid writes start) := by
  have keeps : ∀ write store, DrawsNew write store → LogIntact store →
      LogIntact (storeAfterWrite codec parseUuid write store) := by
    intro write store isNew intact
    obtain ⟨requests, logged, new⟩ := @storeAfterWrite_appends codec parseUuid write store
    exact ⟨fun sessionId => logged.numbered (intact.numbered sessionId),
      logged.distinct (new ⟨collisionFree, isNew⟩) intact.distinct⟩
  exact heldAlong_of_step keeps intact drawsNew writes List.prefix_rfl

/-! ### Sessions stay -/

/-- No session is removed. -/
def SessionsStay (before after : MemoryStore) : Prop :=
  ∀ id, (before.sessions.find? id).isSome = true → (after.sessions.find? id).isSome = true

theorem sessionsStay_of_eq (same : other.sessions = store.sessions) : SessionsStay store other := by
  intro id present
  rw [same]
  exact present

theorem appendRequested_sessions (requests : List RequestedEvent) (store : MemoryStore) :
    (appendRequested requests store).sessions = store.sessions := by
  obtain ⟨added, grown, -⟩ := appendRequested_events requests store
  rw [grown]

theorem appendEventUnderClaim_sessions (now : Timestamp) (claim : Option ClaimFence)
    (queue : ExecutionQueueState) (eventId : Uuid) (idempotent : Bool) (entry : NewEvent)
    (store : MemoryStore) :
    (appendEventUnderClaim now claim queue eventId idempotent entry store).2.sessions =
      store.sessions := by
  have unfenced : (appendEventWithId eventId idempotent entry store).2.sessions =
      store.sessions := by
    rcases appendEventWithId_cases eventId idempotent entry store with
      ⟨-, same⟩ | ⟨existing, -, -, -, same⟩ | ⟨-, -, appended⟩
    · rw [same]
    · rw [same]
    · rw [appended]
  unfold appendEventUnderClaim
  cases claim with
  | none => exact unfenced
  | some fence =>
      dsimp only
      split
      · rfl
      · exact unfenced

theorem storeAfterWrite_sessionsStay (write : LogWrite) (store : MemoryStore) :
    SessionsStay store (storeAfterWrite codec parseUuid write store) := by
  cases write with
  | appendEvent now claim queue eventId idempotent entry =>
      exact sessionsStay_of_eq
        (appendEventUnderClaim_sessions now claim queue eventId idempotent entry store)
  | commitProviderCompletion ids completion =>
      simp only [storeAfterWrite, commitProviderCompletion]
      split
      · exact sessionsStay_of_eq rfl
      · rename_i callEventId goalType session thread checked
        intro id present
        simp only [insertRecords, appendRequested_sessions, Session.withStatus_id]
        by_cases same : id = session.id
        · rw [same, Table.find?_modify_same, Option.isSome_map, ← same]
          exact present
        · rw [Table.find?_modify_ne same]
          exact present
  | commitToolInvocationStart now ids toolCall agentVersionId agentVersion =>
      obtain ⟨⟨taskGrants, reserved⟩, -⟩ := commitToolInvocationStart_spec now toolCall store
      have sameSessions : (commitToolInvocationStart now toolCall store).2.sessions =
          store.sessions := by
        rw [reserved]
      simp only [storeAfterWrite, commitToolInvocationStartWithRecords]
      split
      · rename_i answered
        rw [answered] at sameSessions
        exact sessionsStay_of_eq sameSessions
      · rename_i answered
        rw [answered] at sameSessions
        split
        · exact sessionsStay_of_eq sameSessions
        · apply sessionsStay_of_eq
          simp only [insertRecords, appendRequested_sessions]
          exact sameSessions
  | commitToolInvocationResult ids toolCallId status result origin =>
      simp only [storeAfterWrite, commitToolInvocationResult]
      split_ifs
      · exact sessionsStay_of_eq rfl
      · split
        · exact sessionsStay_of_eq rfl
        · split_ifs
          · exact sessionsStay_of_eq rfl
          · exact sessionsStay_of_eq (appendRequested_sessions _ _)
  | commitApprovedOntologyActionProposal now queue proposal =>
      simp only [storeAfterWrite, commitApprovedOntologyActionProposal]
      split_ifs
      · exact sessionsStay_of_eq rfl
      · split
        · exact sessionsStay_of_eq rfl
        · split
          · exact sessionsStay_of_eq rfl
          · split
            · exact sessionsStay_of_eq rfl
            · exact sessionsStay_of_eq (appendRequested_sessions _ _)
  | decline now approvalId decision actorType =>
      simp only [storeAfterWrite]
      rcases decline_cases now approvalId decision actorType store with
        ⟨-, same⟩ | ⟨-, -, -, same⟩ | ⟨-, current, -, -, -, -, declined⟩
      · exact sessionsStay_of_eq (congrArg MemoryStore.sessions same)
      · exact sessionsStay_of_eq (congrArg MemoryStore.sessions same)
      · obtain ⟨added, grown, -⟩ :=
          @declinedStore_eq codec now current decision actorType store
        rw [declined, grown]
        exact sessionsStay_of_eq rfl

theorem storeAfterWrites_sessionsStay (writes : List LogWrite) (start : MemoryStore) :
    SessionsStay start (storeAfterWrites codec parseUuid writes start) := by
  induction writes generalizing start with
  | nil => exact sessionsStay_of_eq rfl
  | cons write writes inductionHypothesis =>
      intro id present
      exact inductionHypothesis _ id
        (@storeAfterWrite_sessionsStay codec parseUuid write start id present)

end

end MandoForge
