/-
Module: MandoForge.Approval.Decline
Purpose: What a decline does: it fails and leaves the store, or it answers and decides
  the approval, denies the waiting tool call, and keeps the records that were not
  kept before.  Once answered, the same decline changes nothing any more.
Trusted boundary: none
Main exports: declinedStore, DeclineAnswered
-/
import MandoForge.Store.Approvals

namespace MandoForge

open Foundation

/-! ### Records that were not kept -/

section

variable {Request Kept : Type}

/-- The requests for which nothing was kept. -/
def unkept (kept : Request → Option Kept) (requests : List Request) : List Request :=
  requests.filter fun requested => (kept requested).isNone

theorem unkept_eq_nil {kept : Request → Option Kept} {requests : List Request}
    (allKept : ∀ requested ∈ requests, (kept requested).isSome) :
    unkept kept requests = [] := by
  rw [unkept, List.filter_eq_nil_iff]
  intro requested member isNone
  have isKept := allKept requested member
  rw [Option.isNone_iff_eq_none.mp isNone] at isKept
  cases isKept

theorem mem_unkept {kept : Request → Option Kept} {requests : List Request} {requested : Request}
    (member : requested ∈ requests) (isNew : ¬(kept requested).isSome) :
    requested ∈ unkept kept requests :=
  List.mem_filter.mpr ⟨member, by simpa using isNew⟩

end

def insertAudits (audits : List AuditLog) (table : Table AuditLog.id) : Table AuditLog.id :=
  audits.foldl (fun table audit => table.insert audit) table

theorem insertAudits_kept {audits : List AuditLog} {table : Table AuditLog.id} {id : Uuid}
    {audit : AuditLog} (isKept : table.find? id = some audit)
    (others : ∀ requested ∈ audits, requested.id ≠ id) :
    (insertAudits audits table).find? id = some audit := by
  induction audits generalizing table with
  | nil => exact isKept
  | cons first rest inductionHypothesis =>
      apply inductionHypothesis
      · rw [Table.find?_insert_of_ne (others first (List.mem_cons_self ..)).symm]
        exact isKept
      · exact fun requested member => others requested (List.mem_cons_of_mem _ member)

/-- Each of the audit logs is kept, or another one under its identifier. -/
theorem insertAudits_isSome {audits : List AuditLog} {table : Table AuditLog.id} {id : Uuid}
    (isKept : (table.find? id).isSome ∨ id ∈ audits.map AuditLog.id) :
    ((insertAudits audits table).find? id).isSome := by
  induction audits generalizing table with
  | nil => simpa [insertAudits] using isKept
  | cons audit rest inductionHypothesis =>
      apply inductionHypothesis
      by_cases same : audit.id = id
      · rw [← same, Table.find?_insert_same]
        exact .inl rfl
      · rw [Table.find?_insert_of_ne (Ne.symm same)]
        rcases isKept with isOld | isRequested
        · exact .inl isOld
        · simp only [List.map_cons, List.mem_cons] at isRequested
          exact .inr (isRequested.resolve_left (Ne.symm same))

theorem commitEvents_store {kept : RequestedEvent → Option SessionEvent}
    (requests : List RequestedEvent) (store : MemoryStore) :
    (commitEvents (requests.map fun requested => (requested, kept requested)) store).2 =
      appendRequested (unkept kept requests) store := by
  induction requests generalizing store with
  | nil => rfl
  | cons requested rest inductionHypothesis =>
      rw [List.map_cons]
      cases isKept : kept requested with
      | some existing =>
          have skipped : unkept kept (requested :: rest) = unkept kept rest := by
            simp [unkept, isKept]
          rw [skipped, commitEvents]
          exact inductionHypothesis store
      | none =>
          have taken : unkept kept (requested :: rest) = requested :: unkept kept rest := by
            simp [unkept, isKept]
          rw [taken, commitEvents, appendRequested]
          exact inductionHypothesis _

theorem commitAudits_store {kept : AuditLog → Option AuditLog} (requests : List AuditLog)
    (store : MemoryStore) :
    commitAudits (requests.map fun requested => (requested, kept requested)) store =
      { store with auditLogs := insertAudits (unkept kept requests) store.auditLogs } := by
  induction requests generalizing store with
  | nil => rfl
  | cons requested rest inductionHypothesis =>
      rw [List.map_cons]
      cases isKept : kept requested with
      | some existing =>
          have skipped : unkept kept (requested :: rest) = unkept kept rest := by
            simp [unkept, isKept]
          rw [skipped, commitAudits]
          exact inductionHypothesis store
      | none =>
          have taken : unkept kept (requested :: rest) = requested :: unkept kept rest := by
            simp [unkept, isKept]
          rw [taken, commitAudits]
          exact inductionHypothesis _

/-! ### What a decline does -/

section

variable (codec : RecordCodec)

/-- The tool call of the approval, as it is stored. -/
def boundToolCall (approval : Approval) (store : MemoryStore) : Option ToolCall :=
  approval.toolCallId.bind store.toolCalls.find?

/-- The decline makes up for an expiry that an older version recorded. -/
def repairsExpiry (current : Approval) (decision : ApprovalStatus) : Bool :=
  decide (current.status = .expired) && decide (decision = .expired)

/-- The records a decline asks for. -/
def requestedEvents (approval : Approval) (decision : ApprovalStatus) (actorType : String)
    (toolCall : Option ToolCall) : List RequestedEvent :=
  (declinedApprovalRecords codec approval decision actorType toolCall).2.1

def requestedAudits (approval : Approval) (decision : ApprovalStatus) (actorType : String)
    (toolCall : Option ToolCall) : List AuditLog :=
  (declinedApprovalRecords codec approval decision actorType toolCall).2.2

/-- The approvals after a decline. -/
def declinedApprovals (now : Timestamp) (current : Approval) (decision : ApprovalStatus)
    (store : MemoryStore) : Table Approval.id :=
  if current.status = .pending then
    store.approvals.modify current.id (Approval.decided now decision)
      (Approval.decided_id now decision)
  else store.approvals

/-- The tool calls after a decline. -/
def declinedToolCalls (current : Approval) (decision : ApprovalStatus) (store : MemoryStore) :
    Table ToolCall.id :=
  match boundToolCall current store with
  | none => store.toolCalls
  | some call =>
      if call.status = .waitingApproval then
        store.toolCalls.modify call.id (ToolCall.denied (declinedResult current decision))
          (ToolCall.denied_id (declinedResult current decision))
      else store.toolCalls

/-- The events a decline appends, and the audit logs it keeps. -/
def newEvents (current : Approval) (decision : ApprovalStatus) (actorType : String)
    (store : MemoryStore) : List RequestedEvent :=
  unkept (fun requested => keptEvent (repairsExpiry current decision) requested store)
    (requestedEvents codec current decision actorType (boundToolCall current store))

def newAudits (current : Approval) (decision : ApprovalStatus) (actorType : String)
    (store : MemoryStore) : List AuditLog :=
  unkept (fun requested => keptAudit (repairsExpiry current decision) requested store)
    (requestedAudits codec current decision actorType (boundToolCall current store))

/-- The store after a decline of a pending approval, or of one declined in this way. -/
def declinedStore (now : Timestamp) (current : Approval) (decision : ApprovalStatus)
    (actorType : String) (store : MemoryStore) : MemoryStore :=
  let logged := appendRequested (newEvents codec current decision actorType store)
    { store with
      approvals := declinedApprovals now current decision store
      toolCalls := declinedToolCalls current decision store }
  { logged with
    auditLogs := insertAudits (newAudits codec current decision actorType store) logged.auditLogs }

variable {codec}

theorem existing_eq_kept {repairing : Bool} {store : MemoryStore} :
    (∀ requested existing, existingEvent repairing requested store = .ok existing →
      existing = keptEvent repairing requested store) ∧
    ∀ requested existing, existingAudit repairing requested store = .ok existing →
      existing = keptAudit repairing requested store := by
  constructor
  · intro requested existing isExisting
    unfold existingEvent validateIdempotentEventIdentity at isExisting
    split at isExisting
    · rename_i isNew
      rw [isNew, Except.ok.inj isExisting]
    · rename_i event isKept
      split at isExisting
      · rw [isKept, ← Except.ok.inj isExisting]
      · cases isExisting
  · intro requested existing isExisting
    unfold existingAudit validateIdempotentAuditIdentity at isExisting
    split at isExisting
    · rename_i isNew
      rw [isNew, Except.ok.inj isExisting]
    · rename_i audit isKept
      split at isExisting
      · rw [isKept, ← Except.ok.inj isExisting]
      · cases isExisting

/-- Checked requests come with what was kept for them. -/
theorem mapM_kept {Request Kept : Type} {check : Request → Except AppError (Option Kept)}
    {kept : Request → Option Kept}
    (isKept : ∀ requested existing, check requested = .ok existing → existing = kept requested)
    {requests : List Request} {pairs : List (Request × Option Kept)}
    (checked : (requests.mapM fun requested =>
      (check requested).map fun existing => (requested, existing)) = .ok pairs) :
    pairs = requests.map fun requested => (requested, kept requested) := by
  have each := mapM_eq_ok.mp checked
  clear checked
  induction each with
  | nil => rfl
  | @cons requested pair rest pairs head _ inductionHypothesis =>
      rw [List.map_cons, inductionHypothesis]
      congr 1
      cases found : check requested with
      | error error =>
          rw [found] at head
          cases head
      | ok existing =>
          rw [found] at head
          rw [← isKept requested existing found]
          exact (Except.ok.inj head).symm

/-- The tool call that the approval names is stored. -/
def ToolCallStored (approval : Approval) (store : MemoryStore) : Prop :=
  ∀ toolCallId, approval.toolCallId = some toolCallId →
    (store.toolCalls.find? toolCallId).isSome

theorem existingToolCall_ok {current : Approval} {store : MemoryStore}
    {toolCall : Option ToolCall} (found : existingToolCall current store = .ok toolCall) :
    toolCall = boundToolCall current store ∧ ToolCallStored current store := by
  unfold existingToolCall at found
  unfold boundToolCall ToolCallStored
  cases bound : current.toolCallId with
  | none =>
      rw [bound] at found
      exact ⟨(Except.ok.inj found).symm, fun _ named => nomatch named⟩
  | some toolCallId =>
      rw [bound] at found
      dsimp only at found
      cases stored : store.toolCalls.find? toolCallId with
      | none =>
          rw [stored] at found
          cases found
      | some call =>
          rw [stored] at found
          refine ⟨(Except.ok.inj found).symm.trans stored.symm, fun other named => ?_⟩
          obtain rfl := Option.some.inj named
          rw [stored]
          rfl

theorem declineChecks_ok {current : Approval} {decision : ApprovalStatus} {actorType : String}
    {store : MemoryStore} {toolCall : Option ToolCall}
    {events : List (RequestedEvent × Option SessionEvent)}
    {audits : List (AuditLog × Option AuditLog)}
    (checked : declineChecks codec current decision actorType store =
      .ok (toolCall, events, audits)) :
    (toolCall = boundToolCall current store ∧ ToolCallStored current store) ∧
      events = (requestedEvents codec current decision actorType toolCall).map (fun requested =>
        (requested, keptEvent (repairsExpiry current decision) requested store)) ∧
      audits = (requestedAudits codec current decision actorType toolCall).map fun requested =>
        (requested, keptAudit (repairsExpiry current decision) requested store) := by
  unfold declineChecks at checked
  obtain ⟨found, isFound, checked⟩ := bind_eq_ok.mp checked
  obtain ⟨eventPairs, eventsChecked, checked⟩ := bind_eq_ok.mp checked
  obtain ⟨auditPairs, auditsChecked, checked⟩ := bind_eq_ok.mp checked
  obtain ⟨rfl, rfl, rfl⟩ : found = toolCall ∧ eventPairs = events ∧ auditPairs = audits := by
    simpa [pure, Except.pure] using checked
  exact ⟨existingToolCall_ok isFound, mapM_kept existing_eq_kept.1 eventsChecked,
    mapM_kept existing_eq_kept.2 auditsChecked⟩

/-- A decline fails and leaves the store; it finds the approval decided otherwise and
leaves the store; or it declines the approval. -/
theorem decline_cases (now : Timestamp) (approvalId : Uuid) (decision : ApprovalStatus)
    (actorType : String) (store : MemoryStore) :
    ((∃ error, (declineApprovalAndToolCall codec now approvalId decision actorType store).1 =
        .error error) ∧
      (declineApprovalAndToolCall codec now approvalId decision actorType store).2 = store) ∨
    (decision = .expired ∧ (∃ current, store.approvals.find? approvalId = some current ∧
        current.status ≠ .pending ∧ current.status ≠ .expired) ∧
      (∃ answer, (declineApprovalAndToolCall codec now approvalId decision actorType store).1 =
        .ok answer) ∧
      (declineApprovalAndToolCall codec now approvalId decision actorType store).2 = store) ∨
    (decision ≠ .pending ∧ ∃ current, store.approvals.find? approvalId = some current ∧
      (current.status = .pending ∨ current.status = decision) ∧ ToolCallStored current store ∧
      (∃ answer, (declineApprovalAndToolCall codec now approvalId decision actorType store).1 =
        .ok answer) ∧
      (declineApprovalAndToolCall codec now approvalId decision actorType store).2 =
        declinedStore codec now current decision actorType store) := by
  unfold declineApprovalAndToolCall
  split
  · exact .inl ⟨⟨_, rfl⟩, rfl⟩
  · rename_i declines
    have decides : decision ≠ .pending := by
      rintro rfl
      simp at declines
    split
    · exact .inl ⟨⟨_, rfl⟩, rfl⟩
    · rename_i current found
      split
      · rename_i otherwise
        split
        · rename_i expires
          subst expires
          exact .inr (.inl ⟨rfl, ⟨current, found, otherwise⟩, ⟨_, rfl⟩, rfl⟩)
        · exact .inl ⟨⟨_, rfl⟩, rfl⟩
      · rename_i declinable
        split
        · exact .inl ⟨⟨_, rfl⟩, rfl⟩
        · rename_i toolCall events audits checked
          obtain ⟨⟨rfl, isStored⟩, rfl, rfl⟩ := declineChecks_ok checked
          refine .inr (.inr ⟨decides, current, found, ?_, isStored, ⟨_, rfl⟩, ?_⟩)
          · by_contra neither
            exact declinable (not_or.mp neither)
          · obtain rfl : current.id = approvalId := (Table.find?_eq_some.mp found).2
            dsimp only
            rw [commitAudits_store, commitEvents_store]
            unfold declinedStore declinedApprovals
            by_cases isPending : current.status = .pending
            · rw [if_pos isPending, if_pos isPending]
              rfl
            · rw [if_neg isPending, if_neg isPending]
              rfl

theorem decline_failed {now : Timestamp} {approvalId : Uuid} {decision : ApprovalStatus}
    {actorType : String} {store : MemoryStore} {error : AppError}
    (failed : (declineApprovalAndToolCall codec now approvalId decision actorType store).1 =
      .error error) :
    (declineApprovalAndToolCall codec now approvalId decision actorType store).2 = store := by
  rcases decline_cases now approvalId decision actorType store with
    ⟨-, same⟩ | ⟨-, -, -, same⟩ | ⟨-, -, -, -, -, ⟨answer, answered⟩, -⟩
  · exact same
  · exact same
  · rw [failed] at answered
    cases answered

/-! ### What stays after a decision -/

theorem declinedStore_eq (now : Timestamp) (current : Approval) (decision : ApprovalStatus)
    (actorType : String) (store : MemoryStore) :
    ∃ added, declinedStore codec now current decision actorType store =
        { store with
          approvals := declinedApprovals now current decision store
          toolCalls := declinedToolCalls current decision store
          events := store.events ++ added
          auditLogs := insertAudits (newAudits codec current decision actorType store)
            store.auditLogs } ∧
      added.map SessionEvent.id =
        (newEvents codec current decision actorType store).map RequestedEvent.id := by
  obtain ⟨added, grown, ids⟩ := appendRequested_events
    (newEvents codec current decision actorType store)
    { store with
      approvals := declinedApprovals now current decision store
      toolCalls := declinedToolCalls current decision store }
  refine ⟨added, ?_, ids⟩
  unfold declinedStore
  rw [grown]

/-- What is kept of an approval, of its tool call and of the logs, once the approval is
decided. -/
structure DecisionKept (approvalId : Uuid) (before after : MemoryStore) : Prop where
  approval : ∀ approval, before.approvals.find? approvalId = some approval →
    approval.status ≠ .pending → after.approvals.find? approvalId = some approval
  args : ∀ approval toolCallId, before.approvals.find? approvalId = some approval →
    approval.status ≠ .pending → approval.toolCallId = some toolCallId →
    (after.toolCalls.find? toolCallId).map ToolCall.args =
      (before.toolCalls.find? toolCallId).map ToolCall.args
  toolCall : ∀ toolCallId toolCall, before.toolCalls.find? toolCallId = some toolCall →
    toolCall.status ≠ .waitingApproval → after.toolCalls.find? toolCallId = some toolCall
  events : before.events <+: after.events
  audits : ∀ id audit, before.auditLogs.find? id = some audit →
    after.auditLogs.find? id = some audit

namespace DecisionKept

variable {approvalId : Uuid} {before after last : MemoryStore}

theorem refl (store : MemoryStore) : DecisionKept approvalId store store where
  approval _ found _ := found
  args _ _ _ _ _ := rfl
  toolCall _ _ found _ := found
  events := List.prefix_rfl
  audits _ _ isKept := isKept

theorem trans (first : DecisionKept approvalId before after)
    (second : DecisionKept approvalId after last) : DecisionKept approvalId before last where
  approval approval found decided :=
    second.approval approval (first.approval approval found decided) decided
  args approval toolCallId found decided bound := by
    have later := second.args approval toolCallId (first.approval approval found decided) decided
      bound
    exact later.trans (first.args approval toolCallId found decided bound)
  toolCall toolCallId toolCall found settled :=
    second.toolCall toolCallId toolCall (first.toolCall toolCallId toolCall found settled) settled
  events := first.events.trans second.events
  audits id audit isKept := second.audits id audit (first.audits id audit isKept)

end DecisionKept

/-- A tool call is denied or as it was. -/
theorem find?_declinedToolCalls (current : Approval) (decision : ApprovalStatus)
    (store : MemoryStore) (toolCallId : Uuid) :
    (declinedToolCalls current decision store).find? toolCallId =
        store.toolCalls.find? toolCallId ∨
      ∃ call, store.toolCalls.find? toolCallId = some call ∧ call.status = .waitingApproval ∧
        (declinedToolCalls current decision store).find? toolCallId =
          some (call.denied (declinedResult current decision)) := by
  unfold declinedToolCalls
  split
  · exact .inl rfl
  · rename_i call bound
    split
    · rename_i waits
      by_cases same : toolCallId = call.id
      · obtain ⟨boundId, -, stored⟩ := Option.bind_eq_some_iff.mp bound
        obtain rfl : call.id = boundId := (Table.find?_eq_some.mp stored).2
        subst same
        refine .inr ⟨call, stored, waits, ?_⟩
        rw [Table.find?_modify_same, stored]
        rfl
      · exact .inl (Table.find?_modify_ne same)
    · exact .inl rfl

theorem declinedStore_kept (now : Timestamp) {current : Approval} {decision : ApprovalStatus}
    (actorType : String) {store : MemoryStore} {approvalId : Uuid}
    (found : store.approvals.find? approvalId = some current) :
    DecisionKept approvalId store (declinedStore codec now current decision actorType store) := by
  obtain ⟨added, grown, -⟩ := declinedStore_eq now current decision actorType store
  rw [grown]
  constructor
  case approval =>
    intro approval isFound decided
    rw [found] at isFound
    obtain rfl := Option.some.inj isFound
    change (declinedApprovals now current decision store).find? approvalId = some current
    rw [declinedApprovals, if_neg decided]
    exact found
  case args =>
    intro approval toolCallId _ _ _
    change ((declinedToolCalls current decision store).find? toolCallId).map ToolCall.args = _
    rcases find?_declinedToolCalls current decision store toolCallId with
      same | ⟨call, stored, -, denied⟩
    · rw [same]
    · rw [denied, stored]
      rfl
  case toolCall =>
    intro toolCallId toolCall isFound settled
    change (declinedToolCalls current decision store).find? toolCallId = some toolCall
    rcases find?_declinedToolCalls current decision store toolCallId with
      same | ⟨call, stored, waits, -⟩
    · rw [same, isFound]
    · rw [isFound] at stored
      obtain rfl := Option.some.inj stored
      exact absurd waits settled
  case events => exact List.prefix_append ..
  case audits =>
    intro id audit isKept
    apply insertAudits_kept isKept
    intro requested member same
    obtain ⟨-, isNew⟩ := List.mem_filter.mp member
    simp only [keptAudit, same, isKept] at isNew
    cases isNew

/-! ### A decline that was answered -/

/-- The same decline finds the approval decided otherwise, or everything done that it
would do. -/
structure DeclineAnswered (codec : RecordCodec) (approvalId : Uuid) (decision : ApprovalStatus)
    (actorType : String) (current : Approval) (store : MemoryStore) : Prop where
  found : store.approvals.find? approvalId = some current
  decided : current.status ≠ .pending
  bound : current.status = decision → ToolCallStored current store
  settled : current.status = decision → ∀ call, boundToolCall current store = some call →
    call.status ≠ .waitingApproval
  events : current.status = decision →
    ∀ requested ∈ requestedEvents codec current decision actorType (boundToolCall current store),
      (keptEvent (repairsExpiry current decision) requested store).isSome
  audits : current.status = decision →
    ∀ requested ∈ requestedAudits codec current decision actorType (boundToolCall current store),
      (keptAudit (repairsExpiry current decision) requested store).isSome

/-- An answered decline changes nothing. -/
theorem DeclineAnswered.unchanged {approvalId : Uuid} {decision : ApprovalStatus}
    {actorType : String} {current : Approval} {store : MemoryStore}
    (answered : DeclineAnswered codec approvalId decision actorType current store)
    (now : Timestamp) :
    (declineApprovalAndToolCall codec now approvalId decision actorType store).2 = store := by
  rcases decline_cases now approvalId decision actorType store with
    ⟨-, same⟩ | ⟨-, -, -, same⟩ | ⟨-, approval, found, declinable, -, -, declined⟩
  · exact same
  · exact same
  · rw [declined]
    rw [answered.found] at found
    obtain rfl := Option.some.inj found
    have isDecision := declinable.resolve_left answered.decided
    have sameApprovals : declinedApprovals now current decision store = store.approvals :=
      if_neg answered.decided
    have sameToolCalls : declinedToolCalls current decision store = store.toolCalls := by
      unfold declinedToolCalls
      split
      · rfl
      · rename_i call bound
        exact if_neg (answered.settled isDecision call bound)
    have noEvents : newEvents codec current decision actorType store = [] :=
      unkept_eq_nil (answered.events isDecision)
    have noAudits : newAudits codec current decision actorType store = [] :=
      unkept_eq_nil (answered.audits isDecision)
    unfold declinedStore
    rw [noEvents, noAudits, sameApprovals, sameToolCalls]
    rfl

/-- What was kept stays kept as the logs grow. -/
theorem keptEvent_isSome_mono {repairing later : Bool} {requested : RequestedEvent}
    {before after : MemoryStore} (grown : before.events <+: after.events)
    (repairs : repairing = true → later = true)
    (isKept : (keptEvent repairing requested before).isSome) :
    (keptEvent later requested after).isSome := by
  obtain ⟨added, grown⟩ := grown
  unfold keptEvent eventsOf at isKept ⊢
  rw [← grown, List.find?_append, List.filter_append, List.find?_append]
  simp only [Option.isSome_or, Bool.or_eq_true] at isKept ⊢
  rcases isKept with underId | byIdentity
  · exact .inl (.inl underId)
  · split at byIdentity
    · rename_i legacy
      rw [Bool.and_eq_true] at legacy
      rw [if_pos (by rw [repairs legacy.1, legacy.2]; rfl)]
      simp only [Option.isSome_or, Bool.or_eq_true]
      exact .inr (.inl byIdentity)
    · cases byIdentity

theorem keptAudit_isSome_mono {repairing later : Bool} {requested : AuditLog}
    {before after : MemoryStore}
    (grown : ∀ id audit, before.auditLogs.find? id = some audit →
      after.auditLogs.find? id = some audit)
    (repairs : repairing = true → later = true)
    (isKept : (keptAudit repairing requested before).isSome) :
    (keptAudit later requested after).isSome := by
  unfold keptAudit at isKept ⊢
  simp only [Option.isSome_or, Bool.or_eq_true] at isKept ⊢
  rcases isKept with underId | byIdentity
  · obtain ⟨audit, found⟩ := Option.isSome_iff_exists.mp underId
    rw [grown _ _ found]
    exact .inl rfl
  · split at byIdentity
    · rename_i legacy
      rw [Bool.and_eq_true] at legacy
      rw [if_pos (by rw [repairs legacy.1, legacy.2]; rfl)]
      rw [List.find?_isSome] at byIdentity ⊢
      obtain ⟨audit, member, same⟩ := byIdentity
      have stays := grown _ _ (Table.find?_key member)
      exact .inr ⟨audit, (Table.find?_eq_some.mp stays).1, same⟩
    · cases byIdentity

theorem declinedApprovalRecords_denied (approval : Approval) (decision : ApprovalStatus)
    (actorType : String) {call : ToolCall} (waits : call.status = .waitingApproval) :
    declinedApprovalRecords codec approval decision actorType
        (some (call.denied (declinedResult approval decision))) =
      declinedApprovalRecords codec approval decision actorType (some call) := by
  simp [declinedApprovalRecords, ToolCall.takesDecline, waits, ToolCall.denied,
    deniedToolCallEvents, deniedToolCallAudit, Option.filter]

/-- What is stored for the approval after it was declined. -/
theorem find?_declinedApprovals (now : Timestamp) {current : Approval}
    {decision : ApprovalStatus} {store : MemoryStore} {approvalId : Uuid}
    (found : store.approvals.find? approvalId = some current)
    (declinable : current.status = .pending ∨ current.status = decision) :
    ∃ decidedAt, (declinedApprovals now current decision store).find? approvalId =
      some { current with status := decision, decidedAt := decidedAt } := by
  obtain rfl : current.id = approvalId := (Table.find?_eq_some.mp found).2
  unfold declinedApprovals
  split
  · refine ⟨some now, ?_⟩
    rw [Table.find?_modify_same, found]
    rfl
  · rename_i decided
    refine ⟨current.decidedAt, ?_⟩
    rw [found, ← declinable.resolve_left decided]

/-- The tool call of the approval after the decline. -/
theorem boundToolCall_declined {current : Approval} (decision : ApprovalStatus)
    (store : MemoryStore) :
    current.toolCallId.bind (declinedToolCalls current decision store).find? =
      (boundToolCall current store).map fun call =>
        if call.status = .waitingApproval then call.denied (declinedResult current decision)
        else call := by
  unfold boundToolCall
  cases bound : current.toolCallId with
  | none => rfl
  | some toolCallId =>
      rw [Option.bind_some, Option.bind_some]
      cases stored : store.toolCalls.find? toolCallId with
      | none =>
          rcases find?_declinedToolCalls current decision store toolCallId with
            same | ⟨call, found, -⟩
          · rw [same, stored]
            rfl
          · rw [stored] at found
            cases found
      | some call =>
          have isBound : boundToolCall current store = some call := by
            rw [boundToolCall, bound, Option.bind_some, stored]
          obtain rfl : call.id = toolCallId := (Table.find?_eq_some.mp stored).2
          rw [Option.map_some, declinedToolCalls, isBound]
          dsimp only
          split
          · rw [Table.find?_modify_same, stored]
            rfl
          · exact stored

/-- After a decline that went through, the same decline is answered. -/
theorem declinedStore_answered (now : Timestamp) {current : Approval} {decision : ApprovalStatus}
    (actorType : String) {store : MemoryStore} {approvalId : Uuid} (decides : decision ≠ .pending)
    (found : store.approvals.find? approvalId = some current)
    (declinable : current.status = .pending ∨ current.status = decision)
    (isStored : ToolCallStored current store) :
    ∃ declined, DeclineAnswered codec approvalId decision actorType declined
      (declinedStore codec now current decision actorType store) := by
  obtain ⟨decidedAt, stored⟩ := find?_declinedApprovals now found declinable
  have kept : DecisionKept approvalId store
      (declinedStore codec now current decision actorType store) :=
    declinedStore_kept now actorType found
  obtain ⟨added, grown, ids⟩ := @declinedStore_eq codec now current decision actorType store
  generalize declinedStore codec now current decision actorType store = after at kept grown ⊢
  have storedAfter : after.approvals.find? approvalId =
      some { current with status := decision, decidedAt := decidedAt } := by
    rw [grown]
    exact stored
  have toolCallAfter : boundToolCall { current with status := decision, decidedAt := decidedAt }
      after = (boundToolCall current store).map fun call =>
        if call.status = .waitingApproval then call.denied (declinedResult current decision)
        else call := by
    rw [← boundToolCall_declined, grown]
    rfl
  have sameRecords : declinedApprovalRecords codec
      { current with status := decision, decidedAt := decidedAt } decision actorType
        (boundToolCall { current with status := decision, decidedAt := decidedAt } after) =
      declinedApprovalRecords codec current decision actorType (boundToolCall current store) := by
    rw [toolCallAfter]
    cases boundToolCall current store with
    | none => rfl
    | some call =>
        rw [Option.map_some]
        split
        · rename_i waits
          exact declinedApprovalRecords_denied current decision actorType waits
        · rfl
  have repairs : repairsExpiry current decision = true →
      repairsExpiry { current with status := decision, decidedAt := decidedAt } decision = true := by
    simp [repairsExpiry]
  refine ⟨{ current with status := decision, decidedAt := decidedAt }, storedAfter, decides,
    ?_, ?_, ?_, ?_⟩
  · intro _ toolCallId named
    rw [grown]
    change ((declinedToolCalls current decision store).find? toolCallId).isSome
    rcases find?_declinedToolCalls current decision store toolCallId with same | ⟨_, -, -, denied⟩
    · rw [same]
      exact isStored toolCallId named
    · rw [denied]
      rfl
  · intro _ call bound waits
    rw [toolCallAfter] at bound
    obtain ⟨before, -, rfl⟩ := Option.map_eq_some_iff.mp bound
    split at waits
    · cases waits
    · rename_i settled
      exact settled waits
  · intro _ requested member
    rw [requestedEvents, sameRecords] at member
    by_cases isKept : (keptEvent (repairsExpiry current decision) requested store).isSome
    · exact keptEvent_isSome_mono kept.events repairs isKept
    · have isNew : requested.id ∈ added.map SessionEvent.id := by
        rw [ids]
        exact List.mem_map_of_mem (mem_unkept member isKept)
      obtain ⟨event, eventMember, sameId⟩ := List.mem_map.mp isNew
      have logged : (after.events.find? fun event => decide (event.id = requested.id)).isSome := by
        rw [List.find?_isSome, grown]
        exact ⟨event, List.mem_append_right _ eventMember, by simpa using sameId⟩
      simp [keptEvent, Option.isSome_or, logged]
  · intro _ requested member
    rw [requestedAudits, sameRecords] at member
    by_cases isKept : (keptAudit (repairsExpiry current decision) requested store).isSome
    · exact keptAudit_isSome_mono kept.audits repairs isKept
    · have logged : (after.auditLogs.find? requested.id).isSome := by
        rw [grown]
        exact insertAudits_isSome
          (.inr (List.mem_map_of_mem (mem_unkept member isKept)))
      simp [keptAudit, Option.isSome_or, logged]

/-- An answered decline stays answered as long as decisions are kept. -/
theorem DeclineAnswered.mono {approvalId : Uuid} {decision : ApprovalStatus} {actorType : String}
    {current : Approval} {before after : MemoryStore}
    (answered : DeclineAnswered codec approvalId decision actorType current before)
    (kept : DecisionKept approvalId before after) :
    DeclineAnswered codec approvalId decision actorType current after := by
  have callStays : current.status = decision → ∀ toolCallId,
      current.toolCallId = some toolCallId → ∃ call,
        before.toolCalls.find? toolCallId = some call ∧
        after.toolCalls.find? toolCallId = some call := by
    intro isDecision toolCallId named
    obtain ⟨call, stored⟩ :=
      Option.isSome_iff_exists.mp (answered.bound isDecision toolCallId named)
    have settled := answered.settled isDecision call (by rw [boundToolCall, named]; exact stored)
    exact ⟨call, stored, kept.toolCall toolCallId call stored settled⟩
  have sameCall : current.status = decision →
      boundToolCall current after = boundToolCall current before := by
    intro isDecision
    unfold boundToolCall
    cases named : current.toolCallId with
    | none => rfl
    | some toolCallId =>
        obtain ⟨call, stored, stays⟩ := callStays isDecision toolCallId named
        rw [Option.bind_some, Option.bind_some, stored, stays]
  constructor
  case found => exact kept.approval current answered.found answered.decided
  case decided => exact answered.decided
  case bound =>
    intro isDecision toolCallId named
    obtain ⟨call, -, stays⟩ := callStays isDecision toolCallId named
    rw [stays]
    rfl
  case settled =>
    intro isDecision
    rw [sameCall isDecision]
    exact answered.settled isDecision
  case events =>
    intro isDecision requested member
    rw [sameCall isDecision] at member
    exact keptEvent_isSome_mono kept.events id (answered.events isDecision requested member)
  case audits =>
    intro isDecision requested member
    rw [sameCall isDecision] at member
    exact keptAudit_isSome_mono kept.audits id (answered.audits isDecision requested member)

end

end MandoForge
