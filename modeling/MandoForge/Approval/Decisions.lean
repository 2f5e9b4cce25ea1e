/-
Module: MandoForge.Approval.Decisions
Purpose: Calls on one approval in any order: an approval is decided at most once, the
  decision stays, and so do the arguments and the denial of its tool call.
Trusted boundary: a call is one critical section of the store's lock.
Main exports: ApprovalCall, approval_decisions_are_final
-/
import MandoForge.Approval.Decline
import MandoForge.Foundation.Runs

namespace MandoForge

open Foundation

/-- A call on one approval, with the time it reads. -/
inductive ApprovalCall where
  | decide (now : Timestamp) (status : ApprovalStatus)
  | decline (now : Timestamp) (decision : ApprovalStatus) (actorType : String)
  | modify (now : Timestamp) (args : Json) (comment : Option String)
deriving DecidableEq, Repr

section

variable (codec : RecordCodec) (approvalId : Uuid)

/-- The error of the call, if it fails, and the store after it. -/
def performCall (call : ApprovalCall) (store : MemoryStore) : Except AppError Unit × MemoryStore :=
  match call with
  | .decide now status =>
      let (answer, store) := decideApproval now approvalId status store
      (answer.map fun _ => (), store)
  | .decline now decision actorType =>
      let (answer, store) := declineApprovalAndToolCall codec now approvalId decision actorType store
      (answer.map fun _ => (), store)
  | .modify now args comment =>
      let (answer, store) := modifyApproval codec.jsonSha256 now approvalId args comment store
      (answer.map fun _ => (), store)

def storeAfterCall (call : ApprovalCall) (store : MemoryStore) : MemoryStore :=
  (performCall codec approvalId call store).2

variable {codec approvalId} {store : MemoryStore}

/-! ### What one call does -/

/-- A decision fails and leaves the store, or decides a pending approval. -/
theorem decideApproval_cases (now : Timestamp) (status : ApprovalStatus) (store : MemoryStore) :
    ((∃ error, (decideApproval now approvalId status store).1 = .error error) ∧
      (decideApproval now approvalId status store).2 = store) ∨
    ∃ approval, store.approvals.find? approvalId = some approval ∧ approval.status = .pending ∧
      decideApproval now approvalId status store = (.ok (approval.decided now status), { store with
        approvals := store.approvals.modify approvalId (Approval.decided now status)
          (Approval.decided_id now status) }) := by
  unfold decideApproval
  split
  · exact .inl ⟨⟨_, rfl⟩, rfl⟩
  · rename_i approval found
    split
    · exact .inl ⟨⟨_, rfl⟩, rfl⟩
    · rename_i isPending
      exact .inr ⟨approval, found, not_not.mp isPending, rfl⟩

theorem modifiedToolCall_ok {jsonSha256 : Json → String} {toolCallId : Uuid} {args : Json}
    {bound : Option String × Json}
    (checked : modifiedToolCall jsonSha256 toolCallId args store = .ok bound) :
    ∃ toolCall, store.toolCalls.find? toolCallId = some toolCall ∧
      toolCall.status = .waitingApproval := by
  unfold modifiedToolCall at checked
  obtain ⟨toolCall, found, checked⟩ := bind_eq_ok.mp checked
  obtain ⟨required, -, checked⟩ := bind_eq_ok.mp checked
  refine ⟨toolCall, okOr_eq_ok.mp found, ?_⟩
  unfold validateModifiedToolArgs at checked
  by_contra settled
  rw [if_pos settled] at checked
  cases checked

/-- What a change of the arguments does to the store, if it goes through. -/
inductive Modified (approvalId : Uuid) (store : MemoryStore) : MemoryStore → Prop
  | payload {approval : Approval} (decisionPayload : Json)
      (found : store.approvals.find? approvalId = some approval)
      (isPending : approval.status = .pending) (unbound : approval.toolCallId = none) :
      Modified approvalId store { store with
        approvals := store.approvals.modify approvalId fun approval =>
          { approval with decisionPayload } }
  | args {approval : Approval} {toolCall : ToolCall} (decisionPayload args : Json)
      (normalizedArgsHash : Option String) (targetBinding : Json)
      (found : store.approvals.find? approvalId = some approval)
      (isPending : approval.status = .pending) (bound : approval.toolCallId = some toolCall.id)
      (stored : store.toolCalls.find? toolCall.id = some toolCall)
      (waits : toolCall.status = .waitingApproval) :
      Modified approvalId store { store with
        approvals := store.approvals.modify approvalId fun approval =>
          { approval with decisionPayload }
        toolCalls := store.toolCalls.modify toolCall.id
          (ToolCall.modified args normalizedArgsHash targetBinding)
          (ToolCall.modified_id args normalizedArgsHash targetBinding) }

/-- A change of the arguments fails and leaves the store, or goes through. -/
theorem modifyApproval_cases (jsonSha256 : Json → String) (now : Timestamp) (args : Json)
    (comment : Option String) (store : MemoryStore) :
    ((∃ error, (modifyApproval jsonSha256 now approvalId args comment store).1 = .error error) ∧
      (modifyApproval jsonSha256 now approvalId args comment store).2 = store) ∨
    (∃ approval, (modifyApproval jsonSha256 now approvalId args comment store).1 = .ok approval) ∧
      Modified approvalId store (modifyApproval jsonSha256 now approvalId args comment store).2 := by
  unfold modifyApproval
  split
  · exact .inl ⟨⟨_, rfl⟩, rfl⟩
  · rename_i approval found
    split
    · exact .inl ⟨⟨_, rfl⟩, rfl⟩
    · rename_i isPending
      replace isPending := not_not.mp isPending
      split
      · exact .inl ⟨⟨_, rfl⟩, rfl⟩
      · dsimp only
        split
        · rename_i unbound
          exact .inr ⟨⟨_, rfl⟩, .payload _ found isPending unbound⟩
        · rename_i toolCallId bound
          split
          · exact .inl ⟨⟨_, rfl⟩, rfl⟩
          · rename_i normalizedArgsHash targetBinding checked
            obtain ⟨toolCall, stored, waits⟩ := modifiedToolCall_ok checked
            obtain rfl : toolCall.id = toolCallId := (Table.find?_eq_some.mp stored).2
            exact .inr ⟨⟨_, rfl⟩, .args _ _ _ _ found isPending bound stored waits⟩

/-- A call that fails leaves the store. -/
theorem performCall_failed (call : ApprovalCall) {error : AppError}
    (failed : (performCall codec approvalId call store).1 = .error error) :
    storeAfterCall codec approvalId call store = store := by
  cases call with
  | decide now status =>
      rcases decideApproval_cases now status store with ⟨-, same⟩ | ⟨approval, -, -, decided⟩
      · exact same
      · simp only [performCall, decided] at failed
        cases failed
  | decline now decision actorType =>
      cases answered : (declineApprovalAndToolCall codec now approvalId decision actorType store).1
      case error error => exact decline_failed answered
      case ok answer =>
        simp only [performCall, answered] at failed
        cases failed
  | modify now args comment =>
      rcases modifyApproval_cases codec.jsonSha256 now args comment store with
        ⟨-, same⟩ | ⟨⟨approval, answered⟩, -⟩
      · exact same
      · simp only [performCall, answered] at failed
        cases failed

theorem modified_kept {after : MemoryStore} (modified : Modified approvalId store after) :
    DecisionKept approvalId store after := by
  cases modified with
  | @payload approval decisionPayload found isPending unbound =>
      constructor
      case approval =>
        intro other isFound decided
        rw [found] at isFound
        obtain rfl := Option.some.inj isFound
        exact absurd isPending decided
      case args => exact fun _ _ _ _ _ => rfl
      case toolCall => exact fun _ _ isFound _ => isFound
      case events => exact List.prefix_rfl
      case audits => exact fun _ _ isKept => isKept
  | @args approval toolCall decisionPayload args argsHash binding found isPending bound stored
      waits =>
      constructor
      case approval =>
        intro other isFound decided
        rw [found] at isFound
        obtain rfl := Option.some.inj isFound
        exact absurd isPending decided
      case args =>
        intro other toolCallId isFound decided _
        rw [found] at isFound
        obtain rfl := Option.some.inj isFound
        exact absurd isPending decided
      case toolCall =>
        intro toolCallId call isFound settled
        have different : toolCallId ≠ toolCall.id := by
          rintro rfl
          rw [stored] at isFound
          obtain rfl := Option.some.inj isFound
          exact settled waits
        rw [← isFound]
        exact @Table.find?_modify_ne _ _ _ _ _ _ _ _ (ToolCall.modified_id _ _ _) different
      case events => exact List.prefix_rfl
      case audits => exact fun _ _ isKept => isKept

theorem decideApproval_kept (now : Timestamp) (status : ApprovalStatus) :
    DecisionKept approvalId store (decideApproval now approvalId status store).2 := by
  rcases decideApproval_cases now status store with ⟨-, same⟩ | ⟨approval, found, isPending, decided⟩
  · rw [same]
    exact .refl store
  · rw [decided]
    constructor
    case approval =>
      intro other isFound isDecided
      rw [found] at isFound
      obtain rfl := Option.some.inj isFound
      exact absurd isPending isDecided
    case args => exact fun _ _ _ _ _ => rfl
    case toolCall => exact fun _ _ isFound _ => isFound
    case events => exact List.prefix_rfl
    case audits => exact fun _ _ isKept => isKept

theorem declineApproval_kept (now : Timestamp) (decision : ApprovalStatus) (actorType : String) :
    DecisionKept approvalId store
      (declineApprovalAndToolCall codec now approvalId decision actorType store).2 := by
  rcases @decline_cases codec now approvalId decision actorType store with
    ⟨-, same⟩ | ⟨-, -, -, same⟩ | ⟨-, current, found, -, -, -, declined⟩
  · rw [same]
    exact .refl store
  · rw [same]
    exact .refl store
  · rw [declined]
    exact declinedStore_kept now actorType found

theorem modifyApproval_kept (jsonSha256 : Json → String) (now : Timestamp) (args : Json)
    (comment : Option String) :
    DecisionKept approvalId store
      (modifyApproval jsonSha256 now approvalId args comment store).2 := by
  rcases @modifyApproval_cases approvalId jsonSha256 now args comment store with
    ⟨-, same⟩ | ⟨-, modified⟩
  · rw [same]
    exact .refl store
  · exact modified_kept modified

theorem performCall_kept (call : ApprovalCall) :
    DecisionKept approvalId store (storeAfterCall codec approvalId call store) := by
  cases call with
  | decide now status => exact decideApproval_kept now status
  | decline now decision actorType => exact declineApproval_kept now decision actorType
  | modify now args comment => exact modifyApproval_kept codec.jsonSha256 now args comment

/-- After a decline that was answered, the same decline changes nothing. -/
theorem answered_of_decline {now : Timestamp} {decision : ApprovalStatus} {actorType : String}
    {answer : Approval × Option ToolCall × List SessionEvent}
    (declined : (declineApprovalAndToolCall codec now approvalId decision actorType store).1 =
      .ok answer) :
    ∃ current, DeclineAnswered codec approvalId decision actorType current
      (declineApprovalAndToolCall codec now approvalId decision actorType store).2 := by
  rcases decline_cases now approvalId decision actorType store with
    ⟨⟨error, failed⟩, -⟩ | ⟨rfl, ⟨current, found, decided, otherwise⟩, -, same⟩ |
      ⟨decides, current, found, declinable, isStored, -, after⟩
  · rw [failed] at declined
    cases declined
  · rw [same]
    exact ⟨current, found, decided, fun isExpired => absurd isExpired otherwise,
      fun isExpired => absurd isExpired otherwise, fun isExpired => absurd isExpired otherwise,
      fun isExpired => absurd isExpired otherwise⟩
  · rw [after]
    exact declinedStore_answered now actorType decides found declinable isStored

/-! ### Any order of calls -/

theorem runCalls_kept (calls : List ApprovalCall) :
    DecisionKept approvalId store (runEvents (storeAfterCall codec approvalId) calls store) := by
  induction calls generalizing store with
  | nil => exact .refl store
  | cons call calls inductionHypothesis =>
      exact (performCall_kept call).trans inductionHypothesis

/-- What holds of an approval, of its tool call and of the logs, whatever calls on the
approval come in which order. -/
structure DecidedForGood (codec : RecordCodec) (approvalId : Uuid) (calls : List ApprovalCall)
    (start : MemoryStore) : Prop where
  /-- No two states know different decisions. -/
  unique : ∀ front other, front <+: calls → other <+: calls → ∀ decided known,
    (runEvents (storeAfterCall codec approvalId) front start).approvals.find? approvalId =
      some decided → decided.status ≠ .pending →
    (runEvents (storeAfterCall codec approvalId) other start).approvals.find? approvalId =
      some known → known.status ≠ .pending →
    decided = known
  /-- A decided approval stays, with the arguments of its tool call. -/
  final : ∀ front later, front ++ later <+: calls → ∀ decided,
    (runEvents (storeAfterCall codec approvalId) front start).approvals.find? approvalId =
      some decided → decided.status ≠ .pending →
    (runEvents (storeAfterCall codec approvalId) (front ++ later) start).approvals.find?
        approvalId = some decided ∧
      ∀ toolCallId, decided.toolCallId = some toolCallId →
        ((runEvents (storeAfterCall codec approvalId) (front ++ later) start).toolCalls.find?
          toolCallId).map ToolCall.args =
        ((runEvents (storeAfterCall codec approvalId) front start).toolCalls.find?
          toolCallId).map ToolCall.args
  /-- A denied tool call stays denied. -/
  denied : ∀ front later, front ++ later <+: calls → ∀ toolCallId toolCall,
    (runEvents (storeAfterCall codec approvalId) front start).toolCalls.find? toolCallId =
      some toolCall → toolCall.status = .denied →
    (runEvents (storeAfterCall codec approvalId) (front ++ later) start).toolCalls.find?
      toolCallId = some toolCall
  /-- A call that fails changes nothing. -/
  failed : ∀ front call error, front ++ [call] <+: calls →
    (performCall codec approvalId call
      (runEvents (storeAfterCall codec approvalId) front start)).1 = .error error →
    runEvents (storeAfterCall codec approvalId) (front ++ [call]) start =
      runEvents (storeAfterCall codec approvalId) front start
  /-- A decline that was answered changes nothing when it is repeated. -/
  repeated : ∀ front now between later decision actorType,
    front ++ .decline now decision actorType :: between ++ [.decline later decision actorType] <+:
      calls →
    (performCall codec approvalId (.decline now decision actorType)
      (runEvents (storeAfterCall codec approvalId) front start)).1 = .ok () →
    runEvents (storeAfterCall codec approvalId)
        (front ++ .decline now decision actorType :: between ++
          [.decline later decision actorType]) start =
      runEvents (storeAfterCall codec approvalId)
        (front ++ .decline now decision actorType :: between) start

theorem approval_decisions_are_final (codec : RecordCodec) (approvalId : Uuid)
    (calls : List ApprovalCall) (start : MemoryStore) :
    DecidedForGood codec approvalId calls start := by
  have keeps : ∀ front later, DecisionKept approvalId
      (runEvents (storeAfterCall codec approvalId) front start)
      (runEvents (storeAfterCall codec approvalId) (front ++ later) start) := by
    intro front later
    rw [runEvents_append]
    exact runCalls_kept later
  constructor
  case unique =>
    intro front other frontPrefix otherPrefix decided known isDecided decides isKnown knows
    rcases List.prefix_or_prefix_of_prefix frontPrefix otherPrefix with ⟨later, rfl⟩ | ⟨later, rfl⟩
    · have stays := (keeps front later).approval decided isDecided decides
      exact Option.some.inj (stays.symm.trans isKnown)
    · have stays := (keeps other later).approval known isKnown knows
      exact Option.some.inj (isDecided.symm.trans stays)
  case final =>
    intro front later _ decided isDecided decides
    exact ⟨(keeps front later).approval decided isDecided decides, fun toolCallId bound =>
      (keeps front later).args decided toolCallId isDecided decides bound⟩
  case denied =>
    intro front later _ toolCallId toolCall stored isDenied
    apply (keeps front later).toolCall toolCallId toolCall stored
    rw [isDenied]
    exact nofun
  case failed =>
    intro front call error _ fails
    rw [runEvents_append]
    exact performCall_failed call fails
  case repeated =>
    intro front now between later decision actorType _ answers
    rw [runEvents_append _ (front ++ _), runEvents_append, runEvents_cons]
    generalize runEvents (storeAfterCall codec approvalId) front start = before at answers ⊢
    cases declined : (declineApprovalAndToolCall codec now approvalId decision actorType before).1
    case error error =>
      simp only [performCall, declined] at answers
      cases answers
    case ok answer =>
      obtain ⟨current, answered⟩ := answered_of_decline declined
      exact (answered.mono (runCalls_kept between)).unchanged later

end

end MandoForge
