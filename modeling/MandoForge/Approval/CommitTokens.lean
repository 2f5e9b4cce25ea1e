/-
Module: MandoForge.Approval.CommitTokens
Purpose: Calls that consume the commit token of an approval, one store operation at a
  time.  The token is read and checked in one operation and consumed in a later one
  that does not look at the status, so the token is used once exactly when no other
  call consumes it between the two.
Trusted boundary: an operation is one critical section of the in-memory store; the
  clock and the issued identifiers belong to the world beside it.
Main exports: consumeValidApprovalCommitTokenForToolCall, commit_token_used_once_iff
-/
import MandoForge.Foundation.Interleaving
import MandoForge.Foundation.Runs
import MandoForge.Store.Approvals

namespace MandoForge

open Foundation

/-! ### The store operations of a call -/

/-- A world, and the tokens that were consumed, newest first, each as it was before. -/
structure TokenWorld extends ExecutionWorld where
  /-- A ghost record. -/
  consumedTokens : List ApprovalCommitToken := []

inductive TokenOperation where
  | newUuid
  | readClock
  | approvalCommitTokenForApproval (approvalId : Uuid)
  | getTaskGrant (grantId : Uuid)
  | consumeApprovalCommitToken (tokenId : Uuid)
  | appendEvent (entry : NewEvent)
  | appendAuditLog (audit : AuditLog)
deriving DecidableEq

def TokenOperation.Answer : TokenOperation → Type
  | newUuid => Uuid
  | readClock => Timestamp
  | approvalCommitTokenForApproval _ => Option ApprovalCommitToken
  | getTaskGrant _ => Except AppError TaskGrant
  | consumeApprovalCommitToken _ => Except AppError ApprovalCommitToken
  | appendEvent _ => Except AppError SessionEvent
  | appendAuditLog _ => Except AppError Unit

def TokenOperation.perform :
    (operation : TokenOperation) → TokenWorld → operation.Answer × TokenWorld
  | newUuid, world => (world.freshUuid, { world with issuedUuid := world.freshUuid })
  | readClock, world => (world.clock, world)
  | approvalCommitTokenForApproval approvalId, world =>
      (MandoForge.approvalCommitTokenForApproval approvalId world.store, world)
  | getTaskGrant grantId, world =>
      (okOr (world.store.taskGrants.find? grantId) (.notFound "task grant not found"), world)
  | consumeApprovalCommitToken tokenId, world =>
      let (answer, store) :=
        MandoForge.consumeApprovalCommitToken world.clock tokenId world.store
      (answer, { world with
        store
        consumedTokens :=
          (world.store.approvalCommitTokens.find? tokenId).toList ++ world.consumedTokens })
  | appendEvent entry, world =>
      let (answer, store) := appendEventWithId world.freshUuid false entry world.store
      (answer, { world with store, issuedUuid := world.freshUuid })
  | appendAuditLog audit, world =>
      let (answer, store) := MandoForge.appendAuditLog audit world.store
      (answer, { world with store })

def TokenStore : StoreInterface TokenWorld where
  Operation := TokenOperation
  Answer := TokenOperation.Answer
  perform := TokenOperation.perform

abbrev TokenProgram := Program TokenStore AppError

/-! ### A call -/

/-- The checks of the token that was read. -/
def commitTokenChecks (approval : Approval) (toolCall : ToolCall) (now : Timestamp) :
    Option ApprovalCommitToken → Except AppError (ApprovalCommitToken × Uuid)
  | none => .error (.forbidden "approval commit token is required")
  | some token =>
      if token.status ≠ .issued then
        .error (.forbidden "approval commit token is not issued")
      else if token.expiresAt ≤ now then
        .error (.forbidden "approval commit token is expired")
      else if token.toolCallId ≠ toolCall.id ∨ token.sessionId ≠ approval.sessionId ∨
          token.toolName ≠ toolCall.toolName then
        .error (.forbidden "approval commit token does not match tool call")
      else
        match toolCall.taskGrantId with
        | none => .error (.forbidden "approval commit token requires task grant binding")
        | some taskGrantId =>
            if token.taskGrantId ≠ taskGrantId then
              .error (.forbidden "approval commit token task grant does not match tool call")
            else .ok (token, taskGrantId)

/-- The checks of the token under its task grant. -/
def commitGrantChecks (jsonSha256 : Json → String) (token : ApprovalCommitToken)
    (toolCall : ToolCall) (grant : TaskGrant) (now : Timestamp) : Except AppError Unit := do
  if grant.status ≠ .active then
    throw (.forbidden "task grant is not active")
  if grant.expiresAt.any (· ≤ now) then
    throw (.forbidden "task grant is expired")
  if !taskGrantRequiresApprovalCommitToken grant toolCall.toolName then
    throw (.forbidden "approval commit token is only valid for commit_write effects")
  if let some reason ← taskGrantConnectorInvocationDenial grant toolCall.toolName toolCall.args then
    throw (.forbidden reason)
  let binding ← approvalCommitBindingForArgs jsonSha256 toolCall.toolName toolCall.args
  if token.normalizedArgsHash ≠ binding.normalizedArgsHash ∨
      token.targetBinding ≠ binding.targetBinding then
    throw (.forbidden "approval commit token digest does not match current tool call args")

def validateApprovalCommitTokenForToolCall (jsonSha256 : Json → String) (approval : Approval)
    (toolCall : ToolCall) : TokenProgram ApprovalCommitToken := do
  let found : Option ApprovalCommitToken ←
    Program.perform (I := TokenStore) (.approvalCommitTokenForApproval approval.id)
  let tokenRead : Timestamp ← Program.perform (I := TokenStore) .readClock
  let (token, taskGrantId) ←
    Program.ofExcept (commitTokenChecks approval toolCall tokenRead found)
  let grant : TaskGrant ← Program.attempt (I := TokenStore) (.getTaskGrant taskGrantId) id
  let grantRead : Timestamp ← Program.perform (I := TokenStore) .readClock
  Program.ofExcept (commitGrantChecks jsonSha256 token toolCall grant grantRead)
  return token

/-- The event that tells of the consumed token. -/
def consumedTokenEvent (approval : Approval) (toolCall : ToolCall)
    (consumed : ApprovalCommitToken) : NewEvent where
  actorType := "system"
  actorId := some consumed.id
  sessionId := approval.sessionId
  eventType := "approval_commit_token.consumed"
  payload := .ofFields [("approval_commit_token_id", .ofUuid consumed.id),
    ("approval_id", .ofUuid approval.id), ("tool_call_id", .ofUuid toolCall.id),
    ("task_grant_id", .ofUuid consumed.taskGrantId), ("tool", .string consumed.toolName),
    ("normalized_args_hash", .string consumed.normalizedArgsHash)]

def consumedTokenAudit (auditId : Uuid) (approval : Approval) (toolCall : ToolCall)
    (consumed : ApprovalCommitToken) : AuditLog where
  id := auditId
  sessionId := some approval.sessionId
  actorType := "worker"
  actorId := some consumed.id
  action := "approval_commit_token.consumed"
  resourceType := "approval_commit_token"
  resourceId := some consumed.id
  details := .ofFields [("approval_id", .ofUuid approval.id), ("tool_call_id", .ofUuid toolCall.id),
    ("task_grant_id", .ofUuid consumed.taskGrantId), ("tool", .string consumed.toolName),
    ("normalized_args_hash", .string consumed.normalizedArgsHash)]

def consumeValidApprovalCommitTokenForToolCall (jsonSha256 : Json → String) (approval : Approval)
    (toolCall : ToolCall) : TokenProgram ApprovalCommitToken := do
  let token ← validateApprovalCommitTokenForToolCall jsonSha256 approval toolCall
  let consumed : ApprovalCommitToken ←
    Program.attempt (I := TokenStore) (.consumeApprovalCommitToken token.id) id
  let _event : SessionEvent ←
    Program.attempt (I := TokenStore)
      (.appendEvent (consumedTokenEvent approval toolCall consumed)) id
  let auditId : Uuid ← Program.perform (I := TokenStore) .newUuid
  let _audit : Unit ← Program.attempt (I := TokenStore)
    (.appendAuditLog (consumedTokenAudit auditId approval toolCall consumed)) id
  return consumed

/-! ### Calls that run at the same time -/

/-- What a call was told: the token it read, and whether it has consumed one. -/
structure TokenTold where
  seen : Option ApprovalCommitToken
  hasConsumed : Bool
deriving DecidableEq

/-- A call remembers the token that it read last and whether another call has consumed
one since. -/
def tokenObserver : Observer TokenStore TokenTold Bool where
  tells
    | .approvalCommitTokenForApproval _, found, told => { told with seen := found }
    | .consumeApprovalCommitToken _, .ok _, _ => ⟨none, true⟩
    | _, _, told => told
  acts
    | .approvalCommitTokenForApproval _, _, _ => false
    | _, _, overtaken => overtaken
  overhears
    | .consumeApprovalCommitToken _, .ok _, _ => true
    | _, _, overtaken => overtaken

abbrev TokenPool := Pool TokenStore AppError ApprovalCommitToken TokenTold Bool

inductive TokenEvent where
  /-- A call begins, with the approval and the tool call as its caller read them. -/
  | enter (approval : Approval) (toolCall : ToolCall)
  /-- One of the calls performs its next store operation. -/
  | operate (index : Nat)
  /-- The world changes beside the calls; the tokens stay. -/
  | elsewhere (world : ExecutionWorld)

/-- An event that cannot happen changes nothing. -/
def TokenEvent.perform (jsonSha256 : Json → String) (approvalId : Uuid) (event : TokenEvent)
    (pool : TokenPool) : TokenPool :=
  match event with
  | .enter approval toolCall =>
      if approval.id = approvalId then
        pool.enter (consumeValidApprovalCommitTokenForToolCall jsonSha256 approval toolCall)
          ⟨none, false⟩ false
      else pool
  | .operate index => pool.operate tokenObserver index
  | .elsewhere world =>
      if world.store.approvalCommitTokens = pool.state.store.approvalCommitTokens then
        { pool with state := { world with consumedTokens := pool.state.consumedTokens } }
      else pool

/-- No call is under way. -/
def idlePool (world : ExecutionWorld) : TokenPool where
  state := { world with }
  calls := []

/-- The token of the approval is used once: one call consumes it and at most one ends
with a result, and no token is consumed that was consumed before. -/
structure UsedOnce (pool : TokenPool) : Prop where
  once : pool.calls.countP (fun call => call.told.hasConsumed) ≤ 1
  committed : pool.calls.countP PoolCall.succeeded ≤ 1
  neverAgain : ∀ token ∈ pool.state.consumedTokens, token.status = .issued

def TokenOperation.consumes : TokenOperation → Bool
  | consumeApprovalCommitToken _ => true
  | _ => false

/-- The call is about to consume a token. -/
def consumesNext (call : PoolCall TokenStore AppError ApprovalCommitToken TokenTold Bool) : Bool :=
  match call.program with
  | .call operation _ => TokenOperation.consumes operation
  | _ => false

/-- A call consumes the token only if no other call has consumed one since it read the
token. -/
def ConsumesUnovertaken (event : TokenEvent) (pool : TokenPool) : Prop :=
  match event with
  | .operate index => ∀ call ∈ pool.calls[index]?, consumesNext call = true → call.heard = false
  | _ => True

/-! ### The protocol of the calls -/

section

variable {approvalId : Uuid} {jsonSha256 : Json → String}

/-- A call looks for the token of the approval, and consumes once, the token that it
read as issued. -/
def TokenAllowed (approvalId : Uuid) (told : TokenTold) (operation : TokenStore.Operation) : Prop :=
  match operation with
  | .approvalCommitTokenForApproval wanted => wanted = approvalId
  | .consumeApprovalCommitToken tokenId => told.hasConsumed = false ∧
      ∃ token, told.seen = some token ∧ token.status = .issued ∧ token.id = tokenId
  | _ => True

/-- Once a token was consumed, the token of the approval is. -/
def TokenKept (approvalId : Uuid) (world : TokenWorld) : Prop :=
  world.consumedTokens ≠ [] → ∀ token,
    approvalCommitTokenForApproval approvalId world.store = some token → token.status = .consumed

/-- The token a call read is the one of the approval, and unchanged unless the call was
overtaken. -/
structure TokenOwned (approvalId : Uuid) (world : TokenWorld) (told : TokenTold)
    (overtaken : Bool) : Prop where
  seen : ∀ token, told.seen = some token → ∃ stored,
    approvalCommitTokenForApproval approvalId world.store = some stored ∧ stored.id = token.id ∧
      (overtaken = false → stored = token)
  overtaken : overtaken = true → world.consumedTokens ≠ []

theorem commitTokenChecks_ok {approval : Approval} {toolCall : ToolCall} {now : Timestamp}
    {found : Option ApprovalCommitToken} {token : ApprovalCommitToken} {taskGrantId : Uuid}
    (passed : commitTokenChecks approval toolCall now found = .ok (token, taskGrantId)) :
    found = some token ∧ token.status = .issued := by
  cases found with
  | none => cases passed
  | some found =>
      unfold commitTokenChecks at passed
      dsimp only at passed
      by_cases isIssued : found.status = .issued
      · rw [if_neg (not_not.mpr isIssued)] at passed
        have same : found = token := by
          repeat' split at passed
          all_goals first
            | exact congrArg Prod.fst (Except.ok.inj passed)
            | cases passed
        subst same
        exact ⟨rfl, isIssued⟩
      · rw [if_pos isIssued] at passed
        cases passed

/-- A validated token is the one that was read, and was read as issued. -/
theorem validate_respects (approval : Approval) (toolCall : ToolCall)
    (sameApproval : approval.id = approvalId) :
    (validateApprovalCommitTokenForToolCall jsonSha256 approval toolCall).Respects
      tokenObserver.tells (TokenAllowed approvalId) ⟨none, false⟩
      fun token told => told = ⟨some token, false⟩ ∧ token.status = .issued := by
  unfold validateApprovalCommitTokenForToolCall
  apply Program.Respects.bind
  refine ⟨sameApproval, fun found => ?_⟩
  apply Program.Respects.bind
  refine ⟨trivial, fun tokenRead => ?_⟩
  apply Program.Respects.bind
  rw [Program.respects_ofExcept]
  rintro ⟨token, taskGrantId⟩ checked
  obtain ⟨rfl, isIssued⟩ := commitTokenChecks_ok checked
  apply Program.Respects.bind
  refine ⟨trivial, fun given => Program.respects_ofExcept.mpr fun grant _ => ?_⟩
  apply Program.Respects.bind
  refine ⟨trivial, fun grantRead => ?_⟩
  apply Program.Respects.bind
  rw [Program.respects_ofExcept]
  intro _ _
  exact ⟨rfl, isIssued⟩

/-- A call goes by the protocol and has consumed the token when it ends with a result. -/
theorem consumeValid_respects (approval : Approval) (toolCall : ToolCall)
    (sameApproval : approval.id = approvalId) :
    (consumeValidApprovalCommitTokenForToolCall jsonSha256 approval toolCall).Respects
      tokenObserver.tells (TokenAllowed approvalId) ⟨none, false⟩
      fun _ told => told.hasConsumed = true := by
  unfold consumeValidApprovalCommitTokenForToolCall
  apply Program.Respects.bind
  apply (validate_respects approval toolCall sameApproval).mono
  rintro token told ⟨rfl, isIssued⟩
  apply Program.Respects.bind
  refine ⟨⟨rfl, token, rfl, isIssued, rfl⟩, fun given =>
    Program.respects_ofExcept.mpr fun consumed isConsumed => ?_⟩
  obtain rfl : given = .ok consumed := isConsumed
  apply Program.Respects.bind
  refine ⟨trivial, fun given => Program.respects_ofExcept.mpr fun event _ => ?_⟩
  apply Program.Respects.bind
  refine ⟨trivial, fun auditId => ?_⟩
  apply Program.Respects.bind
  refine ⟨trivial, fun given => Program.respects_ofExcept.mpr fun audit _ => ?_⟩
  rfl

/-! ### What an operation does to the tokens -/

/-- The token of the approval after a token was consumed. -/
theorem approvalCommitTokenForApproval_consume (now : Timestamp) (tokenId : Uuid)
    (store : MemoryStore) :
    approvalCommitTokenForApproval approvalId (consumeApprovalCommitToken now tokenId store).2 =
      (approvalCommitTokenForApproval approvalId store).map fun token =>
        if token.id = tokenId then token.consume now else token := by
  unfold consumeApprovalCommitToken
  split
  · rename_i absent
    cases found : approvalCommitTokenForApproval approvalId store with
    | none => rfl
    | some token =>
        have different : token.id ≠ tokenId := by
          intro same
          exact Table.find?_eq_none.mp absent token (List.mem_of_find?_eq_some found) same
        rw [Option.map_some, if_neg different]
  · unfold approvalCommitTokenForApproval
    rw [Table.rows_modify, List.find?_map]
    congr 2
    funext token
    rw [Function.comp_apply]
    split <;> rfl

theorem appendEventWithId_tokens {eventId : Uuid} {idempotent : Bool} {entry : NewEvent}
    {store : MemoryStore} :
    (appendEventWithId eventId idempotent entry store).2.approvalCommitTokens =
      store.approvalCommitTokens := by
  unfold appendEventWithId
  split
  · rfl
  · split <;> rfl

theorem appendAuditLog_tokens {audit : AuditLog} {store : MemoryStore} :
    (appendAuditLog audit store).2.approvalCommitTokens = store.approvalCommitTokens := by
  unfold appendAuditLog
  split
  · split <;> rfl
  · rfl

theorem tokens_of_quiet {operation : TokenOperation} {world : TokenWorld}
    (quiet : operation.consumes = false) :
    (TokenStore.perform operation world).2.store.approvalCommitTokens =
        world.store.approvalCommitTokens ∧
      (TokenStore.perform operation world).2.consumedTokens = world.consumedTokens := by
  cases operation with
  | consumeApprovalCommitToken tokenId => cases quiet
  | appendEvent entry =>
      exact ⟨@appendEventWithId_tokens world.freshUuid false entry world.store, rfl⟩
  | appendAuditLog audit => exact ⟨@appendAuditLog_tokens audit world.store, rfl⟩
  | newUuid => exact ⟨rfl, rfl⟩
  | readClock => exact ⟨rfl, rfl⟩
  | approvalCommitTokenForApproval wanted => exact ⟨rfl, rfl⟩
  | getTaskGrant grantId => exact ⟨rfl, rfl⟩

/-- A consumption that the protocol allows finds the token of the approval. -/
theorem consumption_finds {world : TokenWorld} {told : TokenTold} {overtaken : Bool}
    {tokenId : Uuid} (owned : TokenOwned approvalId world told overtaken)
    (isAllowed : TokenAllowed approvalId told (.consumeApprovalCommitToken tokenId)) :
    ∃ stored, approvalCommitTokenForApproval approvalId world.store = some stored ∧
      stored.id = tokenId ∧ (overtaken = false → stored.status = .issued) ∧
      TokenStore.perform (.consumeApprovalCommitToken tokenId) world =
        (.ok (stored.consume world.clock), { world with
          store := (consumeApprovalCommitToken world.clock tokenId world.store).2
          consumedTokens := stored :: world.consumedTokens }) := by
  obtain ⟨-, token, isSeen, isIssued, rfl⟩ := isAllowed
  obtain ⟨stored, found, sameId, unchanged⟩ := owned.seen token isSeen
  have inTable : world.store.approvalCommitTokens.find? token.id = some stored := by
    rw [Table.find?_eq_some]
    exact ⟨List.mem_of_find?_eq_some found, sameId⟩
  refine ⟨stored, found, sameId, fun isCurrent => ?_, ?_⟩
  · rw [unchanged isCurrent]
    exact isIssued
  · change (_, _) = _
    unfold consumeApprovalCommitToken
    rw [inTable]
    rfl

theorem kept_of_quiet {operation : TokenOperation} {world : TokenWorld}
    (kept : TokenKept approvalId world) (quiet : operation.consumes = false) :
    TokenKept approvalId (TokenStore.perform operation world).2 := by
  obtain ⟨sameTokens, sameConsumed⟩ := @tokens_of_quiet operation world quiet
  unfold TokenKept approvalCommitTokenForApproval at kept ⊢
  rw [sameTokens, sameConsumed]
  exact kept

theorem owned_of_quiet {operation : TokenOperation} {world : TokenWorld} {told : TokenTold}
    {overtaken : Bool} (owned : TokenOwned approvalId world told overtaken)
    (quiet : operation.consumes = false) :
    TokenOwned approvalId (TokenStore.perform operation world).2 told overtaken := by
  obtain ⟨sameTokens, sameConsumed⟩ := @tokens_of_quiet operation world quiet
  constructor
  case seen =>
    intro token isSeen
    obtain ⟨stored, found, same⟩ := owned.seen token isSeen
    refine ⟨stored, ?_, same⟩
    unfold approvalCommitTokenForApproval at found ⊢
    rw [sameTokens]
    exact found
  case overtaken =>
    intro isOvertaken
    rw [sameConsumed]
    exact owned.overtaken isOvertaken

theorem kept_of_consumption {world : TokenWorld} {told : TokenTold} {overtaken : Bool}
    {tokenId : Uuid} (owned : TokenOwned approvalId world told overtaken)
    (isAllowed : TokenAllowed approvalId told (.consumeApprovalCommitToken tokenId)) :
    TokenKept approvalId (TokenStore.perform (.consumeApprovalCommitToken tokenId) world).2 := by
  obtain ⟨stored, found, rfl, -, consumption⟩ := consumption_finds owned isAllowed
  rw [consumption]
  intro _ token isToken
  change approvalCommitTokenForApproval approvalId
    (consumeApprovalCommitToken world.clock stored.id world.store).2 = some token at isToken
  rw [approvalCommitTokenForApproval_consume, found, Option.map_some, if_pos rfl] at isToken
  rw [← Option.some.inj isToken]
  rfl

/-- A call that was told the token before another one consumed it is overtaken. -/
theorem owned_of_consumption {world : TokenWorld} {told otherTold : TokenTold}
    {overtaken otherOvertaken : Bool} {tokenId : Uuid}
    (owned : TokenOwned approvalId world told overtaken)
    (isAllowed : TokenAllowed approvalId told (.consumeApprovalCommitToken tokenId))
    (other : TokenOwned approvalId world otherTold otherOvertaken) :
    TokenOwned approvalId (TokenStore.perform (.consumeApprovalCommitToken tokenId) world).2
      otherTold true := by
  obtain ⟨stored, found, rfl, -, consumption⟩ := consumption_finds owned isAllowed
  rw [consumption]
  constructor
  case seen =>
    intro token isSeen
    obtain ⟨known, isKnown, sameId, -⟩ := other.seen token isSeen
    rw [found] at isKnown
    obtain rfl := Option.some.inj isKnown
    refine ⟨stored.consume world.clock, ?_, sameId, nofun⟩
    change approvalCommitTokenForApproval approvalId
      (consumeApprovalCommitToken world.clock stored.id world.store).2 = _
    rw [approvalCommitTokenForApproval_consume, found, Option.map_some, if_pos rfl]
  case overtaken =>
    intro _
    exact List.cons_ne_nil _ _

theorem tokenProtocol :
    Protocol tokenObserver (TokenAllowed approvalId) (TokenKept approvalId)
      (TokenOwned approvalId) := by
  constructor
  case state =>
    intro operation world told overtaken kept owned isAllowed
    cases operation with
    | consumeApprovalCommitToken tokenId => exact kept_of_consumption owned isAllowed
    | _ => exact kept_of_quiet kept (by rfl)
  case acting =>
    intro operation world told overtaken kept owned isAllowed
    cases operation with
    | consumeApprovalCommitToken tokenId =>
        obtain ⟨stored, -, -, -, consumption⟩ := consumption_finds owned isAllowed
        have after := owned_of_consumption owned isAllowed owned
        rw [consumption] at after ⊢
        constructor
        case seen => exact fun token isSeen => nomatch isSeen
        case overtaken => exact fun _ => after.overtaken rfl
    | approvalCommitTokenForApproval wanted =>
        obtain rfl : wanted = approvalId := isAllowed
        constructor
        case seen => exact fun token isSeen => ⟨token, isSeen, rfl, fun _ => rfl⟩
        case overtaken => exact nofun
    | _ => exact owned_of_quiet owned (by rfl)
  case others =>
    intro operation world told overtaken otherTold otherOvertaken kept owned isAllowed other
    cases operation with
    | consumeApprovalCommitToken tokenId =>
        obtain ⟨stored, -, -, -, consumption⟩ := consumption_finds owned isAllowed
        have after := owned_of_consumption owned isAllowed other
        rw [consumption] at after ⊢
        exact after
    | _ => exact owned_of_quiet other (by rfl)

/-! ### Every interleaving -/

/-- Every call goes by the protocol, and each consumption is the one of a call. -/
structure TokenShaped (approvalId : Uuid) (pool : TokenPool) : Prop where
  follows : pool.Follows tokenObserver (TokenAllowed approvalId) (TokenKept approvalId)
    (TokenOwned approvalId) fun _ told => told.hasConsumed = true
  counted : pool.calls.countP (fun call => call.told.hasConsumed) =
    pool.state.consumedTokens.length

variable {pool : TokenPool} {index : Nat} {operation : TokenOperation}
  {next : TokenStore.Answer operation → TokenProgram ApprovalCommitToken} {told : TokenTold}
  {overtaken : Bool}

theorem usedOnce_iff (shaped : TokenShaped approvalId pool) :
    UsedOnce pool ↔ pool.state.consumedTokens.length ≤ 1 ∧
      ∀ token ∈ pool.state.consumedTokens, token.status = .issued := by
  have committed : pool.calls.countP PoolCall.succeeded ≤ pool.state.consumedTokens.length := by
    rw [← shaped.counted]
    apply List.countP_mono_left
    intro call member succeeded
    obtain ⟨result, finished⟩ := shaped.follows.of_succeeded member succeeded
    exact finished
  constructor
  · intro used
    exact ⟨shaped.counted ▸ used.once, used.neverAgain⟩
  · rintro ⟨once, neverAgain⟩
    exact ⟨shaped.counted ▸ once, committed.trans once, neverAgain⟩

theorem tells_quiet (quiet : operation.consumes = false) (answer : TokenStore.Answer operation) :
    (tokenObserver.tells operation answer told).hasConsumed = told.hasConsumed := by
  cases operation with
  | consumeApprovalCommitToken tokenId => cases quiet
  | _ => rfl

theorem consumedTokens_operate
    (found : pool.calls[index]? = some ⟨.call operation next, told, overtaken⟩) :
    (pool.operate tokenObserver index).state.consumedTokens =
      (TokenStore.perform operation pool.state).2.consumedTokens := by
  rw [Pool.operate, found]

/-- The consumption by a call. -/
theorem consumption_operate (shaped : TokenShaped approvalId pool)
    (found : pool.calls[index]? = some ⟨.call operation next, told, overtaken⟩)
    (consumes : operation.consumes = true) :
    ∃ stored, approvalCommitTokenForApproval approvalId pool.state.store = some stored ∧
      (overtaken = false → stored.status = .issued) ∧
      (pool.operate tokenObserver index).state.consumedTokens =
        stored :: pool.state.consumedTokens ∧
      told.hasConsumed = false ∧
      (tokenObserver.tells operation (TokenStore.perform operation pool.state).1
        told).hasConsumed = true := by
  obtain ⟨owned, isAllowed⟩ := shaped.follows.allowed_next found
  rw [consumedTokens_operate found]
  cases operation with
  | consumeApprovalCommitToken tokenId =>
      obtain ⟨stored, isStored, -, current, consumption⟩ := consumption_finds owned isAllowed
      rw [consumption]
      exact ⟨stored, isStored, current, rfl, isAllowed.1, rfl⟩
  | _ => cases consumes

theorem counted_operate (shaped : TokenShaped approvalId pool) :
    (pool.operate tokenObserver index).calls.countP (fun call => call.told.hasConsumed) =
      (pool.operate tokenObserver index).state.consumedTokens.length := by
  have counted := shaped.counted
  cases found : pool.calls[index]? with
  | none =>
      rw [Pool.operate, found]
      exact counted
  | some call =>
      obtain ⟨program, told, overtaken⟩ := call
      cases program with
      | done result =>
          rw [Pool.operate, found]
          exact counted
      | failed error =>
          rw [Pool.operate, found]
          exact counted
      | call operation next =>
          have recounted := @countP_operate _ _ _ _ _ _ tokenObserver TokenTold.hasConsumed _ _ _
            _ _ _ found
          cases consumes : TokenOperation.consumes operation with
          | false =>
              have sameConsumed := (@tokens_of_quiet operation pool.state consumes).2
              rw [tells_quiet consumes] at recounted
              rw [consumedTokens_operate found, sameConsumed]
              omega
          | true =>
              obtain ⟨stored, -, -, consumption, before, after⟩ :=
                consumption_operate shaped found consumes
              rw [before, after] at recounted
              rw [consumption, List.length_cons]
              simpa [counted] using recounted

theorem tokenShaped_perform (event : TokenEvent) (shaped : TokenShaped approvalId pool) :
    TokenShaped approvalId (event.perform jsonSha256 approvalId pool) := by
  cases event with
  | enter approval toolCall =>
      unfold TokenEvent.perform
      dsimp only
      split
      · rename_i sameApproval
        constructor
        case follows =>
          apply shaped.follows.enter
          · exact ⟨nofun, nofun⟩
          · exact consumeValid_respects approval toolCall sameApproval
        case counted =>
          rw [Pool.enter, List.countP_append, shaped.counted]
          rfl
      · exact shaped
  | operate index =>
      exact ⟨shaped.follows.operate tokenProtocol index, counted_operate shaped⟩
  | elsewhere world =>
      unfold TokenEvent.perform
      dsimp only
      split
      · rename_i sameTokens
        constructor
        case follows =>
          apply shaped.follows.elsewhere
          · have kept := shaped.follows.state
            unfold TokenKept approvalCommitTokenForApproval at kept ⊢
            rw [sameTokens]
            exact kept
          · intro told overtaken owned
            constructor
            case seen =>
              have seen := owned.seen
              unfold approvalCommitTokenForApproval at seen ⊢
              rw [sameTokens]
              exact seen
            case overtaken => exact owned.overtaken
        case counted => exact shaped.counted
      · exact shaped

/-- The call at the position is about to consume a token, or it leaves the ghost record. -/
theorem consumes_or_stays (pool : TokenPool) (index : Nat) :
    (∃ operation next told overtaken,
      pool.calls[index]? = some ⟨.call operation next, told, overtaken⟩ ∧
        TokenOperation.consumes operation = true) ∨
    ((pool.operate tokenObserver index).state.consumedTokens = pool.state.consumedTokens ∧
      ∀ call ∈ pool.calls[index]?, consumesNext call = false) := by
  cases found : pool.calls[index]? with
  | none =>
      rw [Pool.operate, found]
      exact .inr ⟨rfl, by simp⟩
  | some call =>
      obtain ⟨program, told, overtaken⟩ := call
      cases program with
      | done result =>
          rw [Pool.operate, found]
          exact .inr ⟨rfl, fun call isCall => Option.some.inj isCall ▸ rfl⟩
      | failed error =>
          rw [Pool.operate, found]
          exact .inr ⟨rfl, fun call isCall => Option.some.inj isCall ▸ rfl⟩
      | call operation next =>
          cases consumes : TokenOperation.consumes operation with
          | true => exact .inl ⟨operation, next, told, overtaken, rfl, consumes⟩
          | false =>
              have sameConsumed := (@tokens_of_quiet operation pool.state consumes).2
              refine .inr ⟨(consumedTokens_operate found).trans sameConsumed, ?_⟩
              intro call isCall
              rw [← Option.some.inj isCall]
              exact consumes

/-- The token stays used once exactly when no overtaken call consumes it. -/
theorem usedOnce_perform (event : TokenEvent) (shaped : TokenShaped approvalId pool)
    (used : UsedOnce pool) :
    UsedOnce (event.perform jsonSha256 approvalId pool) ↔ ConsumesUnovertaken event pool := by
  rw [usedOnce_iff (tokenShaped_perform event shaped)]
  rw [usedOnce_iff shaped] at used
  obtain ⟨once, neverAgain⟩ := used
  cases event with
  | enter approval toolCall =>
      have same : ((TokenEvent.enter approval toolCall).perform jsonSha256 approvalId
          pool).state = pool.state := by
        unfold TokenEvent.perform
        dsimp only
        split <;> rfl
      rw [same]
      exact ⟨fun _ => trivial, fun _ => ⟨once, neverAgain⟩⟩
  | elsewhere world =>
      have same : ((TokenEvent.elsewhere world).perform jsonSha256 approvalId
          pool).state.consumedTokens = pool.state.consumedTokens := by
        unfold TokenEvent.perform
        dsimp only
        split <;> rfl
      rw [same]
      exact ⟨fun _ => trivial, fun _ => ⟨once, neverAgain⟩⟩
  | operate index =>
      change ((pool.operate tokenObserver index).state.consumedTokens.length ≤ 1 ∧ ∀ token ∈
        (pool.operate tokenObserver index).state.consumedTokens, token.status = .issued) ↔
        ∀ call ∈ pool.calls[index]?, consumesNext call = true → call.heard = false
      rcases consumes_or_stays pool index with
        ⟨operation, next, told, overtaken, found, consumes⟩ | ⟨same, quiet⟩
      · obtain ⟨stored, isToken, current, consumption, -⟩ :=
          consumption_operate shaped found consumes
        obtain ⟨owned, -⟩ := shaped.follows.allowed_next found
        rw [consumption, found]
        constructor
        · rintro ⟨noOther, -⟩ call isCall -
          obtain rfl := Option.some.inj isCall
          change overtaken = false
          by_contra isOvertaken
          have others := owned.overtaken (by simpa using isOvertaken)
          rw [List.length_cons] at noOther
          exact others (List.length_eq_zero_iff.mp (by omega))
        · intro unovertaken
          have isIssued := current (unovertaken _ rfl consumes)
          have noOther : pool.state.consumedTokens = [] := by
            by_contra others
            have isConsumed := shaped.follows.state others stored isToken
            rw [isIssued] at isConsumed
            cases isConsumed
          rw [noOther]
          exact ⟨Nat.le_refl 1, fun token member => List.mem_singleton.mp member ▸ isIssued⟩
      · rw [same]
        refine ⟨fun _ call isCall consumes => ?_, fun _ => ⟨once, neverAgain⟩⟩
        rw [quiet call isCall] at consumes
        cases consumes

/-- The calls of an approval that run at the same time use its token once exactly when
no call consumes it after another one did since it read the token. -/
theorem commit_token_used_once_iff (jsonSha256 : Json → String) (approvalId : Uuid)
    (world : ExecutionWorld) (events : List TokenEvent) :
    HeldAlong (TokenEvent.perform jsonSha256 approvalId) UsedOnce events (idlePool world) ↔
      MetAlong (TokenEvent.perform jsonSha256 approvalId) ConsumesUnovertaken events
        (idlePool world) := by
  have startShaped : TokenShaped approvalId (idlePool world) := by
    refine ⟨⟨fun others => absurd rfl others, ?_, ?_⟩, rfl⟩
    · exact fun call member => nomatch member
    · exact fun call member => nomatch member
  apply @heldAlong_iff_metAlong _ _ _ _ (TokenShaped approvalId) _ (fun _ => True)
  · exact fun event pool _ shaped _ => tokenShaped_perform event shaped
  · exact fun event pool _ shaped used => usedOnce_perform event shaped used
  · exact fun _ _ => trivial
  · exact startShaped
  · rw [usedOnce_iff startShaped]
    exact ⟨Nat.zero_le 1, fun token member => nomatch member⟩

end

/-! ### Two calls that both read the token first -/

def updateArgs : Json :=
  .ofFields [("server", .string "crm"), ("tool", .string "update"), ("args", emptyJsonObject)]

/-- The digests of the payload and of the arguments of the call. -/
def updateDigest (value : Json) : String :=
  if value = emptyJsonObject then
    "sha256:44136fa355b3678a1146ad16f7e8649e94fb4fc21fe77e8310c060f61caaff8a"
  else "sha256:8605600e1d75fb3a957995f228e888053a6cafa4d3831736c5d38e2ead324485"

def updateBinding : Json :=
  .ofFields [("server", .string "crm"), ("tool", .string "update"),
    ("payload_digest", .string (updateDigest emptyJsonObject))]

def updateApproval : Approval where
  id := 1
  sessionId := 1
  toolCallId := some 1
  reason := "commit"
  decisionPayload := emptyJsonObject
  status := .approved
  expiresAt := none
  decidedAt := some 0

def updateCall : ToolCall where
  id := 1
  sessionId := 1
  eventId := none
  toolName := "mcp.call"
  args := updateArgs
  taskGrantId := some 1
  normalizedArgsHash := some (updateDigest updateArgs)
  targetBinding := updateBinding
  status := .running
  riskLevel := "high"
  result := none
  error := none

def updateToken : ApprovalCommitToken where
  id := 1
  approvalId := 1
  toolCallId := 1
  taskGrantId := 1
  sessionId := 1
  toolName := "mcp.call"
  normalizedArgsHash := updateDigest updateArgs
  targetBinding := updateBinding
  status := .issued
  expiresAt := 900
  consumedAt := none

def updateWorld : ExecutionWorld where
  store := {
    sessions := Table.empty.insert ⟨1, .running, 1, none, none⟩
    workflowRuns := Table.empty
    workflowStepRuns := Table.empty
    taskGrants := Table.empty.insert (crmGrant (crmConnectorScope []))
    approvalCommitTokens := Table.empty.insert updateToken }
  queue := { jobs := Table.empty }
  clock := 0
  issuedUuid := 1

/-- Two workers execute the approved call; both validate before either consumes. -/
def racingCalls : List TokenEvent :=
  [.enter updateApproval updateCall, .enter updateApproval updateCall] ++
    List.replicate 4 (.operate 0) ++ List.replicate 4 (.operate 1) ++
    List.replicate 4 (.operate 0) ++ List.replicate 4 (.operate 1)

/-- Both calls consume the token and end with a result. -/
theorem racing_calls_use_token_twice :
    ¬HeldAlong (TokenEvent.perform updateDigest 1) UsedOnce racingCalls (idlePool updateWorld) := by
  intro along
  have once := (along racingCalls List.prefix_rfl).committed
  have twice : (runEvents (TokenEvent.perform updateDigest 1) racingCalls
      (idlePool updateWorld)).calls.countP PoolCall.succeeded = 2 := by
    decide +kernel
  rw [twice] at once
  exact absurd once (by decide)

end MandoForge
