/-
Module: MandoForge.Semantic.ExecutionContext
Purpose: The prompt that a context packet is rendered to.  The loop over the retrieved
  objects stays within the budget and accounts for each object; what is written before the
  loop is not bounded, so the estimate stays within the budget exactly when that part does.
Trusted boundary: writing an id and a JSON value as text belongs to other crates; two
  functions stand for it.
Main exports: renderExecutionContext, renders_within_budget_iff
-/
import MandoForge.Core.Records
import MandoForge.Data.Text
import MandoForge.TaskGrant.MemoryScope

namespace MandoForge

/-! ### Packets and requests -/

/-- A retrieved object, with what a rendering shows of it. -/
structure RetrievedObject extends ContextPacketSemanticObject where
  summary : String
  sourceUri : Option String
deriving DecidableEq, Repr

structure ContextPacketSourceRef where
  sourceType : String
  sourceId : String
  freshness : String
deriving DecidableEq, Repr

/-- A context packet, as far as a rendering reads it; of the agent, its role and tools. -/
structure RenderablePacket where
  id : Uuid
  sessionId : Uuid
  agentId : Uuid
  version : Int
  task : Json
  agentRole : String
  agentTools : List String
  semanticScopes : Json
  policyReminders : List String
  freshnessWarnings : List String
  sourceRefs : List ContextPacketSourceRef
  retrievedObjects : List RetrievedObject
  replaySummary : Json
deriving DecidableEq, Repr

structure RenderContextPacketRequest where
  maxPromptTokens : Option Nat
  maxObjects : Option Nat
  maxSummaryChars : Option Nat
  maxPolicyReminders : Option Nat
  allowFullContent : Option Bool
  allowOnDemandFetch : Option Bool
deriving DecidableEq, Repr

structure RenderedSemanticObject where
  id : Uuid
  objectType : String
  objectKey : String
  title : String
  summary : String
  trustLevel : String
  freshness : String
  sourceUri : Option String
deriving DecidableEq, Repr

structure RenderedContextOmissions where
  tokenBudgetExceeded : Nat := 0
  objectLimitExceeded : Nat := 0
  policyRemindersOmitted : Nat := 0
  sourceRefsNotRendered : Nat := 0
  fullContentNotRendered : Nat := 0
deriving DecidableEq, Repr

structure RenderedContextBudget where
  maxPromptTokens : Nat
  estimatedTokensUsed : Nat
  maxObjects : Nat
  maxSummaryChars : Nat
  maxPolicyReminders : Nat
deriving DecidableEq, Repr

structure RenderedExecutionContext where
  contextPacketId : Uuid
  sessionId : Uuid
  agentId : Uuid
  contextPacketVersion : Int
  task : Json
  contextLayers : Json
  ontologyScope : Json
  role : String
  mustFollow : List String
  relevantObjects : List RenderedSemanticObject
  fetchableObjectIds : List Uuid
  omitted : RenderedContextOmissions
  budget : RenderedContextBudget
  availableTools : List String
  fullContentIncluded : Bool
deriving DecidableEq, Repr

/-- How ids and JSON values are written as text. -/
structure TextForms where
  ofUuid : Uuid → String
  ofJson : Json → String

/-! ### Texts and estimates -/

def boundedRenderBudget (requested : Option Nat) (default minimum maximum : Nat) : Nat :=
  let wanted := requested.getD default
  if wanted < minimum then minimum else if maximum < wanted then maximum else wanted

def truncateForExecutionContext (value : String) (maxChars : Nat) : String :=
  let trimmed := trim value
  if trimmed.length ≤ maxChars then trimmed
  else String.ofList (trimmed.toList.take (maxChars - 3)) ++ "..."

def estimateTokens (value : String) : Nat := max ((value.length + 3) / 4) 1

namespace RenderContextPacketRequest

def promptTokens (input : RenderContextPacketRequest) : Nat :=
  boundedRenderBudget input.maxPromptTokens 1500 256 8000

def objects (input : RenderContextPacketRequest) : Nat :=
  boundedRenderBudget input.maxObjects 5 1 20

def summaryChars (input : RenderContextPacketRequest) : Nat :=
  boundedRenderBudget input.maxSummaryChars 280 32 1200

def policyReminders (input : RenderContextPacketRequest) : Nat :=
  boundedRenderBudget input.maxPolicyReminders 3 0 12

end RenderContextPacketRequest

def renderedContextTaskProjection (packet : RenderablePacket) (maxSummaryChars : Nat) : Json :=
  let texts := ["title", "objective"].filterMap fun key =>
    ((packet.task.get key).bind Json.asStr).map fun value =>
      (key, Json.string (truncateForExecutionContext value maxSummaryChars))
  let others := ["status", "workflow_run_id", "workflow_step_run_id"].filterMap fun key =>
    ((packet.task.get key).filter fun value => decide (value ≠ .null)).map fun value =>
      (key, value)
  .ofFields (texts ++ others)

mutual

def compactNonNullJson : Json → Option Json
  | .null => none
  | .object fields => some (.object (compactFields fields))
  | .array items => some (.array (compactItems items))
  | .bool value => some (.bool value)
  | .number value => some (.number value)
  | .string value => some (.string value)

def compactItems : List Json → List Json
  | [] => []
  | item :: rest =>
      match compactNonNullJson item with
      | some kept => kept :: compactItems rest
      | none => compactItems rest

def compactFields : List (String × Json) → List (String × Json)
  | [] => []
  | (key, value) :: rest =>
      match compactNonNullJson value with
      | some kept => (key, kept) :: compactFields rest
      | none => compactFields rest

end

/-- `Map::remove`, of an object. -/
def removeFields (layer : Json) (keys : List String) : Json :=
  match layer with
  | .object fields => .object (fields.filter fun field => decide (field.1 ∉ keys))
  | other => other

def compactRenderedContextLayers : Json → Json
  | .object layers => .object (layers.map fun (name, layer) =>
      let compacted := (compactNonNullJson layer).getD emptyJsonObject
      (name,
        if name = "managed_runtime" then removeFields compacted ["session_id", "agent_id"]
        else if name = "execution_substrate" then removeFields compacted ["tools"]
        else compacted))
  | _ => emptyJsonObject

def renderedContextLayers (packet : RenderablePacket) : Json :=
  ((packet.replaySummary.get "context_layers").map compactRenderedContextLayers).getD
    emptyJsonObject

def renderOntologyScope : Json → Json
  | .object scopes =>
      .object (scopes.filter fun scope => "_scope".toList.isSuffixOf scope.1.toList)
  | _ => emptyJsonObject

/-- The reminders, and warnings as far as there is room for them. -/
def mustFollowOf (packet : RenderablePacket) (maxPolicyReminders : Nat) : List String :=
  let reminders := packet.policyReminders.take maxPolicyReminders
  if reminders.length < maxPolicyReminders then
    reminders ++ (packet.freshnessWarnings.take (maxPolicyReminders - reminders.length)).map
      fun warning => "Freshness warning: " ++ warning
  else reminders

def estimateRenderedContextBaseTokens (texts : TextForms) (packet : RenderablePacket)
    (mustFollow : List String) : Nat :=
  estimateTokens (texts.ofUuid packet.id ++ " " ++ packet.agentRole ++ " " ++
    texts.ofJson packet.semanticScopes ++ " " ++ " ".intercalate mustFollow)

/-- What is estimated before the objects. -/
def baseTokens (texts : TextForms) (packet : RenderablePacket)
    (input : RenderContextPacketRequest) : Nat :=
  estimateRenderedContextBaseTokens texts packet (mustFollowOf packet input.policyReminders) +
    estimateTokens (texts.ofJson (renderedContextTaskProjection packet input.summaryChars)) +
    estimateTokens (texts.ofJson (renderedContextLayers packet))

/-! ### The objects -/

def renderObject (maxSummaryChars : Nat) (object : RetrievedObject) : RenderedSemanticObject where
  id := object.id
  objectType := object.objectType
  objectKey := object.objectKey
  title := truncateForExecutionContext object.title maxSummaryChars
  summary := truncateForExecutionContext object.summary maxSummaryChars
  trustLevel := object.trustLevel
  freshness := object.freshness
  sourceUri := object.sourceUri

def RenderedSemanticObject.tokens (rendered : RenderedSemanticObject) : Nat :=
  estimateTokens (rendered.objectType ++ " " ++ rendered.objectKey ++ " " ++ rendered.title ++
    " " ++ rendered.summary ++ " " ++ rendered.sourceUri.getD "")

/-- The state of the loop over the retrieved objects. -/
structure RenderLoop where
  estimatedTokensUsed : Nat
  relevantObjects : List RenderedSemanticObject
  objectLimitExceeded : Nat
  tokenBudgetExceeded : Nat
deriving DecidableEq, Repr

/-- The body of the loop; an object that does not fit is skipped. -/
def renderStep (input : RenderContextPacketRequest) (loop : RenderLoop)
    (object : RetrievedObject) : RenderLoop :=
  if input.objects ≤ loop.relevantObjects.length then
    { loop with objectLimitExceeded := loop.objectLimitExceeded + 1 }
  else
    let rendered := renderObject input.summaryChars object
    if input.promptTokens < loop.estimatedTokensUsed + rendered.tokens then
      { loop with tokenBudgetExceeded := loop.tokenBudgetExceeded + 1 }
    else
      { loop with
        estimatedTokensUsed := loop.estimatedTokensUsed + rendered.tokens
        relevantObjects := loop.relevantObjects ++ [rendered] }

def renderObjects (texts : TextForms) (packet : RenderablePacket)
    (input : RenderContextPacketRequest) : RenderLoop :=
  packet.retrievedObjects.foldl (renderStep input) ⟨baseTokens texts packet input, [], 0, 0⟩

/-- The tools for fetching, and the one for actions if the agent has it. -/
def availableTools (packet : RenderablePacket) (allowOnDemandFetch : Bool) : List String :=
  (if allowOnDemandFetch then ["semantic_object.fetch", "semantic_object.search",
    "semantic_link.expand", "ontology_type.lookup"] else []) ++
    if "ontology.action.execute" ∈ packet.agentTools then ["ontology.action.execute"] else []

def renderExecutionContext (texts : TextForms) (packet : RenderablePacket)
    (input : RenderContextPacketRequest) : RenderedExecutionContext :=
  let allowOnDemandFetch := input.allowOnDemandFetch.getD true
  let loop := renderObjects texts packet input
  { contextPacketId := packet.id
    sessionId := packet.sessionId
    agentId := packet.agentId
    contextPacketVersion := packet.version
    task := renderedContextTaskProjection packet input.summaryChars
    contextLayers := renderedContextLayers packet
    ontologyScope := renderOntologyScope packet.semanticScopes
    role := packet.agentRole
    mustFollow := mustFollowOf packet input.policyReminders
    relevantObjects := loop.relevantObjects
    fetchableObjectIds :=
      if allowOnDemandFetch then packet.retrievedObjects.map fun object => object.id else []
    omitted :=
      { tokenBudgetExceeded := loop.tokenBudgetExceeded
        objectLimitExceeded := loop.objectLimitExceeded
        policyRemindersOmitted := packet.policyReminders.length - input.policyReminders
        sourceRefsNotRendered := packet.sourceRefs.length
        fullContentNotRendered := packet.retrievedObjects.length }
    budget :=
      { maxPromptTokens := input.promptTokens
        estimatedTokensUsed := loop.estimatedTokensUsed
        maxObjects := input.objects
        maxSummaryChars := input.summaryChars
        maxPolicyReminders := input.policyReminders }
    availableTools := availableTools packet allowOnDemandFetch
    fullContentIncluded := false }

/-! ### Bounds of the parts -/

theorem le_boundedRenderBudget (requested : Option Nat) {default minimum maximum : Nat}
    (ordered : minimum ≤ maximum) :
    minimum ≤ boundedRenderBudget requested default minimum maximum := by
  unfold boundedRenderBudget
  dsimp only
  split_ifs <;> omega

theorem length_truncateForExecutionContext (value : String) {maxChars : Nat}
    (room : 3 ≤ maxChars) : (truncateForExecutionContext value maxChars).length ≤ maxChars := by
  unfold truncateForExecutionContext
  dsimp only
  split
  · next short => exact short
  · have dots : "...".length = 3 := rfl
    rw [String.length_append, String.length_ofList, List.length_take, dots]
    omega

theorem length_mustFollowOf (packet : RenderablePacket) (maxPolicyReminders : Nat) :
    (mustFollowOf packet maxPolicyReminders).length ≤ maxPolicyReminders := by
  unfold mustFollowOf
  dsimp only
  split
  · rw [List.length_append, List.length_map, List.length_take, List.length_take]
    omega
  · rw [List.length_take]
    omega

/-! ### The loop -/

/-- The state of the loop after the objects seen. -/
structure LoopAccounts (input : RenderContextPacketRequest) (base : Nat)
    (seen : List RetrievedObject) (loop : RenderLoop) : Prop where
  grown : base ≤ loop.estimatedTokensUsed
  within : base ≤ input.promptTokens → loop.estimatedTokensUsed ≤ input.promptTokens
  objects : loop.relevantObjects.length ≤ input.objects
  chosen : ∃ chosen : List RetrievedObject, chosen.Sublist seen ∧
    loop.relevantObjects = chosen.map (renderObject input.summaryChars)
  counted : loop.relevantObjects.length + loop.objectLimitExceeded + loop.tokenBudgetExceeded =
    seen.length

theorem renderStep_accounts {input : RenderContextPacketRequest} {base : Nat}
    {seen : List RetrievedObject} {loop : RenderLoop} (accounts : LoopAccounts input base seen loop)
    (object : RetrievedObject) :
    LoopAccounts input base (seen ++ [object]) (renderStep input loop object) := by
  obtain ⟨grown, within, objects, ⟨chosen, among, isChosen⟩, counted⟩ := accounts
  have passedOver : ∃ chosen : List RetrievedObject, chosen.Sublist (seen ++ [object]) ∧
      loop.relevantObjects = chosen.map (renderObject input.summaryChars) :=
    ⟨chosen, among.trans (List.sublist_append_left seen [object]), isChosen⟩
  unfold renderStep
  dsimp only
  split
  · refine ⟨grown, within, objects, passedOver, ?_⟩
    rw [List.length_append, List.length_singleton]
    dsimp only
    omega
  · split
    · refine ⟨grown, within, objects, passedOver, ?_⟩
      rw [List.length_append, List.length_singleton]
      dsimp only
      omega
    · next room =>
        refine ⟨?_, fun _ => Nat.not_lt.mp room, ?_, ?_, ?_⟩
        · dsimp only
          omega
        · rw [List.length_append, List.length_singleton]
          omega
        · refine ⟨chosen ++ [object], among.append_right [object], ?_⟩
          rw [List.map_append, ← isChosen]
          rfl
        · simp only [List.length_append, List.length_singleton]
          omega

theorem renderStep_foldl_accounts {input : RenderContextPacketRequest} {base : Nat}
    {seen : List RetrievedObject} {loop : RenderLoop} (accounts : LoopAccounts input base seen loop)
    (rest : List RetrievedObject) :
    LoopAccounts input base (seen ++ rest) (rest.foldl (renderStep input) loop) := by
  induction rest generalizing seen loop with
  | nil => rwa [List.append_nil]
  | cons object rest inductionHypothesis =>
      have further := inductionHypothesis (renderStep_accounts accounts object)
      rwa [List.append_assoc] at further

theorem renderLoop_accounts_start (input : RenderContextPacketRequest) (base : Nat) :
    LoopAccounts input base [] ⟨base, [], 0, 0⟩ where
  grown := Nat.le_refl base
  within := id
  objects := Nat.zero_le _
  chosen := ⟨[], List.nil_sublist _, rfl⟩
  counted := rfl

theorem renderObjects_accounts (texts : TextForms) (packet : RenderablePacket)
    (input : RenderContextPacketRequest) :
    LoopAccounts input (baseTokens texts packet input) packet.retrievedObjects
      (renderObjects texts packet input) := by
  have ran := renderStep_foldl_accounts
    (renderLoop_accounts_start input (baseTokens texts packet input)) packet.retrievedObjects
  rwa [List.nil_append] at ran

theorem role_le_baseTokens (texts : TextForms) (packet : RenderablePacket)
    (input : RenderContextPacketRequest) :
    packet.agentRole.length ≤ 4 * baseTokens texts packet input := by
  simp only [baseTokens, estimateRenderedContextBaseTokens, estimateTokens, String.length_append]
  omega

/-! ### The rendering -/

/-- The rendering keeps to each of its limits, and accounts for each object. -/
structure RendersWithinBudget (packet : RenderablePacket) (rendered : RenderedExecutionContext) :
    Prop where
  tokens : rendered.budget.estimatedTokensUsed ≤ rendered.budget.maxPromptTokens
  mustFollow : rendered.mustFollow.length ≤ rendered.budget.maxPolicyReminders
  objects : rendered.relevantObjects.length ≤ rendered.budget.maxObjects
  chosen : ∃ chosen : List RetrievedObject, chosen.Sublist packet.retrievedObjects ∧
    rendered.relevantObjects = chosen.map (renderObject rendered.budget.maxSummaryChars)
  summaries : ∀ object ∈ rendered.relevantObjects,
    object.title.length ≤ rendered.budget.maxSummaryChars ∧
      object.summary.length ≤ rendered.budget.maxSummaryChars
  counted : rendered.relevantObjects.length + rendered.omitted.objectLimitExceeded +
    rendered.omitted.tokenBudgetExceeded = packet.retrievedObjects.length

theorem estimatedTokensUsed_le_iff (texts : TextForms) (packet : RenderablePacket)
    (input : RenderContextPacketRequest) :
    (renderObjects texts packet input).estimatedTokensUsed ≤ input.promptTokens ↔
      baseTokens texts packet input ≤ input.promptTokens :=
  let accounts := renderObjects_accounts texts packet input
  ⟨fun within => Nat.le_trans accounts.grown within, accounts.within⟩

section parts

variable (texts : TextForms) (packet : RenderablePacket) (input : RenderContextPacketRequest)

theorem renderExecutionContext_budget :
    (renderExecutionContext texts packet input).budget =
      { maxPromptTokens := input.promptTokens
        estimatedTokensUsed := (renderObjects texts packet input).estimatedTokensUsed
        maxObjects := input.objects
        maxSummaryChars := input.summaryChars
        maxPolicyReminders := input.policyReminders } := rfl

theorem renderExecutionContext_mustFollow :
    (renderExecutionContext texts packet input).mustFollow =
      mustFollowOf packet input.policyReminders := rfl

theorem renderExecutionContext_relevantObjects :
    (renderExecutionContext texts packet input).relevantObjects =
      (renderObjects texts packet input).relevantObjects := rfl

theorem renderExecutionContext_omitted :
    (renderExecutionContext texts packet input).omitted =
      { tokenBudgetExceeded := (renderObjects texts packet input).tokenBudgetExceeded
        objectLimitExceeded := (renderObjects texts packet input).objectLimitExceeded
        policyRemindersOmitted := packet.policyReminders.length - input.policyReminders
        sourceRefsNotRendered := packet.sourceRefs.length
        fullContentNotRendered := packet.retrievedObjects.length } := rfl

end parts

theorem baseTokens_le_of_renders {texts : TextForms} {packet : RenderablePacket}
    {input : RenderContextPacketRequest}
    (renders : RendersWithinBudget packet (renderExecutionContext texts packet input)) :
    baseTokens texts packet input ≤ input.promptTokens := by
  have tokens := renders.tokens
  rw [renderExecutionContext_budget] at tokens
  exact (estimatedTokensUsed_le_iff texts packet input).mp tokens

theorem renders_within_budget_iff (texts : TextForms) (packet : RenderablePacket)
    (input : RenderContextPacketRequest) :
    RendersWithinBudget packet (renderExecutionContext texts packet input) ↔
      baseTokens texts packet input ≤ input.promptTokens := by
  have accounts := renderObjects_accounts texts packet input
  constructor
  · exact baseTokens_le_of_renders
  · intro within
    have room : 3 ≤ input.summaryChars :=
      Nat.le_trans (by decide) (le_boundedRenderBudget input.maxSummaryChars (by decide))
    constructor
    · rw [renderExecutionContext_budget]
      exact accounts.within within
    · rw [renderExecutionContext_budget, renderExecutionContext_mustFollow]
      exact length_mustFollowOf packet input.policyReminders
    · rw [renderExecutionContext_budget, renderExecutionContext_relevantObjects]
      exact accounts.objects
    · rw [renderExecutionContext_budget, renderExecutionContext_relevantObjects]
      exact accounts.chosen
    · intro object member
      rw [renderExecutionContext_relevantObjects] at member
      rw [renderExecutionContext_budget]
      obtain ⟨chosen, -, isChosen⟩ := accounts.chosen
      rw [isChosen] at member
      obtain ⟨retrieved, -, rfl⟩ := List.mem_map.mp member
      have bounded (value : String) := @length_truncateForExecutionContext value _ room
      simp only [renderObject]
      exact ⟨bounded retrieved.title, bounded retrieved.summary⟩
    · rw [renderExecutionContext_relevantObjects, renderExecutionContext_omitted]
      exact accounts.counted

/-- A packet of an agent whose role is a text of 1200 characters. -/
def longRolePacket : RenderablePacket where
  id := 1
  sessionId := 1
  agentId := 1
  version := 1
  task := emptyJsonObject
  agentRole := String.ofList (List.replicate 1200 'r')
  agentTools := []
  semanticScopes := emptyJsonObject
  policyReminders := []
  freshnessWarnings := []
  sourceRefs := []
  retrievedObjects := []
  replaySummary := emptyJsonObject

def smallestBudget : RenderContextPacketRequest where
  maxPromptTokens := some 256
  maxObjects := none
  maxSummaryChars := none
  maxPolicyReminders := none
  allowFullContent := none
  allowOnDemandFetch := none

/-- The role alone is more than the budget. -/
theorem long_role_exceeds_budget : ¬ ∀ texts packet input,
    RendersWithinBudget packet (renderExecutionContext texts packet input) := by
  intro within
  let texts : TextForms := ⟨fun _ => "", fun _ => ""⟩
  have base := baseTokens_le_of_renders (within texts longRolePacket smallestBudget)
  have role := role_le_baseTokens texts longRolePacket smallestBudget
  have length : longRolePacket.agentRole.length = 1200 := by
    rw [longRolePacket, String.length_ofList, List.length_replicate]
  have budget : smallestBudget.promptTokens = 256 := rfl
  omega

end MandoForge
