/-
Module: MandoForge.Semantic.ContextGate
Purpose: The semantic context gate: which semantic objects a tool call is judged by,
  what makes one of them a blocker, and when the gate lets a call under a task grant
  pass.
Trusted boundary: a context packet holds objects taken from the table of semantic
  objects, one row for an id.  Of the records only what the gate reads.
Main exports: SemanticObject, SemanticStore
-/
import MandoForge.Foundation.Outcome
import MandoForge.Foundation.Table
import MandoForge.Policy.Evaluation
import MandoForge.Semantic.References
import MandoForge.TaskGrant.MemoryScope
import Mathlib.Data.Finset.Sort

namespace MandoForge

open Foundation

/-! ### The records -/

/-- A semantic object of the store. -/
structure SemanticObject where
  id : Uuid
  objectType : String
  objectKey : String
  title : String
  trustLevel : String
  freshness : String
  status : String
  semanticScopes : Json
  createdAt : Timestamp
  archivedAt : Option Timestamp
deriving DecidableEq, Repr

structure ContextPacket where
  id : Uuid
  version : Int
  retrievedObjects : Table ContextPacketSemanticObject.id
deriving DecidableEq

/-- The part of the in-memory store that the gate reads besides the grants. -/
structure SemanticStore where
  semanticObjects : Table SemanticObject.id := Table.empty
  contextPackets : Table ContextPacket.id := Table.empty
deriving DecidableEq

/-- `list_semantic_objects`: what is not archived, the oldest first. -/
def listSemanticObjects (semantics : SemanticStore) : List SemanticObject :=
  (semantics.semanticObjects.rows.filter fun object => object.archivedAt.isNone).mergeSort
    fun earlier later => decide (earlier.createdAt ≤ later.createdAt)

def getContextPacket (semantics : SemanticStore) (id : Uuid) : Except AppError ContextPacket :=
  okOr (semantics.contextPackets.find? id) (.notFound "context packet not found")

/-- `semantic_object_matches_scope`: the object states a scope, and the other side
has each scope that it states. -/
def semanticObjectMatchesScope (object : SemanticObject) (semanticScopes : Json) : Bool :=
  match object.semanticScopes, semanticScopes with
  | .object objectScopes, .object agentScopes =>
      let stated := objectScopes.filterMap fun (key, value) =>
        (value.asStr.bind nonEmptyTrimmed).map fun scope => (key, scope)
      !stated.isEmpty && stated.all fun (key, scope) =>
        ((Json.getField key agentScopes).bind Json.asStr).any fun agentScope =>
          decide (trim agentScope = scope)
  | _, _ => false

def semanticObjectMatchesAgentScope (object : SemanticObject) (agent : Agent) : Bool :=
  semanticObjectMatchesScope object agent.semanticScopes

/-! ### The gate -/

/-- What the gate reads of an object, of the store or of a packet. -/
class SemanticContextGateObject (Object : Type) where
  semanticId : Object → Uuid
  semanticObjectType : Object → String
  semanticObjectKey : Object → String
  semanticTitle : Object → String
  semanticTrustLevel : Object → String
  semanticFreshness : Object → String

open SemanticContextGateObject

instance : SemanticContextGateObject SemanticObject where
  semanticId := SemanticObject.id
  semanticObjectType := SemanticObject.objectType
  semanticObjectKey := SemanticObject.objectKey
  semanticTitle := SemanticObject.title
  semanticTrustLevel := SemanticObject.trustLevel
  semanticFreshness := SemanticObject.freshness

instance : SemanticContextGateObject ContextPacketSemanticObject where
  semanticId := ContextPacketSemanticObject.id
  semanticObjectType := ContextPacketSemanticObject.objectType
  semanticObjectKey := ContextPacketSemanticObject.objectKey
  semanticTitle := ContextPacketSemanticObject.title
  semanticTrustLevel := ContextPacketSemanticObject.trustLevel
  semanticFreshness := ContextPacketSemanticObject.freshness

def appendSemanticContextGateBlocker {Object : Type} [SemanticContextGateObject Object]
    (blockers : List Json) (object : Object) : List Json :=
  let stale := decide (semanticFreshness object ≠ "current")
  let untrusted := decide (semanticTrustLevel object = "unverified")
  if stale || untrusted then
    blockers ++ [.ofFields [
      ("id", .ofUuid (semanticId object)),
      ("object_type", .string (semanticObjectType object)),
      ("object_key", .string (semanticObjectKey object)),
      ("title", .string (semanticTitle object)),
      ("trust_level", .string (semanticTrustLevel object)),
      ("freshness", .string (semanticFreshness object)),
      ("reasons", .ofStrings ((if stale then ["freshness_not_current"] else []) ++
        if untrusted then ["trust_unverified"] else []))]]
  else blockers

/-- A blocker without an object: its id and the reason. -/
def bareBlocker (id : Uuid) (reason : String) : Json := .ofFields [
  ("id", .ofUuid id),
  ("reasons", .ofStrings [reason])]

/-- The fields that every verdict of the gate has, after the ones of its boundary. -/
def gateVerdict (boundary : List (String × Json)) (riskLevel : String)
    (referenced evaluated : Nat) (blockers : List Json) : Json :=
  .ofFields (boundary ++ [
    ("status", .string (if blockers.isEmpty then "passed" else "blocked")),
    ("risk_level", .string riskLevel),
    ("referenced_object_count", .ofNat referenced),
    ("evaluated_object_count", .ofNat evaluated),
    ("blocked_object_count", .ofNat blockers.length),
    ("required_freshness", .string "current"),
    ("blocked_trust_levels", .ofStrings ["unverified"]),
    ("blockers", .array blockers)])

/-- The objects of the packet that a call is judged by: the ones it refers to, or all
of them when it refers to none. -/
def evaluatedObjects (packet : ContextPacket) (referenced : Finset Uuid) :
    List ContextPacketSemanticObject :=
  if referenced = ∅ then packet.retrievedObjects.rows
  else (referenced.sort (· ≤ ·)).filterMap packet.retrievedObjects.find?

/-- The blockers for the references that the packet does not have. -/
def outsideBlockers (packet : ContextPacket) (referenced : Finset Uuid) : List Json :=
  ((referenced.sort (· ≤ ·)).filter fun id =>
    (packet.retrievedObjects.find? id).isNone).map (bareBlocker · "outside_context_packet")

/-- The verdict on a call whose grant is bound to the packet. -/
def packetVerdict (packet : ContextPacket) (referenced : Finset Uuid) (riskLevel : String) :
    Json :=
  let evaluated := evaluatedObjects packet referenced
  gateVerdict [("boundary", .string "task_grant_context_packet"),
    ("context_packet_id", .ofUuid packet.id),
    ("context_packet_version", .ofInt packet.version)] riskLevel referenced.card
    evaluated.length
    (evaluated.foldl appendSemanticContextGateBlocker (outsideBlockers packet referenced))

section gate

variable (parseUuid : String → Option Uuid) (semantics : SemanticStore)

/-- The gate of a call under a task grant. -/
def evaluateGrantGate (grant : TaskGrant) (args : Json) (riskLevel : String) :
    Except AppError Json :=
  let referenced := semanticObjectRefIdsFromToolArgs parseUuid args
  match grant.contextPacketId with
  | none =>
      .ok (gateVerdict [("boundary", .string "task_grant_context_packet"),
        ("task_grant_id", .ofUuid grant.id), ("context_packet_id", .null)] riskLevel
        referenced.card 0 [bareBlocker grant.id "missing_context_packet"])
  | some contextPacketId =>
      (getContextPacket semantics contextPacketId).map (packetVerdict · referenced riskLevel)

/-- The gate of a call under no task grant: the objects in the agent's scope. -/
def evaluateAgentGate (agent : Agent) (args : Json) (riskLevel : String) : Json :=
  let evaluated := (listSemanticObjects semantics).filter fun object =>
    decide (object.status = "active") && semanticObjectMatchesAgentScope object agent
  gateVerdict [("boundary", .string "agent_semantic_scope")] riskLevel
    (semanticObjectRefIdsFromToolArgs parseUuid args).card evaluated.length
    (evaluated.foldl appendSemanticContextGateBlocker [])

def evaluateSemanticContextGate (agent : Agent) (taskGrant : Option TaskGrant) (args : Json)
    (riskLevel : String) (decision : PolicyDecision) : Except AppError (Option Json) :=
  if riskLevel ≠ "high" ∨ decision = .denied then .ok none
  else
    match taskGrant with
    | some grant => (evaluateGrantGate parseUuid semantics grant args riskLevel).map some
    | none => .ok (some (evaluateAgentGate parseUuid semantics agent args riskLevel))

/-- `semantic_context_gate_blocked` of `execute_tool_invocation`. -/
def semanticContextGateBlocked (gate : Option Json) : Bool :=
  decide ((gate.bind (·.get "status")).bind Json.asStr = some "blocked")

end gate

/-! ### When the gate blocks -/

/-- The object is recorded as current and not as unverified. -/
def VettedObject {Object : Type} [SemanticContextGateObject Object] (object : Object) : Prop :=
  semanticFreshness object = "current" ∧ semanticTrustLevel object ≠ "unverified"

theorem appendBlocker_eq {Object : Type} [SemanticContextGateObject Object]
    {blockers : List Json} {object : Object} :
    appendSemanticContextGateBlocker blockers object = [] ↔
      blockers = [] ∧ VettedObject object := by
  unfold appendSemanticContextGateBlocker VettedObject
  by_cases isCurrent : semanticFreshness object = "current" <;>
    by_cases isUnverified : semanticTrustLevel object = "unverified" <;>
    simp [isCurrent, isUnverified]

theorem blockers_eq_nil {Object : Type} [SemanticContextGateObject Object] {objects : List Object}
    {blockers : List Json} :
    objects.foldl appendSemanticContextGateBlocker blockers = [] ↔
      blockers = [] ∧ ∀ object ∈ objects, VettedObject object := by
  induction objects generalizing blockers with
  | nil => simp
  | cons object objects inductionHypothesis =>
      rw [List.foldl_cons, inductionHypothesis, appendBlocker_eq, and_assoc,
        List.forall_mem_cons]

theorem gateVerdict_blocked {boundary : List (String × Json)} {riskLevel : String}
    {referenced evaluated : Nat} {blockers : List Json}
    (apart : (boundary.map Prod.fst ++ ["status", "risk_level", "referenced_object_count",
      "evaluated_object_count", "blocked_object_count", "required_freshness",
      "blocked_trust_levels", "blockers"]).Nodup) :
    semanticContextGateBlocked (some (gateVerdict boundary riskLevel referenced evaluated
      blockers)) = !blockers.isEmpty := by
  have status : (gateVerdict boundary riskLevel referenced evaluated blockers).get "status" =
      some (.string (if blockers.isEmpty then "passed" else "blocked")) := by
    refine Json.get_ofFields (by simpa using apart) ?_
    exact List.mem_append_right _ List.mem_cons_self
  simp only [semanticContextGateBlocked, Option.bind_some, status, Json.asStr]
  cases blockers.isEmpty <;> decide

/-! ### What a passed gate means -/

/-- The call under the grant acts on vetted semantics: every object that the arguments
mention is in the packet bound to the grant, current and not unverified, and when they
mention none every object of that packet is. -/
structure ReferencesVetted (parseUuid : String → Option Uuid) (semantics : SemanticStore)
    (grant : TaskGrant) (args : Json) (packet : ContextPacket) : Prop where
  bound : grant.contextPacketId = some packet.id
  stored : packet ∈ semantics.contextPackets
  mentioned : ∀ id, MentionsSemanticObject parseUuid args id →
    ∃ object ∈ packet.retrievedObjects, object.id = id ∧ VettedObject object
  unmentioned : (∀ id, ¬ MentionsSemanticObject parseUuid args id) →
    ∀ object ∈ packet.retrievedObjects, VettedObject object

section spec

variable {parseUuid : String → Option Uuid} {semantics : SemanticStore}

/-- A packet lets a call pass exactly when what the call is judged by is vetted. -/
theorem packetVerdict_passes {packet : ContextPacket} {referenced : Finset Uuid}
    {riskLevel : String} :
    semanticContextGateBlocked (some (packetVerdict packet referenced riskLevel)) = false ↔
      (∀ id ∈ referenced, ∃ object ∈ packet.retrievedObjects, object.id = id ∧
        VettedObject object) ∧
      (referenced = ∅ → ∀ object ∈ packet.retrievedObjects, VettedObject object) := by
  rw [packetVerdict, gateVerdict_blocked (by simp), Bool.not_eq_false', List.isEmpty_iff,
    blockers_eq_nil]
  by_cases isEmpty : referenced = ∅
  · subst isEmpty
    simp [outsideBlockers, evaluatedObjects, Table.mem_iff]
  · have allInside : outsideBlockers packet referenced = [] ↔
        ∀ id ∈ referenced, packet.retrievedObjects.find? id ≠ none := by
      simp [outsideBlockers, List.filter_eq_nil_iff]
    rw [allInside, evaluatedObjects, if_neg isEmpty]
    simp only [List.mem_filterMap, Finset.mem_sort, isEmpty, false_implies, and_true]
    constructor
    · rintro ⟨inside, vetted⟩ id isReferenced
      obtain ⟨object, found⟩ := Option.ne_none_iff_exists'.mp (inside id isReferenced)
      obtain ⟨member, sameId⟩ := Table.find?_eq_some.mp found
      exact ⟨object, member, sameId, vetted object ⟨id, isReferenced, found⟩⟩
    · intro vetted
      refine ⟨fun id isReferenced => ?inside, ?evaluated⟩
      case inside =>
        obtain ⟨object, member, rfl, -⟩ := vetted id isReferenced
        rw [Table.find?_key member]
        exact Option.some_ne_none _
      case evaluated =>
        rintro object ⟨id, isReferenced, found⟩
        obtain ⟨other, member, rfl, isVetted⟩ := vetted id isReferenced
        rw [Table.find?_key member] at found
        exact Option.some.inj found ▸ isVetted

/-- The gate of a grant lets a call pass exactly when its references are vetted. -/
theorem grantGate_passes_iff {grant : TaskGrant} {args : Json} {riskLevel : String} :
    (∃ gate, evaluateGrantGate parseUuid semantics grant args riskLevel = .ok gate ∧
        semanticContextGateBlocked (some gate) = false) ↔
      ∃ packet, ReferencesVetted parseUuid semantics grant args packet := by
  have noneReferenced : semanticObjectRefIdsFromToolArgs parseUuid args = ∅ ↔
      ∀ id, ¬ MentionsSemanticObject parseUuid args id := by
    simp only [Finset.eq_empty_iff_forall_notMem, mem_semanticObjectRefIds]
  simp only [evaluateGrantGate, getContextPacket]
  cases bound : grant.contextPacketId with
  | none =>
      constructor
      · rintro ⟨gate, evaluates, passes⟩
        cases evaluates
        rw [gateVerdict_blocked (by simp)] at passes
        cases passes
      · rintro ⟨packet, vetted⟩
        cases bound.symm.trans vetted.bound
  | some packetId =>
      cases found : semantics.contextPackets.find? packetId with
      | none =>
          simp only [found, okOr, Except.map]
          constructor
          · rintro ⟨gate, evaluates, -⟩
            cases evaluates
          · rintro ⟨packet, vetted⟩
            have sameId : packetId = packet.id := Option.some.inj (bound.symm.trans vetted.bound)
            exact absurd (Table.find?_key vetted.stored) (by rw [← sameId, found]; simp)
      | some packet =>
          obtain ⟨stored, rfl⟩ := Table.find?_eq_some.mp found
          simp only [found, okOr, Except.map]
          constructor
          · rintro ⟨gate, evaluates, notBlocked⟩
            cases evaluates
            rw [packetVerdict_passes] at notBlocked
            refine ⟨packet, bound, stored, fun id mentions => ?_, fun mentionsNone => ?_⟩
            · exact notBlocked.1 id (mem_semanticObjectRefIds.mpr mentions)
            · exact notBlocked.2 (noneReferenced.mpr mentionsNone)
          · rintro ⟨other, vetted⟩
            have isPacket : other = packet := Table.eq_of_key_eq vetted.stored stored
              (Option.some.inj (vetted.bound.symm.trans bound))
            subst isPacket
            refine ⟨_, rfl, packetVerdict_passes.mpr ?_⟩
            exact ⟨fun id isReferenced =>
                vetted.mentioned id (mem_semanticObjectRefIds.mp isReferenced),
              fun isEmpty => vetted.unmentioned (noneReferenced.mp isEmpty)⟩

end spec

end MandoForge
