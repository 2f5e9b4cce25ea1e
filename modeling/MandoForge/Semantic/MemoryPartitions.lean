/-
Module: MandoForge.Semantic.MemoryPartitions
Purpose: The governance summary of memory: its partitions by domain, workflow and memory
  scope.  The key of a partition tells its scopes, so that every memory object counts in
  the partition of its own scopes and nowhere else.
Trusted boundary: a counter is a natural number.
Main exports: MemoryScopes, memory_partitions_apart
-/
import MandoForge.Foundation.OrderedMap
import MandoForge.Foundation.PrefixCode
import MandoForge.Semantic.GovernanceView
import Mathlib.Data.String.Basic

namespace MandoForge

open Foundation

/-! ### Scopes and keys -/

def memoryGovernanceScopeValue (scopes : Json) (key : String) : String :=
  (((scopes.get key).bind Json.asStr).bind nonEmptyTrimmed).getD "unspecified"

/-- The characters that the keys are built with are written by number. -/
def escapeKeyChar : Char → List Char
  | '%' => ['%', '2', '5']
  | '|' => ['%', '7', 'C']
  | '=' => ['%', '3', 'D']
  | other => [other]

def memoryGovernancePartitionKeyComponent (value : String) : String :=
  String.ofList (value.toList.flatMap escapeKeyChar)

def memoryGovernancePartitionKey (domainScope workflowScope memoryScope : String) : String :=
  "domain=" ++ memoryGovernancePartitionKeyComponent domainScope ++
    "|workflow=" ++ memoryGovernancePartitionKeyComponent workflowScope ++
    "|memory=" ++ memoryGovernancePartitionKeyComponent memoryScope

/-- The scopes that a partition stands for. -/
structure MemoryScopes where
  domainScope : String
  workflowScope : String
  memoryScope : String
deriving DecidableEq, Repr

def MemoryScopes.ofJson (scopes : Json) : MemoryScopes where
  domainScope := memoryGovernanceScopeValue scopes "domain_scope"
  workflowScope := memoryGovernanceScopeValue scopes "workflow_scope"
  memoryScope := memoryGovernanceScopeValue scopes "memory_scope"

def MemoryScopes.partitionKey (scopes : MemoryScopes) : String :=
  memoryGovernancePartitionKey scopes.domainScope scopes.workflowScope scopes.memoryScope

/-! ### The summary -/

structure MemoryGovernancePartition where
  partitionKey : String
  scopes : MemoryScopes
  objectCount : Nat
  memoryObjectCount : Nat
  humanVerifiedCount : Nat
  unverifiedCount : Nat
  staleCount : Nat
  shared : Bool
deriving DecidableEq, Repr

structure MemoryGovernanceAttentionItem where
  severity : String
  kind : String
  message : String
  partitionKey : Option String
deriving DecidableEq, Repr

structure MemoryGovernanceWritebackSummary where
  pendingCount : Nat
  approvedCount : Nat
  rejectedCount : Nat
deriving DecidableEq, Repr

structure MemoryGovernanceSummary where
  status : String
  generatedAt : Timestamp
  isolationPolicy : String
  semanticObjectCount : Nat
  memoryObjectCount : Nat
  partitionCount : Nat
  partitions : List MemoryGovernancePartition
  trustCounts : OrderedMap String Nat
  freshnessCounts : OrderedMap String Nat
  writeback : MemoryGovernanceWritebackSummary
  attentionItems : List MemoryGovernanceAttentionItem

/-- A candidate with what the summary reads of it. -/
structure ScopedWritebackCandidate extends MemoryWritebackCandidate where
  status : String
  semanticScopes : Json
deriving DecidableEq, Repr

/-- The scopes say that the memory is shared. -/
def scopesShared (scopes : Json) : Bool :=
  ((scopes.get "share_policy" <|> scopes.get "visibility").bind Json.asStr).any fun value =>
    decide (value ∈ ["shared", "tenant_shared", "org_shared"])

/-- The partition of some scopes, before anything is counted in it. -/
def freshPartition (scopes : Json) : MemoryGovernancePartition where
  partitionKey := (MemoryScopes.ofJson scopes).partitionKey
  scopes := MemoryScopes.ofJson scopes
  objectCount := 0
  memoryObjectCount := 0
  humanVerifiedCount := 0
  unverifiedCount := 0
  staleCount := 0
  shared := scopesShared scopes

def countMemoryObject (object : SemanticObject) (partition : MemoryGovernancePartition) :
    MemoryGovernancePartition :=
  { partition with
    objectCount := partition.objectCount + 1
    memoryObjectCount := partition.memoryObjectCount + 1
    shared := partition.shared || scopesShared object.semanticScopes
    humanVerifiedCount := partition.humanVerifiedCount +
      if object.trustLevel = "human_verified" then 1 else 0
    unverifiedCount := partition.unverifiedCount +
      if object.trustLevel = "unverified" then 1 else 0
    staleCount := partition.staleCount + if object.freshness ≠ "current" then 1 else 0 }

def noteCandidate (candidate : ScopedWritebackCandidate)
    (partition : MemoryGovernancePartition) : MemoryGovernancePartition :=
  { partition with shared := partition.shared || scopesShared candidate.semanticScopes }

/-- How often each text comes. -/
def textCounts (texts : List String) : OrderedMap String Nat :=
  .tally id (fun _ => 0) (fun _ count => count + 1) texts .empty

def SemanticObject.memoryScopes (object : SemanticObject) : MemoryScopes :=
  .ofJson object.semanticScopes

def ScopedWritebackCandidate.memoryScopes (candidate : ScopedWritebackCandidate) : MemoryScopes :=
  .ofJson candidate.semanticScopes

def memoryObjects (objects : List SemanticObject) : List SemanticObject :=
  objects.filter fun object => decide (object.objectType = "memory")

def candidatesWithStatus (status : String) (candidates : List ScopedWritebackCandidate) :
    List ScopedWritebackCandidate :=
  candidates.filter fun candidate => decide (candidate.status = status)

/-- The loop over the objects, as far as it is about partitions. -/
def objectPartitions (objects : List SemanticObject) :
    OrderedMap String MemoryGovernancePartition :=
  .tally (fun object => object.memoryScopes.partitionKey)
    (fun object => freshPartition object.semanticScopes) countMemoryObject
    (memoryObjects objects) .empty

/-- The loop over the pending candidates, on the partitions of the objects. -/
def partitionAccumulators (objects : List SemanticObject)
    (candidates : List ScopedWritebackCandidate) : OrderedMap String MemoryGovernancePartition :=
  .tally (fun candidate => candidate.memoryScopes.partitionKey)
    (fun candidate => freshPartition candidate.semanticScopes) noteCandidate
    (candidatesWithStatus "pending" candidates) (objectPartitions objects)

def pendingWritebackPartitions (candidates : List ScopedWritebackCandidate) :
    OrderedMap String Nat :=
  textCounts ((candidatesWithStatus "pending" candidates).map fun candidate =>
    candidate.memoryScopes.partitionKey)

def partitionAttentionItems (partition : MemoryGovernancePartition) :
    List MemoryGovernanceAttentionItem :=
  (if 0 < partition.staleCount then [{
    severity := "medium"
    kind := "stale_memory_objects"
    message := Nat.repr partition.staleCount ++
      " stale memory object(s) require refresh or retirement"
    partitionKey := some partition.partitionKey }] else []) ++
  (if 0 < partition.unverifiedCount then [{
    severity := "high"
    kind := "unverified_memory_objects"
    message := Nat.repr partition.unverifiedCount ++
      " unverified memory object(s) must not feed high-risk execution"
    partitionKey := some partition.partitionKey }] else [])

def pendingAttentionItem (pending : String × Nat) : MemoryGovernanceAttentionItem where
  severity := "medium"
  kind := "pending_memory_writeback_review"
  message := Nat.repr pending.2 ++
    " memory writeback candidate(s) need review before becoming reusable memory"
  partitionKey := some pending.1

def buildMemoryGovernanceSummary (objects : List SemanticObject)
    (candidates : List ScopedWritebackCandidate) (generatedAt : Timestamp) :
    MemoryGovernanceSummary :=
  let partitions := (partitionAccumulators objects candidates).values
  let attentionItems := partitions.flatMap partitionAttentionItems ++
    (pendingWritebackPartitions candidates).entries.map pendingAttentionItem
  { status :=
      if attentionItems.any fun item => decide (item.severity = "high") then "attention_required"
      else if attentionItems.isEmpty then "ready"
      else "review_needed"
    generatedAt
    isolationPolicy := "domain_scope + workflow_scope + memory_scope"
    semanticObjectCount := objects.length
    memoryObjectCount := (memoryObjects objects).length
    partitionCount := partitions.length
    partitions
    trustCounts := textCounts (objects.map SemanticObject.trustLevel)
    freshnessCounts := textCounts (objects.map SemanticObject.freshness)
    writeback := {
      pendingCount := (candidatesWithStatus "pending" candidates).length
      approvedCount := (candidatesWithStatus "approved" candidates).length
      rejectedCount := (candidatesWithStatus "rejected" candidates).length }
    attentionItems }

/-! ### Keys tell their scopes -/

/-- One character off an escaped key. -/
def readKeyChar : List Char → Option (Char × List Char)
  | '%' :: '2' :: '5' :: rest => some ('%', rest)
  | '%' :: '7' :: 'C' :: rest => some ('|', rest)
  | '%' :: '3' :: 'D' :: rest => some ('=', rest)
  | other :: rest => some (other, rest)
  | [] => none

theorem escapeKeyChar_eq (c : Char) :
    escapeKeyChar c = if c = '%' then ['%', '2', '5'] else if c = '|' then ['%', '7', 'C']
      else if c = '=' then ['%', '3', 'D'] else [c] := by
  by_cases percent : c = '%'
  · subst percent; rfl
  · by_cases bar : c = '|'
    · subst bar; rfl
    · by_cases equals : c = '='
      · subst equals; rfl
      · rw [if_neg percent, if_neg bar, if_neg equals, escapeKeyChar]
        · exact percent
        · exact bar
        · exact equals

theorem readKeyChar_escape (c : Char) (rest : List Char) :
    readKeyChar (escapeKeyChar c ++ rest) = some (c, rest) := by
  rw [escapeKeyChar_eq]
  split
  next percent => subst percent; rfl
  next notPercent =>
    split
    next bar => subst bar; rfl
    next notBar =>
      split
      next equals => subst equals; rfl
      next =>
        rw [List.singleton_append, readKeyChar]
        · rintro _ rfl; exact absurd rfl notPercent
        · rintro _ rfl; exact absurd rfl notPercent
        · rintro _ rfl; exact absurd rfl notPercent

theorem head?_escapeKeyChar (c : Char) (rest : List Char) :
    (escapeKeyChar c ++ rest).head? ≠ some '|' := by
  rw [escapeKeyChar_eq]
  split
  · simp
  · split
    · simp
    next notBar =>
      split
      · simp
      · exact fun isBar => notBar (Option.some.inj isBar)

theorem component_readsBack (value : String) :
    ReadsBack (fun value => (memoryGovernancePartitionKeyComponent value).toList)
      (fun rest => rest.head? = some '|') (fun _ => True) value := by
  have each (c : Char) : ReadsBack escapeKeyChar (fun _ => True) (fun _ => True) c :=
    readsBack_of_reader (fun c rest _ _ => readKeyChar_escape c rest) trivial
  have chars : ReadsBack (fun chars => List.flatMap escapeKeyChar chars)
      (fun rest => rest.head? = some '|') (fun others => ∀ other ∈ others, True) value.toList :=
    flatMap_readsBack (fun c rest _ => head?_escapeKeyChar c rest) (fun _ _ _ => trivial)
      (fun c _ => each c) (fun _ _ => trivial)
  intro other rest others _ closed otherClosed same
  simp only [memoryGovernancePartitionKeyComponent, String.toList_ofList] at same
  obtain ⟨sameChars, rests⟩ := chars (fun _ _ => trivial) closed otherClosed same
  exact ⟨String.toList_injective sameChars, rests⟩

/-- Partitions of different scopes have different keys. -/
theorem memoryGovernancePartitionKey_injective {domain workflow memory : String}
    {otherDomain otherWorkflow otherMemory : String}
    (same : memoryGovernancePartitionKey domain workflow memory =
      memoryGovernancePartitionKey otherDomain otherWorkflow otherMemory) :
    domain = otherDomain ∧ workflow = otherWorkflow ∧ memory = otherMemory := by
  -- a bar behind the keys closes the last component as well
  have closed := congrArg (fun key => key.toList ++ ['|']) same
  simp only [memoryGovernancePartitionKey, String.toList_append, List.append_assoc] at closed
  obtain ⟨rfl, afterDomain⟩ := component_readsBack domain trivial rfl rfl
    (List.append_cancel_left closed)
  obtain ⟨rfl, afterWorkflow⟩ := component_readsBack workflow trivial rfl rfl
    (List.append_cancel_left afterDomain)
  obtain ⟨rfl, -⟩ := component_readsBack memory trivial rfl rfl
    (List.append_cancel_left afterWorkflow)
  exact ⟨rfl, rfl, rfl⟩

theorem MemoryScopes.partitionKey_injective : Function.Injective MemoryScopes.partitionKey := by
  intro scopes others same
  obtain ⟨sameDomain, sameWorkflow, sameMemory⟩ := memoryGovernancePartitionKey_injective same
  cases scopes
  cases others
  simp_all

/-! ### What the partitions count -/

theorem sum_indicator {Item : Type} (items : List Item) (test : Item → Prop) [DecidablePred test] :
    (items.map fun item => if test item then 1 else 0).sum =
      (items.filter fun item => decide (test item)).length := by
  induction items with
  | nil => rfl
  | cons item items inductionHypothesis =>
      rw [List.map_cons, List.sum_cons, inductionHypothesis, List.filter_cons]
      by_cases holds : test item
      · simp [holds, Nat.add_comm]
      · simp [holds]

/-- The partition under a key has the key, and scopes with that key. -/
def HasKey (key : String) (partition : MemoryGovernancePartition) : Prop :=
  partition.partitionKey = key ∧ partition.scopes.partitionKey = key

/-- A count that every memory object adds to by its weight, and that no candidate changes. -/
structure MemoryCounter where
  amount : MemoryGovernancePartition → Nat
  weight : SemanticObject → Nat
  startsEmpty : ∀ scopes, amount (freshPartition scopes) = 0
  adds : ∀ object partition,
    amount (countMemoryObject object partition) = amount partition + weight object
  keeps : ∀ candidate partition, amount (noteCandidate candidate partition) = amount partition

def memoryCounter : MemoryCounter where
  amount := MemoryGovernancePartition.memoryObjectCount
  weight := fun _ => 1
  startsEmpty := fun _ => rfl
  adds := fun _ _ => rfl
  keeps := fun _ _ => rfl

def unverifiedCounter : MemoryCounter where
  amount := MemoryGovernancePartition.unverifiedCount
  weight := fun object => if object.trustLevel = "unverified" then 1 else 0
  startsEmpty := fun _ => rfl
  adds := fun _ _ => rfl
  keeps := fun _ _ => rfl

def staleCounter : MemoryCounter where
  amount := MemoryGovernancePartition.staleCount
  weight := fun object => if object.freshness ≠ "current" then 1 else 0
  startsEmpty := fun _ => rfl
  adds := fun _ _ => rfl
  keeps := fun _ _ => rfl

section summary

variable (counter : MemoryCounter) (objects : List SemanticObject) (candidates : List ScopedWritebackCandidate)

theorem hasKey_partitionAccumulators {key : String} {partition : MemoryGovernancePartition}
    (found : (partitionAccumulators objects candidates).get? key = some partition) :
    HasKey key partition := by
  have ofObjects (key : String) (partition : MemoryGovernancePartition)
      (isThere : (objectPartitions objects).get? key = some partition) : HasKey key partition := by
    refine OrderedMap.holds_tally ?_ ?_ ?_ key partition isThere
    · exact fun object _ => ⟨rfl, rfl⟩
    · exact fun object _ partition hasKey => hasKey
    · exact fun key partition isThere => nomatch isThere
  refine OrderedMap.holds_tally ?_ ?_ ofObjects key partition found
  · exact fun candidate _ => ⟨rfl, rfl⟩
  · exact fun candidate _ partition hasKey => hasKey

theorem amountAt_partitionAccumulators (key : String) :
    OrderedMap.amountAt counter.amount (partitionAccumulators objects candidates) key =
      (((memoryObjects objects).filter fun object =>
        decide (object.memoryScopes.partitionKey = key)).map counter.weight).sum := by
  have unchanged : ∀ candidate ∈ candidatesWithStatus "pending" candidates, ∀ partition,
      counter.amount (noteCandidate candidate partition) = counter.amount partition + 0 :=
    fun candidate _ partition => counter.keeps candidate partition
  rw [partitionAccumulators, OrderedMap.amountAt_tally (fun _ _ => counter.startsEmpty _) unchanged,
    objectPartitions, OrderedMap.amountAt_tally (fun _ _ => counter.startsEmpty _)
    (fun object _ partition => counter.adds object partition)]
  simp [OrderedMap.amountAt]

theorem sum_partitionAccumulators :
    ((partitionAccumulators objects candidates).values.map counter.amount).sum =
      ((memoryObjects objects).map counter.weight).sum := by
  have unchanged : ∀ candidate ∈ candidatesWithStatus "pending" candidates, ∀ partition,
      counter.amount (noteCandidate candidate partition) = counter.amount partition + 0 :=
    fun candidate _ partition => counter.keeps candidate partition
  rw [partitionAccumulators, OrderedMap.sum_tally (fun _ _ => counter.startsEmpty _) unchanged,
    objectPartitions, OrderedMap.sum_tally (fun _ _ => counter.startsEmpty _)
    (fun object _ partition => counter.adds object partition)]
  simp [OrderedMap.values, OrderedMap.empty]

/-- Under its key a partition counts the memory objects of its scopes. -/
theorem amount_of_mem_partitions {partition : MemoryGovernancePartition}
    (member : partition ∈ (partitionAccumulators objects candidates).values) :
    counter.amount partition = (((memoryObjects objects).filter fun object =>
      decide (object.memoryScopes = partition.scopes)).map counter.weight).sum := by
  obtain ⟨⟨key, stored⟩, isEntry, isStored⟩ := List.mem_map.mp member
  obtain rfl : stored = partition := isStored
  have found := OrderedMap.mem_entries_iff.mp isEntry
  obtain ⟨-, scopesKey⟩ := hasKey_partitionAccumulators objects candidates found
  have counted := amountAt_partitionAccumulators counter objects candidates key
  rw [OrderedMap.amountAt, found] at counted
  have sameTest (object : SemanticObject) : decide (object.memoryScopes.partitionKey = key) =
      decide (object.memoryScopes = stored.scopes) := by
    rw [decide_eq_decide, ← scopesKey]
    exact MemoryScopes.partitionKey_injective.eq_iff
  simp only [sameTest] at counted
  exact counted

theorem get?_of_mem_partitions {partition : MemoryGovernancePartition}
    (member : partition ∈ (partitionAccumulators objects candidates).values) :
    (partitionAccumulators objects candidates).get? partition.scopes.partitionKey =
      some partition := by
  obtain ⟨⟨key, stored⟩, isEntry, isStored⟩ := List.mem_map.mp member
  obtain rfl : stored = partition := isStored
  have found := OrderedMap.mem_entries_iff.mp isEntry
  rw [(hasKey_partitionAccumulators objects candidates found).2, found]

theorem existsUnique_partition {object : SemanticObject} (member : object ∈ memoryObjects objects) :
    ∃! partition, partition ∈ (partitionAccumulators objects candidates).values ∧
      partition.scopes = object.memoryScopes := by
  have isThere : ((partitionAccumulators objects candidates).get?
      object.memoryScopes.partitionKey).isSome = true :=
    OrderedMap.isSome_tally (.inl (OrderedMap.isSome_tally (.inr ⟨object, member, rfl⟩)))
  obtain ⟨partition, found⟩ := Option.isSome_iff_exists.mp isThere
  have hasKey := hasKey_partitionAccumulators objects candidates found
  refine ⟨partition, ⟨?_, MemoryScopes.partitionKey_injective hasKey.2⟩, ?_⟩
  · exact List.mem_map.mpr ⟨_, OrderedMap.mem_entries_iff.mpr found, rfl⟩
  · rintro other ⟨otherMember, otherScopes⟩
    have otherFound := get?_of_mem_partitions objects candidates otherMember
    rw [otherScopes, found] at otherFound
    exact (Option.some.inj otherFound).symm

theorem nodup_partition_scopes :
    ((partitionAccumulators objects candidates).values.map
      MemoryGovernancePartition.scopes).Nodup := by
  have distinct : ((partitionAccumulators objects candidates).entries.map Prod.fst).Nodup :=
    (partitionAccumulators objects candidates).ordered.imp fun before => ne_of_lt before
  have keys : (partitionAccumulators objects candidates).entries.map Prod.fst =
      ((partitionAccumulators objects candidates).values.map
        MemoryGovernancePartition.scopes).map MemoryScopes.partitionKey := by
    rw [OrderedMap.values, List.map_map, List.map_map]
    refine List.map_congr_left fun entry member => ?_
    have found := OrderedMap.mem_entries_iff.mp member
    exact (hasKey_partitionAccumulators objects candidates found).2.symm
  exact (keys ▸ distinct).of_map _

end summary

/-- The memory objects with a property, in some scopes. -/
def memoriesIn (objects : List SemanticObject) (scopes : MemoryScopes)
    (test : SemanticObject → Bool) : List SemanticObject :=
  ((memoryObjects objects).filter fun object => decide (object.memoryScopes = scopes)).filter test

/-- Keys tell their scopes, so every memory object counts in the one partition of its own
scopes, each partition counts its own memory objects, and the counts add up. -/
theorem memory_partitions_apart :
    (∀ domain workflow memory otherDomain otherWorkflow otherMemory,
      memoryGovernancePartitionKey domain workflow memory =
        memoryGovernancePartitionKey otherDomain otherWorkflow otherMemory →
      domain = otherDomain ∧ workflow = otherWorkflow ∧ memory = otherMemory) ∧
    ∀ (objects : List SemanticObject) (candidates : List ScopedWritebackCandidate)
      (generatedAt : Timestamp),
      let summary := buildMemoryGovernanceSummary objects candidates generatedAt
      let isUnverified := fun object : SemanticObject => decide (object.trustLevel = "unverified")
      let isStale := fun object : SemanticObject => decide (object.freshness ≠ "current")
      (∀ object ∈ memoryObjects objects,
        ∃! partition, partition ∈ summary.partitions ∧ partition.scopes = object.memoryScopes) ∧
      (summary.partitions.map MemoryGovernancePartition.scopes).Nodup ∧
      (∀ partition ∈ summary.partitions,
        partition.memoryObjectCount =
          (memoriesIn objects partition.scopes fun _ => true).length ∧
        partition.unverifiedCount = (memoriesIn objects partition.scopes isUnverified).length ∧
        partition.staleCount = (memoriesIn objects partition.scopes isStale).length) ∧
      (summary.partitions.map MemoryGovernancePartition.memoryObjectCount).sum =
        summary.memoryObjectCount ∧
      (summary.partitions.map MemoryGovernancePartition.memoryObjectCount).sum =
        (memoryObjects objects).length ∧
      (summary.partitions.map MemoryGovernancePartition.unverifiedCount).sum =
        ((memoryObjects objects).filter isUnverified).length ∧
      (summary.partitions.map MemoryGovernancePartition.staleCount).sum =
        ((memoryObjects objects).filter isStale).length := by
  refine ⟨fun _ _ _ _ _ _ same => memoryGovernancePartitionKey_injective same, ?_⟩
  intro objects candidates generatedAt summary isUnverified isStale
  have memoryCount : summary.memoryObjectCount = (memoryObjects objects).length := rfl
  have total := sum_partitionAccumulators memoryCounter objects candidates
  have unverified := sum_partitionAccumulators unverifiedCounter objects candidates
  have stale := sum_partitionAccumulators staleCounter objects candidates
  simp only [memoryCounter, unverifiedCounter, staleCounter, sum_indicator, List.map_const',
    List.sum_replicate_nat, Nat.mul_one] at total unverified stale
  refine ⟨fun object member => existsUnique_partition objects candidates member,
    nodup_partition_scopes objects candidates, fun partition member => ⟨?_, ?_, ?_⟩,
    total.trans memoryCount.symm, total, unverified, stale⟩
  · have counted := amount_of_mem_partitions memoryCounter objects candidates member
    simpa [memoryCounter, memoriesIn] using counted
  · have counted := amount_of_mem_partitions unverifiedCounter objects candidates member
    simp only [unverifiedCounter, sum_indicator] at counted
    exact counted
  · have counted := amount_of_mem_partitions staleCounter objects candidates member
    simp only [staleCounter, sum_indicator] at counted
    exact counted

end MandoForge
