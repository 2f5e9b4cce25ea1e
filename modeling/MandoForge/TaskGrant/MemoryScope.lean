/-
Module: MandoForge.TaskGrant.MemoryScope
Purpose: The semantic memory that a task grant lets its session read, and when a
  child grant accepted under its parent reads no more: an object type list, an
  object id list or a minimum trust level that the child leaves out or empties
  is no restriction any more, although the scope check counts it as narrower.
Trusted boundary: of a semantic object only the fields that the filter or the
  semantic context gate reads; an object's id is written as `Json.ofUuid` writes it.
Main exports: contextSemanticObjectSatisfiesMemoryScope, taskGrantMemoryScopeMode
-/
import MandoForge.TaskGrant.Authority
import Mathlib.Data.Set.Finite.Basic

namespace MandoForge

/-! ### The filter of the source -/

/-- The fields of `ContextPacketSemanticObject` that a memory scope or the semantic
context gate reads. -/
structure ContextPacketSemanticObject where
  id : Uuid
  objectType : String
  trustLevel : String
  objectKey : String := ""
  title : String := ""
  freshness : String := ""
deriving DecidableEq, Repr

/-- The strings of an array field of a scope.  A missing field, a value that is
no array and an array without strings all read as the empty list. -/
def listedStrings (memoryScope : Json) (key : String) : List String :=
  match (memoryScope.get key).bind Json.asArray with
  | some values => values.filterMap Json.asStr
  | none => []

/-- `minimum_trust_level`, trimmed; a blank one counts as missing. -/
def minimumTrustLevel (memoryScope : Json) : Option String :=
  ((memoryScope.get "minimum_trust_level").bind Json.asStr).bind nonEmptyTrimmed

def memoryTrustRank (value : String) : Option Int :=
  match toAsciiLowercase (trim value) with
  | "none" | "unverified" => some 0
  | "verified" | "source_attested" => some 1
  | "human_verified" => some 2
  | "system_verified" => some 3
  | _ => none

/-- `memory_trust_level_satisfies`: ranked levels are compared by rank, all
others by their text. -/
def memoryTrustLevelSatisfies (actual minimum : String) : Bool :=
  match memoryTrustRank actual, memoryTrustRank minimum with
  | some actual, some minimum => decide (minimum ≤ actual)
  | _, _ => decide (actual = minimum)

/-- An allow list admits a text: an empty list admits everything, and `"*"` is
an entry like any other. -/
def listAdmits (allowed : List String) (text : String) : Bool :=
  allowed.isEmpty || allowed.contains text

def contextSemanticObjectSatisfiesMemoryScope (object : ContextPacketSemanticObject)
    (memoryScope : Json) : Bool :=
  listAdmits (listedStrings memoryScope "allowed_object_types") object.objectType &&
    listAdmits (listedStrings memoryScope "allowed_object_ids") (Nat.repr object.id) &&
    (minimumTrustLevel memoryScope).all (memoryTrustLevelSatisfies object.trustLevel)

/-- `apply_task_grant_memory_scope_to_context_objects`: three filters, and at
most `max_objects` of what they keep. -/
def applyTaskGrantMemoryScopeToContextObjects (objects : List ContextPacketSemanticObject)
    (memoryScope : Json) : List ContextPacketSemanticObject :=
  let filtered :=
    ((objects.filter fun object =>
        listAdmits (listedStrings memoryScope "allowed_object_types") object.objectType).filter
      fun object =>
        listAdmits (listedStrings memoryScope "allowed_object_ids") (Nat.repr object.id)).filter
      fun object =>
        (minimumTrustLevel memoryScope).all (memoryTrustLevelSatisfies object.trustLevel)
  match (memoryScope.get "max_objects").bind Json.asU64 with
  | some maxObjects => filtered.take maxObjects
  | none => filtered

def taskGrantMemoryScopeMode (memoryScope : Json) : String :=
  (((memoryScope.get "mode").bind Json.asStr).bind nonEmptyTrimmed).getD "snapshot_only"

/-- The objects that a scoped lookup leaves to the holder of a memory scope. -/
def visibleObjects (memoryScope : Json) (objects : List ContextPacketSemanticObject) :
    List ContextPacketSemanticObject :=
  objects.filter (contextSemanticObjectSatisfiesMemoryScope · memoryScope)

/-- The snapshot of a context packet holds no object that a lookup refuses. -/
theorem applyTaskGrantMemoryScope_sublist (objects : List ContextPacketSemanticObject)
    (memoryScope : Json) :
    (applyTaskGrantMemoryScopeToContextObjects objects memoryScope).Sublist
      (visibleObjects memoryScope objects) := by
  have filters : visibleObjects memoryScope objects =
      ((objects.filter fun object =>
          listAdmits (listedStrings memoryScope "allowed_object_types")
            object.objectType).filter
        fun object =>
          listAdmits (listedStrings memoryScope "allowed_object_ids")
            (Nat.repr object.id)).filter
        fun object =>
          (minimumTrustLevel memoryScope).all
            (memoryTrustLevelSatisfies object.trustLevel) := by
    simp only [visibleObjects, contextSemanticObjectSatisfiesMemoryScope, List.filter_filter]
    congr 1
    funext object
    ac_rfl
  rw [filters, applyTaskGrantMemoryScopeToContextObjects]
  cases (memoryScope.get "max_objects").bind Json.asU64 with
  | none => exact List.Sublist.refl _
  | some maxObjects => exact List.take_sublist _ _

/-! ### Attenuation -/

/-- The lower grant reads no semantic memory that the upper one may not read. -/
structure MemoryWithin (upper lower : TaskGrant) : Prop where
  objects : ∀ objects, ∀ object ∈ visibleObjects lower.memoryScope objects,
    object ∈ visibleObjects upper.memoryScope objects
  lookup : taskGrantMemoryScopeMode lower.memoryScope = "scoped_lookup" →
    taskGrantMemoryScopeMode upper.memoryScope = "scoped_lookup"

theorem MemoryWithin.refl (grant : TaskGrant) : MemoryWithin grant grant where
  objects _ _ visible := visible
  lookup isLookup := isLookup

theorem MemoryWithin.trans {upper middle lower : TaskGrant}
    (first : MemoryWithin upper middle) (second : MemoryWithin middle lower) :
    MemoryWithin upper lower where
  objects objects object visible :=
    first.objects objects object (second.objects objects object visible)
  lookup isLookup := first.lookup (second.lookup isLookup)

/-- The child's restrictions narrow those of its parent in the sense of the
filter.  Either the child lists ids and none of them is an object's, so that it
reads nothing; or, wherever the parent restricts the types, the ids or the trust
level, the child restricts them too, with entries of the parent's lists only. -/
def MemoryScopeNarrows (parentScope childScope : Json) : Prop :=
  (listedStrings childScope "allowed_object_ids" ≠ [] ∧
      ∀ id, Nat.repr id ∉ listedStrings childScope "allowed_object_ids") ∨
    ((listedStrings parentScope "allowed_object_types" ≠ [] →
        listedStrings childScope "allowed_object_types" ≠ [] ∧
          listedStrings childScope "allowed_object_types" ⊆
            listedStrings parentScope "allowed_object_types") ∧
      (listedStrings parentScope "allowed_object_ids" ≠ [] →
        listedStrings childScope "allowed_object_ids" ≠ [] ∧
          ∀ id, Nat.repr id ∈ listedStrings childScope "allowed_object_ids" →
            Nat.repr id ∈ listedStrings parentScope "allowed_object_ids") ∧
      (minimumTrustLevel parentScope ≠ none → minimumTrustLevel childScope ≠ none))

theorem listAdmits_eq_true {allowed : List String} {text : String} :
    listAdmits allowed text = true ↔ (allowed ≠ [] → text ∈ allowed) := by
  cases allowed with
  | nil => simp [listAdmits]
  | cons first rest => simp [listAdmits]

theorem satisfiesMemoryScope_iff {object : ContextPacketSemanticObject} {memoryScope : Json} :
    contextSemanticObjectSatisfiesMemoryScope object memoryScope = true ↔
      (listedStrings memoryScope "allowed_object_types" ≠ [] →
          object.objectType ∈ listedStrings memoryScope "allowed_object_types") ∧
        (listedStrings memoryScope "allowed_object_ids" ≠ [] →
          Nat.repr object.id ∈ listedStrings memoryScope "allowed_object_ids") ∧
        ∀ minimum, minimumTrustLevel memoryScope = some minimum →
          memoryTrustLevelSatisfies object.trustLevel minimum = true := by
  simp only [contextSemanticObjectSatisfiesMemoryScope, Bool.and_eq_true,
    listAdmits_eq_true, Option.all_eq_true, and_assoc]

theorem memoryTrustLevelSatisfies_self (level : String) :
    memoryTrustLevelSatisfies level level = true := by
  unfold memoryTrustLevelSatisfies
  cases memoryTrustRank level with
  | none => simp
  | some rank => simp

theorem exists_level_below (minimum : String) :
    ∃ level, memoryTrustLevelSatisfies level minimum = false := by
  have unranked : ∀ level, memoryTrustRank level = none → level ≠ minimum →
      memoryTrustLevelSatisfies level minimum = false := by
    intro level noRank different
    simp [memoryTrustLevelSatisfies, noRank, different]
  by_cases same : minimum = "?"
  · exact ⟨"!", unranked "!" (by decide +kernel) (same ▸ by decide)⟩
  · exact ⟨"?", unranked "?" (by decide +kernel) (Ne.symm same)⟩

theorem exists_unlisted_id (listed : List String) : ∃ id, Nat.repr id ∉ listed := by
  have infinite : (Set.range Nat.repr).Infinite :=
    Set.infinite_range_of_injective fun _ _ same =>
      Json.ofUuid_inj.mp (congrArg Json.string same)
  obtain ⟨text, ⟨id, isText⟩, unlisted⟩ := infinite.exists_notMem_finset listed.toFinset
  exact ⟨id, by simpa [isText] using unlisted⟩

section

variable {parent child : TaskGrant}

variable (contained : jsonScopeContains parent.memoryScope child.memoryScope = true)

include contained

theorem scopeText_contained {key text : String}
    (found : ((child.memoryScope.get key).bind Json.asStr).bind nonEmptyTrimmed = some text) :
    ((parent.memoryScope.get key).bind Json.asStr).bind nonEmptyTrimmed = some text := by
  obtain ⟨raw, isRaw, trimmed⟩ := Option.bind_eq_some_iff.mp found
  obtain ⟨value, present, isText⟩ := Option.bind_eq_some_iff.mp isRaw
  obtain ⟨parentValue, parentPresent, valueContained⟩ := get_contained contained present
  simp [parentPresent, asStr_contained valueContained isText, trimmed]

theorem lookup_within
    (isLookup : taskGrantMemoryScopeMode child.memoryScope = "scoped_lookup") :
    taskGrantMemoryScopeMode parent.memoryScope = "scoped_lookup" := by
  unfold taskGrantMemoryScopeMode at isLookup ⊢
  cases named : ((child.memoryScope.get "mode").bind Json.asStr).bind nonEmptyTrimmed with
  | none => simp [named] at isLookup
  | some mode =>
      rw [scopeText_contained contained named]
      rw [named] at isLookup
      exact isLookup

theorem satisfies_of_narrows
    (narrows : MemoryScopeNarrows parent.memoryScope child.memoryScope)
    {object : ContextPacketSemanticObject}
    (satisfies : contextSemanticObjectSatisfiesMemoryScope object child.memoryScope = true) :
    contextSemanticObjectSatisfiesMemoryScope object parent.memoryScope = true := by
  obtain ⟨typeAdmitted, idAdmitted, trusted⟩ := satisfiesMemoryScope_iff.mp satisfies
  rcases narrows with ⟨listed, noObject⟩ | ⟨types, ids, trust⟩
  · exact absurd (idAdmitted listed) (noObject object.id)
  · refine satisfiesMemoryScope_iff.mpr ⟨fun restricted => ?types, fun restricted => ?ids,
      fun minimum restricted => ?trust⟩
    case types =>
      obtain ⟨childRestricts, subset⟩ := types restricted
      exact subset (typeAdmitted childRestricts)
    case ids =>
      obtain ⟨childRestricts, subset⟩ := ids restricted
      exact subset object.id (idAdmitted childRestricts)
    case trust =>
      obtain ⟨childMinimum, childRestricts⟩ :=
        Option.ne_none_iff_exists'.mp (trust (by simp [restricted]))
      -- a contained minimum is the parent's own
      have same : minimumTrustLevel parent.memoryScope = some childMinimum :=
        scopeText_contained contained childRestricts
      obtain rfl : childMinimum = minimum := by simpa [same] using restricted
      exact trusted childMinimum childRestricts

omit contained

/-- A child that sees an object and nothing its parent does not see narrows the
parent's restrictions: an entry or a missing restriction of the child that the
parent does not have shows an object that only the child sees. -/
theorem narrows_of_satisfies
    (within : ∀ object,
      contextSemanticObjectSatisfiesMemoryScope object child.memoryScope = true →
        contextSemanticObjectSatisfiesMemoryScope object parent.memoryScope = true) :
    MemoryScopeNarrows parent.memoryScope child.memoryScope := by
  by_cases seesNothing : listedStrings child.memoryScope "allowed_object_ids" ≠ [] ∧
      ∀ id, Nat.repr id ∉ listedStrings child.memoryScope "allowed_object_ids"
  · exact .inl seesNothing
  obtain ⟨someId, idAdmitted⟩ : ∃ id,
      listedStrings child.memoryScope "allowed_object_ids" ≠ [] →
        Nat.repr id ∈ listedStrings child.memoryScope "allowed_object_ids" := by
    by_contra noneAdmitted
    push Not at noneAdmitted
    exact seesNothing ⟨(noneAdmitted 0).1, fun id => (noneAdmitted id).2⟩
  obtain ⟨someType, typeAdmitted⟩ : ∃ objectType,
      listedStrings child.memoryScope "allowed_object_types" ≠ [] →
        objectType ∈ listedStrings child.memoryScope "allowed_object_types" := by
    cases types : listedStrings child.memoryScope "allowed_object_types" with
    | nil => exact ⟨"", fun restricted => absurd rfl restricted⟩
    | cons first rest => exact ⟨first, fun _ => List.mem_cons_self⟩
  obtain ⟨someLevel, trusted⟩ : ∃ level, ∀ minimum,
      minimumTrustLevel child.memoryScope = some minimum →
        memoryTrustLevelSatisfies level minimum = true := by
    refine ⟨(minimumTrustLevel child.memoryScope).getD "", fun minimum isMinimum => ?_⟩
    simp [isMinimum, memoryTrustLevelSatisfies_self]
  -- an object that the child admits by each of its three parts is the parent's too
  have admitted : ∀ id objectType level,
      (listedStrings child.memoryScope "allowed_object_types" ≠ [] →
        objectType ∈ listedStrings child.memoryScope "allowed_object_types") →
      (listedStrings child.memoryScope "allowed_object_ids" ≠ [] →
        Nat.repr id ∈ listedStrings child.memoryScope "allowed_object_ids") →
      (∀ minimum, minimumTrustLevel child.memoryScope = some minimum →
        memoryTrustLevelSatisfies level minimum = true) →
      _ :=
    fun id objectType level isType isId isTrusted =>
      satisfiesMemoryScope_iff.mp (within { id, objectType, trustLevel := level }
        (satisfiesMemoryScope_iff.mpr ⟨isType, isId, isTrusted⟩))
  refine .inr ⟨fun restricted => ⟨fun unrestricted => ?noTypes, fun objectType listed => ?types⟩,
    fun restricted => ⟨fun unrestricted => ?noIds, fun id listed => ?ids⟩,
    fun restricted unrestricted => ?trust⟩
  case noTypes =>
    obtain ⟨id, unlisted⟩ :=
      exists_unlisted_id (listedStrings parent.memoryScope "allowed_object_types")
    exact unlisted ((admitted someId (Nat.repr id) someLevel
      (fun childRestricts => absurd unrestricted childRestricts) idAdmitted trusted).1 restricted)
  case types =>
    exact (admitted someId objectType someLevel (fun _ => listed) idAdmitted trusted).1 restricted
  case noIds =>
    obtain ⟨id, unlisted⟩ :=
      exists_unlisted_id (listedStrings parent.memoryScope "allowed_object_ids")
    exact unlisted ((admitted id someType someLevel typeAdmitted
      (fun childRestricts => absurd unrestricted childRestricts) trusted).2.1 restricted)
  case ids =>
    exact (admitted id someType someLevel typeAdmitted (fun _ => listed) trusted).2.1 restricted
  case trust =>
    obtain ⟨minimum, isMinimum⟩ := Option.ne_none_iff_exists'.mp restricted
    obtain ⟨level, below⟩ := exists_level_below minimum
    have reached := (admitted someId someType level typeAdmitted idAdmitted
      (by simp [unrestricted])).2.2 minimum isMinimum
    simp [below] at reached

end

/-- A child accepted under its parent reads no more semantic memory exactly when
its restrictions narrow the parent's; so along a chain of such links the last
grant reads nothing that the first one may not. -/
theorem acceptedChild_memoryWithin_iff_narrows (ancestor : TaskGrant) :
    (∀ child, ensureChildTaskGrantWithinParent ancestor child = .ok () →
      (MemoryWithin ancestor child ↔
        MemoryScopeNarrows ancestor.memoryScope child.memoryScope)) ∧
    ∀ descendant,
      Relation.ReflTransGen
          (fun parent child => ensureChildTaskGrantWithinParent parent child = .ok () ∧
            MemoryScopeNarrows parent.memoryScope child.memoryScope)
          ancestor descendant →
        MemoryWithin ancestor descendant := by
  have single : ∀ parent child, ensureChildTaskGrantWithinParent parent child = .ok () →
      (MemoryWithin parent child ↔
        MemoryScopeNarrows parent.memoryScope child.memoryScope) := by
    intro parent child accepted
    have contained := (scopesContained_of_accepted accepted).memory
    constructor
    · intro within
      apply narrows_of_satisfies
      intro object satisfies
      have visible := within.objects [object] object (by simp [visibleObjects, satisfies])
      simpa [visibleObjects] using visible
    · intro narrows
      refine ⟨fun objects object visible => ?_, lookup_within contained⟩
      obtain ⟨member, satisfies⟩ := List.mem_filter.mp visible
      exact List.mem_filter.mpr ⟨member, satisfies_of_narrows contained narrows satisfies⟩
  refine ⟨single ancestor, fun descendant chain => ?_⟩
  induction chain with
  | refl => exact MemoryWithin.refl ancestor
  | tail _ link inductionHypothesis =>
      exact inductionHypothesis.trans ((single _ _ link.1).mpr link.2)

/-! ### A child without an object type list -/

/-- A grant that looks up semantic memory, restricted to the given types. -/
def lookupGrant (restrictions : List (String × Json)) : TaskGrant :=
  { crmGrant emptyJsonObject with
    memoryScope := .object (restrictions ++ [("mode", .string "scoped_lookup")]) }

def publicFactsGrant : TaskGrant :=
  lookupGrant [("allowed_object_types", .array [.string "public_fact"])]

def salaryRecord : ContextPacketSemanticObject where
  id := 7
  objectType := "salary"
  trustLevel := "verified"

/-- The child that leaves the type list out is accepted and sees an object of a
type that its parent may not see. -/
theorem accepted_child_reads_more :
    ensureChildTaskGrantWithinParent publicFactsGrant (lookupGrant []) = .ok () ∧
      contextSemanticObjectSatisfiesMemoryScope salaryRecord
        (lookupGrant []).memoryScope = true ∧
      contextSemanticObjectSatisfiesMemoryScope salaryRecord
        publicFactsGrant.memoryScope = false ∧
      ¬MemoryWithin publicFactsGrant (lookupGrant []) := by
  have childSees : contextSemanticObjectSatisfiesMemoryScope salaryRecord
      (lookupGrant []).memoryScope = true := by decide +kernel
  have parentRefuses : contextSemanticObjectSatisfiesMemoryScope salaryRecord
      publicFactsGrant.memoryScope = false := by decide +kernel
  refine ⟨by decide +kernel, childSees, parentRefuses, fun within => ?_⟩
  have visible := within.objects [salaryRecord] salaryRecord
    (by simp [visibleObjects, childSees])
  simp [visibleObjects, parentRefuses] at visible

/-- A child that keeps the type list stays within its parent, and so does a
grandchild. -/
theorem restricted_child_reads_within :
    MemoryWithin publicFactsGrant publicFactsGrant ∧
      MemoryWithin publicFactsGrant
        { publicFactsGrant with id := 3, parentGrantId := some 2 } := by
  have narrows : MemoryScopeNarrows publicFactsGrant.memoryScope
      publicFactsGrant.memoryScope :=
    .inr ⟨fun restricted => ⟨restricted, fun _ listed => listed⟩,
      fun restricted => ⟨restricted, fun _ listed => listed⟩, fun restricted => restricted⟩
  have accepted : ∀ lower ∈ [publicFactsGrant,
      { publicFactsGrant with id := 3, parentGrantId := some 2 }],
      ensureChildTaskGrantWithinParent publicFactsGrant lower = .ok () := by decide +kernel
  refine ⟨((acceptedChild_memoryWithin_iff_narrows _).1 _ (accepted _ (by simp))).mpr narrows,
    (acceptedChild_memoryWithin_iff_narrows _).2 _ ?_⟩
  exact (Relation.ReflTransGen.single ⟨accepted _ (by simp), narrows⟩).tail
    ⟨accepted _ (by simp), narrows⟩

end MandoForge
