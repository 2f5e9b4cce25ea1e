/-
Module: MandoForge.Ontology.FaithfulInheritance
Purpose: A catalog that is built on an accepted parent keeps what the parent says: names,
  endpoints, objects that no proposal is about, and the names of kept properties.  The key
  of a relation joins three texts with colons, and a proposal whose texts are cut in
  another place takes over the entry of another relation.
Trusted boundary: none
Main exports: InheritsFaithfully, relation_taken_over
-/
import MandoForge.Ontology.CatalogBuild

namespace MandoForge

open Foundation

/-! ### What is claimed -/

def objectNamed (catalog : OntologyReleaseCatalogV1) (apiName : String) :
    Option OntologySdkCatalogObject :=
  catalog.objects.find? fun object => decide (object.apiName = apiName)

/-- The relation as it is between objects, whatever they are called. -/
def relationTriple (catalog : OntologyReleaseCatalogV1) (relation : OntologySdkCatalogRelation) :
    Option RelationTriple := do
  let fromObject ← objectNamed catalog relation.fromObjectApiName
  let toObject ← objectNamed catalog relation.toObjectApiName
  return {
    fromObject := fromObject.objectType
    relationType := relation.relationType
    toObject := toObject.objectType }

/-- The triples that the parent has, and those that the proposals state. -/
def allTriples (proposals : List OntologyOnboardingProposalDraft)
    (parent : OntologyReleaseCatalogV1) : List RelationTriple :=
  parent.relations.filterMap (relationTriple parent) ++
    (proposalsOf "relation" proposals).filterMap fun proposal =>
      (RelationTriple.ofProposal proposal).toOption

structure InheritsFaithfully (proposals : List OntologyOnboardingProposalDraft)
    (parent catalog : OntologyReleaseCatalogV1) : Prop where
  names : CatalogExtends parent catalog
  relations : ∀ relation ∈ parent.relations, ∃ kept ∈ catalog.relations,
    kept.stableKey = relation.stableKey ∧
      relationTriple catalog kept = relationTriple parent relation
  objects : ∀ object ∈ parent.objects,
    (∀ proposal ∈ proposalsOf "object" proposals,
      "object:" ++ proposedObjectType proposal ≠ object.stableKey) → object ∈ catalog.objects
  properties : ∀ object ∈ parent.objects, ∀ redefined ∈ catalog.objects,
    redefined.stableKey = object.stableKey → ∀ property ∈ object.properties,
      ∀ kept ∈ redefined.properties, kept.sourceName = property.sourceName →
        kept.apiName = property.apiName
  /-- Two triples that would share an entry are the same. -/
  triples : ∀ one ∈ allTriples proposals parent, ∀ two ∈ allTriples proposals parent,
    one.stableKey = two.stableKey → one = two

/-- A proposal under the key of a relation of the parent has its colons where that one has
them. -/
def SeparatorsAgree (proposals : List OntologyOnboardingProposalDraft)
    (parent : OntologyReleaseCatalogV1) : Prop :=
  ∀ proposal ∈ proposalsOf "relation" proposals, ∀ proposed,
    RelationTriple.ofProposal proposal = .ok proposed →
    ∀ relation ∈ parent.relations, ∀ inherited, relationTriple parent relation = some inherited →
      proposed.stableKey = relation.stableKey →
        proposed.fromObject.length = inherited.fromObject.length ∧
          proposed.relationType.length = inherited.relationType.length

/-! ### What an accepted catalog has -/

/-- Texts that are joined at the same places are the same. -/
theorem RelationTriple.eq_of_lengths {one two : RelationTriple}
    (sameKey : one.stableKey = two.stableKey)
    (sameFrom : one.fromObject.length = two.fromObject.length)
    (sameType : one.relationType.length = two.relationType.length) : one = two := by
  have joined := congrArg String.toList sameKey
  simp only [stableKey, String.toList_append, List.append_assoc] at joined
  obtain ⟨isFrom, joined⟩ := List.append_inj (List.append_cancel_left joined)
    (by rwa [String.length_toList, String.length_toList])
  obtain ⟨isType, joined⟩ := List.append_inj (List.append_cancel_left joined)
    (by rwa [String.length_toList, String.length_toList])
  have isTo := List.append_cancel_left joined
  obtain ⟨fromObject, relationType, toObject⟩ := one
  obtain ⟨fromOther, typeOther, toOther⟩ := two
  simp only at isFrom isType isTo
  rw [String.toList_inj.mp isFrom, String.toList_inj.mp isType, String.toList_inj.mp isTo]

/-- Checked entries have distinct names up to case, none of which was seen before. -/
theorem validateEntries_names {catalog : OntologyReleaseCatalogV1}
    {apiNames stableKeys : List String} {entries : List (String × String)}
    (validates : validateEntries catalog apiNames stableKeys entries = .ok ()) :
    (entries.map fun entry => toAsciiLowercase entry.2).Nodup ∧
      ∀ entry ∈ entries, toAsciiLowercase entry.2 ∉ apiNames := by
  induction entries generalizing apiNames stableKeys with
  | nil => simp
  | cons entry entries inductionHypothesis =>
      obtain ⟨stableKey, apiName⟩ := entry
      obtain ⟨_, _, validates⟩ := bind_eq_ok.mp validates
      obtain ⟨isNew, validates⟩ := guardThen_eq_ok.mp validates
      obtain ⟨_, validates⟩ := guardThen_eq_ok.mp validates
      obtain ⟨distinct, unseen⟩ := inductionHypothesis validates
      refine ⟨List.nodup_cons.mpr ⟨?_, distinct⟩, ?_⟩
      · intro isLater
        obtain ⟨later, member, sameName⟩ := List.mem_map.mp isLater
        exact unseen later member (sameName ▸ List.mem_cons_self)
      · intro other member
        rcases List.mem_cons.mp member with rfl | inRest
        · exact isNew
        · exact fun seen => unseen other inRest (List.mem_cons_of_mem _ seen)

theorem validateProperties_eq_ok {object : OntologySdkCatalogObject}
    {stableKeys apiNames : List String} {properties : List OntologySdkCatalogProperty}
    (validates : validateProperties object stableKeys apiNames properties = .ok ()) :
    (∀ property ∈ properties,
        property.stableKey = object.stableKey ++ ":property:" ++ property.sourceName ∧
          property.stableKey ∉ stableKeys) ∧
      (properties.map OntologySdkCatalogProperty.stableKey).Nodup := by
  induction properties generalizing stableKeys apiNames with
  | nil => simp
  | cons property properties inductionHypothesis =>
      obtain ⟨_, _, validates⟩ := bind_eq_ok.mp validates
      obtain ⟨identified, validates⟩ := guardThen_eq_ok.mp validates
      obtain ⟨_, validates⟩ := guardThen_eq_ok.mp validates
      obtain ⟨_, validates⟩ := guardThen_eq_ok.mp validates
      obtain ⟨rest, distinct⟩ := inductionHypothesis validates
      simp only [not_or, not_not] at identified
      obtain ⟨-, isKey, isNew, -⟩ := identified
      refine ⟨?_, List.nodup_cons.mpr ⟨?_, distinct⟩⟩
      · intro other member
        rcases List.mem_cons.mp member with rfl | inRest
        · exact ⟨isKey, isNew⟩
        · exact ⟨(rest other inRest).1,
            fun seen => (rest other inRest).2 (List.mem_cons_of_mem _ seen)⟩
      · intro isLater
        obtain ⟨later, member, sameKey⟩ := List.mem_map.mp isLater
        exact (rest later member).2 (sameKey ▸ List.mem_cons_self)

/-- What the checks of an object establish of its identity. -/
structure ObjectIdentified (object : OntologySdkCatalogObject) : Prop where
  stableKey : object.stableKey = "object:" ++ object.objectType
  properties : ∀ property ∈ object.properties,
    property.stableKey = object.stableKey ++ ":property:" ++ property.sourceName
  distinct : (object.properties.map OntologySdkCatalogProperty.stableKey).Nodup

theorem validateObject_identified {object : OntologySdkCatalogObject}
    (validates : validateObject object = .ok ()) : ObjectIdentified object := by
  obtain ⟨_, _, validates⟩ := bind_eq_ok.mp validates
  obtain ⟨identified, validates⟩ := guardThen_eq_ok.mp validates
  obtain ⟨⟨⟩, properties, _⟩ := bind_eq_ok.mp validates
  rw [not_or, not_not] at identified
  obtain ⟨keys, distinct⟩ := validateProperties_eq_ok properties
  exact ⟨identified.2, fun property member => (keys property member).1, distinct⟩

theorem ObjectIdentified.property_unique {object : OntologySdkCatalogObject}
    (identified : ObjectIdentified object) {one two : OntologySdkCatalogProperty}
    (isOne : one ∈ object.properties) (isTwo : two ∈ object.properties)
    (sameName : one.sourceName = two.sourceName) : one = two := by
  refine List.inj_on_of_nodup_map identified.distinct isOne isTwo ?_
  rw [identified.properties one isOne, identified.properties two isTwo, sameName]

section valid

variable {formats : SchemaFormats} {catalog : OntologyReleaseCatalogV1}

theorem object_identified (valid : validateCatalog formats catalog = .ok ())
    {object : OntologySdkCatalogObject} (member : object ∈ catalog.objects) :
    ObjectIdentified object := by
  obtain ⟨-, -, -, -, objects⟩ := validateCatalog_eq_ok.mp valid
  exact validateObject_identified (objects object member)

theorem object_of_apiName (valid : validateCatalog formats catalog = .ok ())
    {object : OntologySdkCatalogObject} (member : object ∈ catalog.objects) :
    objectNamed catalog object.apiName = some object := by
  obtain ⟨-, entries, -⟩ := validateCatalog_eq_ok.mp valid
  have distinct := (validateEntries_names entries).1
  simp only [catalogEntries, List.map_append, List.map_map, List.nodup_append'] at distinct
  have names : (catalog.objects.map OntologySdkCatalogObject.apiName).Nodup :=
    List.Nodup.of_map toAsciiLowercase (by rw [List.map_map]; exact distinct.1.1)
  exact find?_row_of_distinct names member rfl

theorem object_of_stableKey (valid : validateCatalog formats catalog = .ok ())
    {one two : OntologySdkCatalogObject} (isOne : one ∈ catalog.objects)
    (isTwo : two ∈ catalog.objects) (sameKey : one.stableKey = two.stableKey) : one = two :=
  List.inj_on_of_nodup_map (validateCatalog_distinct valid).objects isOne isTwo sameKey

/-- A relation of a valid catalog is between two of its objects, and its key says so. -/
theorem relationTriple_of_valid (valid : validateCatalog formats catalog = .ok ())
    {relation : OntologySdkCatalogRelation} (member : relation ∈ catalog.relations) :
    ∃ fromObject ∈ catalog.objects, ∃ toObject ∈ catalog.objects,
      fromObject.apiName = relation.fromObjectApiName ∧
        toObject.apiName = relation.toObjectApiName ∧
        relationTriple catalog relation =
          some ⟨fromObject.objectType, relation.relationType, toObject.objectType⟩ ∧
        relation.stableKey =
          RelationTriple.stableKey ⟨fromObject.objectType, relation.relationType,
            toObject.objectType⟩ := by
  obtain ⟨-, -, relations, -⟩ := validateCatalog_eq_ok.mp valid
  obtain ⟨_, _, validates⟩ := bind_eq_ok.mp (relations relation member)
  obtain ⟨fromObject, isFrom, validates⟩ := bind_eq_ok.mp validates
  obtain ⟨toObject, isTo, validates⟩ := bind_eq_ok.mp validates
  have foundFrom := okOr_eq_ok.mp isFrom
  have foundTo := okOr_eq_ok.mp isTo
  have identified := guard_eq_ok.mp validates
  rw [not_or, not_not] at identified
  have fromNamed : fromObject.apiName = relation.fromObjectApiName := by
    simpa using List.find?_some foundFrom
  have toNamed : toObject.apiName = relation.toObjectApiName := by
    simpa using List.find?_some foundTo
  refine ⟨fromObject, List.mem_of_find?_eq_some foundFrom, toObject,
    List.mem_of_find?_eq_some foundTo, fromNamed, toNamed, ?_, identified.2⟩
  rw [relationTriple, objectNamed, objectNamed, foundFrom, foundTo]
  rfl

theorem relationTriple_of_objects (valid : validateCatalog formats catalog = .ok ())
    {fromObject toObject : OntologySdkCatalogObject} (isFrom : fromObject ∈ catalog.objects)
    (isTo : toObject ∈ catalog.objects) {relation : OntologySdkCatalogRelation}
    (fromNamed : fromObject.apiName = relation.fromObjectApiName)
    (toNamed : toObject.apiName = relation.toObjectApiName) :
    relationTriple catalog relation =
      some ⟨fromObject.objectType, relation.relationType, toObject.objectType⟩ := by
  unfold relationTriple
  rw [← fromNamed, ← toNamed, object_of_apiName valid isFrom, object_of_apiName valid isTo]
  rfl

end valid

/-! ### Properties of a redefined object -/

section properties

variable {object : OntologySdkCatalogObject}

theorem propertyApiName_inherited {inherited : OntologySdkCatalogProperty}
    {explicit : Option String} {sourceName apiName : String}
    (chosen : propertyApiName (some inherited) explicit sourceName = .ok apiName) :
    apiName = inherited.apiName := by
  obtain ⟨valid, validates, chosen⟩ := bind_eq_ok.mp chosen
  obtain ⟨_, returned⟩ := guardThen_eq_ok.mp chosen
  cases returned
  exact validateApiName_eq_ok validates

/-- A declared property that the parent has too keeps the name. -/
theorem catalogProperty_inherited (identified : ObjectIdentified object)
    {entry : Option String × Json} {kept property : OntologySdkCatalogProperty}
    (read : catalogProperty object.stableKey (some object) entry = .ok kept)
    (member : property ∈ object.properties) (sameName : kept.sourceName = property.sourceName) :
    kept.apiName = property.apiName := by
  obtain ⟨sourceName, isSource, read⟩ := bind_eq_ok.mp read
  obtain ⟨apiName, chosen, returned⟩ := bind_eq_ok.mp read
  cases returned
  dsimp only at sameName
  subst sameName
  -- The search by either key finds the one property with this source name.
  cases found : object.properties.find? fun other => decide (other.sourceName =
      property.sourceName ∨ other.stableKey =
        object.stableKey ++ ":property:" ++ property.sourceName) with
  | none =>
      have missed := List.find?_eq_none.mp found property member
      simp at missed
  | some other =>
      have isOther := List.mem_of_find?_eq_some found
      have matched : other.sourceName = property.sourceName ∨ other.stableKey =
          object.stableKey ++ ":property:" ++ property.sourceName := by
        simpa using List.find?_some found
      have sameKey : other.stableKey = property.stableKey := by
        rw [identified.properties property member]
        rcases matched with sameSource | sameKey
        · rw [identified.properties other isOther, sameSource]
        · exact sameKey
      obtain rfl := List.inj_on_of_nodup_map identified.distinct isOther member sameKey
      rw [Option.bind_some, found] at chosen
      exact propertyApiName_inherited chosen

/-- The properties are the declared ones in the order of their names. -/
theorem catalogObjectProperties_sorted {proposal : OntologyOnboardingProposalDraft}
    {inherited : Option OntologySdkCatalogObject} {stableKey : String}
    {properties : List OntologySdkCatalogProperty} {primaryKey : Option String}
    (read : catalogObjectProperties proposal stableKey inherited = .ok (properties, primaryKey)) :
    ∃ declared, properties = declared.insertionSort (fun left right =>
        left.apiName ≤ right.apiName) ∧
      match propertySource proposal with
      | some source => ∃ entries, propertyEntries source = .ok entries ∧
          entries.mapM (catalogProperty stableKey inherited) = .ok declared
      | none => declared = (inherited.map OntologySdkCatalogObject.properties).getD [] := by
  obtain ⟨stated, _, read⟩ := bind_eq_ok.mp read
  cases source : propertySource proposal with
  | none =>
      rw [source] at read
      obtain ⟨declared, isDeclared, read⟩ := bind_eq_ok.mp read
      obtain ⟨_, read⟩ := guardThen_eq_ok.mp read
      refine ⟨declared, ?_, (Except.ok.inj isDeclared).symm⟩
      cases stated with
      | none => exact congrArg Prod.fst (Except.ok.inj read).symm
      | some primaryKey =>
          obtain ⟨_, _, returned⟩ := bind_eq_ok.mp read
          exact congrArg Prod.fst (Except.ok.inj returned).symm
  | some value =>
      rw [source] at read
      obtain ⟨entries, isEntries, read⟩ := bind_eq_ok.mp read
      obtain ⟨declared, isDeclared, read⟩ := bind_eq_ok.mp read
      obtain ⟨_, read⟩ := guardThen_eq_ok.mp read
      refine ⟨declared, ?_, entries, isEntries, isDeclared⟩
      cases stated with
      | none => exact congrArg Prod.fst (Except.ok.inj read).symm
      | some primaryKey =>
          obtain ⟨_, _, returned⟩ := bind_eq_ok.mp read
          exact congrArg Prod.fst (Except.ok.inj returned).symm

/-- A property that a redefinition keeps keeps its name. -/
theorem catalogObjectProperties_inherited (identified : ObjectIdentified object)
    {proposal : OntologyOnboardingProposalDraft} {properties : List OntologySdkCatalogProperty}
    {primaryKey : Option String}
    (read : catalogObjectProperties proposal object.stableKey (some object) =
      .ok (properties, primaryKey))
    {property kept : OntologySdkCatalogProperty} (member : property ∈ object.properties)
    (isKept : kept ∈ properties) (sameName : kept.sourceName = property.sourceName) :
    kept.apiName = property.apiName := by
  obtain ⟨declared, rfl, isDeclared⟩ := catalogObjectProperties_sorted read
  rw [List.mem_insertionSort] at isKept
  split at isDeclared
  · obtain ⟨entries, _, mapped⟩ := isDeclared
    obtain ⟨entry, _, isEntry⟩ := mapM_item_of_mem mapped isKept
    exact catalogProperty_inherited identified isEntry member sameName
  · rw [isDeclared] at isKept
    exact congrArg OntologySdkCatalogProperty.apiName
      (identified.property_unique isKept member sameName)

end properties

/-! ### The build on an accepted parent -/

section built

variable {codec : OntologyCodec} {formats : SchemaFormats} {domainScope : String}
  {proposals : List OntologyOnboardingProposalDraft} {parent catalog : OntologyReleaseCatalogV1}
  {objects : List OntologySdkCatalogObject} {relations : List OntologySdkCatalogRelation}
  {actions : List OntologySdkCatalogAction} {names : List (String × String)}

theorem CatalogExtends.object (extended : CatalogExtends parent catalog)
    {object : OntologySdkCatalogObject} (member : object ∈ parent.objects) :
    ∃ kept ∈ catalog.objects, kept.stableKey = object.stableKey ∧ kept.apiName = object.apiName :=
  extended.objects object member

theorem proposedObject_stableKey {inherited : Option OntologyReleaseCatalogV1}
    {proposal : OntologyOnboardingProposalDraft} {object : OntologySdkCatalogObject}
    (made : proposedObject inherited proposal = .ok object) :
    object.stableKey = "object:" ++ proposedObjectType proposal ∧
      catalogObjectProperties proposal object.stableKey (parentObject inherited object.stableKey) =
        .ok (object.properties, object.primaryKeyApiName) := by
  obtain ⟨apiName, _, made⟩ := bind_eq_ok.mp made
  obtain ⟨⟨properties, primaryKeyApiName⟩, read, returned⟩ := bind_eq_ok.mp made
  cases returned
  exact ⟨rfl, read⟩

/-- The name that the build has for a type is that of the object of this type. -/
theorem CatalogBuilt.object_of_name {inherited : Option OntologyReleaseCatalogV1}
    (built : CatalogBuilt codec domainScope proposals inherited catalog objects relations
      actions names)
    (fromParent : ∀ parent, inherited = some parent →
      validateCatalog formats parent = .ok () ∧ CatalogExtends parent catalog)
    {objectType apiName : String} (named : names.lookup objectType = some apiName) :
    ∃ object ∈ catalog.objects, object.objectType = objectType ∧ object.apiName = apiName := by
  have isName : (objectType, apiName) ∈ names := by
    obtain ⟨front, rest, same, -⟩ := List.lookup_eq_some_iff.mp named
    rw [same]
    exact List.mem_append_right _ List.mem_cons_self
  rw [built.names, List.mem_append, List.mem_reverse, List.mem_reverse, List.mem_map,
    List.mem_map] at isName
  rcases isName with ⟨object, member, same⟩ | ⟨object, member, same⟩
  · cases same
    exact ⟨object, (built.memObjects object).mpr (.inl member), rfl, rfl⟩
  · cases same
    cases inherited with
    | none => exact absurd member List.not_mem_nil
    | some parent =>
        obtain ⟨validParent, extended⟩ := fromParent parent rfl
        obtain ⟨kept, isKept, sameKey, sameName⟩ := extended.object member
        refine ⟨kept, isKept, ?_, sameName⟩
        rw [(object_identified built.valid isKept).stableKey,
          (object_identified validParent member).stableKey] at sameKey
        exact String.append_right_inj "object:" |>.mp sameKey

/-- The relation of a proposal is between the objects that the proposal names. -/
theorem CatalogBuilt.relation_of_proposal
    (built : CatalogBuilt codec domainScope proposals (some parent) catalog objects relations
      actions names) (validParent : validateCatalog formats parent = .ok ())
    (extended : CatalogExtends parent catalog) {proposal : OntologyOnboardingProposalDraft}
    {relation : OntologySdkCatalogRelation}
    (made : proposedRelation (some parent) names proposal = .ok relation) :
    ∃ triple, RelationTriple.ofProposal proposal = .ok triple ∧
      relation.stableKey = triple.stableKey ∧ relationTriple catalog relation = some triple := by
  obtain ⟨triple, isTriple, made⟩ := bind_eq_ok.mp made
  obtain ⟨fromObjectApiName, isFrom, made⟩ := bind_eq_ok.mp made
  obtain ⟨toObjectApiName, isTo, made⟩ := bind_eq_ok.mp made
  obtain ⟨apiName, _, returned⟩ := bind_eq_ok.mp made
  cases returned
  have fromParent : ∀ other, some parent = some other →
      validateCatalog formats other = .ok () ∧ CatalogExtends other catalog := by
    rintro _ ⟨rfl⟩
    exact ⟨validParent, extended⟩
  obtain ⟨fromObject, fromMember, fromType, fromNamed⟩ :=
    built.object_of_name fromParent (okOr_eq_ok.mp isFrom)
  obtain ⟨toObject, toMember, toType, toNamed⟩ :=
    built.object_of_name fromParent (okOr_eq_ok.mp isTo)
  refine ⟨triple, isTriple, rfl, ?_⟩
  rw [relationTriple_of_objects built.valid fromMember toMember fromNamed toNamed, fromType, toType]

/-- A relation of the parent that is not proposed again stays between the same objects. -/
theorem relationTriple_of_extends (validParent : validateCatalog formats parent = .ok ())
    (valid : validateCatalog formats catalog = .ok ()) (extended : CatalogExtends parent catalog)
    {relation : OntologySdkCatalogRelation} (member : relation ∈ parent.relations) :
    relationTriple catalog relation = relationTriple parent relation := by
  obtain ⟨fromObject, isFrom, toObject, isTo, fromNamed, toNamed, isTriple, -⟩ :=
    relationTriple_of_valid validParent member
  have sameType : ∀ object ∈ parent.objects, ∀ kept ∈ catalog.objects,
      kept.stableKey = object.stableKey → kept.objectType = object.objectType := by
    intro object isOld kept isKept sameKey
    rw [(object_identified valid isKept).stableKey,
      (object_identified validParent isOld).stableKey] at sameKey
    exact String.append_right_inj "object:" |>.mp sameKey
  obtain ⟨keptFrom, isKeptFrom, fromKey, keptFromNamed⟩ := extended.object isFrom
  obtain ⟨keptTo, isKeptTo, toKey, keptToNamed⟩ := extended.object isTo
  rw [isTriple, relationTriple_of_objects valid isKeptFrom isKeptTo
    (keptFromNamed.trans fromNamed) (keptToNamed.trans toNamed),
    sameType fromObject isFrom keptFrom isKeptFrom fromKey,
    sameType toObject isTo keptTo isKeptTo toKey]

theorem SeparatorsAgree.relation_kept (agree : SeparatorsAgree proposals parent)
    (built : CatalogBuilt codec domainScope proposals (some parent) catalog objects relations
      actions names) (validParent : validateCatalog codec.formats parent = .ok ())
    (extended : CatalogExtends parent catalog) {relation : OntologySdkCatalogRelation}
    (member : relation ∈ parent.relations) :
    ∃ kept ∈ catalog.relations, kept.stableKey = relation.stableKey ∧
      relationTriple catalog kept = relationTriple parent relation := by
  by_cases isProposed : relation.stableKey ∈ relations.map OntologySdkCatalogRelation.stableKey
  · obtain ⟨kept, isKept, sameKey⟩ := List.mem_map.mp isProposed
    obtain ⟨proposal, isProposal, made⟩ := mapM_item_of_mem built.relationsMade isKept
    obtain ⟨triple, isTriple, key, between⟩ :=
      built.relation_of_proposal validParent extended made
    obtain ⟨fromObject, -, toObject, -, -, -, inherited, inheritedKey⟩ :=
      relationTriple_of_valid validParent member
    have lengths := agree proposal isProposal triple isTriple relation member _ inherited
      (key.symm.trans sameKey)
    have same := RelationTriple.eq_of_lengths
      ((key.symm.trans sameKey).trans inheritedKey) lengths.1 lengths.2
    exact ⟨kept, (built.memRelations kept).mpr (.inl isKept), sameKey,
      by rw [between, inherited, same]⟩
  · exact ⟨relation, (built.memRelations relation).mpr (.inr ⟨isProposed, member⟩), rfl,
      relationTriple_of_extends validParent built.valid extended member⟩

theorem CatalogBuilt.objects_unchanged
    (built : CatalogBuilt codec domainScope proposals (some parent) catalog objects relations
      actions names) {object : OntologySdkCatalogObject} (member : object ∈ parent.objects)
    (unnamed : ∀ proposal ∈ proposalsOf "object" proposals,
      "object:" ++ proposedObjectType proposal ≠ object.stableKey) :
    object ∈ catalog.objects := by
  refine (built.memObjects object).mpr (.inr ⟨fun isProposed => ?_, member⟩)
  obtain ⟨redefined, isRedefined, sameKey⟩ := List.mem_map.mp isProposed
  obtain ⟨proposal, isProposal, made⟩ := mapM_item_of_mem built.objectsMade isRedefined
  exact unnamed proposal isProposal ((proposedObject_stableKey made).1.symm.trans sameKey)

theorem CatalogBuilt.properties_kept
    (built : CatalogBuilt codec domainScope proposals (some parent) catalog objects relations
      actions names) (validParent : validateCatalog formats parent = .ok ())
    {object redefined : OntologySdkCatalogObject} (member : object ∈ parent.objects)
    (isRedefined : redefined ∈ catalog.objects) (sameKey : redefined.stableKey = object.stableKey)
    {property kept : OntologySdkCatalogProperty} (isProperty : property ∈ object.properties)
    (isKept : kept ∈ redefined.properties) (sameName : kept.sourceName = property.sourceName) :
    kept.apiName = property.apiName := by
  have identified := object_identified validParent member
  rcases (built.memObjects redefined).mp isRedefined with isOwn | ⟨-, isOld⟩
  · obtain ⟨proposal, _, made⟩ := mapM_item_of_mem built.objectsMade isOwn
    have read := (proposedObject_stableKey made).2
    have isParent : parentObject (some parent) object.stableKey = some object :=
      find?_row_of_distinct (validateCatalog_distinct validParent).objects member rfl
    rw [sameKey, isParent] at read
    exact catalogObjectProperties_inherited identified read isProperty isKept sameName
  · obtain rfl := object_of_stableKey validParent isOld member sameKey
    exact congrArg OntologySdkCatalogProperty.apiName
      (identified.property_unique isKept isProperty sameName)

/-- Two proposals with one key are one: a second one is refused. -/
theorem CatalogBuilt.proposals_apart
    (built : CatalogBuilt codec domainScope proposals (some parent) catalog objects relations
      actions names) (validParent : validateCatalog formats parent = .ok ())
    (extended : CatalogExtends parent catalog) {one two : OntologyOnboardingProposalDraft}
    (isOne : one ∈ proposalsOf "relation" proposals)
    (isTwo : two ∈ proposalsOf "relation" proposals) {first second : RelationTriple}
    (isFirst : RelationTriple.ofProposal one = .ok first)
    (isSecond : RelationTriple.ofProposal two = .ok second)
    (sameKey : first.stableKey = second.stableKey) : first = second := by
  obtain ⟨firstRelation, firstMember, firstMade⟩ := mapM_result_of_mem built.relationsMade isOne
  obtain ⟨secondRelation, secondMember, secondMade⟩ := mapM_result_of_mem built.relationsMade isTwo
  obtain ⟨triple, isTriple, firstKey, firstBetween⟩ :=
    built.relation_of_proposal validParent extended firstMade
  obtain rfl := Except.ok.inj (isTriple.symm.trans isFirst)
  obtain ⟨other, isOther, secondKey, secondBetween⟩ :=
    built.relation_of_proposal validParent extended secondMade
  obtain rfl := Except.ok.inj (isOther.symm.trans isSecond)
  obtain rfl := List.inj_on_of_nodup_map built.relationsDistinct firstMember secondMember
    (firstKey.trans (sameKey.trans secondKey.symm))
  exact Option.some.inj (firstBetween.symm.trans secondBetween)

/-- A triple is that of a relation of the parent, or of a proposal. -/
theorem mem_allTriples {triple : RelationTriple} (member : triple ∈ allTriples proposals parent) :
    (∃ relation ∈ parent.relations, relationTriple parent relation = some triple) ∨
      ∃ proposal ∈ proposalsOf "relation" proposals,
        RelationTriple.ofProposal proposal = .ok triple := by
  rcases List.mem_append.mp member with inherited | proposed
  · exact .inl (List.mem_filterMap.mp inherited)
  · obtain ⟨proposal, isProposal, isTriple⟩ := List.mem_filterMap.mp proposed
    refine .inr ⟨proposal, isProposal, ?_⟩
    cases stated : RelationTriple.ofProposal proposal with
    | error error =>
        rw [stated] at isTriple
        cases isTriple
    | ok found =>
        rw [stated] at isTriple
        exact congrArg Except.ok (Option.some.inj isTriple)

theorem stableKey_of_relationTriple (valid : validateCatalog formats parent = .ok ())
    {relation : OntologySdkCatalogRelation} (member : relation ∈ parent.relations)
    {triple : RelationTriple} (isTriple : relationTriple parent relation = some triple) :
    relation.stableKey = triple.stableKey := by
  obtain ⟨_, _, _, _, _, _, found, key⟩ := relationTriple_of_valid valid member
  rw [key, Option.some.inj (found.symm.trans isTriple)]

theorem SeparatorsAgree.triples (agree : SeparatorsAgree proposals parent)
    (built : CatalogBuilt codec domainScope proposals (some parent) catalog objects relations
      actions names) (validParent : validateCatalog formats parent = .ok ())
    (extended : CatalogExtends parent catalog) {one two : RelationTriple}
    (isOne : one ∈ allTriples proposals parent) (isTwo : two ∈ allTriples proposals parent)
    (sameKey : one.stableKey = two.stableKey) : one = two := by
  have mixed : ∀ proposal ∈ proposalsOf "relation" proposals, ∀ proposed,
      RelationTriple.ofProposal proposal = .ok proposed → ∀ relation ∈ parent.relations,
      ∀ inherited, relationTriple parent relation = some inherited →
        proposed.stableKey = inherited.stableKey → proposed = inherited := by
    intro proposal isProposal proposed isProposed relation member inherited isInherited same
    have key := stableKey_of_relationTriple validParent member isInherited
    have lengths := agree proposal isProposal proposed isProposed relation member inherited
      isInherited (same.trans key.symm)
    exact RelationTriple.eq_of_lengths same lengths.1 lengths.2
  rcases mem_allTriples isOne with ⟨first, firstMember, isFirst⟩ | ⟨first, firstMember, isFirst⟩
  · rcases mem_allTriples isTwo with
      ⟨second, secondMember, isSecond⟩ | ⟨second, secondMember, isSecond⟩
    · have firstKey := stableKey_of_relationTriple validParent firstMember isFirst
      have secondKey := stableKey_of_relationTriple validParent secondMember isSecond
      obtain rfl := List.inj_on_of_nodup_map (validateCatalog_distinct validParent).relations
        firstMember secondMember (firstKey.trans (sameKey.trans secondKey.symm))
      exact Option.some.inj (isFirst.symm.trans isSecond)
    · exact (mixed second secondMember two isSecond first firstMember one isFirst sameKey.symm).symm
  · rcases mem_allTriples isTwo with
      ⟨second, secondMember, isSecond⟩ | ⟨second, secondMember, isSecond⟩
    · exact mixed first firstMember one isFirst second secondMember two isSecond sameKey
    · exact built.proposals_apart validParent extended firstMember secondMember isFirst isSecond
        sameKey

end built

/-- A catalog that is built on an accepted parent keeps what the parent says exactly when
no relation proposal cuts the key of a relation of the parent in another place. -/
theorem catalog_inheritance_faithful_iff {codec : OntologyCodec} {release : OntologyReleaseRecord}
    {parent catalog : OntologyReleaseCatalogV1} {digest catalogDigest domainScope : String}
    {proposals : List OntologyOnboardingProposalDraft}
    (accepted : releaseCatalogFromEvidence codec release = .ok (parent, digest))
    (built : buildOntologyReleaseCatalog codec domainScope proposals (some release) =
      .ok (catalog, catalogDigest)) :
    InheritsFaithfully proposals parent catalog ↔ SeparatorsAgree proposals parent := by
  obtain ⟨inherited, isInherited, built⟩ := bind_eq_ok.mp built
  obtain ⟨_, extended, returned⟩ := bind_eq_ok.mp built
  cases returned
  rw [parentCatalog_of_accepted accepted] at isInherited
  cases isInherited
  obtain ⟨_, _, _, validParent, -⟩ := releaseCatalogFromEvidence_eq_ok accepted
  have distinct := validateCatalog_distinct validParent
  have names := buildReleaseCatalog_extends distinct extended
  obtain ⟨objects, relations, actions, objectNames, parts⟩ := buildReleaseCatalog_eq_ok
    (fun _ same => Option.some.inj same ▸ distinct) extended
  constructor
  · intro faithful proposal isProposal proposed isProposed relation member inherited isInherited
      sameKey
    have key := stableKey_of_relationTriple validParent member isInherited
    have isOne : proposed ∈ allTriples proposals parent := by
      refine List.mem_append_right _ (List.mem_filterMap.mpr ⟨proposal, isProposal, ?_⟩)
      rw [isProposed]
      rfl
    have isTwo : inherited ∈ allTriples proposals parent :=
      List.mem_append_left _ (List.mem_filterMap.mpr ⟨relation, member, isInherited⟩)
    obtain rfl := faithful.triples proposed isOne inherited isTwo (sameKey.trans key)
    exact ⟨rfl, rfl⟩
  · intro agree
    constructor
    case names => exact names
    case relations => exact fun _ member => agree.relation_kept parts validParent names member
    case objects => exact fun _ member unnamed => parts.objects_unchanged member unnamed
    case properties =>
      exact fun _ member _ isRedefined sameKey _ isProperty _ isKept sameName =>
        parts.properties_kept validParent member isRedefined sameKey isProperty isKept sameName
    case triples =>
      exact fun _ isOne _ isTwo sameKey => agree.triples parts validParent names isOne isTwo sameKey

/-! ### An order line and a line of an order -/

namespace SplitKey

def codec : OntologyCodec where
  parseUuid _ := none
  formats := ⟨fun _ => true, fun _ => true, fun _ => true⟩
  jsonSha256 _ := "digest"
  textSha256 _ := "digest"
  printString := id
  printNumber _ := "0"

def object (name apiName : String) : OntologySdkCatalogObject where
  stableKey := "object:" ++ name
  apiName := apiName
  objectType := name
  properties := []
  primaryKeyApiName := none

def relation (fromObjectApiName relationType : String) : OntologySdkCatalogRelation where
  stableKey := "relation:Order:Line:of:Item"
  apiName := "parts"
  fromObjectApiName := fromObjectApiName
  relationType := relationType
  toObjectApiName := "Item"

/-- The objects with one relation, all under the key that two triples share. -/
def catalog (relation : OntologySdkCatalogRelation) : OntologyReleaseCatalogV1 where
  schema := ontologyReleaseCatalogSchema
  domainScope := "commerce"
  objects := [object "Item" "Item", object "Order" "Order", object "Order:Line" "OrderLine"]
  relations := [relation]
  actions := []

/-- The parent relates order lines to items. -/
def release : OntologyReleaseRecord :=
  newOntologyRelease 0 "commerce" none {
    version := "v1"
    sourceRunId := none
    releaseClass := "repo_controlled"
    objectCount := 3
    relationCount := 1
    actionCount := 0
    migrationPolicy := .null
    materializedObjectIds := .null
    materializedLinkIds := .null
    evidenceRefs := .array [catalogEvidence (catalog (relation "OrderLine" "of")) "sha256:digest"] }

/-- A relation between an object and items is proposed. -/
def proposal (fromObject relationType : String) : OntologyOnboardingProposalDraft where
  id := 21
  runId := 2
  proposalType := "relation"
  name := "parts"
  sourceMapping := "orders"
  evidence := .object []
  reviewStatus := "approved"
  content := .ofFields [("from_object", .string fromObject), ("relation", .string relationType),
    ("to_object", .string "Item")]

end SplitKey

open SplitKey in
/-- The same relation, proposed again. -/
theorem same_relation_faithful_iff :
    InheritsFaithfully [proposal "Order:Line" "of"] (catalog (relation "OrderLine" "of"))
        (catalog (relation "OrderLine" "of")) ↔
      SeparatorsAgree [proposal "Order:Line" "of"] (catalog (relation "OrderLine" "of")) :=
  have accepted : releaseCatalogFromEvidence codec release =
      .ok (catalog (relation "OrderLine" "of"), "sha256:digest") := by decide +kernel
  have built : buildOntologyReleaseCatalog codec "commerce" [proposal "Order:Line" "of"]
      (some release) = .ok (catalog (relation "OrderLine" "of"), "sha256:digest") := by
    decide +kernel
  catalog_inheritance_faithful_iff accepted built

open SplitKey in
/-- A relation `Line:of` from orders takes over the entry of the relation `of` from order
lines. -/
theorem relation_taken_over :
    releaseCatalogFromEvidence codec release =
        .ok (catalog (relation "OrderLine" "of"), "sha256:digest") ∧
      buildOntologyReleaseCatalog codec "commerce" [proposal "Order" "Line:of"] (some release) =
        .ok (catalog (relation "Order" "Line:of"), "sha256:digest") ∧
      ¬InheritsFaithfully [proposal "Order" "Line:of"] (catalog (relation "OrderLine" "of"))
        (catalog (relation "Order" "Line:of")) := by
  refine ⟨by decide +kernel, by decide +kernel, fun faithful => ?_⟩
  exact absurd faithful.relations (by decide +kernel)

end MandoForge
