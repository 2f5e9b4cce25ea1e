/-
Module: MandoForge.Ontology.SdkNames
Purpose: The names that the generated SDK declares.  The prefixes keep the kinds apart,
  but the companion of an object has the name of the object with a suffix, and another
  object may have that name.
Trusted boundary: the members of the declarations are left out.
Main exports: SdkDeclaration, generated_names_distinct_iff
-/
import MandoForge.Ontology.FaithfulInheritance
import MandoForge.Ontology.GeneratedSdk
import MandoForge.Ontology.SdkContract
import Mathlib.Data.List.Pairwise

namespace MandoForge

open Foundation

/-! ### Declarations -/

inductive SdkKeyword where
  | type
  | interface
  | const
  | exportedClass
deriving DecidableEq, Repr

structure SdkDeclaration where
  keyword : SdkKeyword
  name : String
deriving DecidableEq, Repr

def objectTypeName (apiName : String) : String := "OntologyObject" ++ tsTypeName apiName

def relationTypeName (apiName : String) : String := "OntologyRelation" ++ tsTypeName apiName

def sdkPreamble : List SdkDeclaration := [
  ⟨.type, "JsonRecord"⟩,
  ⟨.type, "OntologyActionApprovalRequired"⟩,
  ⟨.type, "OntologyActionProposalCreated"⟩,
  ⟨.type, "OntologyActionResult"⟩,
  ⟨.interface, "MandoForgeConsumerReadQuery"⟩,
  ⟨.const, "MANDOFORGE_APPLICATION_ID"⟩,
  ⟨.interface, "MandoForgeOntologySdkOptions"⟩]

/-- `write_object_types`. -/
def objectDeclarations (object : OntologySdkCatalogObject) : List SdkDeclaration :=
  let typeName := objectTypeName object.apiName
  [⟨.interface, typeName ++ "Properties"⟩, ⟨.interface, typeName⟩]

/-- `write_relation_type`. -/
def relationDeclaration (relation : OntologySdkCatalogRelation) : SdkDeclaration :=
  ⟨.interface, relationTypeName relation.apiName⟩

/-- `write_action_types`; reading the properties is what can fail. -/
def actionDeclarations (action : OntologySdkCatalogAction) :
    Except AppError (List SdkDeclaration) := do
  let typeName := actionTypeName action.apiName
  let _members ← schemaProperties action.inputSchema
  return [⟨.interface, typeName ++ "Parameters"⟩, ⟨.interface, typeName ++ "ProposalRequest"⟩]

/-- What `generate_typescript_sdk` declares, in this order. -/
def sdkDeclarations (catalog : OntologyReleaseCatalogV1) :
    Except AppError (List SdkDeclaration) := do
  if catalog.schema ≠ ontologyReleaseCatalogSchema then
    throw (.forbidden "ontology SDK TypeScript catalog schema is unsupported")
  if catalog.actions.any fun action => decide (action.executionMode ≠ "proposal_only") then
    throw (.forbidden
      "ontology SDK TypeScript generation only supports proposal_only actions")
  let actions ← catalog.actions.mapM actionDeclarations
  return sdkPreamble ++ catalog.objects.flatMap objectDeclarations ++
    catalog.relations.map relationDeclaration ++ actions.flatten ++
    [⟨.exportedClass, "MandoForgeOntologySdk"⟩]

/-- An object has the name that the properties of another object get. -/
def PropertiesNameTaken (catalog : OntologyReleaseCatalogV1) : Prop :=
  ∃ one ∈ catalog.objects, ∃ two ∈ catalog.objects, two.apiName = one.apiName ++ "Properties"

/-! ### What is declared for an accepted catalog -/

/-- The interfaces of an action. -/
def actionInterfaces (action : OntologySdkCatalogAction) : List SdkDeclaration :=
  [⟨.interface, actionTypeName action.apiName ++ "Parameters"⟩,
    ⟨.interface, actionTypeName action.apiName ++ "ProposalRequest"⟩]

/-- The declarations of a catalog whose actions can all be read. -/
def catalogDeclarations (catalog : OntologyReleaseCatalogV1) : List SdkDeclaration :=
  sdkPreamble ++ catalog.objects.flatMap objectDeclarations ++
    catalog.relations.map relationDeclaration ++ catalog.actions.flatMap actionInterfaces ++
    [⟨.exportedClass, "MandoForgeOntologySdk"⟩]

section accepted

variable {formats : SchemaFormats} {catalog : OntologyReleaseCatalogV1}
  (accepted : validateCatalog formats catalog = .ok ())

include accepted

/-- A checked schema can be read. -/
theorem actionDeclarations_of_accepted {action : OntologySdkCatalogAction}
    (member : action ∈ catalog.actions) :
    actionDeclarations action = .ok (actionInterfaces action) := by
  obtain ⟨-, -, -, actions, -⟩ := validateCatalog_eq_ok.mp accepted
  obtain ⟨-, -, -, -, isObject, schemaAccepted⟩ := validateAction_eq_ok.mp (actions action member)
  have reads : ∃ members, schemaProperties action.inputSchema = .ok members := by
    cases isSchema : action.inputSchema with
    | object schema =>
        rw [isSchema] at schemaAccepted
        unfold schemaProperties
        dsimp only
        rcases validateActionSchema_object schemaAccepted with
          ⟨-, -, ⟨properties, isProperties⟩, -, -⟩ | ⟨-, -, absent, -⟩
        · rw [Json.fieldsUnder_eq_some.mp isProperties]
          exact ⟨_, rfl⟩
        · rw [absent]
          exact ⟨_, rfl⟩
    | null | bool | number | string | array =>
        rw [isSchema] at isObject
        cases isObject
  obtain ⟨members, isMembers⟩ := reads
  rw [actionDeclarations, isMembers]
  rfl

theorem sdkDeclarations_of_accepted
    (proposes : ∀ action ∈ catalog.actions, action.executionMode = "proposal_only") :
    sdkDeclarations catalog = .ok (catalogDeclarations catalog) := by
  obtain ⟨schema, -⟩ := validateCatalog_eq_ok.mp accepted
  have read : catalog.actions.mapM actionDeclarations =
      .ok (catalog.actions.map actionInterfaces) := by
    rw [mapM_eq_ok, List.forall₂_map_right_iff, List.forall₂_same]
    exact fun action member => actionDeclarations_of_accepted accepted member
  have allPropose : ¬ (catalog.actions.any fun action =>
      decide (action.executionMode ≠ "proposal_only")) = true := by
    rw [List.any_eq_true]
    rintro ⟨action, member, other⟩
    exact of_decide_eq_true other (proposes action member)
  unfold sdkDeclarations
  rw [guardThen_eq_ok, guardThen_eq_ok, not_not]
  exact ⟨schema, allPropose, bind_eq_ok.mpr ⟨_, read, by
    rw [catalogDeclarations, List.flatMap_def]; rfl⟩⟩

omit accepted in
theorem proposes_of_declared {declared : List SdkDeclaration}
    (declares : sdkDeclarations catalog = .ok declared) :
    ∀ action ∈ catalog.actions, action.executionMode = "proposal_only" := by
  unfold sdkDeclarations at declares
  obtain ⟨-, declares⟩ := guardThen_eq_ok.mp declares
  obtain ⟨allPropose, -⟩ := guardThen_eq_ok.mp declares
  intro action member
  by_contra other
  exact allPropose (List.any_eq_true.mpr ⟨action, member, decide_eq_true other⟩)

theorem apiNames_distinct : ((catalogEntries catalog).map fun entry =>
    toAsciiLowercase entry.2).Nodup := by
  obtain ⟨-, entries, -⟩ := validateCatalog_eq_ok.mp accepted
  exact (validateEntries_names entries).1

end accepted

/-! ### Names of different kinds -/

/-- The character of a name behind the first eight: it tells the kinds apart. -/
def kindMark (name : String) : Option Char := name.toList[8]?

theorem kindMark_append {start : String} (long : 8 < start.toList.length) (rest : String) :
    kindMark (start ++ rest) = kindMark start := by
  unfold kindMark
  rw [String.toList_append, List.getElem?_append_left long]

/-- The second character from the end. -/
def endMark (name : String) : Option Char := name.toList.reverse[1]?

theorem endMark_append {ending : String} (long : 1 < ending.toList.length) (start : String) :
    endMark (start ++ ending) = endMark ending := by
  unfold endMark
  rw [String.toList_append, List.reverse_append,
    List.getElem?_append_left (by rwa [List.length_reverse])]

theorem disjoint_of_holds {left right : List String} (holds : String → Prop)
    (ofLeft : ∀ name ∈ left, holds name) (notRight : ∀ name ∈ right, ¬ holds name) :
    left.Disjoint right :=
  fun name inLeft inRight => notRight name inRight (ofLeft name inLeft)

/-! ### Names from api names -/

/-- A small letter comes back from its capital. -/
theorem toLower_toUpper (c : Char) : c.toUpper.toLower = c.toLower := by
  by_cases lower : 'a'.val ≤ c.val ∧ c.val ≤ 'z'.val
  · have above : 97 ≤ c.val.toNat := UInt32.le_iff_toNat_le.mp lower.1
    have below : c.val.toNat ≤ 122 := UInt32.le_iff_toNat_le.mp lower.2
    have stays : c.toLower = c := dif_neg fun upper => by
      have : c.val.toNat ≤ 90 := UInt32.le_iff_toNat_le.mp upper.2
      omega
    have raised : c.toUpper.val.toNat = c.val.toNat - 32 := by
      delta Char.toUpper
      rw [dif_pos lower]
      rw [UInt32.toNat_add]
      have : ('A'.val - 'a'.val).toNat = 2 ^ 32 - 32 := by decide
      omega
    have upper : c.toUpper.val ≥ 'A'.val ∧ c.toUpper.val ≤ 'Z'.val := by
      constructor
      · refine UInt32.le_iff_toNat_le.mpr ?_
        show 65 ≤ _
        omega
      · refine UInt32.le_iff_toNat_le.mpr ?_
        show _ ≤ 90
        omega
    rw [stays]
    apply Char.ext
    have lowered : c.toUpper.toLower.val = c.toUpper.val + ('a'.val - 'A'.val) :=
      congrArg Char.val (dif_pos upper)
    rw [lowered]
    apply UInt32.toNat_inj.mp
    rw [UInt32.toNat_add, raised]
    have : ('a'.val - 'A'.val).toNat = 32 := by decide
    omega
  · rw [show c.toUpper = c from dif_neg lower]

/-- A name that is allowed begins with a letter of its kind. -/
theorem validateApiName_first {name : String} {kind : ApiNameKind}
    (valid : validateApiName name kind = .ok name) :
    ∃ first rest, name.toList = first :: rest ∧
      (if kind = .object then first.isUpper else first.isLower) = true := by
  unfold validateApiName at valid
  split at valid
  · cases valid
  · next follows =>
      unfold followsApiNameRules at follows
      cases isName : name.toList with
      | nil =>
          rw [isName] at follows
          exact absurd rfl follows
      | cons first rest =>
          rw [isName] at follows
          simp only [Bool.not_eq_true', Bool.not_eq_false, Bool.and_eq_true] at follows
          exact ⟨first, rest, rfl, follows.2⟩

theorem tsTypeName_object {name : String} (valid : validateApiName name .object = .ok name) :
    tsTypeName name = name := by
  obtain ⟨first, rest, isName, upper⟩ := validateApiName_first valid
  rw [if_pos rfl] at upper
  have upper : first.val ≥ 'A'.val ∧ first.val ≤ 'Z'.val := of_decide_eq_true upper
  have stays : first.toUpper = first := dif_neg fun lower =>
    absurd (UInt32.le_trans lower.1 upper.2) (by decide)
  unfold tsTypeName
  rw [isName]
  dsimp only
  rw [stays, ← isName, String.ofList_toList]

theorem toAsciiLowercase_tsTypeName {name : String} {kind : ApiNameKind}
    (valid : validateApiName name kind = .ok name) :
    toAsciiLowercase (tsTypeName name) = toAsciiLowercase name := by
  obtain ⟨first, rest, isName, -⟩ := validateApiName_first valid
  unfold toAsciiLowercase tsTypeName
  rw [isName]
  dsimp only
  rw [String.toList_ofList, List.map_cons, List.map_cons, toLower_toUpper]

section kinds

variable {formats : SchemaFormats} {catalog : OntologyReleaseCatalogV1}
  (accepted : validateCatalog formats catalog = .ok ())

include accepted

theorem object_valid {object : OntologySdkCatalogObject} (member : object ∈ catalog.objects) :
    validateApiName object.apiName .object = .ok object.apiName := by
  obtain ⟨-, -, -, -, objects⟩ := validateCatalog_eq_ok.mp accepted
  obtain ⟨valid, validates, -⟩ := bind_eq_ok.mp (objects object member)
  exact validateApiName_eq_ok validates ▸ validates

theorem relation_valid {relation : OntologySdkCatalogRelation}
    (member : relation ∈ catalog.relations) :
    validateApiName relation.apiName .relation = .ok relation.apiName := by
  obtain ⟨-, -, relations, -⟩ := validateCatalog_eq_ok.mp accepted
  obtain ⟨valid, validates, -⟩ := bind_eq_ok.mp (relations relation member)
  exact validateApiName_eq_ok validates ▸ validates

theorem action_valid {action : OntologySdkCatalogAction} (member : action ∈ catalog.actions) :
    validateApiName action.apiName .action = .ok action.apiName := by
  obtain ⟨-, -, -, actions, -⟩ := validateCatalog_eq_ok.mp accepted
  exact (validateAction_eq_ok.mp (actions action member)).1

theorem kinds_distinct :
    (catalog.objects.map fun entry => toAsciiLowercase entry.apiName).Nodup ∧
      (catalog.relations.map fun entry => toAsciiLowercase entry.apiName).Nodup ∧
        (catalog.actions.map fun entry => toAsciiLowercase entry.apiName).Nodup := by
  have distinct := apiNames_distinct accepted
  simp only [catalogEntries, List.map_append, List.map_map, List.nodup_append'] at distinct
  exact ⟨distinct.1.1, distinct.1.2.1, distinct.2.1⟩

/-- The names that objects declare are distinct exactly when none is taken. -/
theorem objectNames_nodup_iff :
    ((catalog.objects.flatMap objectDeclarations).map SdkDeclaration.name).Nodup ↔
      ¬ PropertiesNameTaken catalog := by
  have typeName {object : OntologySdkCatalogObject} (member : object ∈ catalog.objects) :
      objectTypeName object.apiName = "OntologyObject" ++ object.apiName := by
    rw [objectTypeName, tsTypeName_object (object_valid accepted member)]
  have sameName {one two : OntologySdkCatalogObject} (isOne : one ∈ catalog.objects)
      (isTwo : two ∈ catalog.objects) (same : one.apiName = two.apiName) : one = two :=
    List.inj_on_of_nodup_map (kinds_distinct accepted).1 isOne isTwo
      (congrArg toAsciiLowercase same)
  rw [List.map_flatMap, List.nodup_flatMap]
  constructor
  · rintro ⟨-, apart⟩ ⟨one, isOne, two, isTwo, taken⟩
    have different : one ≠ two := by
      rintro rfl
      have longer := congrArg String.length taken
      rw [String.length_append] at longer
      have : "Properties".length = 10 := rfl
      omega
    have symmetric : Std.Symm (Function.onFun List.Disjoint fun object =>
        (objectDeclarations object).map SdkDeclaration.name) := ⟨fun _ _ disjoint => disjoint.symm⟩
    have disjoint := apart.forall isOne isTwo different
    refine disjoint (a := objectTypeName two.apiName) ?_ ?_
    · have sameType : objectTypeName one.apiName ++ "Properties" = objectTypeName two.apiName := by
        rw [typeName isOne, typeName isTwo, taken, String.append_assoc]
      simp [objectDeclarations, sameType]
    · simp [objectDeclarations]
  · intro free
    have notTaken {one two : OntologySdkCatalogObject} (isOne : one ∈ catalog.objects)
        (isTwo : two ∈ catalog.objects) :
        objectTypeName one.apiName ++ "Properties" ≠ objectTypeName two.apiName := by
      rw [typeName isOne, typeName isTwo, String.append_assoc]
      exact fun same => free ⟨one, isOne, two, isTwo, ((String.append_right_inj _).mp same).symm⟩
    have sameType {one two : OntologySdkCatalogObject} (isOne : one ∈ catalog.objects)
        (isTwo : two ∈ catalog.objects)
        (same : objectTypeName one.apiName = objectTypeName two.apiName) : one = two := by
      rw [typeName isOne, typeName isTwo] at same
      exact sameName isOne isTwo ((String.append_right_inj _).mp same)
    refine ⟨fun object member => ?_, ?_⟩
    · simp only [objectDeclarations, List.map_cons, List.map_nil, List.nodup_cons,
        List.mem_singleton]
      exact ⟨notTaken member member, by simp⟩
    · refine (List.Nodup.of_map _ (kinds_distinct accepted).1).pairwise_of_forall_ne ?_
      intro one isOne two isTwo different
      simp only [Function.onFun, objectDeclarations, List.map_cons, List.map_nil,
        List.disjoint_cons_left, List.disjoint_nil_left, List.mem_cons, List.not_mem_nil, or_false,
        not_or, and_true]
      refine ⟨⟨fun same => ?_, notTaken isOne isTwo⟩, fun same => notTaken isTwo isOne same.symm,
        fun same => different (sameType isOne isTwo same)⟩
      exact different (sameType isOne isTwo ((String.append_left_inj _).mp same))

theorem relationNames_nodup :
    ((catalog.relations.map relationDeclaration).map SdkDeclaration.name).Nodup := by
  rw [List.map_map]
  refine List.Nodup.map_on ?_ (List.Nodup.of_map _ (kinds_distinct accepted).2.1)
  intro one isOne two isTwo same
  have sameType := String.append_right_inj _ |>.mp same
  refine List.inj_on_of_nodup_map (kinds_distinct accepted).2.1 isOne isTwo ?_
  rw [← toAsciiLowercase_tsTypeName (relation_valid accepted isOne), sameType,
    toAsciiLowercase_tsTypeName (relation_valid accepted isTwo)]

theorem actionNames_nodup :
    ((catalog.actions.flatMap actionInterfaces).map SdkDeclaration.name).Nodup := by
  have sameType {one two : OntologySdkCatalogAction} (isOne : one ∈ catalog.actions)
      (isTwo : two ∈ catalog.actions)
      (same : actionTypeName one.apiName = actionTypeName two.apiName) : one = two := by
    have sameName := (String.append_right_inj _).mp same
    refine List.inj_on_of_nodup_map (kinds_distinct accepted).2.2 isOne isTwo ?_
    rw [← toAsciiLowercase_tsTypeName (action_valid accepted isOne), sameName,
      toAsciiLowercase_tsTypeName (action_valid accepted isTwo)]
  have companions (one two : String) : one ++ "Parameters" ≠ two ++ "ProposalRequest" := by
    intro same
    have marks := congrArg endMark same
    rw [endMark_append (by decide), endMark_append (by decide)] at marks
    exact absurd marks (by decide)
  rw [List.map_flatMap, List.nodup_flatMap]
  refine ⟨fun action _ => ?_, ?_⟩
  · simp [actionInterfaces, companions]
  · refine (List.Nodup.of_map _ (kinds_distinct accepted).2.2).pairwise_of_forall_ne ?_
    intro one isOne two isTwo different
    simp only [Function.onFun, actionInterfaces, List.map_cons, List.map_nil,
      List.disjoint_cons_left, List.disjoint_nil_left, List.mem_cons, List.not_mem_nil, or_false,
      not_or, and_true]
    refine ⟨⟨fun same => ?_, companions _ _⟩, fun same => companions _ _ same.symm, fun same => ?_⟩
    · exact different (sameType isOne isTwo ((String.append_left_inj _).mp same))
    · exact different (sameType isOne isTwo ((String.append_left_inj _).mp same))

/-- The prefixes and the suffixes keep the kinds apart. -/
theorem catalogDeclarations_nodup_iff :
    ((catalogDeclarations catalog).map SdkDeclaration.name).Nodup ↔
      ((catalog.objects.flatMap objectDeclarations).map SdkDeclaration.name).Nodup := by
  have objects : ∀ name ∈ (catalog.objects.flatMap objectDeclarations).map SdkDeclaration.name,
      kindMark name = some 'O' := by
    simp only [List.mem_map, List.mem_flatMap, objectDeclarations, List.mem_cons,
      List.not_mem_nil, or_false]
    rintro _ ⟨_, ⟨object, -, rfl | rfl⟩, rfl⟩
    · dsimp only
      rw [objectTypeName, String.append_assoc, kindMark_append (by decide)]
      rfl
    · exact kindMark_append (by decide) _
  have relations : ∀ name ∈ (catalog.relations.map relationDeclaration).map SdkDeclaration.name,
      kindMark name = some 'R' := by
    simp only [List.mem_map]
    rintro _ ⟨_, ⟨relation, -, rfl⟩, rfl⟩
    exact kindMark_append (by decide) _
  have actions : ∀ name ∈ (catalog.actions.flatMap actionInterfaces).map SdkDeclaration.name,
      kindMark name = some 'A' ∧ (endMark name = some 'r' ∨ endMark name = some 's') := by
    simp only [List.mem_map, List.mem_flatMap, actionInterfaces, List.mem_cons,
      List.not_mem_nil, or_false]
    rintro _ ⟨_, ⟨action, -, rfl | rfl⟩, rfl⟩
    · dsimp only
      refine ⟨?_, .inl (endMark_append (by decide) _)⟩
      rw [actionTypeName, String.append_assoc]
      exact kindMark_append (by decide) _
    · dsimp only
      refine ⟨?_, .inr (endMark_append (by decide) _)⟩
      rw [actionTypeName, String.append_assoc]
      exact kindMark_append (by decide) _
  have others : ∀ name ∈ sdkPreamble.map SdkDeclaration.name ++ ["MandoForgeOntologySdk"],
      kindMark name ≠ some 'O' ∧ kindMark name ≠ some 'R' ∧
        ¬ (kindMark name = some 'A' ∧ (endMark name = some 'r' ∨ endMark name = some 's')) := by
    decide
  have fixed : ∀ name ∈ sdkPreamble.map SdkDeclaration.name, _ := fun name member =>
    others name (List.mem_append_left _ member)
  have last := others "MandoForgeOntologySdk" (List.mem_append_right _ List.mem_cons_self)
  have objectsRelations := disjoint_of_holds (kindMark · = some 'O') objects fun name member same =>
    absurd (same.symm.trans (relations name member)) (by decide)
  have objectsActions := disjoint_of_holds (kindMark · = some 'O') objects fun name member same =>
    absurd (same.symm.trans (actions name member).1) (by decide)
  have relationsActions := disjoint_of_holds (kindMark · = some 'R') relations
    fun name member same => absurd (same.symm.trans (actions name member).1) (by decide)
  have objectsFixed := disjoint_of_holds _ objects fun name member => (fixed name member).1
  have relationsFixed := disjoint_of_holds _ relations fun name member => (fixed name member).2.1
  have actionsFixed := disjoint_of_holds _ actions fun name member => (fixed name member).2.2
  have notLast {names : List String} (holds : String → Prop) (ofNames : ∀ name ∈ names, holds name)
      (notClass : ¬ holds "MandoForgeOntologySdk") : names.Disjoint ["MandoForgeOntologySdk"] :=
    disjoint_of_holds holds ofNames fun name member => by
      rwa [List.mem_singleton.mp member]
  rw [catalogDeclarations]
  simp only [List.map_append, List.nodup_append', List.disjoint_append_left]
  constructor
  · rintro ⟨⟨⟨⟨-, distinct, -⟩, -⟩, -⟩, -⟩
    exact distinct
  · intro distinct
    refine ⟨⟨⟨⟨by decide, distinct, objectsFixed.symm⟩, relationNames_nodup accepted,
      relationsFixed.symm, objectsRelations⟩, actionNames_nodup accepted,
      ⟨actionsFixed.symm, objectsActions⟩, relationsActions⟩, List.nodup_singleton _,
      ⟨⟨?_, notLast _ objects last.1⟩, notLast _ relations last.2.1⟩, notLast _ actions last.2.2⟩
    exact List.disjoint_singleton.mpr (by decide)

end kinds


/-! ### When the names are distinct -/

/-- The names that the SDK of an accepted catalog declares are distinct exactly when it is not
generated, or no object has the name of another one with the suffix. -/
theorem generated_names_distinct_iff {formats : SchemaFormats}
    {catalog : OntologyReleaseCatalogV1} (accepted : validateCatalog formats catalog = .ok ()) :
    (∀ declared, sdkDeclarations catalog = .ok declared →
        (declared.map SdkDeclaration.name).Nodup) ↔
      ((∀ action ∈ catalog.actions, action.executionMode = "proposal_only") →
        ¬ PropertiesNameTaken catalog) := by
  rw [← objectNames_nodup_iff accepted, ← catalogDeclarations_nodup_iff accepted]
  constructor
  · intro distinct proposes
    exact distinct _ (sdkDeclarations_of_accepted accepted proposes)
  · intro distinct declared declares
    have proposes := proposes_of_declared declares
    obtain rfl := Except.ok.inj (declares.symm.trans (sdkDeclarations_of_accepted accepted proposes))
    exact distinct proposes

namespace OrderProperties

def order (name : String) : OntologySdkCatalogObject where
  stableKey := "object:" ++ name
  apiName := name
  objectType := name
  properties := []
  primaryKeyApiName := none

/-- An order, and the properties of an order as an object of their own. -/
def catalog (second : String) : OntologyReleaseCatalogV1 where
  schema := ontologyReleaseCatalogSchema
  domainScope := "commerce"
  objects := [order "Order", order second]
  relations := []
  actions := []

end OrderProperties

open OrderProperties in
/-- The two objects are merged into one interface. -/
theorem order_properties_declared_twice :
    validateCatalog TicketSchema.formats (catalog "OrderProperties") = .ok () ∧
      ∃ declared, sdkDeclarations (catalog "OrderProperties") = .ok declared ∧
        ¬ (declared.map SdkDeclaration.name).Nodup :=
  ⟨by decide +kernel, catalogDeclarations (catalog "OrderProperties"), rfl, by decide +kernel⟩

open OrderProperties in
/-- An order and its line have names of their own. -/
theorem order_line_declared_once :
    (∀ declared, sdkDeclarations (catalog "OrderLine") = .ok declared →
        (declared.map SdkDeclaration.name).Nodup) ↔
      ((∀ action ∈ (catalog "OrderLine").actions, action.executionMode = "proposal_only") →
        ¬ PropertiesNameTaken (catalog "OrderLine")) :=
  @generated_names_distinct_iff TicketSchema.formats _ (by decide +kernel)

end MandoForge
