/-
Module: MandoForge.Semantic.Kernel
Purpose: The semantic sources, objects and links of the in-memory store, and the reads
  that leave archived ones out.
Trusted boundary: the confidence of a link is a rational number.
Main exports: SemanticSource, SemanticLink
-/
import MandoForge.Semantic.ContextGate

namespace MandoForge

open Foundation

structure SemanticSource where
  id : Uuid
  sourceType : String
  sourceUri : String
  displayName : String
  ownerType : Option String
  ownerId : Option Uuid
  metadata : Json
  provenance : Json
  freshness : Json
  status : String
  lastIngestedAt : Option Timestamp
  createdAt : Timestamp
  updatedAt : Timestamp
  archivedAt : Option Timestamp
deriving DecidableEq, Repr

/-- A semantic object with all that is stored of it. -/
structure StoredSemanticObject extends SemanticObject where
  sourceId : Option Uuid
  summary : String
  content : Json
  sourceUri : Option String
  provenance : Json
  updatedAt : Timestamp
deriving DecidableEq, Repr

structure SemanticLink where
  id : Uuid
  fromEntityType : String
  fromEntityId : String
  relationType : String
  toEntityType : String
  toEntityId : String
  metadata : Json
  provenance : Json
  confidence : Rat
  status : String
  createdAt : Timestamp
  updatedAt : Timestamp
  archivedAt : Option Timestamp
deriving DecidableEq, Repr

abbrev SemanticObjectTable := Table fun object : StoredSemanticObject => object.id

structure SemanticKernel where
  sources : Table SemanticSource.id := Table.empty
  objects : SemanticObjectTable := Table.empty
  links : Table SemanticLink.id := Table.empty
deriving DecidableEq

/-- `values().filter(archived_at.is_none())`, then `sort_by_key(created_at)`. -/
def listUnarchived {Row : Type} {key : Row → Uuid} (archivedAt : Row → Option Timestamp)
    (createdAt : Row → Timestamp) (table : Table key) : List Row :=
  (table.rows.filter fun row => (archivedAt row).isNone).mergeSort
    fun earlier later => decide (createdAt earlier ≤ createdAt later)

/-- `get(&id).filter(archived_at.is_none()).ok_or_else(..)`. -/
def getUnarchived {Row : Type} {key : Row → Uuid} (archivedAt : Row → Option Timestamp)
    (missing : String) (table : Table key) (id : Uuid) : Except AppError Row :=
  okOr ((table.find? id).filter fun row => (archivedAt row).isNone) (.notFound missing)

section reads

variable {Row : Type} {key : Row → Uuid} {archivedAt : Row → Option Timestamp}
  {createdAt : Row → Timestamp} {table : Table key}

@[simp] theorem mem_listUnarchived {row : Row} :
    row ∈ listUnarchived archivedAt createdAt table ↔ row ∈ table ∧ archivedAt row = none := by
  rw [listUnarchived, List.mem_mergeSort, List.mem_filter, Option.isNone_iff_eq_none, Table.mem_iff]

theorem getUnarchived_eq_ok {missing : String} {id : Uuid} {row : Row} :
    getUnarchived archivedAt missing table id = .ok row ↔
      (row ∈ table ∧ archivedAt row = none) ∧ key row = id := by
  rw [getUnarchived, okOr_eq_ok, Option.filter_eq_some_iff, Table.find?_eq_some,
    Option.isNone_iff_eq_none]
  tauto

theorem getUnarchived_of_mem {missing : String} {row : Row}
    (listed : row ∈ listUnarchived archivedAt createdAt table) :
    getUnarchived archivedAt missing table (key row) = .ok row :=
  getUnarchived_eq_ok.mpr ⟨mem_listUnarchived.mp listed, rfl⟩

end reads

namespace SemanticKernel

variable (kernel : SemanticKernel)

def listSemanticSources : List SemanticSource :=
  listUnarchived SemanticSource.archivedAt SemanticSource.createdAt kernel.sources

def getSemanticSource (id : Uuid) : Except AppError SemanticSource :=
  getUnarchived SemanticSource.archivedAt "semantic source not found" kernel.sources id

def listSemanticObjects : List StoredSemanticObject :=
  listUnarchived (fun object => object.archivedAt) (fun object => object.createdAt) kernel.objects

def getSemanticObject (id : Uuid) : Except AppError StoredSemanticObject :=
  getUnarchived (fun object => object.archivedAt) "semantic object not found" kernel.objects id

def listSemanticLinks : List SemanticLink :=
  listUnarchived SemanticLink.archivedAt SemanticLink.createdAt kernel.links

def getSemanticLink (id : Uuid) : Except AppError SemanticLink :=
  getUnarchived SemanticLink.archivedAt "semantic link not found" kernel.links id

end SemanticKernel

end MandoForge
