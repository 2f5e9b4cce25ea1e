/-
Module: MandoForge.Semantic.KernelRuns
Purpose: Calls on the semantic records at the same time, one operation of the store at a
  time.  An archived record stays archived, and live records keep distinct names, exactly
  when no call writes over a record that was archived behind its read.
Trusted boundary: a call that is given up takes no further step.
Main exports: KernelRun, archivesLast_iff
-/
import MandoForge.Foundation.Runs
import MandoForge.Semantic.KernelWrites

namespace MandoForge

open Foundation

/-! ### Records -/

namespace SemanticKind

variable {kind other : SemanticKind} {kernel : SemanticKernel}

@[simp] theorem table_withTable (table : Table kind.id) :
    kind.table (kind.withTable table kernel) = table := by
  cases kind <;> rfl

theorem table_withTable_of_ne (differs : other ≠ kind) (table : Table kind.id) :
    other.table (kind.withTable table kernel) = other.table kernel := by
  cases kind <;> cases other <;> first | rfl | exact absurd rfl differs

@[simp] theorem id_withId (id : Uuid) (row : kind.Row) : kind.id (kind.withId id row) = id := by
  cases kind <;> rfl

@[simp] theorem archivedAt_withId (id : Uuid) (row : kind.Row) :
    kind.archivedAt (kind.withId id row) = kind.archivedAt row := by
  cases kind <;> rfl

@[simp] theorem names_withId (id : Uuid) (row : kind.Row) :
    kind.names (kind.withId id row) = kind.names row := by
  cases kind <;> rfl

/-- Records clash by their names. -/
theorem clashes_congr {first second existing row : kind.Row}
    (sameExisting : kind.names existing = kind.names first)
    (sameRow : kind.names row = kind.names second) :
    kind.clashes existing row = kind.clashes first second := by
  cases kind with
  | source =>
      obtain ⟨existingUri⟩ := List.cons.inj sameExisting
      obtain ⟨rowUri⟩ := List.cons.inj sameRow
      simp only [clashes, existingUri, rowUri]
  | object =>
      obtain ⟨existingKey⟩ := List.cons.inj sameExisting
      obtain ⟨rowKey⟩ := List.cons.inj sameRow
      simp only [clashes, existingKey, rowKey]
  | link =>
      simp only [names, List.cons.injEq, and_true] at sameExisting sameRow
      obtain ⟨existingFrom, existingFromId, existingRelation, existingTo, existingToId⟩ :=
        sameExisting
      obtain ⟨rowFrom, rowFromId, rowRelation, rowTo, rowToId⟩ := sameRow
      simp only [clashes, existingFrom, existingFromId, existingRelation, existingTo,
        existingToId, rowFrom, rowFromId, rowRelation, rowTo, rowToId]

theorem clashes_symm (existing row : kind.Row) :
    kind.clashes existing row = kind.clashes row existing := by
  cases kind <;> simp only [clashes, eqIgnoreAsciiCase, eq_comm]

end SemanticKind

/-! ### Runs -/

/-- A record that a call has read. -/
structure ReadRecord where
  kind : SemanticKind
  row : kind.Row

/-- The record that an archive call returned. -/
structure ArchivedRecord where
  kind : SemanticKind
  id : Uuid
  archivedAt : Option Timestamp
deriving DecidableEq, Repr

def SemanticResult.archivedRecord : SemanticResult → Option ArchivedRecord
  | archived kind row => some ⟨kind, kind.id row, kind.archivedAt row⟩
  | _ => none

/-- A call remembers what it has read. -/
def kernelObserver : Observer KernelStore (List ReadRecord) Unit where
  tells operation answer told :=
    match operation, answer with
    | .get kind _, .ok row => told ++ [⟨kind, row⟩]
    | _, _ => told
  acts _ _ heard := heard
  overhears _ _ heard := heard

abbrev KernelPool := Pool KernelStore AppError SemanticResult (List ReadRecord) Unit

/-- The store with the calls under way, and what archive calls have returned, first to last. -/
structure KernelRun where
  pool : KernelPool
  archived : List ArchivedRecord

inductive KernelEvent where
  | enter (call : SemanticCall)
  /-- A call performs its next operation. -/
  | operate (index : Nat)

def KernelEvent.perform (event : KernelEvent) (run : KernelRun) : KernelRun :=
  match event with
  | .enter call => { run with pool := run.pool.enter call.program [] () }
  | .operate index =>
      { pool := run.pool.operate kernelObserver index
        archived := run.archived ++
          ((run.pool.returning index).bind SemanticResult.archivedRecord).toList }

def emptyKernelRun : KernelRun where
  pool := { state := {}, calls := [] }
  archived := []

/-! ### What is to be kept -/

/-- What the first archive call of a record returned. -/
def firstArchive (kind : SemanticKind) (id : Uuid) (archived : List ArchivedRecord) :
    Option ArchivedRecord :=
  archived.find? fun record => decide (record.kind = kind ∧ record.id = id)

/-- An archived record has the time that it was archived at first, and live records have
distinct names. -/
structure RecordsLast (archived : List ArchivedRecord) (kernel : SemanticKernel) : Prop where
  stays : ∀ (kind : SemanticKind) id record, firstArchive kind id archived = some record →
    ∃ row ∈ kind.table kernel, kind.id row = id ∧
      kind.archivedAt row = record.archivedAt ∧ (kind.archivedAt row).isSome
  distinct : ∀ kind : SemanticKind, ∀ first ∈ kind.table kernel, ∀ second ∈ kind.table kernel,
    kind.archivedAt first = none → kind.archivedAt second = none →
    kind.clashes first second = true → first = second

def ArchivesLast (run : KernelRun) : Prop := RecordsLast run.archived run.pool.state

/-- A record is written over one that is live, or that was archived at the same time. -/
def SemanticOperation.FitsStored (kernel : SemanticKernel) : SemanticOperation → Prop
  | put kind row => ∀ stored, (kind.table kernel).find? (kind.id row) = some stored →
      kind.archivedAt stored = none ∨ kind.archivedAt row = kind.archivedAt stored
  | _ => True

/-- No call writes over a record that was archived since it read it. -/
def WritesLive (event : KernelEvent) (run : KernelRun) : Prop :=
  match event with
  | .operate index => ∀ told operation, run.pool.next index = some (told, operation) →
      SemanticOperation.FitsStored run.pool.state operation
  | .enter _ => True

/-! ### What an operation does to the records -/

namespace SemanticOperation

/-- The record that an operation archives. -/
def archives : SemanticOperation → Option ArchivedRecord
  | put kind row =>
      (kind.archivedAt row).map fun archivedAt => ⟨kind, kind.id row, some archivedAt⟩
  | _ => none

/-- A record that is written is one that was read, under its id and its names; a new one
is live. -/
def Allowed (told : List ReadRecord) : SemanticOperation → Prop
  | get _ _ => True
  | create kind row => kind.archivedAt row = none
  | put kind row => ∃ read : kind.Row, ⟨kind, read⟩ ∈ told ∧ kind.id row = kind.id read ∧
      kind.names row = kind.names read

end SemanticOperation

/-- What was read is in the store under its id and its names. -/
def Known (kernel : SemanticKernel) (told : List ReadRecord) (_heard : Unit) : Prop :=
  ∀ read ∈ told, ∃ row ∈ read.kind.table kernel,
    read.kind.id row = read.kind.id read.row ∧ read.kind.names row = read.kind.names read.row

/-- An operation leaves the records, puts a new live one beside them that has a name of its
own, or puts one in the place of another. -/
inductive OperationWrites (kernel : SemanticKernel) :
    SemanticOperation → SemanticKernel → Prop where
  | nothing (operation : SemanticOperation) (silent : operation.archives = none)
      (fits : operation.FitsStored kernel) : OperationWrites kernel operation kernel
  | adds (kind : SemanticKind) (input row : kind.Row)
      (fresh : (kind.table kernel).find? (kind.id row) = none)
      (sameLife : kind.archivedAt row = kind.archivedAt input)
      (unnamed : ∀ existing ∈ kind.table kernel, kind.archivedAt existing = none →
        kind.clashes existing row = false) :
      OperationWrites kernel (.create kind input)
        (kind.withTable ((kind.table kernel).insert row) kernel)
  | replaces (kind : SemanticKind) (row : kind.Row) :
      OperationWrites kernel (.put kind row)
        (kind.withTable ((kind.table kernel).insert row) kernel)

theorem operationWrites (operation : SemanticOperation) (kernel : SemanticKernel) :
    OperationWrites kernel operation (operation.perform kernel).2 := by
  cases operation with
  | get kind id => exact .nothing _ rfl trivial
  | put kind row => exact .replaces kind row
  | create kind input =>
      unfold SemanticOperation.perform
      dsimp only
      split
      · exact .nothing _ rfl trivial
      · rename_i unnamed
        have noName : ∀ existing ∈ kind.table kernel, kind.archivedAt existing = none →
            kind.clashes existing input = false := by
          intro existing member live
          by_contra clash
          apply unnamed
          refine List.any_eq_true.mpr ⟨existing, member, ?_⟩
          rw [live]
          simpa using clash
        refine .adds kind input _ ?_ (kind.archivedAt_withId _ _) ?_
        · rw [SemanticKind.id_withId]
          exact Table.find?_drawKey
        · intro existing member live
          rw [SemanticKind.clashes_congr rfl (kind.names_withId _ _)]
          exact noName existing member live

/-! ### What one operation keeps -/

section operations

variable {kind : SemanticKind} {kernel : SemanticKernel} {archived : List ArchivedRecord}

/-- Every archived record is one that an archive call returned. -/
def ArchivesReturned (archived : List ArchivedRecord) (kernel : SemanticKernel) : Prop :=
  ∀ kind : SemanticKind, ∀ row ∈ kind.table kernel, (kind.archivedAt row).isSome = true →
    ∃ record, firstArchive kind (kind.id row) archived = some record

theorem firstArchive_append {later : List ArchivedRecord} {id : Uuid} :
    firstArchive kind id (archived ++ later) =
      (firstArchive kind id archived).or (firstArchive kind id later) :=
  List.find?_append

/-- A new live record with a name of its own. -/
theorem RecordsLast.add (lasts : RecordsLast archived kernel) {row : kind.Row}
    (fresh : (kind.table kernel).find? (kind.id row) = none)
    (isLive : kind.archivedAt row = none)
    (unnamed : ∀ existing ∈ kind.table kernel, kind.archivedAt existing = none →
      kind.clashes existing row = false) :
    RecordsLast archived (kind.withTable ((kind.table kernel).insert row) kernel) := by
  constructor
  case stays =>
    intro other id record isFirst
    obtain ⟨stored, member, kept⟩ := lasts.stays other id record isFirst
    by_cases same : other = kind
    · subst same
      rw [SemanticKind.table_withTable]
      exact ⟨stored, (Table.mem_insert_of_fresh fresh).mpr (.inl member), kept⟩
    · rw [SemanticKind.table_withTable_of_ne same]
      exact ⟨stored, member, kept⟩
  case distinct =>
    intro other first isFirst second isSecond firstLive secondLive clash
    by_cases same : other = kind
    · subst same
      rw [SemanticKind.table_withTable, Table.mem_insert_of_fresh fresh] at isFirst isSecond
      rcases isFirst with isFirst | rfl <;> rcases isSecond with isSecond | rfl
      · exact lasts.distinct other first isFirst second isSecond firstLive secondLive clash
      · rw [unnamed first isFirst firstLive] at clash
        cases clash
      · rw [SemanticKind.clashes_symm, unnamed second isSecond secondLive] at clash
        cases clash
      · rfl
    · rw [SemanticKind.table_withTable_of_ne same] at isFirst isSecond
      exact lasts.distinct other first isFirst second isSecond firstLive secondLive clash

/-- A record that fits what is stored under its id, and has its names. -/
theorem RecordsLast.replace (lasts : RecordsLast archived kernel) {row stored : kind.Row}
    (found : (kind.table kernel).find? (kind.id row) = some stored)
    (sameNames : kind.names stored = kind.names row)
    (fits : kind.archivedAt stored = none ∨ kind.archivedAt row = kind.archivedAt stored) :
    RecordsLast (archived ++ (SemanticOperation.put kind row).archives.toList)
      (kind.withTable ((kind.table kernel).insert row) kernel) := by
  obtain ⟨isStored, sameId⟩ := Table.find?_eq_some.mp found
  constructor
  case stays =>
    intro other id record isFirst
    rw [firstArchive_append, Option.or_eq_some_iff] at isFirst
    rcases isFirst with isFirst | ⟨-, isNew⟩
    · obtain ⟨kept, member, isId, sameTime, isArchived⟩ := lasts.stays other id record isFirst
      by_cases same : other = kind
      · subst same
        rw [SemanticKind.table_withTable]
        by_cases isRow : id = other.id row
        · obtain rfl := Table.eq_of_key_eq member isStored (isId.trans (isRow.trans sameId.symm))
          rcases fits with isLive | sameArchive
          · rw [isLive] at isArchived
            cases isArchived
          · refine ⟨row, Table.mem_insert_iff.mpr (.inl rfl), isRow.symm, ?_, ?_⟩
            · rw [sameArchive, sameTime]
            · rw [sameArchive]
              exact isArchived
        · refine ⟨kept, Table.mem_insert_iff.mpr (.inr ⟨?_, member⟩), isId, sameTime, isArchived⟩
          rw [isId]
          exact isRow
      · rw [SemanticKind.table_withTable_of_ne same]
        exact ⟨kept, member, isId, sameTime, isArchived⟩
    · obtain ⟨isRecord, archivedNow⟩ := List.find?_eq_some_iff_append.mp isNew
      cases archivedAt : kind.archivedAt row with
      | none => simp [SemanticOperation.archives, archivedAt] at archivedNow
      | some time =>
          have inside := List.mem_of_find?_eq_some isNew
          simp only [SemanticOperation.archives, archivedAt, Option.map_some, Option.toList_some,
            List.mem_singleton] at inside
          subst inside
          obtain ⟨rfl, rfl⟩ : kind = other ∧ kind.id row = id := by simpa using isRecord
          rw [SemanticKind.table_withTable]
          exact ⟨row, Table.mem_insert_iff.mpr (.inl rfl), rfl, archivedAt, by simp [archivedAt]⟩
  case distinct =>
    intro other first isFirst second isSecond firstLive secondLive clash
    by_cases same : other = kind
    · subst same
      -- A live row stands where a live one stood.
      have oldLive : other.archivedAt row = none → other.archivedAt stored = none := by
        intro isLive
        rcases fits with storedLive | sameArchive
        · exact storedLive
        · rw [← sameArchive]
          exact isLive
      have unnamed : other.archivedAt row = none → ∀ beside ∈ other.table kernel,
          other.id beside ≠ other.id row → other.archivedAt beside = none →
          other.clashes row beside = false := by
        intro isLive beside isBeside differs besideLive
        by_contra clash
        rw [Bool.not_eq_false, ← SemanticKind.clashes_congr sameNames rfl] at clash
        have isSame := lasts.distinct other stored isStored beside isBeside (oldLive isLive)
          besideLive clash
        exact differs (isSame ▸ sameId)
      rw [SemanticKind.table_withTable, Table.mem_insert_iff] at isFirst isSecond
      rcases isFirst with rfl | ⟨firstOther, isFirst⟩ <;>
        rcases isSecond with rfl | ⟨secondOther, isSecond⟩
      · rfl
      · rw [unnamed firstLive second isSecond secondOther secondLive] at clash
        cases clash
      · rw [SemanticKind.clashes_symm, unnamed secondLive first isFirst firstOther firstLive]
          at clash
        cases clash
      · exact lasts.distinct other first isFirst second isSecond firstLive secondLive clash
    · rw [SemanticKind.table_withTable_of_ne same] at isFirst isSecond
      exact lasts.distinct other first isFirst second isSecond firstLive secondLive clash

/-- A record that stands in the place of an archived one has its time. -/
theorem fits_of_recordsLast (returned : ArchivesReturned archived kernel)
    (lasts : RecordsLast archived kernel) {row stored : kind.Row} {later : List ArchivedRecord}
    (after : RecordsLast (archived ++ later)
      (kind.withTable ((kind.table kernel).insert row) kernel))
    (found : (kind.table kernel).find? (kind.id row) = some stored) :
    kind.archivedAt stored = none ∨ kind.archivedAt row = kind.archivedAt stored := by
  obtain ⟨isStored, sameId⟩ := Table.find?_eq_some.mp found
  cases archivedAt : kind.archivedAt stored with
  | none => exact .inl rfl
  | some time =>
      right
      obtain ⟨record, isFirst⟩ := returned kind stored isStored (by simp [archivedAt])
      obtain ⟨kept, isKept, keptId, keptTime, -⟩ := lasts.stays kind _ record isFirst
      obtain rfl := Table.eq_of_key_eq isKept isStored keptId
      have stillFirst : firstArchive kind (kind.id kept) (archived ++ later) = some record := by
        rw [firstArchive_append, isFirst]
        rfl
      obtain ⟨now, isNow, nowId, nowTime, -⟩ := after.stays kind _ record stillFirst
      rw [SemanticKind.table_withTable] at isNow
      have isRow : row ∈ (kind.table kernel).insert row := Table.mem_insert_iff.mpr (.inl rfl)
      obtain rfl := Table.eq_of_key_eq isNow isRow (nowId.trans sameId)
      rw [nowTime, ← keptTime, archivedAt]

/-- An operation keeps the records exactly when it fits what is stored. -/
theorem recordsLast_iff {operation : SemanticOperation} {after : SemanticKernel}
    {told : List ReadRecord} (writes : OperationWrites kernel operation after)
    (known : Known kernel told ()) (isAllowed : operation.Allowed told)
    (returned : ArchivesReturned archived kernel) (lasts : RecordsLast archived kernel) :
    RecordsLast (archived ++ operation.archives.toList) after ↔ operation.FitsStored kernel := by
  cases writes with
  | nothing operation silent fits =>
      rw [silent, Option.toList_none, List.append_nil]
      exact iff_of_true lasts fits
  | adds kind input row fresh sameLife unnamed =>
      refine iff_of_true ?_ trivial
      rw [show (SemanticOperation.create kind input).archives = none from rfl,
        Option.toList_none, List.append_nil]
      exact lasts.add fresh (sameLife.trans isAllowed) unnamed
  | replaces kind row =>
      obtain ⟨read, wasRead, sameId, sameNames⟩ := isAllowed
      obtain ⟨stored, isStored, storedId, storedNames⟩ := known _ wasRead
      have found : (kind.table kernel).find? (kind.id row) = some stored :=
        Table.find?_eq_some.mpr ⟨isStored, storedId.trans sameId.symm⟩
      constructor
      · intro after other isOther
        exact fits_of_recordsLast returned lasts after isOther
      · intro fits
        exact lasts.replace found (storedNames.trans sameNames.symm) (fits stored found)

/-- An operation archives no record in silence. -/
theorem ArchivesReturned.operate {operation : SemanticOperation} {after : SemanticKernel}
    {told : List ReadRecord} (writes : OperationWrites kernel operation after)
    (isAllowed : operation.Allowed told) (returned : ArchivesReturned archived kernel) :
    ArchivesReturned (archived ++ operation.archives.toList) after := by
  have earlier : ∀ (kind : SemanticKind), ∀ row ∈ kind.table kernel,
      (kind.archivedAt row).isSome = true → ∃ record,
        firstArchive kind (kind.id row) (archived ++ operation.archives.toList) = some record := by
    intro kind row member isArchived
    obtain ⟨record, isFirst⟩ := returned kind row member isArchived
    refine ⟨record, ?_⟩
    rw [firstArchive_append, isFirst]
    rfl
  intro other row member isArchived
  cases writes with
  | nothing operation silent fits => exact earlier other row member isArchived
  | adds kind input new fresh sameLife unnamed =>
      by_cases same : other = kind
      · subst same
        rw [SemanticKind.table_withTable, Table.mem_insert_of_fresh fresh] at member
        rcases member with member | rfl
        · exact earlier other row member isArchived
        · rw [sameLife, show other.archivedAt input = none from isAllowed] at isArchived
          cases isArchived
      · rw [SemanticKind.table_withTable_of_ne same] at member
        exact earlier other row member isArchived
  | replaces kind new =>
      by_cases same : other = kind
      · subst same
        rw [SemanticKind.table_withTable, Table.mem_insert_iff] at member
        rcases member with rfl | ⟨-, member⟩
        · obtain ⟨time, archivedAt⟩ := Option.isSome_iff_exists.mp isArchived
          rw [firstArchive_append]
          cases firstArchive other (other.id row) archived with
          | some record => exact ⟨record, rfl⟩
          | none =>
              refine ⟨⟨other, other.id row, some time⟩, ?_⟩
              simp [SemanticOperation.archives, archivedAt, firstArchive]
        · exact earlier other row member isArchived
      · rw [SemanticKind.table_withTable_of_ne same] at member
        exact earlier other row member isArchived

/-- What was read stays known. -/
theorem Known.operate {operation : SemanticOperation} {after : SemanticKernel}
    {told otherTold : List ReadRecord} (writes : OperationWrites kernel operation after)
    (known : Known kernel told ()) (isAllowed : operation.Allowed told)
    (otherKnown : Known kernel otherTold ()) : Known after otherTold () := by
  intro read wasRead
  obtain ⟨row, member, sameId, sameNames⟩ := otherKnown read wasRead
  obtain ⟨other, readRow⟩ := read
  cases writes with
  | nothing operation silent fits => exact ⟨row, member, sameId, sameNames⟩
  | adds kind input new fresh sameLife unnamed =>
      by_cases same : other = kind
      · subst same
        refine ⟨row, ?_, sameId, sameNames⟩
        rw [SemanticKind.table_withTable]
        exact (Table.mem_insert_of_fresh fresh).mpr (.inl member)
      · refine ⟨row, ?_, sameId, sameNames⟩
        rw [SemanticKind.table_withTable_of_ne same]
        exact member
  | replaces kind new =>
      by_cases same : other = kind
      · subst same
        rw [SemanticKind.table_withTable]
        by_cases isNew : other.id row = other.id new
        · obtain ⟨source, wasSource, sourceId, sourceNames⟩ := isAllowed
          obtain ⟨stored, isStored, storedId, storedNames⟩ := known _ wasSource
          have storedKey : other.id row = other.id stored :=
            (isNew.trans sourceId).trans storedId.symm
          obtain rfl := Table.eq_of_key_eq member isStored storedKey
          refine ⟨new, Table.mem_insert_iff.mpr (.inl rfl), isNew.symm.trans sameId, ?_⟩
          rw [sourceNames, ← storedNames, sameNames]
        · exact ⟨row, Table.mem_insert_iff.mpr (.inr ⟨isNew, member⟩), sameId, sameNames⟩
      · refine ⟨row, ?_, sameId, sameNames⟩
        rw [SemanticKind.table_withTable_of_ne same]
        exact member

end operations

/-! ### The protocol of the operations -/

theorem kernelProtocol :
    Protocol kernelObserver (fun told operation => SemanticOperation.Allowed told operation)
      (fun _ => True) Known := by
  constructor
  case state =>
    intro _ _ _ _ _ _ _
    trivial
  case acting =>
    intro operation kernel told heard _ known isAllowed
    have kept := known.operate (operationWrites operation kernel) isAllowed known
    cases operation with
    | create kind row => exact kept
    | put kind row => exact kept
    | get kind id =>
        intro read wasRead
        change read ∈ kernelObserver.tells (.get kind id)
          (getUnarchived kind.archivedAt kind.missing (kind.table kernel) id) told at wasRead
        cases answered : getUnarchived kind.archivedAt kind.missing (kind.table kernel) id with
        | error error =>
            rw [answered] at wasRead
            exact known read wasRead
        | ok row =>
            rw [answered] at wasRead
            rcases List.mem_append.mp wasRead with before | isNew
            · exact known read before
            · obtain rfl := List.mem_singleton.mp isNew
              exact ⟨row, (getUnarchived_eq_ok.mp answered).1.1, rfl, rfl⟩
  case others =>
    intro operation kernel told heard otherTold otherHeard _ known isAllowed otherKnown
    exact known.operate (operationWrites operation kernel) isAllowed otherKnown

abbrev KernelPool.Follows (pool : KernelPool) : Prop :=
  Pool.Follows kernelObserver (fun told operation => SemanticOperation.Allowed told operation)
    (fun _ => True) Known (fun _ _ => True) pool

/-! ### What a change leaves of a record -/

/-- A change keeps the id, the names and the life of a record. -/
def Leaves {kind : SemanticKind} (change : kind.Row → Except AppError kind.Row) : Prop :=
  ∀ row next, change row = .ok next → kind.id next = kind.id row ∧
    kind.names next = kind.names row ∧ kind.archivedAt next = kind.archivedAt row

theorem updatedSemanticSource_leaves {now : Timestamp} {input : UpdateSemanticSource} :
    @Leaves .source (updatedSemanticSource now input) := by
  intro source
  unfold updatedSemanticSource
  iterate 6 (apply ok_of_bind; intro _)
  rintro _ ⟨⟩
  exact ⟨rfl, rfl, rfl⟩

theorem updatedSemanticObject_leaves {now : Timestamp} {input : UpdateSemanticObject} :
    @Leaves .object (updatedSemanticObject now input) := by
  intro object
  unfold updatedSemanticObject
  iterate 9 (apply ok_of_bind; intro _)
  rintro _ ⟨⟩
  exact ⟨rfl, rfl, rfl⟩

theorem updatedSemanticLink_leaves {now : Timestamp} {input : UpdateSemanticLink} :
    @Leaves .link (updatedSemanticLink now input) := by
  intro link
  unfold updatedSemanticLink
  iterate 4 (apply ok_of_bind; intro _)
  rintro _ ⟨⟩
  exact ⟨rfl, rfl, rfl⟩

/-! ### What a call returns -/

/-- A record that was read is live. -/
def SemanticOperation.Gives : (operation : SemanticOperation) → operation.Answer → Prop
  | get kind _, answer => ∀ row, answer = .ok row → kind.archivedAt row = none
  | _, _ => True

theorem gives_perform (operation : SemanticOperation) (kernel : SemanticKernel) :
    operation.Gives (operation.perform kernel).1 := by
  cases operation with
  | get kind id =>
      intro row isRow
      exact (getUnarchived_eq_ok.mp isRow).1.2
  | create kind row => trivial
  | put kind row => trivial

/-- The record that a program returns as archived, once it has ended. -/
def archivedBy (program : KernelProgram SemanticResult) : Option ArchivedRecord :=
  program.result?.bind SemanticResult.archivedRecord

/-- The program returns a record as archived right after it archived it, and at no other time. -/
def ReturnsArchived : KernelProgram SemanticResult → Prop
  | .done _ => True
  | .failed _ => True
  | .call operation next => ∀ answer, SemanticOperation.Gives operation answer →
      archivedBy (next answer) = SemanticOperation.archives operation ∧
        ReturnsArchived (next answer)

theorem changeRecord_returnsArchived {kind : SemanticKind} {id : Uuid}
    {change : kind.Row → Except AppError kind.Row} {result : kind.Row → SemanticResult}
    (returns : ∀ row next, change row = .ok next → kind.archivedAt row = none →
      (result next).archivedRecord = (SemanticOperation.put kind next).archives) :
    ReturnsArchived (changeRecord kind id change >>= fun row => pure (result row)) := by
  intro answer gives
  cases answer with
  | error error => exact ⟨rfl, trivial⟩
  | ok row =>
      have isLive := gives row rfl
      change archivedBy (((Program.ofExcept (change row)).bind _).bind _) = _ ∧
        ReturnsArchived (((Program.ofExcept (change row)).bind _).bind _)
      cases changed : change row with
      | error error => exact ⟨rfl, trivial⟩
      | ok next => exact ⟨rfl, fun _ _ => ⟨returns row next changed isLive, trivial⟩⟩

theorem createRecord_returnsArchived {kind : SemanticKind} (outcome : Except AppError kind.Row) :
    let program : KernelProgram SemanticResult := do
      let row ← (do let row ← Program.ofExcept outcome; createRecord kind row)
      return .created kind row
    archivedBy program = none ∧ ReturnsArchived program := by
  cases outcome with
  | error error => exact ⟨rfl, trivial⟩
  | ok row =>
      refine ⟨rfl, fun answer _ => ?_⟩
      cases answer with
      | error error => exact ⟨rfl, trivial⟩
      | ok created => exact ⟨rfl, trivial⟩

theorem update_returnsArchived (kind : SemanticKind) {id : Uuid}
    {change : kind.Row → Except AppError kind.Row} (leaves : Leaves change) :
    ReturnsArchived (changeRecord kind id change >>= fun row => pure (.updated kind row)) := by
  apply changeRecord_returnsArchived
  intro row next changed isLive
  obtain ⟨-, -, sameLife⟩ := leaves row next changed
  rw [SemanticOperation.archives, sameLife, isLive]
  rfl

theorem archive_returnsArchived (kind : SemanticKind) {id : Uuid} {now : Timestamp}
    {archive : kind.Row → kind.Row}
    (archives : ∀ row, kind.archivedAt (archive row) = some now) :
    ReturnsArchived
      (changeRecord kind id (fun row => .ok (archive row)) >>=
        fun row => pure (.archived kind row)) := by
  apply changeRecord_returnsArchived
  rintro row next ⟨⟩ -
  rw [SemanticOperation.archives, SemanticResult.archivedRecord, archives]
  rfl

theorem createObject_returnsArchived {sourceId : Option Uuid} {sourceUri : Option String}
    (new : Option String → Except AppError StoredSemanticObject) :
    ReturnsArchived (do
      let object ← (do
        let object ← (do
          let uri ← semanticObjectSourceUri sourceId sourceUri
          Program.ofExcept (new uri))
        createRecord .object object)
      return .created .object object) := by
  unfold semanticObjectSourceUri
  cases sourceId with
  | some sourceId =>
      intro answer _
      cases answer with
      | error error => exact ⟨rfl, trivial⟩
      | ok source => exact @createRecord_returnsArchived .object (new _)
  | none =>
      cases sourceUri with
      | none => exact trivial
      | some uri =>
          dsimp only
          cases normalizeRequiredText uri "semantic object source_uri" with
          | error error => exact trivial
          | ok uri => exact (@createRecord_returnsArchived .object (new (some uri))).2

theorem call_returnsArchived (call : SemanticCall) : ReturnsArchived call.program := by
  cases call with
  | createSource draw now input =>
      rw [SemanticCall.program, createSemanticSource]
      generalize newSemanticSource draw now input = outcome
      exact (@createRecord_returnsArchived .source outcome).2
  | updateSource id now input =>
      exact @update_returnsArchived .source id _ (@updatedSemanticSource_leaves now input)
  | archiveSource id now =>
      exact @archive_returnsArchived .source id now (archivedSemanticSource now) fun _ => rfl
  | createObject draw now input =>
      rw [SemanticCall.program, createSemanticObject, prepareSemanticObject]
      exact createObject_returnsArchived (newSemanticObject draw now input)
  | updateObject id now input =>
      exact @update_returnsArchived .object id _ (@updatedSemanticObject_leaves now input)
  | archiveObject id now =>
      exact @archive_returnsArchived .object id now (archivedSemanticObject now) fun _ => rfl
  | createLink draw now input =>
      rw [SemanticCall.program, createSemanticLink]
      generalize newSemanticLink draw now input = outcome
      exact (@createRecord_returnsArchived .link outcome).2
  | updateLink id now input =>
      exact @update_returnsArchived .link id _ (@updatedSemanticLink_leaves now input)
  | archiveLink id now =>
      exact @archive_returnsArchived .link id now (archivedSemanticLink now) fun _ => rfl

/-! ### The protocol of the calls -/

/-- Whatever it was told, the program performs allowed operations. -/
def KernelProgram.Respects {Result : Type} (program : KernelProgram Result) : Prop :=
  ∀ told, Program.Respects kernelObserver.tells
    (fun told operation => SemanticOperation.Allowed told operation) program told fun _ _ => True

theorem KernelProgram.Respects.returned {Result Returned : Type}
    {program : KernelProgram Result} (respects : program.Respects) (result : Result → Returned) :
    KernelProgram.Respects (program >>= fun row => pure (result row)) :=
  fun told => Program.Respects.bind ((respects told).mono fun _ _ _ => trivial)

theorem changeRecord_respects {kind : SemanticKind} {id : Uuid}
    {change : kind.Row → Except AppError kind.Row}
    (keeps : ∀ row next, change row = .ok next →
      kind.id next = kind.id row ∧ kind.names next = kind.names row) :
    KernelProgram.Respects (changeRecord kind id change) := by
  intro told
  unfold changeRecord
  apply Program.Respects.bind
  refine Program.respects_attempt.mpr ⟨trivial, fun given row isRow => ?_⟩
  obtain rfl : given = .ok row := isRow
  apply Program.Respects.bind
  refine Program.respects_ofExcept.mpr fun next changed => ?_
  obtain ⟨sameId, sameNames⟩ := keeps row next changed
  exact ⟨⟨row, List.mem_append_right _ (List.mem_singleton.mpr rfl), sameId, sameNames⟩,
    fun _ => trivial⟩

theorem update_respects {kind : SemanticKind} {id : Uuid}
    {change : kind.Row → Except AppError kind.Row} (leaves : Leaves change) :
    KernelProgram.Respects (changeRecord kind id change) :=
  changeRecord_respects fun row next changed =>
    ⟨(leaves row next changed).1, (leaves row next changed).2.1⟩

theorem KernelProgram.Respects.ofExcept_bind {Value Result : Type}
    {outcome : Except AppError Value} {next : Value → KernelProgram Result}
    (rest : ∀ value, outcome = .ok value → KernelProgram.Respects (next value)) :
    KernelProgram.Respects (Program.ofExcept outcome >>= next) := by
  intro told
  apply Program.Respects.bind
  exact Program.respects_ofExcept.mpr fun value isValue => rest value isValue told

theorem createRecord_respects {kind : SemanticKind} {row : kind.Row}
    (isLive : kind.archivedAt row = none) : KernelProgram.Respects (createRecord kind row) :=
  fun _ => Program.respects_attempt.mpr ⟨isLive, fun _ _ _ => trivial⟩

theorem newSemanticSource_live {draw : Uuid} {now : Timestamp} {input : CreateSemanticSource}
    {source : SemanticSource} (isNew : newSemanticSource draw now input = .ok source) :
    source.archivedAt = none := by
  revert isNew
  unfold newSemanticSource
  revert source
  iterate 8 (apply ok_of_bind; intro _)
  rintro _ ⟨⟩
  rfl

theorem newSemanticObject_live {draw : Uuid} {now : Timestamp} {input : CreateSemanticObject}
    {sourceUri : Option String} {object : StoredSemanticObject}
    (isNew : newSemanticObject draw now input sourceUri = .ok object) :
    object.archivedAt = none := by
  revert isNew
  unfold newSemanticObject
  revert object
  iterate 10 (apply ok_of_bind; intro _)
  rintro _ ⟨⟩
  rfl

theorem newSemanticLink_live {draw : Uuid} {now : Timestamp} {input : CreateSemanticLink}
    {link : SemanticLink} (isNew : newSemanticLink draw now input = .ok link) :
    link.archivedAt = none := by
  revert isNew
  unfold newSemanticLink
  revert link
  iterate 9 (apply ok_of_bind; intro _)
  rintro _ ⟨⟩
  rfl

theorem semanticObjectSourceUri_respects {sourceId : Option Uuid} {sourceUri : Option String} :
    KernelProgram.Respects (semanticObjectSourceUri sourceId sourceUri) := by
  intro told
  unfold semanticObjectSourceUri
  cases sourceId with
  | some sourceId =>
      apply Program.Respects.bind
      exact Program.respects_attempt.mpr ⟨trivial, fun _ _ _ => trivial⟩
  | none =>
      cases sourceUri with
      | none => exact trivial
      | some uri =>
          apply Program.Respects.bind
          exact Program.respects_ofExcept.mpr fun _ _ => trivial

theorem createSemanticSource_respects {draw : Uuid} {now : Timestamp}
    {input : CreateSemanticSource} :
    KernelProgram.Respects (createSemanticSource draw now input) := by
  apply KernelProgram.Respects.ofExcept_bind
  intro source isNew
  exact @createRecord_respects .source source (newSemanticSource_live isNew)

theorem createSemanticObject_respects {draw : Uuid} {now : Timestamp}
    {input : CreateSemanticObject} :
    KernelProgram.Respects (createSemanticObject draw now input) := by
  intro told
  unfold createSemanticObject prepareSemanticObject
  apply Program.Respects.bind
  apply Program.Respects.bind
  apply (semanticObjectSourceUri_respects told).mono
  intro sourceUri after _
  have isLive := fun object => @newSemanticObject_live draw now input sourceUri object
  generalize newSemanticObject draw now input sourceUri = outcome at isLive ⊢
  apply Program.respects_ofExcept.mpr
  intro object isNew
  exact @createRecord_respects .object object (isLive object isNew) after

theorem createSemanticLink_respects {draw : Uuid} {now : Timestamp}
    {input : CreateSemanticLink} :
    KernelProgram.Respects (createSemanticLink draw now input) := by
  have isLive := fun link => @newSemanticLink_live draw now input link
  unfold createSemanticLink
  generalize newSemanticLink draw now input = outcome at isLive ⊢
  apply KernelProgram.Respects.ofExcept_bind
  intro link isNew
  exact @createRecord_respects .link link (isLive link isNew)

theorem archive_respects {kind : SemanticKind} {id : Uuid} {archive : kind.Row → kind.Row}
    (keeps : ∀ row, kind.id (archive row) = kind.id row ∧
      kind.names (archive row) = kind.names row) :
    KernelProgram.Respects (changeRecord kind id fun row => .ok (archive row)) := by
  apply changeRecord_respects
  rintro row next ⟨⟩
  exact keeps row

theorem semanticCall_respects (call : SemanticCall) : KernelProgram.Respects call.program := by
  cases call with
  | createSource draw now input => exact createSemanticSource_respects.returned _
  | updateSource id now input => exact (update_respects updatedSemanticSource_leaves).returned _
  | archiveSource id now =>
      have respects := @archive_respects .source id (archivedSemanticSource now) fun _ => ⟨rfl, rfl⟩
      exact respects.returned _
  | createObject draw now input => exact createSemanticObject_respects.returned _
  | updateObject id now input => exact (update_respects updatedSemanticObject_leaves).returned _
  | archiveObject id now =>
      have respects := @archive_respects .object id (archivedSemanticObject now) fun _ => ⟨rfl, rfl⟩
      exact respects.returned _
  | createLink draw now input =>
      have respects := @createSemanticLink_respects draw now input
      rw [SemanticCall.program]
      generalize createSemanticLink draw now input = program at respects ⊢
      exact respects.returned _
  | updateLink id now input => exact (update_respects updatedSemanticLink_leaves).returned _
  | archiveLink id now =>
      have respects := @archive_respects .link id (archivedSemanticLink now) fun _ => ⟨rfl, rfl⟩
      exact respects.returned _

/-! ### What a run keeps -/

/-- What holds of every run, whatever the calls write over. -/
structure KernelRun.Shaped (run : KernelRun) : Prop where
  follows : run.pool.Follows
  returns : ∀ call ∈ run.pool.calls, ReturnsArchived call.program
  archives : ArchivesReturned run.archived run.pool.state

theorem archivedBy_operate {pool : KernelPool} {index : Nat} {told : List ReadRecord}
    {operation : SemanticOperation}
    (returns : ∀ call ∈ pool.calls, ReturnsArchived call.program)
    (pending : pool.next index = some (told, operation)) :
    (pool.returning index).bind SemanticResult.archivedRecord = operation.archives := by
  obtain ⟨rest, heard, found⟩ := Pool.exists_of_next pending
  have answered := returns _ (List.mem_of_getElem? found) _
    (gives_perform operation pool.state)
  rw [Pool.returning, found]
  exact answered.1

theorem returns_operate {pool : KernelPool} (index : Nat)
    (returns : ∀ call ∈ pool.calls, ReturnsArchived call.program) :
    ∀ call ∈ (pool.operate kernelObserver index).calls, ReturnsArchived call.program := by
  intro call isCall
  unfold Pool.operate at isCall
  split at isCall
  · rename_i operation rest told heard found
    rcases List.mem_or_eq_of_mem_set isCall with isOther | rfl
    · obtain ⟨other, wasCall, rfl⟩ := List.mem_map.mp isOther
      exact returns other wasCall
    · exact (returns _ (List.mem_of_getElem? found) _ (gives_perform operation pool.state)).2
  · exact returns call isCall

/-- Every step keeps the shape. -/
theorem shaped_perform (event : KernelEvent) (run : KernelRun) (shaped : run.Shaped) :
    (event.perform run).Shaped := by
  cases event with
  | enter call =>
      constructor
      case follows =>
        exact shaped.follows.enter (fun _ wasRead => nomatch wasRead) (semanticCall_respects call [])
      case returns =>
        intro other isCall
        rcases List.mem_append.mp isCall with isOld | isNew
        · exact shaped.returns other isOld
        · obtain rfl := List.mem_singleton.mp isNew
          exact call_returnsArchived call
      case archives => exact shaped.archives
  | operate index =>
      constructor
      case follows => exact shaped.follows.operate kernelProtocol index
      case returns => exact returns_operate index shaped.returns
      case archives =>
        rw [KernelEvent.perform]
        cases pending : run.pool.next index with
        | none =>
            dsimp only
            rw [Pool.operate_of_next_eq_none pending, Pool.returning_of_next_eq_none pending]
            rw [Option.bind_none, Option.toList_none, List.append_nil]
            exact shaped.archives
        | some next =>
            obtain ⟨told, operation⟩ := next
            obtain ⟨-, isAllowed⟩ := shaped.follows.of_next pending
            dsimp only
            rw [archivedBy_operate shaped.returns pending, Pool.state_operate pending]
            exact shaped.archives.operate (operationWrites operation run.pool.state) isAllowed

/-- One step keeps the records exactly when its write fits. -/
theorem archivesLast_perform_iff (event : KernelEvent) (run : KernelRun) (shaped : run.Shaped)
    (lasts : ArchivesLast run) :
    ArchivesLast (event.perform run) ↔ WritesLive event run := by
  cases event with
  | enter call => exact iff_of_true lasts trivial
  | operate index =>
      rw [ArchivesLast, KernelEvent.perform]
      dsimp only
      cases pending : run.pool.next index with
      | none =>
          rw [Pool.operate_of_next_eq_none pending, Pool.returning_of_next_eq_none pending,
            Option.bind_none, Option.toList_none, List.append_nil]
          refine iff_of_true lasts fun told operation isNext => ?_
          cases pending.symm.trans isNext
      | some next =>
          obtain ⟨told, operation⟩ := next
          obtain ⟨⟨heard, known⟩, isAllowed⟩ := shaped.follows.of_next pending
          have kept := recordsLast_iff (operationWrites operation run.pool.state) known isAllowed
            shaped.archives lasts
          rw [archivedBy_operate shaped.returns pending, Pool.state_operate pending]
          refine kept.trans ⟨fun fits other asked isNext => ?_, fun fits => fits _ _ pending⟩
          cases pending.symm.trans isNext
          exact fits

theorem shaped_empty : emptyKernelRun.Shaped where
  follows :=
    { state := trivial
      owned := fun _ isCall => absurd isCall List.not_mem_nil
      programs := fun _ isCall => absurd isCall List.not_mem_nil }
  returns _ isCall := absurd isCall List.not_mem_nil
  archives kind row member := by cases kind <;> exact absurd member List.not_mem_nil

theorem archivesLast_empty : ArchivesLast emptyKernelRun where
  stays _ _ _ isFirst := nomatch isFirst
  distinct kind first member := by cases kind <;> exact absurd member List.not_mem_nil

/-- In every state of a run, archived records stay archived and live records have distinct
names, exactly when no call writes over a record that was archived behind its read. -/
theorem archivesLast_iff (events : List KernelEvent) :
    HeldAlong KernelEvent.perform ArchivesLast events emptyKernelRun ↔
      MetAlong KernelEvent.perform WritesLive events emptyKernelRun :=
  heldAlong_iff_metAlong
    (fun event run (_ : True) shaped _ => shaped_perform event run shaped)
    (fun event run _ shaped lasts => archivesLast_perform_iff event run shaped lasts)
    (fun _ _ => trivial) shaped_empty archivesLast_empty

/-! ### A source that comes back -/

def manualSource : CreateSemanticSource where
  sourceType := "repo_doc"
  sourceUri := "docs/manual.md"
  displayName := "Manual"
  status := "active"

/-- An update reads a source, the source is archived, and the update writes what it read. -/
def updateBehindArchive : List KernelEvent :=
  [.enter (.createSource 1 0 manualSource), .operate 0,
    .enter (.updateSource 1 2 { displayName := some "Guide" }), .operate 1,
    .enter (.archiveSource 1 3), .operate 2, .operate 2,
    .operate 1]

theorem archived_source_comes_back :
    ¬∀ events, HeldAlong KernelEvent.perform ArchivesLast events emptyKernelRun := by
  intro always
  have lasts := always updateBehindArchive _ List.prefix_rfl
  obtain ⟨row, member, -, -, isArchived⟩ := lasts.stays .source 1 ⟨.source, 1, some 3⟩
    (by decide +kernel)
  have isLive : ∀ source ∈ (runEvents KernelEvent.perform updateBehindArchive
      emptyKernelRun).pool.state.sources.rows, source.archivedAt = none := by decide +kernel
  rw [show SemanticKind.archivedAt .source row = none from isLive row member] at isArchived
  cases isArchived

end MandoForge
