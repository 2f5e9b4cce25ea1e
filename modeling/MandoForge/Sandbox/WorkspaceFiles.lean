/-
Module: MandoForge.Sandbox.WorkspaceFiles
Purpose: How the sandbox runtime writes a file of a session workspace: the parents are
  made or inspected one by one, the content goes to a temporary file beside the target
  and takes its place by a rename.
Trusted boundary: nothing else changes the tree meanwhile.  The system may refuse any
  call but the removal of a file; what it says is a parameter.
Main exports: validateRelativeFilePath, write_workspace_file_confined
-/
import MandoForge.Data.Paths

namespace MandoForge

open Foundation

/-! ### Paths -/

def validateRelativeFilePath (value : String) : Except String Unit :=
  if trim value = "" ∨ pathIsAbsolute value = true then
    .error "file_write path must be a non-empty relative path"
  else if (pathComponents value).any fun component => !component.isNormal then
    .error "file_write path must stay inside the session workspace"
  else .ok ()

/-! ### The file system -/

abbrev WorkspaceTree := FileTree String UInt8

/-- The calls that the system may refuse. -/
inductive FileCall where
  | metadata (path : List String)
  | symlinkMetadata (path : List String)
  | createDir (path : List String)
  | createNew (path : List String)
  | writeAll (path : List String)
  | syncAll (path : List String)
  | rename (source target : List String)
deriving DecidableEq, Repr

/-- What the system does besides the tree: how many links it follows, which calls it
refuses, and how much of a refused write was written. -/
structure FileSystem where
  links : Nat
  refuses : FileCall → Option IoError
  partWritten : Nat
  errorText : IoError → String

section

variable (system : FileSystem)

/-- The answer of a call unless the system refuses it. -/
def FileSystem.call {Answer : Type} (called : FileCall) (answer : Except IoError Answer) :
    Except IoError Answer :=
  match system.refuses called with
  | some error => .error error
  | none => answer

/-- `Path::exists`. -/
def FileSystem.pathExists (tree : WorkspaceTree) (path : List String) : Bool :=
  (system.refuses (.metadata path)).isNone && tree.isPresent system.links path

def FileSystem.symlinkMetadata (tree : WorkspaceTree) (path : List String) :
    Except IoError (FileNode String UInt8) :=
  system.call (.symlinkMetadata path) (tree.symlinkMetadata system.links path)

/-! ### Writing a file -/

/-- The loop over the parents; answers with the last directory. -/
def prepareParents (tree : WorkspaceTree) (current : List String) :
    List (PathComponent String) → Except String (List String) × WorkspaceTree
  | [] => (.ok current, tree)
  | .normal name :: rest =>
      let next := current ++ [name]
      if system.pathExists tree next then
        match system.symlinkMetadata tree next with
        | .error error =>
            (.error ("failed to inspect file_write parent: " ++ system.errorText error), tree)
        | .ok .directory => prepareParents tree next rest
        | .ok _ => (.error "file_write parent must be a real directory", tree)
      else
        match system.call (.createDir next) (tree.createDir system.links next) with
        | .error error =>
            (.error ("failed to create file_write parent: " ++ system.errorText error), tree)
        | .ok tree => prepareParents tree next rest
  | _ :: _ => (.error "file_write path must stay inside the session workspace", tree)

/-- `.{}.tmp-{}`: the name of the temporary file. -/
def tempFileName (fileName uuid : String) : String := "." ++ fileName ++ ".tmp-" ++ uuid

/-- The content goes to the temporary file, and that to the target. -/
def publishFile (tree : WorkspaceTree) (temp destination : List String)
    (content : List UInt8) : Except String Unit × WorkspaceTree :=
  match system.call (.createNew temp) (tree.createNew system.links temp) with
  | .error error =>
      (.error ("failed to create file_write temp file: " ++ system.errorText error), tree)
  | .ok tree =>
      match system.refuses (.writeAll temp) with
      | some error =>
          (.error ("failed to write file content: " ++ system.errorText error),
            (tree.write system.links temp (content.take system.partWritten)).toOption.getD tree)
      | none =>
          match tree.write system.links temp content with
          | .error error =>
              (.error ("failed to write file content: " ++ system.errorText error), tree)
          | .ok tree =>
              match system.refuses (.syncAll temp) with
              | some error =>
                  (.error ("failed to sync file content: " ++ system.errorText error), tree)
              | none =>
                  match system.call (.rename temp destination)
                      (tree.rename system.links temp destination) with
                  | .error error =>
                      (.error ("failed to publish file_write target: " ++
                        system.errorText error), tree)
                  | .ok tree => (.ok (), tree)

/-- What was published, or the temporary file removed again. -/
def publishOrRemove (tree : WorkspaceTree) (temp destination : List String)
    (content : List UInt8) : Except String Unit × WorkspaceTree :=
  match publishFile system tree temp destination content with
  | (.ok _, tree) => (.ok (), tree)
  | (.error error, tree) =>
      (.error error, (tree.removeFile system.links temp).toOption.getD tree)

/-- The file name in the directory that the parents led to. -/
def writeInDirectory (tree : WorkspaceTree) (directory : List String) (fileName : String)
    (content : List UInt8) (uuid : String) : Except String Unit × WorkspaceTree :=
  let destination := directory ++ [fileName]
  let temp := directory ++ [tempFileName fileName uuid]
  if system.pathExists tree destination then
    match system.symlinkMetadata tree destination with
    | .error error =>
        (.error ("failed to inspect file_write target: " ++ system.errorText error), tree)
    | .ok (.symlink _) => (.error "file_write target must not be a symlink", tree)
    | .ok _ => publishOrRemove system tree temp destination content
  else publishOrRemove system tree temp destination content

/-- `write_workspace_file`, with the identifier it draws. -/
def writeWorkspaceFile (tree : WorkspaceTree) (workspace : List String) (relativePath : String)
    (content : List UInt8) (uuid : String) : Except String Unit × WorkspaceTree :=
  let components := pathComponents relativePath
  if pathIsAbsolute relativePath || components.any (fun component => !component.isNormal) then
    (.error "file_write path must stay inside the session workspace", tree)
  else
    match components.getLast? with
    | none => (.error "file_write path is empty", tree)
    | some last =>
        match prepareParents system tree workspace components.dropLast with
        | (.error error, tree) => (.error error, tree)
        | (.ok directory, tree) =>
            match last with
            | .normal fileName => writeInDirectory system tree directory fileName content uuid
            | _ => (.error "file_write path must end in a normal file name", tree)

end

/-! ### What a write may change -/

/-- Every entry stayed, and the new ones are directories on the way from the workspace. -/
structure GrowsDirectories (workspace names : List String) (before after : WorkspaceTree) :
    Prop where
  kept : ∀ location node, before.entry location = some node → after.entry location = some node
  added : ∀ location node, after.entry location = some node →
    before.entry location = some node ∨
      node = .directory ∧ ∃ front, front <+: names ∧ location = workspace ++ front

/-- The file stands at the destination under real directories, everything else stayed, and
the other new entries are directories on the way to it. -/
structure WritesFile (workspace names : List String) (content : List UInt8)
    (before after : WorkspaceTree) : Prop where
  written : after.entry (workspace ++ names) = some (.file content)
  parents : ∀ front, front <+: names → front ≠ names →
    after.entry (workspace ++ front) = some .directory
  kept : ∀ location node, location ≠ workspace ++ names →
    before.entry location = some node → after.entry location = some node
  added : ∀ location node, location ≠ workspace ++ names →
    after.entry location = some node →
    before.entry location = some node ∨
      node = .directory ∧ ∃ front, front <+: names ∧ location = workspace ++ front

namespace GrowsDirectories

variable {workspace names : List String} {before between after : WorkspaceTree}

theorem refl (workspace names : List String) (tree : WorkspaceTree) :
    GrowsDirectories workspace names tree tree :=
  ⟨fun _ _ isEntry => isEntry, fun _ _ isEntry => .inl isEntry⟩

theorem trans (first : GrowsDirectories workspace names before between)
    (second : GrowsDirectories workspace names between after) :
    GrowsDirectories workspace names before after where
  kept location node isEntry := second.kept _ _ (first.kept _ _ isEntry)
  added location node isEntry := by
    rcases second.added location node isEntry with wasThere | isNew
    · exact first.added location node wasThere
    · exact .inr isNew

theorem congr (grows : GrowsDirectories workspace names before between)
    (same : after.entry = between.entry) : GrowsDirectories workspace names before after where
  kept location node isEntry := by
    rw [same]
    exact grows.kept _ _ isEntry
  added location node isEntry := by
    rw [same] at isEntry
    exact grows.added _ _ isEntry

theorem longer {longer : List String} (grows : GrowsDirectories workspace names before after)
    (isPrefix : names <+: longer) : GrowsDirectories workspace longer before after where
  kept := grows.kept
  added location node isEntry := by
    rcases grows.added location node isEntry with wasThere | ⟨isMade, front, within, isHere⟩
    · exact .inl wasThere
    · exact .inr ⟨isMade, front, within.trans isPrefix, isHere⟩

end GrowsDirectories

section

variable {system : FileSystem} {tree after : WorkspaceTree} {workspace : List String}

theorem FileSystem.call_ok {Answer : Type} {called : FileCall} {answer : Except IoError Answer}
    {value : Answer} (isOk : system.call called answer = .ok value) : answer = .ok value := by
  unfold FileSystem.call at isOk
  split at isOk
  · cases isOk
  · exact isOk

/-- A directory that is made is the only new entry. -/
theorem grows_of_createDir {names front : List String} {name : String}
    (isDirectory : tree.entry (workspace ++ front) = some .directory)
    (isMade : tree.createDir system.links (workspace ++ front ++ [name]) = .ok after)
    (within : front ++ [name] <+: names) : GrowsDirectories workspace names tree after := by
  obtain ⟨isAbsent, changed⟩ := FileTree.createDir_ok isDirectory isMade
  constructor
  · intro location node isEntry
    rw [changed, Function.update_of_ne]
    · exact isEntry
    · rintro rfl
      rw [isAbsent] at isEntry
      cases isEntry
  · intro location node isEntry
    by_cases isNew : location = workspace ++ front ++ [name]
    · rw [changed, isNew, Function.update_self] at isEntry
      cases isEntry
      exact .inr ⟨rfl, front ++ [name], within, by rw [isNew, List.append_assoc]⟩
    · rw [changed, Function.update_of_ne isNew] at isEntry
      exact .inl isEntry

/-- The parents are inspected or made, one below the other. -/
theorem prepareParents_spec {done rest : List String}
    (isDirectory : tree.entry (workspace ++ done) = some .directory) :
    GrowsDirectories workspace (done ++ rest) tree
        (prepareParents system tree (workspace ++ done) (rest.map .normal)).2 ∧
      ∀ directory, (prepareParents system tree (workspace ++ done) (rest.map .normal)).1 =
          .ok directory →
        directory = workspace ++ (done ++ rest) ∧
          (prepareParents system tree (workspace ++ done) (rest.map .normal)).2.entry directory =
            some .directory := by
  induction rest generalizing tree done with
  | nil =>
      refine ⟨.refl .., fun directory isOk => ?_⟩
      cases isOk
      exact ⟨by rw [List.append_nil], isDirectory⟩
  | cons name rest inductionHypothesis =>
      have onward {next : WorkspaceTree}
          (nextDirectory : next.entry (workspace ++ done ++ [name]) = some .directory) :=
        @inductionHypothesis next (done ++ [name]) (by rwa [← List.append_assoc])
      rw [← List.append_assoc, ← List.append_cons] at onward
      rw [List.map_cons, prepareParents]
      cases system.pathExists tree (workspace ++ done ++ [name]) with
      | true =>
          cases inspected : system.symlinkMetadata tree (workspace ++ done ++ [name]) with
          | error error => exact ⟨.refl .., nofun⟩
          | ok node =>
              have isNode := FileSystem.call_ok inspected
              rw [FileTree.symlinkMetadata_of_directory isDirectory] at isNode
              cases node with
              | directory =>
                  refine onward ?_
                  split at isNode <;> cases isNode
                  assumption
              | file content => exact ⟨.refl .., nofun⟩
              | symlink target => exact ⟨.refl .., nofun⟩
      | false =>
          cases made : system.call (.createDir (workspace ++ done ++ [name]))
              (tree.createDir system.links (workspace ++ done ++ [name])) with
          | error error =>
              simp only [Bool.false_eq_true, if_false]
              exact ⟨.refl .., nofun⟩
          | ok next =>
              have isMade := FileSystem.call_ok made
              have nextDirectory : next.entry (workspace ++ done ++ [name]) =
                  some .directory := by
                rw [(FileTree.createDir_ok isDirectory isMade).2, Function.update_self]
              obtain ⟨grows, answered⟩ := onward nextDirectory
              simp only [Bool.false_eq_true, if_false]
              refine ⟨(grows_of_createDir isDirectory isMade ?_).trans grows, answered⟩
              rw [List.append_cons done name rest]
              exact List.prefix_append ..

/-! ### The temporary file -/

theorem tempFileName_ne (fileName uuid : String) : tempFileName fileName uuid ≠ fileName := by
  intro same
  have sameLength := congrArg String.length same
  simp only [tempFileName, String.length_append] at sameLength
  have dot : (".".length) = 1 := rfl
  omega

variable {directory : List String} {temp fileName : String} {content : List UInt8}

theorem entry_of_changed {node : Option (FileNode String UInt8)}
    (changed : after.entry = Function.update tree.entry (directory ++ [temp]) node) :
    after.entry directory = tree.entry directory := by
  rw [changed, Function.update_of_ne (by simp)]

/-- Either the content stands at the target, or at most a temporary file is left. -/
theorem publishFile_spec (isDirectory : tree.entry directory = some .directory)
    (isOther : temp ≠ fileName) :
    ((publishFile system tree (directory ++ [temp]) (directory ++ [fileName]) content).1 =
        .ok () ∧ tree.entry (directory ++ [temp]) = none ∧
        tree.entry (directory ++ [fileName]) ≠ some .directory ∧
        (publishFile system tree (directory ++ [temp]) (directory ++ [fileName])
            content).2.entry =
          Function.update (Function.update tree.entry (directory ++ [fileName])
            (some (.file content))) (directory ++ [temp]) none) ∨
      ∃ error, (publishFile system tree (directory ++ [temp]) (directory ++ [fileName])
          content).1 = .error error ∧
        ((publishFile system tree (directory ++ [temp]) (directory ++ [fileName]) content).2 =
            tree ∨
          ∃ part, (publishFile system tree (directory ++ [temp]) (directory ++ [fileName])
              content).2.entry =
            Function.update tree.entry (directory ++ [temp]) (some (.file part))) := by
  unfold publishFile
  cases created : system.call (.createNew (directory ++ [temp]))
      (tree.createNew system.links (directory ++ [temp])) with
  | error error => exact .inr ⟨_, rfl, .inl rfl⟩
  | ok made =>
      obtain ⟨isAbsent, madeEntry⟩ :=
        FileTree.createNew_ok isDirectory (FileSystem.call_ok created)
      have madeDirectory := (entry_of_changed madeEntry).trans isDirectory
      have written {part : List UInt8} {next : WorkspaceTree}
          (isWritten : made.write system.links (directory ++ [temp]) part = .ok next) :
          next.entry = Function.update tree.entry (directory ++ [temp]) (some (.file part)) := by
        rw [FileTree.write_ok madeDirectory isWritten, madeEntry, Function.update_idem]
      simp only
      cases system.refuses (.writeAll (directory ++ [temp])) with
      | some error =>
          refine .inr ⟨_, rfl, .inr ?_⟩
          cases isWritten : made.write system.links (directory ++ [temp])
              (content.take system.partWritten) with
          | error error => exact ⟨[], madeEntry⟩
          | ok next => exact ⟨_, written isWritten⟩
      | none =>
          simp only
          cases isWritten : made.write system.links (directory ++ [temp]) content with
          | error error => exact .inr ⟨_, rfl, .inr ⟨[], madeEntry⟩⟩
          | ok next =>
              have nextEntry := written isWritten
              have nextDirectory := (entry_of_changed nextEntry).trans isDirectory
              simp only
              cases system.refuses (.syncAll (directory ++ [temp])) with
              | some error => exact .inr ⟨_, rfl, .inr ⟨content, nextEntry⟩⟩
              | none =>
                  simp only
                  cases renamed : system.call
                      (.rename (directory ++ [temp]) (directory ++ [fileName]))
                      (next.rename system.links (directory ++ [temp])
                        (directory ++ [fileName])) with
                  | error error => exact .inr ⟨_, rfl, .inr ⟨content, nextEntry⟩⟩
                  | ok last =>
                      have isFile : next.entry (directory ++ [temp]) = some (.file content) := by
                        rw [nextEntry, Function.update_self]
                      obtain ⟨noDirectory, lastEntry⟩ := FileTree.rename_ok nextDirectory isFile
                        isOther (FileSystem.call_ok renamed)
                      have differ : directory ++ [fileName] ≠ directory ++ [temp] := by
                        simpa using isOther.symm
                      rw [nextEntry, Function.update_of_ne differ] at noDirectory
                      refine .inl ⟨rfl, isAbsent, noDirectory, ?_⟩
                      rw [lastEntry, nextEntry, Function.update_comm differ.symm,
                        Function.update_idem]

/-- A write that fails leaves every entry as it was. -/
theorem publishOrRemove_spec (isDirectory : tree.entry directory = some .directory)
    (isFresh : tree.entry (directory ++ [temp]) = none) (isOther : temp ≠ fileName) :
    ((publishOrRemove system tree (directory ++ [temp]) (directory ++ [fileName]) content).1 =
        .ok () ∧ tree.entry (directory ++ [fileName]) ≠ some .directory ∧
        (publishOrRemove system tree (directory ++ [temp]) (directory ++ [fileName])
            content).2.entry =
          Function.update tree.entry (directory ++ [fileName]) (some (.file content))) ∨
      ∃ error, (publishOrRemove system tree (directory ++ [temp]) (directory ++ [fileName])
          content).1 = .error error ∧
        (publishOrRemove system tree (directory ++ [temp]) (directory ++ [fileName])
          content).2.entry = tree.entry := by
  have published := @publishFile_spec system tree directory temp fileName content isDirectory
    isOther
  have unchanged : Function.update tree.entry (directory ++ [temp]) none = tree.entry :=
    Function.update_eq_self_iff.mpr isFresh.symm
  unfold publishOrRemove
  split <;> rename_i answered <;> rw [answered] at published
  · obtain ⟨-, -, noDirectory, isEntry⟩ | ⟨error, isError, -⟩ := published
    · refine .inl ⟨rfl, noDirectory, ?_⟩
      have differ : directory ++ [temp] ≠ directory ++ [fileName] := by simpa using isOther
      simp only at isEntry ⊢
      rw [isEntry, Function.update_comm differ.symm, unchanged]
    · cases isError
  · obtain ⟨isOk, -⟩ | ⟨error, -, same | ⟨part, isEntry⟩⟩ := published
    · cases isOk
    · refine .inr ⟨_, rfl, ?_⟩
      simp only at same ⊢
      rw [same, FileTree.removeFile_of_absent isDirectory isFresh]
      rfl
    · refine .inr ⟨_, rfl, ?_⟩
      simp only at isEntry ⊢
      have isFile := congrFun isEntry (directory ++ [temp])
      rw [Function.update_self] at isFile
      obtain ⟨cleaned, isCleaned, cleanedEntry⟩ := @FileTree.removeFile_of_file _ _ _ _ _
        system.links _ _ _ ((entry_of_changed isEntry).trans isDirectory) isFile
      rw [isCleaned, Except.toOption, Option.getD_some, cleanedEntry, isEntry,
        Function.update_idem, unchanged]

theorem writeInDirectory_spec {uuid : String}
    (isDirectory : tree.entry directory = some .directory)
    (isFresh : tree.entry (directory ++ [tempFileName fileName uuid]) = none) :
    ((writeInDirectory system tree directory fileName content uuid).1 = .ok () ∧
        tree.entry (directory ++ [fileName]) ≠ some .directory ∧
        (writeInDirectory system tree directory fileName content uuid).2.entry =
          Function.update tree.entry (directory ++ [fileName]) (some (.file content))) ∨
      ∃ error, (writeInDirectory system tree directory fileName content uuid).1 = .error error ∧
        (writeInDirectory system tree directory fileName content uuid).2.entry = tree.entry := by
  have published := @publishOrRemove_spec system tree directory (tempFileName fileName uuid)
    fileName content isDirectory isFresh (tempFileName_ne fileName uuid)
  unfold writeInDirectory
  simp only
  split_ifs
  · split
    · exact .inr ⟨_, rfl, rfl⟩
    · exact .inr ⟨_, rfl, rfl⟩
    · exact published
  · exact published

/-! ### The whole write -/

theorem exists_names {components : List (PathComponent String)}
    (allNormal : ¬(components.any fun component => !component.isNormal) = true) :
    ∃ names : List String, components = names.map .normal := by
  induction components with
  | nil => exact ⟨[], rfl⟩
  | cons component rest inductionHypothesis =>
      rw [List.any_cons, Bool.or_eq_true, not_or] at allNormal
      obtain ⟨names, rfl⟩ := inductionHypothesis allNormal.2
      cases component with
      | normal name => exact ⟨name :: names, rfl⟩
      | rootDir => exact absurd rfl allNormal.1
      | curDir => exact absurd rfl allNormal.1
      | parentDir => exact absurd rfl allNormal.1

theorem directory_of_prefix {names front : List String}
    (isDirectory : tree.entry (workspace ++ names) = some .directory) (within : front <+: names) :
    tree.entry (workspace ++ front) = some .directory := by
  obtain ⟨rest, rfl⟩ := within
  by_cases isWhole : rest = []
  · rwa [isWhole, List.append_nil] at isDirectory
  · exact FileTree.directory_above (by rw [List.append_assoc, isDirectory]; nofun) isWhole

/-- The file that is put into the last directory is the write of the whole path. -/
theorem WritesFile.of_update {names : List String} {last : String} {before : WorkspaceTree}
    (grows : GrowsDirectories workspace names before tree)
    (isDirectory : tree.entry (workspace ++ names) = some .directory)
    (changed : after.entry = Function.update tree.entry (workspace ++ names ++ [last])
      (some (.file content))) :
    WritesFile workspace (names ++ [last]) content before after := by
  have sameElsewhere {location : List String} (isElsewhere : location ≠ workspace ++
      (names ++ [last])) : after.entry location = tree.entry location := by
    rw [changed, Function.update_of_ne (by rwa [List.append_assoc])]
  constructor
  · rw [changed, ← List.append_assoc, Function.update_self]
  · intro front within isProper
    rw [sameElsewhere fun same => isProper (List.append_cancel_left same)]
    rcases List.prefix_concat_iff.mp within with isWhole | isShorter
    · exact absurd isWhole isProper
    · exact directory_of_prefix isDirectory isShorter
  · intro location node isElsewhere isEntry
    rw [sameElsewhere isElsewhere]
    exact grows.kept location node isEntry
  · intro location node isElsewhere isEntry
    rw [sameElsewhere isElsewhere] at isEntry
    exact (grows.longer (List.prefix_append names [last])).added location node isEntry

/-- A write into a workspace puts the file there, or fails and leaves every entry; it
makes directories below the workspace at most, and no temporary file remains. -/
theorem write_workspace_file_confined {relativePath uuid : String}
    (isDirectory : tree.entry workspace = some .directory)
    (isFresh : ∀ directory fileName,
      tree.entry (directory ++ [tempFileName fileName uuid]) = none) :
    ((writeWorkspaceFile system tree workspace relativePath content uuid).1 = .ok () ∧
        ∃ names, pathComponents relativePath = names.map .normal ∧
          WritesFile workspace names content tree
            (writeWorkspaceFile system tree workspace relativePath content uuid).2) ∨
      ∃ error, (writeWorkspaceFile system tree workspace relativePath content uuid).1 =
          .error error ∧
        ∃ names, GrowsDirectories workspace names tree
          (writeWorkspaceFile system tree workspace relativePath content uuid).2 := by
  unfold writeWorkspaceFile
  simp only
  split_ifs with isOutside
  · exact .inr ⟨_, rfl, [], .refl ..⟩
  · rw [Bool.or_eq_true, not_or] at isOutside
    obtain ⟨names, isNames⟩ := exists_names isOutside.2
    rw [isNames]
    rcases List.eq_nil_or_concat names with rfl | ⟨parents, last, rfl⟩
    · exact .inr ⟨_, rfl, [], .refl ..⟩
    · simp only [List.concat_eq_append, List.map_append, List.map_cons, List.map_nil,
        List.getLast?_concat, List.dropLast_concat]
      have atStart : tree.entry (workspace ++ []) = some .directory := by
        rwa [List.append_nil]
      have prepared := @prepareParents_spec system tree workspace [] parents atStart
      rw [List.append_nil, List.nil_append] at prepared
      obtain ⟨grows, answered⟩ := prepared
      split <;> rename_i isAnswer <;> rw [isAnswer] at grows answered
      · exact .inr ⟨_, rfl, parents, grows⟩
      · rename_i directory prepared
        obtain ⟨rfl, lastDirectory⟩ := answered _ rfl
        have stillFresh : prepared.entry (workspace ++ parents ++ [tempFileName last uuid]) =
            none := by
          refine Option.eq_none_iff_forall_ne_some.mpr fun node isEntry => ?_
          rcases grows.added _ _ isEntry with wasThere | ⟨-, front, within, same⟩
          · rw [isFresh] at wasThere
            cases wasThere
          · rw [List.append_assoc, List.append_cancel_left_eq] at same
            have notLonger := within.length_le
            rw [← same, List.length_append, List.length_singleton] at notLonger
            omega
        have written := @writeInDirectory_spec system prepared (workspace ++ parents) last content
          uuid lastDirectory stillFresh
        obtain ⟨isOk, -, changed⟩ | ⟨error, isError, same⟩ := written
        · exact .inl ⟨isOk, parents ++ [last], by simp, .of_update grows lastDirectory changed⟩
        · exact .inr ⟨error, isError, parents, grows.congr same⟩

end

/-! ### A workspace with a dangling link -/

def linkedEntry (location : List String) : Option (FileNode String UInt8) :=
  if location = [] ∨ location = ["w"] then some .directory
  else if location = ["w", "link"] then some (.symlink [.parentDir, .normal "gone"])
  else none

theorem linkedEntry_cases {front : List String} {name : String}
    (isEntry : linkedEntry (front ++ [name]) ≠ none) :
    front = [] ∧ name = "w" ∨ front = ["w"] ∧ name = "link" := by
  unfold linkedEntry at isEntry
  split_ifs at isEntry with isDirectory isLink
  · have same : front ++ [name] = [] ++ ["w"] := isDirectory.resolve_left (by simp)
    exact .inl ((List.append_inj' same rfl).imp_right List.singleton_injective.eq_iff.mp)
  · have same : front ++ [name] = ["w"] ++ ["link"] := isLink
    exact .inr ((List.append_inj' same rfl).imp_right List.singleton_injective.eq_iff.mp)
  · exact absurd rfl isEntry

def linkedWorkspace : WorkspaceTree where
  entry := linkedEntry
  rooted := rfl
  inDirectory := by
    intro path name isEntry
    rcases linkedEntry_cases isEntry with ⟨rfl, -⟩ | ⟨rfl, -⟩ <;> rfl

theorem linkedWorkspace_fresh (directory : List String) (fileName : String) :
    linkedWorkspace.entry (directory ++ [tempFileName fileName "u"]) = none := by
  by_contra isEntry
  have isLonger : 6 ≤ (tempFileName fileName "u").length := by
    simp only [tempFileName, String.length_append]
    have dot : (".".length) = 1 := rfl
    have ending : (".tmp-".length) = 5 := rfl
    omega
  rcases linkedEntry_cases isEntry with ⟨-, same⟩ | ⟨-, same⟩ <;> rw [same] at isLonger <;>
    revert isLonger <;> decide

def willingSystem : FileSystem where
  links := 40
  refuses := fun _ => none
  partWritten := 0
  errorText := fun _ => "refused"

/-- Beside the link a file is written, in a directory that is made for it. -/
theorem notes_written :
    ∃ names, pathComponents "notes/today.txt" = names.map .normal ∧
      WritesFile ["w"] names [104, 105] linkedWorkspace
        (writeWorkspaceFile willingSystem linkedWorkspace ["w"] "notes/today.txt" [104, 105]
          "u").2 := by
  obtain ⟨-, written⟩ | ⟨error, isError, -⟩ :=
    @write_workspace_file_confined willingSystem linkedWorkspace ["w"] [104, 105]
      "notes/today.txt" "u" rfl linkedWorkspace_fresh
  · exact written
  · have isOk : (writeWorkspaceFile willingSystem linkedWorkspace ["w"] "notes/today.txt"
        [104, 105] "u").1 = .ok () := by decide +kernel
    rw [isOk] at isError
    cases isError

/-- Through the link nothing is written. -/
example : (writeWorkspaceFile willingSystem linkedWorkspace ["w"] "link/secret.txt" [104, 105]
    "u").1 = .error "failed to create file_write parent: refused" := by
  decide +kernel

end MandoForge
