/-
Module: MandoForge.Foundation.FileTree
Purpose: Trees of directories, regular files and symbolic links, the resolution of a
  path, and the calls that change a tree: each answers with the changed tree or fails
  and leaves it.
Trusted boundary: a call follows the links on the way to its last component and not the
  last component itself, as mkdir, open with O_CREAT and O_EXCL, rename, unlink and
  lstat do.
Main exports: FileNode, FileTree
-/
import Mathlib.Logic.Function.Basic
import Mathlib.Data.List.Induction

namespace MandoForge.Foundation

/-- The components that a path is read as. -/
inductive PathComponent (Name : Type) where
  | rootDir
  | curDir
  | parentDir
  | normal (name : Name)
deriving DecidableEq, Repr

def PathComponent.isNormal {Name : Type} : PathComponent Name → Bool
  | .normal _ => true
  | _ => false

inductive FileNode (Name Byte : Type) where
  | directory
  | file (content : List Byte)
  | symlink (target : List (PathComponent Name))
deriving DecidableEq, Repr

inductive IoError where
  | notFound
  | alreadyExists
  | isADirectory
  | refused (text : String)
deriving DecidableEq, Repr

/-- What stands at each location, which is the list of names from the root. -/
structure FileTree (Name Byte : Type) where
  entry : List Name → Option (FileNode Name Byte)
  rooted : entry [] = some .directory
  inDirectory : ∀ path name, entry (path ++ [name]) ≠ none → entry path = some .directory

namespace FileTree

variable {Name Byte : Type}

/-! ### Where an entry stands -/

theorem directory_above {tree : FileTree Name Byte} {path below : List Name}
    (isEntry : tree.entry (path ++ below) ≠ none) (isBelow : below ≠ []) :
    tree.entry path = some .directory := by
  induction below using List.reverseRecOn with
  | nil => exact absurd rfl isBelow
  | append_singleton front name inductionHypothesis =>
      rw [← List.append_assoc] at isEntry
      have isDirectory := tree.inDirectory _ _ isEntry
      by_cases isDirect : front = []
      · rwa [isDirect, List.append_nil] at isDirectory
      · exact inductionHypothesis (by rw [isDirectory]; nofun) isDirect

/-! ### The resolution of a path -/

/-- Follow the components from a location; a link hands over to `onLink`. -/
def followWith (tree : FileTree Name Byte)
    (onLink : List Name → List (PathComponent Name) → Option (List Name)) :
    List Name → List (PathComponent Name) → Option (List Name)
  | here, [] => some here
  | here, component :: rest =>
      match tree.entry here, component with
      | some .directory, .rootDir => followWith tree onLink [] rest
      | some .directory, .curDir => followWith tree onLink here rest
      | some .directory, .parentDir => followWith tree onLink here.dropLast rest
      | some .directory, .normal name =>
          match tree.entry (here ++ [name]) with
          | none => none
          | some (.symlink target) => onLink here (target ++ rest)
          | some _ => followWith tree onLink (here ++ [name]) rest
      | _, _ => none

/-- Follow the components through at most so many links. -/
def follow (tree : FileTree Name Byte) :
    Nat → List Name → List (PathComponent Name) → Option (List Name)
  | 0 => tree.followWith fun _ _ => none
  | links + 1 => tree.followWith (tree.follow links)

theorem followWith_normal {tree : FileTree Name Byte}
    {onLink : List Name → List (PathComponent Name) → Option (List Name)} {here : List Name}
    {name : Name} {rest : List (PathComponent Name)}
    (isDirectory : tree.entry here = some .directory) :
    tree.followWith onLink here (.normal name :: rest) =
      match tree.entry (here ++ [name]) with
      | none => none
      | some (.symlink target) => onLink here (target ++ rest)
      | some _ => tree.followWith onLink (here ++ [name]) rest := by
  rw [followWith]
  exact isDirectory

/-- A path of names that ends in a directory or a file leads there without any link. -/
theorem followWith_of_entry {tree : FileTree Name Byte}
    {onLink : List Name → List (PathComponent Name) → Option (List Name)}
    {here names : List Name} {node : FileNode Name Byte}
    (isEntry : tree.entry (here ++ names) = some node)
    (noLink : ∀ target, node ≠ .symlink target) :
    tree.followWith onLink here (names.map .normal) = some (here ++ names) := by
  induction names generalizing here with
  | nil => rw [List.append_nil, List.map_nil, followWith]
  | cons name rest inductionHypothesis =>
      have isDirectory : tree.entry here = some .directory :=
        directory_above (by rw [isEntry]; nofun) (List.cons_ne_nil name rest)
      rw [List.append_cons] at isEntry
      have next : tree.entry (here ++ [name]) = some .directory ∨
          tree.entry (here ++ [name]) = some node := by
        by_cases isLast : rest = []
        · rw [isLast, List.append_nil] at isEntry
          exact .inr isEntry
        · exact .inl (directory_above (by rw [isEntry]; nofun) isLast)
      have onward := @inductionHypothesis (here ++ [name]) isEntry
      rw [List.append_cons, List.map_cons, followWith_normal isDirectory]
      rcases next with nextDirectory | nextNode
      · simp only [nextDirectory]
        exact onward
      · cases node with
        | directory => simp only [nextNode]; exact onward
        | file content => simp only [nextNode]; exact onward
        | symlink target => exact absurd rfl (noLink target)

theorem follow_of_entry {tree : FileTree Name Byte} {links : Nat} {names : List Name}
    {node : FileNode Name Byte} (isEntry : tree.entry names = some node)
    (noLink : ∀ target, node ≠ .symlink target) :
    tree.follow links [] (names.map .normal) = some names := by
  have fromRoot : tree.entry ([] ++ names) = some node := isEntry
  cases links <;> exact followWith_of_entry fromRoot noLink

/-! ### Calls -/

variable [DecidableEq Name] [DecidableEq Byte]

/-- The tree with another entry under the name, or with none. -/
def setEntry (tree : FileTree Name Byte) (directory : List Name) (name : Name)
    (node : Option (FileNode Name Byte)) (isDirectory : tree.entry directory = some .directory)
    (noDirectory : tree.entry (directory ++ [name]) ≠ some .directory) :
    FileTree Name Byte where
  entry := Function.update tree.entry (directory ++ [name]) node
  rooted := by
    rw [Function.update_of_ne (by simp)]
    exact tree.rooted
  inDirectory := by
    intro path other isEntry
    have above : tree.entry path = some .directory := by
      by_cases isHere : path ++ [other] = directory ++ [name]
      · rw [(List.append_inj' isHere rfl).1]
        exact isDirectory
      · rw [Function.update_of_ne isHere] at isEntry
        exact tree.inDirectory path other isEntry
    rw [Function.update_of_ne]
    · exact above
    · rintro rfl
      exact noDirectory above

/-- Change what stands under a name of a directory, as far as `change` allows it. -/
def changeEntry (tree : FileTree Name Byte) (directory : List Name) (name : Name)
    (change : Option (FileNode Name Byte) → Except IoError (Option (FileNode Name Byte))) :
    Except IoError (FileTree Name Byte) :=
  match change (tree.entry (directory ++ [name])) with
  | .error error => .error error
  | .ok node =>
      if isDirectory : tree.entry directory = some .directory then
        if noDirectory : tree.entry (directory ++ [name]) ≠ some .directory then
          .ok (tree.setEntry directory name node isDirectory noDirectory)
        else .error .isADirectory
      else .error .notFound

/-- The directory and the name under which a call on the path acts. -/
def locate (tree : FileTree Name Byte) (links : Nat) (path : List Name) :
    Option (List Name × Name) :=
  path.getLast?.bind fun name =>
    (tree.follow links [] (path.dropLast.map .normal)).bind fun directory =>
      if tree.entry directory = some .directory then some (directory, name) else none

def changeAt (tree : FileTree Name Byte) (links : Nat) (path : List Name)
    (change : Option (FileNode Name Byte) → Except IoError (Option (FileNode Name Byte))) :
    Except IoError (FileTree Name Byte) :=
  match tree.locate links path with
  | none => .error .notFound
  | some (directory, name) => tree.changeEntry directory name change

/-- `metadata(path).is_ok()`: the path leads somewhere. -/
def isPresent (tree : FileTree Name Byte) (links : Nat) (path : List Name) : Bool :=
  (tree.follow links [] (path.map .normal)).isSome

/-- `symlink_metadata`: what stands at the path itself. -/
def symlinkMetadata (tree : FileTree Name Byte) (links : Nat) (path : List Name) :
    Except IoError (FileNode Name Byte) :=
  match (tree.locate links path).bind fun (directory, name) => tree.entry (directory ++ [name]) with
  | none => .error .notFound
  | some node => .ok node

def createDir (tree : FileTree Name Byte) (links : Nat) (path : List Name) :
    Except IoError (FileTree Name Byte) :=
  tree.changeAt links path fun
    | none => .ok (some .directory)
    | some _ => .error .alreadyExists

/-- `OpenOptions::create_new`. -/
def createNew (tree : FileTree Name Byte) (links : Nat) (path : List Name) :
    Except IoError (FileTree Name Byte) :=
  tree.changeAt links path fun
    | none => .ok (some (.file []))
    | some _ => .error .alreadyExists

/-- What an open file holds from now on. -/
def write (tree : FileTree Name Byte) (links : Nat) (path : List Name) (content : List Byte) :
    Except IoError (FileTree Name Byte) :=
  tree.changeAt links path fun
    | some (.file _) => .ok (some (.file content))
    | _ => .error .notFound

def removeFile (tree : FileTree Name Byte) (links : Nat) (path : List Name) :
    Except IoError (FileTree Name Byte) :=
  tree.changeAt links path fun
    | none => .error .notFound
    | some .directory => .error .isADirectory
    | some _ => .ok none

/-- `rename` of a file or a link: it takes the place of any file or link. -/
def rename (tree : FileTree Name Byte) (links : Nat) (source target : List Name) :
    Except IoError (FileTree Name Byte) :=
  match tree.locate links source, tree.locate links target with
  | some (sourceDirectory, sourceName), some (targetDirectory, targetName) =>
      match tree.entry (sourceDirectory ++ [sourceName]) with
      | none => .error .notFound
      | some .directory => .error .isADirectory
      | some node =>
          if sourceDirectory ++ [sourceName] = targetDirectory ++ [targetName] then .ok tree
          else do
            let placed ← tree.changeEntry targetDirectory targetName fun
              | some .directory => .error .isADirectory
              | _ => .ok (some node)
            placed.changeEntry sourceDirectory sourceName fun _ => .ok none
  | _, _ => .error .notFound

/-! ### What the calls do in a real directory -/

section

variable {tree after : FileTree Name Byte} {links : Nat} {directory : List Name} {name : Name}

theorem locate_of_directory (isDirectory : tree.entry directory = some .directory) :
    tree.locate links (directory ++ [name]) = some (directory, name) := by
  rw [locate, List.getLast?_concat, List.dropLast_concat, Option.bind_some,
    follow_of_entry isDirectory nofun, Option.bind_some, if_pos isDirectory]

theorem symlinkMetadata_of_directory (isDirectory : tree.entry directory = some .directory) :
    tree.symlinkMetadata links (directory ++ [name]) =
      match tree.entry (directory ++ [name]) with
      | none => .error .notFound
      | some node => .ok node := by
  rw [symlinkMetadata, locate_of_directory isDirectory]
  rfl

theorem changeEntry_ok
    {change : Option (FileNode Name Byte) → Except IoError (Option (FileNode Name Byte))}
    (isOk : tree.changeEntry directory name change = .ok after) :
    ∃ node, change (tree.entry (directory ++ [name])) = .ok node ∧
      after.entry = Function.update tree.entry (directory ++ [name]) node := by
  unfold changeEntry at isOk
  split at isOk
  · cases isOk
  · rename_i node allowed
    split_ifs at isOk
    cases isOk
    exact ⟨node, allowed, rfl⟩

theorem changeEntry_of_allowed
    {change : Option (FileNode Name Byte) → Except IoError (Option (FileNode Name Byte))}
    {node : Option (FileNode Name Byte)}
    (allowed : change (tree.entry (directory ++ [name])) = .ok node)
    (isDirectory : tree.entry directory = some .directory)
    (noDirectory : tree.entry (directory ++ [name]) ≠ some .directory) :
    tree.changeEntry directory name change =
      .ok (tree.setEntry directory name node isDirectory noDirectory) := by
  unfold changeEntry
  rw [allowed]
  simp only
  rw [dif_pos isDirectory, dif_pos noDirectory]

theorem changeEntry_of_refused
    {change : Option (FileNode Name Byte) → Except IoError (Option (FileNode Name Byte))}
    {error : IoError} (refused : change (tree.entry (directory ++ [name])) = .error error) :
    tree.changeEntry directory name change = .error error := by
  unfold changeEntry
  rw [refused]

theorem changeAt_of_directory
    {change : Option (FileNode Name Byte) → Except IoError (Option (FileNode Name Byte))}
    (isDirectory : tree.entry directory = some .directory) :
    tree.changeAt links (directory ++ [name]) change = tree.changeEntry directory name change := by
  rw [changeAt, locate_of_directory isDirectory]

theorem createDir_ok (isDirectory : tree.entry directory = some .directory)
    (isOk : tree.createDir links (directory ++ [name]) = .ok after) :
    tree.entry (directory ++ [name]) = none ∧
      after.entry = Function.update tree.entry (directory ++ [name]) (some .directory) := by
  rw [createDir, changeAt_of_directory isDirectory] at isOk
  obtain ⟨node, allowed, changed⟩ := changeEntry_ok isOk
  split at allowed <;> cases allowed
  rename_i isAbsent
  exact ⟨isAbsent, changed⟩

theorem createNew_ok (isDirectory : tree.entry directory = some .directory)
    (isOk : tree.createNew links (directory ++ [name]) = .ok after) :
    tree.entry (directory ++ [name]) = none ∧
      after.entry = Function.update tree.entry (directory ++ [name]) (some (.file [])) := by
  rw [createNew, changeAt_of_directory isDirectory] at isOk
  obtain ⟨node, allowed, changed⟩ := changeEntry_ok isOk
  split at allowed <;> cases allowed
  rename_i isAbsent
  exact ⟨isAbsent, changed⟩

theorem write_ok {content : List Byte} (isDirectory : tree.entry directory = some .directory)
    (isOk : tree.write links (directory ++ [name]) content = .ok after) :
    after.entry = Function.update tree.entry (directory ++ [name]) (some (.file content)) := by
  rw [write, changeAt_of_directory isDirectory] at isOk
  obtain ⟨node, allowed, changed⟩ := changeEntry_ok isOk
  split at allowed <;> cases allowed
  exact changed

theorem removeFile_of_file {content : List Byte}
    (isDirectory : tree.entry directory = some .directory)
    (isFile : tree.entry (directory ++ [name]) = some (.file content)) :
    ∃ after, tree.removeFile links (directory ++ [name]) = .ok after ∧
      after.entry = Function.update tree.entry (directory ++ [name]) none := by
  have noDirectory : tree.entry (directory ++ [name]) ≠ some .directory := by
    rw [isFile]
    nofun
  refine ⟨tree.setEntry directory name none isDirectory noDirectory, ?_, rfl⟩
  rw [removeFile, changeAt_of_directory isDirectory]
  exact changeEntry_of_allowed (by rw [isFile]) isDirectory noDirectory

theorem removeFile_of_absent (isDirectory : tree.entry directory = some .directory)
    (isAbsent : tree.entry (directory ++ [name]) = none) :
    tree.removeFile links (directory ++ [name]) = .error .notFound := by
  rw [removeFile, changeAt_of_directory isDirectory]
  exact changeEntry_of_refused (by rw [isAbsent])

/-- A file that is renamed within its directory takes the place of its target. -/
theorem rename_ok {content : List Byte} {target : Name}
    (isDirectory : tree.entry directory = some .directory)
    (isFile : tree.entry (directory ++ [name]) = some (.file content)) (isOther : name ≠ target)
    (isOk : tree.rename links (directory ++ [name]) (directory ++ [target]) = .ok after) :
    tree.entry (directory ++ [target]) ≠ some .directory ∧
      after.entry = Function.update (Function.update tree.entry (directory ++ [target])
        (some (.file content))) (directory ++ [name]) none := by
  have differ : directory ++ [name] ≠ directory ++ [target] := by simpa using isOther
  rw [rename, locate_of_directory isDirectory, locate_of_directory isDirectory] at isOk
  simp only [isFile, if_neg differ] at isOk
  cases isPlaced : tree.changeEntry directory target
      (fun
        | some .directory => .error .isADirectory
        | _ => .ok (some (.file content))) with
  | error error =>
      rw [isPlaced] at isOk
      cases isOk
  | ok placed =>
      rw [isPlaced] at isOk
      change placed.changeEntry directory name (fun _ => .ok none) = .ok after at isOk
      obtain ⟨node, allowed, changed⟩ := changeEntry_ok isPlaced
      obtain ⟨removed, isRemoved, changedAgain⟩ := changeEntry_ok isOk
      cases isRemoved
      rw [changedAgain, changed]
      split at allowed <;> cases allowed
      rename_i noDirectory
      exact ⟨fun isTarget => noDirectory isTarget, rfl⟩

end

end FileTree

end MandoForge.Foundation
