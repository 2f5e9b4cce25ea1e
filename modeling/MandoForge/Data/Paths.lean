/-
Module: MandoForge.Data.Paths
Purpose: Paths as the source's standard library reads them: their components, and the
  stem of a file's name.
Trusted boundary: none
Main exports: pathComponents, fileStem
-/
import MandoForge.Data.Text
import MandoForge.Foundation.FileTree

namespace MandoForge

open Foundation

/-- `Path::components` of a text: blank pieces and inner dots are dropped. -/
def pathComponents (path : String) : List (PathComponent String) :=
  let pieces := (splitChars '/' path.toList).map String.ofList
  let start : List (PathComponent String) :=
    if path.toList.head? = some '/' then [.rootDir]
    else if pieces.head? = some "." then [.curDir]
    else []
  start ++ (pieces.filter fun piece => decide (piece ≠ "" ∧ piece ≠ ".")).map fun piece =>
    if piece = ".." then .parentDir else .normal piece

/-- `Path::is_absolute`. -/
def pathIsAbsolute (path : String) : Bool := decide (path.toList.head? = some '/')

/-- A file's name without what follows its last dot; a name has no stem before a dot
that it starts with. -/
def stemOfName (name : String) : String :=
  match name.toList.reverse.dropWhile fun c => decide (c ≠ '.') with
  | [] | [_] => name
  | _ :: stem => String.ofList stem.reverse

/-- `Path::file_stem`. -/
def fileStem (path : String) : Option String :=
  match (pathComponents path).getLast? with
  | some (.normal name) => some (stemOfName name)
  | _ => none

end MandoForge
