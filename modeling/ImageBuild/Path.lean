import ImageBuild.Text.Split

/-!
# File paths

A path is read as its leading slashes and its parts: empty parts and `.` are dropped, `..` is
kept. Exactly two leading slashes are told apart from one; more count as one.
-/

namespace ImageBuild

open Text

inductive Path.Root where
  | none
  | single
  | double
deriving DecidableEq

structure Path where
  root : Path.Root
  parts : List String
deriving DecidableEq

namespace Path

def Root.text : Root → String
  | none => ""
  | single => "/"
  | double => "//"

def rootOf : List Char → Root
  | '/' :: '/' :: '/' :: _ => .single
  | '/' :: '/' :: _ => .double
  | '/' :: _ => .single
  | _ => .none

def isPart (piece : List Char) : Bool := !piece.isEmpty && piece != ['.']

def ofText (text : String) : Path :=
  ⟨rootOf text.toList, ((splitAll '/' text.toList).filter isPart).map String.ofList⟩

def text (path : Path) : String :=
  match path.root, path.parts with
  | .none, [] => "."
  | root, parts => root.text ++ "/".intercalate parts

def isAbsolute (path : Path) : Bool := path.root != .none

/-- An absolute second path replaces the first. -/
def join (base path : Path) : Path :=
  if path.isAbsolute then path else ⟨base.root, base.parts ++ path.parts⟩

def child (path : Path) (name : String) : Path := ⟨path.root, path.parts ++ [name]⟩

def absolute (path : Path) : Path := if path.isAbsolute then path else ⟨.single, path.parts⟩

def resolve (base : Path) (configured : String) : Path :=
  let path := ofText configured
  if path.isAbsolute then path else (base.join path).absolute

def parent (path : Path) : Path := ⟨path.root, path.parts.dropLast⟩

def name (path : Path) : String := path.parts.getLast?.getD ""

def relativeTo? (path base : Path) : Option Path :=
  if path.root = base.root then
    (List.isPrefixOf? base.parts path.parts).map fun parts => ⟨.none, parts⟩
  else none

def normalParts (parts : List String) : List String :=
  parts.foldl (fun done part => if part = ".." then done.dropLast else done ++ [part]) []

end Path

end ImageBuild
