import ImageBuild.Archive.Unpacked
import ImageBuild.Daemon.Error
import ImageBuild.Files.Tree

/-!
# Unpacking an archive

Nothing is unpacked outside the directory, neither under its own name nor through a link.
-/

namespace ImageBuild.Archive

open Daemon (UnpackProblem)
open Files (Content Item Member)

inductive UnpackFailure where
  | problem (reason : UnpackProblem)
  | missingMember (target : String)
  /-- A link that cannot be made and whose copy is the link again. -/
  | endlessCopy
  /-- The path of the archive names no file. -/
  | nullCharacter
deriving DecidableEq

inductive Interruption where
  | failure (reason : UnpackFailure)
  | skipped

abbrev Unpacking (α : Type) := ExceptT Interruption (StateM Unpacked) α

namespace Unpacking

def refuse {α : Type} (reason : UnpackProblem) : Unpacking α := throw (.failure (.problem reason))

def change (step : Unpacked.Change Unit) : Unpacking (Except Files.Problem Unit) := ExceptT.lift step.run

def require (step : Unpacked.Change Unit) : Unpacking Unit := do
  match ← change step with
  | .ok () => return
  | .error problem => refuse (.file problem)

end Unpacking

def isAbsolute (name : String) : Bool := name.toList.head? == some '/'

def plainParts (name : String) : List String :=
  ((pathParts name).foldl (fun done part =>
    if part = "." then done
    else
      match part, done with
      | "..", last :: above => if last = ".." then ".." :: done else above
      | "..", [] => if isAbsolute name then [] else [".."]
      | part, done => part :: done) []).reverse

def sameName (a b : String) : Bool := isAbsolute a == isAbsolute b && plainParts a == plainParts b

/-- The latest member of a name, after those that stand before it. -/
def latest? (members : List Member) (name : String) : Option (List Member × Member) :=
  match members.reverse.dropWhile fun (other, _) => !sameName name other with
  | [] => none
  | found :: before => some (before.reverse, found)

def dropSlashes (s : List Char) : List Char := s.dropWhile (· == '/')

def readName (name : String) : Item → String
  | .directory => String.ofList (dropSlashes name.toList.reverse).reverse
  | _ => name

def parentText (name : String) : String :=
  match Text.splitLast '/' name.toList with
  | some (above, _) => String.ofList above
  | none => ""

def targetName (name target : String) (isSymbolic : Bool) : String :=
  if isSymbolic then "/".intercalate ([parentText name, target].filter (· ≠ "")) else target

def checkMember (name : String) (item : Item) : Unpacking Unit := do
  let files ← get
  if files.staysInside (pieces name) then pure () else Unpacking.refuse .outside
  let checkLink (target : String) (start : List String) : Unpacking Unit :=
    if isAbsolute target then Unpacking.refuse .absoluteLink
    else if files.staysInside (start ++ pieces target) then pure ()
    else Unpacking.refuse .linkOutside
  match item with
  | .special => Unpacking.refuse .specialFile
  | .symbolicLink target => checkLink target (pieces (parentText name))
  | .hardLink target => checkLink target []
  | .file _ | .directory => pure ()

/-- Puts a member at the end of a path, and a copy where a link cannot be made. A copy of a second
name is a copy again; `copies` bounds how often. -/
def place (all : List Member) : (copies : Nat) → (isCopy : Bool) → (parts : List String) →
    (before : List Member) → Member → Unpacking Unit
  | copies, isCopy, parts, before, (name, item) => do
    Unpacking.require (Unpacked.makeParents parts)
    let copy (candidates : List Member) (target : String) (lost : Interruption) : Unpacking Unit :=
      match latest? candidates target, copies with
      | some (before, found), copies + 1 => place all copies true parts before found
      | some _, 0 => throw (.failure .endlessCopy)
      | none, _ => throw lost
    match item with
    | .file content => Unpacking.require (Unpacked.writeFile parts content)
    | .directory => Unpacking.require (Unpacked.makeFolder parts)
    | .special => Unpacking.require (Unpacked.create parts (.file (.bytes .empty)))
    | .symbolicLink target =>
      match ← Unpacking.change (Unpacked.link parts target) with
      | .ok () => return
      | .error _ => copy all (targetName name target true) .skipped
    | .hardLink target =>
      if isCopy then copy before target .skipped
      else if ((← get).find? (pieces target)).isSome then
        match ← Unpacking.change (Unpacked.linkFile (pieces target) parts) with
        | .ok () => return
        | .error _ => copy before target .skipped
      else copy before target (.failure (.missingMember target))

def unpackMember (before all : List Member) (member : Member) : Unpacking Unit := do
  let (name, item) := member
  let name := String.ofList (dropSlashes name.toList)
  checkMember name item
  place all all.length false (pathParts name) before (name, item)

def unpackAll (all : List Member) : (before rest : List Member) → Unpacked → Except UnpackFailure Unpacked
  | _, [], files => .ok files
  | before, member :: rest, files =>
    match (unpackMember before all member).run.run files with
    | (.ok (), files) | (.error .skipped, files) => unpackAll all (before ++ [member]) rest files
    | (.error (.failure reason), _) => .error reason

def unpack (members : List Member) : Except UnpackFailure Unpacked :=
  let members := members.map fun (name, item) => (readName name item, item)
  unpackAll members [] members .empty

def unpackFile (tree : Files.Node) (path : Path) : Except UnpackFailure Unpacked :=
  match Files.contentAt tree path with
  | .ok (.archive members) => unpack members
  | .ok (.bytes _) => .error (.problem .unreadable)
  | .error (.system problem _) => .error (.problem (.file problem))
  | .error .nullCharacter => .error .nullCharacter

end ImageBuild.Archive
