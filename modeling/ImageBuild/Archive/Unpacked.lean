import ImageBuild.Files.Content
import ImageBuild.Files.Error
import ImageBuild.Text.Split

/-!
# Unpacked files

The directory into which an archive is unpacked, with its symbolic links. A path is followed part
by part from there; links are followed on the way.
-/

namespace ImageBuild.Archive

open Files Text

inductive Entry where
  | folder
  | file (content : Content)
  | link (target : String)

def Entry.isLinkToNothing : Entry → Bool
  | link target => target.isEmpty
  | _ => false

/-- What has been unpacked: each place below the directory, with what stands there. -/
structure Unpacked where
  entries : List (List String × Entry)

/-- What stands between the slashes of a path. A slash at the end leaves an empty part. -/
def pieces (path : String) : List String := (splitAll '/' path.toList).map String.ofList

def pathParts (path : String) : List String := (pieces path).filter (· ≠ "")

def isHere (part : String) : Bool := part == "." || part == ""

/-- How the end of a path is meant. -/
inductive Ending where
  /-- A link at the end is meant itself. -/
  | itself
  /-- A link at the end stands for what it leads to. -/
  | through
  /-- Links are followed, and a slash at the end is refused: a file is to be written. -/
  | written
deriving DecidableEq

namespace Unpacked

def empty : Unpacked := ⟨[]⟩

/-- What stands at a place; the directory itself is a folder. -/
def get? (files : Unpacked) (place : List String) : Option Entry :=
  if place.isEmpty then some .folder else files.entries.lookup place

def add (files : Unpacked) (place : List String) (entry : Entry) : Unpacked :=
  ⟨files.entries ++ [(place, entry)]⟩

def remove (files : Unpacked) (place : List String) : Unpacked :=
  ⟨files.entries.filter fun (other, _) => other != place⟩

def set (files : Unpacked) (place : List String) (entry : Entry) : Unpacked :=
  ⟨files.entries.map fun (other, old) => if other == place then (other, entry) else (other, old)⟩

def maxLinks : Nat := 40

def maxName : Nat := 255

def walk (files : Unpacked) (ending : Ending) : (links : Nat) → (place parts : List String) →
    Except Files.Problem (List String)
  | _, place, [] => .ok place
  | links, place, part :: rest =>
    match files.get? place with
    | none => .error .notFound
    | some (.file _) | some (.link _) => .error .notDirectory
    | some .folder =>
      if isHere part then walk files ending links place rest
      else if part = ".." then walk files ending links place.dropLast rest
      else if ending = .written ∧ !rest.isEmpty ∧ rest.all (· = "") then .error .isDirectory
      else if maxName < part.utf8ByteSize then .error .nameTooLong
      else
        match files.get? (place ++ [part]) with
        | some (.link target) =>
          if rest.isEmpty ∧ ending = .itself then .ok (place ++ [part])
          else
            match links with
            | 0 => .error .tooManyLinks
            | links + 1 => walk files ending links place (pieces target ++ rest)
        | some _ => walk files ending links (place ++ [part]) rest
        | none => if rest.isEmpty then .ok (place ++ [part]) else .error .notFound
termination_by links _ parts => (links, parts.length)

def follow (files : Unpacked) (parts : List String) : Except Files.Problem (List String) :=
  files.walk .through maxLinks [] parts

def locate (files : Unpacked) (parts : List String) : Except Files.Problem (List String) :=
  files.walk .itself maxLinks [] parts

def find? (files : Unpacked) (parts : List String) : Option Entry :=
  match files.follow parts with
  | .ok place => files.get? place
  | .error _ => none

def isFolder (files : Unpacked) (parts : List String) : Bool :=
  match files.find? parts with
  | some .folder => true
  | _ => false

/-- Where a path leads as far as it exists, and by its parts from there. A link that is being followed
already is not followed again: the path then ends in what is left, unread. -/
inductive Target where
  | resolved (place : List String)
  | unread (parts : List String)
  | outside

/-- What is left of a path is put behind its place; with two slashes in front it leads elsewhere. -/
def Target.leftover (place : List String) : (rest : List String) → Target
  | "" :: _ :: _ => .outside
  | rest => .unread (place ++ rest)

/-- Follows a path as far as it exists. `links` bounds how deep links lie in links, and `opened` holds
those that are being followed. -/
def target (files : Unpacked) : (links : Nat) → (opened : List (List String)) →
    (place parts : List String) → Target
  | _, _, place, [] => .resolved place
  | links, opened, place, part :: rest =>
    if isHere part then target files links opened place rest
    else if part = ".." then
      if place.isEmpty then .outside else target files links opened place.dropLast rest
    else
      let next := place ++ [part]
      match files.get? next, links with
      | some (.link _), 0 => .leftover next rest
      | some (.link path), links + 1 =>
        if opened.contains next then .leftover next rest
        else
          match target files links (next :: opened) place (pieces path) with
          | .resolved place => target files (links + 1) opened place rest
          | .unread parts => .leftover parts rest
          | .outside => .outside
      | _, links => target files links opened next rest
termination_by links _ _ parts => (links, parts.length)

/-- Whether the parts name a place below the directory, taken as they are. -/
def isBelow : (depth : Nat) → List String → Bool
  | _, [] => true
  | depth, part :: rest =>
    if isHere part then isBelow depth rest
    else if part = ".." then
      match depth with
      | 0 => false
      | depth + 1 => isBelow depth rest
    else isBelow (depth + 1) rest

def staysInside (files : Unpacked) (parts : List String) : Bool :=
  match files.target files.entries.length [] [] parts with
  | .resolved _ => true
  | .unread parts => isBelow 0 parts
  | .outside => false

def listing (files : Unpacked) : List String :=
  let shown := files.entries.map fun (place, _) =>
    "/".intercalate place ++ (if files.isFolder place then "/" else "")
  shown.mergeSort fun a b => decide (a ≤ b)

/-- A change of what has been unpacked; what it did stays when it fails. -/
abbrev Change (α : Type) := ExceptT Files.Problem (StateM Unpacked) α

def attempt {α : Type} (change : Change α) : Change (Except Files.Problem α) := ExceptT.lift change.run

def create (parts : List String) (entry : Entry) : Change Unit := do
  if entry.isLinkToNothing then throw .notFound
  let files ← get
  match files.locate parts with
  | .error problem => throw problem
  | .ok place =>
    if (files.get? place).isSome then throw .alreadyExists else modify fun files => files.add place entry

def writeFile (parts : List String) (content : Content) : Change Unit := do
  let files ← get
  match files.walk .written maxLinks [] parts with
  | .error problem => throw problem
  | .ok place =>
    match files.get? place with
    | none => modify fun files => files.add place (.file content)
    | some .folder => throw .isDirectory
    | some _ => modify fun files => files.set place (.file content)

def makeFolder (parts : List String) : Change Unit := do
  match ← attempt (create parts .folder) with
  | .ok () => return
  | .error problem =>
    if problem = .alreadyExists ∧ (← get).isFolder parts then return else throw problem

/-- Makes a directory and those above it; `reversed` holds the parts, the last one first. -/
def makeFolders : (reversed : List String) → Change Unit
  | [] => return
  | part :: above => do
    if ((← get).find? above.reverse).isNone then
      match ← attempt (makeFolders above) with
      | .ok () | .error .alreadyExists => pure ()
      | .error problem => throw problem
      if part = "." then return
    match ← attempt (create (part :: above).reverse .folder) with
    | .ok () => return
    | .error problem => if (← get).isFolder (part :: above).reverse then return else throw problem

def makeParents (parts : List String) : Change Unit := do
  if ((← get).find? parts.dropLast).isSome then return else makeFolders parts.dropLast.reverse

def link (parts : List String) (target : String) : Change Unit := do
  let files ← get
  match files.locate parts with
  | .error _ => create parts (.link target)
  | .ok place =>
    match files.get? place with
    | some .folder => throw .isDirectory
    | some _ =>
      modify fun files => files.remove place
      create parts (.link target)
    | none => create parts (.link target)

def linkFile (source parts : List String) : Change Unit := do
  let files ← get
  match files.locate source with
  | .error problem => throw problem
  | .ok place =>
    match files.get? place with
    | none => throw .notFound
    | some .folder => throw .notPermitted
    | some entry => create parts entry

end Unpacked

end ImageBuild.Archive
