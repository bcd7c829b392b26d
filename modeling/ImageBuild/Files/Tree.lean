import ImageBuild.Files.Content
import ImageBuild.Files.Error
import ImageBuild.Path

/-!
# File trees

Files and directories below one root. Paths are followed part by part: every part but the last
must be a directory, and `..` leads to the directory above.
-/

namespace ImageBuild.Files

/-- The entries of a directory stand in ascending order of their names. -/
inductive Node where
  | file (content : Content)
  | folder (entries : List (String × Node))
deriving Inhabited

namespace Node

def empty : Node := .folder []

def isFolder : Node → Bool
  | folder _ => true
  | file _ => false

def entries : Node → List (String × Node)
  | folder entries => entries
  | file _ => []

def get? : Node → List String → Option Node
  | node, [] => some node
  | node, name :: rest => (node.entries.lookup name).bind fun child => child.get? rest

def insertEntry (entries : List (String × Node)) (name : String) (node : Node) : List (String × Node) :=
  match entries with
  | [] => [(name, node)]
  | (first, child) :: rest =>
    if name < first then (name, node) :: (first, child) :: rest
    else if name = first then (name, node) :: rest
    else (first, child) :: insertEntry rest name node

def put : Node → List String → Node → Node
  | _, [], node => node
  | tree, name :: rest, node =>
    let child := (tree.entries.lookup name).getD empty
    .folder (insertEntry tree.entries name (child.put rest node))

end Node

/-- The limits on a name and on a whole path, in bytes. -/
def maxName : Nat := 255
def maxPath : Nat := 4095

/-- Follows parts from a directory; the result has no `..`. -/
def follow (tree : Node) : List String → List String → Except Problem (List String)
  | done, [] => .ok done
  | done, part :: rest =>
    match tree.get? done with
    | some (.folder entries) =>
      if part = ".." then follow tree done.dropLast rest
      else if maxName < part.utf8ByteSize then .error .nameTooLong
      else if (entries.lookup part).isSome then follow tree (done ++ [part]) rest
      else .error .notFound
    | some (.file _) => .error .notDirectory
    | none => .error .notFound

def located {α : Type} (path : Path) (result : Except Problem α) : Except Error α :=
  match result with
  | .ok a => .ok a
  | .error problem => .error (.system problem path.text)

def usable (path : Path) : Except Error Unit :=
  if path.text.toList.contains (Char.ofNat 0) then .error .nullCharacter
  else if maxPath < path.text.utf8ByteSize then .error (.system .nameTooLong path.text)
  else .ok ()

def find (tree : Node) (path : Path) : Except Error (List String) := do
  usable path
  located path (follow tree [] path.parts)

def node (tree : Node) (path : Path) : Except Error Node := do
  let place ← find tree path
  match tree.get? place with
  | some node => .ok node
  | none => .error (.system .notFound path.text)

def contentAt (tree : Node) (path : Path) : Except Error Content := do
  match ← node tree path with
  | .file content => .ok content
  | .folder _ => .error (.system .isDirectory path.text)

def read (tree : Node) (path : Path) : Except Error ByteArray := Content.data <$> contentAt tree path

/-- Whether a path leads to a node that passes the test. Only a path that is too long is an error. -/
def holds (test : Node → Bool) (tree : Node) (path : Path) : Except Error Bool :=
  match node tree path with
  | .ok node => .ok (test node)
  | .error (.system .nameTooLong text) => .error (.system .nameTooLong text)
  | .error _ => .ok false

def isDirectory : Node → Path → Except Error Bool := holds Node.isFolder

def isFile : Node → Path → Except Error Bool := holds fun node => !node.isFolder

def slot (tree : Node) (path : Path) : Except Error (List String × Option Node) := do
  usable path
  match path.parts.getLast? with
  | none => .ok ([], some tree)
  | some ".." =>
    let place ← located path (follow tree [] path.parts)
    .ok (place, tree.get? place)
  | some name =>
    let above ← located path (follow tree [] path.parts.dropLast)
    match tree.get? above with
    | some (.folder entries) =>
      if maxName < name.utf8ByteSize then .error (.system .nameTooLong path.text)
      else .ok (above ++ [name], entries.lookup name)
    | _ => .error (.system .notDirectory path.text)

/-- A change of a tree; what it did stays when it fails. -/
abbrev Change (α : Type) := ExceptT Error (StateM Node) α

def attempt {α : Type} (change : Change α) : Change (Except Error α) := ExceptT.lift change.run

def writeContent (path : Path) (content : Content) : Change Unit := do
  match slot (← get) path with
  | .error error => throw error
  | .ok (_, some (.folder _)) => throw (.system .isDirectory path.text)
  | .ok (place, _) => modify fun tree => tree.put place (.file content)

def write (path : Path) (data : ByteArray) : Change Unit := writeContent path (.bytes data)

def makeDirectory (path : Path) : Change Unit := do
  match slot (← get) path with
  | .error error => throw error
  | .ok (_, some _) => throw (.system .alreadyExists path.text)
  | .ok (place, none) => modify fun tree => tree.put place .empty

/-- A directory that is there already is as good as a new one. -/
def settle (path : Path) (error : Error) : Change Unit := do
  match error with
  | .nullCharacter => throw error
  | .system _ _ =>
    match isDirectory (← get) path with
    | .ok true => return
    | .ok false => throw error
    | .error error => throw error

/-- Makes a directory and those above it that are missing, at most `above` of them. -/
def makeDirectories (path : Path) (above : Nat) : Change Unit := do
  match ← attempt (makeDirectory path) with
  | .ok () => return
  | .error (.system .notFound text) =>
    match above with
    | 0 => throw (.system .notFound text)
    | above + 1 =>
      makeDirectories path.parent above
      match ← attempt (makeDirectory path) with
      | .ok () => return
      | .error error => settle path error
  | .error error => settle path error

def ensureDirectory (path : Path) : Change Unit := makeDirectories path path.parts.length

end ImageBuild.Files
