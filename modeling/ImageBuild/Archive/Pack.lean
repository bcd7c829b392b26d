import ImageBuild.Archive.Error
import ImageBuild.Archive.Layout
import ImageBuild.Context
import ImageBuild.Files.Tree

namespace ImageBuild.Archive

open Config Files

def memberName (name : String) : String := String.ofList (name.toList.dropWhile (· == '/'))

/-- What is left out of a packed directory. -/
structure Exclusion where
  /-- The name under which the directory is packed; empty at the top. -/
  folder : String
  /-- The path of the image's own directory from there. -/
  own : Option String
  archive : List String

namespace Exclusion

def keeps (exclusion : Exclusion) (name : String) : Bool :=
  let inside :=
    if exclusion.folder.isEmpty then name.toList else name.toList.drop (exclusion.folder.length + 1)
  match exclusion.own with
  | none => true
  | some own => !(inside == own.toList || (own ++ "/").toList.isPrefixOf inside)

end Exclusion

mutual

def members (exclusion : Exclusion) (place : List String) (name : String) : Node → List Member
  | .file content =>
    if place == exclusion.archive || !exclusion.keeps (memberName name) then []
    else [(memberName name, .file content)]
  | .folder entries =>
    if !exclusion.keeps (memberName name) then []
    else (memberName name, .directory) :: entryMembers exclusion place (name ++ "/") entries

def entryMembers (exclusion : Exclusion) (place : List String) (start : String) :
    List (String × Node) → List Member
  | [] => []
  | (child, node) :: rest =>
    members exclusion (place ++ [child]) (start ++ child) node ++ entryMembers exclusion place start rest

end

structure Draft where
  tree : Node
  members : List Member

abbrev Packing (α : Type) := ExceptT Error (StateM Draft) α

namespace Packing

def ofFiles {α : Type} (image : String) : Except Files.Error α → Packing α
  | .ok a => return a
  | .error error => throw (.failed image error)

def change {α : Type} (image : String) (step : Change α) : Packing α := do
  let (result, tree) := step.run.run (← get).tree
  modify fun draft => { draft with tree }
  ofFiles image result

def append (found : List Member) : Packing Unit :=
  modify fun draft => { draft with members := draft.members ++ found }

end Packing

/-- Where an image's archive is made, and for whom. -/
structure Job where
  image : String
  context : Context

namespace Job

def directory (job : Job) : Path := Archive.directory job.context.absoluteOutputDir job.image

def path (job : Job) : Path := job.directory.child fileName

def addTree (job : Job) (root : Path) (folder : String) : Packing Unit := do
  let tree := (← get).tree
  let place ← Packing.ofFiles job.image (find tree root)
  let archive ← Packing.ofFiles job.image (find tree job.path)
  let own := (job.directory.relativeTo? root).map Path.text
  let start := if folder.isEmpty then "" else folder ++ "/"
  match tree.get? place with
  | some (.folder entries) => Packing.append (entryMembers ⟨folder, own, archive⟩ place start entries)
  | _ => return

def addFile (job : Job) (path : Path) (name : String) : Packing Unit := do
  let tree := (← get).tree
  let place ← Packing.ofFiles job.image (find tree path)
  let archive ← Packing.ofFiles job.image (find tree job.path)
  let content ← Packing.ofFiles job.image (contentAt tree path)
  if place == archive then return else Packing.append [(memberName name, .file content)]

def require (job : Job) (test : Except Files.Error Bool) (error : Error) : Packing Unit := do
  if ← Packing.ofFiles job.image test then return else throw error

def addContext (job : Job) (build : Build) (dockerfile : Path) : Packing Unit := do
  let root := build.contextPath job.context.baseDir
  job.require (isFile (← get).tree dockerfile) (.noDockerfile dockerfile)
  job.require (isDirectory (← get).tree root) (.noContext root)
  job.addTree root ""
  if (dockerfile.relativeTo? root).map Path.text = some dockerfile.name then return
  else job.addFile dockerfile dockerfile.name

def emptyBase : String := "scratch"

def dockerfileLines (build : Build) : List String :=
  let copied := match build.assembly with
    | some assembly => if assembly.source?.isSome then [s!"COPY {assembly.name} {assembly.target}"] else []
    | none => []
  ("FROM " ++ build.base?.getD emptyBase) :: copied

def dockerfileText (build : Build) : String := "\n".intercalate (dockerfileLines build) ++ "\n"

def addSource (job : Job) (build : Build) : Packing Unit :=
  match build.assembly with
  | none => return
  | some assembly =>
    match assembly.source? with
    | none => return
    | some dir => do
      let root := job.context.resolve dir
      job.require (isDirectory (← get).tree root) (.noSource root)
      job.addTree root assembly.name

def addAssembly (job : Job) (build : Build) : Packing Unit := do
  job.addSource build
  let dockerfile := job.directory.child dockerfileName
  Packing.change job.image (write dockerfile (dockerfileText build).toUTF8)
  job.addFile dockerfile dockerfileName

def addAll (job : Job) (build : Build) : Packing Unit :=
  match build.dockerfilePath job.context.baseDir with
  | .ok dockerfile => job.addContext build dockerfile
  | .error _ => job.addAssembly build

def start (job : Job) : Packing Unit := do
  Packing.change job.image (ensureDirectory job.directory)
  Packing.change job.image (write job.path .empty)

/-- Leaves what has been packed in the file. An archive that is not complete and has no members stays
an empty file. -/
def finish (job : Job) (isComplete : Bool) : Packing Unit := do
  let draft ← get
  if !isComplete && draft.members.isEmpty then return
  else Packing.change job.image (writeContent job.path (.archive draft.members))

/-- Packs the archive. One that cannot be completed keeps the members that it got. -/
def run (job : Job) (build : Build) : Packing Path := do
  job.start
  let result ← ExceptT.lift (job.addAll build).run
  job.finish result.isOk
  match result with
  | .ok () => return job.path
  | .error error => throw error

end Job

def create (image : String) (build : Build) (context : Context) : StateM Node (Except Error Path) :=
  fun tree =>
    let (result, draft) := ((Job.mk image context).run build).run.run ⟨tree, []⟩
    (result, draft.tree)

end ImageBuild.Archive
