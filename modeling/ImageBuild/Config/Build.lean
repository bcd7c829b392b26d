import ImageBuild.Config.Cleanup
import ImageBuild.Config.Field
import ImageBuild.Path

namespace ImageBuild.Config

open Data

structure Assembly where
  name : String
  sourceDir : Option String
  targetDir : Option String
  descriptor : Option String
deriving DecidableEq

structure Build where
  base : Option String
  dockerfile : Option String
  archive : Option String
  contextDir : Option String
  assembly : Option Assembly
  nocache : Bool
  cleanup : Cleanup
  args : Table String
  options : Table String
deriving DecidableEq

namespace Assembly

def fields (at_ : List Step) (entries : List (Value × Value)) : Checked Assembly :=
  Assembly.mk
    <$> withDefault text "build" at_ entries ["name"]
    <*> withDefault (optional text) none at_ entries ["sourceDir", "source_dir"]
    <*> withDefault (optional text) none at_ entries ["targetDir", "target_dir"]
    <*> withDefault (optional text) none at_ entries ["descriptor"]

def read : Reader Assembly := record "AssemblyConfiguration" fields

def source? (assembly : Assembly) : Option String := assembly.sourceDir.filter (· ≠ "")

/-- Where the files go in the image: below the root, under the assembly's name, unless told otherwise. -/
def target (assembly : Assembly) : String :=
  (assembly.targetDir.filter (· ≠ "")).getD ("/" ++ assembly.name)

end Assembly

namespace Build

def base? (build : Build) : Option String := build.base.filter (· ≠ "")
def dockerfile? (build : Build) : Option String := build.dockerfile.filter (· ≠ "")
def archive? (build : Build) : Option String := build.archive.filter (· ≠ "")
def contextDir? (build : Build) : Option String := build.contextDir.filter (· ≠ "")

def isDockerfileMode (build : Build) : Bool := build.dockerfile?.isSome

def isArchiveMode (build : Build) : Bool := build.archive?.isSome

/-- The settings that a ready-made archive excludes, by their names in a document. -/
def beside (build : Build) : List String :=
  (if build.base?.isSome then ["from"] else []) ++
  (if build.dockerfile?.isSome then ["dockerFile"] else []) ++
  (if build.contextDir?.isSome then ["contextDir"] else []) ++
  (if build.assembly.isSome then ["assembly"] else []) ++
  (if build.args.isEmpty then [] else ["args"])

/-- An archive excludes everything else, and a Dockerfile excludes an assembly. -/
def conflict? (build : Build) : Option Refusal :=
  if build.isArchiveMode && !build.beside.isEmpty then some (.archiveBeside build.beside)
  else if build.isDockerfileMode && build.assembly.isSome then some .dockerfileBesideAssembly
  else none

def readCleanup : Reader Cleanup := fun at_ value =>
  if !value.isWritable then issue at_ .numberTooLong
  else
    match Cleanup.parse value with
    | .ok mode => .valid mode
    | .error reason => .stopped (.refused reason)

def fields (at_ : List Step) (entries : List (Value × Value)) : Checked Build :=
  Build.mk
    <$> withDefault (optional text) none at_ entries ["from", "from_image"]
    <*> withDefault (optional text) none at_ entries ["dockerFile", "dockerfile"]
    <*> withDefault (optional text) none at_ entries ["dockerArchive", "docker_archive"]
    <*> withDefault (optional text) none at_ entries ["contextDir", "context_dir"]
    <*> withDefault (optional Assembly.read) none at_ entries ["assembly"]
    <*> withDefault flag false at_ entries ["noCache", "nocache"]
    <*> withDefault readCleanup .attempt at_ entries ["cleanup"]
    <*> withDefault settings .empty at_ entries ["args"]
    <*> withDefault settings .empty at_ entries ["buildOptions", "build_options"]

def read : Reader Build := record "BuildImageConfiguration" fun at_ entries =>
  (fields at_ entries).require conflict?

def default : Build :=
  ⟨none, none, none, none, none, false, .attempt, .empty, .empty⟩

def dockerfileName? (build : Build) : Option String :=
  build.dockerfile?.map fun text => (Path.ofText text).name

def dockerfilePath (build : Build) (base : Path) : Except Refusal Path :=
  match build.dockerfile? with
  | none => .error .noDockerfile
  | some file =>
    let root := match build.contextDir? with
      | some dir => base.resolve dir
      | none => base
    .ok (root.resolve file)

/-- The directory that is packed: the configured one, or the Dockerfile's, or the base directory. -/
def contextPath (build : Build) (base : Path) : Path :=
  match build.contextDir?, build.dockerfile? with
  | some dir, _ => base.resolve dir
  | none, some file => (base.resolve file).parent
  | none, none => base.absolute

def archivePath (build : Build) (base : Path) : Except Refusal Path :=
  match build.archive? with
  | none => .error .noArchive
  | some file => .ok (base.resolve file)

/-- What an image is made from. -/
inductive Source where
  | archive (path : Path)
  | generated (build : Build)
deriving DecidableEq

def source (build : Build) (base : Path) : Source :=
  match build.archive? with
  | some file => .archive (base.resolve file)
  | none => .generated build

end Build

end ImageBuild.Config
