import ImageBuild.Config.Auth
import ImageBuild.Config.Image

namespace ImageBuild.Config

open Data

structure RunFile where
  registry : Option String
  pullRegistry : Option String
  autoPull : Option String
  buildArgs : Table String
  properties : Table String
  outputDir : String
  auth : Auth
  images : List Image
deriving DecidableEq

namespace RunFile

def defaultOutputDir : String := "target/docker"

/-- A pull policy; documents may write `on` and `off` as truth values. -/
def readPolicy : Reader (Option String) := fun at_ value =>
  match value with
  | .bool b => .valid (some (if b then "on" else "off"))
  | value => optional text at_ value

/-- Each name that an earlier element already has, once. -/
def repeated : List String → List String → List String
  | _, [] => []
  | seen, name :: rest =>
    let later := repeated (name :: seen) rest
    if seen.contains name && !later.contains name then name :: later else later

def duplicates? (file : RunFile) : Option Refusal :=
  match repeated [] (file.images.map Image.name) with
  | [] => none
  | names => some (.duplicateNames (names.mergeSort fun a b => decide (a ≤ b)))

def fields (at_ : List Step) (entries : List (Value × Value)) : Checked RunFile :=
  RunFile.mk
    <$> withDefault (optional text) none at_ entries ["registry"]
    <*> withDefault (optional text) none at_ entries ["pullRegistry", "pull_registry"]
    <*> withDefault readPolicy none at_ entries ["autoPull", "auto_pull"]
    <*> withDefault settings .empty at_ entries ["buildArgs", "build_args"]
    <*> withDefault settings .empty at_ entries ["properties"]
    <*> withDefault text defaultOutputDir at_ entries ["outputDir", "output_dir"]
    <*> withDefault Auth.read .none at_ entries ["auth"]
    <*> required (list Image.read) at_ entries ["images"]

def read : Reader RunFile := record "RunConfigModel" fun at_ entries =>
  (fields at_ entries).require duplicates?

def image (file : RunFile) (path name : String) : Except Refusal Image :=
  match file.images.find? fun image => image.name == name || image.aliasName == some name with
  | some image => .ok image
  | none => .error (.noImage name path)

end RunFile

end ImageBuild.Config
