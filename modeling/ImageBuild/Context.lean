import ImageBuild.Config.RunFile

namespace ImageBuild

open Data Config

structure Context where
  baseDir : Path
  outputDir : Path
  buildArgs : Table String
  projectProperties : Table String
  globalProperties : Table String
  pullRegistry : Option String
  registry : Option String
  autoPull : Option String
  auth : Auth
deriving DecidableEq

namespace Context

def readPath : Reader Path := fun at_ value =>
  match value with
  | .text s => .valid (Path.ofText s)
  | _ => issue at_ .notPath

/-- Settings given one by one; the base directory is the given one unless they name another. -/
def fields (baseDir : Path) (entries : List (Value × Value)) : Checked Context :=
  Context.mk
    <$> withDefault readPath baseDir [] entries ["base_dir"]
    <*> withDefault readPath (Path.ofText RunFile.defaultOutputDir) [] entries ["output_dir"]
    <*> withDefault (table text) .empty [] entries ["build_args"]
    <*> withDefault (table text) .empty [] entries ["project_properties"]
    <*> withDefault (table text) .empty [] entries ["global_properties"]
    <*> withDefault (optional text) none [] entries ["pull_registry"]
    <*> withDefault (optional text) none [] entries ["registry"]
    <*> withDefault (optional text) none [] entries ["auto_pull"]
    <*> withDefault Auth.read .none [] entries ["auth"]

def ofRunFile (file : RunFile) (baseDir : Path) (globalProperties : Table String) : Context where
  baseDir
  outputDir := Path.ofText file.outputDir
  buildArgs := file.buildArgs
  projectProperties := file.properties
  globalProperties
  pullRegistry := file.pullRegistry
  registry := file.registry
  autoPull := file.autoPull
  auth := file.auth

def resolve (context : Context) (path : String) : Path := context.baseDir.resolve path

def absoluteOutputDir (context : Context) : Path := context.resolve context.outputDir.text

/-- The override of the build cache in the global properties, or else in those of the project. -/
def nocacheOverride (context : Context) (property : String) : Option String :=
  (context.globalProperties.get? property).or (context.projectProperties.get? property)

end Context

end ImageBuild
