import ImageBuild.Workflow.AutoPull
import ImageBuild.Workflow.Execute

namespace ImageBuild.Workflow

open Config Data

def resolveArgs (image : Image) (context : Context) : Build (Table String) := do
  let args := Args.resolve Args.marker context.buildArgs context.projectProperties
    context.globalProperties image.build.args
  Program.note (Args.resolvedRecord args)
  return args

def nocacheOverride (context : Context) : Option String := context.nocacheOverride Args.nocacheProperty

/-- Builds one image. An explicit override of the build cache goes before those in the properties. -/
def buildOne (image : Image) (context : Context) (nocache : Option String) : Build (Option String) := do
  let _ ← Program.ofExcept .reference (Reference.parse image.name)
  Program.info .workflow s!"[BuildService] Starting build workflow for {image.description}"
  if !image.build.isArchiveMode then autoPullBase image context
  let args ← resolveArgs image context
  let id ← execute image context (nocache.or (nocacheOverride context)) args
  Program.info .workflow s!"[BuildService] Finished build workflow for {image.description}"
  return id

def buildEach (context : Context) (nocache : Option String) :
    List Image → Build (List (Image × Except Fault (Option String)))
  | [] => return []
  | image :: rest => do
    let result ← (buildOne image context nocache).outcome
    return (image, result) :: (← buildEach context nocache rest)

def gather (ids : Table (Option String)) :
    List (Image × Except Fault (Option String)) → Build (Table (Option String))
  | [] => return ids
  | (image, .ok id) :: rest => gather (ids.put image.name id) rest
  | (image, .error fault) :: rest => do
    Program.note ⟨.error, .workflow, s!"[BuildService] {image.description} failed: {fault.message}"⟩
    gather ids rest

def firstFailure? (results : List (Image × Except Fault (Option String))) : Option Fault :=
  results.findSome? fun (_, result) =>
    match result with
    | .ok _ => none
    | .error fault => some fault

/-- Builds several images and tells their ids by name. Without a number of workers there are as many
as the machine offers. -/
def buildAll (images : List Image) (context : Context) (nocache : Option String) (workers : Option Int) :
    Build (Table (Option String)) := do
  if images.isEmpty then return .empty
  let shown := ((workers.filter (· ≠ 0)).map toString).getD "default"
  Program.info .workflow s!"[BuildService] Building {images.length} image(s) with up to {shown} workers"
  if workers.any (· ≤ 0) then .failed .noWorkers
  else
    let results ← buildEach context nocache images
    let ids ← gather .empty results
    match firstFailure? results with
    | some fault => .failed fault
    | none => return ids

end ImageBuild.Workflow
