import ImageBuild.Workflow.Call

namespace ImageBuild.Workflow

open Config

def scratch : String := "scratch"

/-- The base image in a Dockerfile; one that cannot be read yields none. -/
def baseOfDockerfile (build : Config.Build) (context : Context) : Build (Option String) := do
  let path ← Program.ofExcept .refused (build.dockerfilePath context.baseDir)
  let unknown (fault : Fault) : Build (Option String) := do
    Program.debug .puller s!"[AutoPull] Cannot extract base image from '{path.text}': {fault.message}"
    return none
  match ← Program.attempt (I := surroundings) (.extract path) with
  | .ok image => return some image
  | .error (.baseImage error) => unknown (.baseImage error)
  | .error (.system message) => unknown (.system message)
  | .error fault => .failed fault

/-- The configured base image; without one and without an assembly, nothing. -/
def configuredBase (build : Config.Build) : Option String :=
  match build.base?, build.assembly with
  | some base, _ => some base
  | none, none => some scratch
  | none, some _ => none

def resolveBase (build : Config.Build) (context : Context) : Build (Option String) :=
  if build.isArchiveMode then pure none
  else if build.isDockerfileMode then baseOfDockerfile build context
  else pure (configuredBase build)

/-- Pulls an image, records it, and gives it its short name when it came from a registry that the name does not show. -/
def pullImage (image : String) (name : Reference) (registry : Option String) (context : Context) :
    Build Unit := do
  let registry := Reference.findRegistry [name.registry, registry, context.pullRegistry, context.registry]
  let pulled := name.withLatest
  let start ← Program.now
  let login ← ask (.resolveLogin name registry false context.auth)
  ask (.pull pulled login registry)
  let time ← elapsed start
  Program.info .puller s!"[AutoPull] Pulled {name.fullName registry} in {time}"
  Program.ofStep (Cache.add image)
  if registry.isSome ∧ !name.hasRegistry then
    let qualified ← Program.ofExcept .reference (Reference.parse pulled)
    let source := qualified.fullName registry
    ask (.tag source image false)
    Program.debug .puller s!"[AutoPull] Tagged '{source}' as '{image}'"

def checkImage (image : String) (registry : Option String) (alwaysAllowed : Bool) (context : Context) :
    Build Unit := do
  let name ← Program.ofExcept .reference (Reference.parse image)
  let cached ← Program.ofStep Cache.load
  let wanted : Bool ← ask (.requiresPull context.autoPull image alwaysAllowed cached)
  if wanted then
    pullImage image name registry context
  else
    Program.debug .puller s!"[AutoPull] '{image}' does not need to be pulled"

def autoPullBase (image : Image) (context : Context) : Build Unit := do
  match ← resolveBase image.build context with
  | none =>
    Program.debug .puller s!"[AutoPull] {image.description}: no base image known, skipping auto-pull"
  | some base =>
    if base = scratch then
      Program.debug .puller s!"[AutoPull] {image.description}: '{base}' needs no pull"
    else checkImage base none true context

end ImageBuild.Workflow
