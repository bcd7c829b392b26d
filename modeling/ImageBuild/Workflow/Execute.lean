import ImageBuild.Args
import ImageBuild.Workflow.Removal

namespace ImageBuild.Workflow

open Config Data

def loadImage (image : Image) (archive : Path) : Build Unit := do
  let start ← Program.now
  ask (.load image.name archive)
  let time ← elapsed start
  Program.info .executor s!"{image.description}: Loaded tarball {archive.text} in {time}"

def buildOptions (build : Config.Build) (nocache : Option String) (args : Table String) : BuildOptions where
  dockerfile := build.dockerfileName?
  forceRemove := build.cleanup.isRemovalRequested
  nocache := Args.nocache nocache build.nocache
  args
  others := build.options.mapValues .text

def buildImage (image : Image) (context : Context) (nocache : Option String) (args : Table String) :
    Build (Option String) := do
  let start ← Program.now
  let archive ← ask (.createArchive image.name image.build context)
  let time ← elapsed start
  Program.info .executor s!"{image.description}: Created {archive.name} in {time}"
  ask (.build image.name archive (buildOptions image.build nocache args))
  let id ← ask (.resolveId image.name)
  let shown := id.getD "None"
  Program.info .executor s!"{image.description}: Built image {shown}"
  return id

/-- Retires the old image when the new one has another id. -/
def retire (image : Image) (old new : Option String) : Build Unit := do
  match old with
  | none => return
  | some id =>
    if old = new then return
    match (← attemptRemoval image.build.cleanup id image.description).fatal? with
    | some error => .failed (.daemon error)
    | none => return

def execute (image : Image) (context : Context) (nocache : Option String) (args : Table String) :
    Build (Option String) := do
  let _ ← Program.ofExcept .reference (Reference.parse image.name)
  let old ← if image.build.cleanup.isRemovalRequested then ask (.resolveId image.name) else pure none
  match image.build.source context.baseDir with
  | .archive path =>
    loadImage image path
    return none
  | .generated _ =>
    let new ← buildImage image context nocache args
    retire image old new
    return new

end ImageBuild.Workflow
