import ImageBuild.Machine.Call

namespace ImageBuild.Machine

open Data Daemon

structure Images where
  remote : Table String := .empty
  present : Table String
  /-- The ids of the builds to come. -/
  buildIds : List String := []
  /-- How many builds have succeeded. -/
  built : Nat := 0
  /-- The names that loading an archive tells. -/
  loaded : List String := []
  /-- Commands that fail, with the text of the failure. -/
  failing : Table String := .empty

namespace Images

def nextId (images : Images) : String := (images.buildIds[images.built]?).getD s!"built-{images.built + 1}"

def name (images : Images) (name id : String) : Images :=
  { images with present := images.present.put name id }

def noSuchImage (name : String) : ClientError := .noSuchImage s!"No such image: {name}"

/-- Carries out a command that does not fail by itself. -/
def execute (images : Images) : (command : Command) → Except ClientError command.Answer × Images
  | .login .. => (.ok (), images)
  | .pull name =>
    match images.remote.get? name with
    | some id => (.ok (), images.name name id)
    | none => (.error (.failed s!"manifest for {name} not found"), images)
  | .build request =>
    let id := images.nextId
    (.ok (), request.tags.foldl (fun images tag => images.name tag id) { images with built := images.built + 1 })
  | .load _ =>
    (.ok images.loaded, images.loaded.foldl (fun images name => images.name name s!"loaded:{name}") images)
  | .tag source target =>
    match images.present.get? source with
    | some id => (.ok (), images.name target id)
    | none => (.error (noSuchImage source), images)
  | .remove id _ =>
    (.ok (), { images with present := .ofList (images.present.entries.filter fun (_, other) => other != id) })
  | .inspect name =>
    match images.present.get? name with
    | some id => (.ok id, images)
    | none => (.error (noSuchImage name), images)

def run (images : Images) (command : Command) : Except ClientError command.Answer × Images :=
  match images.failing.get? command.name with
  | some text => (.error (.failed text), images)
  | none => images.execute command

end Images

structure World where
  images : Images
  tree : Files.Node

namespace World

def answers : Program.Answers interface World
  | .client command, world =>
    let (answer, images) := world.images.run command
    (answer, { world with images })
  | .pack image build context, world =>
    let (answer, tree) := (Archive.create image build context).run world.tree
    (answer, { world with tree })
  | .unpack archive, world => (Archive.unpackFile world.tree archive, world)
  | .extract dockerfile, world => (Dockerfile.extract world.tree dockerfile, world)
  | .read file, world => (Files.read world.tree file, world)

end World

def commands (calls : List Call) : List Command :=
  calls.filterMap fun call =>
    match call with
    | .client command => some command
    | _ => none

end ImageBuild.Machine
