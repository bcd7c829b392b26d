import ImageBuild.Machine.Call
import ImageBuild.Workflow.Call

namespace ImageBuild.Machine

open Daemon (Command Operation)
open Data Workflow

def command (operation : Operation) (command : Command) : Routine command.Answer :=
  .perform (.client command) fun answer =>
    match answer with
    | .ok value => .done value
    | .error error => .failed (.daemon (operation.error (.client error)))

def debug (message : String) : Routine Unit := Program.debug .daemon message

/-- Where credentials are presented: at their own registry, or at the one that was asked for. -/
def loginServer (login : Login) (registry : Option String) : Option String :=
  (login.registry.filter (· ≠ "")).or registry

def pull (image : String) (login : Option Login) (registry : Option String) : Routine Unit := do
  let name ← Program.ofExcept .reference (Reference.parse image)
  let full := name.fullName registry
  match login with
  | none => pure ()
  | some login =>
    let server := loginServer login registry
    let credentials := login.credentials
    command (.login (server.filter (· ≠ ""))) (.login server credentials.username credentials.password)
  debug s!"[Daemon] Pulling {full}"
  command (.pull full) (.pull full)

def unpack (archive : Path) : Routine Archive.Unpacked :=
  .perform (.unpack archive) fun answer =>
    match answer with
    | .ok files => .done files
    | .error (.problem reason) => .failed (.daemon ((Operation.unpack archive.text).error (.unpack reason)))
    | .error (.missingMember target) => .failed (.missingMember target)
    | .error .endlessCopy => .failed .endlessCopy
    | .error .nullCharacter => .failed .nullCharacter

def passedNames : List String := ["network", "target"]

def asksPull (value : Value) : Bool := String.ofList (value.display.toList.map Char.toLower) == "true"

def isKnown (name : String) : Bool := name == "pull" || passedNames.contains name

def noteIgnored : List String → Routine Unit
  | [] => pure ()
  | name :: rest => do
    if !isKnown name then debug s!"[Daemon] Ignoring unsupported build option '{name}'"
    noteIgnored rest

def request (image : String) (options : BuildOptions) (files : Archive.Unpacked) : Daemon.Request where
  tags := [image]
  args := options.args
  useCache := !options.nocache
  dockerfile := options.dockerfile.filter (· ≠ "")
  pull := (options.others.get? "pull").map asksPull
  passed := .ofList (options.others.entries.filter fun (name, _) => passedNames.contains name)
  files := files.listing

def build (image : String) (archive : Path) (options : BuildOptions) : Routine Unit := do
  let files ← unpack archive
  noteIgnored options.others.keys
  if options.forceRemove then
    debug "[Daemon] Intermediate containers are always removed by the CLI builder"
  debug s!"[Daemon] Building {image} from {archive.text}"
  command (.build image) (.build (request image options files))

def tag (source target : String) : Routine Unit := do
  debug s!"[Daemon] Tagging {source} as {target}"
  command (.tag source target) (.tag source target)

/-- Loads images; the first of them gets the name that was wanted, unless one has it. -/
def load (image : String) (archive : Path) : Routine Unit := do
  let loaded : List String ← command (.load archive.text) (.load archive)
  match loaded with
  | [] => return
  | first :: _ => if loaded.contains image then return else tag first image

def remove (id : String) (force : Bool) : Routine Unit := command (.remove id) (.remove id force)

/-- The id of an image; none if there is no such image. -/
def imageId (name : String) : Routine (Option String) :=
  .perform (.client (.inspect name)) fun answer =>
    match answer with
    | .ok id => .done (some id)
    | .error (.noSuchImage _) => .done none
    | .error error => .failed (.daemon ((Operation.inspect name).error (.client error)))

def hasImage (name : String) : Routine Bool := Option.isSome <$> imageId name

end ImageBuild.Machine
