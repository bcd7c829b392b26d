import ImageBuild.Machine.Daemon
import ImageBuild.Pull.Query

namespace ImageBuild.Machine

open Workflow

def createArchive (image : String) (build : Config.Build) (context : Context) : Routine Path :=
  .perform (.pack image build context) fun answer =>
    match answer with
    | .ok path => do
      Program.debug .archive s!"[Archive] Wrote build context for '{image}' to {path.text}"
      return path
    | .error (.failed _ .nullCharacter) => .failed .nullCharacter
    | .error error => .failed (.archive error.message)

def noteBase (dockerfile : Path) (image : String) : Routine String := do
  Program.debug .base s!"[Dockerfile] Base image of '{dockerfile.text}' is '{image}'"
  return image

def extract (dockerfile : Path) : Routine String :=
  .perform (.extract dockerfile) fun answer =>
    match answer with
    | .ok image => noteBase dockerfile image
    | .error (.noBase error) => .failed (.baseImage error)
    | .error (.notUnicode fault) => .failed (.notUnicode fault)
    | .error .nullCharacter => .failed .nullCharacter

def resolveLogin (image : Reference) (registry : Option String) (isPush : Bool) (auth : Config.Auth) :
    Routine (Option Login) := do
  let (login, record) := Login.resolve auth image registry isPush
  Program.note record
  return login

def routine : (call : Workflow.Call) → Routine call.Answer
  | .requiresPull policy image alwaysAllowed cached =>
    Pull.decide hasImage policy image alwaysAllowed cached
  | .hasImage name => hasImage name
  | .resolveId name => imageId name
  | .resolveLogin image registry isPush auth => resolveLogin image registry isPush auth
  | .pull image login registry => pull image login registry
  | .build image archive options => build image archive options
  | .load image archive => load image archive
  | .tag source target _ => tag source target
  | .remove id force => remove id force
  | .createArchive image build context => createArchive image build context
  | .extract dockerfile => extract dockerfile

def onMachine {α : Type} (build : Build α) : Routine α :=
  build.interpret fun call => (routine call).outcome

end ImageBuild.Machine
