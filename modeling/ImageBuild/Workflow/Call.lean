import ImageBuild.Context
import ImageBuild.Login
import ImageBuild.Program

namespace ImageBuild.Workflow

open Data

structure BuildOptions where
  dockerfile : Option String
  forceRemove : Bool
  nocache : Bool
  args : Table String
  others : Table Value

inductive Call where
  | requiresPull (policy : Option String) (image : String) (alwaysAllowed : Bool) (cached : Cache.PullCache)
  | hasImage (name : String)
  | resolveId (name : String)
  | resolveLogin (image : Reference) (registry : Option String) (isPush : Bool) (auth : Config.Auth)
  | pull (image : String) (login : Option Login) (registry : Option String)
  | build (image : String) (archive : Path) (options : BuildOptions)
  | load (image : String) (archive : Path)
  | tag (source target : String) (force : Bool)
  | remove (id : String) (force : Bool)
  | createArchive (image : String) (build : Config.Build) (context : Context)
  | extract (dockerfile : Path)

def Call.Answer : Call → Type
  | requiresPull .. => Bool
  | hasImage _ => Bool
  | resolveId _ => Option String
  | resolveLogin .. => Option Login
  | createArchive .. => Path
  | extract _ => String
  | pull .. | build .. | load .. | tag .. | remove .. => Unit

abbrev surroundings : Interface := ⟨Call, Call.Answer, fun _ => Fault⟩

abbrev Build := Program surroundings

def ask (call : Call) : Build call.Answer :=
  .perform call fun answer =>
    match answer with
    | .ok value => .done value
    | .error fault => .failed fault

def elapsed (start : Float) : Build String := do
  let now ← Program.now
  Program.ofExcept .duration (Duration.real (now - start)).text

end ImageBuild.Workflow
