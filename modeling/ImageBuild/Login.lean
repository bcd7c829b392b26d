import ImageBuild.Config.Auth
import ImageBuild.Log.Record
import ImageBuild.Reference.Basic

namespace ImageBuild

open Config Data Log

structure Login where
  credentials : Credentials
  registry : Option String
deriving DecidableEq

namespace Login

def fields (at_ : List Step) (entries : List (Value × Value)) : Checked Login :=
  Login.mk
    <$> Credentials.fields at_ entries
    <*> withDefault (optional text) none at_ entries ["registry"]

inductive Source where
  | push
  | registry (name : String)
  | fallback
deriving DecidableEq

def Source.text : Source → String
  | push => "push"
  | registry name => s!"registry '{name}'"
  | fallback => "default"

/-- For pushes the credentials for pushes, else those of the registry, else the fallback. -/
def pick (auth : Auth) (registry : Option String) (isPush : Bool) : Option (Credentials × Source) :=
  match auth.push.filter fun _ => isPush with
  | some credentials => some (credentials, .push)
  | none =>
    match registry.bind fun name => (auth.registries.get? name).map fun found => (found, Source.registry name) with
    | some found => some found
    | none => auth.fallback.map fun credentials => (credentials, .fallback)

def resolve (auth : Auth) (image : Reference) (registry : Option String) (isPush : Bool) :
    Option Login × Record :=
  let effective := Reference.findRegistry [image.registry, registry]
  match pick auth effective isPush with
  | none => (none, ⟨.debug, .auth, s!"[Auth] No credentials for '{image.fullName}', using anonymous access"⟩)
  | some (credentials, source) =>
    (some ⟨credentials, effective⟩,
      ⟨.debug, .auth,
        s!"[Auth] Using {source.text} credentials of user '{credentials.username}' for '{image.fullName}'"⟩)

end Login

end ImageBuild
