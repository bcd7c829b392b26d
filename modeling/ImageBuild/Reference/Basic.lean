import ImageBuild.Reference.Grammar
import ImageBuild.Text.Quoted

/-!
# Image references

`[registry/]repository[:tag][@digest]`. The first component is a registry when it looks like a
host: it holds a point or a colon, or is `localhost`.
-/

namespace ImageBuild

open Text

structure Reference where
  raw : String
  registry : Option String
  repository : String
  tag : Option String
  digest : Option String
deriving DecidableEq

namespace Reference

inductive Problem where
  | repository (text : String)
  | registry (text : String)
  | tag (text : String)
  | digest (text : String)
deriving DecidableEq

def Problem.message : Problem → String
  | repository text =>
    s!"repository '{text}' must consist of lowercase alphanumerics separated by '.', '_', '__', '-' or '/'"
  | registry text => s!"registry '{text}' is not a valid host[:port]"
  | tag text => s!"tag '{text}' is not valid"
  | digest text => s!"digest '{text}' is not valid"

inductive Error where
  | empty
  | invalid (raw : String) (problems : List Problem)
deriving DecidableEq

def Error.message : Error → String
  | empty => "Image name must not be empty."
  | invalid raw problems =>
    s!"Invalid image name '{raw}': " ++ "; ".intercalate (problems.map Problem.message)

def looksLikeHost (s : List Char) : Bool :=
  s.contains '.' || s.contains ':' || s == "localhost".toList

def split (raw : String) (givenTag : Option String) : Reference :=
  let s := raw.toList
  let (s, digest) := match splitFirst '@' s with
    | some (before, after) => (before, some (String.ofList after))
    | none => (s, none)
  let (s, tag) := match givenTag, splitLast ':' s with
    | some tag, _ => (s, some tag)
    | none, some (before, after) =>
      if after.contains '/' then (s, none) else (before, some (String.ofList after))
    | none, none => (s, none)
  let (registry, s) := match splitFirst '/' s with
    | some (first, rest) => if looksLikeHost first then (some (String.ofList first), rest) else (none, s)
    | none => (none, s)
  { raw, registry, repository := String.ofList s, tag, digest }

def optional (accepts : List Char → Bool) (problem : String → Problem) : Option String → List Problem
  | none => []
  | some text => if uptoLineFeed accepts text.toList then [] else [problem text]

def problems (r : Reference) : List Problem :=
  optional isRepository .repository (some r.repository) ++ optional isRegistry .registry r.registry ++
    optional isTag .tag r.tag ++ optional isDigest .digest r.digest

/-- Reads a reference; a given tag takes the place of one in the text. -/
def parse (raw : String) (givenTag : Option String := none) : Except Error Reference :=
  if raw = "" then .error .empty
  else
    let r := split raw givenTag
    match r.problems with
    | [] => .ok r
    | problems => .error (.invalid raw problems)

def user? (r : Reference) : Option String :=
  (splitFirst '/' r.repository.toList).map fun (user, _) => String.ofList user

def simpleName (r : Reference) : String :=
  match splitFirst '/' r.repository.toList with
  | some ([], _) | none => r.repository
  | some (_, name) => String.ofList name

def filled : Option String → Option String
  | some "" => none
  | text => text

/-- The first candidate that is present and not empty. -/
def findRegistry (candidates : List (Option String)) : Option String := candidates.findSome? filled

def hasRegistry (r : Reference) : Bool := (filled r.registry).isSome

/-- The repository behind its own registry, or behind the given one when it has none. -/
def nameWithoutTag (r : Reference) (registry : Option String := none) : String :=
  match findRegistry [r.registry, registry] with
  | some registry => registry ++ "/" ++ r.repository
  | none => r.repository

def fullName (r : Reference) (registry : Option String := none) : String :=
  let tag := match filled r.tag with
    | some tag => ":" ++ tag
    | none => ""
  let digest := match filled r.digest with
    | some digest => "@" ++ digest
    | none => ""
  r.nameWithoutTag registry ++ tag ++ digest

/-- The text that is pulled: a reference without tag and digest means `latest`. -/
def withLatest (r : Reference) : String :=
  match r.tag, r.digest with
  | none, none => r.nameWithoutTag ++ ":latest"
  | _, _ => r.raw

def described (r : Reference) : String := "ImageName(" ++ Text.quoted r.raw ++ ")"

end Reference

end ImageBuild
