import ImageBuild.Pull.Query
import ImageBuild.Workflow.Build

namespace ImageBuild.Workflow

open Data

/-- The names by which a script refers to calls. -/
def Call.name : Call → String
  | requiresPull .. => "requires_pull"
  | hasImage _ => "has_image"
  | resolveId _ => "resolve_id"
  | resolveLogin .. => "resolve_auth"
  | pull .. => "pull"
  | build .. => "build"
  | load .. => "load"
  | tag .. => "tag"
  | remove .. => "remove"
  | createArchive .. => "create_archive"
  | extract _ => "extract"

/-- A fault that a call ends with, a number of times or always. -/
structure Failing where
  fault : Fault
  times : Option Nat

structure Script where
  failing : Table Failing
  /-- The ids that lookups of a name tell one after the other; the last one stays. -/
  ids : Table (List (Option String))
  present : Option (List String)
  decision : Option Bool
  base : Option String
  archive : Path

namespace Script

def fault? (script : Script) (name : String) : Option Fault × Script :=
  match script.failing.get? name with
  | none => (none, script)
  | some ⟨_, some 0⟩ => (none, script)
  | some ⟨fault, some (times + 1)⟩ =>
    (some fault, { script with failing := script.failing.put name ⟨fault, some times⟩ })
  | some ⟨fault, none⟩ => (some fault, script)

def nextId (script : Script) (name : String) : Option String × Script :=
  match script.ids.get? name with
  | none | some [] => (none, script)
  | some [id] => (id, script)
  | some (id :: rest) => (id, { script with ids := script.ids.put name rest })

/-- The answer of a call that does not fail. -/
def reply (script : Script) : (call : Call) → Except Fault call.Answer × Script
  | .requiresPull _ image _ cached =>
    let wanted : Bool := script.decision.getD (!cached.contains image)
    (.ok wanted, script)
  | .hasImage name =>
    let found : Bool := (script.present.getD []).contains name
    (.ok found, script)
  | .resolveId name =>
    let (id, script) := script.nextId name
    (.ok id, script)
  | .resolveLogin image registry isPush auth => (.ok (Login.resolve auth image registry isPush).1, script)
  | .createArchive .. => (.ok script.archive, script)
  | .extract path =>
    match script.base with
    | some image => (.ok image, script)
    | none => (.error (.baseImage (.noFrom path.text)), script)
  | .pull .. | .build .. | .load .. | .tag .. | .remove .. => (.ok (), script)

def answers : Program.Answers surroundings Script := fun call script =>
  match script.fault? call.name with
  | (some fault, script) => (.error fault, script)
  | (none, script) => script.reply call

/-- With images that are present, the policy decides about pulls; the login service notes its choice. -/
def handle (present : Bool) (call : Call) : Build (Except Fault call.Answer) :=
  match call with
  | .requiresPull policy image alwaysAllowed cached => do
    let answer ← Program.attempt (I := surroundings) (.requiresPull policy image alwaysAllowed cached)
    match answer, present with
    | .ok _, true => (Pull.requiresPull policy image alwaysAllowed cached).outcome
    | answer, _ => return answer
  | .resolveLogin image registry isPush auth => do
    let answer ← Program.attempt (I := surroundings) (.resolveLogin image registry isPush auth)
    match answer with
    | .ok login =>
      Program.note (Login.resolve auth image registry isPush).2
      return .ok login
    | .error fault => return .error fault
  | call => Program.attempt (I := surroundings) call

end Script

end ImageBuild.Workflow
