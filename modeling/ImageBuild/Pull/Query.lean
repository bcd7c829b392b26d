import ImageBuild.Pull.Policy
import ImageBuild.Workflow.Call

namespace ImageBuild.Pull

open Workflow

variable {I : Interface}

def noteSkip (policy : Policy) (image : String) (alwaysAllowed : Bool) : Program I Unit :=
  if policy = .once ∧ alwaysAllowed then
    Program.debug .query s!"[Query] '{image}' already pulled in this run"
  else pure ()

def decide (hasImage : String → Program I Bool) (policy : Option String) (image : String)
    (alwaysAllowed : Bool) (cached : Cache.PullCache) : Program I Bool := do
  let policy ← Program.ofExcept .refused (Policy.parse policy)
  match policy.verdict alwaysAllowed (cached.contains image) with
  | .pull => return true
  | .skip =>
    noteSkip policy image alwaysAllowed
    return false
  | .pullIfAbsent => return !(← hasImage image)

def requiresPull : (policy : Option String) → (image : String) → (alwaysAllowed : Bool) →
    (cached : Cache.PullCache) → Build Bool :=
  decide fun name => ask (.hasImage name)

end ImageBuild.Pull
