import ImageBuild.Machine.Collaborators
import ImageBuild.Workflow.Build

namespace ImageBuild.Machine

open Data

def loadRunFile (path : Path) : Routine Config.Loaded :=
  .perform (.read path) fun content => do
    let (records, result) := Config.Loaded.ofContent path content
    Program.noteAll records
    Program.ofExcept .config result

def run (path : Path) (properties : Value) (nocache : Option String) (workers : Option Int) :
    Routine (Table (Option String)) := do
  let loaded ← loadRunFile path
  let context ← Program.ofExcept id (Fault.ofChecked (loaded.context properties))
  onMachine (Workflow.buildAll loaded.file.images context nocache workers)

end ImageBuild.Machine
