import ImageBuild.Workflow.Call

namespace ImageBuild.Workflow

open Config

inductive Removal where
  | skipped (id : String)
  | removed (id : String)
  | warned (id : String) (error : Daemon.Error)
  | failed (id : String) (error : Daemon.Error)
deriving DecidableEq

namespace Removal

def status : Removal → String
  | skipped _ => "skipped"
  | removed _ => "removed"
  | warned .. => "warned"
  | failed .. => "failed"

def id : Removal → String
  | skipped id | removed id | warned id _ | failed id _ => id

def cause? : Removal → Option Daemon.Error
  | skipped _ | removed _ => none
  | warned _ error | failed _ error => some error

def fatal? : Removal → Option Daemon.Error
  | failed _ error => some error
  | _ => none

end Removal

def warning (description : String) (error : Daemon.Error) : Log.Record :=
  let cause := match error.cause with
    | some cause => s!" [{cause.text}]"
    | none => ""
  ⟨.warning, .executor, s!"{description}: {error.message} (old image){cause}"⟩

/-- Removes an image that nothing names any more, as the mode says. -/
def attemptRemoval (mode : Cleanup) (id description : String) : Build Removal := do
  if !mode.isRemovalRequested then return .skipped id
  match ← Program.attempt (I := surroundings) (.remove id true) with
  | .ok () =>
    Program.info .executor s!"{description}: Removed old image {id}"
    return .removed id
  | .error (.daemon error) =>
    if mode = .attempt then
      Program.note (warning description error)
      return .warned id error
    else return .failed id error
  | .error fault => .failed fault

end ImageBuild.Workflow
