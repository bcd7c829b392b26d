import ImageBuild.Config.Refusal
import ImageBuild.Text.Blank

namespace ImageBuild.Config

open Data

inductive Cleanup where
  | keep
  /-- Remove it, and only warn when that fails. -/
  | attempt
  | remove
deriving DecidableEq

namespace Cleanup

def word : Cleanup → String
  | keep => "none"
  | attempt => "try"
  | remove => "remove"

def isRemovalRequested : Cleanup → Bool
  | keep => false
  | attempt | remove => true

def ofWord? : String → Option Cleanup
  | "true" | "try" => some attempt
  | "false" | "none" => some keep
  | "remove" => some remove
  | _ => none

def parse : Value → Except Refusal Cleanup
  | .null => .ok attempt
  | .bool wanted => .ok (if wanted then attempt else keep)
  | value =>
    match ofWord? (Text.plainWord value.display) with
    | some mode => .ok mode
    | none => .error (.cleanupMode value.display)

end Cleanup

end ImageBuild.Config
