import ImageBuild.Cache.PullCache
import ImageBuild.Config.Loaded
import ImageBuild.Daemon.Error
import ImageBuild.Dockerfile.BaseImage
import ImageBuild.Duration
import ImageBuild.Reference.Basic

namespace ImageBuild

inductive Fault where
  | config (problem : Config.Problem)
  | invalid (issues : List Config.Issue)
  | notATable
  | refused (reason : Config.Refusal)
  | reference (error : Reference.Error)
  | daemon (error : Daemon.Error)
  | baseImage (error : Dockerfile.Error)
  | archive (message : String)
  | system (message : String)
  | runtime (message : String)
  | cache (reason : Cache.Unreadable)
  | notUnicode (fault : Text.Utf8.Fault)
  | nullCharacter
  | missingMember (name : String)
  | endlessCopy
  | noWorkers
  | duration (problem : Duration.Problem)
deriving DecidableEq

namespace Fault

def ofChecked {α : Type} : Config.Checked α → Except Fault α
  | .valid value => .ok value
  | .invalid issues => .error (.invalid issues)
  | .stopped (.refused reason) => .error (.refused reason)
  | .stopped .notATable => .error .notATable

def message : Fault → String
  | config problem => problem.message
  | invalid issues => s!"{issues.length} validation errors"
  | notATable => "object has no attribute 'items'"
  | refused reason => reason.message
  | reference error => error.message
  | daemon error => error.message
  | baseImage error => error.message
  | archive message | system message | runtime message => message
  | cache (.corrupted reason) => reason.message
  | cache (.excess excess) => excess.message
  | notUnicode fault => fault.message
  | nullCharacter => "embedded null byte"
  | missingMember name => Text.quoted ("linkname " ++ Text.quoted name ++ " not found")
  | endlessCopy => "maximum recursion depth exceeded"
  | noWorkers => "max_workers must be greater than 0"
  | duration .notANumber => "cannot convert float NaN to integer"
  | duration .infinite => "cannot convert float infinity to integer"

end Fault

end ImageBuild
