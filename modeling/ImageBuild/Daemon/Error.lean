import ImageBuild.Files.Error

namespace ImageBuild.Daemon

/-- How the client of the daemon fails. -/
inductive ClientError where
  | failed (text : String)
  | noSuchImage (text : String)
deriving DecidableEq

def ClientError.text : ClientError → String
  | failed text => text
  | noSuchImage text => text

inductive UnpackProblem where
  | unreadable
  | file (problem : Files.Problem)
  | outside
  | absoluteLink
  | linkOutside
  | specialFile
deriving DecidableEq

inductive Cause where
  | client (error : ClientError)
  | unpack (problem : UnpackProblem)
  | runtime (text : String)
deriving DecidableEq

def UnpackProblem.text : UnpackProblem → String
  | unreadable => "file could not be opened successfully"
  | file problem => problem.text
  | outside => "outside the destination"
  | absoluteLink => "absolute link"
  | linkOutside => "link outside the destination"
  | specialFile => "special file"

def Cause.text : Cause → String
  | client error => error.text
  | unpack problem => problem.text
  | runtime text => text

structure Error where
  message : String
  cause : Option Cause
deriving DecidableEq

inductive Operation where
  | login (server : Option String)
  | pull (name : String)
  | unpack (archive : String)
  | build (image : String)
  | load (archive : String)
  | tag (source target : String)
  | remove (id : String)
  | inspect (name : String)
deriving DecidableEq

def Operation.failure : Operation → String
  | login server => "Unable to log in to " ++ server.getD "the default registry"
  | pull name => s!"Unable to pull '{name}'"
  | unpack archive => s!"Unable to unpack build context {archive}"
  | build image => s!"Unable to build image '{image}'"
  | load archive => s!"Unable to load '{archive}'"
  | tag source target => s!"Unable to tag '{source}' as '{target}'"
  | remove id => s!"Unable to remove image '{id}'"
  | inspect name => s!"Unable to inspect image '{name}'"

def Operation.error (operation : Operation) (cause : Cause) : Error := ⟨operation.failure, some cause⟩

end ImageBuild.Daemon
