import ImageBuild.Archive.Pack
import ImageBuild.Archive.Unpack
import ImageBuild.Daemon.Client
import ImageBuild.Program

namespace ImageBuild.Machine

inductive Call where
  | client (command : Daemon.Command)
  | pack (image : String) (build : Config.Build) (context : Context)
  | unpack (archive : Path)
  | extract (dockerfile : Path)
  | read (file : Path)

def Call.Answer : Call → Type
  | client command => command.Answer
  | pack .. => Path
  | unpack _ => Archive.Unpacked
  | extract _ => String
  | read _ => ByteArray

def Call.Failure : Call → Type
  | client _ => Daemon.ClientError
  | pack .. => Archive.Error
  | unpack _ => Archive.UnpackFailure
  | extract _ => Dockerfile.Failure
  | read _ => Files.Error

abbrev interface : Interface := ⟨Call, Call.Answer, Call.Failure⟩

abbrev Routine := Program interface

end ImageBuild.Machine
