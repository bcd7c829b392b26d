import ImageBuild.Text.Quoted

namespace ImageBuild.Files

inductive Problem where
  | notFound
  | alreadyExists
  | notDirectory
  | isDirectory
  | nameTooLong
  | notPermitted
  | tooManyLinks
deriving DecidableEq

def Problem.number : Problem → Nat
  | notFound => 2
  | alreadyExists => 17
  | notDirectory => 20
  | isDirectory => 21
  | nameTooLong => 36
  | notPermitted => 1
  | tooManyLinks => 40

def Problem.text : Problem → String
  | notFound => "No such file or directory"
  | alreadyExists => "File exists"
  | notDirectory => "Not a directory"
  | isDirectory => "Is a directory"
  | nameTooLong => "File name too long"
  | notPermitted => "Operation not permitted"
  | tooManyLinks => "Too many levels of symbolic links"

inductive Error where
  | system (problem : Problem) (path : String)
  | nullCharacter
deriving DecidableEq

def Error.message : Error → String
  | system problem path => s!"[Errno {problem.number}] {problem.text}: " ++ Text.quoted path
  | nullCharacter => "embedded null byte"

end ImageBuild.Files
