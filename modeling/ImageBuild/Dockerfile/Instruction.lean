import ImageBuild.Text.Blank
import ImageBuild.Text.Lines
import ImageBuild.Text.Upper

/-!
# Instructions

The instructions of a Dockerfile. A backslash at the end of a line continues it on the next one;
comment lines and, outside of a continued instruction, blank lines are skipped.
-/

namespace ImageBuild.Dockerfile

open Text

structure Instruction where
  keyword : String
  arguments : String
deriving DecidableEq

def Instruction.ofLine (line : List Char) : Instruction :=
  let (keyword, arguments) := cutWord line
  ⟨upper (String.ofList keyword), String.ofList (trim arguments)⟩

def continued? (line : List Char) : Option (List Char) :=
  if line.getLast? = some '\\' then some line.dropLast else none

/-- The instructions of trimmed lines, the first of which follows what is pending. -/
def ofLines (pending : List Char) : List (List Char) → List Instruction
  | [] => if (trim pending).isEmpty then [] else [.ofLine pending]
  | line :: rest =>
    if line.head? = some '#' ∨ (pending.isEmpty ∧ line.isEmpty) then ofLines pending rest
    else
      match continued? line with
      | some part => ofLines (pending ++ part ++ [' ']) rest
      | none => .ofLine (pending ++ line) :: ofLines [] rest

def instructions (text : String) : List Instruction :=
  ofLines [] ((lines text.toList).map trim)

end ImageBuild.Dockerfile
