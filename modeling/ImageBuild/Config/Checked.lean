import ImageBuild.Config.Issue
import ImageBuild.Config.Refusal

namespace ImageBuild.Config

inductive Stop where
  | refused (reason : Refusal)
  | notATable
deriving DecidableEq

/-- Issues of several fields are collected; a stop ends the reading at once and hides the issues. -/
inductive Checked (α : Type) where
  | valid (value : α)
  | invalid (issues : List Issue)
  | stopped (stop : Stop)
deriving DecidableEq

namespace Checked

variable {α β : Type}

def map (f : α → β) : Checked α → Checked β
  | valid a => valid (f a)
  | invalid issues => invalid issues
  | stopped stop => stopped stop

/-- Both results are looked at, so that the issues of both are reported. -/
def apply (f : Checked (α → β)) (a : Checked α) : Checked β :=
  match f, a with
  | stopped stop, _ => stopped stop
  | _, stopped stop => stopped stop
  | valid f, valid a => valid (f a)
  | valid _, invalid issues => invalid issues
  | invalid issues, valid _ => invalid issues
  | invalid issues, invalid more => invalid (issues ++ more)

instance : Applicative Checked where
  pure := valid
  seq f a := apply f (a ())

def require (check : α → Option Refusal) : Checked α → Checked α
  | valid a =>
    match check a with
    | none => valid a
    | some reason => stopped (.refused reason)
  | other => other

def sequence : List (Checked α) → Checked (List α)
  | [] => valid []
  | first :: rest => List.cons <$> first <*> sequence rest

end Checked

def issue {α : Type} (location : List Step) (kind : IssueKind) : Checked α :=
  .invalid [⟨location, kind⟩]

end ImageBuild.Config
