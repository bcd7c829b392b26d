import ImageBuild.Data.Table
import ImageBuild.Text.Blank
import ImageBuild.Text.Split
import ImageBuild.Text.Upper

namespace ImageBuild.Log

open Data Text

def pair? (piece : List Char) : Option (String × String) :=
  (splitFirst '=' (trim piece)).map fun (name, level) =>
    (String.ofList (trim name), upper (String.ofList (trim level)))

/-- Of pairs with the same name the last one counts. -/
def parseLevels (text : String) : Table String :=
  Table.ofList ((splitAll ',' text.toList).filterMap pair?)

def aliases : List (String × String) := [
  ("pull", "dockbuilder.builder.pull"),
  ("apl", "dockbuilder.builder.pull"),
  ("exec", "dockbuilder.builder.executor"),
  ("bld", "dockbuilder.builder.executor"),
  ("wf", "dockbuilder.builder.workflow"),
  ("flow", "dockbuilder.builder.workflow"),
  ("args", "dockbuilder.builder.args"),
  ("cache", "dockbuilder.cache"),
  ("cc", "dockbuilder.cache"),
  ("conf", "dockbuilder.config"),
  ("access", "dockbuilder.access"),
  ("daemon", "dockbuilder.access.daemon"),
  ("query", "dockbuilder.access.query"),
  ("archive", "dockbuilder.access.archive")]

def families : List String :=
  ["builder", "access", "cache", "datacls", "images", "utils", "exceptions", "config", "factories"]

def root : String := "dockbuilder."

def stripWildcard (name : List Char) : List Char :=
  if (['.', '*']).isSuffixOf name then name.take (name.length - 2) else name

/-- The channel that a name stands for: an alias, a family's name, or a channel's own name. -/
def channelName (name : String) : String :=
  match aliases.lookup name with
  | some channel => channel
  | none =>
    let base := stripWildcard name.toList
    let first := (splitAll '.' base).headD []
    if !root.toList.isPrefixOf base && families.contains (String.ofList first) then
      root ++ String.ofList base
    else String.ofList base

end ImageBuild.Log
