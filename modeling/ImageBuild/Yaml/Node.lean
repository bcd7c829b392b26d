import ImageBuild.Yaml.Tag

namespace ImageBuild.Yaml

inductive Node where
  | scalar (tag : Tag) (text : String)
  | list (tag : Tag) (items : List Node)
  | table (tag : Tag) (entries : List (Node × Node))
  /-- A collection inside itself. -/
  | enclosing (isTable : Bool)
deriving Inhabited

def Node.absent : Node := .scalar .null ""

end ImageBuild.Yaml
