import ImageBuild.Yaml.Fault

namespace ImageBuild.Yaml

inductive Directive where
  | version (major : Nat)
  | handle (name meaning : String)
  | other

inductive Token where
  | directive (d : Directive)
  | documentStart
  | documentEnd
  | blockList
  | blockTable
  | blockEnd
  | listOpen
  | listClose
  | tableOpen
  | tableClose
  | item
  | comma
  | key
  | value
  | aliasOf (name : String)
  | anchor (name : String)
  | tag (handle : Option String) (suffix : String)
  | scalar (isPlain : Bool) (text : String)
  | finish
  | broken (fault : Fault)

end ImageBuild.Yaml
