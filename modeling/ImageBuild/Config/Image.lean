import ImageBuild.Config.Build

namespace ImageBuild.Config

open Data

structure Image where
  name : String
  aliasName : Option String
  build : Build
deriving DecidableEq

namespace Image

def fields (at_ : List Step) (entries : List (Value × Value)) : Checked Image :=
  Image.mk
    <$> required text at_ entries ["name"]
    <*> withDefault (optional text) none at_ entries ["alias"]
    <*> withDefault Build.read .default at_ entries ["build"]

def read : Reader Image := record "ImageConfiguration" fields

def description (image : Image) : String :=
  match image.aliasName.filter (· ≠ "") with
  | some other => s!"[{image.name}] \"{other}\""
  | none => s!"[{image.name}]"

end Image

end ImageBuild.Config
