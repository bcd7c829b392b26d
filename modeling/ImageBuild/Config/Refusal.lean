import ImageBuild.Text.Quoted
import ImageBuild.Data.Display

namespace ImageBuild.Config

inductive Refusal where
  | cleanupMode (shown : String)
  | autoPullMode (text : String)
  /-- A ready-made archive beside settings that describe a build. -/
  | archiveBeside (fields : List String)
  | dockerfileBesideAssembly
  | duplicateNames (names : List String)
  | noDockerfile
  | noArchive
  | noImage (name path : String)
deriving DecidableEq

def oneOf (words : List String) : String :=
  "must be one of " ++ (Data.Value.list (words.map .text)).quoted ++ " (or true/false)."

def Refusal.message : Refusal → String
  | cleanupMode shown => s!"Invalid cleanup mode '{shown}', " ++ oneOf ["none", "try", "remove"]
  | autoPullMode text => s!"Invalid auto-pull mode '{text}', " ++ oneOf ["on", "once", "always", "off"]
  | archiveBeside fields =>
    "'dockerArchive' cannot be combined with " ++ ", ".intercalate (fields.map Text.quoted) ++ "."
  | dockerfileBesideAssembly => "'dockerFile' and 'assembly' are mutually exclusive."
  | duplicateNames names => "Duplicate image names found: " ++ ", ".intercalate names
  | noDockerfile => "No 'dockerFile' configured."
  | noArchive => "No 'dockerArchive' configured."
  | noImage name path => s!"No image named '{name}' in {path}"

end ImageBuild.Config
