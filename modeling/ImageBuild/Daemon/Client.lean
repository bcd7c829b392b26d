import ImageBuild.Daemon.Error
import ImageBuild.Data.Table
import ImageBuild.Data.Value
import ImageBuild.Path

namespace ImageBuild.Daemon

open Data

structure Request where
  tags : List String
  args : Table String
  useCache : Bool
  /-- The Dockerfile, looked up in the context unless its path is absolute. -/
  dockerfile : Option String
  pull : Option Bool
  /-- Settings that are handed on as they are. -/
  passed : Table Value
  files : List String

inductive Command where
  | login (server : Option String) (username password : String)
  | pull (name : String)
  | build (request : Request)
  | load (archive : Path)
  | tag (source target : String)
  | remove (id : String) (force : Bool)
  | inspect (name : String)

def Command.Answer : Command → Type
  | load _ => List String
  | inspect _ => String
  | login .. | pull _ | build _ | tag .. | remove .. => Unit

def Command.name : Command → String
  | login .. => "login"
  | pull _ => "pull"
  | build _ => "build"
  | load _ => "load"
  | tag .. => "tag"
  | remove .. => "remove"
  | inspect _ => "inspect"

end ImageBuild.Daemon
