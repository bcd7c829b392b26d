import ImageBuild.Data.Display
import ImageBuild.Files.Tree
import ImageBuild.Log.Levels
import ImageBuild.Log.Line
import ImageBuild.Log.Record

namespace ImageBuild.Log

open Data

structure Environment where
  isTerminal : Bool
  /-- Set to anything but the empty text, it asks for no colours. -/
  noColor : Option String
  /-- A level list that counts when no levels are given. -/
  levels : Option String
  time : String

structure Options where
  debug : Bool
  levels : Option (Table Value)
  file : Option String

inductive Console where
  | plain
  | coloured
deriving DecidableEq

structure Handlers where
  console : Console
  file : Option Path

structure Logging where
  loggers : Loggers
  handlers : Option Handlers
  tree : Files.Node
  screen : String

namespace Logging

def append (path : Path) (line : String) (tree : Files.Node) : Files.Node :=
  match Files.read tree path with
  | .ok content => ((Files.write path (content ++ (line ++ "\n").toUTF8)).run.run tree).2
  | .error _ => tree

/-- Colours that were chosen are left out again while they are not wanted. -/
def line (console : Console) (environment : Environment) (entry : Entry) : String :=
  if console = .coloured ∧ environment.noColor.isNone then colouredLine entry else plainLine entry

def emit (environment : Environment) (logging : Logging) (entry : Entry) : Logging :=
  match logging.handlers with
  | none => logging
  | some handlers =>
    if logging.loggers.isEnabled entry.logger entry.level then
      { logging with
        screen := logging.screen ++ line handlers.console environment entry ++ "\n"
        tree := match handlers.file with
          | some path => append path (fileLine environment.time entry) logging.tree
          | none => logging.tree }
    else logging

def unknownLevel (name shown : String) : Entry :=
  ⟨Channel.name .setup, 10, s!"Ignoring unknown log level '{shown}' for '{name}'"⟩

def applyLevel (environment : Environment) (logging : Logging) (entry : String × Value) : Logging :=
  match levelOfName? entry.2.display with
  | some level => { logging with loggers := logging.loggers.set (channelName entry.1) level }
  | none => logging.emit environment (unknownLevel entry.1 entry.2.display)

def givenLevels (environment : Environment) (options : Options) : List (String × Value) :=
  match options.levels with
  | some levels => levels.entries
  | none => (parseLevels (environment.levels.getD "")).entries.map fun (name, level) => (name, .text level)

def applyLevels (environment : Environment) (options : Options) (logging : Logging) : Logging :=
  (givenLevels environment options).foldl (applyLevel environment) logging

def openFile (environment : Environment) (logging : Logging) (file : String) : Logging :=
  let given := Path.ofText file
  let path : Path := ⟨given.root, Path.normalParts given.parts⟩
  let (result, tree) := (Files.write path .empty).run.run logging.tree
  match result with
  | .ok () =>
    let handlers := logging.handlers.map fun handlers => { handlers with file := some path }
    emit environment { logging with tree, handlers } ⟨"root", 20, "Logging to file: " ++ file⟩
  | .error error =>
    logging.emit environment
      ⟨"root", 40, s!"Failed to create log file handler for '{file}': {error.message}"⟩

def chooseConsole (environment : Environment) : Console :=
  if environment.isTerminal && (environment.noColor.getD "").isEmpty then .coloured else .plain

/-- The first set-up decides the handlers, later ones only change levels. -/
def configure (environment : Environment) (options : Options) (logging : Logging) : Logging :=
  let logging := { logging with loggers := { logging.loggers with rootLevel := if options.debug then 10 else 20 } }
  let logging := match logging.handlers with
    | some _ => logging
    | none =>
      let logging := { logging with handlers := some ⟨chooseConsole environment, none⟩ }
      match options.file.filter (· ≠ "") with
      | some file => openFile environment logging file
      | none => logging
  applyLevels environment options logging

end Logging

end ImageBuild.Log
