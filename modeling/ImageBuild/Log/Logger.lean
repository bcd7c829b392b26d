import ImageBuild.Data.Table
import ImageBuild.Text.Upper

/-!
# Loggers

Loggers are named by dotted paths. One that has no level of its own takes the level of the
nearest logger above it that has one, and in the end that of the root logger.
-/

namespace ImageBuild.Log

open Data

structure Loggers where
  rootLevel : Nat
  levels : Table Nat

namespace Loggers

def isRoot (name : String) : Bool := name == "" || name == "root"

/-- The level that a logger itself has; zero means none. -/
def own (loggers : Loggers) (name : String) : Nat :=
  if isRoot name then loggers.rootLevel else (loggers.levels.get? name).getD 0

def set (loggers : Loggers) (name : String) (level : Nat) : Loggers :=
  if isRoot name then { loggers with rootLevel := level }
  else { loggers with levels := loggers.levels.put name level }

def lastPoint? (name : List Char) : Nat → Option Nat
  | 0 => none
  | limit + 1 => if name[limit]? = some '.' then some limit else lastPoint? name limit

/-- The names above one that was cut at `limit`, the nearest first. A point directly after another one does not count. -/
def above (name : List Char) (limit : Nat) : Nat → List String
  | 0 => []
  | steps + 1 =>
    match lastPoint? name limit with
    | none | some 0 => []
    | some cut => String.ofList (name.take cut) :: above name (cut - 1) steps

def parents (name : String) : List String := above name.toList name.length name.length

def effective (loggers : Loggers) (name : String) : Nat :=
  if isRoot name then loggers.rootLevel
  else
    match ((name :: parents name).map loggers.own).find? (· != 0) with
    | some level => level
    | none => loggers.rootLevel

/-- Whether a message reaches the handlers; level zero never does. -/
def isEnabled (loggers : Loggers) (name : String) (level : Nat) : Bool :=
  0 < level && loggers.effective name ≤ level

end Loggers

def levelNames : List (String × Nat) :=
  [("CRITICAL", 50), ("FATAL", 50), ("ERROR", 40), ("WARN", 30), ("WARNING", 30), ("INFO", 20),
   ("DEBUG", 10), ("NOTSET", 0)]

def levelOfName? (name : String) : Option Nat := levelNames.lookup (Text.upper name)

def levelName (level : Nat) : String :=
  match level with
  | 50 => "CRITICAL"
  | 40 => "ERROR"
  | 30 => "WARNING"
  | 20 => "INFO"
  | 10 => "DEBUG"
  | 0 => "NOTSET"
  | n => s!"Level {n}"

end ImageBuild.Log
