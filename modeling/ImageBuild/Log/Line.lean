import ImageBuild.Log.Logger

namespace ImageBuild.Log

structure Entry where
  logger : String
  level : Nat
  message : String

def Entry.loggerName (entry : Entry) : String :=
  if Loggers.isRoot entry.logger then "root" else entry.logger

def Entry.tag (entry : Entry) : String :=
  "[" ++ String.ofList ((levelName entry.level).toList.take 4) ++ "]"

def plainLine (entry : Entry) : String :=
  entry.tag ++ " " ++ entry.loggerName ++ ": " ++ entry.message

def fileLine (time : String) (entry : Entry) : String := time ++ " " ++ plainLine entry

def reset : String := "\x1b[0m"
def cyan : String := "\x1b[36m"

/-- The colours of a level; unnamed levels have none. -/
def colour (level : Nat) : String :=
  match level with
  | 10 => cyan
  | 20 => "\x1b[32m"
  | 30 => "\x1b[33m"
  | 40 => "\x1b[31m"
  | 50 => "\x1b[31m\x1b[47m"
  | _ => ""

def endsWith (text suffix : String) : Bool := suffix.toList.isSuffixOf text.toList

/-- A coloured line, whose colours end with it. -/
def colouredLine (entry : Entry) : String :=
  let line := colour entry.level ++ entry.tag ++ reset ++ " " ++ cyan ++ entry.loggerName ++ reset ++
    ": " ++ entry.message
  if endsWith line reset then line else line ++ reset

end ImageBuild.Log
