import ImageBuild.Log.Setup

namespace ImageBuild.Log

open Data

namespace Loggers

variable (loggers : Loggers) (name : String) (level : Nat)

theorem own_set_self : (loggers.set name level).own name = level := by
  unfold set own
  split
  · rfl
  · rw [Table.get?_put, if_pos rfl, Option.getD_some]

theorem rootLevel_set : (loggers.set name level).rootLevel = if isRoot name then level else loggers.rootLevel := by
  unfold set
  split <;> rfl

end Loggers

def assigned (loggers : Loggers) (entry : String × Value) : Loggers :=
  match levelOfName? entry.2.display with
  | some level => loggers.set (channelName entry.1) level
  | none => loggers

section

variable {loggers : Loggers} {entry : String × Value} {level : Nat}

theorem assigned_known (known : levelOfName? entry.2.display = some level) :
    assigned loggers entry = loggers.set (channelName entry.1) level := by
  rw [assigned, known]

theorem assigned_unknown (unknown : levelOfName? entry.2.display = none) : assigned loggers entry = loggers := by
  rw [assigned, unknown]

end

section

variable (environment : Environment) (logging : Logging)

theorem loggers_emit (entry : Entry) : (logging.emit environment entry).loggers = logging.loggers := by
  unfold Logging.emit
  split
  · rfl
  · split <;> rfl

theorem loggers_applyLevel (entry : String × Value) :
    (logging.applyLevel environment entry).loggers = assigned logging.loggers entry := by
  unfold Logging.applyLevel
  cases known : levelOfName? entry.2.display with
  | some level => rw [assigned_known known]
  | none => rw [assigned_unknown known, loggers_emit]

theorem loggers_applyEach (entries : List (String × Value)) :
    (entries.foldl (Logging.applyLevel environment) logging).loggers = entries.foldl assigned logging.loggers := by
  induction entries generalizing logging with
  | nil => rfl
  | cons entry rest ih => rw [List.foldl_cons, List.foldl_cons, ih, loggers_applyLevel]

end

end ImageBuild.Log
