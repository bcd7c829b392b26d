namespace ImageBuild

/-- The readings of a clock, in seconds: each is taken once, the last one again and again. -/
inductive Clock where
  | stopped (reading : Float)
  | running (reading : Float) (next : Clock)

namespace Clock

def ofList : List Float → Clock
  | [] => stopped 0
  | [reading] => stopped reading
  | reading :: rest => running reading (ofList rest)

def millis : Clock → Float × Clock
  | stopped reading => (reading * 1000, stopped reading)
  | running reading next => (reading * 1000, next)

end Clock

end ImageBuild
