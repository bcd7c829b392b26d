import ImageBuild.Text.Points

namespace ImageBuild.Json

open Text (Points)

inductive Value where
  | null
  | bool (b : Bool)
  | int (n : Int)
  | float (x : Float)
  | text (s : Points)
  | list (items : List Value)
  | map (members : List (Points × Value))
deriving Inhabited

namespace Value

/-- Writes a member: a name keeps its first position and takes its last value. -/
def insert (members : List (Points × Value)) (name : Points) (value : Value) : List (Points × Value) :=
  match members with
  | [] => [(name, value)]
  | (n, v) :: rest => if n = name then (n, value) :: rest else (n, v) :: insert rest name value

def ofMembers (members : List (Points × Value)) : Value :=
  map (members.foldl (fun done (name, value) => insert done name value) [])

def get? (members : List (Points × Value)) (name : Points) : Option Value := members.lookup name

end Value

end ImageBuild.Json
