import ImageBuild.Data.Moment
import ImageBuild.Decimal.Binary64

namespace ImageBuild.Data

inductive Value where
  | null
  | bool (b : Bool)
  | int (n : Int)
  | float (x : Float)
  | text (s : String)
  | bytes (b : List UInt8)
  | date (d : Date)
  | moment (m : Moment)
  | list (items : List Value)
  | pair (first second : Value)
  | set (items : List Value)
  /-- Keys in the order in which they first appeared. -/
  | map (entries : List (Value × Value))
  /-- A list or a map inside itself. -/
  | enclosing (isMap : Bool)
deriving Inhabited

namespace Value

/-- Null, false, zero, and whatever holds nothing. -/
def isBlank : Value → Bool
  | null => true
  | bool b => !b
  | int n => n == 0
  | float x => x == 0
  | text s => s.isEmpty
  | bytes b => b.isEmpty
  | list items => items.isEmpty
  | set items => items.isEmpty
  | map entries => entries.isEmpty
  | date _ | moment _ | pair _ _ | enclosing _ => false

/-- The number that a value counts as when keys are compared. -/
def number? : Value → Option (Int ⊕ Float)
  | bool b => some (.inl (if b then 1 else 0))
  | int n => some (.inl n)
  | float x =>
    match Decimal.toInt? x with
    | some n => some (.inl n)
    | none => some (.inr x)
  | _ => none

def sameNumber : Int ⊕ Float → Int ⊕ Float → Bool
  | .inl a, .inl b => a == b
  | .inr a, .inr b => a == b || (a.isNaN && b.isNaN)
  | _, _ => false

/-- Whether two keys denote the same entry: numbers by value, whatever their kind. -/
def sameKey : Value → Value → Bool
  | null, null => true
  | text a, text b => a == b
  | bytes a, bytes b => a == b
  | date a, date b => a == b
  | moment a, moment b => a == b
  | pair a b, pair c d => sameKey a c && sameKey b d
  | a, b =>
    match a.number?, b.number? with
    | some m, some n => sameNumber m n
    | _, _ => false

def isKey : Value → Bool
  | list _ | set _ | map _ | enclosing _ => false
  | pair a b => isKey a && isKey b
  | _ => true

/-- Writes an entry: a key keeps its first position and takes its last value. -/
def insert (entries : List (Value × Value)) (key value : Value) : List (Value × Value) :=
  match entries with
  | [] => [(key, value)]
  | (k, v) :: rest => if sameKey k key then (k, value) :: rest else (k, v) :: insert rest key value

def insertMember (items : List Value) (item : Value) : List Value :=
  if items.any fun present => sameKey present item then items else items ++ [item]

def ofEntries (entries : List (Value × Value)) : Value :=
  map (entries.foldl (fun done (k, v) => insert done k v) [])

def get? (entries : List (Value × Value)) (name : String) : Option Value :=
  (entries.find? fun (k, _) => sameKey k (text name)).map (·.2)

end Value

end ImageBuild.Data
