import ImageBuild.Data.Value
import ImageBuild.Decimal.Notation
import ImageBuild.Text.Quoted

/-!
# Values as text

`Value.quoted` is the form of a value inside a collection. `Value.display` is the form of a value
on its own: text, dates and moments stand there as they are. Numbers that are too long have no form.
-/

namespace ImageBuild.Data

namespace Value

mutual

def quoted : Value → String
  | null => "None"
  | bool b => if b then "True" else "False"
  | int n => toString n
  | float x => Decimal.floatText x
  | text s => Text.quoted s
  | bytes b => Text.quotedBytes b
  | date d => d.described
  | moment m => m.described
  | list items => "[" ++ ", ".intercalate (quotedItems items) ++ "]"
  | pair a b => "(" ++ quoted a ++ ", " ++ quoted b ++ ")"
  | set [] => "set()"
  | set items => "\x7b" ++ ", ".intercalate (quotedItems items) ++ "\x7d"
  | enclosing isMap => if isMap then "\x7b...\x7d" else "[...]"
  | map entries => "\x7b" ++ ", ".intercalate (quotedEntries entries) ++ "\x7d"

def quotedItems : List Value → List String
  | [] => []
  | item :: rest => quoted item :: quotedItems rest

def quotedEntries : List (Value × Value) → List String
  | [] => []
  | (k, v) :: rest => (quoted k ++ ": " ++ quoted v) :: quotedEntries rest

end

def display : Value → String
  | text s => s
  | date d => d.text
  | moment m => m.text
  | v => v.quoted

def mostDigits : Nat := 4300

mutual

def isWritable : Value → Bool
  | int n => n.natAbs < Nat.pow 10 mostDigits
  | list items | set items => areWritable items
  | pair a b => isWritable a && isWritable b
  | map entries => haveWritable entries
  | null | bool _ | float _ | text _ | bytes _ | date _ | moment _ | enclosing _ => true

def areWritable : List Value → Bool
  | [] => true
  | item :: rest => isWritable item && areWritable rest

def haveWritable : List (Value × Value) → Bool
  | [] => true
  | (k, v) :: rest => isWritable k && isWritable v && haveWritable rest

end

end Value

def quotedTable (entries : List (String × String)) : String :=
  (Value.map (entries.map fun (k, v) => (.text k, .text v))).quoted

end ImageBuild.Data
