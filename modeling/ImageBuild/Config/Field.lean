import ImageBuild.Config.Checked
import ImageBuild.Data.Table
import ImageBuild.Data.Display

namespace ImageBuild.Config

open Data

abbrev Reader (α : Type) := List Step → Value → Checked α

def textOfBytes? (bytes : List UInt8) : Option String :=
  String.fromUTF8? (ByteArray.mk bytes.toArray)

def text : Reader String := fun at_ value =>
  match value with
  | .text s => .valid s
  | .bytes b =>
    match textOfBytes? b with
    | some s => .valid s
    | none => issue at_ .notUnicode
  | _ => issue at_ .notText

def optional {α : Type} (read : Reader α) : Reader (Option α) := fun at_ value =>
  match value with
  | .null => .valid none
  | value => some <$> read at_ value

def flagOfWord? (word : String) : Option Bool :=
  if word ∈ ["0", "off", "f", "false", "n", "no"] then some false
  else if word ∈ ["1", "on", "t", "true", "y", "yes"] then some true
  else none

def flagOfInt? (n : Int) : Option Bool :=
  if n = 0 then some false else if n = 1 then some true else none

def isSmall (n : Int) : Bool := -0x8000000000000000 ≤ n ∧ n < 0x8000000000000000

def flag : Reader Bool := fun at_ value =>
  let known (found : Option Bool) : Checked Bool :=
    match found with
    | some b => .valid b
    | none => issue at_ .unknownFlag
  let number (n : Int) : Checked Bool := if isSmall n then known (flagOfInt? n) else issue at_ .notFlag
  let word (s : String) : Checked Bool := known (flagOfWord? (String.ofList (s.toList.map Char.toLower)))
  match value with
  | .bool b => .valid b
  | .int n => number n
  | .text s => word s
  | .bytes b =>
    match textOfBytes? b with
    | some s => word s
    | none => issue at_ .unknownFlag
  | .float x =>
    match Decimal.toInt? x with
    | some n => number n
    | none => issue at_ .notFlag
  | _ => issue at_ .notFlag

def stepOfKey : Value → Step
  | .text s => .key s
  | .bool b => .index (if b then 1 else 0)
  | .int n => if isSmall n then .index n else .key (toString n)
  | key => .key key.quoted

def entry {α : Type} (read : Reader α) (at_ : List Step) (pair : Value × Value) : Checked (String × α) :=
  let place := at_ ++ [stepOfKey pair.1]
  Prod.mk <$> text (place ++ [.key "[key]"]) pair.1 <*> read place pair.2

def table {α : Type} (read : Reader α) : Reader (Table α) := fun at_ value =>
  match value with
  | .map entries => Table.ofList <$> Checked.sequence (entries.map (entry read at_))
  | _ => issue at_ .notTable

def indexed {α : Type} (read : Reader α) (at_ : List Step) : Nat → List Value → List (Checked α)
  | _, [] => []
  | n, item :: rest => read (at_ ++ [.index n]) item :: indexed read at_ (n + 1) rest

def list {α : Type} (read : Reader α) : Reader (List α) := fun at_ value =>
  match value with
  | .list items | .set items => Checked.sequence (indexed read at_ 0 items)
  | .pair a b => Checked.sequence (indexed read at_ 0 [a, b])
  | _ => issue at_ .notList

def find? (entries : List (Value × Value)) : List String → Option (String × Value)
  | [] => none
  | name :: rest =>
    match Value.get? entries name with
    | some value => some (name, value)
    | none => find? entries rest

def required {α : Type} (read : Reader α) (at_ : List Step) (entries : List (Value × Value))
    (names : List String) : Checked α :=
  match find? entries names with
  | some (name, value) => read (at_ ++ [.key name]) value
  | none => issue (at_ ++ (names.head?.map Step.key).toList) .missing

def withDefault {α : Type} (read : Reader α) (default : α) (at_ : List Step)
    (entries : List (Value × Value)) (names : List String) : Checked α :=
  match find? entries names with
  | some (name, value) => read (at_ ++ [.key name]) value
  | none => .valid default

def record {α : Type} (model : String) (fields : List Step → List (Value × Value) → Checked α) :
    Reader α := fun at_ value =>
  match value with
  | .map entries => fields at_ entries
  | _ => issue at_ (.notRecord model)

/-- Null is the empty text, and truth values are written in lower case. -/
def settingText : Value → String
  | .null => ""
  | .bool b => if b then "true" else "false"
  | value => value.display

/-- A table of settings, whose keys and values are written as text. A blank value is an empty table. -/
def settings : Reader (Table String) := fun at_ value =>
  match value with
  | .map entries =>
    if value.isWritable then .valid (Table.ofList (entries.map fun (k, v) => (k.display, settingText v)))
    else issue at_ .numberTooLong
  | value => if value.isBlank then .valid .empty else .stopped .notATable

end ImageBuild.Config
