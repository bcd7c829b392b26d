import ImageBuild.Yaml.Earliest
import ImageBuild.Yaml.Node
import ImageBuild.Yaml.Scalar

/-!
# Values of nodes

What a node means depends on where it stands: on its own it is a value, under a merge key its
entries go into the table around it, and where text is asked for, a table stands for its default.
-/

namespace ImageBuild.Yaml

open Data

abbrev Entry := Earliest Value × Earliest Value

/-- What a node gives to a table that merges it. -/
inductive Merged where
  | entries (found : Except Fault (List Entry))
  | list (items : List Merged)
  | nothing

structure Meaning where
  value : Earliest Value
  text : Except Fault String
  entries : Option (List Entry)
  merged : Merged

namespace Meaning

/-- The tables of a list, of which the first one counts most. -/
def mergedItems : List Merged → Except Fault (List Entry)
  | [] => .ok []
  | .entries found :: rest => do
    let first ← found
    let rest ← mergedItems rest
    return rest ++ first
  | _ :: _ => .error .malformed

def mergedEntries : Merged → Except Fault (List Entry)
  | .entries found => found
  | .list items => mergedItems items
  | .nothing => .error .malformed

def asKey (key : Earliest Value) : Earliest Value :=
  match key with
  | .value v => if v.isKey then .value v else .fault .malformed
  | .stopped stop => if stop.level = 0 then .stopped stop else .fault .malformed

def ofEntries (entries : List Entry) : Earliest (List (Value × Value)) :=
  .all (entries.map fun (key, value) => .both (asKey key) value)

def table (entries : Except Fault (List Entry)) : Earliest Value :=
  match entries with
  | .ok entries => (ofEntries entries).map Value.ofEntries
  | .error f => .fault f

def set (entries : Except Fault (List Entry)) : Earliest Value :=
  match entries with
  | .ok entries =>
    (ofEntries entries).map fun found => .set ((found.map (·.1)).foldl Value.insertMember [])
  | .error f => .fault f

def pair (item : Meaning) : Earliest Value :=
  match item.entries with
  | some [(key, value)] => (Earliest.both key value).map fun (k, v) => .pair k v
  | _ => .fault .malformed

def scalarValue (tag : Tag) (text : Except Fault String) : Earliest Value :=
  match text with
  | .error f => .fault f
  | .ok text => if tag = .moment then .fault .momentOfTable else .ofExcept (tag.value text)

def ofScalar (tag : Tag) (text : String) : Meaning where
  value := if tag.isCollection then (Earliest.fault .malformed).deeper else .ofExcept (tag.value text)
  text := .ok text
  entries := none
  merged := .nothing

def ofList (tag : Tag) (items : List Meaning) : Meaning where
  value :=
    match tag with
    | .list => (Earliest.all (items.map (·.value))).deeper.map .list
    | .pairs => (Earliest.all (items.map pair)).deeper.map .list
    | tag => if tag.isCollection then (Earliest.fault .malformed).deeper else .fault .malformed
  text := .error .malformed
  entries := none
  merged := .list (items.map (·.merged))

/-- An entry of a table, with what its key's tag makes of it. -/
structure Part where
  tag : Option Tag
  key : Meaning
  value : Meaning

/-- The entries that a table has of its own; a default is the text that it is written as. -/
def ownEntries (parts : List Part) : List Entry :=
  parts.filterMap fun part =>
    match part.tag with
    | some .merge => none
    | some .default => some ((Earliest.ofExcept part.key.text).map Value.text, part.value.value)
    | _ => some (part.key.value, part.value.value)

/-- The entries of a table, those of its merge keys first. -/
def allEntries (parts : List Part) : Except Fault (List Entry) := do
  let merges := parts.filter fun part => part.tag == some .merge
  let found ← merges.mapM fun part => mergedEntries part.value.merged
  return found.flatten ++ ownEntries parts

def ofTable (tag : Tag) (parts : List Part) : Meaning :=
  let entries := allEntries parts
  let text :=
    match parts.find? fun part => part.tag == some .default with
    | some part => part.value.text
    | none => .error .malformed
  { value :=
      match tag with
      | .table => (table entries).deeper
      | .set => (set entries).deeper
      | tag => if tag.isCollection then (Earliest.fault .malformed).deeper else scalarValue tag text
    text
    entries := some (parts.map fun part => (part.key.value, part.value.value))
    merged := .entries entries }

def enclosing (isTable : Bool) : Meaning where
  value := .value (.enclosing isTable)
  text := .error .malformed
  entries := none
  merged := if isTable then .entries (.ok []) else .nothing

end Meaning

def Node.tag? : Node → Option Tag
  | scalar tag _ | list tag _ | table tag _ => some tag
  | enclosing _ => none

mutual

def Node.meaning : Node → Meaning
  | .scalar tag text => .ofScalar tag text
  | .list tag items => .ofList tag (Node.meanings items)
  | .table tag entries => .ofTable tag (Node.parts entries)
  | .enclosing isTable => .enclosing isTable

def Node.meanings : List Node → List Meaning
  | [] => []
  | node :: rest => node.meaning :: Node.meanings rest

def Node.parts : List (Node × Node) → List Meaning.Part
  | [] => []
  | (key, value) :: rest => ⟨key.tag?, key.meaning, value.meaning⟩ :: Node.parts rest

end

def Node.value (node : Node) : Except Fault Value := node.meaning.value.toExcept

end ImageBuild.Yaml
