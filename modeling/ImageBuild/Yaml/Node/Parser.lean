import ImageBuild.Yaml.Node
import ImageBuild.Yaml.Token

/-!
# From tokens to nodes

Every parser takes tokens off the front. An anchor names a node for the aliases behind it; while a
collection is being read, its anchor stands for the collection around the alias.
-/

namespace ImageBuild.Yaml

structure Anchor where
  name : String
  /-- What aliases stand for: the node, or before it is complete the collection around them. -/
  node : Node

structure Parsing where
  tokens : List Token
  handles : List (String × String)
  anchors : List Anchor

abbrev Parser (α : Type) := StateT Parsing (Except Fault) α

namespace Parser

def malformed {α : Type} : Parser α := throw .malformed

def front : Parser Token := do
  match (← get).tokens with
  | [] => return .finish
  | .broken fault :: _ => throw fault
  | token :: _ => return token

def skip : Parser Unit := modify fun s => { s with tokens := s.tokens.tail }

def take? (test : Token → Bool) : Parser Bool := do
  if test (← front) then
    skip
    return true
  else return false

/-- Parts until there is no further one; every part takes a token. -/
def parts {α : Type} (part : Parser (Option α)) : Nat → Parser (List α)
  | 0 => malformed
  | fuel + 1 => do
    match ← part with
    | none => return []
    | some first => return first :: (← parts part fuel)

def many {α : Type} (part : Parser (Option α)) : Parser (List α) := do
  parts part ((← get).tokens.length + 1)

def isKey : Token → Bool
  | .key => true
  | _ => false

def isValue : Token → Bool
  | .value => true
  | _ => false

def isItem : Token → Bool
  | .item => true
  | _ => false

def isComma : Token → Bool
  | .comma => true
  | _ => false

def isBlockEnd : Token → Bool
  | .blockEnd => true
  | _ => false

def isListClose : Token → Bool
  | .listClose => true
  | _ => false

def isTableClose : Token → Bool
  | .tableClose => true
  | _ => false

def isDocumentEnd : Token → Bool
  | .documentEnd => true
  | _ => false

def isFinish : Token → Bool
  | .finish => true
  | _ => false

def orAbsent (ends : Token → Bool) (node : Parser Node) : Parser Node := do
  if ends (← front) then return .absent else node

def valueOrAbsent (ends : Token → Bool) (node : Parser Node) : Parser Node := do
  if ← take? isValue then orAbsent ends node else return .absent

def blockItems (node : Parser Node) : Parser (List Node) :=
  many do
    if ← take? isItem then return some (← orAbsent (fun t => isItem t || isBlockEnd t) node)
    else if ← take? isBlockEnd then return none
    else malformed

/-- The items of a list that is not indented behind its key. -/
def levelItems (node : Parser Node) : Parser (List Node) :=
  many do
    if ← take? isItem then
      return some (← orAbsent (fun t => isItem t || isKey t || isValue t || isBlockEnd t) node)
    else return none

def blockEntries (node : Parser Node) : Parser (List (Node × Node)) :=
  let ends (t : Token) : Bool := isKey t || isValue t || isBlockEnd t
  many do
    if ← take? isKey then
      let key ← orAbsent ends node
      return some (key, ← valueOrAbsent ends node)
    else if ← take? isBlockEnd then return none
    else malformed

/-- What stands between brackets: parts behind commas, of which the last may be missing. -/
def between {α : Type} (close : Token → Bool) (part : Parser α) : Parser (List α) := do
  if ← take? close then return []
  else
    let first ← part
    let rest ← many do
      if ← take? close then return none
      else if ← take? isComma then
        if ← take? close then return none else return some (← part)
      else malformed
    return first :: rest

/-- An item between brackets; a key makes it a table with one entry. -/
def flowItem (node inner : Parser Node) : Parser Node := do
  if ← take? isKey then
    let key ← orAbsent (fun t => isValue t || isComma t || isListClose t) inner
    let value ← valueOrAbsent (fun t => isComma t || isListClose t) inner
    return .table .table [(key, value)]
  else node

/-- An entry between braces; without the mark of a key it has no value. -/
def flowEntry (node : Parser Node) : Parser (Node × Node) := do
  if ← take? isKey then
    let key ← orAbsent (fun t => isValue t || isComma t || isTableClose t) node
    return (key, ← valueOrAbsent (fun t => isComma t || isTableClose t) node)
  else return (← node, .absent)

def tagName (handle : Option String) (suffix : String) : Parser String := do
  match handle with
  | none => return suffix
  | some handle =>
    match (← get).handles.lookup handle with
    | some meaning => return meaning ++ suffix
    | none => malformed

def properties : Parser (Option String × Option String) := do
  match ← front with
  | .anchor name =>
    skip
    match ← front with
    | .tag handle suffix =>
      skip
      return (some name, some (← tagName handle suffix))
    | _ => return (some name, none)
  | .tag handle suffix =>
    skip
    let anchor ←
      match ← front with
      | .anchor name =>
        skip
        pure (some name)
      | _ => pure none
    return (anchor, some (← tagName handle suffix))
  | _ => return (none, none)

def setAnchor (name : Option String) (node : Node) : Parser Unit :=
  match name with
  | none => return ()
  | some name => modify fun s => { s with anchors := ⟨name, node⟩ :: s.anchors }

def checkAnchor (name : Option String) : Parser Unit := do
  match name with
  | none => return ()
  | some name => if (← get).anchors.any fun a => a.name == name then malformed else return ()

def collection {α : Type} (anchor : Option String) (isTable : Bool) (read : Parser α)
    (make : α → Node) : Parser Node := do
  checkAnchor anchor
  setAnchor anchor (.enclosing isTable)
  let node ← make <$> read
  setAnchor anchor node
  return node

def chosen (written : Option String) (free : Tag) : Tag :=
  match written with
  | none | some "!" => free
  | some name => .ofName name

def scalar (anchor : Option String) (node : Node) : Parser Node := do
  checkAnchor anchor
  setAnchor anchor node
  return node

def missing (anchor tag : Option String) : Parser Node :=
  if anchor.isSome || tag.isSome then scalar anchor (.scalar (chosen tag .null) "") else malformed

/-- A node with at most `depth` collections around its scalars. Inside brackets nothing is
indented, and only the value of a key may be a list that is not. -/
def node : (depth : Nat) → (isBlock isKeyed : Bool) → Parser Node
  | 0, _, _ => throw .tooDeep
  | depth + 1, isBlock, isKeyed => do
    match ← front with
    | .aliasOf name =>
      skip
      match (← get).anchors.find? fun a => a.name == name with
      | some anchor => return anchor.node
      | none => malformed
    | _ =>
      let (anchor, tag) ← properties
      let list (items : Parser (List Node)) : Parser Node :=
        collection anchor false items (.list (chosen tag .list))
      let table (entries : Parser (List (Node × Node))) : Parser Node :=
        collection anchor true entries (.table (chosen tag .table))
      let inner : Parser Node :=
        match depth with
        | 0 => throw .tooDeep
        | depth + 1 => node depth false false
      match ← front, isBlock with
      | .item, true =>
        if isKeyed then list (levelItems (node depth true false)) else missing anchor tag
      | .scalar isPlain text, _ =>
        skip
        let free := if isPlain && tag.isNone || tag == some "!" then Tag.ofPlain text else .text
        scalar anchor (.scalar (chosen tag free) text)
      | .listOpen, _ =>
        skip
        list (between isListClose (flowItem (node depth false false) inner))
      | .tableOpen, _ =>
        skip
        table (between isTableClose (flowEntry (node depth false false)))
      | .blockList, true =>
        skip
        list (blockItems (node depth true false))
      | .blockTable, true =>
        skip
        table (blockEntries (node depth true true))
      | _, _ => missing anchor tag

def standardHandles : List (String × String) := [("!", "!"), ("!!", "tag:yaml.org,2002:")]

def directives : Parser Unit := do
  let found ← many do
    match ← front with
    | .directive d =>
      skip
      return some d
    | _ => return none
  let versions := found.filterMap fun d =>
    match d with
    | .version major => some major
    | _ => none
  let handles := found.filterMap fun d =>
    match d with
    | .handle name meaning => some (name, meaning)
    | _ => none
  if versions.length ≤ 1 && versions.all (· == 1) && (handles.map (·.1)).eraseDups.length == handles.length then
    modify fun s => { s with handles := handles ++ standardHandles }
  else malformed

def depthLimit : Nat := 488

/-- The only document, behind its mark or without one; none if there is no token. -/
def document : Parser (Option Node) := do
  let root ←
    match ← front with
    | .finish => return none
    | .directive _ | .documentStart => do
      directives
      match ← front with
      | .documentStart =>
        skip
        match ← front with
        | .directive _ | .documentStart | .documentEnd | .finish => pure Node.absent
        | _ => node depthLimit true false
      | _ => malformed
    | _ => node depthLimit true false
  let _ ← many do
    if ← take? isDocumentEnd then return some () else return none
  if isFinish (← front) then return some root else malformed

end Parser

def Node.ofTokens (tokens : List Token) : Except Fault (Option Node) :=
  (·.1) <$> Parser.document.run ⟨tokens, Parser.standardHandles, []⟩

end ImageBuild.Yaml
