import ImageBuild.Yaml.Token
import ImageBuild.Yaml.Token.Block
import ImageBuild.Yaml.Token.Mark
import ImageBuild.Yaml.Token.Plain
import ImageBuild.Yaml.Token.Quoted

/-!
# From text to tokens

Indentation and the colons behind keys become tokens of their own. A token that may turn out to be
a key is remembered with its position; when the colon comes, the mark of the key is inserted there.
A key and its colon stand in one line, at most 1024 characters apart.
-/

namespace ImageBuild.Yaml

/-- A token that may turn out to be a key. -/
structure PendingKey where
  /-- How many tokens stand before it. -/
  position : Nat
  /-- It stands where a table must go on. -/
  required : Bool
  spot : Spot

structure Lexer where
  /-- The tokens so far, the latest first. -/
  emitted : List Token := []
  count : Nat := 0
  /-- The columns of the open indented collections, the innermost first. -/
  indents : List Nat := []
  /-- What may become a key, inside the innermost bracket. -/
  pending : Option PendingKey := none
  /-- The same for each bracket around, the innermost first. -/
  outer : List (Option PendingKey) := []
  keyAllowed : Bool := true

namespace Lexer

def inFlow (l : Lexer) : Bool := !l.outer.isEmpty

def margin (l : Lexer) : Nat :=
  match l.indents with
  | [] => 0
  | column :: _ => column + 1

def emit (l : Lexer) (token : Token) : Lexer :=
  { l with emitted := token :: l.emitted, count := l.count + 1 }

def insert (l : Lexer) (position : Nat) (token : Token) : Lexer :=
  { l with emitted := l.emitted.insertIdx (l.count - position) token, count := l.count + 1 }

def PendingKey.isStale (key : PendingKey) (now : Spot) : Bool :=
  key.spot.line != now.line || now.index > key.spot.index + 1024

def dropKey : Option PendingKey → Except Fault Unit
  | none => .ok ()
  | some key => if key.required then .error .malformed else .ok ()

def freshKey (now : Spot) : Option PendingKey → Except Fault (Option PendingKey)
  | none => .ok none
  | some key => if PendingKey.isStale key now then (fun _ => none) <$> dropKey (some key) else .ok (some key)

def refresh (l : Lexer) (now : Spot) : Except Fault Lexer := do
  let outer ← l.outer.mapM (freshKey now)
  let pending ← freshKey now l.pending
  return { l with pending, outer }

def forgetKey (l : Lexer) : Except Fault Lexer := do
  dropKey l.pending
  return { l with pending := none }

def rememberKey (l : Lexer) (now : Spot) : Except Fault Lexer :=
  if l.keyAllowed then do
    dropKey l.pending
    let required := !l.inFlow && l.indents.head? == some now.column
    return { l with pending := some ⟨l.count, required, now⟩ }
  else .ok l

/-- Closes the indented collections that stand at `column` or behind it. -/
def closeTo (column : Nat) : List Nat → Lexer → Lexer
  | [], l => { l with indents := [] }
  | indent :: rest, l =>
    if column < indent then closeTo column rest (l.emit .blockEnd) else { l with indents := indent :: rest }

def unindent (l : Lexer) (column : Nat) : Lexer :=
  if l.inFlow then l else closeTo column l.indents l

def unindentAll (l : Lexer) : Lexer :=
  if l.inFlow then l
  else { l.indents.foldl (fun l _ => l.emit .blockEnd) l with indents := [] }

def isInner (l : Lexer) (column : Nat) : Bool := l.margin ≤ column

def indent (l : Lexer) (column : Nat) (token : Token) : Lexer :=
  if l.isInner column then { l.emit token with indents := column :: l.indents } else l

/-- Outside brackets, some marks may only stand where a key may stand. -/
def requireKeyPlace (l : Lexer) : Except Fault Unit :=
  if l.inFlow || l.keyAllowed then .ok () else .error .malformed

def topLevel (l : Lexer) (token : Token) : Except Fault Lexer := do
  let l ← l.unindentAll.forgetKey
  return { l.emit token with keyAllowed := false }

def openBracket (l : Lexer) (now : Spot) (token : Token) : Except Fault Lexer := do
  let l ← l.rememberKey now
  return { l.emit token with pending := none, outer := l.pending :: l.outer, keyAllowed := true }

def closeBracket (l : Lexer) (token : Token) : Except Fault Lexer := do
  let l ← l.forgetKey
  match l.outer with
  | [] => .error .malformed
  | pending :: outer => return { l.emit token with pending, outer, keyAllowed := false }

def comma (l : Lexer) : Except Fault Lexer := do
  let l ← l.forgetKey
  return { l.emit .comma with keyAllowed := true }

def item (l : Lexer) (now : Spot) : Except Fault Lexer := do
  l.requireKeyPlace
  let l := if l.inFlow then l else l.indent now.column .blockList
  let l ← l.forgetKey
  return { l.emit .item with keyAllowed := true }

def key (l : Lexer) (now : Spot) : Except Fault Lexer := do
  l.requireKeyPlace
  let l := if l.inFlow then l else l.indent now.column .blockTable
  let l ← { l with keyAllowed := !l.inFlow }.forgetKey
  return l.emit .key

def value (l : Lexer) (now : Spot) : Except Fault Lexer :=
  match l.pending with
  | some found => do
    let l := { l.insert found.position .key with pending := none, keyAllowed := false }
    let l :=
      if !l.inFlow && l.isInner found.spot.column then
        { l.insert found.position .blockTable with indents := found.spot.column :: l.indents }
      else l
    return l.emit .value
  | none => do
    l.requireKeyPlace
    let l := if l.inFlow then l else l.indent now.column .blockTable
    return { l with keyAllowed := !l.inFlow }.emit .value

def node (l : Lexer) (now : Spot) (scanned : Except Fault (Token × List Spot)) :
    Except Fault (Lexer × List Spot) := do
  let l ← l.rememberKey now
  let (token, rest) ← scanned
  return ({ l.emit token with keyAllowed := false }, rest)

def plain (l : Lexer) (now : Spot) (s : List Spot) : Except Fault (Lexer × List Spot) := do
  let l ← l.rememberKey now
  let (text, crossed, rest) := Plain.scan l.inFlow l.margin s
  return ({ l.emit (.scalar true (String.ofList text)) with keyAllowed := crossed }, rest)

def quoted (l : Lexer) (now : Spot) (isDouble : Bool) (s : List Spot) : Except Fault (Lexer × List Spot) :=
  l.node now do
    let (text, rest) ← Quoted.scan isDouble s
    return (.scalar false (String.ofList text), rest)

def block (l : Lexer) (isFolded : Bool) (s : List Spot) : Except Fault (Lexer × List Spot) := do
  let l ← l.forgetKey
  let (text, rest) ← Block.scan isFolded l.margin s
  return ({ l.emit (.scalar false (String.ofList text)) with keyAllowed := true }, rest)

def anchor (make : String → Token) (s : List Spot) : Except Fault (Token × List Spot) := do
  let (name, rest) ← Mark.name s
  return (make name, rest)

/-- Reads one token, with the tokens that indentation adds. The text goes on behind `now`. -/
def step (l : Lexer) (now : Spot) (rest : List Spot) : Except Fault (Lexer × List Spot) := do
  let here := now :: rest
  let mark (l : Except Fault Lexer) : Except Fault (Lexer × List Spot) := (·, rest) <$> l
  let wordEnds := endsWord (front rest)
  if now.char == '%' && now.column == 0 then
    let l ← l.unindentAll.forgetKey
    let (token, rest) ← Mark.directive rest
    return ({ l.emit token with keyAllowed := false }, rest)
  else if startsWith '-' here then return (← l.topLevel .documentStart, here.drop 3)
  else if startsWith '.' here then return (← l.topLevel .documentEnd, here.drop 3)
  else match now.char with
    | '[' => mark (l.openBracket now .listOpen)
    | '{' => mark (l.openBracket now .tableOpen)
    | ']' => mark (l.closeBracket .listClose)
    | '}' => mark (l.closeBracket .tableClose)
    | ',' => mark l.comma
    | '*' => l.node now (anchor .aliasOf rest)
    | '&' => l.node now (anchor .anchor rest)
    | '!' => l.node now (Mark.tag here)
    | '"' => l.quoted now true rest
    | c =>
      if c == '-' && wordEnds then mark (l.item now)
      else if c == '?' && (l.inFlow || wordEnds) then mark (l.key now)
      else if c == ':' && (l.inFlow || wordEnds) then mark (l.value now)
      else if c == '|' && !l.inFlow then l.block false rest
      else if c == '>' && !l.inFlow then l.block true rest
      else if c == Quoted.singleQuote then l.quoted now false rest
      else if Plain.starts l.inFlow here then l.plain now here
      else .error .malformed

/-- Blanks and comments between tokens, and whether they leave the line. -/
def gap (inComment : Bool) : List Spot → Bool × List Spot
  | [] => (false, [])
  | spot :: r =>
    if isBreak spot.char then (true, (gap false r).2)
    else if isEnd spot.char then (false, spot :: r)
    else if inComment || spot.char == '#' then gap true r
    else if spot.char == ' ' then gap false r
    else (false, spot :: r)

def broken (l : Lexer) (fault : Fault) : List Token := (Token.broken fault :: l.emitted).reverse

/-- The tokens of the text, the last one a finish or a fault; every round reads a token. -/
def run : Nat → Lexer → List Spot → List Token
  | fuel + 1, l, s =>
    let (crossed, s) := gap false s
    let l := if crossed && !l.inFlow then { l with keyAllowed := true } else l
    match s with
    | [] => l.broken .malformed
    | now :: rest =>
      match (fun l => l.unindent now.column) <$> l.refresh now with
      | .error fault => l.broken fault
      | .ok l =>
        if isEnd now.char then
          match l.topLevel .finish with
          | .ok l => l.emitted.reverse
          | .error fault => l.broken fault
        else
          match l.step now rest with
          | .ok (l, rest) => run fuel l rest
          | .error fault => l.broken fault
  | 0, l, _ => l.broken .malformed

end Lexer

/-- The tokens of a text; a byte-order mark before it is skipped. -/
def Token.scan (text : List Char) : List Token :=
  if text.all fun c => allowedRanges.has c then
    let s := spots text
    Lexer.run (s.length + 1) {} (if isMark (front s) then s.tail else s)
  else [.broken .malformed]

end ImageBuild.Yaml
