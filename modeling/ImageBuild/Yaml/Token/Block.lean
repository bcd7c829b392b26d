import ImageBuild.Yaml.Fault
import ImageBuild.Yaml.Spot

/-!
# Block scalars

A block scalar keeps its line breaks, or folds them. Its header may say how far it is indented and
what becomes of the line breaks at its end.
-/

namespace ImageBuild.Yaml.Block

inductive Chomping where
  | strip
  | clip
  | keep
deriving DecidableEq

structure Header where
  chomping : Chomping
  /-- How far the text stands behind the margin, where that is not read off its first line. -/
  indent : Option Nat

def chomping? : Char → Option Chomping
  | '+' => some .keep
  | '-' => some .strip
  | _ => none

def indent? (s : List Spot) : Except Fault (Option Nat × List Spot) :=
  match s with
  | [] => .ok (none, [])
  | spot :: r =>
    if spot.char.isDigit then
      if spot.char == '0' then .error .malformed else .ok (some (spot.char.toNat - 0x30), r)
    else .ok (none, spot :: r)

def restOfLine (s : List Spot) : Except Fault (List Spot) :=
  let s := s.dropWhile fun spot => spot.char == ' '
  let s := if front s == '#' then s.dropWhile fun spot => !endsLine spot.char else s
  match s with
  | [] => .ok []
  | spot :: r =>
    if isEnd spot.char then .ok (spot :: r)
    else if isBreak spot.char then .ok r
    else .error .malformed

def header (s : List Spot) : Except Fault (Header × List Spot) := do
  let (found, rest) ←
    match chomping? (front s) with
    | some chomping => do
      let (indent, rest) ← indent? s.tail
      pure (Header.mk chomping indent, rest)
    | none => do
      let (indent, rest) ← indent? s
      match indent, chomping? (front rest) with
      | some n, some chomping => pure (Header.mk chomping (some n), rest.tail)
      | indent, _ => pure (Header.mk .clip indent, rest)
  if front rest == ' ' || endsLine (front rest) then
    return (found, ← restOfLine rest)
  else .error .malformed

/-- The line breaks before the first line with text, and the widest indentation among its lines. -/
def leading : List Spot → List Char × Nat × List Spot
  | [] => ([], 0, [])
  | spot :: r =>
    if spot.char == ' ' then
      let (breaks, width, rest) := leading r
      (breaks, max (spot.column + 1) width, rest)
    else if isBreak spot.char then
      let (breaks, width, rest) := leading r
      (spot.lineBreak :: breaks, width, rest)
    else ([], 0, spot :: r)

def breaks (indent : Nat) : List Spot → List Char × List Spot
  | [] => ([], [])
  | spot :: r =>
    if spot.char == ' ' && spot.column < indent then breaks indent r
    else if isBreak spot.char then
      let (more, rest) := breaks indent r
      (spot.lineBreak :: more, rest)
    else ([], spot :: r)

def atLine (indent : Nat) : List Spot → Bool
  | [] => false
  | spot :: _ => spot.column == indent && !isEnd spot.char

def isBlank (c : Char) : Bool := c == ' ' || c == '\t'

/-- The line break between two lines of text, as it stands in the scalar. -/
def join (isFolded : Bool) (line : List Char) (lineBreak : List Char) (breaks : List Char) (next : Char) :
    List Char :=
  if isFolded && lineBreak == ['\n'] && !isBlank (line.headD '\n') && !isBlank next then
    (if breaks.isEmpty then [' '] else [])
  else lineBreak

def lines (isFolded : Bool) (indent : Nat) :
    Nat → List Char → List Spot → List Char × List Char × List Char × List Spot
  | 0, before, s => ([], [], before, s)
  | fuel + 1, before, s =>
    if atLine indent s then
      let line := chars (s.takeWhile fun spot => !endsLine spot.char)
      let rest := s.dropWhile fun spot => !endsLine spot.char
      let (lineBreak, rest) := match rest with
        | spot :: r => if isBreak spot.char then ([spot.lineBreak], r) else ([], rest)
        | [] => ([], rest)
      let (after, rest) := breaks indent rest
      if atLine indent rest then
        let (more, last, tail, rest') := lines isFolded indent fuel after rest
        (before ++ line ++ join isFolded line lineBreak after (front rest) ++ more, last, tail, rest')
      else (before ++ line, lineBreak, after, rest)
    else ([], [], before, s)

/-- The scalar behind its indicator; `margin` is the column behind the enclosing indentation. -/
def scan (isFolded : Bool) (margin : Nat) (s : List Spot) : Except Fault (List Char × List Spot) := do
  let (header, rest) ← header s
  let least := max margin 1
  let (before, indent, rest) :=
    match header.indent with
    | none =>
      let (before, width, rest) := leading rest
      (before, max least width, rest)
    | some n =>
      let indent := least + n - 1
      let (before, rest) := breaks indent rest
      (before, indent, rest)
  let (text, last, tail, rest) := lines isFolded indent rest.length before rest
  let ending := match header.chomping with
    | .strip => []
    | .clip => last
    | .keep => last ++ tail
  return (text ++ ending, rest)

end ImageBuild.Yaml.Block
