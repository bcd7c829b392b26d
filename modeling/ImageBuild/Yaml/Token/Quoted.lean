import ImageBuild.Text.Digits
import ImageBuild.Yaml.Fault
import ImageBuild.Yaml.Token.Plain

namespace ImageBuild.Yaml.Quoted

def singleQuote : Char := Char.ofNat 0x27

def isBlank (c : Char) : Bool := c == ' ' || c == '\t'

def breaks (atLineStart : Bool) : List Spot → Except Fault (List Char × List Spot)
  | [] => .ok ([], [])
  | spot :: r =>
    if atLineStart && atDocumentMark (spot :: r) then .error .malformed
    else if isBlank spot.char then breaks false r
    else if isBreak spot.char then do
      let (more, rest) ← breaks true r
      return (spot.lineBreak :: more, rest)
    else .ok ([], spot :: r)

def gap (s : List Spot) : Except Fault (List Char × List Spot) :=
  let blanks := chars (s.takeWhile fun spot => isBlank spot.char)
  match s.dropWhile fun spot => isBlank spot.char with
  | [] => .error .malformed
  | spot :: r =>
    if isEnd spot.char then .error .malformed
    else if isBreak spot.char then do
      let (more, rest) ← breaks true r
      return (Plain.fold spot.lineBreak more, rest)
    else .ok (blanks, spot :: r)

def plainEscape? (c : Char) : Option Char :=
  [('0', 0x00), ('a', 0x07), ('b', 0x08), ('t', 0x09), ('\t', 0x09), ('n', 0x0A), ('v', 0x0B),
   ('f', 0x0C), ('r', 0x0D), ('e', 0x1B), (' ', 0x20), ('"', 0x22), ('\\', 0x5C), ('/', 0x2F),
   ('N', 0x85), ('_', 0xA0), ('L', 0x2028), ('P', 0x2029)].lookup c |>.map Char.ofNat

def codeLength? : Char → Option Nat
  | 'x' => some 2
  | 'u' => some 4
  | 'U' => some 8
  | _ => none

def charOfCode (code : Nat) : Except Fault Char :=
  if 0xD800 ≤ code ∧ code < 0xE000 then .error .half
  else if code ≤ 0x10FFFF then .ok (Char.ofNat code)
  else if code < 0x80000000 then .error .outOfRange
  else .error .tooLarge

def escape (s : List Spot) : Except Fault (List Char × List Spot) :=
  match s with
  | [] => .error .malformed
  | spot :: r =>
    match plainEscape? spot.char, codeLength? spot.char with
    | some c, _ => .ok ([c], r)
    | none, some n =>
      match Text.hexNumber? (chars (r.take n)) with
      | some code => do
        let c ← charOfCode code
        return ([c], r.drop n)
      | none => .error .malformed
    | none, none => if isBreak spot.char then breaks true r else .error .malformed

/-- The text up to the closing quote; every round takes a character. -/
def body (isDouble : Bool) : Nat → List Spot → Except Fault (List Char × List Spot)
  | fuel + 1, spot :: r =>
    let c := spot.char
    let continued (piece : Except Fault (List Char × List Spot)) : Except Fault (List Char × List Spot) := do
      let (text, rest) ← piece
      let (more, rest) ← body isDouble fuel rest
      return (text ++ more, rest)
    if endsWord c then continued (gap (spot :: r))
    else if isDouble then
      if c == '"' then .ok ([], r)
      else if c == '\\' then continued (escape r)
      else continued (.ok ([c], r))
    else if c == singleQuote then
      if front r == singleQuote then continued (.ok ([c], r.tail)) else .ok ([], r)
    else continued (.ok ([c], r))
  | _, _ => .error .malformed

def scan (isDouble : Bool) (s : List Spot) : Except Fault (List Char × List Spot) :=
  body isDouble (s.length + 1) s

end ImageBuild.Yaml.Quoted
