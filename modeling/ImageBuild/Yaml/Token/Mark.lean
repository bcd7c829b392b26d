import ImageBuild.Text.Utf8
import ImageBuild.Yaml.Token
import ImageBuild.Yaml.Token.Block
import ImageBuild.Yaml.Token.Quoted

namespace ImageBuild.Yaml.Mark

def isNameChar (c : Char) : Bool := c.isAlphanum || c == '-' || c == '_'

def isUriChar (c : Char) : Bool :=
  c.isAlphanum || "-;/?:@&=+$,_.!~*()[]%".toList.contains c || c.toNat == 0x27

def name (s : List Spot) : Except Fault (String × List Spot) :=
  let found := s.takeWhile fun spot => isNameChar spot.char
  let rest := s.dropWhile fun spot => isNameChar spot.char
  let next := front rest
  if found.isEmpty then .error .malformed
  else if endsWord next || "?:,]\x7d%@".toList.contains next || next.toNat == 0x60 then
    .ok (String.ofList (chars found), rest)
  else .error .malformed

/-- A tag's handle: an exclamation mark, alone before a space or with a name and another one. -/
def handle (s : List Spot) : Except Fault (String × List Spot) :=
  match s with
  | [] => .error .malformed
  | spot :: r =>
    if spot.char != '!' then .error .malformed
    else if front r == ' ' then .ok ("!", r)
    else
      let found := chars (r.takeWhile fun spot => isNameChar spot.char)
      match r.dropWhile fun spot => isNameChar spot.char with
      | last :: rest =>
        if last.char == '!' then .ok (String.ofList ('!' :: found ++ ['!']), rest) else .error .malformed
      | [] => .error .malformed

def escapes : List Spot → Except Fault (List UInt8 × List Spot)
  | a :: b :: c :: r =>
    if a.char == '%' then
      match Text.hexNumber? [b.char, c.char] with
      | some byte => do
        let (bytes, rest) ← escapes r
        return (byte.toUInt8 :: bytes, rest)
      | none => .error .malformed
    else .ok ([], a :: b :: c :: r)
  | s => if front s == '%' then .error .malformed else .ok ([], s)

def uriPieces : Nat → List Spot → Except Fault (List Char × List Spot)
  | fuel + 1, spot :: r =>
    if spot.char == '%' then do
      let (bytes, rest) ← escapes (spot :: r)
      match Text.Utf8.decode (ByteArray.mk bytes.toArray) with
      | .ok text => do
        let (more, rest) ← uriPieces fuel rest
        return (text ++ more, rest)
      | .error _ => .error .malformed
    else if isUriChar spot.char then do
      let (more, rest) ← uriPieces fuel r
      return (spot.char :: more, rest)
    else .ok ([], spot :: r)
  | _, s => .ok ([], s)

def uri (s : List Spot) : Except Fault (String × List Spot) := do
  let (text, rest) ← uriPieces s.length s
  if isUriChar (front s) then return (String.ofList text, rest) else .error .malformed

/-- A tag, in angle brackets or with a handle. -/
def tag (s : List Spot) : Except Fault (Token × List Spot) := do
  let next := front s.tail
  let (token, rest) ←
    if next == '<' then do
      let (suffix, rest) ← uri (s.drop 2)
      if front rest == '>' then pure (Token.tag none suffix, rest.tail) else .error .malformed
    else if endsWord next then pure (Token.tag none "!", s.tail)
    else do
      let word := s.tail.takeWhile fun spot => spot.char != ' ' && !endsLine spot.char
      let (name, rest) ←
        if word.any fun spot => spot.char == '!' then handle s else pure ("!", s.tail)
      let (suffix, rest) ← uri rest
      pure (Token.tag (some name) suffix, rest)
  if front rest == ' ' || endsLine (front rest) then return (token, rest) else .error .malformed

def skipSpaces (s : List Spot) : List Spot := s.dropWhile fun spot => spot.char == ' '

def number (s : List Spot) : Except Fault (Nat × List Spot) :=
  let digits := chars (s.takeWhile fun spot => spot.char.isDigit)
  if digits.isEmpty then .error .malformed
  else .ok (Text.digitsValue digits, s.dropWhile fun spot => spot.char.isDigit)

def version (s : List Spot) : Except Fault (Directive × List Spot) := do
  let (major, rest) ← number (skipSpaces s)
  if front rest == '.' then
    let (_, rest) ← number rest.tail
    if front rest == ' ' || endsLine (front rest) then return (.version major, rest)
    else .error .malformed
  else .error .malformed

def handleMeaning (s : List Spot) : Except Fault (Directive × List Spot) := do
  let (name, rest) ← handle (skipSpaces s)
  if front rest == ' ' then
    let (meaning, rest) ← uri (skipSpaces rest)
    if front rest == ' ' || endsLine (front rest) then return (.handle name meaning, rest)
    else .error .malformed
  else .error .malformed

def directive (s : List Spot) : Except Fault (Token × List Spot) := do
  let name := String.ofList (chars (s.takeWhile fun spot => isNameChar spot.char))
  let rest := s.dropWhile fun spot => isNameChar spot.char
  if name.isEmpty || !(front rest == ' ' || endsLine (front rest)) then .error .malformed
  else
    let (found, rest) ←
      match name with
      | "YAML" => version rest
      | "TAG" => handleMeaning rest
      | _ => pure (Directive.other, rest.dropWhile fun spot => !endsLine spot.char)
    return (.directive found, ← Block.restOfLine rest)

end ImageBuild.Yaml.Mark
