import ImageBuild.Decimal.Binary64
import ImageBuild.Json.Failure
import ImageBuild.Json.Value
import ImageBuild.Text.Digits

/-!
# Reading JSON

Every reader takes the remaining characters and returns what it read with the characters after
it. `NaN`, `Infinity` and `-Infinity` count as numbers, and of equal names the last one wins.
-/

namespace ImageBuild.Json

open Text

abbrev Reader (α : Type) := List Char → Except Failure (α × List Char)

def fail {α : Type} (problem : Problem) (rest : List Char) : Except Failure α :=
  .error (.malformed problem rest.length)

def isSpace (c : Char) : Bool := c == ' ' || c == '\t' || c == '\n' || c == '\r'

def skipSpace (s : List Char) : List Char := s.dropWhile isSpace

def codeUnit? (a b c d : Char) : Option Nat := do
  let a ← hexValue? a
  let b ← hexValue? b
  let c ← hexValue? c
  let d ← hexValue? d
  return ((a * 16 + b) * 16 + c) * 16 + d

def unescape? : Char → Option Char
  | '"' => some '"'
  | '\\' => some '\\'
  | '/' => some '/'
  | 'b' => some (Char.ofNat 8)
  | 'f' => some (Char.ofNat 12)
  | 'n' => some '\n'
  | 'r' => some '\r'
  | 't' => some '\t'
  | _ => none

def prepend (point : Point) :
    Except Failure (List Point × List Char) → Except Failure (List Point × List Char)
  | .ok (points, rest) => .ok (point :: points, rest)
  | .error failure => .error failure

/-- The points up to the closing quote, one for each escape; `start` counts from the opening quote to the end. -/
def readPoints (start : Nat) : List Char → Except Failure (List Point × List Char)
  | [] => .error (.malformed .unterminatedText start)
  | '"' :: rest => .ok ([], rest)
  | ['\\'] => .error (.malformed .unterminatedText start)
  | '\\' :: 'u' :: a :: b :: c :: d :: next :: rest =>
    match codeUnit? a b c d with
    | some unit => prepend (.ofNumber unit) (readPoints start (next :: rest))
    | none => fail .badCodeEscape ('u' :: a :: b :: c :: d :: next :: rest)
  | '\\' :: 'u' :: rest => fail .badCodeEscape ('u' :: rest)
  | '\\' :: c :: rest =>
    match unescape? c with
    | some plain => prepend (.char plain) (readPoints start rest)
    | none => fail .badEscape ('\\' :: c :: rest)
  | c :: rest =>
    if c.toNat < 0x20 then fail .controlCharacter (c :: rest)
    else prepend (.char c) (readPoints start rest)

def readText : Reader Points := fun s =>
  match readPoints (s.length + 1) s with
  | .ok (points, rest) => .ok (.ofRead points, rest)
  | .error failure => .error failure

def readExponent? (s : List Char) : Option (Int × List Char) :=
  match s with
  | mark :: r =>
    if mark == 'e' || mark == 'E' then
      let (negative, r) := match r with
        | '-' :: r => (true, r)
        | '+' :: r => (false, r)
        | r => (false, r)
      let digits := r.takeWhile Char.isDigit
      if digits.isEmpty then none
      else
        let size : Int := digitsValue digits
        some (if negative then -size else size, r.dropWhile Char.isDigit)
    else none
  | [] => none

def readFraction? (s : List Char) : Option (List Char × List Char) :=
  match s with
  | '.' :: r =>
    let digits := r.takeWhile Char.isDigit
    if digits.isEmpty then none else some (digits, r.dropWhile Char.isDigit)
  | _ => none

/-- A number whose sign has been read; `start` begins with the sign. -/
def readNumber (start : List Char) (negative : Bool) : Reader Value := fun s =>
  let whole := match s with
    | '0' :: _ => ['0']
    | _ => s.takeWhile Char.isDigit
  if whole.isEmpty then fail .expectingValue start
  else
    let rest := s.drop whole.length
    let (fraction, rest, point) := match readFraction? rest with
      | some (digits, rest) => (digits, rest, true)
      | none => ([], rest, false)
    let (exponent, rest, point) := match readExponent? rest with
      | some (exponent, rest) => (exponent, rest, true)
      | none => (0, rest, point)
    if point then
      let size := Decimal.ofScientific (digitsValue (whole ++ fraction)) (exponent - fraction.length)
      .ok (.float (if negative then -size else size), rest)
    else if whole.length > maxDigits then .error (.excess (.digits whole.length))
    else
      let size : Int := digitsValue whole
      .ok (.int (if negative then -size else size), rest)

def readItems (item : Reader Value) : Nat → Reader (List Value)
  | 0, s => fail .expectingValue s
  | steps + 1, s =>
    match item s with
    | .error failure => .error failure
    | .ok (value, rest) =>
      match skipSpace rest with
      | ']' :: rest => .ok ([value], rest)
      | ',' :: rest =>
        match readItems item steps (skipSpace rest) with
        | .ok (values, rest) => .ok (value :: values, rest)
        | .error failure => .error failure
      | rest => fail .expectingComma rest

def readMembers (item : Reader Value) : Nat → Reader (List (Points × Value))
  | 0, s => fail .expectingName s
  | steps + 1, s =>
    match s with
    | '"' :: s =>
      match readText s with
      | .error failure => .error failure
      | .ok (name, rest) =>
        match skipSpace rest with
        | ':' :: rest =>
          match item (skipSpace rest) with
          | .error failure => .error failure
          | .ok (value, rest) =>
            match skipSpace rest with
            | '}' :: rest => .ok ([(name, value)], rest)
            | ',' :: rest =>
              match readMembers item steps (skipSpace rest) with
              | .ok (members, rest) => .ok ((name, value) :: members, rest)
              | .error failure => .error failure
            | rest => fail .expectingComma rest
        | rest => fail .expectingColon rest
    | s => fail .expectingName s

def readWith (nested : Reader Value) : Reader Value := fun s =>
  match s with
  | '"' :: rest =>
    match readText rest with
    | .ok (text, rest) => .ok (.text text, rest)
    | .error failure => .error failure
  | '[' :: rest =>
    match skipSpace rest with
    | ']' :: rest => .ok (.list [], rest)
    | rest =>
      match readItems nested (rest.length + 1) rest with
      | .ok (items, rest) => .ok (.list items, rest)
      | .error failure => .error failure
  | '{' :: rest =>
    match skipSpace rest with
    | '}' :: rest => .ok (.map [], rest)
    | rest =>
      match readMembers nested (rest.length + 1) rest with
      | .ok (members, rest) => .ok (Value.ofMembers members, rest)
      | .error failure => .error failure
  | 'n' :: 'u' :: 'l' :: 'l' :: rest => .ok (.null, rest)
  | 't' :: 'r' :: 'u' :: 'e' :: rest => .ok (.bool true, rest)
  | 'f' :: 'a' :: 'l' :: 's' :: 'e' :: rest => .ok (.bool false, rest)
  | 'N' :: 'a' :: 'N' :: rest => .ok (.float (0 / 0), rest)
  | 'I' :: 'n' :: 'f' :: 'i' :: 'n' :: 'i' :: 't' :: 'y' :: rest => .ok (.float (1 / 0), rest)
  | '-' :: 'I' :: 'n' :: 'f' :: 'i' :: 'n' :: 'i' :: 't' :: 'y' :: rest =>
    .ok (.float (-1 / 0), rest)
  | '-' :: rest => readNumber s true rest
  | _ => readNumber s false s

def readFlat : Reader Value := fun s =>
  match s with
  | '[' :: _ => .error (.excess (.depth .array))
  | '{' :: _ => .error (.excess (.depth .object))
  | s => readWith (fail .expectingValue) s

def readValue : Nat → Reader Value
  | 0 => readFlat
  | depth + 1 => readWith (readValue depth)

def read (text : String) : Except Failure Value :=
  let s := text.toList
  match s with
  | '\uFEFF' :: _ => fail .byteOrderMark s
  | _ =>
    match readValue maxDepth (skipSpace s) with
    | .error failure => .error failure
    | .ok (value, rest) =>
      match skipSpace rest with
      | [] => .ok value
      | rest => fail .extraData rest

end ImageBuild.Json
