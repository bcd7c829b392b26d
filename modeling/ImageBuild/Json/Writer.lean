import ImageBuild.Decimal.Notation
import ImageBuild.Json.Value

/-!
# Writing JSON

Values on one line, with a blank after each comma and colon. Text is written in printable ASCII:
all else becomes escapes, a character beyond the basic plane a pair of them.
-/

namespace ImageBuild.Json

open Text

def codeEscape (n : Nat) : List Char := '\\' :: 'u' :: hexDigits 4 n

def escapeChar (c : Char) : List Char :=
  if c = '"' then ['\\', '"']
  else if c = '\\' then ['\\', '\\']
  else if c = '\n' then ['\\', 'n']
  else if c = '\r' then ['\\', 'r']
  else if c = '\t' then ['\\', 't']
  else if c.toNat = 12 then ['\\', 'f']
  else if c.toNat = 8 then ['\\', 'b']
  else if 0x20 ≤ c.toNat ∧ c.toNat ≤ 0x7E then [c]
  else if c.toNat < 0x10000 then codeEscape c.toNat
  else
    let n := c.toNat - 0x10000
    codeEscape (0xD800 + n / 0x400) ++ codeEscape (0xDC00 + n % 0x400)

def escapePoint : Point → List Char
  | .char c => escapeChar c
  | p => codeEscape p.number

def writeText (text : Points) : List Char := '"' :: text.points.flatMap escapePoint ++ ['"']

def writeFloat (x : Float) : List Char :=
  if x.isNaN then "NaN".toList
  else if x == 1 / 0 then "Infinity".toList
  else if x == -1 / 0 then "-Infinity".toList
  else (Decimal.floatText x).toList

mutual

def writeValue : Value → List Char
  | .null => "null".toList
  | .bool b => (if b then "true" else "false").toList
  | .int n => (toString n).toList
  | .float x => writeFloat x
  | .text s => writeText s
  | .list items => '[' :: writeItems items ++ [']']
  | .map members => '{' :: writeMembers members ++ ['}']

def writeItems : List Value → List Char
  | [] => []
  | [item] => writeValue item
  | item :: rest => writeValue item ++ [',', ' '] ++ writeItems rest

def writeMembers : List (Points × Value) → List Char
  | [] => []
  | [(name, value)] => writeText name ++ [':', ' '] ++ writeValue value
  | (name, value) :: rest =>
    writeText name ++ [':', ' '] ++ writeValue value ++ [',', ' '] ++ writeMembers rest

end

def write (value : Value) : String := String.ofList (writeValue value)

end ImageBuild.Json
