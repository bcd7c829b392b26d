import ImageBuild.Text.Printable

namespace ImageBuild.Text

def hexDigit (n : Nat) : Char :=
  if n < 10 then Char.ofNat (0x30 + n) else Char.ofNat (0x57 + n)

def hexDigits : Nat → Nat → List Char
  | 0, _ => []
  | width + 1, n => hexDigits width (n / 16) ++ [hexDigit (n % 16)]

def singleQuote : Char := Char.ofNat 0x27

def quoteFor (s : List Char) : Char :=
  if s.contains singleQuote && !s.contains '"' then '"' else singleQuote

def escapeByte (quote c : Char) : List Char :=
  if c = quote ∨ c = '\\' then ['\\', c]
  else if c = '\t' then ['\\', 't']
  else if c = '\n' then ['\\', 'n']
  else if c = '\r' then ['\\', 'r']
  else if c.toNat < 0x20 ∨ 0x7F ≤ c.toNat then '\\' :: 'x' :: hexDigits 2 c.toNat
  else [c]

def escapeChar (quote c : Char) : List Char :=
  if c.toNat < 0x80 then escapeByte quote c
  else if isPrintable c then [c]
  else if c.toNat < 0x100 then '\\' :: 'x' :: hexDigits 2 c.toNat
  else if c.toNat < 0x10000 then '\\' :: 'u' :: hexDigits 4 c.toNat
  else '\\' :: 'U' :: hexDigits 8 c.toNat

def quoted (text : String) : String :=
  let s := text.toList
  let quote := quoteFor s
  String.ofList (quote :: s.flatMap (escapeChar quote) ++ [quote])

def quotedBytes (bytes : List UInt8) : String :=
  let s := bytes.map fun byte => Char.ofNat byte.toNat
  let quote := quoteFor s
  String.ofList ('b' :: quote :: s.flatMap (escapeByte quote) ++ [quote])

end ImageBuild.Text
