import ImageBuild.Decimal.Binary64
import ImageBuild.Text.Blank
import ImageBuild.Text.Digits
import ImageBuild.Text.Split
import ImageBuild.Yaml.Fault

namespace ImageBuild.Yaml.Number

open Text

def longestDecimal : Nat := 4300

def natural? (base : Nat) (digits : List Char) : Option Nat :=
  if digits.isEmpty then none
  else digits.foldlM (fun n c => do
    let d ← hexValue? c
    if d < base then some (n * base + d) else none) 0

def dropMark (mark : Char) (s : List Char) : List Char :=
  match s with
  | '0' :: c :: r => if c.toLower = mark then r else s
  | s => s

def signed (s : List Char) : Bool × List Char :=
  match s with
  | '-' :: r => (true, r)
  | '+' :: r => (false, r)
  | s => (false, s)

def negateIf (negative : Bool) (n : Int) : Int := if negative then -n else n

def integer (base : Nat) (mark : Option Char) (s : List Char) : Except Fault Int :=
  let (negative, s) := signed (trim s)
  let digits := match mark with
    | some mark => dropMark mark s
    | none => s
  match natural? base digits with
  | some n =>
    if base = 10 ∧ digits.length > longestDecimal then .error .outOfRange
    else .ok (negateIf negative n)
  | none => .error .outOfRange

/-- What digits to the base of sixty add up to, the last one first. -/
def sexagesimal : List Int → Int
  | [] => 0
  | d :: r => d + 60 * sexagesimal r

def withoutBars (s : List Char) : List Char := s.filter (· != '_')

def parts (s : List Char) : Except Fault (Bool × List Char) :=
  match withoutBars s with
  | [] => .error .emptyNumber
  | s => .ok (signed s)

def int (text : String) : Except Fault Int := do
  let (negative, s) ← parts text.toList
  match s with
  | [] => .error .emptyNumber
  | '0' :: 'b' :: r => negateIf negative <$> integer 2 (some 'b') r
  | '0' :: 'x' :: r => negateIf negative <$> integer 16 (some 'x') r
  | '0' :: r => negateIf negative <$> integer 8 (some 'o') ('0' :: r)
  | s =>
    if s.contains ':' then do
      let digits ← (splitAll ':' s).mapM (integer 10 none)
      return negateIf negative (sexagesimal digits.reverse)
    else negateIf negative <$> integer 10 none s

def exponent? (s : List Char) : Option Int :=
  match s with
  | [] => some 0
  | c :: r =>
    if c = 'e' then
      let (negative, digits) := signed r
      (natural? 10 digits).map fun n => negateIf negative n
    else none

def infinity : Float := 1 / 0

def notNumber : Float := 0 / 0

def decimal? (s : List Char) : Option Float := do
  let whole := s.takeWhile Char.isDigit
  let r := s.dropWhile Char.isDigit
  let (fraction, r) := match r with
    | '.' :: r => (r.takeWhile Char.isDigit, r.dropWhile Char.isDigit)
    | r => ([], r)
  if whole.isEmpty && fraction.isEmpty then none
  else
    let exponent ← exponent? r
    return Decimal.ofScientific (digitsValue (whole ++ fraction)) (exponent - fraction.length)

def number (s : List Char) : Except Fault Float :=
  let (negative, s) := signed (trim s)
  let size :=
    match String.ofList s with
    | "inf" | "infinity" => some infinity
    | "nan" => some notNumber
    | _ => decimal? s
  match size with
  | some x => .ok (if negative then -x else x)
  | none => .error .outOfRange

def mostPlaces : Nat := 174

def addPlaces (sum : Float) (base : Nat) : List Float → Float
  | [] => sum
  | d :: r => addPlaces (sum + d * Decimal.ofInt base) (base * 60) r

def float (text : String) : Except Fault Float := do
  let (negative, s) ← parts (text.toList.map Char.toLower)
  let size ←
    match String.ofList s with
    | ".inf" => pure infinity
    | ".nan" => return notNumber
    | _ =>
      if s.contains ':' then do
        let places ← (splitAll ':' s).mapM number
        if places.length > mostPlaces then .error .tooLarge
        else pure (addPlaces 0 1 places.reverse)
      else number s
  return if negative then -size else size

end ImageBuild.Yaml.Number
