import ImageBuild.Text.Split
import ImageBuild.Yaml.Moment

namespace ImageBuild.Yaml

inductive Tag where
  | null
  | bool
  | int
  | float
  | bytes
  | moment
  | text
  | list
  | table
  | set
  | pairs
  /-- A key whose tables are merged into the one around it. -/
  | merge
  /-- A key whose value stands for its table. -/
  | default
  | unknown
deriving DecidableEq

namespace Tag

def ofName (name : String) : Tag :=
  match name with
  | "tag:yaml.org,2002:null" => null
  | "tag:yaml.org,2002:bool" => bool
  | "tag:yaml.org,2002:int" => int
  | "tag:yaml.org,2002:float" => float
  | "tag:yaml.org,2002:binary" => bytes
  | "tag:yaml.org,2002:timestamp" => moment
  | "tag:yaml.org,2002:str" => text
  | "tag:yaml.org,2002:seq" => list
  | "tag:yaml.org,2002:map" => table
  | "tag:yaml.org,2002:set" => set
  | "tag:yaml.org,2002:omap" | "tag:yaml.org,2002:pairs" => pairs
  | "tag:yaml.org,2002:merge" => merge
  | "tag:yaml.org,2002:value" => default
  | _ => unknown

def isDigitOrBar (c : Char) : Bool := c.isDigit || c == '_'

def unsigned (s : List Char) : List Char :=
  match s with
  | '-' :: r | '+' :: r => r
  | s => s

def isSixtieth : List Char → Bool
  | [a] => a.isDigit
  | [a, b] => '0' ≤ a && a ≤ '5' && b.isDigit
  | _ => false

/-- Digits and bars, with a digit in front that passes the test. -/
def startsNumber (first : Char → Bool) : List Char → Bool
  | [] => false
  | c :: r => first c && r.all isDigitOrBar

def isSexagesimal (first : Char → Bool) (s : List Char) : Bool :=
  match Text.splitAll ':' s with
  | whole :: a :: rest => startsNumber first whole && (a :: rest).all isSixtieth
  | _ => false

def isNonzero (c : Char) : Bool := c.isDigit && c != '0'

/-- Numbers to the bases of two, eight, ten, sixteen and sixty, with bars between their digits. -/
def isInt (s : List Char) : Bool :=
  let s := unsigned s
  let digits (base : List Char) (allowed : Char → Bool) : Bool :=
    !base.isEmpty && base.all fun c => allowed c || c == '_'
  match s with
  | '0' :: 'b' :: r => digits r fun c => c == '0' || c == '1'
  | '0' :: 'x' :: r => digits r fun c => (Text.hexValue? c).isSome
  | ['0'] => true
  | '0' :: r => digits r fun c => '0' ≤ c && c ≤ '7'
  | s => startsNumber isNonzero s || isSexagesimal isNonzero s

def isExponent (s : List Char) : Bool :=
  match s with
  | [] => true
  | mark :: sign :: r =>
    (mark == 'e' || mark == 'E') && (sign == '+' || sign == '-') && !r.isEmpty && r.all Char.isDigit
  | _ => false

/-- Numbers with a point, infinities, and the value that is no number. -/
def isFloat (s : List Char) : Bool :=
  let tail (r : List Char) : Bool := isExponent (r.dropWhile isDigitOrBar)
  let pointed :=
    match Text.splitFirst '.' (unsigned s) with
    | some (whole, r) =>
      (startsNumber Char.isDigit whole && tail r)
        || (isSexagesimal Char.isDigit whole && r.all isDigitOrBar)
    | none => false
  let fraction :=
    match s with
    | '.' :: c :: r => c.isDigit && tail r
    | _ => false
  pointed || fraction || [".inf", ".Inf", ".INF"].contains (String.ofList (unsigned s))
    || [".nan", ".NaN", ".NAN"].contains (String.ofList s)

def isBool (s : List Char) : Bool :=
  ["yes", "Yes", "YES", "no", "No", "NO", "true", "True", "TRUE", "false", "False", "FALSE",
    "on", "On", "ON", "off", "Off", "OFF"].contains (String.ofList s)

def isNull (s : List Char) : Bool := ["~", "null", "Null", "NULL"].contains (String.ofList s)

/-- A date alone has two digits for its month and its day. -/
def isMoment (s : List Char) : Bool :=
  match WrittenMoment.ofText? s with
  | some found => found.time.isSome || s.length == 10
  | none => false

def bare (s : List Char) : List Char := if s.getLast? == some '\n' then s.dropLast else s

def ofPlain (text : String) : Tag :=
  let s := bare text.toList
  if text.isEmpty || isNull s then null
  else if isBool s then bool
  else if isFloat s then float
  else if isInt s then int
  else if isMoment s then moment
  else if s == ['<', '<'] then merge
  else if s == ['='] then default
  else if s == ['!'] || s == ['&'] || s == ['*'] then unknown
  else .text

end Tag

end ImageBuild.Yaml
