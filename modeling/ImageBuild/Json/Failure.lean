namespace ImageBuild.Json

inductive Problem where
  | byteOrderMark
  | expectingValue
  | expectingName
  | expectingColon
  | expectingComma
  | unterminatedText
  | controlCharacter
  | badEscape
  | badCodeEscape
  | extraData
deriving DecidableEq

def Problem.description : Problem → String
  | byteOrderMark => "Unexpected UTF-8 BOM (decode using utf-8-sig)"
  | expectingValue => "Expecting value"
  | expectingName => "Expecting property name enclosed in double quotes"
  | expectingColon => "Expecting ':' delimiter"
  | expectingComma => "Expecting ',' delimiter"
  | unterminatedText => "Unterminated string starting at"
  | controlCharacter => "Invalid control character at"
  | badEscape => "Invalid \\escape"
  | badCodeEscape => "Invalid \\uXXXX escape"
  | extraData => "Extra data"

inductive Container where
  | array
  | object
deriving DecidableEq

def Container.name : Container → String
  | array => "array"
  | object => "object"

/-- How deep brackets may be nested, and how many digits a whole number may have. -/
def maxDepth : Nat := 986
def maxDigits : Nat := 4300

/-- A limit of the reader that a well-formed text breaks. -/
inductive Excess where
  | depth (container : Container)
  | digits (count : Nat)
deriving DecidableEq

def Excess.message : Excess → String
  | depth container =>
    s!"maximum recursion depth exceeded while decoding a JSON {container.name} from a unicode string"
  | digits count =>
    s!"Exceeds the limit ({maxDigits} digits) for integer string conversion: value has {count} digits; " ++
      "use sys.set_int_max_str_digits() to increase the limit"

inductive Failure where
  | malformed (problem : Problem) (left : Nat)
  | excess (excess : Excess)
deriving DecidableEq

def place (text : List Char) (problem : Problem) (left : Nat) : String :=
  let offset := text.length - left
  let before := text.take offset
  let line := before.count '\n' + 1
  let column := (before.reverse.takeWhile (· != '\n')).length + 1
  s!"{problem.description}: line {line} column {column} (char {offset})"

end ImageBuild.Json
