import ImageBuild.Dockerfile.Instruction
import ImageBuild.Dockerfile.Variable
import ImageBuild.Files.Tree
import ImageBuild.Text.Utf8

namespace ImageBuild.Dockerfile

open Data Text

inductive Error where
  | unreadable (path : String) (error : Files.Error)
  | emptyFrom (path : String)
  | noFrom (path : String)
  | noDefault (word path name : String)
deriving DecidableEq

def Error.message : Error → String
  | unreadable path error => s!"Cannot read Dockerfile '{path}': {error.message}"
  | emptyFrom path => s!"Empty FROM instruction in '{path}'"
  | noFrom path => s!"No FROM instruction found in '{path}'"
  | noDefault word path name => s!"Base image '{word}' in '{path}' uses ARG '{name}' without a default"

def isQuote (c : Char) : Bool := c == '"' || c.toNat == 0x27

def stripQuotes (s : List Char) : List Char :=
  ((s.dropWhile isQuote).reverse.dropWhile isQuote).reverse

def argument? (text : String) : Option (String × String) :=
  (splitFirst '=' text.toList).map fun (name, default) =>
    (String.ofList (trim name), String.ofList (stripQuotes (trim default)))

/-- The words of a `FROM` that are not flags. -/
def fromWords (text : String) : List (List Char) :=
  (words text.toList).filter fun word => !"--".toList.isPrefixOf word

def interpolate (args : Table String) (path : String) (word : List Char) : Except Error String :=
  match substitute args (pieces word) with
  | .ok image => .ok (String.ofList image)
  | .error name => .error (.noDefault (String.ofList word) path name)

def baseOf (path : String) (args : Table String) : List Instruction → Except Error String
  | [] => .error (.noFrom path)
  | ⟨keyword, arguments⟩ :: rest =>
    if keyword = "FROM" then
      match fromWords arguments with
      | [] => .error (.emptyFrom path)
      | word :: _ => interpolate args path word
    else if keyword = "ARG" then
      match argument? arguments with
      | some (name, default) => baseOf path (args.put name default) rest
      | none => baseOf path args rest
    else baseOf path args rest

def baseImage (path text : String) : Except Error String := baseOf path .empty (instructions text)

inductive Failure where
  | noBase (error : Error)
  | notUnicode (fault : Utf8.Fault)
  | nullCharacter
deriving DecidableEq

/-- The base image of a file, whose line ends may be of any kind. -/
def extract (tree : Files.Node) (path : Path) : Except Failure String :=
  match Files.read tree path with
  | .error .nullCharacter => .error .nullCharacter
  | .error error => .error (.noBase (.unreadable path.text error))
  | .ok content =>
    match Utf8.decode content with
    | .error fault => .error (.notUnicode fault)
    | .ok text =>
      match baseImage path.text (String.ofList (plainNewlines text)) with
      | .ok image => .ok image
      | .error error => .error (.noBase error)

end ImageBuild.Dockerfile
