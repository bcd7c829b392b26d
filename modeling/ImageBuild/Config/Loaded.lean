import ImageBuild.Context
import ImageBuild.Files.Tree
import ImageBuild.Log.Record
import ImageBuild.Text.Lines
import ImageBuild.Text.Utf8
import ImageBuild.Yaml.Document

namespace ImageBuild.Config

open Data

inductive Problem where
  | missing (path : String)
  | file (error : Files.Error)
  | notUnicode (fault : Text.Utf8.Fault)
  | document (fault : Yaml.Fault)
  /-- The document is not a table. -/
  | notDictionary
  | invalid (issues : List Issue)
  | stopped (stop : Stop)
deriving DecidableEq

def Problem.message : Problem → String
  | missing path => s!"Configuration file not found at: {path}"
  | file error => error.message
  | notUnicode fault => fault.message
  | document .malformed => "Error parsing YAML file"
  | document .tooDeep => "maximum recursion depth exceeded"
  | document .outOfRange | document .tooLarge => "value out of range"
  | document .half => "surrogates not allowed"
  | document .unknownWord => "unknown truth value"
  | document .emptyNumber => "string index out of range"
  | document .notMoment => "no date or time"
  | document .momentOfTable => "expected string or bytes-like object"
  | notDictionary => "Configuration file must be a YAML document containing a dictionary."
  | invalid _ => "Configuration validation failed:"
  | stopped (.refused reason) => reason.message
  | stopped .notATable => "object has no attribute 'items'"

/-- The value of a file's document; its line ends may be of any kind. -/
def document (content : ByteArray) : Except Problem Value :=
  match Text.Utf8.decode content with
  | .error fault => .error (.notUnicode fault)
  | .ok text =>
    match Yaml.read (Text.plainNewlines text) with
    | .ok value => .ok value
    | .error fault => .error (.document fault)

def table? (path : Path) (content : Except Files.Error ByteArray) : Except Problem Value :=
  match content with
  | .error (.system .notFound _) => .error (.missing path.text)
  | .error error => .error (.file error)
  | .ok content =>
    match document content with
    | .ok (.map entries) => .ok (.map entries)
    | .ok _ => .error .notDictionary
    | .error problem => .error problem

def checked : Checked RunFile → Except Problem RunFile
  | .valid file => .ok file
  | .invalid issues => .error (.invalid issues)
  | .stopped stop => .error (.stopped stop)

instance decidableEqExcept {ε α : Type} [DecidableEq ε] [DecidableEq α] : DecidableEq (Except ε α)
  | .ok a, .ok b => decidable_of_iff (a = b) ⟨congrArg _, Except.ok.inj⟩
  | .error a, .error b => decidable_of_iff (a = b) ⟨congrArg _, Except.error.inj⟩
  | .ok _, .error _ => isFalse nofun
  | .error _, .ok _ => isFalse nofun

structure Loaded where
  path : Path
  file : RunFile
deriving DecidableEq

namespace Loaded

def ofContent (path : Path) (content : Except Files.Error ByteArray) :
    List Log.Record × Except Problem Loaded :=
  let report (message : String) : Log.Record := ⟨.info, .config, message⟩
  let start := [report s!"Loading configuration from '{path.text}'..."]
  match table? path content with
  | .error problem => (start, .error problem)
  | .ok value =>
    let checking := start ++ [report "Validating configuration structure with Pydantic..."]
    match checked (RunFile.read [] value) with
    | .error problem => (checking, .error problem)
    -- The settings are also written out for the log, which can fail only for a text that holds a half.
    | .ok file => (checking ++ [report "Configuration validation passed."], .ok ⟨path, file⟩)

def baseDir (loaded : Loaded) : Path := loaded.path.parent.absolute

def image (loaded : Loaded) (name : String) : Except Refusal Image :=
  loaded.file.image loaded.path.text name

def read (tree : Files.Node) (path : Path) : Except Problem Loaded :=
  (ofContent path (Files.read tree path)).2

/-- The settings that the images of the file share, with properties from outside it; blank ones are none. -/
def context (loaded : Loaded) (properties : Value) : Checked Context :=
  let properties :=
    if properties.isBlank then .valid .empty else table text [.key "global_properties"] properties
  Context.ofRunFile loaded.file loaded.baseDir <$> properties

end Loaded

end ImageBuild.Config
