import ImageBuild.Text.Split
import ImageBuild.Text.WordChar

namespace ImageBuild.Reference

open Text

def isLowerAlnum (c : Char) : Bool := c.isLower || c.isDigit

/-- Where a reader stands within a repository component. -/
inductive ComponentState where
  | start
  | run
  | underscore
  | dashes
  /-- After a separator that must not grow. -/
  | separated
  | dead
deriving DecidableEq

def ComponentState.step (state : ComponentState) (c : Char) : ComponentState :=
  if isLowerAlnum c then
    match state with
    | dead => dead
    | _ => run
  else
    match state with
    | run => if c = '.' then separated else if c = '_' then underscore else if c = '-' then dashes else dead
    | underscore => if c = '_' then separated else dead
    | dashes => if c = '-' then dashes else dead
    | _ => dead

/-- Runs of lower-case letters and digits, joined by `.`, `_`, `__` or dashes. -/
def isComponent (s : List Char) : Bool := s.foldl ComponentState.step .start == .run

def isRepository (s : List Char) : Bool := (splitAll '/' s).all isComponent

def isDomainComponent (s : List Char) : Bool :=
  s.all (fun c => c.isAlphanum || c == '-') && s.head?.any Char.isAlphanum &&
    s.getLast?.any Char.isAlphanum

def isHost (s : List Char) : Bool := (splitAll '.' s).all isDomainComponent

def isPort (s : List Char) : Bool := !s.isEmpty && s.all Char.isDigit

def isRegistry (s : List Char) : Bool :=
  match splitFirst ':' s with
  | some (host, port) => isHost host && isPort port
  | none => isHost s

def isTag : List Char → Bool
  | [] => false
  | c :: rest =>
    isWordChar c && rest.length ≤ 127 && rest.all fun c => isWordChar c || c == '.' || c == '-'

/-- Where a reader stands within the algorithm of a digest. -/
inductive AlgorithmState where
  | start
  | word
  | dead
deriving DecidableEq

def AlgorithmState.step (state : AlgorithmState) (c : Char) : AlgorithmState :=
  match state with
  | start => if c.isAlpha then word else dead
  | word => if c.isAlphanum then word else if c ∈ ['-', '_', '+', '.'] then start else dead
  | dead => dead

/-- Words that begin with a letter, joined by one of `-`, `_`, `+` and `.`. -/
def isAlgorithm (s : List Char) : Bool := s.foldl AlgorithmState.step .start == .word

def isHexDigit (c : Char) : Bool :=
  c.isDigit || ('a' ≤ c && c ≤ 'f') || ('A' ≤ c && c ≤ 'F')

def isDigest (s : List Char) : Bool :=
  match splitFirst ':' s with
  | some (algorithm, hex) => isAlgorithm algorithm && 32 ≤ hex.length && hex.all isHexDigit
  | none => false

/-- Accepts what `accepts` does, also with one line feed behind it. -/
def uptoLineFeed (accepts : List Char → Bool) (s : List Char) : Bool :=
  accepts s || (s.getLast? == some '\n' && accepts s.dropLast)

end ImageBuild.Reference
