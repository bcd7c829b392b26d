import ImageBuild.Text.Ranges

/-!
# Characters in their places

The text of a document, each character with its line, its column and its index. A null character
stands behind the last one, so that every text has a next character.
-/

namespace ImageBuild.Yaml

structure Spot where
  char : Char
  line : Nat
  column : Nat
  index : Nat

def isBreak (c : Char) : Bool :=
  c == '\n' || c.toNat == 0x85 || c.toNat == 0x2028 || c.toNat == 0x2029

def isEnd (c : Char) : Bool := c.toNat == 0

def endsLine (c : Char) : Bool := isBreak c || isEnd c

def endsWord (c : Char) : Bool := c == ' ' || c == '\t' || endsLine c

def Spot.lineBreak (spot : Spot) : Char := if spot.char.toNat == 0x85 then '\n' else spot.char

def isMark (c : Char) : Bool := c.toNat == 0xFEFF

/-- A byte-order mark takes no column. -/
def Spot.next (spot : Spot) (char : Char) : Spot :=
  if isBreak spot.char then ⟨char, spot.line + 1, 0, spot.index + 1⟩
  else ⟨char, spot.line, if isMark spot.char then spot.column else spot.column + 1, spot.index + 1⟩

def spotsFrom (spot : Spot) : List Char → List Spot
  | [] => [spot, spot.next (Char.ofNat 0)]
  | c :: r => spot :: spotsFrom (spot.next c) r

def spots : List Char → List Spot
  | [] => [⟨Char.ofNat 0, 0, 0, 0⟩]
  | c :: r => spotsFrom ⟨c, 0, 0, 0⟩ r

def allowedRanges : Text.Ranges :=
  [(0x09, 0x0A), (0x0D, 0x0D), (0x20, 0x7E), (0x85, 0x85), (0xA0, 0xD7FF), (0xE000, 0xFFFD),
   (0x10000, 0x10FFFF)]

def front : List Spot → Char
  | [] => Char.ofNat 0
  | spot :: _ => spot.char

def chars (s : List Spot) : List Char := s.map Spot.char

def startsWith (mark : Char) (s : List Spot) : Bool :=
  match s with
  | a :: b :: c :: r => a.column == 0 && a.char == mark && b.char == mark && c.char == mark && endsWord (front r)
  | _ => false

def atDocumentMark (s : List Spot) : Bool := startsWith '-' s || startsWith '.' s

end ImageBuild.Yaml
