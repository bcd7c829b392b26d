import ImageBuild.Text.Ranges

/-!
# Lines

A line ends at a line feed, a carriage return (with the line feed after it, if any), a vertical
tab, a form feed, or a separator that Unicode or ASCII reserves for lines and paragraphs.
-/

namespace ImageBuild.Text

def lineEndRanges : Ranges :=
  [(0x0A, 0x0D), (0x1C, 0x1E), (0x85, 0x85), (0x2028, 0x2029)]

def isLineEnd (c : Char) : Bool := lineEndRanges.has c

/-- The lines without their ends; nothing follows a final line end. -/
def lines : List Char → List (List Char)
  | [] => []
  | '\r' :: '\n' :: r => [] :: lines r
  | c :: r =>
    if isLineEnd c then [] :: lines r
    else match lines r with
      | [] => [[c]]
      | line :: rest => (c :: line) :: rest

/-- Every carriage return, with the line feed after it if there is one, becomes a line feed. -/
def plainNewlines : List Char → List Char
  | [] => []
  | '\r' :: '\n' :: r => '\n' :: plainNewlines r
  | c :: r => (if c == '\r' then '\n' else c) :: plainNewlines r

end ImageBuild.Text
