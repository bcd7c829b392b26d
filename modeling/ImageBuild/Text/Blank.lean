import ImageBuild.Text.Ranges

namespace ImageBuild.Text

/-- White space (Unicode 14). -/
def blankRanges : Ranges :=
  [(0x09, 0x0D), (0x1C, 0x20), (0x85, 0x85), (0xA0, 0xA0), (0x1680, 0x1680), (0x2000, 0x200A),
   (0x2028, 0x2029), (0x202F, 0x202F), (0x205F, 0x205F), (0x3000, 0x3000)]

def isBlank (c : Char) : Bool := blankRanges.has c

def trimStart (s : List Char) : List Char := s.dropWhile isBlank

def trimEnd (s : List Char) : List Char := (s.reverse.dropWhile isBlank).reverse

def trim (s : List Char) : List Char := trimEnd (trimStart s)

/-- The maximal runs of characters that are not blank. -/
def words : List Char → List (List Char)
  | [] => []
  | c :: r =>
    if isBlank c then words r
    else match r, words r with
      | d :: _, word :: rest => if isBlank d then [c] :: word :: rest else (c :: word) :: rest
      | _, rest => [c] :: rest

/-- The first word, and what follows it without the blanks between them. -/
def cutWord (s : List Char) : List Char × List Char :=
  let start := trimStart s
  (start.takeWhile fun c => !isBlank c, trimStart (start.dropWhile fun c => !isBlank c))

/-- A setting's word, without the blanks around it and with its ASCII letters in lower case. -/
def plainWord (text : String) : String := String.ofList ((trim text.toList).map Char.toLower)

end ImageBuild.Text
