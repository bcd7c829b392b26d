import ImageBuild.Yaml.Spot

namespace ImageBuild.Yaml.Plain

def isBracket (c : Char) : Bool := c == '[' || c == ']' || c == '{' || c == '}'

def isSeparator (inFlow : Bool) (next : Char) : Bool :=
  endsWord next || (inFlow && (next == ',' || isBracket next))

def run (inFlow : Bool) : List Spot → List Char × List Spot
  | [] => ([], [])
  | spot :: r =>
    let c := spot.char
    if endsWord c || (c == ':' && isSeparator inFlow (front r))
      || (inFlow && (c == ',' || c == '?' || isBracket c)) then ([], spot :: r)
    else
      let (text, rest) := run inFlow r
      (c :: text, rest)

/-- The line breaks behind the first one, unless a document mark follows. -/
def breaks (atLineStart : Bool) : List Spot → Option (List Char) × List Spot
  | [] => (some [], [])
  | spot :: r =>
    if atLineStart && atDocumentMark (spot :: r) then (none, spot :: r)
    else if spot.char == ' ' then breaks false r
    else if isBreak spot.char then
      let (more, rest) := breaks true r
      (more.map (spot.lineBreak :: ·), rest)
    else (some [], spot :: r)

/-- A line break that stands alone is a space; of several the first is dropped. -/
def fold (first : Char) (more : List Char) : List Char :=
  if first != '\n' then first :: more else if more.isEmpty then [' '] else more

/-- What the gap behind a run adds to the scalar if it goes on, whether the gap leaves the line, and
what follows. -/
def gap (s : List Spot) : List Char × Bool × List Spot :=
  let blanks := chars (s.takeWhile fun spot => spot.char == ' ')
  match s.dropWhile fun spot => spot.char == ' ' with
  | [] => (blanks, false, [])
  | spot :: r =>
    if isBreak spot.char then
      match breaks true r with
      | (some more, rest) => (fold spot.lineBreak more, true, rest)
      | (none, rest) => ([], true, rest)
    else (blanks, false, spot :: r)

def goesOn (inFlow : Bool) (margin : Nat) : List Spot → Bool
  | [] => false
  | spot :: _ => spot.char != '#' && (inFlow || margin ≤ spot.column)

/-- Runs and gaps, at most `fuel` of them; `crossed` tells whether the last gap left its line. -/
def runs (inFlow : Bool) (margin : Nat) :
    Nat → (before : List Char) → (crossed : Bool) → List Spot → List Char × Bool × List Spot
  | 0, _, crossed, s => ([], crossed, s)
  | fuel + 1, before, crossed, s =>
    match run inFlow s with
    | ([], _) => ([], crossed, s)
    | (text, rest) =>
      let (between, crossed, rest) := gap rest
      if between.isEmpty || !goesOn inFlow margin rest then (before ++ text, crossed, rest)
      else
        let (more, crossed, rest) := runs inFlow margin fuel between crossed rest
        (before ++ text ++ more, crossed, rest)

def scan (inFlow : Bool) (margin : Nat) (s : List Spot) : List Char × Bool × List Spot :=
  runs inFlow margin s.length [] false s

def starts (inFlow : Bool) : List Spot → Bool
  | [] => false
  | spot :: r =>
    let c := spot.char
    !(endsWord c || isBracket c || "-?:,#&*!|>\"%@".toList.contains c || c.toNat == 0x27 || c.toNat == 0x60)
      || (!endsWord (front r) && (c == '-' || (!inFlow && (c == '?' || c == ':'))))

end ImageBuild.Yaml.Plain
