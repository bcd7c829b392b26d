import ImageBuild.Data.Moment
import ImageBuild.Text.Digits

namespace ImageBuild.Yaml

open Data Text

structure WrittenTime where
  hour : Nat
  minute : Nat
  second : Nat
  microsecond : Nat
  offset : Option Int

structure WrittenMoment where
  date : Date
  time : Option WrittenTime

namespace WrittenMoment

def digits? (n : Nat) (s : List Char) : Option (Nat × List Char) :=
  let found := s.take n
  if found.length = n ∧ found.all Char.isDigit then some (digitsValue found, s.drop n) else none

def short? (s : List Char) : Option (Nat × List Char) := digits? 2 s <|> digits? 1 s

def expect? (c : Char) : List Char → Option (List Char)
  | [] => none
  | d :: r => if d = c then some r else none

def isBlank (c : Char) : Bool := c == ' ' || c == '\t'

def date? (s : List Char) : Option (Date × List Char) := do
  let (year, s) ← digits? 4 s
  let (month, s) ← short? (← expect? '-' s)
  let (day, s) ← short? (← expect? '-' s)
  return (⟨year, month, day⟩, s)

def gap? : List Char → Option (List Char)
  | [] => none
  | c :: r => if c = 'T' ∨ c = 't' then some r else if isBlank c then some (r.dropWhile isBlank) else none

def fraction (digits : List Char) : Nat :=
  let kept := digits.take 6
  digitsValue kept * Nat.pow 10 (6 - kept.length)

def offset? (s : List Char) : Option (Option Int) :=
  match s with
  | [] => some none
  | s =>
    match s.dropWhile isBlank with
    | ['Z'] => some (some 0)
    | sign :: r => do
      let (hours, r) ← if sign = '+' ∨ sign = '-' then short? r else none
      let minutes ←
        match r with
        | [] => some 0
        | r => do
          let (minutes, rest) ← digits? 2 (← expect? ':' r)
          if rest.isEmpty then some minutes else none
      let ahead : Int := (hours * 60 + minutes : Nat)
      return some (if sign = '-' then -ahead else ahead)
    | [] => none

def time? (s : List Char) : Option WrittenTime := do
  let (hour, s) ← short? s
  let (minute, s) ← digits? 2 (← expect? ':' s)
  let (second, s) ← digits? 2 (← expect? ':' s)
  let (found, s) := match s with
    | '.' :: r => (r.takeWhile Char.isDigit, r.dropWhile Char.isDigit)
    | s => ([], s)
  return ⟨hour, minute, second, fraction found, ← offset? s⟩

def ofText? (s : List Char) : Option WrittenMoment := do
  let (date, s) ← date? s
  match s with
  | [] => return ⟨date, none⟩
  | s => return ⟨date, some (← time? (← gap? s))⟩

end WrittenMoment

end ImageBuild.Yaml
