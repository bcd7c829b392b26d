import ImageBuild.Decimal.Notation

namespace ImageBuild

open Decimal

inductive Duration where
  | whole (millis : Int)
  | real (millis : Float)

namespace Duration

def wholeText (n : Int) : String := s!"{n} ms"

def thousandth (n : Int) : Float :=
  let size := Decimal.ofScientific n.natAbs (-3)
  if n < 0 then -size else size

inductive Problem where
  | notANumber
  | infinite
deriving DecidableEq

def exact (x : Float) : Except Problem Binary64 :=
  match Binary64.ofFloat? x with
  | some value => .ok value
  | none => .error (if x.isNaN then .notANumber else .infinite)

def secondsText (seconds : Float) : Except Problem String := do
  let value ← exact seconds
  if seconds < 60 then return value.oneDecimal ++ " s"
  else
    let n := value.truncate
    return s!"{n / 60} min {n % 60} s"

def text : Duration → Except Problem String
  | whole n => if n < 1000 then .ok (wholeText n) else secondsText (thousandth n)
  | real x =>
    if x < 1000 then (exact x).map fun value => wholeText value.truncate
    else secondsText (x / 1000)

end Duration

end ImageBuild
