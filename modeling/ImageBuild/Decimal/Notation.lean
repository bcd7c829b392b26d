import ImageBuild.Decimal.Shortest

/-!
# Decimal notation

Numbers are written with the fewest digits that identify them: positionally while the point
falls among the first sixteen digits or up to three zeros before them, and otherwise with a
signed exponent of at least two digits.
-/

namespace ImageBuild.Decimal

def digitText (n : Nat) : String := String.ofList (Nat.toDigits 10 n)

def zeros (n : Nat) : String := String.ofList (List.replicate n '0')

/-- Digits with the point after the first `point` of them, which may lie outside. -/
def positional (digits : List Char) (point : Int) : String :=
  if point ≤ 0 then "0." ++ zeros (-point).toNat ++ String.ofList digits
  else
    let n := point.toNat
    if digits.length ≤ n then String.ofList digits ++ zeros (n - digits.length) ++ ".0"
    else String.ofList (digits.take n) ++ "." ++ String.ofList (digits.drop n)

def exponential (digits : List Char) (exponent : Int) : String :=
  let mantissa := match digits with
    | first :: d :: rest => String.ofList (first :: '.' :: d :: rest)
    | _ => String.ofList digits
  let size := digitText exponent.natAbs
  let padded := if size.length < 2 then "0" ++ size else size
  mantissa ++ (if exponent < 0 then "e-" else "e+") ++ padded

def Binary64.text (x : Binary64) : String :=
  let size :=
    if x.mantissa = 0 then "0.0"
    else
      let d := x.shortest
      let digits := Nat.toDigits 10 d.digits
      let point : Int := digits.length + d.exponent
      if -4 < point ∧ point ≤ 16 then positional digits point else exponential digits (point - 1)
  if x.negative then "-" ++ size else size

def floatText (x : Float) : String :=
  match Binary64.ofFloat? x with
  | some b => b.text
  | none => if x.isNaN then "nan" else if x < 0 then "-inf" else "inf"

/-- The quotient rounded to the nearest natural number, a half going to the even neighbour. -/
def roundHalfEven (n d : Nat) : Nat :=
  let q := n / d
  match compare (2 * (n % d)) d with
  | .lt => q
  | .gt => q + 1
  | .eq => if q % 2 = 0 then q else q + 1

def Binary64.oneDecimal (x : Binary64) : String :=
  let (n, d) := x.quotient
  let tenths := roundHalfEven (n * 10) d
  (if x.negative then "-" else "") ++ digitText (tenths / 10) ++ "." ++ digitText (tenths % 10)

end ImageBuild.Decimal
