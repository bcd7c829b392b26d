import ImageBuild.Decimal.Binary64

namespace ImageBuild.Decimal

/-- The value `digits * 10 ^ exponent`. -/
structure Scientific where
  digits : Nat
  exponent : Int

/-- Compares `a * 10 ^ i` with `n * 2 ^ j`. -/
def compareScaled (a : Nat) (i : Int) (n : Nat) (j : Int) : Ordering :=
  compare ((a * Nat.pow 10 i.toNat) <<< (-j).toNat) ((n * Nat.pow 10 (-i).toNat) <<< j.toNat)

/-- Whether the decimal lies among the reals that round to the value, ties going to even. -/
def Binary64.readsBack (x : Binary64) (d : Scientific) : Bool :=
  let low := if x.narrowBelow then 4 * x.mantissa - 1 else 4 * x.mantissa - 2
  let inclusive := x.mantissa % 2 == 0
  let above := compareScaled d.digits d.exponent low (x.exponent - 2)
  let below := compareScaled d.digits d.exponent (4 * x.mantissa + 2) (x.exponent - 2)
  (above == .gt || (inclusive && above == .eq)) && (below == .lt || (inclusive && below == .eq))

/-- The least `k` with the value below `10 ^ k`, searched upwards from a lower bound. -/
def Binary64.scaleFrom (x : Binary64) : Nat → Int → Int
  | 0, k => k
  | steps + 1, k =>
    if compareScaled 1 k x.mantissa x.exponent == .gt then k else scaleFrom x steps (k + 1)

def Binary64.scale (x : Binary64) : Int :=
  let bits : Int := x.mantissa.log2 + x.exponent
  scaleFrom x 4 (Int.fdiv (bits * 30103) 100000 - 1)

/-- The neighbour of the value on the grid of `count` digits that reads back and is nearer. -/
def Binary64.onGrid? (x : Binary64) (k : Int) (count : Nat) : Option Scientific :=
  let step := k - count
  let (n, d) := x.quotient
  let n := n * Nat.pow 10 (-step).toNat
  let d := d * Nat.pow 10 step.toNat
  let lower := n / d
  let low : Scientific := ⟨lower, step⟩
  let high : Scientific := ⟨lower + 1, step⟩
  match x.readsBack low && lower != 0, x.readsBack high with
  | true, false => some low
  | false, true => some high
  | false, false => none
  | true, true =>
    match compare (2 * n) ((2 * lower + 1) * d) with
    | .lt => some low
    | .gt => some high
    | .eq => if lower % 2 = 0 then some low else some high

def Binary64.shortestFrom (x : Binary64) (k : Int) : Nat → Nat → Scientific
  | 0, _ => ⟨(x.mantissa * Nat.pow 5 (-x.exponent).toNat) <<< x.exponent.toNat, min x.exponent 0⟩
  | tries + 1, count =>
    match x.onGrid? k count with
    | some d => d
    | none => shortestFrom x k tries (count + 1)

def Scientific.stripZeros : Nat → Scientific → Scientific
  | 0, d => d
  | steps + 1, d =>
    if d.digits ≠ 0 ∧ d.digits % 10 = 0 then stripZeros steps ⟨d.digits / 10, d.exponent + 1⟩ else d

def Binary64.shortest (x : Binary64) : Scientific :=
  (x.shortestFrom x.scale 17 1).stripZeros 20

end ImageBuild.Decimal
