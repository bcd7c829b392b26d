namespace ImageBuild.Decimal

structure Binary64 where
  negative : Bool
  mantissa : Nat
  exponent : Int
  /-- The gap to the value below is half the gap to the value above. -/
  narrowBelow : Bool

def Binary64.ofFloat? (x : Float) : Option Binary64 :=
  let bits : Nat := x.toBits.toNat
  let negative := bits >>> 63 == 1
  let biased : Nat := (bits >>> 52) % 0x800
  let fraction : Nat := bits % 0x10000000000000
  if biased = 0x7FF then none
  else if biased = 0 then some ⟨negative, fraction, -1074, false⟩
  else some ⟨negative, 0x10000000000000 + fraction, (biased : Int) - 1075, fraction == 0 && biased > 1⟩

def Binary64.quotient (x : Binary64) : Nat × Nat :=
  (x.mantissa <<< x.exponent.toNat, 1 <<< (-x.exponent).toNat)

def Binary64.truncate (x : Binary64) : Int :=
  let (n, d) := x.quotient
  if x.negative then -((n / d : Nat) : Int) else ((n / d : Nat) : Int)

def Binary64.toInt? (x : Binary64) : Option Int :=
  let (n, d) := x.quotient
  if n % d = 0 then some x.truncate else none

def toInt? (x : Float) : Option Int := (Binary64.ofFloat? x).bind Binary64.toInt?

/-- `digits * 10 ^ exponent`, rounded to the nearest value; beyond the range it is infinite or zero. -/
def ofScientific (digits : Nat) (exponent : Int) : Float :=
  let magnitude : Int := (Nat.toDigits 10 digits).length + exponent
  if digits = 0 ∨ magnitude < -400 then 0
  else if magnitude > 400 then 1 / 0
  else Float.ofScientific digits (exponent < 0) exponent.natAbs

def ofInt (n : Int) : Float :=
  let size := ofScientific n.natAbs 0
  if n < 0 then -size else size

end ImageBuild.Decimal
