namespace ContractSuite.Decimal

/-- The number `mantissa * 2 ^ exponent`. A rounded number has a mantissa below `2 ^ 53` and an
exponent from `-1074` to `971`. -/
structure Double where
  mantissa : Nat
  exponent : Int
  deriving DecidableEq, Repr

namespace Double

def zero : Double := ⟨0, -1074⟩

/-- The least exponent, at which numbers lose precision instead of getting smaller. -/
def leastExponent : Int := -1074

/-- The greatest exponent of a finite number. -/
def greatestExponent : Int := 971

/-- The limit of mantissas: `2 ^ 53`. -/
def mantissaLimit : Nat := 0x20000000000000

/-- The least mantissa of a number that has all its digits: `2 ^ 52`. -/
def leastNormal : Nat := 0x10000000000000

/-- A ratio over a power of two, as a numerator and a denominator. -/
def scaled (num den : Nat) (exponent : Int) : Nat × Nat :=
  if exponent < 0 then (num * Nat.pow 2 (-exponent).toNat, den) else (num, den * Nat.pow 2 exponent.toNat)

/-- An exponent at which the ratio has 53 or 54 binary digits before the point. -/
def guessExponent (num den : Nat) : Int :=
  max leastExponent ((num.log2 : Int) - (den.log2 : Int) - 53)

/-- The nearest integer to a ratio, an even one when two are equally near. -/
def nearest (num den : Nat) : Nat :=
  let floor := num / den
  let twice := 2 * (num % den)
  if twice > den ∨ (twice = den ∧ floor % 2 = 1) then floor + 1 else floor

/-- The double nearest to `num / den`, or nothing when that is beyond the greatest finite one. -/
def ofRatio? (num den : Nat) : Option Double :=
  if num = 0 then some zero
  else
    let guess := guessExponent num den
    let (n, d) := scaled num den guess
    let exponent := if n / d ≥ mantissaLimit then guess + 1 else guess
    let (n, d) := scaled num den exponent
    let rounded := nearest n d
    let (mantissa, exponent) :=
      if rounded = mantissaLimit then (leastNormal, exponent + 1) else (rounded, exponent)
    if exponent > greatestExponent then none else some ⟨mantissa, exponent⟩

/-- A double as a ratio. -/
def ratio (x : Double) : Nat × Nat :=
  if x.exponent < 0 then (x.mantissa, Nat.pow 2 (-x.exponent).toNat)
  else (x.mantissa * Nat.pow 2 x.exponent.toNat, 1)

/-- The rounded product. -/
def mul? (x y : Double) : Option Double :=
  let (xn, xd) := x.ratio
  let (yn, yd) := y.ratio
  ofRatio? (xn * yn) (xd * yd)

/-- The rounded quotient by a number that is not zero. -/
def div? (x y : Double) : Option Double :=
  let (xn, xd) := x.ratio
  let (yn, yd) := y.ratio
  ofRatio? (xn * yd) (xd * yn)

/-- The double nearest to a power of ten up to `10 ^ 308`. -/
def powerOfTen (n : Nat) : Double :=
  (ofRatio? (Nat.pow 10 n) 1).getD zero

/-- `significand * 10 ^ exponent`, computed as a product or quotient of doubles. Powers beyond
`10 ^ 308` are taken in steps, which only happens on the way to zero. -/
def ofDecimal? (significand : Nat) (exponent : Int) : Option Double := do
  let start ← ofRatio? significand 1
  if start.mantissa = 0 then return start
  if exponent ≥ 0 then
    if exponent > 308 then none else start.mul? (powerOfTen exponent.toNat)
  else divide start (-exponent).toNat (significand.log2 + 2)
where
  /-- Divides by a power of ten, at most `10 ^ 308` at a time. -/
  divide (x : Double) (power : Nat) : Nat → Option Double
    | 0 => some zero
    | steps + 1 =>
      if power ≤ 308 then x.div? (powerOfTen power)
      else do
        let next ← x.div? (powerOfTen 308)
        if next.mantissa = 0 then return zero
        divide next (power - 308) steps

end Double

end ContractSuite.Decimal
