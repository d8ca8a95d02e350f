import ContractSuite.Decimal.Double

namespace ContractSuite.Decimal

/-- `digits * 10 ^ exponent`, with no zero at the end of the digits. -/
structure Digits where
  digits : Nat
  exponent : Int
  deriving DecidableEq, Repr

/-- Moves the zeros at the end of the digits into the exponent. -/
def Digits.normal (d : Digits) : Nat → Digits
  | 0 => d
  | steps + 1 =>
    if d.digits ≠ 0 ∧ d.digits % 10 = 0 then Digits.normal ⟨d.digits / 10, d.exponent + 1⟩ steps
    else d

namespace Double

/-- How far below a double the numbers still round to it, in quarters of a unit in its last place. Below
a power of two the doubles lie closer together. -/
def lowerGap (x : Double) : Nat :=
  if x.mantissa = leastNormal ∧ x.exponent > leastExponent then 1 else 2

/-- Compares `a * 10 ^ e` with `b * 2 ^ q`, both sides exact. -/
def compareScaled (a : Nat) (e : Int) (b : Nat) (q : Int) : Ordering :=
  let left := a * Nat.pow 10 e.toNat * Nat.pow 2 (-q).toNat
  let right := b * Nat.pow 2 q.toNat * Nat.pow 10 (-e).toNat
  compare left right

/-- Holds when reading `d * 10 ^ e` gives the double back. -/
def readsBack (x : Double) (d : Nat) (e : Int) : Bool :=
  let q := x.exponent - 2
  let low := compareScaled d e (4 * x.mantissa - x.lowerGap) q
  let high := compareScaled d e (4 * x.mantissa + 2) q
  if x.mantissa % 2 = 0 then low != .lt && high != .gt else low == .gt && high == .lt

/-- The greatest multiple of `10 ^ e` that is not above the double, as a number of such units. -/
def unitsBelow (x : Double) (e : Int) : Nat :=
  let (n, d) := x.ratio
  (n * Nat.pow 10 (-e).toNat) / (d * Nat.pow 10 e.toNat)

/-- The grid point next to the double that reads back, the nearer of two, the even one on a tie. -/
def onGrid? (x : Double) (e : Int) : Option Nat :=
  let below := x.unitsBelow e
  let above := below + 1
  match x.readsBack below e, x.readsBack above e with
  | false, false => none
  | true, false => some below
  | false, true => some above
  | true, true =>
    match compareScaled (below + above) e (2 * x.mantissa) x.exponent with
    | .lt => some above
    | .gt => some below
    | .eq => some (if below % 2 = 0 then below else above)

/-- An exponent of ten at least as great as that of the double's first digit. -/
def magnitude (x : Double) : Int :=
  let (n, d) := x.ratio
  ((n.log2 : Int) - (d.log2 : Int)) * 30103 / 100000 + 1

/-- Tries the grids of one digit, two digits and so on. -/
def search (x : Double) (e : Int) : Nat → Digits
  | 0 => ⟨x.unitsBelow e, e⟩
  | tries + 1 =>
    match x.onGrid? e with
    | some d => if d = 0 then search x (e - 1) tries else ⟨d, e⟩
    | none => search x (e - 1) tries

/-- The fewest digits that read back as a double that is not zero. -/
def shortest (x : Double) : Digits :=
  (x.search x.magnitude 24).normal 24

/-- The text of a double. -/
def text (x : Double) : String :=
  if x.mantissa = 0 then "0.0"
  else
    let found := x.shortest
    let digits := Nat.toDigits 10 found.digits
    let length : Int := digits.length
    let point := length + found.exponent
    if 0 ≤ found.exponent ∧ point ≤ 16 then
      String.ofList (digits ++ List.replicate found.exponent.toNat '0') ++ ".0"
    else if 0 < point ∧ point ≤ 16 then
      String.ofList (digits.take point.toNat) ++ "." ++ String.ofList (digits.drop point.toNat)
    else if -5 < point ∧ point ≤ 0 then
      "0." ++ String.ofList (List.replicate (-point).toNat '0' ++ digits)
    else
      let fraction := if digits.length = 1 then "" else "." ++ String.ofList (digits.drop 1)
      String.ofList (digits.take 1) ++ fraction ++ "e" ++ toString (point - 1)

end Double

end ContractSuite.Decimal
