namespace ContractSuite

/-- A length of time, in milliseconds. -/
abbrev Milliseconds := Nat

/-- A length of time, in nanoseconds. -/
abbrev Nanoseconds := Nat

/-- The same length of time in nanoseconds. -/
def Milliseconds.toNanoseconds (t : Milliseconds) : Nanoseconds :=
  t * 1000000

namespace Nanoseconds

/-- The decimal places of a part of a unit, of which there are `count`, without the zeros at their end. -/
def places (count part : Nat) : List Char :=
  let digits := Nat.toDigits 10 part
  ((List.replicate (count - digits.length) '0' ++ digits).reverse.dropWhile (· == '0')).reverse

/-- The text of a length of time in a unit of so many nanoseconds, which have `count` decimal places in it. -/
def inUnits (t : Nanoseconds) (size count : Nat) (unit : String) : String :=
  let fraction := places count (t % size)
  let point := if fraction.isEmpty then "" else "."
  toString (t / size) ++ point ++ String.ofList fraction ++ unit

/-- The text of a length of time, in the greatest unit of which it has one. -/
def text (t : Nanoseconds) : String :=
  if t < 1000 then t.inUnits 1 0 "ns"
  else if t < 1000000 then t.inUnits 1000 3 "µs"
  else if t < 1000000000 then t.inUnits 1000000 6 "ms"
  else t.inUnits 1000000000 9 "s"

end Nanoseconds

end ContractSuite
