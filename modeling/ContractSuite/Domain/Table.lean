namespace ContractSuite.Domain.Table

/-- The value of a digit or a small letter. -/
def digitValue (c : Char) : Nat :=
  if c.isDigit then c.toNat - 0x30 else c.toNat - 0x57

/-- The numbers in a row, of which one may have been begun. -/
def rowNumbers (begun : Option Nat) : List Char → List Nat
  | [] => begun.toList
  | c :: rest =>
    if c = ' ' then begun.toList ++ rowNumbers none rest
    else rowNumbers (some (begun.getD 0 * 36 + digitValue c)) rest

/-- The numbers in rows. -/
def numbers (rows : List String) : List Nat :=
  rows.flatMap fun row => rowNumbers none row.toList

/-- Holds of the numbers in ranges, of which the table gives the first and the last number each. -/
def isInRanges : List Nat → Nat → Bool
  | first :: last :: more, n => (first ≤ n && n ≤ last) || isInRanges more n
  | _, _ => false

/-- The third number of the range in which a number lies, where the table gives the first and the last
number of each. -/
def ofRange? : List Nat → Nat → Option Nat
  | first :: last :: value :: more, n =>
    if first ≤ n ∧ n ≤ last then some value else ofRange? more n
  | _, _ => none

end ContractSuite.Domain.Table
