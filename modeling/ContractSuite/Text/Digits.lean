namespace ContractSuite.Text

/-- The value of a hexadecimal digit. -/
def hexDigit? (c : Char) : Option Nat :=
  let n := c.toNat
  if 0x30 ≤ n ∧ n ≤ 0x39 then some (n - 0x30)
  else if 0x41 ≤ n ∧ n ≤ 0x46 then some (n - 0x37)
  else if 0x61 ≤ n ∧ n ≤ 0x66 then some (n - 0x57)
  else none

theorem hexDigit?_digitChar : ∀ d < 16, hexDigit? d.digitChar = some d := by
  decide

/-- The number that digits write in a base, if all of them are digits of that base. -/
def digits? (base : Nat) (s : List Char) : Option Nat :=
  s.foldl (fun found c => do
    let n ← found
    let d ← hexDigit? c
    if d < base then some (n * base + d) else none) (some 0)

/-- The number that decimal digits write, if there is at least one digit and nothing else. -/
def decimal? (s : List Char) : Option Nat :=
  if s.isEmpty then none else digits? 10 s

end ContractSuite.Text
