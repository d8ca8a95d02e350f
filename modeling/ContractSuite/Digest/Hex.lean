namespace ContractSuite.Digest

/-- A hexadecimal digit in lower case. -/
def lowerHex (n : Nat) : Char :=
  Char.ofNat (if n < 10 then 0x30 + n else 0x57 + n)

/-- The two digits of a byte. -/
def hexByte (b : UInt8) : List Char :=
  [lowerHex (b.toNat / 16), lowerHex (b.toNat % 16)]

/-- The digits of bytes in order. -/
def hexText (bytes : List UInt8) : List Char :=
  bytes.flatMap hexByte

end ContractSuite.Digest
