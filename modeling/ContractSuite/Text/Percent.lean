import ContractSuite.Text.Digits
import ContractSuite.Text.Utf8

namespace ContractSuite.Text.Percent

/-- A hexadecimal digit in upper case. -/
def upperHex (n : Nat) : Char :=
  Char.ofNat (if n < 10 then 0x30 + n else 0x37 + n)

/-- A byte as a percent sign and two hexadecimal digits. -/
def encodeByte (b : UInt8) : List Char :=
  ['%', upperHex (b.toNat / 16), upperHex (b.toNat % 16)]

/-- A text in which all bytes are escaped that are not printable ASCII or that belong to the class given. -/
def encode (isEscaped : Char → Bool) (s : List Char) : List Char :=
  s.flatMap fun c =>
    if c.toNat < 0x20 || c.toNat ≥ 0x7F || isEscaped c then
      (Utf8.encode (String.ofList [c])).flatMap encodeByte
    else [c]

/-- The value of a hexadecimal digit that is written as a byte. -/
def hexValue? (b : UInt8) : Option Nat :=
  hexDigit? (Char.ofNat b.toNat)

/-- The bytes that an escaped text stands for. -/
def decode : List UInt8 → List UInt8
  | [] => []
  | [a] => [a]
  | [a, b] => [a, b]
  | a :: b :: c :: more =>
    match hexValue? b, hexValue? c with
    | some high, some low =>
      if a = 0x25 then UInt8.ofNat (high * 16 + low) :: decode more else a :: decode (b :: c :: more)
    | _, _ => a :: decode (b :: c :: more)

end ContractSuite.Text.Percent
