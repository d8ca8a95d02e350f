import ContractSuite.Text.Percent

namespace ContractSuite.Text.FormEncoded

/-- Bytes that stand for themselves. -/
def isPlain (b : UInt8) : Bool :=
  let n := b.toNat
  (0x30 ≤ n && n ≤ 0x39) || (0x41 ≤ n && n ≤ 0x5A) || (0x61 ≤ n && n ≤ 0x7A) ||
  n == 0x2A || n == 0x2D || n == 0x2E || n == 0x5F

/-- One byte of a name or a value. -/
def encodeByte (b : UInt8) : List Char :=
  if isPlain b then [Char.ofNat b.toNat]
  else if b = 0x20 then ['+']
  else Percent.encodeByte b

/-- A name or a value. -/
def encode (s : String) : String :=
  String.ofList ((Utf8.encode s).flatMap encodeByte)

/-- A list of parameters, joined by ampersands. -/
def query (parameters : List (String × String)) : String :=
  "&".intercalate (parameters.map fun (name, value) => encode name ++ "=" ++ encode value)

end ContractSuite.Text.FormEncoded
