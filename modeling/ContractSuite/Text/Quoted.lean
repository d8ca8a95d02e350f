import ContractSuite.Text.Unprintable

namespace ContractSuite.Text.Quoted

/-- The code point of a character as `\u\x7b…\x7d`, in lower case and without leading zeros. -/
def codePoint (c : Char) : List Char :=
  '\\' :: 'u' :: '{' :: (Nat.toDigits 16 c.toNat ++ ['}'])

/-- One character inside the quotes. -/
def escape (c : Char) : List Char :=
  if c = '\t' then ['\\', 't']
  else if c = '\r' then ['\\', 'r']
  else if c = '\n' then ['\\', 'n']
  else if c = '"' then ['\\', '"']
  else if c = '\\' then ['\\', '\\']
  else if c = '\x00' then ['\\', '0']
  else if isUnprintable c then codePoint c
  else [c]

/-- A text between double quotes. -/
def encode (s : List Char) : List Char :=
  '"' :: (s.flatMap escape ++ ['"'])

end Quoted

/-- A string between double quotes, its unprintable characters escaped. -/
def quoted (s : String) : String :=
  String.ofList (Quoted.encode s.toList)

end ContractSuite.Text
