namespace ContractSuite.Text.Utf8

/-- A character whose first bytes have been read: the bits so far, the number of bytes still to come
and the range in which the next of them has to lie. -/
structure Unfinished where
  bits : Nat
  missing : Nat
  low : Nat := 0x80
  high : Nat := 0xBF

/-- What a byte at the start of a character tells. -/
inductive Lead
  | whole (c : Char)
  | first (start : Unfinished)
  | flaw

/-- The role of a byte at the start of a character. The narrower ranges of the second byte exclude
spellings that are too long, surrogates, and values above U+10FFFF. -/
def lead (b : Nat) : Lead :=
  if b < 0x80 then .whole (Char.ofNat b)
  else if b < 0xC2 then .flaw
  else if b < 0xE0 then .first { bits := b - 0xC0, missing := 1 }
  else if b = 0xE0 then .first { bits := 0, missing := 2, low := 0xA0 }
  else if b = 0xED then .first { bits := 0xD, missing := 2, high := 0x9F }
  else if b < 0xF0 then .first { bits := b - 0xE0, missing := 2 }
  else if b = 0xF0 then .first { bits := 0, missing := 3, low := 0x90 }
  else if b < 0xF4 then .first { bits := b - 0xF0, missing := 3 }
  else if b = 0xF4 then .first { bits := 4, missing := 3, high := 0x8F }
  else .flaw

/-- The characters of the bytes, with `none` for each flaw, when `open?` is the character begun. -/
def readFrom (open? : Option Unfinished) : List UInt8 → List (Option Char)
  | [] => match open? with
    | none => []
    | some _ => [none]
  | byte :: rest =>
    let b := byte.toNat
    let fresh : Unit → List (Option Char) := fun _ => match lead b with
      | .whole c => some c :: readFrom none rest
      | .first start => readFrom (some start) rest
      | .flaw => none :: readFrom none rest
    match open? with
    | none => fresh ()
    | some u =>
      if u.low ≤ b ∧ b ≤ u.high then
        let bits := u.bits * 64 + (b - 0x80)
        if u.missing = 1 then some (Char.ofNat bits) :: readFrom none rest
        else readFrom (some { bits := bits, missing := u.missing - 1 }) rest
      else none :: fresh ()

/-- The text of the bytes, if they have no flaw. -/
def decode? (bytes : List UInt8) : Option String :=
  ((readFrom none bytes).mapM id).map String.ofList

/-- The text of the bytes, with the replacement character in place of each flaw. -/
def decodeLenient (bytes : List UInt8) : String :=
  String.ofList ((readFrom none bytes).map fun c => c.getD (Char.ofNat 0xFFFD))

/-- The bytes of a text. -/
def encode (s : String) : List UInt8 :=
  s.toUTF8.toList

end ContractSuite.Text.Utf8
