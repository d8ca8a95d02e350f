import ContractSuite.Json.Reading
import ContractSuite.Text.Digits

namespace ContractSuite.Json.Quotation

/-- What the next character has to be. `high?` is the first half of a character written as two
escapes, `count` the hexadecimal digits read of an escape and `value` their value. -/
inductive State
  | plain
  | escaped
  | digits (count value : Nat) (high? : Option Nat)
  | secondBackslash (high : Nat)
  | secondLetter (high : Nat)

/-- The character of a one-letter escape. -/
def shortEscape? : Char → Option Char
  | '"' => some '"'
  | '\\' => some '\\'
  | '/' => some '/'
  | 'b' => some '\x08'
  | 'f' => some '\x0c'
  | 'n' => some '\n'
  | 'r' => some '\r'
  | 't' => some '\t'
  | _ => none

/-- What the four digits of an escape amount to. -/
inductive Part
  | whole (c : Char)
  | half (high : Nat)
  | flaw

/-- A unit of sixteen bits behind the first half of a character, if there is one. -/
def part (value : Nat) : Option Nat → Part
  | none =>
    if 0xDC00 ≤ value ∧ value ≤ 0xDFFF then .flaw
    else if 0xD800 ≤ value ∧ value ≤ 0xDBFF then .half value
    else .whole (Char.ofNat value)
  | some high =>
    if 0xDC00 ≤ value ∧ value ≤ 0xDFFF then
      .whole (Char.ofNat (0x10000 + (high - 0xD800) * 0x400 + (value - 0xDC00)))
    else .flaw

/-- Enters an escape by code point. Fewer than four bytes behind it mean that the text ends here. -/
def enterDigits (high? : Option Nat) (rest : List Char) : Except Fault State :=
  if byteLength rest < 4 then .error .truncated else .ok (.digits 0 0 high?)

/-- Reads up to the closing quote. `read` holds the characters found so far, the last one first. -/
def body : State → List Char → List Char → Reading (List Char)
  | _, _, [] => .error .truncated
  | .plain, read, c :: rest =>
    if c = '"' then .ok (read.reverse, rest)
    else if c = '\\' then body .escaped read rest
    else if c.toNat < 0x20 then .error .malformed
    else body .plain (c :: read) rest
  | .escaped, read, c :: rest =>
    if c = 'u' then
      match enterDigits none rest with
      | .ok state => body state read rest
      | .error fault => .error fault
    else match shortEscape? c with
      | some d => body .plain (d :: read) rest
      | none => .error .malformed
  | .digits count value high?, read, c :: rest =>
    match Text.hexDigit? c with
    | none => .error .malformed
    | some d =>
      let value := value * 16 + d
      if count < 3 then body (.digits (count + 1) value high?) read rest
      else match part value high? with
        | .whole c => body .plain (c :: read) rest
        | .half high => body (.secondBackslash high) read rest
        | .flaw => .error .malformed
  | .secondBackslash high, read, c :: rest =>
    if c = '\\' then body (.secondLetter high) read rest else .error .malformed
  | .secondLetter high, read, c :: rest =>
    if c = 'u' then
      match enterDigits (some high) rest with
      | .ok state => body state read rest
      | .error fault => .error fault
    else .error .malformed

/-- Reads a quoted text behind its opening quote. -/
def read (s : List Char) : Reading (List Char) :=
  body .plain [] s

/-- Skips up to the closing quote. Escapes are checked for their form only, so that a half of a
character may stand alone. -/
def skipBody : State → List Char → Except Fault (List Char)
  | _, [] => .error .truncated
  | .escaped, c :: rest =>
    if c = 'u' then
      match enterDigits none rest with
      | .ok state => skipBody state rest
      | .error fault => .error fault
    else if (shortEscape? c).isSome then skipBody .plain rest
    else .error .malformed
  | .digits count _ _, c :: rest =>
    if (Text.hexDigit? c).isNone then .error .malformed
    else skipBody (if count < 3 then .digits (count + 1) 0 none else .plain) rest
  | _, c :: rest =>
    if c = '"' then .ok rest
    else if c = '\\' then skipBody .escaped rest
    else if c.toNat < 0x20 then .error .malformed
    else skipBody .plain rest

/-- Skips a quoted text behind its opening quote. -/
def skip (s : List Char) : Except Fault (List Char) :=
  skipBody .plain s

end ContractSuite.Json.Quotation
