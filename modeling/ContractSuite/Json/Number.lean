import ContractSuite.Json.Reading
import ContractSuite.Decimal.Shortest

namespace ContractSuite.Json

/-- A number of a document. -/
inductive Number
  /-- An integer without a sign, below `2 ^ 64`. -/
  | natural (n : Nat)
  /-- The integer `-n` for `n` from `1` to `2 ^ 63`. -/
  | negative (n : Nat)
  /-- Any other number, rounded. -/
  | fraction (isNegative : Bool) (size : Decimal.Double)
  deriving DecidableEq, Repr

namespace Number

/-- The greatest integer that a significand holds: `2 ^ 64 - 1`. -/
def significandLimit : Nat := 0xFFFFFFFFFFFFFFFF

/-- The greatest `n` for which `-n` is kept as an integer: `2 ^ 63`. -/
def greatestNegation : Nat := 0x8000000000000000

/-- The value of a decimal digit. -/
def digit (c : Char) : Nat := c.toNat - 0x30

/-- The digits at the front of a text, and the text behind them. -/
def takeDigits (s : List Char) : List Char × List Char :=
  (s.takeWhile Char.isDigit, s.dropWhile Char.isDigit)

/-- A significand of 64 bits with a power of ten. -/
structure Scaled where
  significand : Nat
  exponent : Int

/-- Reads the digits before the point. From the first digit that no longer fits, digits only raise the
exponent. -/
def wholePart : List Char → Scaled → Scaled
  | [], x => x
  | c :: more, x =>
    let next := x.significand * 10 + digit c
    if next > significandLimit then
      { significand := x.significand, exponent := x.exponent + (more.length + 1) }
    else wholePart more { x with significand := next }

/-- Reads the digits behind the point. From the first digit that no longer fits, digits are ignored. -/
def decimalPart : List Char → Scaled → Scaled
  | [], x => x
  | c :: more, x =>
    let next := x.significand * 10 + digit c
    if next > significandLimit then x
    else decimalPart more { significand := next, exponent := x.exponent - 1 }

/-- Reads the point and the digits behind it, if there is a point. -/
def decimals (x : Scaled) : List Char → Reading (Bool × Scaled)
  | '.' :: s =>
    let (digits, rest) := takeDigits s
    match digits, rest with
    | [], [] => .error .truncated
    | [], _ :: _ => .error .malformed
    | _ :: _, _ => .ok ((true, decimalPart digits x), rest)
  | s => .ok ((false, x), s)

/-- The sign at the front of an exponent, and the text behind it. -/
def exponentSign : List Char → Bool × List Char
  | '+' :: s => (false, s)
  | '-' :: s => (true, s)
  | s => (false, s)

/-- Reads the exponent, if there is one. -/
def exponentPart (x : Scaled) : List Char → Reading (Bool × Scaled)
  | c :: s =>
    if c = 'e' ∨ c = 'E' then
      let (isNegative, s) := exponentSign s
      let (digits, rest) := takeDigits s
      match digits, rest with
      | [], [] => .error .truncated
      | [], _ :: _ => .error .malformed
      | _ :: _, _ =>
        let n : Int := digits.foldl (fun n c => n * 10 + digit c) 0
        let shift := if isNegative then -n else n
        .ok ((true, { x with exponent := x.exponent + shift }), rest)
    else .ok ((false, x), c :: s)
  | [] => .ok ((false, x), [])

/-- The whole part of a number: a zero alone, or digits that do not begin with zero. -/
def wholeDigits : List Char → Reading (List Char)
  | [] => .error .truncated
  | c :: s =>
    if c = '0' then
      match s with
      | d :: _ => if d.isDigit then .error .malformed else .ok ([c], s)
      | [] => .ok ([c], s)
    else if c.isDigit then
      let (digits, rest) := takeDigits s
      .ok (c :: digits, rest)
    else .error .malformed

/-- Reads a number behind its sign. A number too great for a double breaks the grammar. -/
def read (isNegative : Bool) (s : List Char) : Except Fault (Number × List Char) := do
  let (digits, s) ← wholeDigits s
  let whole := wholePart digits { significand := 0, exponent := 0 }
  let ((hasPoint, x), s) ← decimals whole s
  let ((hasExponent, x), s) ← exponentPart x s
  if hasPoint || hasExponent || whole.exponent != 0 then
    match Decimal.Double.ofDecimal? x.significand x.exponent with
    | some size => .ok (.fraction isNegative size, s)
    | none => .error .malformed
  else if !isNegative then .ok (.natural x.significand, s)
  else if x.significand = 0 ∨ x.significand > greatestNegation then
    .ok (.fraction true ((Decimal.Double.ofRatio? x.significand 1).getD .zero), s)
  else .ok (.negative x.significand, s)

/-- How a message names a number. -/
def description : Number → String
  | .natural n => "integer `" ++ toString n ++ "`"
  | .negative n => "integer `-" ++ toString n ++ "`"
  | .fraction isNegative size =>
    "floating point `" ++ (if isNegative then "-" else "") ++ size.text ++ "`"

/-- Reads the digits of a skipped number: at least one is needed, also at the end of the text. -/
def skipDigits (s : List Char) : Except Fault (List Char) :=
  match s with
  | c :: _ => if c.isDigit then .ok (takeDigits s).2 else .error .malformed
  | [] => .error .malformed

/-- Skips a number behind its sign. Its size does not matter, and wherever a digit is missing the
grammar is broken, at the end of the text too. -/
def skip (s : List Char) : Except Fault (List Char) := do
  let s ← match wholeDigits s with
    | .ok (_, s) => .ok s
    | .error _ => .error .malformed
  let s ← match s with
    | '.' :: s => skipDigits s
    | s => .ok s
  match s with
  | c :: s => if c = 'e' ∨ c = 'E' then skipDigits (exponentSign s).2 else .ok (c :: s)
  | [] => .ok []

end Number

end ContractSuite.Json
