namespace ContractSuite.Domain.Punycode

/-- The first character that is not ASCII. -/
def firstCode : Nat := 0x80

/-- The last code point. -/
def lastCode : Nat := 0x10FFFF

/-- The bias at the start. -/
def firstBias : Nat := 72

/-- The digit with a value. -/
def digit (value : Nat) : Char :=
  Char.ofNat (if value < 26 then 0x61 + value else 0x16 + value)

/-- The value of a digit. -/
def digitValue? (c : Char) : Option Nat :=
  if c.isDigit then some (c.toNat - 0x16)
  else if c.isLower then some (c.toNat - 0x61)
  else if c.isUpper then some (c.toNat - 0x41)
  else none

/-- The least value that does not end a number at a digit, where `weight` is 36 times the place of the digit,
counted from one. -/
def threshold (weight bias : Nat) : Nat :=
  max 1 (min 26 (weight - bias))

/-- The bias that fits numbers of a size, with what has been taken off so far. -/
def scaledBias (bias size : Nat) : Nat :=
  if 455 < size then scaledBias (bias + 36) (size / 35)
  else bias + 36 * size / (size + 38)

/-- The bias after a number, when the label has so many characters. -/
def nextBias (number length : Nat) (isFirst : Bool) : Nat :=
  let size := number / (if isFirst then 700 else 2)
  scaledBias 0 (size + size / length)

/-- The digits of a number from a place on. -/
def digits (bias weight number : Nat) : List Char :=
  let limit := threshold weight bias
  if number < limit then [digit number]
  else
    digit (limit + (number - limit) % (36 - limit)) ::
      digits bias (weight + 36) ((number - limit) / (36 - limit))
  termination_by number
  decreasing_by
    have lower : 1 ≤ threshold weight bias := Nat.le_max_left 1 _
    have quotient := Nat.div_le_self (number - threshold weight bias) (36 - threshold weight bias)
    omega

/-- A label that is being encoded: the digits so far, with the last one first, the distance since the last
number, the bias, and how many characters have been encoded. -/
structure Encoding where
  reversed : List Char
  distance : Nat := 0
  bias : Nat := firstBias
  count : Nat

/-- Passes the place of a character on the way to those with a code. `basic` is the number of characters that
are ASCII. -/
def Encoding.pass (basic code : Nat) (e : Encoding) (c : Char) : Encoding :=
  if c.toNat < code then { e with distance := e.distance + 1 }
  else if c.toNat = code then
    { reversed := (digits e.bias 36 e.distance).reverse ++ e.reversed
      bias := nextBias e.distance (e.count + 1) (e.count = basic)
      count := e.count + 1 }
  else e

/-- Encodes the characters with codes from one on, where the codes that occur are given in their order. -/
def encodeFrom (label : List Char) (basic : Nat) : Nat → List Nat → Encoding → Encoding
  | _, [], e => e
  | code, next :: more, e =>
    let start := { e with distance := e.distance + (next - code) * (e.count + 1) }
    let passed := label.foldl (Encoding.pass basic next) start
    encodeFrom label basic (next + 1) more { passed with distance := passed.distance + 1 }

/-- Holds of ASCII characters. -/
def isAscii (c : Char) : Bool :=
  c.toNat < firstCode

/-- A label in ASCII. -/
def encode (label : List Char) : List Char :=
  let basic := label.filter isAscii
  let codes := ((label.filter (!isAscii ·)).map Char.toNat).mergeSort.eraseDups
  let start := if basic.isEmpty then [] else '-' :: basic.reverse
  (encodeFrom label basic.length firstCode codes { reversed := start, count := basic.length }).reversed.reverse

/-- A label that is being decoded: its characters so far, and where and of which code the last was put in.
Of a number that has been begun there are its value so far, the weight of the next digit, and the weight that
tells the threshold. -/
structure Decoding where
  label : List Char
  place : Nat := 0
  code : Nat := firstCode
  bias : Nat := firstBias
  number : Nat := 0
  factor : Nat := 1
  weight : Nat := 36
  isFirst : Bool := true

/-- Ends a number: puts the character in to which it leads. -/
def Decoding.finish (d : Decoding) : Option Decoding :=
  let length := d.label.length + 1
  let reached := d.place + d.number
  let code := d.code + reached / length
  let place := reached % length
  if code ≤ lastCode ∧ code.isValidChar then
    some {
      label := d.label.take place ++ Char.ofNat code :: d.label.drop place
      place := place + 1
      code
      bias := nextBias d.number length d.isFirst
      isFirst := false }
  else none

/-- Reads a digit. -/
def Decoding.read (d : Decoding) (c : Char) : Option Decoding := do
  let value ← digitValue? c
  let limit := threshold d.weight d.bias
  let extended := { d with
    number := d.number + value * d.factor
    factor := d.factor * (36 - limit)
    weight := d.weight + 36 }
  if value < limit then extended.finish else some extended

/-- The label that a text in ASCII stands for. A hyphen with nothing before it is no digit. -/
def decode? (text : List Char) : Option (List Char) := do
  let tail := (text.reverse.takeWhile (· != '-')).reverse
  let basic := text.take (text.length - tail.length - 1)
  let numbers := if basic.isEmpty then text else tail
  let done ← numbers.foldlM Decoding.read { label := basic }
  if done.weight = 36 then some done.label else none

end ContractSuite.Domain.Punycode
