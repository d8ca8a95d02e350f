import ContractSuite.Config.Toml.Lexis
import ContractSuite.Decimal.Double

namespace ContractSuite.Config.Toml

/-- Characters of the words for numbers, truth values, dates and times. -/
def isWordChar (c : Char) : Bool :=
  c.isAlphanum || c == '_' || c == '+' || c == '-' || c == '.' || c == ':'

/-- Digits in which single underscores may stand between two digits, without the underscores. -/
def groupedDigits? (isDigit : Char → Bool) (s : List Char) : Option (List Char) :=
  go false s
where
  /-- `inside` holds when a digit stands right before. -/
  go (inside : Bool) : List Char → Option (List Char)
    | [] => if inside then some [] else none
    | c :: rest =>
      if isDigit c then (go true rest).map (c :: ·)
      else if c == '_' && inside then go false rest
      else none

/-- The number that digits write in a base. -/
def numberOf (base : Nat) (digits : List Char) : Nat :=
  digits.foldl (fun n c => n * base + (Text.hexDigit? c).getD 0) 0

/-- The digits of a whole number in base ten: no zero stands before another digit. -/
def wholeDigits? (s : List Char) : Option (List Char) := do
  let digits ← groupedDigits? Char.isDigit s
  match digits with
  | '0' :: _ :: _ => none
  | _ => return digits

/-- The sign of a number, and what stands behind it. -/
def sign : List Char → Bool × List Char
  | '-' :: s => (true, s)
  | '+' :: s => (false, s)
  | s => (false, s)

/-- An integer from `-2 ^ 63` to `2 ^ 63 - 1`. -/
def inRange? (isNegative : Bool) (n : Nat) : Option Int :=
  if isNegative then if n ≤ Literal.greatestNegation then some (-(n : Int)) else none
  else if n < Literal.greatestNegation then some n else none

/-- An integer in base ten with an optional sign, or in base sixteen, eight or two without one. -/
def integer? (word : List Char) : Option Int :=
  match word with
  | '0' :: 'x' :: s => do inRange? false (numberOf 16 (← groupedDigits? isHex s))
  | '0' :: 'o' :: s => do inRange? false (numberOf 8 (← groupedDigits? (isBelow '8') s))
  | '0' :: 'b' :: s => do inRange? false (numberOf 2 (← groupedDigits? (isBelow '2') s))
  | _ => do
    let (isNegative, s) := sign word
    inRange? isNegative (numberOf 10 (← wholeDigits? s))
where
  isHex (c : Char) : Bool := (Text.hexDigit? c).isSome
  isBelow (limit c : Char) : Bool := '0' ≤ c && c < limit

/-- The exponent behind the letter `e`. -/
def exponent? (s : List Char) : Option Int := do
  let (isNegative, s) := sign s
  let n := numberOf 10 (← groupedDigits? Char.isDigit s)
  return if isNegative then -(n : Int) else n

/-- Holds of a fraction: a whole number with decimal places, an exponent or both, or one of the words
for infinity and for no number. A positive one has to be finite. -/
def isFraction (word : List Char) : Bool :=
  let (isNegative, s) := sign word
  if s == ['i', 'n', 'f'] || s == ['n', 'a', 'n'] then true
  else
    let isE (c : Char) : Bool := c == 'e' || c == 'E'
    let mantissa := s.takeWhile (!isE ·)
    let scale := s.drop mantissa.length
    let whole := mantissa.takeWhile (· != '.')
    let places := mantissa.drop whole.length
    let found : Option (Nat × Int) := do
      let wholePart ← wholeDigits? whole
      let placesPart ← if places.isEmpty then some [] else groupedDigits? Char.isDigit (places.drop 1)
      let shift ← if scale.isEmpty then some 0 else exponent? (scale.drop 1)
      return (numberOf 10 (wholePart ++ placesPart), shift - placesPart.length)
    if places.isEmpty && scale.isEmpty then false
    else match found with
      | none => false
      | some (significand, shift) =>
        isNegative || (Decimal.Double.ofDecimal? significand shift).isSome

/-- The number that exactly so many digits write. -/
def fixedDigits? (count : Nat) (s : List Char) : Option Nat :=
  if s.length = count then Text.decimal? s else none

/-- The number of days of a month. -/
def daysOf (year month : Nat) : Nat :=
  if month = 2 then
    if (year % 4 = 0 ∧ year % 100 ≠ 0) ∨ year % 400 = 0 then 29 else 28
  else if month = 4 ∨ month = 6 ∨ month = 9 ∨ month = 11 then 30
  else 31

/-- Holds of a date of the calendar. -/
def isDate (s : List Char) : Bool :=
  let found : Option Bool := do
    let year ← fixedDigits? 4 (s.take 4)
    let month ← fixedDigits? 2 ((s.drop 5).take 2)
    let day ← fixedDigits? 2 ((s.drop 8).take 2)
    return 1 ≤ month && month ≤ 12 && 1 ≤ day && day ≤ daysOf year month
  s.length == 10 && s[4]? == some '-' && s[7]? == some '-' && found.getD false

/-- Holds of hours and minutes. -/
def isHourMinute (s : List Char) : Bool :=
  let found : Option Bool := do
    let hour ← fixedDigits? 2 (s.take 2)
    let minute ← fixedDigits? 2 (s.drop 3)
    return hour < 24 && minute < 60
  s[2]? == some ':' && found.getD false

/-- Holds of a time of the day, with seconds and perhaps a fraction of them. -/
def isTime (s : List Char) : Bool :=
  let seconds := (fixedDigits? 2 ((s.drop 6).take 2)).any (· ≤ 60)
  let fraction := match s.drop 8 with
    | [] => true
    | '.' :: digits => !digits.isEmpty && digits.all Char.isDigit
    | _ => false
  isHourMinute (s.take 5) && s[5]? == some ':' && seconds && fraction

/-- Holds of a time of the day, perhaps with its distance from universal time. -/
def isZonedTime (s : List Char) : Bool :=
  match s.reverse with
  | 'Z' :: before => isTime before.reverse
  | 'z' :: before => isTime before.reverse
  | _ =>
    let offset := s.drop (s.length - 6)
    isTime s ||
      ((offset[0]? == some '+' || offset[0]? == some '-') && isHourMinute (offset.drop 1) &&
        isTime (s.take (s.length - 6)))

/-- Holds of a date, a time, or both with a letter between them. -/
def isMoment (word : List Char) : Bool :=
  let joined := match word.drop 10 with
    | 'T' :: time => isZonedTime time
    | 't' :: time => isZonedTime time
    | _ => false
  isDate word || isTime word || (isDate (word.take 10) && joined)

/-- The value of a word. -/
def scalar? (word : List Char) : Option Value :=
  if word = ['t', 'r', 'u', 'e'] then some (.bool true)
  else if word = ['f', 'a', 'l', 's', 'e'] then some (.bool false)
  else if isMoment word then some .moment
  else match integer? word with
    | some i => some (.integer i)
    | none => if isFraction word then some .fraction else none

/-- Reads a value that is a word, or a date and a time with a space between them. -/
def scalar (s : List Char) : Found Value :=
  let word := s.takeWhile isWordChar
  let rest := s.drop word.length
  let time := (rest.drop 1).takeWhile isWordChar
  if isDate word && rest.head? == some ' ' && isZonedTime time then
    some (.moment, rest.drop (time.length + 1))
  else (scalar? word).map fun value => (value, rest)

end ContractSuite.Config.Toml
