import ContractSuite.Text.Digits
import ContractSuite.Text.Parts

namespace ContractSuite.Network

/-- The limit of ports: `2 ^ 16`. -/
def portLimit : Nat := 0x10000

/-- The address of a host. -/
inductive Ip
  | v4 (n : Nat)
  | v6 (pieces : List Nat)
  deriving DecidableEq, Repr

namespace Ip

/-- A number in base sixteen behind `0x`, in base eight behind another zero, and in base ten else. -/
def number? : List Char → Option Nat
  | [] => none
  | '0' :: 'x' :: s => Text.digits? 16 s
  | '0' :: 'X' :: s => Text.digits? 16 s
  | '0' :: c :: s => Text.digits? 8 (c :: s)
  | s => Text.digits? 10 s

/-- The version 4 address that one to four numbers make. All but the last are bytes. -/
def v4OfNumbers? (numbers : List Nat) : Option Nat :=
  match numbers.reverse with
  | [] => none
  | last :: before =>
    let bytes := before.reverse
    let room := Nat.pow 256 (4 - bytes.length)
    if bytes.length > 3 ∨ bytes.any (· > 255) ∨ last ≥ room then none
    else some (bytes.foldl (fun n b => n * 256 + b) 0 * room + last)

/-- Reads a version 4 address from numbers with dots between them. -/
def looseV4? (s : List Char) : Option Nat :=
  ((Text.parts (· == '.') s).mapM number?).bind v4OfNumbers?

/-- A byte in base ten that is written without needless zeros. -/
def decimalByte? (s : List Char) : Option Nat :=
  if s.isEmpty || s.length > 3 || (s.length > 1 && s.head? == some '0') then none
  else (Text.digits? 10 s).filter (· ≤ 255)

/-- Reads a version 4 address from four decimal bytes. -/
def strictV4? (s : List Char) : Option Nat :=
  match (Text.parts (· == '.') s).mapM decimalByte? with
  | some [a, b, c, d] => v4OfNumbers? [a, b, c, d]
  | _ => none

/-- The pieces in a part of a version 6 address. The last two may be written as a version 4 address. -/
def pieces? : List (List Char) → Option (List Nat)
  | [] => some []
  | [last] => match strictV4? last with
    | some n => some [n / 0x10000, n % 0x10000]
    | none => (piece? last).map ([·])
  | s :: more => do return (← piece? s) :: (← pieces? more)
where
  /-- One piece: up to four hexadecimal digits. -/
  piece? (s : List Char) : Option Nat :=
    if s.isEmpty || s.length > 4 then none else Text.digits? 16 s

/-- The parts in front of and behind the first two colons that stand side by side. -/
def cutGap : List Char → Option (List Char × List Char)
  | ':' :: ':' :: s => some ([], s)
  | c :: s => (cutGap s).map fun (before, after) => (c :: before, after)
  | [] => none

/-- The pieces of a part, which may be empty. -/
def part? (s : List Char) : Option (List Nat) :=
  if s.isEmpty then some [] else pieces? (Text.parts (· == ':') s)

/-- Reads a version 6 address. The pieces that are left out number at least one. -/
def v6? (s : List Char) : Option (List Nat) :=
  match cutGap s with
  | none => (pieces? (Text.parts (· == ':') s)).filter fun pieces => pieces.length = 8
  | some (before, after) => do
    let front ← part? before
    let back ← part? after
    let count := front.length + back.length
    if count ≤ 7 ∧ !before.contains '.' then
      some (front ++ List.replicate (8 - count) 0 ++ back)
    else none

/-- The text of a version 4 address. -/
def v4Text (n : Nat) : String :=
  ".".intercalate ([n / 0x1000000, n / 0x10000 % 256, n / 256 % 256, n % 256].map toString)

/-- Where the longest run of zeros begins and how long it is. Of several the first counts. -/
def longestGap (pieces : List Nat) : Nat × Nat :=
  (List.range pieces.length).foldl (fun best start =>
    let length := ((pieces.drop start).takeWhile (· = 0)).length
    if length > best.2 then (start, length) else best) (0, 0)

/-- Pieces in hexadecimal digits with colons between them. -/
def piecesText (pieces : List Nat) : String :=
  ":".intercalate (pieces.map fun piece => String.ofList (Nat.toDigits 16 piece))

/-- The text of a version 6 address. The longest run of at least two zeros is left out. -/
def v6Text (pieces : List Nat) : String :=
  let (start, length) := longestGap pieces
  if length < 2 then piecesText pieces
  else piecesText (pieces.take start) ++ "::" ++ piecesText (pieces.drop (start + length))

end Ip

end ContractSuite.Network
