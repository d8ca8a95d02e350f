import ContractSuite.Json.Number
import ContractSuite.Json.Quotation

namespace ContractSuite.Json

/-- A value of a document. -/
inductive Value
  | null
  | bool (b : Bool)
  | number (n : Number)
  | text (s : List Char)
  | list (items : List Value)
  | object (members : List (List Char × Value))
  deriving Repr

namespace Value

mutual

/-- Reads a value in which at most `depth` lists and objects may be open at once. The first argument
bounds the number of steps; twice the length of the text and two more are enough. -/
def read : Nat → Nat → List Char → Reading Value
  | 0, _, _ => .error .truncated
  | fuel + 1, depth, s =>
    match skipSpace s with
    | [] => .error .truncated
    | 'n' :: s => (word ['u', 'l', 'l'] s).map fun s => (.null, s)
    | 't' :: s => (word ['r', 'u', 'e'] s).map fun s => (.bool true, s)
    | 'f' :: s => (word ['a', 'l', 's', 'e'] s).map fun s => (.bool false, s)
    | '"' :: s => (Quotation.read s).map fun (chars, s) => (.text chars, s)
    | '-' :: s => (Number.read true s).map fun (n, s) => (.number n, s)
    | '[' :: s => match depth with
      | 0 => .error .malformed
      | depth + 1 => readItems fuel depth [] s
    | '{' :: s => match depth with
      | 0 => .error .malformed
      | depth + 1 => readMembers fuel depth [] s
    | c :: s =>
      if c.isDigit then (Number.read false (c :: s)).map fun (n, s) => (.number n, s)
      else .error .malformed

/-- Reads the items of a list behind its bracket or behind the items read so far, the last one
first. -/
def readItems : Nat → Nat → List Value → List Char → Reading Value
  | 0, _, _, _ => .error .truncated
  | fuel + 1, depth, items, s =>
    match nextItem items.isEmpty s with
    | .error fault => .error fault
    | .ok (.closed s) => .ok (.list items.reverse, s)
    | .ok (.further s) => match read fuel depth s with
      | .error fault => .error fault
      | .ok (item, s) => readItems fuel depth (item :: items) s

/-- Reads the members of an object behind its brace or behind the members read so far, the last one
first. -/
def readMembers : Nat → Nat → List (List Char × Value) → List Char → Reading Value
  | 0, _, _, _ => .error .truncated
  | fuel + 1, depth, members, s =>
    match nextMember members.isEmpty s with
    | .error fault => .error fault
    | .ok (.closed s) => .ok (.object members.reverse, s)
    | .ok (.further s) => match Quotation.read s with
      | .error fault => .error fault
      | .ok (name, s) => match colon s with
        | .error fault => .error fault
        | .ok s => match read fuel depth s with
          | .error fault => .error fault
          | .ok (value, s) => readMembers fuel depth ((name, value) :: members) s

end

end Value

/-- Skips a value in which nothing is nested. -/
def skipScalar : List Char → Except Fault (List Char)
  | [] => .error .truncated
  | 'n' :: s => word ['u', 'l', 'l'] s
  | 't' :: s => word ['r', 'u', 'e'] s
  | 'f' :: s => word ['a', 'l', 's', 'e'] s
  | '"' :: s => Quotation.skip s
  | '-' :: s => Number.skip s
  | c :: s => if c.isDigit then Number.skip (c :: s) else .error .malformed

/-- What a skipped value is nested in. -/
inductive Frame
  | list
  | object

/-- Takes the start of the next value inside a list or an object: for an object the name and the colon
before it. -/
def enterFrame (frame : Frame) (isFirst : Bool) (s : List Char) : Except Fault Next :=
  match frame with
  | .list => nextItem isFirst s
  | .object => match nextMember isFirst s with
    | .error fault => .error fault
    | .ok (.closed s) => .ok (.closed s)
    | .ok (.further s) => match Quotation.skip s with
      | .error fault => .error fault
      | .ok s => (colon s).map .further

/-- A step of skipping: at a value, or behind a value in the innermost frame (`isFirst` if no value of
the frame has been read yet). -/
inductive SkipState
  | atValue
  | inFrame (isFirst : Bool)

/-- Skips a value with all that is nested in it, to any depth. `frames` are those still open, the
innermost first. The first argument bounds the number of steps; twice the length of the text and two
more are enough. -/
def skipFrom : Nat → SkipState → List Frame → List Char → Except Fault (List Char)
  | 0, _, _, _ => .error .truncated
  | _ + 1, .inFrame _, [], s => .ok s
  | fuel + 1, .inFrame isFirst, frame :: frames, s =>
    match enterFrame frame isFirst s with
    | .error fault => .error fault
    | .ok (.closed s) => skipFrom fuel (.inFrame false) frames s
    | .ok (.further s) => skipFrom fuel .atValue (frame :: frames) s
  | fuel + 1, .atValue, frames, s =>
    match skipSpace s with
    | '[' :: s => skipFrom fuel (.inFrame true) (.list :: frames) s
    | '{' :: s => skipFrom fuel (.inFrame true) (.object :: frames) s
    | s => match skipScalar s with
      | .error fault => .error fault
      | .ok s => skipFrom fuel (.inFrame false) frames s

/-- Skips a value. -/
def skipValue (s : List Char) : Except Fault (List Char) :=
  skipFrom (2 * s.length + 2) .atValue [] s

/-- Reads a value in which at most `depth` lists and objects may be open at once. -/
def readValue (depth : Nat) (s : List Char) : Reading Value :=
  Value.read (2 * s.length + 2) depth s

/-- Holds of the values that count as true: all but `null`, `false`, the integer zero and the empty
text, list and object. A zero written with a sign, a point or an exponent is no integer. -/
def Value.isTruthy : Value → Bool
  | .null => false
  | .bool b => b
  | .number (.natural n) => n != 0
  | .number _ => true
  | .text s => !s.isEmpty
  | .list items => !items.isEmpty
  | .object members => !members.isEmpty

end ContractSuite.Json
