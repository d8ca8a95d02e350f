import ContractSuite.Config.Value
import ContractSuite.Json.Reading
import ContractSuite.Text.Blank
import ContractSuite.Text.Digits

namespace ContractSuite.Config.Literal

/-- White space inside literals. -/
def isSpace (c : Char) : Bool :=
  c == ' ' || c == '\t' || c == '\n' || c == '\r' || c == '\x0c'

/-- Characters that end an unquoted literal. -/
def isSeparator (c : Char) : Bool :=
  c == ',' || c == '{' || c == '}' || c == '[' || c == ']'

/-- Characters of the unquoted names in a table. -/
def isNameChar (c : Char) : Bool :=
  c.isAlphanum || c == '_' || c == '-'

def skipSpace (s : List Char) : List Char :=
  s.dropWhile isSpace

/-- The limit of integers without a minus: `2 ^ 64`. -/
def integerLimit : Nat := 0x10000000000000000

/-- The greatest distance of an integer below zero: `2 ^ 63`. -/
def greatestNegation : Nat := 0x8000000000000000

/-- An integer with an optional sign. -/
def integer? : List Char → Option Int
  | '-' :: s => (Text.decimal? s).bind fun n => if n ≤ greatestNegation then some (-(n : Int)) else none
  | '+' :: s => (Text.decimal? s).bind fun n => if n < integerLimit then some (n : Int) else none
  | s => (Text.decimal? s).bind fun n => if n < integerLimit then some (n : Int) else none

/-- Removes a sign at the front. -/
def dropSign : List Char → List Char
  | '-' :: s => s
  | '+' :: s => s
  | s => s

/-- Holds of the numbers with a point: digits on at least one side of it, then perhaps an exponent. -/
def isFraction (s : List Char) : Bool :=
  let s := dropSign s
  let whole := s.takeWhile Char.isDigit
  match s.dropWhile Char.isDigit with
  | '.' :: s =>
    let places := s.takeWhile Char.isDigit
    let hasDigit := !whole.isEmpty || !places.isEmpty
    hasDigit && match s.dropWhile Char.isDigit with
      | [] => true
      | c :: s => (c == 'e' || c == 'E') && (Text.decimal? (dropSign s)).isSome
  | _ => false

/-- The value of an unquoted literal. -/
def plain (s : List Char) : Value :=
  let s := Text.trimBlank s
  if isFraction s then .fraction
  else match integer? s with
    | some i => .integer i
    | none => .text (String.ofList s)

/-- The inside of a quoted text and what follows the closing quote. A backslash protects the character
behind it. -/
def quotedInside : Bool → List Char → List Char → Option (List Char × List Char)
  | _, _, [] => none
  | true, read, c :: s => quotedInside false (c :: read) s
  | false, read, c :: s =>
    if c = '"' then some (read.reverse, s)
    else quotedInside (c == '\\') (c :: read) s

/-- The character with a code point that consists of the digits given, if there is one. -/
def codePoint? (digits : List Char) : Option Char :=
  ((Text.digits? 16 digits).filter fun n => n.isValidChar).map Char.ofNat

/-- A state of unescaping: `pending` says how many digits of a code point are still to come. -/
inductive Unescape
  | plain
  | escaped
  | digits (pending : Nat) (read : List Char)

/-- Resolves the escapes of a quoted text; one that does not exist makes the text no literal. -/
def unescape : Unescape → List Char → Option (List Char)
  | .plain, [] => some []
  | _, [] => none
  | .plain, c :: s =>
    if c = '\\' then unescape .escaped s
    else if c.toNat < 0x20 && c != '\t' || c.toNat == 0x7F then none
    else (unescape .plain s).map (c :: ·)
  | .escaped, c :: s =>
    let short (d : Char) : Option (List Char) := (unescape .plain s).map (d :: ·)
    match c with
    | '"' => short '"'
    | '\\' => short '\\'
    | 'b' => short '\x08'
    | 'f' => short '\x0c'
    | 'n' => short '\n'
    | 'r' => short '\r'
    | 't' => short '\t'
    | 'u' => unescape (.digits 3 []) s
    | 'U' => unescape (.digits 7 []) s
    | _ => none
  | .digits pending read, c :: s =>
    match pending with
    | 0 => (codePoint? (read.reverse ++ [c])).bind fun d => (unescape .plain s).map (d :: ·)
    | pending + 1 => unescape (.digits pending (c :: read)) s

/-- Reads a quoted text behind its opening quote. -/
def quoted (s : List Char) : Option (List Char × List Char) := do
  let (inside, rest) ← quotedInside false [] s
  let chars ← unescape .plain inside
  return (chars, rest)

/-- Reads the name of an entry of a table. -/
def name : List Char → Option (List Char × List Char)
  | '"' :: s => quoted s
  | s =>
    let name := s.takeWhile isNameChar
    if name.isEmpty then none else some (name, s.dropWhile isNameChar)

mutual

/-- Reads a literal with the white space around it. The first argument bounds the number of steps. -/
def value : Nat → List Char → Option (Value × List Char)
  | 0, _ => none
  | fuel + 1, s => do
    let (found, rest) ← match skipSpace s with
      | 't' :: 'r' :: 'u' :: 'e' :: s => some (Value.bool true, s)
      | 'f' :: 'a' :: 'l' :: 's' :: 'e' :: s => some (Value.bool false, s)
      | '{' :: s => (entries fuel s).map fun (found, s) => (Value.table found, s)
      | '[' :: s => (items fuel s).map fun (found, s) => (Value.list found, s)
      | '"' :: s => (quoted s).map fun (found, s) => (Value.text (String.ofList found), s)
      | '\x27' :: c :: '\x27' :: s => some (Value.text (String.ofList [c]), s)
      | '\x27' :: _ => none
      | s => some (plain (s.takeWhile (!isSeparator ·)), s.dropWhile (!isSeparator ·))
    return (found, skipSpace rest)

/-- Reads the items of a list up to its bracket. A comma may follow the last item. -/
def items : Nat → List Char → Option (List Value × List Char)
  | _, ']' :: s => some ([], s)
  | 0, _ => none
  | fuel + 1, s => do
    let (found, s) ← value fuel s
    match s with
    | ',' :: s => (items fuel s).map fun (more, s) => (found :: more, s)
    | ']' :: s => some ([found], s)
    | _ => none

/-- Reads the entries of a table up to its brace. A comma may follow the last entry. -/
def entries : Nat → List Char → Option (List (String × Value) × List Char)
  | _, '}' :: s => some ([], s)
  | 0, _ => none
  | fuel + 1, s => do
    let (key, s) ← name (skipSpace s)
    match skipSpace s with
    | '=' :: s =>
      let (found, s) ← value fuel (skipSpace s)
      let entry := (String.ofList key, found)
      match s with
      | ',' :: s => (entries fuel s).map fun (more, s) => (entry :: more, s)
      | '}' :: s => some ([entry], s)
      | _ => none
    | _ => none

end

/-- The value that a variable holds. -/
def read (content : String) : Value :=
  let s := Text.trimBlank content.toList
  match value (2 * s.length + 2) s with
  | some (found, []) => found
  | _ => .text (String.ofList s)

end ContractSuite.Config.Literal
