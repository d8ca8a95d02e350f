import ContractSuite.Config.Literal

namespace ContractSuite.Config.Toml

/-- What a reader found, and the text behind it. -/
abbrev Found (α : Type) := Option (α × List Char)

/-- A space or a tab. -/
def isSpace (c : Char) : Bool :=
  c == ' ' || c == '\t'

def skipSpace (s : List Char) : List Char :=
  s.dropWhile isSpace

/-- Takes a line end, if there is one. -/
def lineEnd? : List Char → Option (List Char)
  | '\n' :: s => some s
  | '\r' :: '\n' :: s => some s
  | _ => none

/-- Characters that a comment may contain. -/
def isCommentChar (c : Char) : Bool :=
  c == '\t' || c.toNat ≥ 0x20

/-- Skips a comment, if there is one. -/
def skipComment : List Char → List Char
  | '#' :: s => s.dropWhile isCommentChar
  | s => s

/-- Skips white space, comments and line ends. The first argument bounds the number of lines. -/
def skipLines : Nat → List Char → List Char
  | 0, s => s
  | lines + 1, s =>
    let s := skipComment (skipSpace s)
    match lineEnd? s with
    | some s => skipLines lines s
    | none => s

/-- Characters that stand for themselves in a quoted text on one line, the quote apart. -/
def isTextChar (c : Char) : Bool :=
  c == '\t' || (c.toNat ≥ 0x20 && c.toNat != 0x7F)

/-- Skips the white space and line ends that a backslash at the end of a line removes. -/
def skipBreak (s : List Char) : List Char :=
  s.dropWhile fun c => isSpace c || c == '\n' || c == '\r'

/-- Holds when a backslash stands before this text at the end of its line. -/
def endsLine (s : List Char) : Bool :=
  (lineEnd? (skipSpace s)).isSome

/-- Reads an escape behind its backslash. -/
def escape : List Char → Found Char
  | 'b' :: s => some ('\x08', s)
  | 't' :: s => some ('\t', s)
  | 'n' :: s => some ('\n', s)
  | 'f' :: s => some ('\x0c', s)
  | 'r' :: s => some ('\r', s)
  | '"' :: s => some ('"', s)
  | '\\' :: s => some ('\\', s)
  | 'u' :: s => digits 4 s
  | 'U' :: s => digits 8 s
  | _ => none
where
  /-- Reads a code point of so many digits. -/
  digits (count : Nat) (s : List Char) : Found Char :=
    if s.length < count then none
    else (Literal.codePoint? (s.take count)).map fun c => (c, s.drop count)

/-- Reads a text in double quotes on one line, behind the opening quote. -/
def basicText : Nat → List Char → Option (List Char × List Char)
  | 0, _ => none
  | fuel + 1, s => match s with
    | '"' :: s => some ([], s)
    | '\\' :: s => do
      let (c, s) ← escape s
      let (more, s) ← basicText fuel s
      return (c :: more, s)
    | c :: s =>
      if isTextChar c then (basicText fuel s).map fun (more, s) => (c :: more, s) else none
    | [] => none

/-- Reads a text in single quotes on one line, behind the opening quote. -/
def literalText (s : List Char) : Found (List Char) :=
  let inside := s.takeWhile (· != '\x27')
  match s.drop inside.length with
  | _ :: rest => if inside.all isTextChar then some (inside, rest) else none
  | [] => none

/-- Takes three quotes that close a text of several lines, with up to two quotes before them that
belong to the text. -/
def closing? (quote : Char) (s : List Char) : Found (List Char) :=
  let count := (s.takeWhile (· == quote)).length
  if count < 3 then none
  else
    let kept := min (count - 3) 2
    some (List.replicate kept quote, s.drop (kept + 3))

/-- Reads a text of several lines behind its opening quotes. A line end is a line feed in the text. -/
def longText (quote : Char) : Nat → List Char → Option (List Char × List Char)
  | 0, _ => none
  | fuel + 1, s =>
    match closing? quote s with
    | some found => some found
    | none => match lineEnd? s with
      | some s => (longText quote fuel s).map fun (more, s) => ('\n' :: more, s)
      | none => match s with
        | [] => none
        | c :: rest =>
          if c = '\\' ∧ quote = '"' then
            if endsLine rest then longText quote fuel (skipBreak rest)
            else do
              let (d, rest) ← escape rest
              let (more, rest) ← longText quote fuel rest
              return (d :: more, rest)
          else if isTextChar c then
            (longText quote fuel rest).map fun (more, rest) => (c :: more, rest)
          else none

/-- Removes the line end directly behind opening quotes. -/
def dropFirstBreak (s : List Char) : List Char :=
  (lineEnd? s).getD s

/-- Reads a text in quotes of any kind. -/
def quotedText (s : List Char) : Found (List Char) :=
  match s with
  | '"' :: '"' :: '"' :: s => longText '"' (s.length + 1) (dropFirstBreak s)
  | '"' :: s => basicText (s.length + 1) s
  | '\x27' :: '\x27' :: '\x27' :: s => longText '\x27' (s.length + 1) (dropFirstBreak s)
  | '\x27' :: s => literalText s
  | _ => none

/-- Reads one name of a key: bare, or quoted on one line. -/
def keyPart (s : List Char) : Found String :=
  match s with
  | '"' :: s => (basicText (s.length + 1) s).map fun (name, s) => (String.ofList name, s)
  | '\x27' :: s => (literalText s).map fun (name, s) => (String.ofList name, s)
  | s =>
    let name := s.takeWhile Literal.isNameChar
    if name.isEmpty then none else some (String.ofList name, s.drop name.length)

/-- Reads a key: names with dots between them. Fuel bounds the number of names. -/
def key : Nat → List Char → Option (List String × List Char)
  | 0, _ => none
  | fuel + 1, s => do
    let (name, s) ← keyPart (skipSpace s)
    match skipSpace s with
    | '.' :: s => (key fuel s).map fun (more, s) => (name :: more, s)
    | s => return ([name], s)

end ContractSuite.Config.Toml
