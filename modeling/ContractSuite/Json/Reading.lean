namespace ContractSuite.Json

/-- Why a text is not the document that was asked for. -/
inductive Fault
  /-- The grammar of documents is broken. -/
  | malformed
  /-- The text ends too early. -/
  | truncated
  /-- The document is well formed as far as it was read, and of the wrong shape. -/
  | unsuitable (detail : String)
  deriving DecidableEq, Repr

/-- What a reader found, and the text behind it. -/
abbrev Reading (α : Type) := Except Fault (α × List Char)

/-- White space between the tokens of a document. -/
def isSpace (c : Char) : Bool :=
  c == ' ' || c == '\n' || c == '\t' || c == '\r'

/-- The text from its first token on. -/
def skipSpace (s : List Char) : List Char :=
  s.dropWhile isSpace

/-- Takes the rest of a word such as `null` of which the first letter has been seen. -/
def word : List Char → List Char → Except Fault (List Char)
  | [], s => .ok s
  | _ :: _, [] => .error .truncated
  | c :: more, d :: s => if c = d then word more s else .error .malformed

/-- Takes the colon between the name and the value of a member. -/
def colon (s : List Char) : Except Fault (List Char) :=
  match skipSpace s with
  | [] => .error .truncated
  | ':' :: rest => .ok rest
  | _ :: _ => .error .malformed

/-- What follows inside a list or an object. -/
inductive Next
  /-- A further item or the name of a further member, at which the text given starts. -/
  | further (s : List Char)
  /-- The closing bracket or brace, behind which the text given starts. -/
  | closed (s : List Char)

/-- Looks for a further item of a list, behind the comma unless it is the first one. -/
def nextItem (isFirst : Bool) (s : List Char) : Except Fault Next :=
  match skipSpace s with
  | [] => .error .truncated
  | ']' :: rest => .ok (.closed rest)
  | c :: rest =>
    if isFirst then .ok (.further (c :: rest))
    else if c = ',' then
      match skipSpace rest with
      | [] => .error .truncated
      | ']' :: _ => .error .malformed
      | item => .ok (.further item)
    else .error .malformed

/-- Looks for a further member of an object and takes the quote that opens its name. -/
def nextMember (isFirst : Bool) (s : List Char) : Except Fault Next :=
  match skipSpace s with
  | [] => .error .truncated
  | '}' :: rest => .ok (.closed rest)
  | c :: rest =>
    if isFirst then
      if c = '"' then .ok (.further rest) else .error .malformed
    else if c = ',' then
      match skipSpace rest with
      | [] => .error .truncated
      | '"' :: name => .ok (.further name)
      | _ :: _ => .error .malformed
    else .error .malformed

/-- Takes the bracket that closes a list of one item. -/
def closeList (s : List Char) : Except Fault (List Char) :=
  match skipSpace s with
  | [] => .error .truncated
  | ']' :: rest => .ok rest
  | _ :: _ => .error .malformed

/-- Accepts the end of the text and nothing but white space before it. -/
def finish (s : List Char) : Except Fault Unit :=
  if (skipSpace s).isEmpty then .ok () else .error .malformed

/-- The number of bytes of a text. -/
def byteLength (s : List Char) : Nat :=
  s.foldl (fun n c => n + c.utf8Size) 0

end ContractSuite.Json
