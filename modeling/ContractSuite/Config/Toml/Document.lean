import ContractSuite.Config.Toml.Scalar
import ContractSuite.Config.Toml.Tree

namespace ContractSuite.Config.Toml

mutual

/-- Reads a value. The first argument bounds the number of steps. -/
def value : Nat → List Char → Option (Value × List Char)
  | 0, _ => none
  | fuel + 1, s => match s with
    | '[' :: s => (items fuel s).map fun (found, s) => (.list found, s)
    | '{' :: s => match skipSpace s with
      | '}' :: s => some (.table [], s)
      | s => do
        let (found, s) ← pairs fuel [] s
        return (.table (toRecord found), s)
    | '"' :: _ => (quotedText s).map fun (found, s) => (.text (String.ofList found), s)
    | '\x27' :: _ => (quotedText s).map fun (found, s) => (.text (String.ofList found), s)
    | s => scalar s

/-- Reads the items of a list up to its bracket. A comma may follow the last item. -/
def items : Nat → List Char → Option (List Value × List Char)
  | 0, _ => none
  | fuel + 1, s => match skipLines (s.length + 1) s with
    | ']' :: s => some ([], s)
    | s => do
      let (found, s) ← value fuel s
      match skipLines (s.length + 1) s with
      | ',' :: s => (items fuel s).map fun (more, s) => (found :: more, s)
      | ']' :: s => return ([found], s)
      | _ => none

/-- Reads the pairs of a table in braces up to its brace. No comma follows the last pair. -/
def pairs : Nat → Entries → List Char → Option (Entries × List Char)
  | 0, _, _ => none
  | fuel + 1, entries, s => do
    let (path, s) ← key (s.length + 1) s
    match s with
    | '=' :: s =>
      let (found, s) ← value fuel (skipSpace s)
      let entries ← entries.addValue path.dropLast (path.getLastD "") found
      match skipSpace s with
      | ',' :: s => pairs fuel entries s
      | '}' :: s => return (entries, s)
      | _ => none
    | _ => none

end

/-- Accepts the rest of a line: nothing but white space and a comment. Gives the following lines, or
nothing behind them if the document ends here. -/
def restOfLine (s : List Char) : Option (Option (List Char)) :=
  match skipComment (skipSpace s) with
  | [] => some none
  | s => (lineEnd? s).map some

/-- A document that is being read: its tables, and the path of the table that keys go to. -/
structure Reading where
  entries : Entries := []
  current : List String := []

/-- Reads one line without its end. -/
def line (doc : Reading) (s : List Char) : Option (Reading × List Char) :=
  match skipSpace s with
  | [] => some (doc, [])
  | '#' :: s => some (doc, '#' :: s)
  | '\n' :: s => some (doc, '\n' :: s)
  | '\r' :: s => some (doc, '\r' :: s)
  | '[' :: '[' :: s => do
    let (path, s) ← key (s.length + 1) s
    match s with
    | ']' :: ']' :: s =>
      let entries ← doc.entries.appendTable path.dropLast (path.getLastD "")
      return ({ entries, current := path }, s)
    | _ => none
  | '[' :: s => do
    let (path, s) ← key (s.length + 1) s
    match s with
    | ']' :: s =>
      let entries ← doc.entries.stateTable path.dropLast (path.getLastD "")
      return ({ entries, current := path }, s)
    | _ => none
  | s => do
    let (path, s) ← key (s.length + 1) s
    match s with
    | '=' :: s =>
      let (found, s) ← value (2 * s.length + 2) (skipSpace s)
      let add (_ : Option Origin) (inner : Entries) : Option Entries :=
        inner.addValue path.dropLast (path.getLastD "") found
      let entries ← Entries.descend .implied add doc.current none doc.entries
      return ({ doc with entries }, s)
    | _ => none

/-- Reads lines to the end of the document. The first argument bounds their number. -/
def lines : Nat → Reading → List Char → Option Reading
  | 0, _, _ => none
  | fuel + 1, doc, s => do
    let (doc, s) ← line doc s
    match ← restOfLine s with
    | none => return doc
    | some s => lines fuel doc s

/-- Removes a byte order mark at the front. -/
def dropMark : List Char → List Char
  | c :: s => if c.toNat = 0xFEFF then s else c :: s
  | [] => []

/-- Reads a document. -/
def read? (text : String) : Option Record :=
  let s := dropMark text.toList
  (lines (s.length + 1) {} s).map fun doc => toRecord doc.entries

end ContractSuite.Config.Toml
