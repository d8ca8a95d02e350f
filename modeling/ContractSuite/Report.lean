import ContractSuite.Error
import ContractSuite.Json.Value
import ContractSuite.Text.Blank

namespace ContractSuite

/-- What a contract server reports. -/
structure ExpectationReport where
  failed : Json.Value
  deriving Repr

namespace ExpectationReport

open Json

/-- A record of one field: what messages call it, and the name of the field. -/
structure Shape where
  title : String
  field : String

/-- The number of lists and objects that may be open at once. -/
def maximalDepth : Nat := 127

/-- Names what stands in place of a record. A broken literal is reported as such. -/
def mismatch (shape : Shape) (s : List Char) : Fault :=
  let found (what : String) : Fault :=
    .unsuitable ("invalid type: " ++ what ++ ", expected struct " ++ shape.title)
  let checked {α : Type} (reading : Except Fault α) (what : α → String) : Fault :=
    match reading with
    | .error fault => fault
    | .ok a => found (what a)
  match s with
  | 'n' :: s => checked (word ['u', 'l', 'l'] s) fun _ => "null"
  | 't' :: s => checked (word ['r', 'u', 'e'] s) fun _ => "boolean `true`"
  | 'f' :: s => checked (word ['a', 'l', 's', 'e'] s) fun _ => "boolean `false`"
  | '"' :: s => checked (Quotation.read s) fun (text, _) =>
      "string " ++ Text.quoted (String.ofList text)
  | '-' :: s => checked (Number.read true s) fun (n, _) => n.description
  | c :: s =>
    if c.isDigit then checked (Number.read false (c :: s)) fun (n, _) => n.description
    else .malformed
  | [] => .truncated

/-- Reads the members of a record written as an object. Other members are skipped; the field has to
be there once. The first argument bounds the number of members. -/
def readMembers {α : Type} (shape : Shape) (readField : List Char → Reading α) :
    Nat → Option α → Bool → List Char → Reading α
  | 0, _, _, _ => .error .truncated
  | fuel + 1, found?, isFirst, s =>
    match nextMember isFirst s with
    | .error fault => .error fault
    | .ok (.closed s) => match found? with
      | some a => .ok (a, s)
      | none => .error (.unsuitable ("missing field `" ++ shape.field ++ "`"))
    | .ok (.further s) => match Quotation.read s with
      | .error fault => .error fault
      | .ok (name, s) =>
        if name = shape.field.toList then
          if found?.isSome then .error (.unsuitable ("duplicate field `" ++ shape.field ++ "`"))
          else match colon s with
            | .error fault => .error fault
            | .ok s => match readField s with
              | .error fault => .error fault
              | .ok (a, s) => readMembers shape readField fuel (some a) false s
        else match colon s with
          | .error fault => .error fault
          | .ok s => match skipValue s with
            | .error fault => .error fault
            | .ok s => readMembers shape readField fuel found? false s

/-- Reads the field of a record written as a list. -/
def readSoleItem {α : Type} (shape : Shape) (readField : List Char → Reading α) (s : List Char) :
    Reading α :=
  match nextItem true s with
  | .error fault => .error fault
  | .ok (.closed _) =>
    .error (.unsuitable ("invalid length 0, expected struct " ++ shape.title ++ " with 1 element"))
  | .ok (.further s) => match readField s with
    | .error fault => .error fault
    | .ok (a, s) => match closeList s with
      | .error fault => .error fault
      | .ok s => .ok (a, s)

/-- Reads a record in which at most `depth` lists and objects may be open at once. -/
def readRecord {α : Type} (shape : Shape) (readField : Nat → List Char → Reading α) (depth : Nat)
    (s : List Char) : Reading α :=
  match skipSpace s, depth with
  | [], _ => .error .truncated
  | '[' :: _, 0 => .error .malformed
  | '{' :: _, 0 => .error .malformed
  | '[' :: s, depth + 1 => readSoleItem shape (readField depth) s
  | '{' :: s, depth + 1 => readMembers shape (readField depth) (s.length + 1) none true s
  | s, _ => .error (mismatch shape s)

/-- The record that the field `expectations` holds. -/
def innerShape : Shape := ⟨"Expectations", "failed"⟩

/-- The record that is the whole report. -/
def outerShape : Shape := ⟨"ExpectationReport", "expectations"⟩

/-- Reads a report and nothing behind it. -/
def read (body : String) : Except Fault ExpectationReport := do
  let (failed, rest) ← readRecord outerShape (readRecord innerShape readValue) maximalDepth body.toList
  finish rest
  return ⟨failed⟩

/-- Accepts the body of an answer if it is a report without failed expectations. -/
def evaluate (body : String) : Except SuiteError Unit :=
  match read body with
  | .error fault => .error (.expectationReport fault)
  | .ok report =>
    if report.failed.isTruthy then .error (.expectationsFailed (Text.trim body)) else .ok ()

end ExpectationReport

end ContractSuite
