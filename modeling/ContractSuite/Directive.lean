import ContractSuite.Text.Blank
import ContractSuite.Text.Find
import ContractSuite.Text.Quoted

namespace ContractSuite

/-- What a directive names. -/
inductive DirectiveKind
  | contract
  | scenario
  deriving DecidableEq, Repr

namespace DirectiveKind

/-- The text that introduces a directive. -/
def marker : DirectiveKind → String
  | .contract => "@contract="
  | .scenario => "Scenario:"

/-- The word for a kind of directive. -/
def word : DirectiveKind → String
  | .contract => "contract"
  | .scenario => "scenario"

/-- The name that the text behind a marker gives: for a contract all before the first blank, for a
scenario all of it without the blanks at its ends. -/
def nameIn : DirectiveKind → List Char → List Char
  | .contract, rest => rest.takeWhile (!Text.isBlank ·)
  | .scenario, rest => Text.trimBlank rest

/-- The character that no name of this kind contains. -/
def forbidden : DirectiveKind → Char
  | .contract => '='
  | .scenario => ':'

/-- Holds of the names that a directive may give. -/
def accepts (kind : DirectiveKind) (name : List Char) : Bool :=
  !name.isEmpty && !name.contains kind.forbidden

end DirectiveKind

/-- A line with a marker and no proper name behind it. -/
structure MalformedDirective where
  kind : DirectiveKind
  lineNumber : Nat
  line : String
  deriving DecidableEq, Repr

/-- The text of a malformed directive: the line stands in quotes, so that it stays one line. -/
def MalformedDirective.message (d : MalformedDirective) : String :=
  "malformed " ++ d.kind.word ++ " directive on line " ++ toString d.lineNumber ++ ": " ++
    Text.quoted d.line

/-- The name that a line gives in a directive of this kind, if the line has the marker. -/
def directive? (kind : DirectiveKind) (line : String) (lineNumber : Nat) :
    Except MalformedDirective (Option String) :=
  match Text.cut? kind.marker.toList line.toList with
  | none => .ok none
  | some (_, rest) =>
    let name := kind.nameIn rest
    if kind.accepts name then .ok (some (String.ofList name))
    else .error ⟨kind, lineNumber, line⟩

end ContractSuite
