import ContractSuite.Text.Parts

namespace ContractSuite

namespace Log

/-- How important a line is. -/
inductive Level
  | error
  | warn
  | info
  | debug
  | trace
  deriving DecidableEq, Repr

/-- The number of a level; the most important one has the least. -/
def Level.rank : Level → Nat
  | .error => 1
  | .warn => 2
  | .info => 3
  | .debug => 4
  | .trace => 5

/-- The word for a level, in five columns. -/
def Level.word : Level → String
  | .error => "ERROR"
  | .warn => " WARN"
  | .info => " INFO"
  | .debug => "DEBUG"
  | .trace => "TRACE"

/-- The number of the colour of a level. -/
def Level.colour : Level → String
  | .error => "31"
  | .warn => "33"
  | .info => "32"
  | .debug => "34"
  | .trace => "35"

/-- A line with named values behind its message. -/
structure Line where
  level : Level
  target : String
  message : String
  fields : List (String × String) := []
  deriving DecidableEq, Repr

/-- A text between two controls of the terminal. -/
def styled (style text : String) : String :=
  "\x1b[" ++ style ++ "m" ++ text ++ "\x1b[0m"

/-- The text of a line. -/
def Line.text (line : Line) : String :=
  let field (entry : String × String) : String :=
    " " ++ styled "3" entry.1 ++ styled "2" "=" ++ entry.2
  styled line.level.colour line.level.word ++ " " ++ styled "2" line.target ++ styled "2" ":" ++ " " ++
    line.message ++ String.join (line.fields.map field)

/-- A rule of a filter: lines whose target starts so are written up to this rank. -/
structure Rule where
  target : String
  rank : Nat
  deriving DecidableEq, Repr

/-- The rules by which lines are written. -/
abbrev Filter := List Rule

/-- The rank that a word or a digit stands for. -/
def rank? (word : String) : Option Nat :=
  match String.ofList (word.toList.map Char.toLower) with
  | "off" => some 0
  | "error" => some 1
  | "warn" => some 2
  | "info" => some 3
  | "debug" => some 4
  | "trace" => some 5
  | "0" => some 0
  | "1" => some 1
  | "2" => some 2
  | "3" => some 3
  | "4" => some 4
  | "5" => some 5
  | _ => none

/-- Holds of the characters of a target. -/
def isTargetChar (c : Char) : Bool :=
  c.isAlphanum || c == '_' || c == ':' || c == '-'

/-- Reads one rule: a level, a target, or both with an equals sign between them. -/
def rule? (text : List Char) : Option Rule :=
  let target := text.takeWhile (· != '=')
  match text.drop target.length with
  | [] => match rank? (String.ofList text) with
    | some rank => some ⟨"", rank⟩
    | none => if target.all isTargetChar then some ⟨String.ofList target, 5⟩ else none
  | _ :: level =>
    if target.isEmpty || !target.all isTargetChar then none
    else if level.isEmpty then some ⟨String.ofList target, 5⟩
    else (rank? (String.ofList level)).map fun rank => ⟨String.ofList target, rank⟩

/-- Reads a filter. Without any rule only errors are written. -/
def Filter.read? (text : String) : Option Filter := do
  let rules ← ((Text.parts (· == ',') text.toList).filter (!·.isEmpty)).mapM rule?
  return if rules.isEmpty then [⟨"", 1⟩] else rules

/-- The filter when none is given. -/
def Filter.usual : Filter := [⟨"", 3⟩]

/-- Holds of the lines that are written: the rule with the longest target decides, and of two with the same
target the later one. -/
def Filter.admits (filter : Filter) (line : Line) : Bool :=
  let fitting := filter.filter fun rule => rule.target.toList.isPrefixOf line.target.toList
  let best := fitting.foldl (fun best rule => match best with
    | none => some rule
    | some (other : Rule) => if other.target.length ≤ rule.target.length then some rule else some other) none
  match best with
  | none => false
  | some rule => line.level.rank ≤ rule.rank

end Log

end ContractSuite
