import ContractSuite.Config.Literal
import ContractSuite.Environment
import ContractSuite.Text.Parts

namespace ContractSuite.Config

/-- The start of the names of all variables that give settings. -/
def variableStart : String := "CONTRACT_RUNNER_"

/-- A letter of the alphabet as a small one. -/
def lowerCase (s : List Char) : List Char :=
  s.map Char.toLower

/-- The setting that a variable gives, if it gives one: names that lead into tables, none of them empty. -/
def settingPath? (name : String) : Option (List String) :=
  let chars := name.toList
  let start := variableStart.toList
  if lowerCase (chars.take start.length) = lowerCase start then
    let rest := Text.trimBlank (lowerCase (chars.drop start.length))
    let path := (Text.parts (· == '.') rest).map String.ofList
    if path.contains "" then none else some path
  else none

/-- A value inside tables with the given names. -/
def nested (value : Value) : List String → Value
  | [] => value
  | name :: path => .table [(name, nested value path)]

/-- The settings that an environment gives. -/
def ofEnvironment (e : Environment) : Record :=
  let sorted := e.mergeSort fun a b => decide (a.1 ≤ b.1)
  (sorted.filterMap entry?).reverse
where
  /-- The entry for a variable. -/
  entry? (given : String × String) : Option (String × Value) :=
    match settingPath? given.1 with
    | none | some [] => none
    | some (name :: path) => some (name, nested (Literal.read given.2) path)

end ContractSuite.Config
