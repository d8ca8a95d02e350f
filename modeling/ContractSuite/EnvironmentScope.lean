import ContractSuite.Environment
import ContractSuite.Text.Quoted

namespace ContractSuite

/-- A change of one variable: a new value, or none. -/
structure VariableChange where
  key : String
  value : Option String
  deriving DecidableEq, Repr

/-- The value that a variable had before a change. -/
structure VariableGuard where
  key : String
  former : Option String
  deriving DecidableEq, Repr

/-- The guards of changes, in the order of the changes. -/
structure EnvironmentScope where
  guards : List VariableGuard
  deriving DecidableEq, Repr

namespace VariableChange

/-- Makes a change and gives its guard. -/
def apply (change : VariableChange) (e : Environment) : VariableGuard × Environment :=
  (⟨change.key, e.get? change.key⟩, e.put change.key change.value)

end VariableChange

namespace VariableGuard

/-- Puts back the value from before the change. -/
def restore (guard : VariableGuard) (e : Environment) : Environment :=
  e.put guard.key guard.former

/-- The text of a guard. -/
def description (guard : VariableGuard) : String :=
  let hadFormer := if guard.former.isSome then "true" else "false"
  "EnvVarGuard \x7b key: " ++ Text.quoted guard.key ++ ", had_original: " ++ hadFormer ++ ", .. \x7d"

end VariableGuard

namespace EnvironmentScope

/-- Makes changes one after another and gives their guards. -/
def applyAll : List VariableChange → Environment → List VariableGuard × Environment
  | [], e => ([], e)
  | change :: more, e =>
    let (guard, e) := change.apply e
    let (guards, e) := applyAll more e
    (guard :: guards, e)

/-- Opens a scope with changes. -/
def enter (changes : List VariableChange) (e : Environment) : EnvironmentScope × Environment :=
  let (guards, e) := applyAll changes e
  (⟨guards⟩, e)

/-- Closes a scope. -/
def leave (scope : EnvironmentScope) (e : Environment) : Environment :=
  scope.guards.foldl (fun e guard => guard.restore e) e

/-- The text of a scope. -/
def description (scope : EnvironmentScope) : String :=
  "EnvScope \x7b guards: [" ++ ", ".intercalate (scope.guards.map VariableGuard.description) ++ "], .. \x7d"

end EnvironmentScope

end ContractSuite
