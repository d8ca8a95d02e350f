import ContractSuite.Config.File
import ContractSuite.Environment

namespace ContractSuite.Config

/-- The variable that names a configuration file. -/
def pathVariable : String := "CONTRACT_RUNNER_CONFIG_PATH"

/-- The directory of configurations for all users. -/
def sharedDirectory : String := "/etc/xdg"

/-- The name of a configuration file that stands among others. -/
def hiddenName : String := ".contract_runner.toml"

/-- The configuration files that a directory may hold. -/
def filesIn (directory : String) : List String :=
  [Path.join directory "contract_runner/config.toml", Path.join directory hiddenName]

/-- The value of a variable, unless it is empty. -/
def nonEmpty? (e : Environment) (key : String) : Option String :=
  (e.get? key).filter (· ≠ "")

/-- The directories in a list that are separated by colons. -/
def directories (list : String) : List String :=
  (Text.parts (· == ':') list.toList).filterMap fun name => if name.isEmpty then none else some (String.ofList name)

/-- The directories of configurations for all users; without any the usual one. -/
def sharedDirectories (e : Environment) : List String :=
  match directories ((e.get? "XDG_CONFIG_DIRS").getD "") with
  | [] => [sharedDirectory]
  | found => found

/-- The candidates that nobody asks for by an argument, in their order. -/
def optionalCandidates (t : FileTree) (e : Environment) : List String :=
  let home := (nonEmpty? e "HOME").toList
  let byVariable := (nonEmpty? e pathVariable).toList
  let ofUser := (nonEmpty? e "XDG_CONFIG_HOME").toList.flatMap filesIn
  let ofAll := (sharedDirectories e).flatMap filesIn
  let underHome := home.flatMap fun h => filesIn (Path.join h ".config") ++ [Path.join h hiddenName]
  let here := Path.join (FileTree.locationText t.current) hiddenName
  byVariable ++ ofUser ++ ofAll ++ underHome ++ [here]

/-- The required configuration file is missing. -/
def requiredMissing : OsError :=
  .stated .notFound "required configuration file not found"

/-- The first candidate that can be read. `failures` are those of the candidates before. -/
def firstReadable (t : FileTree) :
    List ConfigError → List String → Except ConfigError (Option Record)
  | failures, [] => match ConfigError.gather? failures with
    | some error => .error error
    | none => .ok none
  | failures, path :: more => match readFile? t path with
    | .ok (some record) => .ok (some record)
    | .ok none => firstReadable t failures more
    | .error error => firstReadable t (failures ++ [error]) more

/-- The record in the configuration file, if there is one. A path that is given has to lead to it; an empty
one counts as none. -/
def discover (t : FileTree) (e : Environment) (required : Option String) :
    Except ConfigError (Option Record) :=
  match required.filter (· ≠ "") with
  | some path => match readFile? t path with
    | .ok (some record) => .ok (some record)
    | .ok none => .error (.file path (.refused requiredMissing))
    | .error error => .error error
  | none => firstReadable t [] (optionalCandidates t e).eraseDups

end ContractSuite.Config
