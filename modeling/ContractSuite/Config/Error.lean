import ContractSuite.OsError

namespace ContractSuite

/-- Why a configuration file cannot be used. -/
inductive Config.FileFault
  /-- The file cannot be read, or is not of a kind that can be. -/
  | refused (error : OsError)
  /-- The text of the file is not a document. -/
  | unparsable
  deriving DecidableEq, Repr

/-- In what way a value does not fit its key. -/
inductive Config.MismatchKind
  /-- The value is of another type. -/
  | type
  /-- The value is of the right type and out of range. -/
  | value
  deriving DecidableEq, Repr

/-- Why a configuration cannot be loaded. -/
inductive ConfigError
  /-- A file cannot be used. -/
  | file (path : String) (fault : Config.FileFault)
  /-- Files include each other in a circle, which is given by their paths. -/
  | cyclicExtends (circle : List String)
  /-- The value of a key does not fit. -/
  | mismatch (key : String) (kind : Config.MismatchKind)
  /-- Several causes. -/
  | several (errors : List ConfigError)
  deriving Repr

namespace ConfigError

/-- One cause stands for itself, several are gathered, and none is no error. -/
def gather? : List ConfigError → Option ConfigError
  | [] => none
  | [error] => some error
  | errors => some (.several errors)

/-- The text that names a circle of files. -/
def circleText (circle : List String) : String :=
  " -> ".intercalate circle

/-- The text of a cause. -/
def text : ConfigError → String
  | .file path (.refused error) => "configuration file error in '" ++ path ++ "': " ++ error.text
  | .file path .unparsable => "configuration file error in '" ++ path ++ "': not a document"
  | .cyclicExtends circle => "cyclic extends detected: " ++ circleText circle
  | .mismatch key .type => "invalid type for key \"" ++ key ++ "\""
  | .mismatch key .value => "invalid value for key \"" ++ key ++ "\""
  | .several errors => "multiple configuration errors:" ++ several errors
where
  /-- The texts of several causes, each on a line of its own. -/
  several : List ConfigError → String
    | [] => ""
    | error :: more => "\n" ++ text error ++ several more

end ConfigError

end ContractSuite
