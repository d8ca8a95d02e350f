import ContractSuite.Suite

namespace ContractSuite.CommandLine

/-- What a call of the program leaves behind. -/
structure Result where
  exitCode : Nat
  output : String := ""
  errorOutput : String := ""
  deriving Repr

/-- The variable that holds the filter of log lines. -/
def filterVariable : String := "RUST_LOG"

/-- The filter of log lines. One that cannot be read counts as none. -/
def filterOf (e : Environment) : Log.Filter :=
  ((e.get? filterVariable).bind Log.Filter.read?).getD Log.Filter.usual

/-- The text of the log lines that a filter admits. -/
def logText (filter : Log.Filter) (latestFirst : List Log.Line) : String :=
  String.join ((latestFirst.reverse.filter filter.admits).map fun line => line.text ++ "\n")

/-- The text of a fatal error: its message, and the failure that it wraps. -/
def fatalText (error : SuiteError) : String :=
  let causes := error.message :: error.source?.toList
  "Error: \n" ++ String.join (causes.map fun cause => "   " ++ cause ++ "\n")

/-- How the program is used. -/
def usage : String :=
  "Usage: contract-runner [OPTIONS] <FEATURE_FILE> [HOSTNAME]\n"

/-- Answers a command line that starts no run. -/
def refuse : Arguments.Stop → Result
  | .help => { exitCode := Arguments.Stop.help.exitCode, output := usage }
  | .version => { exitCode := Arguments.Stop.version.exitCode, output := Arguments.versionText }
  | .misuse m => { exitCode := (Arguments.Stop.misuse m).exitCode, errorOutput := usage }

/-- Calls the program in a world. -/
def call (arguments : List String) (w : World) : Result × World :=
  match Arguments.read arguments with
  | .error stop => (refuse stop, w)
  | .ok arguments =>
    let (result, after) := (Suite.run arguments).run.run w
    let fatal := match result with
      | .ok _ => ""
      | .error error => fatalText error
    let logged := logText (filterOf w.site.environment) after.log
    ({ exitCode := Suite.exitCode result, errorOutput := logged ++ fatal }, after)

end ContractSuite.CommandLine
