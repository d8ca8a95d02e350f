import ContractSuite.Config.Error
import ContractSuite.Directive
import ContractSuite.Duration
import ContractSuite.Json.Reading

namespace ContractSuite

/-- A setting whose value makes no sense. -/
structure InvalidSetting where
  key : String
  reason : String
  deriving DecidableEq, Repr

/-- A cause that stops a run. -/
inductive SuiteError
  /-- The settings cannot be loaded. -/
  | configuration (cause : ConfigError)
  /-- A setting makes no sense. -/
  | invalidSetting (setting : InvalidSetting)
  /-- A directive of the feature file is malformed. -/
  | malformedDirective (directive : MalformedDirective)
  /-- The address of the contract server is no URL; the text of the URL is given. -/
  | invalidUrl (url reason : String)
  /-- The contract server cannot be reached or does not answer properly. -/
  | http (url : String)
  /-- The contract server refuses a request. -/
  | httpStatus (url : String) (status : Nat)
  /-- The answer of the contract server is no expectation report. -/
  | expectationReport (fault : Json.Fault)
  /-- The report tells of failed expectations. -/
  | expectationsFailed (report : String)
  /-- A program cannot be started. -/
  | spawn (program : String) (error : OsError)
  /-- A program that runs cannot be waited for. -/
  | wait (program : String) (error : OsError)
  /-- The step program does not listen in time. -/
  | stepsNotReady (address : String) (timeout : Nanoseconds)
  /-- A file or a directory cannot be used. -/
  | io (path : String) (error : OsError)
  deriving Repr

namespace Json

/-- How a message names a fault. -/
def Fault.text : Fault → String
  | .malformed => "malformed document"
  | .truncated => "document ends too early"
  | .unsuitable detail => detail

end Json

namespace SuiteError

/-- The text of an error. -/
def message : SuiteError → String
  | .configuration cause => "failed to load configuration: " ++ cause.text
  | .invalidSetting setting => "invalid setting `" ++ setting.key ++ "`: " ++ setting.reason
  | .malformedDirective directive => directive.message
  | .invalidUrl url reason => "invalid contract server URL " ++ url ++ ": " ++ reason
  | .http url => "request to " ++ url ++ " failed: no proper answer"
  | .httpStatus url status =>
    "contract server rejected " ++ url ++ " with status " ++ toString status
  | .expectationReport fault => "unreadable expectation report: " ++ fault.text
  | .expectationsFailed report => "contract expectations failed: " ++ report
  | .spawn program error => "failed to spawn `" ++ program ++ "`: " ++ error.text
  | .wait program error => "failed while waiting for `" ++ program ++ "`: " ++ error.text
  | .stepsNotReady address timeout =>
    "step process did not accept connections on " ++ address ++ " within " ++ timeout.text
  | .io path error => "I/O error at " ++ path ++ ": " ++ error.text

/-- The text of the failure that an error wraps, if it wraps one of the operating system. -/
def source? : SuiteError → Option String
  | .spawn _ error | .wait _ error | .io _ error => some error.text
  | _ => none

end SuiteError

end ContractSuite
