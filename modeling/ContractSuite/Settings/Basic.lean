import ContractSuite.Error
import ContractSuite.Text.Blank

namespace ContractSuite

/-- The settings of a run. -/
structure Settings where
  /-- Host of the contract server. -/
  host : String := "localhost"
  /-- Port of the contract server, below `2 ^ 16`. -/
  port : Nat := 8090
  /-- Limit on one request to the contract server, below `2 ^ 64`. -/
  httpTimeout : Milliseconds := 30000
  /-- Program that runs a scenario. -/
  runner : String := "cucumber"
  /-- Directory of feature files that the runner is given. -/
  featuresDir : String := "features"
  /-- Report format that the runner is asked for. -/
  reportFormat : String := "junit"
  /-- Directory that receives a report for each scenario. -/
  resultsDir : String := "results"
  /-- Step program that is launched before each scenario. -/
  steps : String := "./steps"
  /-- Budget of one run of the runner, below `2 ^ 64`. -/
  runnerTimeout : Milliseconds := 1800000
  /-- Address at which the step program listens once it is ready; without one nobody waits for it. -/
  stepsReadyAddress : Option String := none
  /-- Limit on the wait for the step program, below `2 ^ 64`. -/
  stepsReadyTimeout : Milliseconds := 10000
  deriving DecidableEq, Repr

namespace Settings

/-- Requires a text that is not blank. -/
def requireText (key value : String) : Except InvalidSetting Unit :=
  if Text.isBlankText value then .error ⟨key, "must not be empty"⟩ else .ok ()

/-- Requires a length of time that is not zero. -/
def requirePositive (key : String) (value : Milliseconds) : Except InvalidSetting Unit :=
  if value = 0 then .error ⟨key, "must be greater than zero"⟩ else .ok ()

/-- Checks the settings and names the first that makes no sense. -/
def validate (s : Settings) : Except InvalidSetting Unit := do
  requireText "host" s.host
  requireText "runner" s.runner
  requireText "steps" s.steps
  requireText "report_format" s.reportFormat
  requirePositive "http_timeout_ms" s.httpTimeout
  requirePositive "runner_timeout_ms" s.runnerTimeout
  match s.stepsReadyAddress with
  | none => return ()
  | some address =>
    requireText "steps_ready_address" address
    requirePositive "steps_ready_timeout_ms" s.stepsReadyTimeout

end Settings

end ContractSuite
