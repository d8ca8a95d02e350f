import ContractSuite.Error
import ContractSuite.Text.Line

namespace ContractSuite

/-- An action over a state that may end in a fatal error. The state lives on after an error. -/
abbrev Act (σ α : Type) : Type := ExceptT SuiteError (StateM σ) α

/-- What a scan needs of a contract server. -/
structure ContractServer (σ : Type) where
  /-- Loads the contract of this name. -/
  initContract : String → Act σ Unit
  /-- Verifies the expectations of the contract loaded last. -/
  checkExpectations : Act σ Unit

/-- How a scenario ended. -/
inductive ScenarioStatus
  | passed
  /-- The runner ended with this exit code, or by a signal and without a code. -/
  | failed (code? : Option Int)
  | timedOut
  deriving DecidableEq, Repr

/-- Holds of the one status that counts as success. -/
def ScenarioStatus.isSuccess : ScenarioStatus → Bool
  | .passed => true
  | _ => false

/-- What a scan needs to run scenarios. -/
structure ScenarioExecutor (σ : Type) where
  /-- Runs the scenario of this name. -/
  runScenario : String → Act σ ScenarioStatus

/-- The flags and counters of a scan. -/
structure ScanState where
  /-- A contract has been initialised and its expectations are not checked yet. -/
  pendingCheck : Bool := false
  /-- Some scenario did not pass. -/
  suiteFailed : Bool := false
  contractsInitialised : Nat := 0
  scenariosRun : Nat := 0
  scenariosFailed : Nat := 0
  deriving DecidableEq, Repr, Inhabited

/-- The result of a scan that met no fatal error. -/
structure SuiteOutcome where
  suiteFailed : Bool
  contractsInitialised : Nat
  scenariosRun : Nat
  scenariosFailed : Nat
  deriving DecidableEq, Repr

/-- The exit code of a finished suite. -/
def SuiteOutcome.exitCode (outcome : SuiteOutcome) : Nat :=
  if outcome.suiteFailed then 1 else 0

namespace ScanState

/-- The outcome that a state amounts to at the end of a feature file. -/
def outcome (state : ScanState) : SuiteOutcome where
  suiteFailed := state.suiteFailed
  contractsInitialised := state.contractsInitialised
  scenariosRun := state.scenariosRun
  scenariosFailed := state.scenariosFailed

/-- The state after a contract has been initialised. -/
def afterContract (state : ScanState) : ScanState :=
  { state with pendingCheck := true, contractsInitialised := state.contractsInitialised + 1 }

/-- The state after a scenario has ended. -/
def afterScenario (state : ScanState) (status : ScenarioStatus) : ScanState :=
  if status.isSuccess then { state with scenariosRun := state.scenariosRun + 1 }
  else { state with
    scenariosRun := state.scenariosRun + 1
    scenariosFailed := state.scenariosFailed + 1
    suiteFailed := true }

/-- The state after the expectations have been checked. -/
def afterCheck (state : ScanState) : ScanState :=
  { state with pendingCheck := false }

end ScanState

namespace Scan

variable {σ : Type}

/-- The name that a line gives in a directive of this kind; a malformed directive is fatal. -/
def nameOnLine (kind : DirectiveKind) (line : String) (lineNumber : Nat) : Act σ (Option String) :=
  match directive? kind line lineNumber with
  | .ok name? => pure name?
  | .error directive => throw (.malformedDirective directive)

/-- Initialises the contract that a line names, if it names one. -/
def contractStep (server : ContractServer σ) (line : String) (lineNumber : Nat)
    (state : ScanState) : Act σ ScanState := do
  match ← nameOnLine .contract line lineNumber with
  | none => return state
  | some contract =>
    server.initContract contract
    return state.afterContract

/-- Runs the scenario that a line names, if it names one. -/
def scenarioStep (executor : ScenarioExecutor σ) (line : String) (lineNumber : Nat)
    (state : ScanState) : Act σ ScanState := do
  match ← nameOnLine .scenario line lineNumber with
  | none => return state
  | some scenario =>
    let status ← executor.runScenario scenario
    return state.afterScenario status

/-- Checks the expectations of a contract that awaits it. -/
def checkStep (server : ContractServer σ) (state : ScanState) : Act σ ScanState := do
  if state.pendingCheck then
    server.checkExpectations
    return state.afterCheck
  else return state

/-- Processes one line. The number of the line only serves messages. -/
def processLine (server : ContractServer σ) (executor : ScenarioExecutor σ) (state : ScanState)
    (line : String) (lineNumber : Nat) : Act σ ScanState := do
  let state ← contractStep server line lineNumber state
  let state ← scenarioStep executor line lineNumber state
  checkStep server state

/-- Processes lines one after another, the first of which has the number given. -/
def processLines (server : ContractServer σ) (executor : ScenarioExecutor σ) :
    ScanState → Nat → List String → Act σ ScanState
  | state, _, [] => pure state
  | state, lineNumber, line :: more => do
    let state ← processLine server executor state line lineNumber
    processLines server executor state (lineNumber + 1) more

/-- Scans the text of a feature file. -/
def scanFeature (server : ContractServer σ) (executor : ScenarioExecutor σ) (contents : String) :
    Act σ SuiteOutcome := do
  let state ← processLines server executor {} 1 (Text.lines contents)
  return state.outcome

end Scan

end ContractSuite
