import ContractSuite.Network.Endpoint
import ContractSuite.Supervision.Readiness
import ContractSuite.ReportLocation
import ContractSuite.World.Programs

namespace ContractSuite

/-- When the step program counts as ready. -/
structure Readiness where
  address : String
  timeout : Nanoseconds
  deriving DecidableEq, Repr

/-- The programs and limits for running scenarios. -/
structure ExecutorConfig where
  runner : String
  featuresDir : String
  reportFormat : String
  resultsDir : String
  steps : String
  runnerTimeout : Nanoseconds
  readiness : Option Readiness := none
  deriving DecidableEq, Repr

namespace ExecutorConfig

/-- The arguments with which the runner is started for a scenario. -/
def runnerArguments (config : ExecutorConfig) (scenario : String) : List String :=
  [config.featuresDir, "-n", scenario, "-f", config.reportFormat, "-o",
    reportLocation config.resultsDir scenario]

end ExecutorConfig

/-- The status that a wait for the runner amounts to. -/
def ScenarioStatus.ofWait : Supervision.WaitOutcome → ScenarioStatus
  | .exited (.code 0) => .passed
  | .exited (.code n) => .failed (some n)
  | .exited (.signal _) => .failed none
  | .timedOut => .timedOut

namespace Executor

open World (note say)

/-- The target of the log lines about scenarios. -/
def logTarget : String := "contract_runner::scenario"

/-- What a wait for a listener at an address meets in a world. -/
def surroundings (w : World) (address : String) : Supervision.Surroundings Network.Endpoint where
  lag := w.site.lag w.events
  resolve time := Network.Endpoint.resolve (w.site.lookUp w.events time) address
  call := w.site.call w.events

/-- Holds when somebody listens at an address in time. -/
def isListening (w : World) (readiness : Readiness) : Bool :=
  ((surroundings w readiness.address).await readiness.timeout).1

/-- Sees to the directory for reports. -/
def ensureResults (directory : String) : Act World Unit := do
  let w ← get
  note (.ensured directory)
  let (tree, result) := (w.site.files w.events w.tree).ensureDirectory directory
  modify fun w => { w with tree }
  match result with
  | .ok () => return ()
  | .error error => throw error

/-- Launches the step program. A failure is only logged. -/
def launchSteps (program : String) : Act World Unit := do
  match ← World.start program [] with
  | .ok found =>
    modify fun w => { w with background := w.background ++ [found] }
    say .debug logTarget "step process launched" [("program", program)]
  | .error error =>
    say .warn logTarget "failed to launch step process" [("program", program), ("error", error.text)]

/-- Waits until the step program is ready. -/
def awaitSteps (readiness : Readiness) : Act World Unit := do
  let w ← get
  note (.probed readiness.address)
  if isListening w readiness then
    say .debug logTarget "step process ready" [("address", readiness.address)]
  else throw (.stepsNotReady readiness.address readiness.timeout)

/-- Starts the runner and waits for it. -/
def invokeRunner (config : ExecutorConfig) (scenario : String) : Act World ScenarioStatus := do
  let arguments := config.runnerArguments scenario
  match ← World.start config.runner arguments with
  | .error error => throw (.spawn config.runner error)
  | .ok program => match ← World.await program arguments config.runnerTimeout with
    | .error error => throw (.wait config.runner error)
    | .ok outcome => return .ofWait outcome

/-- Logs how a scenario ended. -/
def report (config : ExecutorConfig) (scenario : String) : ScenarioStatus → Act World Unit
  | .passed => say .info logTarget "scenario passed" [("scenario", Text.quoted scenario)]
  | .failed code? =>
    let code := match code? with
      | some code => "Some(" ++ toString code ++ ")"
      | none => "None"
    say .warn logTarget "scenario failed" [("scenario", Text.quoted scenario), ("code", code)]
  | .timedOut => say .warn logTarget "scenario runner timed out"
      [("scenario", Text.quoted scenario), ("timeout", config.runnerTimeout.text)]

/-- Runs one scenario. -/
def run (config : ExecutorConfig) (scenario : String) : Act World ScenarioStatus := do
  ensureResults config.resultsDir
  launchSteps config.steps
  match config.readiness with
  | none => pure ()
  | some readiness => awaitSteps readiness
  say .info logTarget "running scenario" [("scenario", Text.quoted scenario)]
  let status ← invokeRunner config scenario
  report config scenario status
  return status

end Executor

/-- The executor of a world with these programs and limits. -/
def ExecutorConfig.executor (config : ExecutorConfig) : ScenarioExecutor World where
  runScenario scenario := do
    World.say .debug "contract_runner::scan" "scenario directive" [("scenario", Text.quoted scenario)]
    Executor.run config scenario

end ContractSuite
