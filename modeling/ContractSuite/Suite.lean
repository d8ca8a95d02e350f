import ContractSuite.Settings.Collaborators
import ContractSuite.Settings.Layers

namespace ContractSuite.Suite

open World (say)

/-- Loads the settings that arguments ask for. -/
def loadSettings (arguments : Arguments) : Act World Settings := do
  let w ← get
  let settings ←
    Settings.load w.tree w.site.environment arguments.overrides arguments.configPath
  say .debug "contract_runner::settings" "settings resolved"
  return settings

/-- Sees to all that a scan needs: the settings, and the text of the feature file. -/
def prepare (arguments : Arguments) : Act World (Settings × String) := do
  let settings ← loadSettings arguments
  let contents ← (← get).tree.readFeature arguments.featureFile
  say .info "contract_runner" "scanning feature file"
    [("feature", arguments.featureFile), ("server", Text.quoted settings.client.baseUrl)]
  return (settings, contents)

/-- Runs the suite that arguments ask for. -/
def run (arguments : Arguments) : Act World SuiteOutcome := do
  let (settings, contents) ← prepare arguments
  let outcome ←
    Scan.scanFeature settings.client.server settings.executorConfig.executor contents
  say .info "contract_runner::scan" "suite finished"
    [("contracts", toString outcome.contractsInitialised),
      ("scenarios", toString outcome.scenariosRun), ("failed", toString outcome.scenariosFailed)]
  return outcome

/-- The exit code of a run that ended with an error. -/
def fatalExitCode : Nat := 2

/-- The exit code of a run. -/
def exitCode : Except SuiteError SuiteOutcome → Nat
  | .ok outcome => outcome.exitCode
  | .error _ => fatalExitCode

end ContractSuite.Suite
