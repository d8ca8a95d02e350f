import ContractSuite.Arguments
import ContractSuite.Config.Discovery
import ContractSuite.Config.Variables
import ContractSuite.Settings.Record

namespace ContractSuite

/-- The overrides as named values. -/
def Overrides.toRecord (o : Overrides) : Config.Record :=
  let text (name : String) (value? : Option String) : Config.Record :=
    value?.toList.map fun s => (name, .text s)
  text "host" o.host ++ (o.port.toList.map fun p => ("port", .integer p)) ++
    text "results_dir" o.resultsDir ++ text "runner" o.runner ++ text "steps" o.steps

namespace Settings

/-- The layers below the command line laid over each other. -/
def lowerLayers (file environment : Config.Record) : Config.Record :=
  environment.laidOver (file.laidOver ({} : Settings).toRecord)

/-- The settings that layers amount to. -/
def ofLayers (file environment overrides : Config.Record) : Except SuiteError Settings :=
  match ofRecord (overrides.laidOver (lowerLayers file environment)) with
  | .error mismatch => .error (.configuration (.mismatch mismatch.name mismatch.kind))
  | .ok settings => match settings.validate with
    | .error setting => .error (.invalidSetting setting)
    | .ok () => .ok settings

/-- Loads the settings of a run. -/
def load (t : FileTree) (e : Environment) (overrides : Overrides) (configPath : Option String) :
    Except SuiteError Settings :=
  match Config.discover t e configPath with
  | .error error => .error (.configuration error)
  | .ok file? => ofLayers (file?.getD []) (Config.ofEnvironment e) overrides.toRecord

end Settings

end ContractSuite
