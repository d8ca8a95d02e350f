import ContractSuite.Config.Value
import ContractSuite.Network.Ip
import ContractSuite.Settings.Basic

namespace ContractSuite.Settings

open Config

/-- The settings as named values, in the order in which they are declared. -/
def toRecord (s : Settings) : Record :=
  [("host", .text s.host), ("port", .integer s.port), ("http_timeout_ms", .integer s.httpTimeout),
    ("runner", .text s.runner), ("features_dir", .text s.featuresDir),
    ("report_format", .text s.reportFormat), ("results_dir", .text s.resultsDir),
    ("steps", .text s.steps), ("runner_timeout_ms", .integer s.runnerTimeout)] ++
  (match s.stepsReadyAddress with
    | none => []
    | some address => [("steps_ready_address", .text address)]) ++
  [("steps_ready_timeout_ms", .integer s.stepsReadyTimeout)]

/-- A value that does not fit its name. -/
structure Mismatch where
  name : String
  kind : MismatchKind
  deriving DecidableEq, Repr

/-- Reads a text. -/
def asText : Value → Except MismatchKind String
  | .text s => .ok s
  | _ => .error .type

/-- Reads a natural number below a limit. -/
def asNatural (limit : Nat) : Value → Except MismatchKind Nat
  | .integer i => if 0 ≤ i ∧ i < limit then .ok i.toNat else .error .value
  | _ => .error .type

/-- Reads a text that may be unset. -/
def asOptionalText : Value → Except MismatchKind (Option String)
  | .null => .ok none
  | .text s => .ok (some s)
  | _ => .error .type

/-- Reads the value of a name, or takes the default if the record has no such name. -/
def field {α : Type} (r : Record) (name : String) (read : Value → Except MismatchKind α)
    (default : α) : Except Mismatch α :=
  match r.get? name with
  | none => .ok default
  | some value => match read value with
    | .ok a => .ok a
    | .error kind => .error ⟨name, kind⟩

/-- Limit on lengths of time: `2 ^ 64`. -/
def timeLimit : Nat := 0x10000000000000000

/-- Reads settings from named values. -/
def ofRecord (r : Record) : Except Mismatch Settings := do
  let defaults : Settings := {}
  let featuresDir ← field r "features_dir" asText defaults.featuresDir
  let host ← field r "host" asText defaults.host
  let httpTimeout ← field r "http_timeout_ms" (asNatural timeLimit) defaults.httpTimeout
  let port ← field r "port" (asNatural Network.portLimit) defaults.port
  let reportFormat ← field r "report_format" asText defaults.reportFormat
  let resultsDir ← field r "results_dir" asText defaults.resultsDir
  let runner ← field r "runner" asText defaults.runner
  let runnerTimeout ← field r "runner_timeout_ms" (asNatural timeLimit) defaults.runnerTimeout
  let steps ← field r "steps" asText defaults.steps
  let stepsReadyAddress ←
    field r "steps_ready_address" asOptionalText defaults.stepsReadyAddress
  let stepsReadyTimeout ←
    field r "steps_ready_timeout_ms" (asNatural timeLimit) defaults.stepsReadyTimeout
  return { host, port, httpTimeout, runner, featuresDir, reportFormat, resultsDir, steps,
           runnerTimeout, stepsReadyAddress, stepsReadyTimeout }

/-- The names of the settings in the order in which they are declared. -/
def names : List String :=
  ["host", "port", "http_timeout_ms", "runner", "features_dir", "report_format", "results_dir",
    "steps", "runner_timeout_ms", "steps_ready_address", "steps_ready_timeout_ms"]

/-- Reads settings from a value: a table of named values, or a list that gives the settings in order
and may stop early. -/
def ofValue? : Value → Option Settings
  | .table entries => (ofRecord entries).toOption
  | .list items =>
    if items.length ≤ names.length then (ofRecord (names.zip items)).toOption else none
  | _ => none

end ContractSuite.Settings
