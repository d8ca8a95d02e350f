import ContractSuite.Network.Ip
import ContractSuite.Text.Digits

namespace ContractSuite

/-- Values that take the place of settings. -/
structure Overrides where
  host : Option String := none
  port : Option Nat := none
  resultsDir : Option String := none
  runner : Option String := none
  steps : Option String := none
  deriving DecidableEq, Repr

/-- What a command line asks for. -/
structure Arguments where
  featureFile : String
  configPath : Option String := none
  overrides : Overrides := {}
  deriving DecidableEq, Repr

namespace Arguments

/-- In what way a command line is misused. -/
inductive Misuse
  /-- No option has this name, or there is one argument too many. -/
  | unknownArgument
  /-- An option has no value. -/
  | missingValue
  /-- An option that takes no value has one. -/
  | surplusValue
  /-- An option is given twice. -/
  | repeatedOption
  /-- A value is not of the type of its option. -/
  | unsuitableValue
  /-- There is no feature file. -/
  | missingFeature
  deriving DecidableEq, Repr

/-- Why a command line starts no run. -/
inductive Stop
  | help
  | version
  | misuse (m : Misuse)
  deriving DecidableEq, Repr

/-- The exit code for a command line that starts no run. -/
def Stop.exitCode : Stop → Nat
  | .help => 0
  | .version => 0
  | .misuse _ => 2

/-- The text that the request for the version is answered with. -/
def versionText : String := "contract-runner 0.1.0\n"

/-- An option that takes a value. -/
inductive Flag
  | port
  | config
  | resultsDir
  | runner
  | steps
  deriving DecidableEq, Repr

/-- A word behind two dashes. -/
inductive Word
  | flag (f : Flag)
  | request (stop : Stop)

/-- The meaning of the word behind two dashes. -/
def word? : String → Option Word
  | "port" => some (.flag .port)
  | "config" => some (.flag .config)
  | "results-dir" => some (.flag .resultsDir)
  | "runner" => some (.flag .runner)
  | "steps" => some (.flag .steps)
  | "help" => some (.request .help)
  | "version" => some (.request .version)
  | _ => none

/-- The meaning of a letter behind one dash. -/
def letter? : Char → Option Stop
  | 'h' => some .help
  | 'V' => some .version
  | _ => none

/-- A port, with an optional sign. -/
def port? (value : String) : Option Nat :=
  match value.toList with
  | '+' :: s => (Text.decimal? s).filter (· < Network.portLimit)
  | '-' :: s => (Text.decimal? s).filter (· = 0)
  | s => (Text.decimal? s).filter (· < Network.portLimit)

/-- A command line that is being read. -/
structure Progress where
  /-- The option that is not settled yet, and its value if it has come. -/
  pending : Option (Flag × Option String) := none
  /-- The options settled so far. -/
  settled : List (Flag × String) := []
  /-- The arguments that belong to no option. -/
  positional : List String := []

namespace Progress

/-- Settles an option. -/
def settleFlag (p : Progress) (flag : Flag) (value? : Option String) : Except Misuse Progress :=
  match value? with
  | none => .error .missingValue
  | some value =>
    if (p.settled.lookup flag).isSome then .error .repeatedOption
    else if flag = .port ∧ (port? value).isNone then .error .unsuitableValue
    else .ok { p with pending := none, settled := p.settled ++ [(flag, value)] }

/-- Settles the pending option, if there is one. -/
def settle (p : Progress) : Except Misuse Progress :=
  match p.pending with
  | none => .ok p
  | some (flag, value?) => p.settleFlag flag value?

/-- Takes an argument that belongs to no option. -/
def addPositional (p : Progress) (argument : String) : Except Misuse Progress :=
  if p.positional.length ≥ 2 then .error .unknownArgument
  else p.settle.map fun p => { p with positional := p.positional ++ [argument] }

/-- Takes an argument that is no option: the value that an option waits for, or else one that belongs
to no option. -/
def addPlain (p : Progress) (argument : String) : Except Misuse Progress :=
  match p.pending with
  | some (flag, none) => .ok { p with pending := some (flag, some argument) }
  | _ => p.addPositional argument

/-- Grants a request, once the pending option is settled. -/
def grant {α : Type} (p : Progress) (stop : Stop) : Except Stop α :=
  match p.settle with
  | .error misuse => .error (.misuse misuse)
  | .ok _ => .error stop

/-- Takes a word behind two dashes with the value attached to it, if one is. -/
def addWord (p : Progress) (word : String) (value? : Option String) : Except Stop Progress :=
  match word? word with
  | none => .error (.misuse .unknownArgument)
  | some (.request stop) =>
    if value?.isSome then .error (.misuse .surplusValue) else p.grant stop
  | some (.flag flag) => (do
      let p ← p.settle
      match value? with
      | none => return { p with pending := some (flag, none) }
      | some value => p.settleFlag flag (some value)).mapError .misuse

/-- Takes letters behind one dash. Each of them either ends the reading or is unknown. -/
def addLetters (p : Progress) (letters : List Char) : Except Stop Progress :=
  match letters.head?.bind letter? with
  | none => .error (.misuse .unknownArgument)
  | some stop => p.grant stop

/-- The arguments that a command line amounts to at its end. -/
def finish (p : Progress) : Except Misuse Arguments := do
  let p ← p.settle
  match p.positional with
  | [] => throw .missingFeature
  | featureFile :: more =>
    let value? (flag : Flag) : Option String := p.settled.lookup flag
    return {
      featureFile
      configPath := value? .config
      overrides := {
        host := more.head?
        port := (value? .port).bind port?
        resultsDir := value? .resultsDir
        runner := value? .runner
        steps := value? .steps } }

end Progress

/-- The word in front of the first equals sign, and the value behind it. -/
def splitWord (text : List Char) : String × Option String :=
  let word := text.takeWhile (· != '=')
  match text.drop word.length with
  | [] => (String.ofList word, none)
  | _ :: value => (String.ofList word, some (String.ofList value))

/-- Reads the arguments behind two lone dashes. None of them is an option. -/
def readPlain : Progress → List String → Except Stop Progress
  | p, [] => .ok p
  | p, argument :: more => match p.addPositional argument with
    | .error misuse => .error (.misuse misuse)
    | .ok p => readPlain p more

/-- Reads arguments from the left. -/
def readFrom : Progress → List String → Except Stop Progress
  | p, [] => .ok p
  | p, argument :: more =>
    match argument.toList with
    | ['-', '-'] => readPlain p more
    | '-' :: '-' :: text =>
      let (word, value?) := splitWord text
      match p.addWord word value? with
      | .error stop => .error stop
      | .ok p => readFrom p more
    | '-' :: letter :: letters => match p.addLetters (letter :: letters) with
      | .error stop => .error stop
      | .ok p => readFrom p more
    | _ => match p.addPlain argument with
      | .error misuse => .error (.misuse misuse)
      | .ok p => readFrom p more

/-- Reads a command line, the name of the program apart. -/
def read (arguments : List String) : Except Stop Arguments :=
  match readFrom {} arguments with
  | .error stop => .error stop
  | .ok p => p.finish.mapError .misuse

end Arguments

end ContractSuite
