import ContractSuite.CommandLine

namespace ContractSuite.Machine

/-- What a path of the machine leads to. -/
def nodeAt? (path : String) : IO (Option FileTree.Node) := do
  let .ok found ← ((← IO.currentDir) / path).metadata.toBaseIO | return none
  match found.type with
  | .dir => return some .directory
  | .file =>
    let .ok bytes ← (IO.FS.readBinFile path).toBaseIO | return none
    return some (.file bytes.toList)
  | _ => return some .special

/-- The tree with what a path of the machine leads to, if it is not in the tree yet. -/
def survey (t : FileTree) (path : String) : IO FileTree := do
  if (t.resolve path).isOk then return t
  match ← nodeAt? path with
  | some node => return t.plant path node
  | none => return t

/-- The path of the file that a configuration file extends. -/
def extendedPath? (t : FileTree) (path : String) : Option String := do
  let place ← (t.resolve path).toOption
  let record ← (Config.readRecord t place).toOption
  match record.get? "extends" with
  | some (.text target) => some (Path.join (FileTree.locationText place.dropLast) target)
  | _ => none

/-- The tree with a configuration file and all that it extends. -/
partial def surveyChain (t : FileTree) (path : String) : IO FileTree := do
  if (t.resolve path).isOk then return t
  let t ← survey t path
  match extendedPath? t path with
  | some base => surveyChain t base
  | none => return t

/-- The variables of the environment, as the system lists them. -/
def environment : IO Environment := do
  let .ok listing ← (IO.FS.readBinFile "/proc/self/environ").toBaseIO | return []
  return Environment.ofListing ((Text.Utf8.decode? listing.toList).getD "")

/-- The part of the file tree that a call can ask for. -/
def tree (e : Environment) (arguments : Arguments) : IO FileTree := do
  let here := (← IO.currentDir).toString
  let root : FileTree := { current := FileTree.namesOf here }
  let t := root.plant here .directory
  let candidates := arguments.configPath.toList ++ Config.optionalCandidates t e
  let t ← candidates.foldlM surveyChain t
  let parent := (Path.parent? arguments.featureFile).getD ""
  survey (← survey t parent) arguments.featureFile

/-- The machine as a world, in which nobody is reached at any address and no program can be started. -/
def world (arguments : List String) : IO World := do
  let environment ← environment
  let t ← match Arguments.read arguments with
    | .ok arguments => tree environment arguments
    | .error _ => pure {}
  let site : Site := {
    environment
    launch := fun _ t program _ => t.findProgram program
    conduct := fun _ _ => ⟨none, .code 0⟩ }
  return { site, tree := t }

end ContractSuite.Machine

/-- Calls the program on this machine. -/
def main (arguments : List String) : IO UInt32 := do
  let (result, _) := ContractSuite.CommandLine.call arguments (← ContractSuite.Machine.world arguments)
  IO.print result.output
  IO.eprint result.errorOutput
  return result.exitCode.toUInt32
