import ContractSuite.FileTree.Directory
import ContractSuite.Text.Utf8

namespace ContractSuite.FileTree

/-- The contents of a file are no text. -/
def notText : OsError :=
  .stated .invalidData "stream did not contain valid UTF-8"

/-- A path ends without a name. -/
def noFileName : OsError :=
  .stated .invalidInput "path has no file name"

/-- The bytes of what stands at a location. -/
def bytesAt (t : FileTree) (place : Location) : Except OsError (List UInt8) :=
  match t.node? place with
  | none => .error .noEntry
  | some (.file contents) => .ok contents
  | some .directory => .error .isDirectory
  | some (.link _) => .error .linkLoop
  | some (.program _) => .ok []
  | some .special => .ok []

/-- The text of what stands at a location. -/
def textAt (t : FileTree) (place : Location) : Except OsError String := do
  match Text.Utf8.decode? (← t.bytesAt place) with
  | some text => return text
  | none => throw notText

/-- The text of a file inside a directory, to which the walk is confined. -/
def readInside (t : FileTree) (directory : Location) (name : String) : Except OsError String := do
  if name.toList.contains '\x00' then throw .invalidArgument
  t.textAt (← t.walk (some directory) linkLimit directory [name])

/-- A path cut into the directory and the name of a file in it. -/
def splitPath (path : String) : Except SuiteError (String × String) :=
  match Path.fileName? path with
  | none => .error (.io path noFileName)
  | some name =>
    let parent := (Path.parent? path).getD ""
    .ok (if parent = "" then "." else parent, name)

/-- The text of a feature file. -/
def readFeature (t : FileTree) (path : String) : Except SuiteError String := do
  let (parent, name) ← splitPath path
  match t.openDirectory parent with
  | .error error => throw (.io parent error)
  | .ok directory => match t.readInside directory name with
    | .error error => throw (.io path error)
    | .ok text => return text

end ContractSuite.FileTree
