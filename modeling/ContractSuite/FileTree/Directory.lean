import ContractSuite.Error
import ContractSuite.FileTree.Walk

namespace ContractSuite.FileTree

/-- The location of the directory that a path leads to. -/
def openDirectory (t : FileTree) (path : String) : Except OsError Location := do
  let place ← t.resolve path
  if t.node? place = some .directory then return place else throw .notDirectory

/-- Makes the directory that a path names. What stands there already is an error, a link that leads
nowhere too. -/
def makeDirectory (t : FileTree) (path : String) : Except OsError FileTree := do
  let start ← t.start path
  match (namesOf path).reverse with
  | [] => throw .entryExists
  | name :: above =>
    let place ← t.walk none linkLimit start above.reverse
    if t.node? place ≠ some .directory then throw .notDirectory
    else if name = "." ∨ name = ".." then throw .entryExists
    else if name.utf8ByteSize > nameLimit then throw .nameTooLong
    else if (t.node? (place ++ [name])).isSome then throw .entryExists
    else return t.add (place ++ [name]) .directory

/-- The tree after an attempt to make directories, and the failure of the attempt if there was one. -/
abbrev Making := FileTree × Option OsError

/-- Makes directories from the first path on. One that is there already is none to make. -/
def makeEach (t : FileTree) : List String → Making
  | [] => (t, none)
  | path :: more => match t.makeDirectory path with
    | .ok t => makeEach t more
    | .error error =>
      if error.kind = .alreadyExists ∧ t.isDirectory path then makeEach t more else (t, some error)

/-- Looks for the first of the paths that can be made or is a directory, and then makes those before it,
which are given in the order in which they are to be made. -/
def makeMissing (t : FileTree) : List String → List String → Making
  | missing, [] => t.makeEach missing
  | missing, path :: above =>
    if path = "" then t.makeEach missing
    else match t.makeDirectory path with
      | .ok t => t.makeEach missing
      | .error error =>
        if error.kind = .notFound then makeMissing t (path :: missing) above
        else if error.kind = .alreadyExists ∧ t.isDirectory path then t.makeEach missing
        else (t, some error)

/-- Makes the directory that a path names, and all that are missing above it. -/
def makeDirectories (t : FileTree) (path : String) : Making :=
  t.makeMissing [] (Path.ancestors path)

/-- Sees to it that a path leads to a directory. Only a missing one is made; every other failure of opening
it is reported. -/
def ensureDirectory (t : FileTree) (path : String) : FileTree × Except SuiteError Unit :=
  match t.openDirectory path with
  | .ok _ => (t, .ok ())
  | .error error =>
    if error.kind ≠ .notFound then (t, .error (.io path error))
    else match t.makeDirectories path with
      | (t, some error) => (t, .error (.io path error))
      | (t, none) => match t.openDirectory path with
        | .ok _ => (t, .ok ())
        | .error error => (t, .error (.io path error))

/-- The tree in which a node stands at a path, with all directories that are missing above it. A node that
stood there gives way. -/
def plant (t : FileTree) (path : String) (node : Node) : FileTree :=
  let (grounded, _) := t.makeDirectories ((Path.parent? path).getD "")
  let parent := (Path.parent? path).filter (· ≠ "")
  match grounded.resolve (parent.getD "."), Path.fileName? path with
  | .ok place, some name =>
    let cleared := grounded.nodes.filter fun entry => entry.1 ≠ place ++ [name]
    { grounded with nodes := cleared ++ [(place ++ [name], node)] }
  | _, _ => grounded

end ContractSuite.FileTree
