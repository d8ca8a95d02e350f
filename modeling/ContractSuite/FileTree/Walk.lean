import ContractSuite.FileTree.Basic

namespace ContractSuite.FileTree

/-- The number of links that one walk may follow. -/
def linkLimit : Nat := 40

/-- The number of bytes of the longest name. -/
def nameLimit : Nat := 255

/-- The number of bytes that no path reaches. -/
def pathLimit : Nat := 4096

/-- A walk has left the directory to which it is confined. -/
def outside : OsError :=
  .stated .permissionDenied "a path led outside of the filesystem"

/-- A path contains a NUL. -/
def nulInName : OsError :=
  .stated .invalidInput "file name contained an unexpected NUL byte"

/-- The names that a path consists of. -/
def namesOf (path : String) : List String :=
  ((Path.segments path.toList).map String.ofList).filter (· ≠ "")

/-- The steps of the walk along a path. A slash at its end asks for a directory, as a dot does. -/
def stepsOf (path : String) : List String :=
  match path.toList.getLast? with
  | some '/' => namesOf path ++ ["."]
  | _ => namesOf path

/-- Walks on from a place, up to the next link. `onLink` walks on behind a link: from the place where its
path starts, along its path and the steps that are left. -/
def walkTo (t : FileTree) (confinement : Option Location)
    (onLink : Location → List String → Except OsError Location) :
    Location → List String → Except OsError Location
  | here, [] => .ok here
  | here, step :: more =>
    if t.node? here ≠ some .directory then .error .notDirectory
    else if step = "." then walkTo t confinement onLink here more
    else if step = ".." then
      if confinement = some here then .error outside
      else walkTo t confinement onLink here.dropLast more
    else if step.utf8ByteSize > nameLimit then .error .nameTooLong
    else match t.node? (here ++ [step]) with
      | none => .error .noEntry
      | some (.link target) =>
        if !Path.isAbsolute target then onLink here (stepsOf target ++ more)
        else if confinement.isSome then .error outside
        else onLink [] (stepsOf target ++ more)
      | some _ => walkTo t confinement onLink (here ++ [step]) more

/-- Walks on from a place and gives the location in the end. The arguments are the directory to which the
walk is confined, if it is, and the number of links that may still be followed. -/
def walk (t : FileTree) (confinement : Option Location) :
    Nat → Location → List String → Except OsError Location
  | 0 => walkTo t confinement fun _ _ => .error .linkLoop
  | links + 1 => walkTo t confinement (walk t confinement links)

/-- The location at which the walk along a path starts, or why the path cannot be walked at all. -/
def start (t : FileTree) (path : String) : Except OsError Location :=
  if path.toList.contains '\x00' then .error nulInName
  else if path = "" then .error .noEntry
  else if path.utf8ByteSize ≥ pathLimit then .error .nameTooLong
  else .ok (if Path.isAbsolute path then [] else t.current)

/-- The location that a path leads to. -/
def resolve (t : FileTree) (path : String) : Except OsError Location := do
  let place ← t.start path
  t.walk none linkLimit place (stepsOf path)

/-- Holds when a path leads to a directory. -/
def isDirectory (t : FileTree) (path : String) : Bool :=
  match t.resolve path with
  | .ok place => t.node? place == some .directory
  | .error _ => false

end ContractSuite.FileTree
