import ContractSuite.Text.Parts

namespace ContractSuite.Path

/-- A step of a path. -/
inductive Component
  | root
  | current
  | parent
  | name (n : String)
  deriving DecidableEq, Repr

/-- A text cut at each slash. -/
def segments (s : List Char) : List (List Char) :=
  Text.parts (· == '/') s

/-- Segments written with a slash between each two. -/
def joinSegments : List (List Char) → List Char
  | [] => []
  | [last] => last
  | segment :: more => segment ++ '/' :: joinSegments more

/-- Segments that are no component: empty ones and single dots. -/
def isIdle (segment : List Char) : Bool :=
  segment == [] || segment == ['.']

/-- The slash or the dot at the front, and the text behind it. -/
def splitFront (path : List Char) : List Char × List Char :=
  match path with
  | '/' :: rest => (['/'], rest)
  | ['.'] => (['.'], [])
  | '.' :: '/' :: rest => (['.'], '/' :: rest)
  | _ => ([], path)

/-- Segments without the idle ones at their end. -/
def dropIdleEnd (segments : List (List Char)) : List (List Char) :=
  (segments.reverse.dropWhile isIdle).reverse

/-- The component that a segment is. -/
def component? (segment : List Char) : Option Component :=
  if isIdle segment then none
  else if segment = ['.', '.'] then some .parent
  else some (.name (String.ofList segment))

/-- The components of a path. -/
def components (path : String) : List Component :=
  let (front, body) := splitFront path.toList
  let first := match front with
    | ['/'] => [Component.root]
    | ['.'] => [Component.current]
    | _ => []
  first ++ (segments body).filterMap component?

/-- The last component, if it is a name. -/
def fileName? (path : String) : Option String :=
  match (components path).getLast? with
  | some (.name n) => some n
  | _ => none

/-- The path without its last component; nothing is before the root or an empty path. -/
def parent? (path : String) : Option String :=
  let (front, body) := splitFront path.toList
  match (dropIdleEnd (segments body)).reverse with
  | _ :: before =>
    some (String.ofList (front ++ joinSegments (dropIdleEnd before.reverse)))
  | [] => if front = ['.'] then some "" else none

/-- The path and those of all its parents, each before the next shorter one. -/
def ancestors (path : String) : List String :=
  go path (path.length + 1)
where
  go (path : String) : Nat → List String
    | 0 => [path]
    | steps + 1 => match parent? path with
      | none => [path]
      | some up => path :: go up steps

/-- Holds of the paths that start at the root. -/
def isAbsolute (path : String) : Bool :=
  path.toList.head? == some '/'

/-- A path followed from another one. -/
def join (base path : String) : String :=
  if isAbsolute path then path
  else if base.isEmpty || base.toList.getLast? == some '/' then base ++ path
  else base ++ "/" ++ path

/-- The text behind the last dot of a name, if something stands before that dot. -/
def extension? (path : String) : Option String :=
  match fileName? path with
  | none => none
  | some name =>
    let reversed := name.toList.reverse
    let ending := reversed.takeWhile (· != '.')
    let before := reversed.drop (ending.length + 1)
    if ending.length == reversed.length || before.isEmpty then none
    else some (String.ofList ending.reverse)

end ContractSuite.Path
