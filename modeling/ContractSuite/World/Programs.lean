import ContractSuite.FileTree.Walk
import ContractSuite.World.Basic

namespace ContractSuite

namespace FileTree

/-- The program that a path leads to. -/
def programAt (t : FileTree) (path : String) : Except OsError Program := do
  let place ← t.resolve path
  match t.node? place with
  | some (.program program) => return program
  | _ => throw .accessDenied

/-- Looks a program up in directories. A program that may not be started is passed over, but remembered. -/
def searchProgram (t : FileTree) (name : String) (failure : OsError) :
    List String → Except OsError Program
  | [] => .error failure
  | directory :: more => match t.programAt (Path.join directory name) with
    | .ok program => .ok program
    | .error error =>
      if error = .accessDenied then searchProgram t name .accessDenied more
      else if error.kind = .notFound ∨ error.kind = .notADirectory then searchProgram t name failure more
      else .error error

/-- The directories in which programs are looked up. -/
def programDirectories : List String :=
  ["/usr/local/bin", "/usr/bin", "/bin"]

/-- The program that a name stands for. -/
def findProgram (t : FileTree) (name : String) : Except OsError Program :=
  if name.toList.contains '/' then t.programAt name
  else if name = "" then .error .noEntry
  else t.searchProgram name .noEntry programDirectories

end FileTree

namespace World

/-- The name or an argument of a program contains a NUL. -/
def nulInArgument : OsError :=
  .stated .invalidInput "nul byte found in provided data"

/-- The number of bytes that no argument reaches. -/
def argumentLimit : Nat := 131072

/-- What starting a program comes to. -/
def launch (w : World) (program : String) (arguments : List String) : Except OsError Program :=
  if (program :: arguments).any fun s => s.toList.contains '\x00' then .error nulInArgument
  else match w.site.launch w.events w.tree program arguments with
    | .error error => .error error
    | .ok found =>
      if arguments.any fun s => s.utf8ByteSize ≥ argumentLimit then .error .argumentsTooLong
      else .ok found

/-- Starts a program. -/
def start (program : String) (arguments : List String) : Act World (Except OsError Program) := do
  let w ← get
  note (.attempted program arguments)
  match w.launch program arguments with
  | .error error => return .error error
  | .ok found =>
    note (.started found arguments)
    return .ok found

/-- The wait for a program that has just been started, if nothing fails in it. -/
def waitFor (w : World) (program : Program) (budget : Nanoseconds) : Supervision.Wait :=
  (w.site.conduct w.events program).wait (w.site.lag w.events) budget

/-- The failure with which the wait for a program breaks off, if it does. -/
def waitFailure? (w : World) (program : Program) (budget : Nanoseconds) : Option Supervision.Fault :=
  (w.waitFor program budget).failure? (w.site.fault w.events program)

/-- Waits for a program that has just been started with these arguments. -/
def await (program : Program) (arguments : List String) (budget : Nanoseconds) :
    Act World (Except OsError Supervision.WaitOutcome) := do
  let w ← get
  let wait := w.waitFor program budget
  let failure? := w.waitFailure? program budget
  if (wait.performed failure?).contains .kill then note (.killed program)
  match failure? with
  | some failure => return .error failure.error
  | none =>
    note (.ended arguments wait.outcome)
    return .ok wait.outcome

end World

end ContractSuite
