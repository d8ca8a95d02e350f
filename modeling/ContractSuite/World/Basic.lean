import ContractSuite.Environment
import ContractSuite.FileTree.Directory
import ContractSuite.Log
import ContractSuite.Network.Endpoint
import ContractSuite.Scan
import ContractSuite.Supervision.Readiness
import ContractSuite.Url.Basic

namespace ContractSuite

/-- An answer of a server. -/
structure Response where
  status : Nat := 200
  body : List UInt8 := []
  /-- Where the resource is to be found instead. -/
  location : Option String := none
  /-- The body arrives with all of its announced length. -/
  isWhole : Bool := true
  deriving DecidableEq, Repr

/-- What comes of a request. -/
inductive Reaction
  | answer (response : Response)
  /-- No answer arrives: nobody can be reached, or whoever is reached does not answer properly or in time. -/
  | silence
  deriving DecidableEq, Repr

/-- What happens in a world. -/
inductive Event
  /-- The address of a resource is asked for. -/
  | asked (url : String)
  /-- A request is made for an address: for the one that is asked for, or for one to which an answer has pointed. -/
  | requested (url : Url)
  /-- A directory is seen to. -/
  | ensured (directory : String)
  /-- The start of a program is attempted. -/
  | attempted (program : String) (arguments : List String)
  /-- A program has started. -/
  | started (program : Program) (arguments : List String)
  /-- Somebody is waited for at an address. -/
  | probed (address : String)
  /-- A program that runs too long has been killed. -/
  | killed (program : Program)
  /-- The wait for a program that was started with these arguments is over. -/
  | ended (arguments : List String) (outcome : Supervision.WaitOutcome)
  deriving DecidableEq, Repr

/-- What an event tells of the end of a program: the arguments with which it was started, and how it ended. -/
def Event.end? : Event → Option (List String × Supervision.WaitOutcome)
  | .ended arguments outcome => some (arguments, outcome)
  | _ => none

/-- The surroundings of a suite: how everything behaves that is not the suite itself. A behaviour may depend on all that
has happened before, the latest event first, so that it may change from one time to the next. -/
structure Site where
  environment : Environment := []
  /-- What comes of a request for an address. -/
  react : List Event → Url → Reaction := fun _ _ => .silence
  /-- What others have made of the files by the time at which the suite writes to them. -/
  files : List Event → FileTree → FileTree := fun _ t => t
  /-- What starting a program with some arguments comes to, as its name is spelled and with the files that there are. -/
  launch : List Event → FileTree → String → List String → Except OsError Program
  /-- How a program will run that has just been started. -/
  conduct : List Event → Program → Supervision.Child
  /-- Which action fails first in the wait for a program that has just been started, if one does. -/
  fault : List Event → Program → Option Supervision.Fault := fun _ _ => none
  /-- The addresses that the name of a host stands for, at each time that it is looked up in the course of a wait. -/
  lookUp : List Event → Nat → String → List Network.Ip := fun _ _ _ => []
  /-- What comes of a call to an endpoint, after so many looks at the clock in the course of a wait. -/
  call : List Event → Network.Endpoint → Nat → Supervision.Call := fun _ _ _ => ⟨false, 0⟩
  /-- How much time passes before each observation in the course of a wait. -/
  lag : List Event → Nat → Nat := fun _ _ => 0

/-- A site, its files, and what has happened. Events and log lines are kept with the latest first. -/
structure World where
  site : Site
  tree : FileTree
  events : List Event := []
  log : List Log.Line := []
  /-- The step programs that have been started and run on in the background. -/
  background : List Program := []

namespace World

/-- Takes note of an event. -/
def record (event : Event) (w : World) : World :=
  { w with events := event :: w.events }

/-- Takes note of a log line. -/
def write (line : Log.Line) (w : World) : World :=
  { w with log := line :: w.log }

/-- The addresses for which requests have been made, in order. -/
def requests (w : World) : List Url :=
  w.events.reverse.filterMap fun
    | .requested url => some url
    | _ => none

/-- How the programs that were waited for have ended, with their arguments, in order. -/
def ends (w : World) : List (List String × Supervision.WaitOutcome) :=
  w.events.reverse.filterMap Event.end?

/-- Notes an event in the course of an action. -/
def note (event : Event) : Act World Unit :=
  modify (record event)

/-- Writes a log line in the course of an action. -/
def say (level : Log.Level) (target message : String) (fields : List (String × String) := []) :
    Act World Unit :=
  modify (write ⟨level, target, message, fields⟩)

end World

end ContractSuite
