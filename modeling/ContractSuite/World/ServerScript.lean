import ContractSuite.Text.Utf8
import ContractSuite.World.Basic

namespace ContractSuite

/-- The reactions to requests, by path. -/
abbrev ServerScript := List (String × List Reaction)

namespace ServerScript

/-- The path of a target: all before the first question mark. -/
def pathOf (target : String) : String :=
  String.ofList (target.toList.takeWhile (· != '?'))

/-- The body of a report that tells of no failed expectation, or of one. -/
def reportBody (failed : Bool) : String :=
  "\x7b\"expectations\":\x7b\"failed\":" ++ (if failed then "true" else "false") ++ "\x7d\x7d"

/-- The reaction to a request for a path without a script. -/
def usualReaction (path : String) : Reaction :=
  if path = "/init" then .answer {}
  else if path = "/expect" then .answer { body := Text.Utf8.encode (reportBody false) }
  else .answer { status := 404 }

/-- The reaction to a request for a target after others, in whatever order. -/
def react (script : ServerScript) (earlier : List String) (target : String) : Reaction :=
  let path := pathOf target
  match script.lookup path with
  | none | some [] => usualReaction path
  | some (first :: more) =>
    let count := earlier.countP fun other => pathOf other = path
    ((first :: more)[count]?.or (first :: more).getLast?).getD first

/-- What comes of a request where a script is served at some addresses and nobody is reached at any other. -/
def reactAt (script : ServerScript) (isServed : Url → Bool) (past : List Event) (url : Url) : Reaction :=
  let earlier := past.filterMap fun
    | .requested url => if isServed url then some url.target else none
    | _ => none
  if isServed url then script.react earlier url.target else .silence

end ServerScript

end ContractSuite
