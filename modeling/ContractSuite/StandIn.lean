import ContractSuite.World.ServerScript

namespace ContractSuite

/-- An answer that is given as planned. -/
structure PlannedAnswer where
  status : Nat := 200
  body : String := ""
  deriving DecidableEq, Repr

/-- The answer with a report that tells of no failed expectation, or of one. -/
def PlannedAnswer.expectations (failed : Bool) : PlannedAnswer where
  body := ServerScript.reportBody failed

/-- What a stand-in answers. -/
structure StandIn where
  init : PlannedAnswer := {}
  expect : PlannedAnswer := .expectations false
  deriving DecidableEq, Repr

namespace StandIn

/-- The answer to a request for a target. -/
def answer (script : StandIn) (target : String) : PlannedAnswer :=
  let path := ServerScript.pathOf target
  if path = "/init" then script.init
  else if path = "/expect" then script.expect
  else { status := 404 }

/-- What arrives of an answer: some statuses forbid a body. -/
def arriving (planned : PlannedAnswer) : PlannedAnswer :=
  if planned.status < 200 ∨ planned.status = 204 ∨ planned.status = 304 then
    { planned with body := "" }
  else planned

/-- What a stand-in has received and answered. -/
structure Service where
  requests : List String := []
  answers : List PlannedAnswer := []
  deriving DecidableEq, Repr

/-- The paths of the requests. -/
def Service.paths (service : Service) : List String :=
  service.requests.map ServerScript.pathOf

/-- Serves requests one after another, up to the first whose answer cannot be delivered. The flag of a
request says whether its answer can. -/
def serve (script : StandIn) : List (String × Bool) → Service
  | [] => {}
  | (target, isDelivered) :: more =>
    let later := if isDelivered then serve script more else {}
    { requests := target :: later.requests
      answers := script.answer target :: later.answers }

/-- The text of a stand-in at a port. -/
def description (port : Nat) (requests : List String) : String :=
  "MockContractServer \x7b port: " ++ toString port ++ ", requests: [" ++
    ", ".intercalate (requests.map Text.quoted) ++ "], .. \x7d"

end StandIn

end ContractSuite
