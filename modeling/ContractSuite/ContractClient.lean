import ContractSuite.Report
import ContractSuite.Url.Parser
import ContractSuite.World.Basic

namespace ContractSuite

/-- How the contract server is reached. -/
structure ContractClient where
  host : String
  port : Nat
  timeout : Nanoseconds
  deriving DecidableEq, Repr

namespace ContractClient

open World (note say)

/-- The name of the parameter that carries the name of a contract. -/
def contractParameter : String := "__contract__script__"

/-- The target of the log lines about the server. -/
def logTarget : String := "contract_runner::contract_server"

/-- The start of all addresses on the server. -/
def baseUrl (client : ContractClient) : String :=
  "http://" ++ client.host ++ ":" ++ toString client.port

/-- The address of a path on the server, with parameters. -/
def endpoint (client : ContractClient) (path : String) (parameters : List (String × String)) :
    Except SuiteError Url :=
  let text := client.baseUrl ++ path
  match Url.parse text with
  | .error fault => .error (.invalidUrl text fault.text)
  | .ok url => .ok (if parameters.isEmpty then url else url.addParameters parameters)

/-- The statuses with which a server points to another address. -/
def isRedirect (status : Nat) : Bool :=
  [301, 302, 303, 307, 308].contains status

/-- The number of pointers that are followed. -/
def redirectLimit : Nat := 10

/-- Makes one request. -/
def request (url : Url) : Act World Reaction := do
  let w ← get
  note (.requested url)
  return w.site.react w.events url

/-- What the answer to a request amounts to. -/
inductive Verdict
  | final (response : Response)
  | moved (url : Url)
  | failure

/-- Statuses of answers that only announce another one. -/
def isInterim (status : Nat) : Bool :=
  100 ≤ status && status < 200 && status != 101

/-- What the answer to a request for an address amounts to. A pointer that is no address is none, and an answer that
only announces another one is none, as no other follows. -/
def verdict (url : Url) : Reaction → Verdict
  | .silence => .failure
  | .answer response =>
    if isInterim response.status then .failure
    else match response.location with
      | none => .final response
      | some location =>
        if !isRedirect response.status then .final response
        else match url.join location with
          | .ok next => .moved next
          | .error .foreignScheme => .failure
          | .error _ => .final response

/-- Asks for an address, and for those to which the server points, up to the number given. -/
def follow : Nat → Url → Act World (Option Response)
  | redirects, url => do
    match verdict url (← request url) with
    | .final response => return some response
    | .failure => return none
    | .moved next => match redirects with
      | 0 => return none
      | redirects + 1 => follow redirects next

/-- What is made of the answer to a request for an address, if one has arrived. A status from 400 to 599 refuses the
request. -/
def accept (url : Url) : Option Response → Except SuiteError Response
  | none => .error (.http url.text)
  | some response =>
    if 400 ≤ response.status ∧ response.status < 600 then .error (.httpStatus url.text response.status)
    else .ok response

/-- Asks for an address. -/
def fetch (client : ContractClient) (url : Url) : Act World Response := do
  note (.asked url.text)
  say .debug logTarget "contacting contract server" [("url", url.text)]
  let response? ← if client.timeout = 0 then pure none else follow redirectLimit url
  accept url response?

/-- Has the server load a contract. -/
def initContract (client : ContractClient) (contract : String) : Act World Unit := do
  let url ← client.endpoint "/init" [(contractParameter, contract)]
  let _ ← client.fetch url
  say .info logTarget "contract initialised" [("contract", Text.quoted contract)]

/-- What is made of the report that an address has given. -/
def judge (url : Url) (response : Response) : Except SuiteError Unit :=
  if response.isWhole then ExpectationReport.evaluate (Text.Utf8.decodeLenient response.body)
  else .error (.http url.text)

/-- Has the server report on the expectations of the contract loaded last. -/
def checkExpectations (client : ContractClient) : Act World Unit := do
  let url ← client.endpoint "/expect" []
  let response ← client.fetch url
  judge url response
  say .info logTarget "contract expectations met"

/-- The contract server as a scan sees it. -/
def server (client : ContractClient) : ContractServer World where
  initContract contract := do
    say .debug "contract_runner::scan" "contract directive" [("contract", Text.quoted contract)]
    client.initContract contract
  checkExpectations := client.checkExpectations

end ContractClient

end ContractSuite
