import ContractSuite.Network.Ip

namespace ContractSuite.Network

/-- Where somebody may listen. -/
structure Endpoint where
  ip : Ip
  port : Nat
  deriving DecidableEq, Repr

namespace Endpoint

/-- A port, of any number of digits. -/
def port? (s : List Char) : Option Nat :=
  (Text.decimal? s).filter (· < portLimit)

/-- The endpoint that an address with a port names. -/
def numeric? (s : List Char) : Option Endpoint := do
  let (host, port) ← Text.cutLast? ':' s
  let port ← port? port
  match host with
  | '[' :: inner =>
    if inner.getLast? = some ']' then return ⟨.v6 (← Ip.v6? inner.dropLast), port⟩ else none
  | host => return ⟨.v4 (← Ip.strictV4? host), port⟩

/-- The endpoints that a text names, if it names any. What is no address with a port is the name of a host, which is
looked up, with a port behind the last colon. -/
def resolve (lookUp : String → List Ip) (address : String) : Option (List Endpoint) :=
  let s := address.toList
  match numeric? s with
  | some endpoint => some [endpoint]
  | none => do
    let (name, port) ← Text.cutLast? ':' s
    let port ← match port with
      | '+' :: digits => port? digits
      | digits => port? digits
    match lookUp (String.ofList name) with
    | [] => none
    | ips => return ips.map (⟨·, port⟩)

end Endpoint

end ContractSuite.Network
