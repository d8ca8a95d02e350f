import ContractSuite.Network.Ip

namespace ContractSuite

/-- The server that an address names. -/
inductive Url.Host
  | ip (address : Network.Ip)
  | domain (name : String)
  deriving DecidableEq, Repr

/-- How a server is spoken to. -/
inductive Url.Scheme
  | http
  | https
  deriving DecidableEq, Repr

/-- The address of a resource on a server. -/
structure Url where
  scheme : Url.Scheme := .http
  username : String := ""
  password : String := ""
  host : Url.Host
  /-- The port, unless it is the usual one. -/
  port : Option Nat := none
  /-- The path, which starts with a slash. -/
  path : String := "/"
  query : Option String := none
  fragment : Option String := none
  deriving DecidableEq, Repr

namespace Url

/-- The word for a scheme. -/
def Scheme.word : Scheme → String
  | .http => "http"
  | .https => "https"

/-- The usual port of a scheme. -/
def Scheme.usualPort : Scheme → Nat
  | .http => 80
  | .https => 443

/-- The text of a host. -/
def Host.text : Host → String
  | .ip (.v4 n) => Network.Ip.v4Text n
  | .ip (.v6 pieces) => "[" ++ Network.Ip.v6Text pieces ++ "]"
  | .domain name => name

/-- The port at which the server is spoken to. -/
def effectivePort (u : Url) : Nat :=
  u.port.getD u.scheme.usualPort

/-- The user information with its delimiters. -/
def credentials (u : Url) : String :=
  if u.username = "" ∧ u.password = "" then ""
  else u.username ++ (if u.password = "" then "" else ":" ++ u.password) ++ "@"

/-- The query with its delimiter, if there is one. -/
def queryText (u : Url) : String :=
  match u.query with
  | none => ""
  | some query => "?" ++ query

/-- The part of an address that a server is asked for. -/
def target (u : Url) : String :=
  u.path ++ u.queryText

/-- The text of an address. -/
def text (u : Url) : String :=
  let port := match u.port with
    | none => ""
    | some port => ":" ++ toString port
  let fragment := match u.fragment with
    | none => ""
    | some fragment => "#" ++ fragment
  u.scheme.word ++ "://" ++ u.credentials ++ u.host.text ++ port ++ u.target ++ fragment

end Url

end ContractSuite
