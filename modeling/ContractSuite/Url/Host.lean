import ContractSuite.Domain.Ascii
import ContractSuite.Text.Percent
import ContractSuite.Url.Basic

namespace ContractSuite.Url

/-- Why a text is not the address of a resource. -/
inductive Fault
  | emptyHost
  | invalidDomain
  | invalidPort
  | invalidV4
  | invalidV6
  /-- The text does not say of which kind the address is. -/
  | missingScheme
  /-- The address is of another kind than those of resources on servers. -/
  | foreignScheme
  deriving DecidableEq, Repr

/-- The text of a fault. -/
def Fault.text : Fault → String
  | .emptyHost => "empty host"
  | .invalidDomain => "invalid international domain name"
  | .invalidPort => "invalid port number"
  | .invalidV4 => "invalid IPv4 address"
  | .invalidV6 => "invalid IPv6 address"
  | .missingScheme => "relative URL without a base"
  | .foreignScheme => "URL of another scheme"

/-- Holds of the domain names whose last label, an empty one apart, is a number. -/
def endsInNumber (domain : List Char) : Bool :=
  let isNumber (label : List Char) : Bool :=
    !label.isEmpty && (label.all Char.isDigit || (Network.Ip.number? label).isSome)
  match (Text.parts (· == '.') domain).reverse with
  | [] :: last :: _ => isNumber last
  | last :: _ => isNumber last
  | [] => false

/-- A text without one dot at its end. -/
def dropEndDot (s : List Char) : List Char :=
  if s.getLast? = some '.' then s.dropLast else s

/-- Reads a domain name or an address of version 4. -/
def readDomain (s : List Char) : Except Fault Host :=
  let decoded := Text.Utf8.decodeLenient (Text.Percent.decode (Text.Utf8.encode (String.ofList s)))
  match Domain.toAscii? decoded.toList with
  | none => .error .invalidDomain
  | some domain =>
    if domain.isEmpty then .error .emptyHost
    else if endsInNumber domain then
      match Network.Ip.looseV4? (dropEndDot domain) with
      | none => .error .invalidV4
      | some n => .ok (.ip (.v4 n))
    else .ok (.domain (String.ofList domain))

/-- Reads a host. -/
def readHost (s : List Char) : Except Fault Host :=
  match s with
  | [] => .error .emptyHost
  | '[' :: rest =>
    if rest.getLast? = some ']' then
      match Network.Ip.v6? rest.dropLast with
      | none => .error .invalidV6
      | some pieces => .ok (.ip (.v6 pieces))
    else .error .invalidV6
  | s => readDomain s

end ContractSuite.Url
