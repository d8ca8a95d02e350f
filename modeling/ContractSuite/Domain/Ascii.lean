import ContractSuite.Domain.Direction
import ContractSuite.Domain.Joining
import ContractSuite.Domain.Mapping
import ContractSuite.Domain.Mark
import ContractSuite.Domain.Punycode
import ContractSuite.Text.Parts

namespace ContractSuite.Domain

open Punycode (isAscii)

/-- ASCII characters that no domain name contains. -/
def isForbidden (c : Char) : Bool :=
  c.toNat ≤ 0x20 || c.toNat == 0x7F || ['%', '#', '/', ':', '<', '>', '?', '@', '[', '\\', ']', '^', '|'].contains c

/-- What is in front of an encoded label. -/
def encodedMark : List Char := ['x', 'n', '-', '-']

/-- The labels of a domain name. -/
def labelsOf (s : List Char) : List (List Char) :=
  Text.parts (· == '.') s

/-- Holds of the domain names to which the simple rules of ASCII apply: no label is encoded. -/
def isPlain (s : List Char) : Bool :=
  s.all isAscii && (labelsOf (s.map Char.toLower)).all fun label => !encodedMark.isPrefixOf label

/-- A label as it is meant and in ASCII. -/
structure Label where
  meant : List Char
  ascii : List Char
  deriving DecidableEq, Repr

/-- Reads a label that is encoded. -/
def readEncoded? (label : List Char) : Option Label := do
  let meant ← Punycode.decode? (label.drop encodedMark.length)
  if meant.all isAscii || !meant.all isValid || compose meant ≠ meant || encodedMark.isPrefixOf meant then none
  else some ⟨meant, label⟩

/-- Reads a label of a domain name that has been mapped and composed. -/
def readLabel? (label : List Char) : Option Label :=
  if encodedMark.isPrefixOf label then readEncoded? label
  else if label.all isAscii then some ⟨label, label⟩
  else some ⟨label, encodedMark ++ Punycode.encode label⟩

/-- Holds of a label that is fit to stand in a domain name. -/
def Label.isFit (label : Label) : Bool :=
  !label.meant.head?.any isMark && joinsWell [] label.meant

/-- The labels of a domain name that need not be plain. -/
def readLabels? (s : List Char) : Option (List Label) := do
  let composed := compose (← mapText? s)
  if composed.any isForbidden then none
  else
    let labels ← (labelsOf composed).mapM readLabel?
    let keepDirection := !labels.any (turnsRight ·.meant) || labels.all (keepsDirection ·.meant)
    if labels.all Label.isFit && keepDirection then some labels else none

/-- The ASCII form of a domain name, if it is valid. -/
def toAscii? (s : List Char) : Option (List Char) :=
  if isPlain s then
    if s.any isForbidden then none else some (s.map Char.toLower)
  else (readLabels? s).map fun labels => ['.'].intercalate (labels.map Label.ascii)

end ContractSuite.Domain
