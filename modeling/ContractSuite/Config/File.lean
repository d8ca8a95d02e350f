import ContractSuite.Config.Error
import ContractSuite.Config.Toml.Document
import ContractSuite.FileTree.Reading

namespace ContractSuite.Config

open FileTree (Location locationText)

/-- Something that is no file stands where a file is wanted. -/
def notRegular : OsError :=
  .stated .invalidInput "not a regular file"

/-- A file is of a format that is not read. -/
def unknownFormat : OsError :=
  .stated .other "no reader for this format"

/-- The key `extends` holds something else than the path of a file. -/
def badExtends : OsError :=
  .stated .invalidData "`extends` has to name a file"

/-- The endings of file names that stand for formats which are not read. -/
def foreignExtensions : List String :=
  ["json", "json5", "yaml", "yml"]

/-- Holds of the files whose names promise a format that is not read. -/
def isForeign (path : String) : Bool :=
  match Path.extension? path with
  | none => false
  | some ending => foreignExtensions.contains (String.ofList (ending.toList.map Char.toLower))

/-- Holds when a file stands at a location. -/
def isRegular (t : FileTree) (place : Location) : Bool :=
  match t.node? place with
  | some (.file _) => true
  | some (.program _) => true
  | _ => false

/-- The record in one file. -/
def readRecord (t : FileTree) (place : Location) : Except ConfigError Record :=
  let path := locationText place
  match t.textAt place with
  | .error error => .error (.file path (.refused error))
  | .ok text =>
    if isForeign path then .error (.file path (.refused unknownFormat))
    else match Toml.read? text with
      | none => .error (.file path .unparsable)
      | some record => .ok record

/-- The location of the file that a record extends, which stands in the file at the location given. -/
def extended? (t : FileTree) (place : Location) (record : Record) :
    Except ConfigError (Option Location) :=
  match record.get? "extends" with
  | none => .ok none
  | some (.text target) =>
    if target = "" then .error (.file (locationText place) (.refused badExtends))
    else
      let path := Path.join (locationText place.dropLast) target
      match t.resolve path with
      | .error error => .error (.file path (.refused error))
      | .ok there =>
        if isRegular t there then .ok (some there)
        else .error (.file (locationText there) (.refused notRegular))
  | some _ => .error (.file (locationText place) (.refused badExtends))

/-- Reads a file with all that it extends. `chain` are the files on the way to it, and the first argument
bounds their number; a tree has no longer chain than it has nodes. -/
def readChain (t : FileTree) : Nat → List Location → Location → Except ConfigError Record
  | 0, chain, place => .error (.cyclicExtends ((chain ++ [place]).map locationText))
  | bound + 1, chain, place =>
    if chain.contains place then .error (.cyclicExtends ((chain ++ [place]).map locationText))
    else do
      let record ← readRecord t place
      match ← extended? t place record with
      | none => return record
      | some base =>
        let lower ← readChain t bound (chain ++ [place]) base
        return record.laidOver lower

/-- Reads the file that a path leads to with all that it extends, if there is one. -/
def readFile? (t : FileTree) (path : String) : Except ConfigError (Option Record) :=
  match t.resolve path with
  | .error error =>
    if error.kind = .notFound then .ok none else .error (.file path (.refused error))
  | .ok place =>
    if isRegular t place then (readChain t (t.nodes.length + 1) [] place).map some
    else .error (.file path (.refused notRegular))

end ContractSuite.Config
