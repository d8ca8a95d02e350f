import ContractSuite.Config.Value

namespace ContractSuite.Config.Toml

/-- How a table came about. -/
inductive Origin
  /-- By its own header, or as a table in braces. -/
  | stated
  /-- On the way to a table below it. -/
  | implied
  /-- By a key with dots. -/
  | dotted
  deriving DecidableEq

/-- What a name stands for. -/
inductive Node
  | value (v : Value)
  | table (origin : Origin) (entries : List (String × Node))
  /-- Tables under one name, the latest first. -/
  | tables (items : List (List (String × Node)))

/-- Named nodes in the order of their first mention. -/
abbrev Entries := List (String × Node)

namespace Entries

/-- Changes the node of a name, or adds one that is made from nothing. -/
def alter (f : Option Node → Option Node) (name : String) : Entries → Option Entries
  | [] => (f none).map fun node => [(name, node)]
  | (n, node) :: more =>
    if n = name then (f (some node)).map fun node => (n, node) :: more
    else (alter f name more).map ((n, node) :: ·)

/-- Goes down a path and changes the entries at its end. Tables on the way that do not exist are made
with the origin given; by dotted keys only tables that no header states are entered. -/
def descend (origin : Origin) (f : Option Origin → Entries → Option Entries) :
    List String → Option Origin → Entries → Option Entries
  | [], here, entries => f here entries
  | name :: path, _, entries =>
    let enter : Option Node → Option Node
      | none => (descend origin f path (some origin) []).map (.table origin ·)
      | some (.value _) => none
      | some (.table there inner) =>
        if origin = .dotted ∧ there = .stated then none
        else (descend origin f path (some there) inner).map (.table there ·)
      | some (.tables (last :: earlier)) =>
        (descend origin f path (some .stated) last).map fun last => .tables (last :: earlier)
      | some (.tables []) => none
    alter enter name entries

/-- Adds a value under a key with names on the way to it. -/
def addValue (path : List String) (name : String) (value : Value) (entries : Entries) :
    Option Entries :=
  let add (here : Option Origin) (inner : Entries) : Option Entries :=
    if !path.isEmpty && here != some .dotted then none
    else alter (fun | none => some (.value value) | some _ => none) name inner
  descend .dotted add path none entries

/-- States the table of a header. -/
def stateTable (path : List String) (name : String) (entries : Entries) : Option Entries :=
  let state : Option Node → Option Node
    | none => some (.table .stated [])
    | some (.table .implied inner) => some (.table .stated inner)
    | some _ => none
  descend .implied (fun _ inner => alter state name inner) path none entries

/-- Adds a table to those under one name. -/
def appendTable (path : List String) (name : String) (entries : Entries) : Option Entries :=
  let append : Option Node → Option Node
    | none => some (.tables [[]])
    | some (.tables items) => some (.tables ([] :: items))
    | some _ => none
  descend .implied (fun _ inner => alter append name inner) path none entries

end Entries

mutual

/-- The value that a node is in the end. -/
def Node.toValue : Node → Value
  | .value v => v
  | .table _ entries => .table (toRecord entries)
  | .tables items => .list (toList items).reverse

/-- The record that entries are in the end. -/
def toRecord : List (String × Node) → Record
  | [] => []
  | (name, node) :: more => (name, node.toValue) :: toRecord more

/-- The values of tables under one name. -/
def toList : List (List (String × Node)) → List Value
  | [] => []
  | entries :: more => .table (toRecord entries) :: toList more

end

end ContractSuite.Config.Toml
