import ContractSuite.OsError
import ContractSuite.Path

namespace ContractSuite

/-- A program that a tree holds. -/
inductive Program
  /-- Runs one scenario; what comes of it is planned elsewhere. -/
  | runner
  /-- Provides the steps of scenarios. -/
  | steps
  /-- Ends at once with this exit code. -/
  | ending (code : Nat)
  deriving DecidableEq, Repr

namespace FileTree

/-- The names on the way from the root. -/
abbrev Location := List String

/-- What stands at a location. -/
inductive Node
  | file (contents : List UInt8)
  | program (p : Program)
  /-- A file without contents of its own, such as a device. -/
  | special
  | directory
  | link (target : String)
  deriving DecidableEq, Repr

end FileTree

/-- A tree of files, together with the directory at which relative paths start. -/
structure FileTree where
  nodes : List (FileTree.Location × FileTree.Node) := []
  current : FileTree.Location := []
  deriving Repr

namespace FileTree

/-- What stands at a location. -/
def node? (t : FileTree) (place : Location) : Option Node :=
  if place = [] then some .directory else t.nodes.lookup place

/-- The tree with one more node. A node that stands at the location already hides it. -/
def add (t : FileTree) (place : Location) (node : Node) : FileTree :=
  { t with nodes := t.nodes ++ [(place, node)] }

/-- The text of a location. -/
def locationText (place : Location) : String :=
  if place = [] then "/" else String.join (place.map ("/" ++ ·))

theorem node?_add (t : FileTree) (place other : Location) (node : Node) :
    (t.add place node).node? other =
      (t.node? other).or (if other = place then some node else none) := by
  unfold node? add
  split
  · simp
  · simp only [List.lookup_append]
    congr 1
    simp only [List.lookup_cons, List.lookup_nil]
    split <;> rename_i same <;> simp_all

theorem node?_add_of_isSome {t : FileTree} {place other : Location} {node : Node}
    (taken : (t.node? other).isSome) : (t.add place node).node? other = t.node? other := by
  rw [node?_add]
  cases old : t.node? other with
  | none => simp [old] at taken
  | some _ => rfl

end FileTree

end ContractSuite
