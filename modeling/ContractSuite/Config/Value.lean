namespace ContractSuite.Config

/-- A value of a configuration. -/
inductive Value
  | null
  | bool (b : Bool)
  | integer (i : Int)
  /-- A number that is no integer; no setting takes one. -/
  | fraction
  /-- A date or a time; no setting takes one. -/
  | moment
  | text (s : String)
  | list (items : List Value)
  | table (entries : List (String × Value))
  deriving Repr, Inhabited

/-- Named values, of which the first with a name counts. -/
abbrev Record := List (String × Value)

namespace Record

/-- The value of a name. -/
def get? (r : Record) (name : String) : Option Value :=
  r.lookup name

/-- A record laid over another one. -/
def laidOver (upper lower : Record) : Record :=
  upper ++ lower

theorem get?_laidOver (upper lower : Record) (name : String) :
    (upper.laidOver lower).get? name = (upper.get? name).or (lower.get? name) := by
  simp [get?, laidOver, List.lookup_append]

end Record

end ContractSuite.Config
