import ContractSuite.Text.Parts

namespace ContractSuite

/-- Variables and their values. -/
abbrev Environment := List (String × String)

namespace Environment

/-- The value of a variable. -/
def get? (e : Environment) (key : String) : Option String :=
  e.lookup key

/-- The environment without a variable. -/
def remove (e : Environment) (key : String) : Environment :=
  e.filter fun entry => entry.1 != key

/-- The environment in which a variable has a value. -/
def set (e : Environment) (key value : String) : Environment :=
  (key, value) :: e.remove key

/-- The environment in which a variable has a value, or none. -/
def put (e : Environment) (key : String) : Option String → Environment
  | some value => e.set key value
  | none => e.remove key

/-- The variable and the value in a text such as `HOME=/root`. -/
def entry? (text : List Char) : Option (String × String) :=
  match text.dropWhile (· != '=') with
  | _ :: value => some (String.ofList (text.takeWhile (· != '=')), String.ofList value)
  | [] => none

/-- The environment in a listing of variables, in which a NUL follows each of them. -/
def ofListing (listing : String) : Environment :=
  (Text.parts (· == '\x00') listing.toList).filterMap entry?

theorem get?_cons (name value other : String) (e : Environment) :
    get? ((name, value) :: e) other = if other = name then some value else e.get? other := by
  by_cases same : other = name
  · simp [get?, same]
  · have differs : (other == name) = false := by simpa using same
    simp [get?, List.lookup_cons, differs, same]

theorem get?_remove (e : Environment) (key other : String) :
    (e.remove key).get? other = if other = key then none else e.get? other := by
  induction e with
  | nil => simp [remove, get?]
  | cons entry rest ih =>
    obtain ⟨name, value⟩ := entry
    rw [get?_cons]
    by_cases same : name = key
    · have dropped : remove ((name, value) :: rest) key = remove rest key := by simp [remove, same]
      rw [dropped, ih]
      by_cases asked : other = key
      · simp [asked]
      · simp [asked, same]
    · have kept : remove ((name, value) :: rest) key = (name, value) :: remove rest key := by
        simp [remove, same]
      rw [kept, get?_cons, ih]
      by_cases here : other = name
      · simp [here, same]
      · simp [here]

theorem get?_put (e : Environment) (key other : String) (value? : Option String) :
    (e.put key value?).get? other = if other = key then value? else e.get? other := by
  cases value? with
  | none => exact get?_remove e key other
  | some value =>
    rw [put, set, get?_cons, get?_remove]
    by_cases same : other = key
    · simp [same]
    · simp [same]

end Environment

end ContractSuite
