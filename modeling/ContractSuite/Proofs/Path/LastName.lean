import ContractSuite.Proofs.Path.Components

namespace ContractSuite.Path

variable {path : String} {c : Component} {n : String}

theorem isEntryName_of_component? {segment : List Char} (noSlash : '/' ∉ segment)
    (isName : component? segment = some (.name n)) : IsEntryName n := by
  unfold component? at isName
  split at isName
  · cases isName
  next solid =>
  split at isName
  · cases isName
  next notParent =>
  cases isName
  refine ⟨?_, ?_, ?_⟩
  · rw [String.toList_ofList]
    exact Bool.eq_false_iff.mpr solid
  · intro dots
    exact notParent (by simpa using congrArg String.toList dots)
  · rwa [String.toList_ofList]

/-- Behind its front a path leads back to a directory above or to an entry. -/
theorem cases_of_mem_inner {s : List Char} (inside : c ∈ inner s) :
    c = .parent ∨ ∃ n, c = .name n ∧ IsEntryName n := by
  obtain ⟨segment, isSegment, isComponent⟩ := List.mem_filterMap.mp inside
  cases c with
  | parent => exact Or.inl rfl
  | name n => exact Or.inr ⟨n, rfl, isEntryName_of_component? (not_slash_of_mem_segments isSegment) isComponent⟩
  | root | current =>
    unfold component? at isComponent
    split at isComponent
    · cases isComponent
    · split at isComponent <;> cases isComponent

theorem opening_cases (front : List Char) :
    opening front = [] ∨ opening front = [.root] ∨ opening front = [.current] := by
  unfold opening
  split <;> simp

theorem getLast?_components (path : String) : (components path).getLast? =
    (inner (splitFront path.toList).2).getLast?.or (opening (splitFront path.toList).1).getLast? := by
  rw [components_eq, spelled, List.getLast?_append]

theorem getLast?_inner_of_name (named : (components path).getLast? = some (.name n)) :
    (inner (splitFront path.toList).2).getLast? = some (.name n) := by
  rw [getLast?_components] at named
  cases behind : (inner (splitFront path.toList).2).getLast? with
  | some c => rwa [behind, Option.some_or] at named
  | none =>
    -- Nothing but the root or a dot stands at the front, and neither is a name.
    rw [behind, Option.none_or] at named
    rcases opening_cases (splitFront path.toList).1 with front | front | front <;> rw [front] at named <;> cases named

theorem isEntryName_of_getLast? (named : (components path).getLast? = some (.name n)) : IsEntryName n := by
  have inside := List.mem_of_getLast? (getLast?_inner_of_name named)
  rcases cases_of_mem_inner inside with up | ⟨name, same, isName⟩
  · cases up
  · cases same
    exact isName

theorem fileName?_eq_some_iff : fileName? path = some n ↔ (components path).getLast? = some (.name n) := by
  unfold fileName?
  split
  · next name named => simp [named]
  · next unnamed =>
    refine iff_of_false nofun ?_
    intro named
    exact unnamed n named

/-- The path that ends with a name has a parent, and nothing but the name is missing there. -/
theorem exists_parent_of_name (named : (components path).getLast? = some (.name n)) :
    ∃ up, parent? path = some up ∧ components path = components up ++ [.name n] := by
  have solid : (dropIdleEnd (segments (splitFront path.toList).2)).reverse ≠ [] := by
    intro nothing
    have noInner : inner (splitFront path.toList).2 = [] := by
      unfold inner
      rw [← filterMap_dropIdleEnd, List.reverse_eq_nil_iff.mp nothing]
      rfl
    have last := getLast?_inner_of_name named
    rw [noInner] at last
    cases last
  obtain ⟨up, isParent⟩ : ∃ up, parent? path = some up := by
    simp only [parent?]
    split
    · exact ⟨_, rfl⟩
    · next nothing => exact absurd nothing solid
  refine ⟨up, isParent, ?_⟩
  rw [components_parent? isParent, List.dropLast_append_getLast? _ named]

theorem splitFront_of_opening_eq_nil {s : List Char} (plain : opening (splitFront s).1 = []) :
    (splitFront s).2 = s := by
  unfold splitFront at plain ⊢
  split at plain
  · cases plain
  · cases plain
  · cases plain
  · rfl

/-- The text in front of the first slash is a component, unless the front of the path tells of it already. -/
theorem eq_nil_of_spelled_eq_nil {s : List Char} (nothing : spelled s = []) : s = [] := by
  obtain ⟨noFront, noInner⟩ := List.append_eq_nil_iff.mp nothing
  rw [splitFront_of_opening_eq_nil noFront] at noInner
  have spelling := joinSegments_segments s
  cases cut : segments s with
  | nil => exact absurd cut (Text.parts_ne_nil _ s)
  | cons first more =>
    have isFirst : first ∈ segments s := by rw [cut]; exact List.mem_cons_self
    have idle := component?_eq_none_iff.mp (List.filterMap_eq_nil_iff.mp noInner first isFirst)
    rw [cut] at spelling
    -- Whatever follows an idle segment, the path is empty or starts with a slash or a dot, which the front tells.
    rcases isIdle_iff.mp idle with rfl | rfl <;> cases more <;> subst spelling
    · rfl
    · cases noFront
    · cases noFront
    · cases noFront

theorem components_eq_nil_iff : components path = [] ↔ path = "" := by
  rw [components_eq]
  constructor
  · intro nothing
    exact String.toList_eq_nil_iff.mp (eq_nil_of_spelled_eq_nil nothing)
  · rintro rfl
    rfl

/-- The paths that do not end with a name: the empty one, the root, dots only, and those that end with two dots. -/
theorem getLast?_ne_name_iff : (∀ n, (components path).getLast? ≠ some (.name n)) ↔
    path = "" ∨ components path = [.root] ∨ components path = [.current] ∨
      (components path).getLast? = some .parent := by
  constructor
  · intro unnamed
    cases last : (inner (splitFront path.toList).2).getLast? with
    | none =>
      have whole : components path = opening (splitFront path.toList).1 := by
        rw [components_eq, spelled, List.getLast?_eq_none_iff.mp last, List.append_nil]
      rw [whole, ← components_eq_nil_iff, whole]
      rcases opening_cases (splitFront path.toList).1 with front | front | front <;> simp [front]
    | some c =>
      have ends : (components path).getLast? = some c := by rw [getLast?_components, last, Option.some_or]
      rcases cases_of_mem_inner (List.mem_of_getLast? last) with rfl | ⟨n, rfl, -⟩
      · exact Or.inr (Or.inr (Or.inr ends))
      · exact absurd ends (unnamed n)
  · rintro (rfl | root | dot | up) n named
    · cases named
    · rw [root] at named
      cases named
    · rw [dot] at named
      cases named
    · rw [up] at named
      cases named

theorem head?_inner_ne_root (s : List Char) : (inner s).head? ≠ some .root := by
  intro root
  rcases cases_of_mem_inner (List.mem_of_mem_head? root) with up | ⟨n, name, -⟩
  · cases up
  · cases name

theorem isAbsolute_iff : isAbsolute path = true ↔ (components path).head? = some .root := by
  unfold isAbsolute
  rw [beq_iff_eq, components_eq, spelled]
  unfold splitFront
  split
  · next spelling => simp [spelling, opening]
  · next spelling => simp [spelling, opening]
  · next spelling => simp [spelling, opening]
  · next notSlash _ _ =>
    refine iff_of_false ?_ (head?_inner_ne_root _)
    intro slash
    obtain ⟨rest, spelling⟩ := List.head?_eq_some_iff.mp slash
    exact notSlash rest spelling

end ContractSuite.Path
