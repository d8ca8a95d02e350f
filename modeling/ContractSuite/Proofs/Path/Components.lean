import ContractSuite.Path
import Mathlib.Data.List.DropRight

namespace ContractSuite.Path

/-- The component for the front of a path. -/
def opening : List Char → List Component
  | ['/'] => [.root]
  | ['.'] => [.current]
  | _ => []

/-- The components between the slashes of a text. -/
def inner (s : List Char) : List Component :=
  (segments s).filterMap component?

/-- The components of a path that is spelled so. -/
def spelled (s : List Char) : List Component :=
  opening (splitFront s).1 ++ inner (splitFront s).2

theorem components_eq (path : String) : components path = spelled path.toList :=
  rfl

theorem inner_append (s t : List Char) : inner (s ++ '/' :: t) = inner s ++ inner t := by
  unfold inner segments
  rw [Text.parts_append_cons rfl, List.filterMap_append]

theorem inner_nil : inner [] = [] :=
  rfl

theorem splitFront_append {s : List Char} (nonempty : s ≠ []) (t : List Char) :
    splitFront (s ++ '/' :: t) = ((splitFront s).1, (splitFront s).2 ++ '/' :: t) := by
  cases s with
  | nil => exact absurd rfl nonempty
  | cons c rest =>
    by_cases slash : c = '/'
    · subst slash
      rfl
    by_cases dot : c = '.'
    · subst dot
      cases rest with
      | nil => rfl
      | cons d more =>
        by_cases behind : d = '/'
        · subst behind
          rfl
        · simp [splitFront, behind]
    · simp [splitFront, slash, dot]

/-- What stands behind a slash adds its components, unless the slash is the root. -/
theorem spelled_append {s : List Char} (nonempty : s ≠ []) (t : List Char) :
    spelled (s ++ '/' :: t) = spelled s ++ inner t := by
  unfold spelled
  rw [splitFront_append nonempty, inner_append, List.append_assoc]

theorem spelled_root (t : List Char) : spelled ('/' :: t) = .root :: inner t :=
  rfl

/-- Holds of a text that is a single component and names an entry of a directory. -/
structure IsEntryName (name : String) : Prop where
  notIdle : isIdle name.toList = false
  notParent : name ≠ ".."
  noSlash : '/' ∉ name.toList

namespace IsEntryName

variable {name : String}

theorem ne_dot (isName : IsEntryName name) : name ≠ "." := by
  rintro rfl
  exact Bool.false_ne_true isName.notIdle.symm

theorem inner_eq (isName : IsEntryName name) : inner name.toList = [.name name] := by
  have whole : segments name.toList = [name.toList] := by
    refine Text.parts_of_no_separator fun c inside => ?_
    rw [beq_eq_false_iff_ne]
    rintro rfl
    exact isName.noSlash inside
  have notParent : name.toList ≠ ['.', '.'] := fun same => isName.notParent (String.toList_inj.mp same)
  have component : component? name.toList = some (.name name) := by
    unfold component?
    rw [isName.notIdle, if_neg Bool.false_ne_true, if_neg notParent, String.ofList_toList]
  unfold inner
  rw [whole, List.filterMap_cons_some component, List.filterMap_nil]

theorem splitFront_eq (isName : IsEntryName name) : splitFront name.toList = ([], name.toList) := by
  have notIdle := isName.notIdle
  have noSlash := isName.noSlash
  unfold splitFront
  split
  · next spelling => simp [spelling] at noSlash
  · next spelling => simp [spelling, isIdle] at notIdle
  · next spelling => simp [spelling] at noSlash
  · rfl

theorem spelled_eq (isName : IsEntryName name) : spelled name.toList = [.name name] := by
  unfold spelled
  rw [isName.splitFront_eq, isName.inner_eq]
  rfl

theorem isAbsolute_eq (isName : IsEntryName name) : isAbsolute name = false := by
  unfold isAbsolute
  rw [beq_eq_false_iff_ne]
  intro slash
  exact isName.noSlash (List.mem_of_mem_head? slash)

/-- A slash at the end of a path makes no difference to what comes behind it. -/
theorem spelled_append_name (isName : IsEntryName name) (front : List Char) :
    spelled (front ++ '/' :: name.toList) = spelled (front ++ ['/']) ++ [.name name] := by
  cases front with
  | nil =>
    rw [List.nil_append, spelled_root, isName.inner_eq]
    rfl
  | cons c rest =>
    rw [spelled_append (List.cons_ne_nil c rest), spelled_append (List.cons_ne_nil c rest), isName.inner_eq, inner_nil,
      List.append_nil]

/-- A name that is joined to a path is its last component, and the only one that is added. -/
theorem components_join (isName : IsEntryName name) (base : String) :
    components (join base name) = components base ++ [.name name] := by
  unfold join
  rw [isName.isAbsolute_eq, if_neg Bool.false_ne_true]
  simp only [components_eq]
  by_cases empty : base = ""
  · subst empty
    rw [if_pos (by simp), String.empty_append, isName.spelled_eq]
    rfl
  have nonempty : base.toList ≠ [] := fun same => empty (String.toList_eq_nil_iff.mp same)
  by_cases ends : base.toList.getLast? = some '/'
  · obtain ⟨front, spelling⟩ := List.getLast?_eq_some_iff.mp ends
    rw [if_pos (by simp [ends]), String.toList_append, spelling, List.append_assoc]
    exact isName.spelled_append_name front
  · rw [if_neg (by simp [ends, empty]), String.toList_append, String.toList_append, List.append_assoc]
    exact (spelled_append nonempty name.toList).trans (by rw [isName.inner_eq])

end IsEntryName

theorem joinSegments_append {segs rest : List (List Char)} (nonempty : segs ≠ []) (further : rest ≠ []) :
    joinSegments (segs ++ rest) = joinSegments segs ++ '/' :: joinSegments rest := by
  induction segs with
  | nil => exact absurd rfl nonempty
  | cons segment more ih =>
    cases more with
    | nil =>
      cases rest with
      | nil => exact absurd rfl further
      | cons => rfl
    | cons second more =>
      have behind := ih (List.cons_ne_nil second more)
      rw [List.cons_append] at behind ⊢
      simp only [List.cons_append, joinSegments, behind, List.append_assoc]

theorem joinSegments_segments (s : List Char) : joinSegments (segments s) = s := by
  induction s with
  | nil => rfl
  | cons c rest ih =>
    unfold segments at ih ⊢
    cases cut : Text.parts (· == '/') rest with
    | nil => exact absurd cut (Text.parts_ne_nil _ rest)
    | cons first more =>
      rw [cut] at ih
      rw [Text.parts, cut]
      by_cases slash : c = '/'
      · subst slash
        rw [if_pos (beq_self_eq_true '/'), joinSegments, ih]
        · rfl
        · simp
      · rw [if_neg (by simpa using slash)]
        cases more with
        | nil => exact congrArg (c :: ·) ih
        | cons second more => exact congrArg (c :: ·) ih

theorem segments_joinSegments {segs : List (List Char)} (nonempty : segs ≠ [])
    (noSlash : ∀ segment ∈ segs, '/' ∉ segment) : segments (joinSegments segs) = segs := by
  induction segs with
  | nil => exact absurd rfl nonempty
  | cons segment more ih =>
    obtain ⟨here, later⟩ := List.forall_mem_cons.mp noSlash
    have whole : segments segment = [segment] := by
      refine Text.parts_of_no_separator fun c inside => ?_
      rw [beq_eq_false_iff_ne]
      rintro rfl
      exact here inside
    cases more with
    | nil => exact whole
    | cons second more =>
      have behind := ih (List.cons_ne_nil second more) later
      rw [joinSegments, segments, Text.parts_append_cons rfl]
      · unfold segments at whole behind
        rw [whole, behind]
        rfl
      · simp

theorem not_slash_of_mem_segments {s segment : List Char} (isSegment : segment ∈ segments s) : '/' ∉ segment := by
  intro inside
  have plain := Text.not_isSeparator_of_mem_parts isSegment inside
  simp at plain

theorem isIdle_iff {segment : List Char} : isIdle segment = true ↔ segment = [] ∨ segment = ['.'] := by
  unfold isIdle
  rw [Bool.or_eq_true, beq_iff_eq, beq_iff_eq]

theorem component?_eq_none_iff {segment : List Char} : component? segment = none ↔ isIdle segment = true := by
  unfold component?
  split
  · next idle => simp [idle]
  · next solid => split <;> simp [solid]

theorem dropIdleEnd_eq (segs : List (List Char)) : dropIdleEnd segs = segs.rdropWhile isIdle :=
  rfl

/-- Idle segments at the end are no components. -/
theorem filterMap_dropIdleEnd (segs : List (List Char)) :
    (dropIdleEnd segs).filterMap component? = segs.filterMap component? := by
  induction segs using List.reverseRecOn with
  | nil => rfl
  | append_singleton front last ih =>
    rw [dropIdleEnd_eq] at ih ⊢
    rw [List.rdropWhile_concat, List.filterMap_append]
    split
    · next idle => rw [ih, List.filterMap_cons_none (component?_eq_none_iff.mpr idle), List.filterMap_nil, List.append_nil]
    · rw [List.filterMap_append]

/-- Behind the segments of the parent stand those of the last component and idle ones. -/
theorem exists_rest_of_parent {segs before : List (List Char)} {last : List Char}
    (cut : (dropIdleEnd segs).reverse = last :: before) : ∃ rest c,
    segs = dropIdleEnd before.reverse ++ rest ∧ rest ≠ [] ∧ rest.filterMap component? = [c] := by
  have split : dropIdleEnd segs = before.reverse ++ [last] := by
    rw [← List.reverse_cons, ← cut, List.reverse_reverse]
  obtain ⟨tail, whole⟩ := List.rdropWhile_prefix isIdle segs
  obtain ⟨idle, front⟩ := List.rdropWhile_prefix isIdle before.reverse
  rw [← dropIdleEnd_eq] at whole front
  have spelling : segs = dropIdleEnd before.reverse ++ (idle ++ last :: tail) := by
    rw [← List.append_assoc, front, ← whole, split, List.append_assoc]
    rfl
  have solid : isIdle last ≠ true := by
    have nonempty : segs.rdropWhile isIdle ≠ [] := by simp [← dropIdleEnd_eq, split]
    have stays := List.rdropWhile_last_not isIdle segs nonempty
    simp only [← dropIdleEnd_eq, split] at stays
    simpa using stays
  obtain ⟨c, isLast⟩ := Option.ne_none_iff_exists'.mp fun idle => solid (component?_eq_none_iff.mp idle)
  refine ⟨idle ++ last :: tail, c, spelling, by simp, ?_⟩
  have counted : segs.filterMap component? = (dropIdleEnd before.reverse).filterMap component? ++ [c] := by
    rw [← filterMap_dropIdleEnd, split, List.filterMap_append, filterMap_dropIdleEnd, List.filterMap_cons_some isLast,
      List.filterMap_nil]
  rw [spelling, List.filterMap_append] at counted
  exact List.append_cancel_left counted

theorem splitFront_cases (s : List Char) :
    (splitFront s).1 ++ (splitFront s).2 = s ∧ spelled (splitFront s).1 = opening (splitFront s).1 := by
  unfold splitFront
  split <;> exact ⟨rfl, rfl⟩

theorem dropIdleEnd_eq_nil {segs : List (List Char)} (empty : joinSegments (dropIdleEnd segs) = []) :
    dropIdleEnd segs = [] := by
  by_contra nonempty
  have solid := List.rdropWhile_last_not isIdle segs nonempty
  simp only [← dropIdleEnd_eq] at solid
  -- Only a single segment without characters is written as nothing, and that one is idle.
  cases cut : dropIdleEnd segs with
  | nil => exact nonempty cut
  | cons segment more =>
    cases more with
    | nil =>
      rw [cut] at empty
      simp only [cut, List.getLast_singleton] at solid
      exact solid (by rw [show segment = [] from empty]; rfl)
    | cons second more =>
      rw [cut] at empty
      simp [joinSegments] at empty

/-- The components of a path are those of its front and some segments, and behind them those of the other segments. -/
theorem spelled_of_segments {s : List Char} {segs rest : List (List Char)}
    (cut : segments (splitFront s).2 = segs ++ rest) (further : rest ≠ []) (solid : joinSegments segs = [] → segs = []) :
    spelled s = spelled ((splitFront s).1 ++ joinSegments segs) ++ rest.filterMap component? := by
  obtain ⟨whole, front⟩ := splitFront_cases s
  by_cases empty : segs = []
  · subst empty
    rw [List.nil_append] at cut
    rw [joinSegments, List.append_nil, front]
    unfold spelled inner
    rw [cut]
  · have nonempty : (splitFront s).1 ++ joinSegments segs ≠ [] := fun nothing =>
      empty (solid (List.append_eq_nil_iff.mp nothing).2)
    have noSlash : ∀ segment ∈ rest, '/' ∉ segment := fun segment member =>
      not_slash_of_mem_segments (by rw [cut]; exact List.mem_append_right segs member)
    have spelling : s = ((splitFront s).1 ++ joinSegments segs) ++ '/' :: joinSegments rest := by
      rw [List.append_assoc, ← joinSegments_append empty further, ← cut, joinSegments_segments, whole]
    conv_lhs => rw [spelling]
    rw [spelled_append nonempty, inner, segments_joinSegments further noSlash]

/-- The parent of a path has all of its components but the last one. -/
theorem components_parent? {path up : String} (isParent : parent? path = some up) :
    components up = (components path).dropLast := by
  simp only [parent?] at isParent
  rw [components_eq, components_eq]
  split at isParent
  · next last before cut =>
    obtain ⟨rest, c, spelling, further, counted⟩ := exists_rest_of_parent cut
    cases isParent
    rw [String.toList_ofList, spelled_of_segments spelling further dropIdleEnd_eq_nil, counted, List.dropLast_concat]
  · next nothing =>
    split at isParent
    · next front =>
      cases isParent
      have noInner : inner (splitFront path.toList).2 = [] := by
        unfold inner
        rw [← filterMap_dropIdleEnd, List.reverse_eq_nil_iff.mp nothing]
        rfl
      unfold spelled
      rw [front, noInner]
      rfl
    · cases isParent

theorem components_prefix_of_mem_go {steps : Nat} {path up : String} (isAbove : up ∈ ancestors.go path steps) :
    components up <+: components path := by
  induction steps generalizing path with
  | zero =>
    obtain rfl := List.mem_singleton.mp isAbove
    exact List.prefix_rfl
  | succ steps ih =>
    rw [ancestors.go] at isAbove
    split at isAbove
    · obtain rfl := List.mem_singleton.mp isAbove
      exact List.prefix_rfl
    · next parent isParent =>
      rcases List.mem_cons.mp isAbove with rfl | higher
      · exact List.prefix_rfl
      · have inParent := ih higher
        rw [components_parent? isParent] at inParent
        exact inParent.trans (List.dropLast_prefix _)

/-- The components of the paths above a path are the first ones of its own. -/
theorem components_prefix_of_mem_ancestors {path up : String} (isAbove : up ∈ ancestors path) :
    components up <+: components path :=
  components_prefix_of_mem_go isAbove

end ContractSuite.Path
