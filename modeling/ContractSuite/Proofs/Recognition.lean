import ContractSuite.Proofs.Layout

namespace ContractSuite

namespace Text

/-- The parts of a text around a marker, where no other place of the marker is further to the left. -/
def IsLeftmost (marker s before after : List Char) : Prop :=
  s = before ++ marker ++ after ∧
    ∀ before' after', s = before' ++ marker ++ after' → before.length ≤ before'.length

theorem isLeftmost_of_cut? {marker s before after : List Char} (found : cut? marker s = some (before, after)) :
    IsLeftmost marker s before after := by
  refine ⟨eq_append_of_cut? found, ?_⟩
  induction s generalizing before after with
  | nil =>
    unfold cut? at found
    split at found
    · cases found
      intro _ _ _
      exact Nat.zero_le _
    · cases found
  | cons c rest ih =>
    intro before' after' whole
    unfold cut? at found
    split at found
    · cases found
      exact Nat.zero_le _
    · next starts =>
      obtain ⟨⟨front, back⟩, inRest, same⟩ := Option.map_eq_some_iff.mp found
      cases same
      cases before' with
      | nil =>
        have isPrefix : marker <+: c :: rest := ⟨after', whole.symm⟩
        exact absurd (List.isPrefixOf_iff_prefix.mpr isPrefix) starts
      | cons d front' =>
        have shorter : rest = front' ++ marker ++ after' := (List.cons.inj whole).2
        have bound := ih inRest front' after' shorter
        simp only [List.length_cons]
        omega

theorem IsLeftmost.unique {marker s before after before' after' : List Char} (left : IsLeftmost marker s before after)
    (left' : IsLeftmost marker s before' after') : before = before' ∧ after = after' := by
  have shorter := left.2 before' after' left'.1
  have longer := left'.2 before after left.1
  have same : before ++ marker ++ after = before' ++ marker ++ after' := left.1.symm.trans left'.1
  have lengths : (before ++ marker).length = (before' ++ marker).length := by
    simp only [List.length_append]
    omega
  obtain ⟨fronts, backs⟩ := List.append_inj same lengths
  exact ⟨List.append_cancel_right fronts, backs⟩

theorem cut?_eq_some_iff {marker s before after : List Char} :
    cut? marker s = some (before, after) ↔ IsLeftmost marker s before after := by
  refine ⟨isLeftmost_of_cut?, fun left => ?_⟩
  cases found : cut? marker s with
  | none =>
    have inside : marker <:+: s := ⟨before, after, left.1.symm⟩
    exact absurd inside (cut?_eq_none_iff.mp found)
  | some parts =>
    obtain ⟨before', after'⟩ := parts
    obtain ⟨rfl, rfl⟩ := left.unique (isLeftmost_of_cut? found)
    rfl

/-- Where the first character of a marker does not occur again in it, a text without the marker adds no place of it. -/
theorem cut?_append_marker {head : Char} {tail before : List Char} (once : head ∉ tail)
    (absent : ¬head :: tail <:+: before) (after : List Char) :
    cut? (head :: tail) (before ++ (head :: tail) ++ after) = some (before, after) := by
  induction before with
  | nil => exact cut?_append_self (head :: tail) after
  | cons c more ih =>
    rw [List.infix_cons_iff, not_or] at absent
    obtain ⟨notHere, notLater⟩ := absent
    -- A marker that begins here and ends in the one that follows would hold its own first character twice.
    have starts : ¬(head :: tail).isPrefixOf (c :: (more ++ head :: tail ++ after)) = true := by
      intro isPrefix
      obtain ⟨same, others⟩ := List.cons_prefix_cons.mp (List.isPrefixOf_iff_prefix.mp isPrefix)
      have upToHead : more ++ [head] <+: more ++ head :: tail ++ after := ⟨tail ++ after, by simp⟩
      have within : tail <+: more ++ [head] := by
        rcases List.prefix_or_prefix_of_prefix others upToHead with within | beyond
        · exact within
        · exact absurd (beyond.subset (List.mem_append_right more List.mem_cons_self)) once
      rcases List.prefix_concat_iff.mp within with whole | shorter
      · exact once (whole ▸ List.mem_append_right more List.mem_cons_self)
      · exact notHere (List.cons_prefix_cons.mpr ⟨same, shorter⟩)
    rw [List.cons_append, List.cons_append, cut?, if_neg starts, ih notLater]
    rfl

end Text

namespace DirectiveKind

/-- Between the text behind a marker and the name in it: for a contract the name is the longest part at the front
without a blank, for a scenario all but the blanks at the two ends. -/
def HasName : DirectiveKind → List Char → List Char → Prop
  | .contract, rest, name => name <+: rest ∧ (∀ c ∈ name, Text.isBlank c = false) ∧
      ∀ longer, longer <+: rest → (∀ c ∈ longer, Text.isBlank c = false) → longer.length ≤ name.length
  | .scenario, rest, name => ∃ front back, rest = front ++ name ++ back ∧ (∀ c ∈ front, Text.isBlank c = true) ∧
      (∀ c ∈ back, Text.isBlank c = true) ∧ (∀ c, name.head? = some c → Text.isBlank c = false) ∧
      ∀ c, name.getLast? = some c → Text.isBlank c = false

theorem contract_hasName_iff {rest name : List Char} :
    HasName .contract rest name ↔ name = rest.takeWhile (!Text.isBlank ·) := by
  have isLongest (longer : List Char) (isPrefix : longer <+: rest) (solid : ∀ c ∈ longer, Text.isBlank c = false) :
      longer <+: rest.takeWhile (!Text.isBlank ·) := by
    obtain ⟨behind, rfl⟩ := isPrefix
    rw [List.takeWhile_append_of_pos (by simpa using solid)]
    exact List.prefix_append longer _
  have solidFront : ∀ c ∈ rest.takeWhile (!Text.isBlank ·), Text.isBlank c = false := by
    intro c member
    simpa using List.all_eq_true.mp List.all_takeWhile c member
  constructor
  · rintro ⟨isPrefix, solid, longest⟩
    have atMost := isLongest name isPrefix solid
    have atLeast := longest _ (List.takeWhile_prefix _) solidFront
    exact atMost.eq_of_length (Nat.le_antisymm atMost.length_le atLeast)
  · rintro rfl
    exact ⟨List.takeWhile_prefix _, solidFront, fun longer isPrefix solid => (isLongest longer isPrefix solid).length_le⟩

theorem scenario_hasName_iff {rest name : List Char} : HasName .scenario rest name ↔ name = Text.trimBlank rest := by
  constructor
  · rintro ⟨front, back, rfl, blankFront, blankBack, first, last⟩
    exact (Text.trimBlank_between blankFront blankBack first last).symm
  · rintro rfl
    obtain ⟨front, back, whole, blankFront, blankBack⟩ := Text.exists_trimBlank_split rest
    refine ⟨front, back, ?_, blankFront, blankBack, fun _ => Text.not_isBlank_of_head?_trimBlank,
      fun _ => Text.not_isBlank_of_getLast?_trimBlank⟩
    rw [List.append_assoc, ← whole]

theorem hasName_iff {kind : DirectiveKind} {rest name : List Char} : kind.HasName rest name ↔ name = kind.nameIn rest := by
  cases kind with
  | contract => exact contract_hasName_iff
  | scenario => exact scenario_hasName_iff

/-- A directive of this kind: the leftmost marker of the line and a proper name behind it. -/
def Directs (kind : DirectiveKind) (line name : String) : Prop :=
  ∃ before rest, Text.IsLeftmost kind.marker.toList line.toList before rest ∧ kind.HasName rest name.toList ∧
    name ≠ "" ∧ kind.forbidden ∉ name.toList

theorem directs_iff_of_cut? {kind : DirectiveKind} {line : String} {before rest : List Char}
    (found : Text.cut? kind.marker.toList line.toList = some (before, rest)) (name : String) :
    kind.Directs line name ↔ name.toList = kind.nameIn rest ∧ kind.accepts (kind.nameIn rest) = true := by
  have left := Text.cut?_eq_some_iff.mp found
  rw [accepts_iff]
  constructor
  · rintro ⟨before', rest', left', named, nonempty, permitted⟩
    obtain ⟨rfl, rfl⟩ := left.unique left'
    have same := hasName_iff.mp named
    rw [← same]
    exact ⟨rfl, by simpa using nonempty, permitted⟩
  · rintro ⟨same, nonempty, permitted⟩
    rw [← same] at nonempty permitted
    exact ⟨before, rest, left, hasName_iff.mpr same, by simpa using nonempty, permitted⟩

theorem directive?_eq_none_iff {kind : DirectiveKind} {line : String} {lineNumber : Nat} :
    directive? kind line lineNumber = .ok none ↔ ¬kind.marker.toList <:+: line.toList := by
  rw [← Text.cut?_eq_none_iff]
  unfold directive?
  split
  · next absent => exact ⟨fun _ => absent, fun _ => rfl⟩
  · next found =>
    rw [found]
    dsimp only
    split <;> exact ⟨nofun, nofun⟩

theorem directive?_eq_some_iff {kind : DirectiveKind} {line name : String} {lineNumber : Nat} :
    directive? kind line lineNumber = .ok (some name) ↔ kind.Directs line name := by
  unfold directive?
  split
  · next absent =>
    refine ⟨nofun, ?_⟩
    rintro ⟨before, rest, left, _⟩
    rw [Text.cut?_eq_some_iff.mpr left] at absent
    cases absent
  · next found =>
    rw [directs_iff_of_cut? found]
    dsimp only
    split
    · next accepted =>
      constructor
      · intro given
        cases given
        exact ⟨String.toList_ofList, accepted⟩
      · rintro ⟨same, _⟩
        rw [← same, String.ofList_toList]
    · next refused => exact ⟨nofun, fun directs => absurd directs.2 refused⟩

/-- There is no third way to be malformed. -/
theorem directive?_eq_error {kind : DirectiveKind} {line : String} {lineNumber : Nat}
    (marked : kind.marker.toList <:+: line.toList) (nameless : ∀ name, ¬kind.Directs line name) :
    directive? kind line lineNumber = .error ⟨kind, lineNumber, line⟩ := by
  cases result : directive? kind line lineNumber with
  | ok name? =>
    cases name? with
    | none => exact absurd marked (directive?_eq_none_iff.mp result)
    | some name => exact absurd (directive?_eq_some_iff.mp result) (nameless name)
  | error directive =>
    rw [directive?_eq] at result
    split at result
    · cases result
      rfl
    · cases result

theorem directs_append {kind : DirectiveKind} {before rest name : String}
    (absent : ¬kind.marker.toList <:+: before.toList) (named : kind.HasName rest.toList name.toList)
    (nonempty : name ≠ "") (permitted : kind.forbidden ∉ name.toList) :
    kind.Directs (before ++ kind.marker ++ rest) name := by
  have once : kind.initial ∉ kind.marker.toList.tail := by cases kind <;> decide
  rw [marker_eq] at absent
  have found := Text.cut?_append_marker once absent rest.toList
  rw [← marker_eq, ← String.toList_append, ← String.toList_append] at found
  exact ⟨before.toList, rest.toList, Text.cut?_eq_some_iff.mp found, named, nonempty, permitted⟩

end DirectiveKind

/-- A line is no directive exactly if it lacks the marker, it gives a name exactly if this is the proper name behind
its leftmost marker, and every other line is malformed and reported as it is. So a proper name is given just as it
stands behind the marker: for a contract up to the first blank, for a scenario between blanks. -/
theorem directive?_follows_grammar :
    (∀ kind line lineNumber,
      (directive? kind line lineNumber = .ok none ↔ ¬kind.marker.toList <:+: line.toList) ∧
      (∀ name, directive? kind line lineNumber = .ok (some name) ↔ kind.Directs line name) ∧
      (kind.marker.toList <:+: line.toList → (∀ name, ¬kind.Directs line name) →
        directive? kind line lineNumber = .error ⟨kind, lineNumber, line⟩)) ∧
    (∀ before name suffix lineNumber, ¬DirectiveKind.contract.marker.toList <:+: before.toList →
      name ≠ "" → (∀ c ∈ name.toList, Text.isBlank c = false ∧ c ≠ '=') →
      (∀ c, suffix.toList.head? = some c → Text.isBlank c = true) →
      directive? .contract (before ++ DirectiveKind.contract.marker ++ (name ++ suffix)) lineNumber =
        .ok (some name)) ∧
    ∀ before front name back lineNumber, ¬DirectiveKind.scenario.marker.toList <:+: before.toList →
      name ≠ "" → Text.trim name = name → ':' ∉ name.toList →
      (∀ c ∈ front.toList, Text.isBlank c = true) → (∀ c ∈ back.toList, Text.isBlank c = true) →
      directive? .scenario (before ++ DirectiveKind.scenario.marker ++ (front ++ name ++ back)) lineNumber =
        .ok (some name) := by
  refine ⟨fun kind line lineNumber => ⟨DirectiveKind.directive?_eq_none_iff,
    fun name => DirectiveKind.directive?_eq_some_iff, DirectiveKind.directive?_eq_error⟩, ?_, ?_⟩
  · intro before name suffix lineNumber absent nonempty solid ends
    rw [DirectiveKind.directive?_eq_some_iff]
    have notForbidden : DirectiveKind.contract.forbidden ∉ name.toList := fun member => (solid _ member).2 rfl
    refine DirectiveKind.directs_append absent ?_ nonempty notForbidden
    rw [DirectiveKind.contract_hasName_iff, String.toList_append,
      List.takeWhile_append_of_pos fun c member => by simp [(solid c member).1]]
    cases behind : suffix.toList with
    | nil => simp
    | cons c more => simp [ends c (by rw [behind]; rfl)]
  · intro before front name back lineNumber absent nonempty trimmed permitted blankFront blankBack
    rw [DirectiveKind.directive?_eq_some_iff]
    refine DirectiveKind.directs_append absent ?_ nonempty permitted
    have same := Text.trim_eq_self_iff.mp trimmed
    refine ⟨front.toList, back.toList, by rw [String.toList_append, String.toList_append], blankFront, blankBack, ?_, ?_⟩
    · rw [← same]
      exact fun _ => Text.not_isBlank_of_head?_trimBlank
    · rw [← same]
      exact fun _ => Text.not_isBlank_of_getLast?_trimBlank

/-- A line may spell the start of a marker before the marker, and other signs and blanks than those of plain text. -/
theorem directive?_follows_grammar_tagged :
    (¬DirectiveKind.contract.marker.toList <:+: "@smoke @contract".toList ∧
      directive? .contract
        ("@smoke @contract" ++ DirectiveKind.contract.marker ++ ("refunds:ok" ++ "\u00a0@slow=@contract=b")) 3 =
        .ok (some "refunds:ok")) ∧
    (Text.trim "paid = 2" = "paid = 2" ∧
      directive? .scenario
        ("Scenario Outline" ++ DirectiveKind.scenario.marker ++ ("\t\u2003" ++ "paid = 2" ++ "\r")) 4 =
        .ok (some "paid = 2")) ∧
    directive? .contract "@contract=a=b" 5 = .error ⟨.contract, 5, "@contract=a=b"⟩ := by
  have absent : ¬DirectiveKind.contract.marker.toList <:+: "@smoke @contract".toList :=
    Text.cut?_eq_none_iff.mp (by decide)
  have trimmed : Text.trim "paid = 2" = "paid = 2" := Text.trim_eq_self_iff.mpr (by decide)
  have checked : ("refunds:ok".toList.all fun c => !Text.isBlank c && c != '=') = true := by decide
  have solid : ∀ c ∈ "refunds:ok".toList, Text.isBlank c = false ∧ c ≠ '=' :=
    fun c member => by simpa using List.all_eq_true.mp checked c member
  have ends : ∀ c, "\u00a0@slow=@contract=b".toList.head? = some c → Text.isBlank c = true := by
    intro c first
    obtain rfl : '\u00a0' = c := Option.some.inj first
    decide
  have blank : "\t\u2003".toList.all Text.isBlank = true ∧ "\r".toList.all Text.isBlank = true := by decide
  refine ⟨⟨absent, ?_⟩, ⟨trimmed, ?_⟩, ?_⟩
  · exact directive?_follows_grammar.2.1 "@smoke @contract" "refunds:ok" _ 3 absent (by decide) solid ends
  · exact directive?_follows_grammar.2.2 "Scenario Outline" _ "paid = 2" _ 4 (Text.cut?_eq_none_iff.mp (by decide))
      (by decide) trimmed (by decide) (List.all_eq_true.mp blank.1) (List.all_eq_true.mp blank.2)
  · have found : Text.cut? DirectiveKind.contract.marker.toList "@contract=a=b".toList = some ([], "a=b".toList) := by
      decide
    have nameless (name : String) : ¬DirectiveKind.contract.Directs "@contract=a=b" name := by
      rw [DirectiveKind.directs_iff_of_cut? found]
      exact fun directs => absurd directs.2 (by decide)
    exact (directive?_follows_grammar.1 .contract "@contract=a=b" 5).2.2 ⟨[], "a=b".toList, by decide⟩ nameless

end ContractSuite
