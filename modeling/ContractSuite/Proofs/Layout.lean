import ContractSuite.Proofs.Markers

namespace ContractSuite

namespace Text

theorem exists_trimBlank_split (s : List Char) :
    ∃ front back, s = front ++ (trimBlank s ++ back) ∧ (∀ c ∈ front, isBlank c = true) ∧
      ∀ c ∈ back, isBlank c = true := by
  have front := List.takeWhile_append_dropWhile (p := isBlank) (l := s)
  have back := congrArg List.reverse
    (List.takeWhile_append_dropWhile (p := isBlank) (l := (s.dropWhile isBlank).reverse))
  rw [List.reverse_append, List.reverse_reverse] at back
  refine ⟨s.takeWhile isBlank, ((s.dropWhile isBlank).reverse.takeWhile isBlank).reverse, ?_, ?_, ?_⟩
  · rw [trimBlank, trimRight, back, front]
  · exact List.all_eq_true.mp List.all_takeWhile
  · intro c member
    exact List.all_eq_true.mp List.all_takeWhile c (List.mem_reverse.mp member)

theorem trimRight_append_blank {blanks : List Char} (blank : ∀ c ∈ blanks, isBlank c = true) (s : List Char) :
    trimRight (s ++ blanks) = trimRight s := by
  have reversed : ∀ c ∈ blanks.reverse, isBlank c = true := fun c member => blank c (List.mem_reverse.mp member)
  rw [trimRight, List.reverse_append, List.dropWhile_append_of_pos reversed, trimRight]

theorem trimBlank_append_blank {blanks : List Char} (blank : ∀ c ∈ blanks, isBlank c = true) (s : List Char) :
    trimBlank (s ++ blanks) = trimBlank s := by
  rw [trimBlank, List.dropWhile_append, trimBlank]
  split
  · next empty =>
    have nothing : (blanks ++ []).dropWhile isBlank = [] := List.dropWhile_append_of_pos blank
    rw [List.append_nil] at nothing
    rw [nothing, List.isEmpty_iff.mp empty]
  · rw [trimRight_append_blank blank]

theorem trimBlank_pad {front back : List Char} (blankFront : ∀ c ∈ front, isBlank c = true)
    (blankBack : ∀ c ∈ back, isBlank c = true) (s : List Char) : trimBlank (front ++ s ++ back) = trimBlank s := by
  rw [trimBlank_append_blank blankBack, trimBlank, List.dropWhile_append_of_pos blankFront, trimBlank]

/-- What stands between blanks and has none at its own ends is what is left of the whole after trimming. -/
theorem trimBlank_between {front name back : List Char} (blankFront : ∀ c ∈ front, isBlank c = true)
    (blankBack : ∀ c ∈ back, isBlank c = true) (first : ∀ c, name.head? = some c → isBlank c = false)
    (last : ∀ c, name.getLast? = some c → isBlank c = false) : trimBlank (front ++ name ++ back) = name := by
  rw [trimBlank_pad blankFront blankBack, trimBlank_eq_self first last]

theorem takeWhile_append_blank {blanks : List Char} (blank : ∀ c ∈ blanks, isBlank c = true) (s : List Char) :
    (s ++ blanks).takeWhile (!isBlank ·) = s.takeWhile (!isBlank ·) := by
  have nothing : blanks.takeWhile (!isBlank ·) = [] := by
    cases blanks with
    | nil => rfl
    | cons c more => simp [(List.forall_mem_cons.mp blank).1]
  rw [List.takeWhile_append, nothing, List.append_nil]
  split
  · next whole => exact ((List.takeWhile_prefix _).eq_of_length whole).symm
  · rfl

theorem isPrefixOf_append_of_apart {marker back : List Char} (apart : ∀ c ∈ back, c ∉ marker) (s : List Char) :
    marker.isPrefixOf (s ++ back) = marker.isPrefixOf s := by
  cases back with
  | nil => rw [List.append_nil]
  | cons c more => exact isPrefixOf_append_cons (apart c List.mem_cons_self) s more

theorem cut?_append_left {head : Char} {front : List Char} (absent : head ∉ front) (tail s : List Char) :
    cut? (head :: tail) (front ++ s) = (cut? (head :: tail) s).map fun (before, after) => (front ++ before, after) := by
  induction front with
  | nil => simp
  | cons c more ih =>
    rw [List.mem_cons, not_or] at absent
    have starts : (head :: tail).isPrefixOf (c :: (more ++ s)) = false := by simp [List.isPrefixOf, absent.1]
    rw [List.cons_append, cut?, starts, ih absent.2, Option.map_map]
    rfl

/-- What follows the marker goes on to the end of the text. -/
theorem cut?_append_right {marker back : List Char} (apart : ∀ c ∈ back, c ∉ marker) (nonempty : marker ≠ [])
    (s : List Char) :
    cut? marker (s ++ back) = (cut? marker s).map fun (before, after) => (before, after ++ back) := by
  induction s with
  | nil =>
    have absent : cut? marker back = none := by
      rw [cut?_eq_none_iff]
      intro inside
      obtain ⟨c, member⟩ := List.exists_mem_of_ne_nil marker nonempty
      exact apart c (inside.subset member) member
    rw [List.nil_append, absent, cut?_eq_none_iff.mpr (by simpa using nonempty)]
    rfl
  | cons c rest ih =>
    have starts := isPrefixOf_append_of_apart apart (c :: rest)
    rw [List.cons_append] at starts
    rw [List.cons_append, cut?, cut?, starts, ih]
    split
    · next isPrefix =>
      have within := (List.isPrefixOf_iff_prefix.mp isPrefix).length_le
      rw [← List.cons_append, List.drop_append_of_le_length within]
      rfl
    · rw [Option.map_map, Option.map_map]
      rfl

end Text

namespace DirectiveKind

theorem not_isBlank_of_mem_marker {kind : DirectiveKind} {c : Char} (member : c ∈ kind.marker.toList) :
    Text.isBlank c = false := by
  have solid : kind.marker.toList.all (!Text.isBlank ·) = true := by cases kind <;> decide
  simpa using List.all_eq_true.mp solid c member

theorem nameIn_append_blank (kind : DirectiveKind) {blanks : List Char}
    (blank : ∀ c ∈ blanks, Text.isBlank c = true) (rest : List Char) :
    kind.nameIn (rest ++ blanks) = kind.nameIn rest := by
  cases kind with
  | contract => exact Text.takeWhile_append_blank blank rest
  | scenario => exact Text.trimBlank_append_blank blank rest

/-- The blanks at the ends of a line stand apart from the leftmost marker. Those at the end stand behind the name. -/
theorem cut?_trim (kind : DirectiveKind) (line : String) :
    ∃ front back, (∀ c ∈ back, Text.isBlank c = true) ∧
      Text.cut? kind.marker.toList line.toList =
        (Text.cut? kind.marker.toList (Text.trim line).toList).map
          fun (before, rest) => (front ++ before, rest ++ back) := by
  obtain ⟨front, back, whole, blankFront, blankBack⟩ := Text.exists_trimBlank_split line.toList
  have absent : kind.initial ∉ front := by
    intro member
    have solid : Text.isBlank kind.initial = false := by cases kind <;> decide
    rw [blankFront _ member] at solid
    cases solid
  have apart : ∀ c ∈ back, c ∉ kind.marker.toList := by
    intro c member inside
    have solid := not_isBlank_of_mem_marker inside
    rw [blankBack c member] at solid
    cases solid
  refine ⟨front, back, blankBack, ?_⟩
  rw [whole, Text.trim, String.toList_ofList]
  have right := Text.cut?_append_right apart kind.marker_ne_nil (Text.trimBlank line.toList)
  rw [marker_eq] at right ⊢
  rw [Text.cut?_append_left absent, right, Option.map_map]
  rfl

theorem nameOn?_trim (kind : DirectiveKind) (line : String) : kind.nameOn? (Text.trim line) = kind.nameOn? line := by
  obtain ⟨front, back, blank, same⟩ := kind.cut?_trim line
  cases found : Text.cut? kind.marker.toList (Text.trim line).toList with
  | none =>
    rw [found] at same
    rw [nameOn?_of_unmarked found, nameOn?_of_unmarked same]
  | some parts =>
    rw [found] at same
    rw [nameOn?_of_cut? found, nameOn?_of_cut? same, nameIn_append_blank kind blank]

theorem isMalformedOn_trim (kind : DirectiveKind) (line : String) :
    kind.isMalformedOn (Text.trim line) = kind.isMalformedOn line := by
  obtain ⟨front, back, blank, same⟩ := kind.cut?_trim line
  cases found : Text.cut? kind.marker.toList (Text.trim line).toList with
  | none =>
    rw [found] at same
    rw [isMalformedOn_of_unmarked found, isMalformedOn_of_unmarked same]
  | some parts =>
    rw [found] at same
    rw [isMalformedOn_of_cut? found, isMalformedOn_of_cut? same, nameIn_append_blank kind blank]

/-- Holds of the lines with a marker of this kind. -/
def isMarkedOn (kind : DirectiveKind) (line : String) : Bool :=
  Text.occurs kind.marker line

end DirectiveKind

/-- The same directive, told without its place and without the blanks around it. -/
def MalformedDirective.unplaced (directive : MalformedDirective) : MalformedDirective :=
  ⟨directive.kind, 0, Text.trim directive.line⟩

namespace Plan

/-- The same step, told without its place. -/
def Step.unplaced : Step → Step
  | .call asked => .call asked
  | .defect directive => .defect directive.unplaced

/-- Holds of the lines with a marker. -/
def isMarked (line : String) : Bool :=
  DirectiveKind.contract.isMarkedOn line || DirectiveKind.scenario.isMarkedOn line

/-- The lines of a text that have a marker, without the blanks at their ends. -/
def directiveLines (contents : String) : List String :=
  ((Text.lines contents).filter isMarked).map Text.trim

theorem map_unplaced_directiveSteps (kind : DirectiveKind) (line : String) (lineNumber : Nat) :
    (directiveSteps kind line lineNumber).map Step.unplaced = directiveSteps kind (Text.trim line) 0 := by
  unfold directiveSteps
  rw [kind.isMalformedOn_trim, kind.nameOn?_trim]
  split
  · rfl
  · cases kind.nameOn? line <;> rfl

theorem map_unplaced_lineSteps (line : String) (lineNumber : Nat) :
    (lineSteps false line lineNumber).map Step.unplaced = lineSteps false (Text.trim line) 0 := by
  have check (isDue : Bool) : (checkSteps isDue).map Step.unplaced = checkSteps isDue := by cases isDue <;> rfl
  unfold lineSteps
  rw [List.map_append, List.map_append, map_unplaced_directiveSteps, map_unplaced_directiveSteps, check,
    DirectiveKind.nameOn?_trim]

theorem lineSteps_of_unmarked {line : String} (unmarked : isMarked line = false) (lineNumber : Nat) :
    lineSteps false line lineNumber = [] := by
  have absent (kind : DirectiveKind) : Text.cut? kind.marker.toList line.toList = none := by
    rw [isMarked, Bool.or_eq_false_iff] at unmarked
    cases kind with
    | contract => exact Option.isSome_eq_false_iff.mp unmarked.1 |> Option.isNone_iff_eq_none.mp
    | scenario => exact Option.isSome_eq_false_iff.mp unmarked.2 |> Option.isNone_iff_eq_none.mp
  unfold lineSteps directiveSteps
  simp [DirectiveKind.isMalformedOn_of_unmarked (absent _), DirectiveKind.nameOn?_of_unmarked (absent _), checkSteps]

/-- The plan of a text, but for the places of its malformed directives, is that of its lines with a marker. -/
theorem map_unplaced_steps (contents : String) :
    (steps contents).map Step.unplaced = (directiveLines contents).flatMap (lineSteps false · 0) := by
  unfold steps directiveLines
  generalize 1 = lineNumber
  induction Text.lines contents generalizing lineNumber with
  | nil => rfl
  | cons line more ih =>
    rw [stepsFrom, List.map_append, ih]
    cases marked : isMarked line with
    | false =>
      rw [lineSteps_of_unmarked marked, List.filter_cons_of_neg (by simp [marked])]
      rfl
    | true => rw [map_unplaced_lineSteps, List.filter_cons_of_pos marked, List.map_cons, List.flatMap_cons]

end Plan

namespace Scan

open Plan

/-- Steps that differ only in the places of malformed directives are followed alike. -/
theorem Followed.unplaced {steps steps' : List Step} {xs : List Exchange} {ending : Except SuiteError Unit}
    (followed : Followed steps xs ending) (same : steps.map Step.unplaced = steps'.map Step.unplaced) :
    ∃ ending', Followed steps' xs ending' ∧
      ((ending = .ok () ∧ ending' = .ok ()) ∨
        (∃ earlier call error, xs = earlier ++ [⟨call, .error error⟩] ∧ ending = .error error ∧
          ending' = .error error) ∨
        ∃ directive directive', ending = .error (.malformedDirective directive) ∧
          ending' = .error (.malformedDirective directive') ∧ directive.unplaced = directive'.unplaced ∧
          ∀ x ∈ xs, x.isAccepted = true) := by
  induction followed generalizing steps' with
  | finished =>
    have nothing : steps' = [] := by simpa using same
    exact ⟨.ok (), nothing ▸ .finished, Or.inl ⟨rfl, rfl⟩⟩
  | @stopped directive more =>
    obtain ⟨step, more', rfl, unplaced, _⟩ := List.map_eq_cons_iff.mp same.symm
    cases step with
    | call asked => cases unplaced
    | defect directive' =>
      have alike : directive'.unplaced = directive.unplaced := by simpa [Step.unplaced] using unplaced
      exact ⟨_, .stopped, Or.inr (Or.inr ⟨directive, directive', rfl, rfl, alike.symm, by simp⟩)⟩
  | @refused call error more =>
    obtain ⟨step, more', rfl, unplaced, _⟩ := List.map_eq_cons_iff.mp same.symm
    cases step with
    | defect directive => cases unplaced
    | call asked =>
      cases unplaced
      exact ⟨_, .refused, Or.inr (Or.inl ⟨[], call, error, rfl, rfl, rfl⟩)⟩
  | @accepted call reply more xs ending _ ih =>
    obtain ⟨step, more', rfl, unplaced, rest⟩ := List.map_eq_cons_iff.mp same.symm
    cases step with
    | defect directive => cases unplaced
    | call asked =>
      cases unplaced
      obtain ⟨ending', followed', alike⟩ := ih rest.symm
      refine ⟨ending', .accepted followed', ?_⟩
      rcases alike with finished | ⟨earlier, last, error, rfl, refused⟩ | ⟨directive, directive', met, met', places, before⟩
      · exact Or.inl finished
      · exact Or.inr (Or.inl ⟨_ :: earlier, last, error, rfl, refused⟩)
      · exact Or.inr (Or.inr ⟨directive, directive', met, met', places, List.forall_mem_cons.mpr ⟨rfl, before⟩⟩)

variable {σ : Type} (server : ContractServer σ) (executor : ScenarioExecutor σ)

/-- Scans of two texts with the same directive lines have the same exchanges, and both succeed alike, both end with the
refusal of one call, or both stop at a malformed directive of one kind. The two lines of that directive differ in their
numbers and in the blanks around them at most. -/
theorem scanFeature_eq_of_directiveLines {contents contents' : String}
    (same : directiveLines contents = directiveLines contents') (s : σ) :
    exchanges server executor contents s = exchanges server executor contents' s ∧
    ((scanFeature server executor contents).runAt s).2 = ((scanFeature server executor contents').runAt s).2 ∧
    ((∃ outcome, ((scanFeature server executor contents).runAt s).1 = .ok outcome ∧
        ((scanFeature server executor contents').runAt s).1 = .ok outcome) ∨
      (∃ earlier call error, exchanges server executor contents s = earlier ++ [⟨call, .error error⟩] ∧
        ((scanFeature server executor contents).runAt s).1 = .error error ∧
        ((scanFeature server executor contents').runAt s).1 = .error error) ∨
      ∃ kind lineNumber lineNumber' line line', Text.trim line = Text.trim line' ∧
        (∀ x ∈ exchanges server executor contents s, x.isAccepted = true) ∧
        ((scanFeature server executor contents).runAt s).1 =
          .error (.malformedDirective ⟨kind, lineNumber, line⟩) ∧
        ((scanFeature server executor contents').runAt s).1 =
          .error (.malformedDirective ⟨kind, lineNumber', line'⟩)) := by
  obtain ⟨ending, t, followed, performed, run⟩ := scanFeature_followed server executor contents s
  have plans : (steps contents).map Step.unplaced = (steps contents').map Step.unplaced := by
    rw [map_unplaced_steps, map_unplaced_steps, same]
  obtain ⟨ending', followed', alike⟩ := followed.unplaced plans
  obtain ⟨run', made⟩ := followed'.scanFeature_eq performed
  rw [run, run', made]
  refine ⟨rfl, rfl, ?_⟩
  rcases alike with ⟨rfl, rfl⟩ | ⟨earlier, call, error, refused, rfl, rfl⟩ | ⟨directive, directive', rfl, rfl, places, accepted⟩
  · exact Or.inl ⟨_, rfl, rfl⟩
  · exact Or.inr (Or.inl ⟨earlier, call, error, refused, rfl, rfl⟩)
  · obtain ⟨kind, lineNumber, line⟩ := directive
    obtain ⟨kind', lineNumber', line'⟩ := directive'
    rw [MalformedDirective.unplaced, MalformedDirective.unplaced, MalformedDirective.mk.injEq] at places
    obtain ⟨rfl, _, trimmed⟩ := places
    exact Or.inr (Or.inr ⟨kind, lineNumber, lineNumber', line, line', trimmed, accepted, rfl, rfl⟩)

/-- An indented file with line feeds. -/
def indentedFeature : String :=
  "Feature: pay\n\n  @contract=pay\n  Scenario: card\t\n\tScenario: a:b\n"

/-- The same directives without indentation, with carriage returns at the line ends. -/
def flatFeature : String :=
  "@contract=pay \r\nScenario: card\r\nGiven a card\r\nScenario: a:b"

theorem scanFeature_flatFeature :
    directiveLines indentedFeature = directiveLines flatFeature ∧
    (scanFeature ({} : Rehearsal).server ({} : Rehearsal).executor indentedFeature).runAt [] =
      (.error (.malformedDirective ⟨.scenario, 5, "\tScenario: a:b"⟩),
        [.runScenario "card", .checkExpectations, .initContract "pay"]) ∧
    (scanFeature ({} : Rehearsal).server ({} : Rehearsal).executor flatFeature).runAt [] =
      (.error (.malformedDirective ⟨.scenario, 4, "Scenario: a:b"⟩),
        [.runScenario "card", .checkExpectations, .initContract "pay"]) ∧
    exchanges ({} : Rehearsal).server ({} : Rehearsal).executor indentedFeature [] =
      exchanges ({} : Rehearsal).server ({} : Rehearsal).executor flatFeature [] := by
  have same : directiveLines indentedFeature = directiveLines flatFeature := by decide
  have plan : steps indentedFeature =
      [.call (.initContract "pay"), .call .checkExpectations, .call (.runScenario "card"),
        .defect ⟨.scenario, 5, "\tScenario: a:b"⟩] := by decide
  have plan' : steps flatFeature =
      [.call (.initContract "pay"), .call .checkExpectations, .call (.runScenario "card"),
        .defect ⟨.scenario, 4, "Scenario: a:b"⟩] := by decide
  refine ⟨same, ?_, ?_, (scanFeature_eq_of_directiveLines _ _ same []).1⟩
  · rw [scanFeature_eq_follow, plan]
    rfl
  · rw [scanFeature_eq_follow, plan']
    rfl

end Scan

end ContractSuite
