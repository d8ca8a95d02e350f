import ContractSuite.Proofs.Names
import ContractSuite.Proofs.Counters

namespace ContractSuite

namespace Text

/-- How often a marker occurs in a text. -/
def occurrences (marker : List Char) : List Char → Nat
  | [] => 0
  | c :: rest => occurrences marker rest + if marker.isPrefixOf (c :: rest) then 1 else 0

theorem occurrences_pos_iff {marker s : List Char} (nonempty : marker ≠ []) :
    0 < occurrences marker s ↔ marker <:+: s := by
  induction s with
  | nil => simp [occurrences, nonempty]
  | cons c rest ih =>
    rw [occurrences, List.infix_cons_iff, ← ih, ← List.isPrefixOf_iff_prefix]
    split
    · next starts => simp [starts]
    · next starts => simp [starts]

/-- No marker reaches beyond a character that it lacks. -/
theorem isPrefixOf_append_cons {marker : List Char} {c : Char} (absent : c ∉ marker) (s t : List Char) :
    marker.isPrefixOf (s ++ c :: t) = marker.isPrefixOf s := by
  induction s generalizing marker with
  | nil =>
    cases marker with
    | nil => rfl
    | cons a more =>
      have differs : a ≠ c := fun same => absent (same ▸ List.mem_cons_self)
      simp [List.isPrefixOf, differs]
  | cons d rest ih =>
    cases marker with
    | nil => rfl
    | cons a more =>
      rw [List.cons_append, List.isPrefixOf, List.isPrefixOf, ih fun later => absent (List.mem_cons_of_mem a later)]

theorem occurrences_append_cons {marker : List Char} {c : Char} (absent : c ∉ marker) (nonempty : marker ≠ [])
    (s t : List Char) :
    occurrences marker (s ++ c :: t) = occurrences marker s + occurrences marker t := by
  induction s with
  | nil =>
    have apart := isPrefixOf_append_cons absent [] t
    have stops : marker.isPrefixOf [] = false := by
      cases marker with
      | nil => exact absurd rfl nonempty
      | cons a more => rfl
    rw [List.nil_append] at apart
    simp [occurrences, apart, stops]
  | cons d rest ih =>
    have apart := isPrefixOf_append_cons absent (d :: rest) t
    rw [List.cons_append] at apart
    rw [List.cons_append, occurrences, occurrences, apart, ih]
    omega

theorem occurrences_append_of_not_mem {head : Char} {tail s : List Char} (absent : head ∉ s) (t : List Char) :
    occurrences (head :: tail) (s ++ t) = occurrences (head :: tail) t := by
  induction s with
  | nil => rfl
  | cons c rest ih =>
    rw [List.mem_cons, not_or] at absent
    rw [List.cons_append, occurrences, ih absent.2, List.isPrefixOf]
    simp [absent.1]

/-- Behind the leftmost marker are all others, if a marker cannot begin within itself. -/
theorem occurrences_of_cut? {head : Char} {tail s before after : List Char} (once : head ∉ tail)
    (found : cut? (head :: tail) s = some (before, after)) :
    occurrences (head :: tail) s = occurrences (head :: tail) after + 1 := by
  induction s generalizing before with
  | nil => simp [cut?] at found
  | cons c rest ih =>
    rw [cut?] at found
    split at found
    · next starts =>
      obtain ⟨more, whole⟩ := List.isPrefixOf_iff_prefix.mp starts
      rw [← whole, List.drop_left, Option.some.injEq, Prod.mk.injEq] at found
      rw [occurrences, if_pos starts, ← found.2]
      rw [List.cons_append, List.cons.injEq] at whole
      rw [← whole.2, occurrences_append_of_not_mem once]
    · next starts =>
      obtain ⟨⟨front, back⟩, later, same⟩ := Option.map_eq_some_iff.mp found
      cases same
      rw [occurrences, if_neg starts, ih later]

end Text

namespace DirectiveKind

/-- How often the marker of this kind occurs in a text. -/
def occurrences (kind : DirectiveKind) (text : String) : Nat :=
  Text.occurrences kind.marker.toList text.toList

/-- How often it occurs on lines. -/
def occurrencesOn (kind : DirectiveKind) : List String → Nat
  | [] => 0
  | line :: more => kind.occurrences line + kind.occurrencesOn more

theorem marker_ne_nil (kind : DirectiveKind) : kind.marker.toList ≠ [] := by
  cases kind <;> decide

/-- No marker is lost or gained at a line end. -/
theorem occurrences_eq_occurrencesOn (kind : DirectiveKind) (text : String) :
    kind.occurrences text = kind.occurrencesOn (Text.lines text) := by
  have noFeed : '\n' ∉ kind.marker.toList := by cases kind <;> decide
  have noReturn : '\r' ∉ kind.marker.toList := by cases kind <;> decide
  obtain ⟨s, rfl⟩ : ∃ s, text = String.ofList s := ⟨text.toList, String.ofList_toList.symm⟩
  rw [occurrences, String.toList_ofList]
  induction s using Text.induction_on_lines with
  | last s within =>
    by_cases empty : s = []
    · subst empty
      rfl
    · rw [Text.lines_of_not_mem within empty, occurrencesOn, occurrencesOn, occurrences, String.toList_ofList,
        Nat.add_zero]
  | line s t within ih =>
    have body : Text.occurrences kind.marker.toList (Text.lineBody (s ++ ['\n'])) =
        Text.occurrences kind.marker.toList s := by
      rcases Text.lineBody_append_lineFeed s with same | shortened
      · rw [same]
      · have split := Text.occurrences_append_cons noReturn kind.marker_ne_nil (Text.lineBody (s ++ ['\n'])) []
        rw [shortened] at split
        exact split.symm
    rw [Text.occurrences_append_cons noFeed kind.marker_ne_nil, Text.lines_append_cons within, occurrencesOn,
      occurrences, String.toList_ofList, body, ih]

theorem occurrences_pos_iff {kind : DirectiveKind} {line : String} :
    0 < kind.occurrences line ↔ (Text.cut? kind.marker.toList line.toList).isSome = true := by
  rw [occurrences, Text.occurrences_pos_iff kind.marker_ne_nil]
  cases found : Text.cut? kind.marker.toList line.toList with
  | none => simp [Text.cut?_eq_none_iff.mp found]
  | some parts =>
    have occurs : kind.marker.toList <:+: line.toList := ⟨_, _, (Text.eq_append_of_cut? found).symm⟩
    simp [occurs]

theorem occurrences_of_cut? {kind : DirectiveKind} {line : String} {before rest : List Char}
    (found : Text.cut? kind.marker.toList line.toList = some (before, rest)) :
    kind.occurrences line = Text.occurrences kind.marker.toList rest + 1 := by
  have once : kind.initial ∉ kind.marker.toList.tail := by cases kind <;> decide
  unfold occurrences
  rw [marker_eq] at found ⊢
  exact Text.occurrences_of_cut? once found

/-- Where no directive is malformed, a line gives a name exactly if it has the marker. -/
theorem isSome_nameOn?_iff {kind : DirectiveKind} {line : String} (wellFormed : kind.isMalformedOn line = false) :
    (kind.nameOn? line).isSome = true ↔ 0 < kind.occurrences line := by
  rw [occurrences_pos_iff]
  cases found : Text.cut? kind.marker.toList line.toList with
  | none => simp [nameOn?_of_unmarked found]
  | some parts =>
    obtain ⟨before, rest⟩ := parts
    rw [isMalformedOn_of_cut? found, Bool.not_eq_false'] at wellFormed
    simp [nameOn?_of_cut? found, wellFormed]

/-- The name of a scenario is all that follows on its line, and a second marker would bring a colon into it. -/
theorem occurrences_scenario_le_one {line : String} (wellFormed : scenario.isMalformedOn line = false) :
    scenario.occurrences line ≤ 1 := by
  cases found : Text.cut? scenario.marker.toList line.toList with
  | none =>
    have unmarked : ¬0 < scenario.occurrences line := by simp [occurrences_pos_iff, found]
    omega
  | some parts =>
    obtain ⟨before, rest⟩ := parts
    rw [isMalformedOn_of_cut? found, Bool.not_eq_false', accepts_iff] at wellFormed
    have single : ¬0 < Text.occurrences scenario.marker.toList rest := by
      rw [Text.occurrences_pos_iff (by decide)]
      intro again
      have colon : ':' ∈ rest := again.subset (by decide)
      exact wellFormed.2 (Text.mem_trimBlank colon (by decide))
    have split := occurrences_of_cut? found
    omega

end DirectiveKind

namespace Plan

theorem countP_kind?_lineCalls (kind : DirectiveKind) (line : String) :
    (lineCalls line).countP (·.kind? == some kind) = if (kind.nameOn? line).isSome then 1 else 0 := by
  unfold lineCalls
  cases contract : DirectiveKind.contract.nameOn? line <;> cases scenario : DirectiveKind.scenario.nameOn? line <;>
    cases kind <;> simp [contract, scenario, Call.kind?]

theorem countP_kind?_flatMap_lineCalls (kind : DirectiveKind) (lines : List String) :
    (lines.flatMap lineCalls).countP (·.kind? == some kind) =
      lines.countP fun line => (kind.nameOn? line).isSome := by
  induction lines with
  | nil => rfl
  | cons line more ih =>
    rw [List.flatMap_cons, List.countP_append, List.countP_cons, ih, countP_kind?_lineCalls, Nat.add_comm]

theorem countP_kind?_calls (kind : DirectiveKind) (contents : String) :
    (calls contents).countP (·.kind? == some kind) =
      (Text.lines contents).countP fun line => (kind.nameOn? line).isSome :=
  countP_kind?_flatMap_lineCalls kind (Text.lines contents)

/-- On lines without malformed directives there are no fewer markers than names, and there are no more exactly if no
line has two of them. -/
theorem countP_nameOn?_eq_iff {kind : DirectiveKind} {lines : List String}
    (wellFormed : ∀ line ∈ lines, kind.isMalformedOn line = false) :
    (lines.countP fun line => (kind.nameOn? line).isSome) ≤ kind.occurrencesOn lines ∧
    ((lines.countP fun line => (kind.nameOn? line).isSome) = kind.occurrencesOn lines ↔
      ∀ line ∈ lines, kind.occurrences line ≤ 1) := by
  induction lines with
  | nil => simp [DirectiveKind.occurrencesOn]
  | cons line more ih =>
    have here := DirectiveKind.isSome_nameOn?_iff (wellFormed line List.mem_cons_self)
    obtain ⟨bound, exact⟩ := ih fun later member => wellFormed later (List.mem_cons_of_mem line member)
    rw [List.countP_cons, DirectiveKind.occurrencesOn, List.forall_mem_cons, ← exact]
    by_cases marked : 0 < kind.occurrences line
    · rw [if_pos (here.mpr marked)]
      omega
    · rw [if_neg (fun named => marked (here.mp named))]
      omega

end Plan

namespace Scan

open Plan

variable {σ : Type} (server : ContractServer σ) (executor : ScenarioExecutor σ)

/-- A scan that succeeds has run a scenario for every marker of a scenario. For contract markers it has initialised
one contract for each line that has any, so that those are missed which stand behind another one on their line. -/
theorem markers_of_scanFeature_ok {contents : String} {s t : σ} {outcome : SuiteOutcome}
    (run : (scanFeature server executor contents).runAt s = (.ok outcome, t)) :
    (exchanges server executor contents s).countP (·.call.kind? == some .scenario) =
      DirectiveKind.scenario.occurrences contents ∧
    (exchanges server executor contents s).countP (·.call.kind? == some .contract) =
      (Text.lines contents).countP (fun line => 0 < DirectiveKind.contract.occurrences line) ∧
    ((exchanges server executor contents s).countP (·.call.kind? == some .contract) =
        DirectiveKind.contract.occurrences contents ↔
      ∀ line ∈ Text.lines contents, DirectiveKind.contract.occurrences line ≤ 1) := by
  obtain ⟨wellFormed, made, _, _⟩ := scanFeature_ok server executor run
  have counted (kind : DirectiveKind) :
      (exchanges server executor contents s).countP (·.call.kind? == some kind) =
        (Text.lines contents).countP fun line => (kind.nameOn? line).isSome := by
    rw [← countP_kind?_calls, ← made, List.countP_map]
    rfl
  have several (kind : DirectiveKind) := countP_nameOn?_eq_iff fun line isLine => wellFormed line isLine kind
  simp only [counted, DirectiveKind.occurrences_eq_occurrencesOn _ contents]
  refine ⟨?_, ?_, (several .contract).2⟩
  · exact (several .scenario).2.mpr fun line isLine =>
      DirectiveKind.occurrences_scenario_le_one (wellFormed line isLine .scenario)
  · refine List.countP_congr fun line isLine => ?_
    rw [DirectiveKind.isSome_nameOn?_iff (wellFormed line isLine .contract), decide_eq_true_iff]

/-- Markers of both kinds on each line, in either order. -/
def crowdedFeature : String :=
  "@contract=a Scenario: b @contract=c\nScenario: d @contract=e"

theorem markers_of_crowdedFeature :
    (scanFeature ({} : Rehearsal).server ({} : Rehearsal).executor crowdedFeature).runAt [] =
      (.ok ⟨false, 2, 2, 0⟩,
        [.checkExpectations, .runScenario "d @contract=e", .initContract "e", .checkExpectations,
          .runScenario "b @contract=c", .initContract "a"]) ∧
    (exchanges ({} : Rehearsal).server ({} : Rehearsal).executor crowdedFeature []).countP
      (·.call.kind? == some .scenario) = DirectiveKind.scenario.occurrences crowdedFeature ∧
    DirectiveKind.scenario.occurrences crowdedFeature = 2 ∧
    DirectiveKind.contract.occurrences crowdedFeature = 3 := by
  have plan : steps crowdedFeature =
      [.call (.initContract "a"), .call (.runScenario "b @contract=c"), .call .checkExpectations,
        .call (.initContract "e"), .call (.runScenario "d @contract=e"), .call .checkExpectations] := by decide
  have run : (scanFeature ({} : Rehearsal).server ({} : Rehearsal).executor crowdedFeature).runAt [] =
      (.ok ⟨false, 2, 2, 0⟩,
        [.checkExpectations, .runScenario "d @contract=e", .initContract "e", .checkExpectations,
          .runScenario "b @contract=c", .initContract "a"]) := by
    rw [scanFeature_eq_follow, plan]
    rfl
  exact ⟨run, (markers_of_scanFeature_ok _ _ run).1, by decide, by decide⟩

/-- Two contract markers on one line, of which the second one has no call. -/
theorem contract_marker_passed_over :
    (scanFeature ({} : Rehearsal).server ({} : Rehearsal).executor "@contract=a @contract=b").runAt [] =
      (.ok ⟨false, 1, 0, 0⟩, [.checkExpectations, .initContract "a"]) ∧
    DirectiveKind.contract.occurrences "@contract=a @contract=b" = 2 := by
  have plan : steps "@contract=a @contract=b" = [.call (.initContract "a"), .call .checkExpectations] := by decide
  refine ⟨?_, by decide⟩
  rw [scanFeature_eq_follow, plan]
  rfl

end Scan

end ContractSuite
