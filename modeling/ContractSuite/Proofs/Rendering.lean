import ContractSuite.Proofs.Counters
import ContractSuite.Proofs.Names

namespace ContractSuite

namespace DirectiveKind

/-- What stands in front of the name where a directive has a line of its own. -/
def opening : DirectiveKind → String
  | .contract => "@contract="
  | .scenario => "Scenario: "

/-- The part of the opening behind the marker. -/
def gap : DirectiveKind → List Char
  | .contract => []
  | .scenario => [' ']

def other : DirectiveKind → DirectiveKind
  | .contract => .scenario
  | .scenario => .contract

theorem opening_eq (kind : DirectiveKind) : kind.opening.toList = kind.marker.toList ++ kind.gap := by
  cases kind <;> decide

theorem initial_not_mem_opening (kind : DirectiveKind) : kind.other.initial ∉ kind.opening.toList := by
  cases kind <;> decide

theorem lineFeed_not_mem_opening (kind : DirectiveKind) : '\n' ∉ kind.opening.toList := by
  cases kind <;> decide

theorem IsName.nameIn_gap {kind : DirectiveKind} {name : String} (proper : kind.IsName name) :
    kind.nameIn (kind.gap ++ name.toList) = name.toList := by
  cases kind with
  | contract =>
    have solid : ∀ c ∈ name.toList, (!Text.isBlank c) = true := fun c member => by simp [(proper.2 c member).1]
    calc name.toList.takeWhile (!Text.isBlank ·)
      _ = (name.toList ++ []).takeWhile (!Text.isBlank ·) := by rw [List.append_nil]
      _ = name.toList ++ [] := List.takeWhile_append_of_pos solid
      _ = name.toList := List.append_nil name.toList
  | scenario =>
    have trimmed := Text.trim_eq_self_iff.mp proper.2.1
    exact (Text.trimBlank_cons_of_isBlank (by decide) name.toList).trans trimmed

theorem IsName.nonempty {kind : DirectiveKind} {name : String} (proper : kind.IsName name) : name ≠ "" := by
  cases kind with
  | contract => exact proper.1
  | scenario => exact proper.1

theorem IsName.lineFeed_not_mem {kind : DirectiveKind} {name : String} (proper : kind.IsName name) :
    '\n' ∉ name.toList := by
  intro lineFeed
  cases kind with
  | contract =>
    have solid := (proper.2 _ lineFeed).1
    revert solid
    decide
  | scenario => exact (proper.2.2 _ lineFeed).2 rfl

theorem IsName.getLast?_ne {kind : DirectiveKind} {name : String} (proper : kind.IsName name) :
    name.toList.getLast? ≠ some '\r' := by
  intro last
  have solid : Text.isBlank '\r' = false := by
    cases kind with
    | contract => exact (proper.2 _ (List.mem_of_getLast? last)).1
    | scenario =>
      rw [← Text.trim_eq_self_iff.mp proper.2.1] at last
      exact Text.not_isBlank_of_getLast?_trimBlank last
  revert solid
  decide

end DirectiveKind

/-- A directive that can have a line of its own: the marker of the other kind is no part of its name. -/
structure Directive where
  kind : DirectiveKind
  name : String
  proper : kind.IsName name
  alone : ¬kind.other.marker.toList <:+: name.toList

namespace Directive

def line (directive : Directive) : String :=
  directive.kind.opening ++ directive.name

/-- The calls that a directive asks for. -/
def calls (directive : Directive) : List Call :=
  match directive.kind with
  | .contract => [.initContract directive.name, .checkExpectations]
  | .scenario => [.runScenario directive.name]

/-- The text of directives, with a line feed between one and the next. -/
def render (directives : List Directive) : String :=
  "\n".intercalate (directives.map line)

theorem cut?_line (directive : Directive) :
    Text.cut? directive.kind.marker.toList directive.line.toList =
      some ([], directive.kind.gap ++ directive.name.toList) := by
  rw [line, String.toList_append, DirectiveKind.opening_eq, List.append_assoc, Text.cut?_append_self]

/-- The marker of the other kind does not come about where the opening meets the name either. -/
theorem cut?_other_line (directive : Directive) :
    Text.cut? directive.kind.other.marker.toList directive.line.toList = none := by
  have alone := directive.alone
  rw [DirectiveKind.marker_eq] at alone ⊢
  rw [Text.cut?_eq_none_iff, line, String.toList_append]
  exact fun occurs => alone (Text.infix_of_infix_append directive.kind.initial_not_mem_opening occurs)

theorem nameOn?_line (directive : Directive) : directive.kind.nameOn? directive.line = some directive.name := by
  rw [DirectiveKind.nameOn?_of_cut? directive.cut?_line, directive.proper.nameIn_gap, if_pos directive.proper.accepts,
    String.ofList_toList]

theorem isMalformedOn_line (directive : Directive) (kind : DirectiveKind) :
    kind.isMalformedOn directive.line = false := by
  have own : directive.kind.isMalformedOn directive.line = false := by
    rw [DirectiveKind.isMalformedOn_of_cut? directive.cut?_line, directive.proper.nameIn_gap,
      directive.proper.accepts, Bool.not_true]
  have foreign := DirectiveKind.isMalformedOn_of_unmarked directive.cut?_other_line
  obtain ⟨self, name, _, _⟩ := directive
  cases self <;> cases kind <;> assumption

theorem lineCalls_line (directive : Directive) : Plan.lineCalls directive.line = directive.calls := by
  have own := directive.nameOn?_line
  have foreign := DirectiveKind.nameOn?_of_unmarked directive.cut?_other_line
  obtain ⟨kind, name, _, _⟩ := directive
  unfold Plan.lineCalls calls
  cases kind with
  | contract =>
    dsimp only [DirectiveKind.other] at own foreign
    rw [own, foreign]
    rfl
  | scenario =>
    dsimp only [DirectiveKind.other] at own foreign
    rw [own, foreign]
    rfl

-- A name ends with no carriage return, so that no line loses one to the line feed behind it.
theorem lines_render (directives : List Directive) : Text.lines (render directives) = directives.map line := by
  refine Text.lines_intercalate ?_ ?_ ?_
  · intro text member empty
    obtain ⟨directive, _, rfl⟩ := List.mem_map.mp member
    rw [line, String.append_eq_empty_iff] at empty
    exact directive.proper.nonempty empty.2
  · intro text member
    obtain ⟨directive, _, rfl⟩ := List.mem_map.mp member
    rw [line, String.toList_append, List.mem_append, not_or]
    exact ⟨directive.kind.lineFeed_not_mem_opening, directive.proper.lineFeed_not_mem⟩
  · intro text member
    obtain ⟨directive, _, rfl⟩ := List.mem_map.mp member
    rw [line, String.toList_append, List.getLast?_append, Ne, Option.or_eq_some_iff, List.getLast?_eq_none_iff]
    rintro (returned | ⟨empty, _⟩)
    · exact directive.proper.getLast?_ne returned
    · exact directive.proper.nonempty (String.toList_eq_nil_iff.mp empty)

theorem calls_render (directives : List Directive) : Plan.calls (render directives) = directives.flatMap calls := by
  rw [Plan.calls, lines_render, List.flatMap_map]
  simp only [lineCalls_line]

theorem isWellFormed_render (directives : List Directive) : Plan.IsWellFormed (render directives) := by
  intro text member kind
  rw [lines_render] at member
  obtain ⟨directive, _, rfl⟩ := List.mem_map.mp member
  exact directive.isMalformedOn_line kind

theorem countP_kind?_calls (directives : List Directive) (kind : DirectiveKind) :
    (directives.flatMap calls).countP (·.kind? == some kind) = directives.countP (·.kind == kind) := by
  induction directives with
  | nil => rfl
  | cons directive more ih =>
    have first : directive.calls.countP (·.kind? == some kind) = if directive.kind == kind then 1 else 0 := by
      obtain ⟨own, name, _, _⟩ := directive
      cases own <;> cases kind <;> rfl
    rw [List.flatMap_cons, List.countP_append, List.countP_cons, ih, first, Nat.add_comm]

end Directive

namespace Scan

open Plan

variable {σ : Type} (server : ContractServer σ) (executor : ScenarioExecutor σ)

/-- Holds of collaborators that accept every call in every state. -/
def Accepting : Prop :=
  ∀ call s, ∃ reply t, (perform server executor call).runAt s = (.ok reply, t)

variable {server executor}

theorem Performed.accepted {s t : σ} {xs : List Exchange} (performed : Performed server executor s xs t)
    (accepting : Accepting server executor) : ∀ x ∈ xs, x.isAccepted = true := by
  induction performed with
  | nil => simp
  | @cons call answer xs s t u run _ ih =>
    obtain ⟨reply, v, accepted⟩ := accepting call s
    rw [run] at accepted
    cases accepted
    exact List.forall_mem_cons.mpr ⟨rfl, ih⟩

theorem Accepting.scanFeature (accepting : Accepting server executor) {contents : String}
    (wellFormed : IsWellFormed contents) (s : σ) :
    ∃ outcome t, (scanFeature server executor contents).runAt s = (.ok outcome, t) := by
  obtain ⟨ending, t, followed, performed, run⟩ := scanFeature_followed server executor contents s
  have accepted := performed.accepted accepting
  cases ending with
  | ok _ => exact ⟨_, t, run⟩
  | error error =>
    exfalso
    rcases followed.error_cases with ⟨earlier, call, refused, _⟩ | ⟨directive, more, met, _, _⟩
    · rw [refused] at accepted
      cases accepted _ (List.mem_append_right earlier List.mem_cons_self)
    · rw [wellFormed.steps_eq] at met
      have defect : Step.defect directive ∈ (calls contents).map Step.call := met ▸ by simp
      simp at defect

variable (server executor)

/-- Directives that are written one under the other are scanned back as they are, if nothing refuses a call. Whatever
is scanned, only names are handed on with which a directive can be written. -/
theorem scanFeature_render :
    (Accepting server executor → ∀ directives s,
      ∃ outcome t, (scanFeature server executor (Directive.render directives)).runAt s = (.ok outcome, t) ∧
        (exchanges server executor (Directive.render directives) s).map Exchange.call =
          directives.flatMap Directive.calls ∧
        outcome.contractsInitialised = directives.countP (·.kind == .contract) ∧
        outcome.scenariosRun = directives.countP (·.kind == .scenario)) ∧
    ∀ contents s (kind : DirectiveKind) name, kind.call name ∈ (exchanges server executor contents s).map Exchange.call →
      kind.IsName name := by
  constructor
  · intro accepting directives s
    obtain ⟨outcome, t, run⟩ := accepting.scanFeature (Directive.isWellFormed_render directives) s
    obtain ⟨_, made, accepted, rfl⟩ := scanFeature_ok server executor run
    rw [Directive.calls_render] at made
    have counted (kind : DirectiveKind) := SuiteOutcome.counter_afterAll_of_accepted
      ({} : ScanState).outcome kind accepted
    simp only [made, Directive.countP_kind?_calls] at counted
    refine ⟨_, t, run, made, (counted .contract).trans (Nat.zero_add _), (counted .scenario).trans (Nat.zero_add _)⟩
  · intro contents s kind name asked
    obtain ⟨ending, t, followed, _, _⟩ := scanFeature_followed server executor contents s
    have planned := followed.calls_prefix_calls.subset asked
    rw [filterMap_call?_steps] at planned
    obtain ⟨line, isLine, named⟩ := exists_line_of_mem_calls planned
    exact DirectiveKind.isName_of_nameOn? named (Text.not_mem_of_mem_lines isLine)

theorem accepting_rehearsal : Accepting ({} : Rehearsal).server ({} : Rehearsal).executor := by
  intro call earlier
  cases call with
  | initContract name => exact ⟨_, _, rfl⟩
  | runScenario name => exact ⟨_, _, rfl⟩
  | checkExpectations => exact ⟨_, _, rfl⟩

/-- Names that hold the delimiter of the other kind, and a carriage return that ends no line. -/
def refundDirectives : List Directive :=
  [⟨.contract, "refunds:ok", by decide, Text.cut?_eq_none_iff.mp (by decide)⟩,
    ⟨.scenario, "sum=0\rpaid", by decide, Text.cut?_eq_none_iff.mp (by decide)⟩]

theorem scanFeature_render_refunds :
    Accepting ({} : Rehearsal).server ({} : Rehearsal).executor ∧
    (∃ outcome calls,
      (scanFeature ({} : Rehearsal).server ({} : Rehearsal).executor
        "@contract=refunds:ok\nScenario: sum=0\rpaid").runAt [] = (.ok outcome, calls) ∧
      (exchanges ({} : Rehearsal).server ({} : Rehearsal).executor
        "@contract=refunds:ok\nScenario: sum=0\rpaid" []).map Exchange.call =
        [.initContract "refunds:ok", .checkExpectations, .runScenario "sum=0\rpaid"] ∧
      outcome.contractsInitialised = 1 ∧ outcome.scenariosRun = 1) ∧
    DirectiveKind.contract.IsName "refunds:ok" := by
  obtain ⟨scanned, handed⟩ := scanFeature_render ({} : Rehearsal).server ({} : Rehearsal).executor
  obtain ⟨outcome, calls, run, made, counted⟩ := scanned accepting_rehearsal refundDirectives []
  have text : Directive.render refundDirectives = "@contract=refunds:ok\nScenario: sum=0\rpaid" := by decide
  have asked : refundDirectives.flatMap Directive.calls =
      [.initContract "refunds:ok", .checkExpectations, .runScenario "sum=0\rpaid"] := rfl
  rw [asked, text] at made
  rw [text] at run
  have proper := handed "@contract=refunds:ok\nScenario: sum=0\rpaid" [] .contract "refunds:ok"
    (by rw [made]; exact List.mem_cons_self)
  exact ⟨accepting_rehearsal, ⟨outcome, calls, run, made, counted⟩, proper⟩

end Scan

end ContractSuite
