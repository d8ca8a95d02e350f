import ContractSuite.Proofs.Act
import ContractSuite.Rehearsal

namespace ContractSuite

namespace DirectiveKind

/-- The call that a directive of this kind asks for. -/
def call : DirectiveKind → String → Call
  | .contract => .initContract
  | .scenario => .runScenario

/-- The name that a line gives in a well-formed directive of this kind. -/
def nameOn? (kind : DirectiveKind) (line : String) : Option String :=
  (directive? kind line 0).toOption.join

/-- Holds when a line has a malformed directive of this kind. -/
def isMalformedOn (kind : DirectiveKind) (line : String) : Bool :=
  !(directive? kind line 0).isOk

/-- The number of the line decides nothing; it is only reported. -/
theorem directive?_eq (kind : DirectiveKind) (line : String) (lineNumber : Nat) :
    directive? kind line lineNumber =
      if kind.isMalformedOn line then .error ⟨kind, lineNumber, line⟩ else .ok (kind.nameOn? line) := by
  unfold isMalformedOn nameOn? directive?
  split
  · rfl
  · dsimp only
    split <;> rfl

theorem nameOn?_of_isMalformedOn {kind : DirectiveKind} {line : String}
    (malformed : kind.isMalformedOn line = true) : kind.nameOn? line = none := by
  unfold nameOn?
  rw [directive?_eq, if_pos malformed]
  rfl

end DirectiveKind

/-- What a collaborator answers to a call that it accepts. -/
abbrev Call.Reply : Call → Type
  | .initContract _ => Unit
  | .runScenario _ => ScenarioStatus
  | .checkExpectations => Unit

/-- The outcome so far after one more call has been accepted. -/
def SuiteOutcome.after (outcome : SuiteOutcome) : (call : Call) → call.Reply → SuiteOutcome
  | .initContract _, _ => { outcome with contractsInitialised := outcome.contractsInitialised + 1 }
  | .runScenario _, status =>
    if status.isSuccess then { outcome with scenariosRun := outcome.scenariosRun + 1 }
    else { outcome with
      scenariosRun := outcome.scenariosRun + 1
      scenariosFailed := outcome.scenariosFailed + 1
      suiteFailed := true }
  | .checkExpectations, _ => outcome

/-- The state of a scan with this outcome so far, in which a check may be pending. -/
def SuiteOutcome.state (outcome : SuiteOutcome) (isPending : Bool) : ScanState where
  pendingCheck := isPending
  suiteFailed := outcome.suiteFailed
  contractsInitialised := outcome.contractsInitialised
  scenariosRun := outcome.scenariosRun
  scenariosFailed := outcome.scenariosFailed

@[simp] theorem SuiteOutcome.outcome_state (outcome : SuiteOutcome) (isPending : Bool) :
    (outcome.state isPending).outcome = outcome := rfl

@[simp] theorem SuiteOutcome.pendingCheck_state (outcome : SuiteOutcome) (isPending : Bool) :
    (outcome.state isPending).pendingCheck = isPending := rfl

theorem SuiteOutcome.afterContract_state (outcome : SuiteOutcome) (isPending : Bool) (name : String) :
    (outcome.state isPending).afterContract = (outcome.after (.initContract name) ()).state true := rfl

theorem SuiteOutcome.afterScenario_state (outcome : SuiteOutcome) (isPending : Bool) (name : String)
    (status : ScenarioStatus) :
    (outcome.state isPending).afterScenario status =
      (outcome.after (.runScenario name) status).state isPending := by
  cases status <;> rfl

theorem ScanState.state_outcome (state : ScanState) :
    state.outcome.state state.pendingCheck = state := rfl

namespace Plan

/-- The calls that a line asks for: its contract is initialised, its scenario is run, and its contract is
checked. -/
def lineCalls (line : String) : List Call :=
  ((DirectiveKind.contract.nameOn? line).map .initContract).toList ++
    ((DirectiveKind.scenario.nameOn? line).map .runScenario).toList ++
    (if (DirectiveKind.contract.nameOn? line).isSome then [.checkExpectations] else [])

/-- The calls that a feature file asks for. -/
def calls (contents : String) : List Call :=
  (Text.lines contents).flatMap lineCalls

/-- A step of a scan: a call, or a malformed directive, at which the scan stops. -/
inductive Step
  | call (call : Call)
  | defect (directive : MalformedDirective)
  deriving DecidableEq

/-- The call of a step that is one. -/
def Step.call? : Step → Option Call
  | .call asked => some asked
  | .defect _ => none

/-- The step that a line asks for by a directive of one kind, if it has the marker. -/
def directiveSteps (kind : DirectiveKind) (line : String) (lineNumber : Nat) : List Step :=
  if kind.isMalformedOn line then [.defect ⟨kind, lineNumber, line⟩]
  else ((kind.nameOn? line).map fun name => .call (kind.call name)).toList

/-- The check at the end of a line, if it is due. -/
def checkSteps (isDue : Bool) : List Step :=
  if isDue then [.call .checkExpectations] else []

/-- The steps of a line at which a check may already be pending. -/
def lineSteps (isPending : Bool) (line : String) (lineNumber : Nat) : List Step :=
  directiveSteps .contract line lineNumber ++ directiveSteps .scenario line lineNumber ++
    checkSteps (isPending || (DirectiveKind.contract.nameOn? line).isSome)

/-- The steps of lines, the first of which has the number given. -/
def stepsFrom : Nat → List String → List Step
  | _, [] => []
  | lineNumber, line :: more => lineSteps false line lineNumber ++ stepsFrom (lineNumber + 1) more

/-- The steps of a feature file: its plan, with each malformed directive in its place. -/
def steps (contents : String) : List Step :=
  stepsFrom 1 (Text.lines contents)

theorem filterMap_call?_directiveSteps (kind : DirectiveKind) (line : String) (lineNumber : Nat) :
    (directiveSteps kind line lineNumber).filterMap Step.call? =
      ((kind.nameOn? line).map kind.call).toList := by
  unfold directiveSteps
  split
  · rename_i malformed
    rw [DirectiveKind.nameOn?_of_isMalformedOn malformed]
    rfl
  · cases kind.nameOn? line <;> rfl

/-- Without its malformed directives, a line consists of its directives and of the check that is due. -/
theorem filterMap_call?_lineSteps (isPending : Bool) (line : String) (lineNumber : Nat) :
    (lineSteps isPending line lineNumber).filterMap Step.call? =
      ((DirectiveKind.contract.nameOn? line).map .initContract).toList ++
        ((DirectiveKind.scenario.nameOn? line).map .runScenario).toList ++
        (if isPending || (DirectiveKind.contract.nameOn? line).isSome then [.checkExpectations] else []) := by
  unfold lineSteps checkSteps
  rw [List.filterMap_append, List.filterMap_append, filterMap_call?_directiveSteps,
    filterMap_call?_directiveSteps]
  split <;> rfl

theorem filterMap_call?_lineSteps_false (line : String) (lineNumber : Nat) :
    (lineSteps false line lineNumber).filterMap Step.call? = lineCalls line :=
  filterMap_call?_lineSteps false line lineNumber

/-- Without its malformed directives, the plan consists of the calls of the lines. -/
theorem filterMap_call?_stepsFrom (lineNumber : Nat) (lines : List String) :
    (stepsFrom lineNumber lines).filterMap Step.call? = lines.flatMap lineCalls := by
  induction lines generalizing lineNumber with
  | nil => rfl
  | cons line more ih =>
    rw [stepsFrom, List.filterMap_append, filterMap_call?_lineSteps_false, ih, List.flatMap_cons]

theorem filterMap_call?_steps (contents : String) : (steps contents).filterMap Step.call? = calls contents :=
  filterMap_call?_stepsFrom 1 (Text.lines contents)

theorem stepsFrom_append (lineNumber : Nat) (first rest : List String) :
    stepsFrom lineNumber (first ++ rest) =
      stepsFrom lineNumber first ++ stepsFrom (lineNumber + first.length) rest := by
  induction first generalizing lineNumber with
  | nil => rfl
  | cons line more ih =>
    rw [List.cons_append, stepsFrom, stepsFrom, ih, List.append_assoc, List.length_cons,
      Nat.add_comm more.length, Nat.add_assoc]

/-- A line without a malformed directive has nothing but its calls for steps. -/
theorem lineSteps_of_wellFormed {line : String} (wellFormed : ∀ kind, DirectiveKind.isMalformedOn kind line = false)
    (lineNumber : Nat) : lineSteps false line lineNumber = (lineCalls line).map .call := by
  unfold lineSteps lineCalls directiveSteps checkSteps
  rw [wellFormed, wellFormed, Bool.false_or]
  cases DirectiveKind.contract.nameOn? line <;> cases DirectiveKind.scenario.nameOn? line <;> rfl

theorem stepsFrom_of_wellFormed {lines : List String}
    (wellFormed : ∀ line ∈ lines, ∀ kind, DirectiveKind.isMalformedOn kind line = false) (lineNumber : Nat) :
    stepsFrom lineNumber lines = (lines.flatMap lineCalls).map .call := by
  induction lines generalizing lineNumber with
  | nil => rfl
  | cons line more ih =>
    rw [stepsFrom, lineSteps_of_wellFormed (wellFormed line List.mem_cons_self),
      ih fun later member => wellFormed later (List.mem_cons_of_mem _ member), List.flatMap_cons, List.map_append]

/-- The calls of a line in front of the directive of this kind. -/
def callsBefore (kind : DirectiveKind) (line : String) : List Call :=
  match kind with
  | .contract => []
  | .scenario => ((DirectiveKind.contract.nameOn? line).map .initContract).toList

theorem lineSteps_of_malformed {line : String} (malformed : ∃ kind, DirectiveKind.isMalformedOn kind line = true)
    (lineNumber : Nat) :
    ∃ kind rest, DirectiveKind.isMalformedOn kind line = true ∧
      (kind = .scenario → DirectiveKind.contract.isMalformedOn line = false) ∧
      lineSteps false line lineNumber =
        (callsBefore kind line).map .call ++ .defect ⟨kind, lineNumber, line⟩ :: rest := by
  cases contract : DirectiveKind.contract.isMalformedOn line with
  | true =>
    refine ⟨.contract, directiveSteps .scenario line lineNumber ++
      checkSteps (DirectiveKind.contract.nameOn? line).isSome, contract, by simp, ?_⟩
    unfold lineSteps
    rw [List.append_assoc, directiveSteps, if_pos contract]
    rfl
  | false =>
    have scenario : DirectiveKind.scenario.isMalformedOn line = true := by
      obtain ⟨kind, found⟩ := malformed
      cases kind with
      | contract => simp [contract] at found
      | scenario => exact found
    refine ⟨.scenario, checkSteps (DirectiveKind.contract.nameOn? line).isSome, scenario, fun _ => rfl, ?_⟩
    unfold lineSteps directiveSteps callsBefore
    rw [contract, if_pos scenario, List.append_assoc]
    cases DirectiveKind.contract.nameOn? line <;> rfl

/-- Holds when no line of a text has a malformed directive. -/
def IsWellFormed (contents : String) : Prop :=
  ∀ line ∈ Text.lines contents, ∀ kind, DirectiveKind.isMalformedOn kind line = false

theorem IsWellFormed.steps_eq {contents : String} (wellFormed : IsWellFormed contents) :
    steps contents = (calls contents).map .call :=
  stepsFrom_of_wellFormed wellFormed 1

/-- A text without directives asks for nothing. -/
theorem steps_of_bare {contents : String}
    (bare : ∀ line ∈ Text.lines contents, ∀ kind lineNumber, directive? kind line lineNumber = .ok none) :
    steps contents = [] := by
  have wellFormed : IsWellFormed contents := by
    intro line member kind
    rw [DirectiveKind.isMalformedOn, bare line member kind 0]
    rfl
  have unnamed (line : String) (member : line ∈ Text.lines contents) (kind : DirectiveKind) :
      kind.nameOn? line = none := by
    rw [DirectiveKind.nameOn?, bare line member kind 0]
    rfl
  rw [wellFormed.steps_eq, List.map_eq_nil_iff, calls, List.flatMap_eq_nil_iff]
  intro line member
  rw [lineCalls, unnamed line member, unnamed line member]
  rfl

/-- A plan that consists of calls comes from a text without malformed directives. -/
theorem isWellFormed_of_steps {contents : String} {made : List Call} (same : steps contents = made.map .call) :
    IsWellFormed contents := by
  intro line member kind
  cases malformed : kind.isMalformedOn line with
  | false => rfl
  | true =>
    obtain ⟨before, after, split⟩ := List.append_of_mem member
    obtain ⟨other, rest, _, _, found⟩ := lineSteps_of_malformed ⟨kind, malformed⟩ (1 + before.length)
    have defect : Step.defect ⟨other, 1 + before.length, line⟩ ∈ steps contents := by
      rw [steps, split, stepsFrom_append, stepsFrom, found]
      simp
    rw [same, List.mem_map] at defect
    obtain ⟨_, _, impossible⟩ := defect
    cases impossible

theorem append_defect_inj {first calls : List Call} {rest more : List Step} {directive : MalformedDirective}
    (same : first.map Step.call ++ rest = calls.map Step.call ++ .defect directive :: more) :
    ∃ tail, calls = first ++ tail ∧ rest = tail.map Step.call ++ .defect directive :: more := by
  induction first generalizing calls with
  | nil => exact ⟨calls, rfl, same⟩
  | cons call first ih =>
    cases calls with
    | nil => simp at same
    | cons other calls =>
      simp only [List.map_cons, List.cons_append, List.cons.injEq, Step.call.injEq] at same
      obtain ⟨rfl, same⟩ := same
      obtain ⟨tail, rfl, split⟩ := ih same
      exact ⟨tail, rfl, split⟩

/-- The first malformed directive of a plan is the first one in the order of the lines, where on one line the
contract comes before the scenario. In front of it are the calls of the lines above and of its own line. -/
theorem stepsFrom_defect {lineNumber : Nat} {lines : List String} {calls : List Call} {more : List Step}
    {directive : MalformedDirective}
    (met : stepsFrom lineNumber lines = calls.map .call ++ .defect directive :: more) :
    ∃ before line after kind, lines = before ++ line :: after ∧
      (∀ above ∈ before, ∀ kind, DirectiveKind.isMalformedOn kind above = false) ∧
      DirectiveKind.isMalformedOn kind line = true ∧
      (kind = .scenario → DirectiveKind.contract.isMalformedOn line = false) ∧
      calls = before.flatMap lineCalls ++ callsBefore kind line ∧
      directive = ⟨kind, lineNumber + before.length, line⟩ := by
  induction lines generalizing lineNumber calls with
  | nil => simp [stepsFrom] at met
  | cons line below ih =>
    rw [stepsFrom] at met
    by_cases malformed : ∃ kind, DirectiveKind.isMalformedOn kind line = true
    · obtain ⟨kind, rest, found, order, split⟩ := lineSteps_of_malformed malformed lineNumber
      rw [split, List.append_assoc] at met
      obtain ⟨tail, rfl, same⟩ := append_defect_inj met
      cases tail with
      | nil =>
        simp only [List.cons_append, List.map_nil, List.nil_append, List.cons.injEq, Step.defect.injEq] at same
        exact ⟨[], line, below, kind, rfl, by simp, found, order, by simp, same.1.symm⟩
      | cons call tail => simp at same
    · have wellFormed : ∀ kind, DirectiveKind.isMalformedOn kind line = false := by simpa using malformed
      rw [lineSteps_of_wellFormed wellFormed] at met
      obtain ⟨tail, rfl, same⟩ := append_defect_inj met
      obtain ⟨before, found, after, kind, rfl, above, isMalformed, order, rfl, rfl⟩ := ih same
      refine ⟨line :: before, found, after, kind, rfl, ?_, isMalformed, order, ?_, ?_⟩
      · intro other member
        rcases List.mem_cons.mp member with rfl | member
        · exact wellFormed
        · exact above other member
      · rw [List.flatMap_cons, List.append_assoc]
      · rw [List.length_cons, Nat.add_assoc, Nat.add_comm 1]

end Plan

namespace Scan

open Plan

variable {σ : Type} (server : ContractServer σ) (executor : ScenarioExecutor σ)

/-- Makes a call. -/
def perform : (call : Call) → Act σ call.Reply
  | .initContract name => server.initContract name
  | .runScenario name => executor.runScenario name
  | .checkExpectations => server.checkExpectations

/-- Takes steps one after another. -/
def follow : List Step → SuiteOutcome → Act σ SuiteOutcome
  | [], outcome => pure outcome
  | .call call :: more, outcome => do
    let reply ← perform server executor call
    follow more (outcome.after call reply)
  | .defect directive :: _, _ => throw (.malformedDirective directive)

theorem follow_append (first rest : List Step) (outcome : SuiteOutcome) :
    follow server executor (first ++ rest) outcome =
      follow server executor first outcome >>= follow server executor rest := by
  induction first generalizing outcome with
  | nil => simp only [List.nil_append, follow, pure_bind]
  | cons step more ih =>
    cases step with
    | call call => simp only [List.cons_append, follow, bind_assoc, ih]
    | defect directive => rfl

theorem nameOnLine_eq (kind : DirectiveKind) (line : String) (lineNumber : Nat) :
    (nameOnLine kind line lineNumber : Act σ (Option String)) =
      if kind.isMalformedOn line then throw (.malformedDirective ⟨kind, lineNumber, line⟩)
      else pure (kind.nameOn? line) := by
  unfold nameOnLine
  rw [DirectiveKind.directive?_eq]
  cases kind.isMalformedOn line <;> rfl

theorem contractStep_eq_follow (line : String) (lineNumber : Nat) (outcome : SuiteOutcome)
    (isPending : Bool) :
    contractStep server line lineNumber (outcome.state isPending) =
      (fun outcome => outcome.state (isPending || (DirectiveKind.contract.nameOn? line).isSome)) <$>
        follow server executor (directiveSteps .contract line lineNumber) outcome := by
  unfold contractStep directiveSteps
  rw [nameOnLine_eq]
  split
  · rfl
  · cases DirectiveKind.contract.nameOn? line with
    | none => simp [follow]
    | some name =>
      simp [follow, perform, DirectiveKind.call, SuiteOutcome.afterContract_state _ _ name]

theorem scenarioStep_eq_follow (line : String) (lineNumber : Nat) (outcome : SuiteOutcome)
    (isPending : Bool) :
    scenarioStep executor line lineNumber (outcome.state isPending) =
      (fun outcome => outcome.state isPending) <$>
        follow server executor (directiveSteps .scenario line lineNumber) outcome := by
  unfold scenarioStep directiveSteps
  rw [nameOnLine_eq]
  split
  · rfl
  · cases DirectiveKind.scenario.nameOn? line with
    | none => simp [follow]
    | some name =>
      simp [follow, perform, DirectiveKind.call, SuiteOutcome.afterScenario_state _ _ name]

theorem checkStep_eq_follow (outcome : SuiteOutcome) (isDue : Bool) :
    checkStep server (outcome.state isDue) =
      (fun outcome => outcome.state false) <$> follow server executor (checkSteps isDue) outcome := by
  cases isDue with
  | false => simp [checkStep, checkSteps, follow]
  | true => simp [checkStep, checkSteps, follow, perform]; rfl

/-- In every state a line is processed by taking its steps. Afterwards no check is pending. -/
theorem processLine_eq_follow (state : ScanState) (line : String) (lineNumber : Nat) :
    processLine server executor state line lineNumber =
      (fun outcome => outcome.state false) <$>
        follow server executor (lineSteps state.pendingCheck line lineNumber) state.outcome := by
  unfold processLine lineSteps
  rw [← state.state_outcome, contractStep_eq_follow server executor]
  simp [follow_append, scenarioStep_eq_follow server executor, checkStep_eq_follow server executor]

theorem processLines_eq_follow (outcome : SuiteOutcome) (lineNumber : Nat) (lines : List String) :
    processLines server executor (outcome.state false) lineNumber lines =
      (fun outcome => outcome.state false) <$>
        follow server executor (stepsFrom lineNumber lines) outcome := by
  induction lines generalizing outcome lineNumber with
  | nil => simp only [processLines, stepsFrom, follow, map_pure]
  | cons line more ih =>
    simp only [processLines, stepsFrom, follow_append, processLine_eq_follow, SuiteOutcome.outcome_state,
      SuiteOutcome.pendingCheck_state, bind_map_left, map_bind, ih]

/-- So are lines that are processed from the start of a scan. -/
theorem processLines_start_eq_follow (lines : List String) :
    processLines server executor {} 1 lines =
      (fun outcome => outcome.state false) <$>
        follow server executor (stepsFrom 1 lines) ({} : ScanState).outcome :=
  processLines_eq_follow server executor ({} : ScanState).outcome 1 lines

/-- A scan follows the plan of its feature file. -/
theorem scanFeature_eq_follow (contents : String) :
    scanFeature server executor contents =
      follow server executor (steps contents) ({} : ScanState).outcome := by
  unfold scanFeature steps
  rw [processLines_start_eq_follow]
  simp

end Scan

end ContractSuite
