import ContractSuite.Proofs.Exchange

namespace ContractSuite

/-- The kind of directive that asks for a call. No directive asks for a check. -/
def Call.kind? : Call → Option DirectiveKind
  | .initContract _ => some .contract
  | .runScenario _ => some .scenario
  | .checkExpectations => none

/-- Holds when a scenario has ended and has not passed. -/
def Exchange.isFailure : Exchange → Bool
  | ⟨.runScenario _, .ok status⟩ => !ScenarioStatus.isSuccess status
  | _ => false

namespace SuiteOutcome

/-- The counter of the directives of a kind that have been acted on. -/
def counter (outcome : SuiteOutcome) : DirectiveKind → Nat
  | .contract => outcome.contractsInitialised
  | .scenario => outcome.scenariosRun

theorem counter_afterExchange (outcome : SuiteOutcome) (kind : DirectiveKind) (x : Exchange) :
    (outcome.afterExchange x).counter kind =
      outcome.counter kind + if x.isAccepted && x.call.kind? == some kind then 1 else 0 := by
  obtain ⟨call, answer⟩ := x
  cases answer with
  | error error => rfl
  | ok reply =>
    cases call with
    | initContract name => cases kind <;> rfl
    | runScenario name => cases reply <;> cases kind <;> rfl
    | checkExpectations => cases kind <;> rfl

theorem scenariosFailed_afterExchange (outcome : SuiteOutcome) (x : Exchange) :
    (outcome.afterExchange x).scenariosFailed = outcome.scenariosFailed + if x.isFailure then 1 else 0 := by
  obtain ⟨call, answer⟩ := x
  cases answer with
  | error error => cases call <;> rfl
  | ok reply =>
    cases call with
    | initContract name => rfl
    | runScenario name => cases reply <;> rfl
    | checkExpectations => rfl

/-- A number that some exchanges increase by one and the others leave as it is counts those exchanges. -/
theorem measure_afterAll {measure : SuiteOutcome → Nat} {counts : Exchange → Bool}
    (step : ∀ outcome x, measure (afterExchange outcome x) = measure outcome + if counts x then 1 else 0)
    (outcome : SuiteOutcome) (xs : List Exchange) :
    measure (outcome.afterAll xs) = measure outcome + xs.countP counts := by
  induction xs generalizing outcome with
  | nil => rfl
  | cons x more ih =>
    have later := ih (outcome.afterExchange x)
    rw [step] at later
    rw [List.countP_cons, afterAll, List.foldl_cons, ← afterAll, later]
    omega

theorem counter_afterAll (outcome : SuiteOutcome) (kind : DirectiveKind) (xs : List Exchange) :
    (outcome.afterAll xs).counter kind =
      outcome.counter kind + xs.countP fun x => x.isAccepted && x.call.kind? == some kind :=
  @measure_afterAll (·.counter kind) _ (fun outcome => outcome.counter_afterExchange kind) outcome xs

theorem scenariosFailed_afterAll (outcome : SuiteOutcome) (xs : List Exchange) :
    (outcome.afterAll xs).scenariosFailed = outcome.scenariosFailed + xs.countP Exchange.isFailure :=
  measure_afterAll scenariosFailed_afterExchange outcome xs

/-- If nothing has been refused, all calls count. -/
theorem counter_afterAll_of_accepted (outcome : SuiteOutcome) (kind : DirectiveKind) {xs : List Exchange}
    (accepted : ∀ x ∈ xs, x.isAccepted = true) :
    (outcome.afterAll xs).counter kind =
      outcome.counter kind + (xs.map Exchange.call).countP (·.kind? == some kind) := by
  rw [counter_afterAll, List.countP_map]
  congr 1
  refine List.countP_congr fun x member => ?_
  rw [accepted x member, Bool.true_and, Function.comp_apply]

theorem eq_of_counter {outcome outcome' : SuiteOutcome}
    (same : ∀ kind, outcome.counter kind = outcome'.counter kind) :
    outcome' = { outcome with
      suiteFailed := outcome'.suiteFailed
      scenariosFailed := outcome'.scenariosFailed } := by
  obtain ⟨_, contracts, scenarios, _⟩ := outcome
  obtain ⟨_, contracts', scenarios', _⟩ := outcome'
  have sameContracts : contracts = contracts' := same .contract
  have sameScenarios : scenarios = scenarios' := same .scenario
  rw [sameContracts, sameScenarios]

/-- The outcome of two parts of a suite. -/
def plus (first second : SuiteOutcome) : SuiteOutcome where
  suiteFailed := first.suiteFailed || second.suiteFailed
  contractsInitialised := first.contractsInitialised + second.contractsInitialised
  scenariosRun := first.scenariosRun + second.scenariosRun
  scenariosFailed := first.scenariosFailed + second.scenariosFailed

theorem plus_start (outcome : SuiteOutcome) : outcome.plus ({} : ScanState).outcome = outcome := by
  simp [plus, ScanState.outcome]

theorem plus_afterExchange (first second : SuiteOutcome) (x : Exchange) :
    (first.plus second).afterExchange x = first.plus (second.afterExchange x) := by
  obtain ⟨call, answer⟩ := x
  cases answer with
  | error error => rfl
  | ok reply =>
    cases call with
    | initContract name => rfl
    | runScenario name => cases reply <;> simp [afterExchange, after, plus, Nat.add_assoc, ScenarioStatus.isSuccess]
    | checkExpectations => rfl

theorem plus_afterAll (first second : SuiteOutcome) (xs : List Exchange) :
    (first.plus second).afterAll xs = first.plus (second.afterAll xs) := by
  induction xs generalizing second with
  | nil => rfl
  | cons x more ih =>
    rw [afterAll, List.foldl_cons, plus_afterExchange]
    exact ih (second.afterExchange x)

/-- Parts of a suite are counted apart, and added up. -/
theorem afterAll_append (outcome : SuiteOutcome) (xs ys : List Exchange) :
    outcome.afterAll (xs ++ ys) = (outcome.afterAll xs).plus (({} : ScanState).outcome.afterAll ys) := by
  rw [← plus_afterAll, plus_start, afterAll, List.foldl_append]
  rfl

end SuiteOutcome

end ContractSuite
