import ContractSuite.Proofs.Exchange

namespace ContractSuite

namespace Call

/-- Holds of the call that checks a contract. -/
def isCheck : Call → Bool
  | .initContract _ => false
  | .runScenario _ => false
  | .checkExpectations => true

@[simp] theorem isInit_initContract (name : String) : (initContract name).isInit = true := rfl

@[simp] theorem isInit_runScenario (name : String) : (runScenario name).isInit = false := rfl

@[simp] theorem isInit_checkExpectations : checkExpectations.isInit = false := rfl

@[simp] theorem isCheck_initContract (name : String) : (initContract name).isCheck = false := rfl

@[simp] theorem isCheck_runScenario (name : String) : (runScenario name).isCheck = false := rfl

@[simp] theorem isCheck_checkExpectations : checkExpectations.isCheck = true := rfl

end Call

namespace Plan

/-- Steps in which every contract is checked before another one is initialised. The flag holds when a contract
awaits its check in front of them. Nothing is asked of what comes after a malformed directive. -/
inductive Paired : Bool → List Step → Prop
  | done : Paired false []
  | defect {awaits directive more} : Paired awaits (.defect directive :: more)
  | init {name more} : Paired true more → Paired false (.call (.initContract name) :: more)
  | run {awaits name more} : Paired awaits more → Paired awaits (.call (.runScenario name) :: more)
  | check {more} : Paired false more → Paired true (.call .checkExpectations :: more)

namespace Paired

theorem checkSteps {rest : List Step} (paired : Paired false rest) (isDue : Bool) :
    Paired isDue (Plan.checkSteps isDue ++ rest) := by
  cases isDue with
  | false => exact paired
  | true => exact .check paired

theorem scenarioSteps {awaits : Bool} {rest : List Step} (paired : Paired awaits rest) (line : String)
    (lineNumber : Nat) : Paired awaits (directiveSteps .scenario line lineNumber ++ rest) := by
  unfold directiveSteps
  split
  · exact .defect
  · cases DirectiveKind.scenario.nameOn? line with
    | none => exact paired
    | some name => exact .run paired

theorem contractSteps {rest : List Step} {line : String}
    (paired : Paired (DirectiveKind.contract.nameOn? line).isSome rest) (lineNumber : Nat) :
    Paired false (directiveSteps .contract line lineNumber ++ rest) := by
  unfold directiveSteps
  split
  · exact .defect
  · cases named : DirectiveKind.contract.nameOn? line with
    | none => rwa [named] at paired
    | some name =>
      rw [named] at paired
      exact .init paired

theorem lineSteps {rest : List Step} (paired : Paired false rest) (line : String) (lineNumber : Nat) :
    Paired false (Plan.lineSteps false line lineNumber ++ rest) := by
  unfold Plan.lineSteps
  rw [List.append_assoc, List.append_assoc, Bool.false_or]
  have checked := paired.checkSteps (DirectiveKind.contract.nameOn? line).isSome
  exact (checked.scenarioSteps line lineNumber).contractSteps lineNumber

end Paired

/-- At the boundary of two lines no check is pending. -/
theorem paired_stepsFrom (lineNumber : Nat) (lines : List String) : Paired false (stepsFrom lineNumber lines) := by
  induction lines generalizing lineNumber with
  | nil => exact .done
  | cons line more ih => exact (ih (lineNumber + 1)).lineSteps line lineNumber

end Plan

namespace Scan

open Plan

/-- Exchanges in which every initialised contract is checked before another one is initialised, and in which
nothing follows a refusal of the server. The flag holds when a contract awaits its check in front of them. -/
inductive Disciplined : Bool → List Exchange → Prop
  | broken {awaits} : Disciplined awaits []
  | initialised {name reply more} : Disciplined true more →
      Disciplined false (⟨.initContract name, .ok reply⟩ :: more)
  | notInitialised {name error more} : more = [] →
      Disciplined false (⟨.initContract name, .error error⟩ :: more)
  | ran {awaits name answer more} : Disciplined awaits more →
      Disciplined awaits (⟨.runScenario name, answer⟩ :: more)
  | checked {reply more} : Disciplined false more →
      Disciplined true (⟨.checkExpectations, .ok reply⟩ :: more)
  | notChecked {error more} : more = [] →
      Disciplined true (⟨.checkExpectations, .error error⟩ :: more)

/-- Exchanges inherit the discipline of the steps that they follow. -/
theorem Followed.disciplined {steps : List Step} {xs : List Exchange} {ending : Except SuiteError Unit}
    (followed : Followed steps xs ending) {awaits : Bool} (paired : Paired awaits steps) :
    Disciplined awaits xs := by
  induction followed generalizing awaits with
  | finished => exact .broken
  | stopped => exact .broken
  | refused =>
    cases paired with
    | init _ => exact .notInitialised rfl
    | run _ => exact .ran .broken
    | check _ => exact .notChecked rfl
  | accepted _ ih =>
    cases paired with
    | init rest => exact .initialised (ih rest)
    | run rest => exact .ran (ih rest)
    | check rest => exact .checked (ih rest)

namespace Disciplined

/-- The discipline holds at every moment. -/
theorem of_append {awaits : Bool} {made later : List Exchange} (disciplined : Disciplined awaits (made ++ later)) :
    Disciplined awaits made := by
  induction made generalizing awaits with
  | nil => exact .broken
  | cons x made ih =>
    cases disciplined with
    | initialised rest => exact .initialised (ih rest)
    | notInitialised last => exact .notInitialised (List.append_eq_nil_iff.mp last).1
    | ran rest => exact .ran (ih rest)
    | checked rest => exact .checked (ih rest)
    | notChecked last => exact .notChecked (List.append_eq_nil_iff.mp last).1

/-- Counting a contract that awaits its check in front of them, there are as many checks as contracts or one
less. -/
theorem countP_isCheck {awaits : Bool} {xs : List Exchange} (disciplined : Disciplined awaits xs) :
    xs.countP (·.call.isCheck) = xs.countP (fun x => x.call.isInit && x.isAccepted) + awaits.toNat ∨
      xs.countP (·.call.isCheck) + 1 = xs.countP (fun x => x.call.isInit && x.isAccepted) + awaits.toNat := by
  induction disciplined with
  | @broken awaits => cases awaits <;> simp
  | @initialised name reply more _ ih =>
    have accepted : Exchange.isAccepted ⟨.initContract name, .ok reply⟩ = true := rfl
    simp only [List.countP_cons, Call.isCheck_initContract, Call.isInit_initContract, accepted, Bool.and_self,
      Bool.toNat_true, Bool.toNat_false, if_true, Bool.false_eq_true, if_false] at ih ⊢
    omega
  | notInitialised last => simp [last]
  | ran _ ih => simpa using ih
  | checked _ ih =>
    simp only [List.countP_cons, Call.isCheck_checkExpectations, Call.isInit_checkExpectations, Bool.false_and,
      Bool.toNat_true, Bool.toNat_false, if_true, Bool.false_eq_true, if_false] at ih ⊢
    omega
  | notChecked last => simp [last]

/-- After a contract has been initialised, it awaits its check. -/
theorem after_init {awaits : Bool} {earlier later : List Exchange} {x : Exchange}
    (disciplined : Disciplined awaits (earlier ++ x :: later)) (init : x.call.isInit = true) :
    Disciplined true later := by
  induction earlier generalizing awaits with
  | nil =>
    cases disciplined with
    | initialised rest => exact rest
    | notInitialised last => exact last ▸ .broken
    | ran _ => cases init
    | checked _ => cases init
    | notChecked _ => cases init
  | cons y earlier ih =>
    cases disciplined with
    | initialised rest => exact ih rest
    | notInitialised last => simp at last
    | ran rest => exact ih rest
    | checked rest => exact ih rest
    | notChecked last => simp at last

/-- In front of the next contract, one that awaits its check is checked once, and successfully; after that
nothing is checked. -/
theorem checks_before_init {awaits : Bool} {between later : List Exchange} {y : Exchange}
    (disciplined : Disciplined awaits (between ++ y :: later)) (init : y.call.isInit = true)
    (first : ∀ z ∈ between, z.call.isInit = false) :
    between.filter (·.call.isCheck) = if awaits then [⟨.checkExpectations, .ok ()⟩] else [] := by
  induction between generalizing awaits with
  | nil =>
    cases disciplined with
    | initialised _ => rfl
    | notInitialised _ => rfl
    | ran _ => cases init
    | checked _ => cases init
    | notChecked _ => cases init
  | cons z between ih =>
    have others := fun x member => first x (List.mem_cons_of_mem z member)
    cases disciplined with
    | initialised _ => simp at first
    | notInitialised last => simp at last
    | ran rest => simpa using ih rest others
    | checked rest =>
      rw [List.filter_cons_of_pos rfl, ih rest others]
      rfl
    | notChecked last => simp at last

end Disciplined

variable {σ : Type} (server : ContractServer σ) (executor : ScenarioExecutor σ)

theorem exchanges_disciplined (contents : String) (s : σ) :
    Disciplined false (exchanges server executor contents s) := by
  obtain ⟨ending, _, followed, _⟩ := scanFeature_followed server executor contents s
  exact followed.disciplined (paired_stepsFrom 1 (Text.lines contents))

/-- In every state, a line that is processed without an error checks what is pending or what it has initialised
itself, once and at its end. -/
theorem processLine_checks {state state' : ScanState} {line : String} {lineNumber : Nat}
    {reached reached' : σ × List Exchange}
    (run : (processLine server.recorded executor.recorded state line lineNumber).runAt reached =
      (.ok state', reached')) :
    state'.pendingCheck = false ∧ ∃ made, reached'.2 = reached.2 ++ made ∧ (∀ x ∈ made, x.isAccepted = true) ∧
      made.map Exchange.call =
        ((DirectiveKind.contract.nameOn? line).map .initContract).toList ++
          ((DirectiveKind.scenario.nameOn? line).map .runScenario).toList ++
          (if state.pendingCheck || (DirectiveKind.contract.nameOn? line).isSome then [.checkExpectations]
            else []) := by
  obtain ⟨s, record⟩ := reached
  obtain ⟨xs, ending, t, followed, _, _, noted⟩ :=
    follow_followed server executor (lineSteps state.pendingCheck line lineNumber) state.outcome s
  rw [processLine_eq_follow, Act.runAt_map, noted] at run
  cases ending with
  | error error => cases run
  | ok _ =>
    cases run
    refine ⟨rfl, xs, rfl, (followed.ok_iff.mp rfl).2, ?_⟩
    rw [followed.calls_eq_calls, filterMap_call?_lineSteps]

/-- A scan that succeeds ends in a state in which no check is pending, so that its outcome loses nothing. -/
theorem scanFeature_settles {contents : String} {s t : σ} {outcome : SuiteOutcome}
    (run : (scanFeature server executor contents).runAt s = (.ok outcome, t)) :
    ∃ state, (processLines server executor {} 1 (Text.lines contents)).runAt s = (.ok state, t) ∧
      state.pendingCheck = false ∧ state.outcome = outcome := by
  rw [scanFeature_eq_follow, steps] at run
  refine ⟨outcome.state false, ?_, rfl, rfl⟩
  rw [processLines_start_eq_follow, Act.runAt_map, run]
  rfl

/-- Whatever the state in which lines begin to be processed, each of them that ends without an error has checked
what was pending or was initialised on it, once and last. In a scan, therefore, the checks are at every moment as
many as the initialised contracts or one less, exactly one lies between two contracts, and none is left out. -/
theorem checks_follow_contracts :
    (∀ start lineNumber before line origin state reached state' reached',
      (processLines server.recorded executor.recorded start lineNumber before).runAt origin =
        (.ok state, reached) →
      (processLine server.recorded executor.recorded state line (lineNumber + before.length)).runAt reached =
        (.ok state', reached') →
      state'.pendingCheck = false ∧ ∃ made, reached'.2 = reached.2 ++ made ∧ (∀ x ∈ made, x.isAccepted = true) ∧
        made.map Exchange.call =
          ((DirectiveKind.contract.nameOn? line).map .initContract).toList ++
            ((DirectiveKind.scenario.nameOn? line).map .runScenario).toList ++
            (if state.pendingCheck || (DirectiveKind.contract.nameOn? line).isSome then [.checkExpectations]
              else [])) ∧
    ∀ contents s,
      (∀ made, made <+: exchanges server executor contents s →
        made.countP (·.call.isCheck) = made.countP (fun x => x.call.isInit && x.isAccepted) ∨
        made.countP (·.call.isCheck) + 1 = made.countP (fun x => x.call.isInit && x.isAccepted)) ∧
      (∀ earlier x between y later,
        exchanges server executor contents s = earlier ++ x :: (between ++ y :: later) →
        x.call.isInit = true → y.call.isInit = true → (∀ z ∈ between, z.call.isInit = false) →
        between.filter (·.call.isCheck) = [⟨.checkExpectations, .ok ()⟩]) ∧
      (∀ outcome t, (scanFeature server executor contents).runAt s = (.ok outcome, t) →
        ∃ state, (processLines server executor {} 1 (Text.lines contents)).runAt s = (.ok state, t) ∧
          state.pendingCheck = false ∧ state.outcome = outcome) := by
  refine ⟨?_, fun contents s => ⟨?_, ?_, ?_⟩⟩
  · intro _ _ _ _ _ _ _ _ _ _ run
    exact processLine_checks server executor run
  · rintro made ⟨later, whole⟩
    have disciplined := exchanges_disciplined server executor contents s
    rw [← whole] at disciplined
    exact disciplined.of_append.countP_isCheck
  · intro earlier x between y later split init next first
    have disciplined := exchanges_disciplined server executor contents s
    rw [split] at disciplined
    exact (disciplined.after_init init).checks_before_init next first
  · intro outcome t run
    exact scanFeature_settles server executor run

end Scan

end ContractSuite
