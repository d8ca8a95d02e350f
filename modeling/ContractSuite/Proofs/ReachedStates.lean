import ContractSuite.Proofs.Markers

namespace ContractSuite

namespace Text

theorem length_pieces_le (s : List Char) : (pieces s).length ≤ s.length := by
  induction s with
  | nil => exact Nat.le_refl 0
  | cons c rest ih =>
    rw [pieces]
    split
    · exact Nat.succ_le_succ ih
    · cases found : pieces rest with
      | nil => simp
      | cons piece more =>
        rw [found] at ih
        exact Nat.le_succ_of_le ih

theorem length_le_utf8ByteSize (s : List Char) : s.length ≤ (String.ofList s).utf8ByteSize := by
  induction s with
  | nil => exact Nat.zero_le _
  | cons c rest ih =>
    have positive : 1 ≤ (String.singleton c).utf8ByteSize := by
      rw [String.utf8ByteSize_singleton]
      exact c.utf8Size_pos
    have split : String.ofList (c :: rest) = String.singleton c ++ String.ofList rest := by
      apply String.toList_injective
      simp
    rw [split, String.utf8ByteSize_append, List.length_cons]
    omega

theorem length_lines_le (text : String) : (lines text).length ≤ text.utf8ByteSize := by
  have few := length_pieces_le text.toList
  have bytes := length_le_utf8ByteSize text.toList
  rw [String.ofList_toList] at bytes
  rw [lines, List.length_map]
  omega

end Text

namespace SuiteOutcome

/-- The suite has failed exactly if some scenario has, and only scenarios that were run can fail. -/
structure IsCoherent (outcome : SuiteOutcome) : Prop where
  suiteFailed_iff : outcome.suiteFailed = true ↔ 0 < outcome.scenariosFailed
  failed_le : outcome.scenariosFailed ≤ outcome.scenariosRun

/-- Holds when nothing is taken back between two outcomes. -/
structure IsBelow (first second : SuiteOutcome) : Prop where
  suiteFailed : first.suiteFailed = true → second.suiteFailed = true
  contractsInitialised : first.contractsInitialised ≤ second.contractsInitialised
  scenariosRun : first.scenariosRun ≤ second.scenariosRun
  scenariosFailed : first.scenariosFailed ≤ second.scenariosFailed

theorem IsBelow.refl (outcome : SuiteOutcome) : outcome.IsBelow outcome :=
  ⟨id, Nat.le_refl _, Nat.le_refl _, Nat.le_refl _⟩

theorem IsBelow.trans {first second third : SuiteOutcome} (lower : first.IsBelow second)
    (upper : second.IsBelow third) :
    first.IsBelow third where
  suiteFailed failed := upper.suiteFailed (lower.suiteFailed failed)
  contractsInitialised := Nat.le_trans lower.contractsInitialised upper.contractsInitialised
  scenariosRun := Nat.le_trans lower.scenariosRun upper.scenariosRun
  scenariosFailed := Nat.le_trans lower.scenariosFailed upper.scenariosFailed

theorem isCoherent_afterExchange {outcome : SuiteOutcome} (coherent : outcome.IsCoherent) (x : Exchange) :
    (outcome.afterExchange x).IsCoherent := by
  obtain ⟨call, answer⟩ := x
  cases answer with
  | error error => exact coherent
  | ok reply =>
    cases call with
    | initContract name => exact ⟨coherent.suiteFailed_iff, coherent.failed_le⟩
    | checkExpectations => exact coherent
    | runScenario name =>
      have bound := coherent.failed_le
      cases reply with
      | passed => exact ⟨coherent.suiteFailed_iff, Nat.le_succ_of_le bound⟩
      | failed _ => exact ⟨by simp [afterExchange, after, ScenarioStatus.isSuccess], Nat.succ_le_succ bound⟩
      | timedOut => exact ⟨by simp [afterExchange, after, ScenarioStatus.isSuccess], Nat.succ_le_succ bound⟩

theorem isBelow_afterExchange (outcome : SuiteOutcome) (x : Exchange) : outcome.IsBelow (outcome.afterExchange x) := by
  obtain ⟨call, answer⟩ := x
  cases answer with
  | error error => exact .refl outcome
  | ok reply =>
    cases call with
    | initContract name => exact ⟨id, Nat.le_succ _, Nat.le_refl _, Nat.le_refl _⟩
    | checkExpectations => exact .refl outcome
    | runScenario name =>
      cases reply with
      | passed => exact ⟨id, Nat.le_refl _, Nat.le_succ _, Nat.le_refl _⟩
      | failed _ => exact ⟨fun _ => rfl, Nat.le_refl _, Nat.le_succ _, Nat.le_succ _⟩
      | timedOut => exact ⟨fun _ => rfl, Nat.le_refl _, Nat.le_succ _, Nat.le_succ _⟩

theorem isCoherent_afterAll {outcome : SuiteOutcome} (coherent : outcome.IsCoherent) (xs : List Exchange) :
    (outcome.afterAll xs).IsCoherent := by
  induction xs generalizing outcome with
  | nil => exact coherent
  | cons x more ih => exact ih (isCoherent_afterExchange coherent x)

theorem isBelow_afterAll (outcome : SuiteOutcome) (xs : List Exchange) : outcome.IsBelow (outcome.afterAll xs) := by
  induction xs generalizing outcome with
  | nil => exact .refl outcome
  | cons x more ih => exact (isBelow_afterExchange outcome x).trans (ih (outcome.afterExchange x))

theorem isCoherent_start : ({} : ScanState).outcome.IsCoherent :=
  ⟨by decide, Nat.le_refl 0⟩

end SuiteOutcome

namespace Scan

open Plan

variable {σ : Type} {server : ContractServer σ} {executor : ScenarioExecutor σ}

theorem processLines_append (state : ScanState) (lineNumber : Nat) (first rest : List String) :
    processLines server executor state lineNumber (first ++ rest) =
      processLines server executor state lineNumber first >>= fun state =>
        processLines server executor state (lineNumber + first.length) rest := by
  induction first generalizing state lineNumber with
  | nil => simp only [List.nil_append, processLines, pure_bind, List.length_nil, Nat.add_zero]
  | cons line more ih =>
    simp only [List.cons_append, processLines, bind_assoc, ih, List.length_cons, Nat.add_assoc, Nat.add_comm 1]

/-- A scan that begins in `s` reaches a state, and `t`, behind its first `k` lines, having made these exchanges. -/
def Reaches (server : ContractServer σ) (executor : ScenarioExecutor σ) (contents : String) (s : σ) (k : Nat)
    (state : ScanState) (made : List Exchange) (t : σ) : Prop :=
  (processLines server.recorded executor.recorded {} 1 ((Text.lines contents).take k)).runAt (s, []) =
    (.ok state, (t, made))

namespace Reaches

variable {contents : String} {s t : σ} {k : Nat} {state : ScanState} {made : List Exchange}

/-- The state is counted from the exchanges, all of which were accepted, and these are the calls of the lines. -/
theorem eq_afterAll (reached : Reaches server executor contents s k state made t) :
    state = (({} : ScanState).outcome.afterAll made).state false ∧
      made.map Exchange.call = ((Text.lines contents).take k).flatMap lineCalls ∧
      (∀ x ∈ made, x.isAccepted = true) ∧
      (processLines server executor {} 1 ((Text.lines contents).take k)).runAt s = (.ok state, t) := by
  obtain ⟨xs, ending, u, followed, _, plain, noted⟩ :=
    follow_followed server executor (stepsFrom 1 ((Text.lines contents).take k)) ({} : ScanState).outcome s
  unfold Reaches at reached
  rw [processLines_start_eq_follow, Act.runAt_map, noted, List.nil_append] at reached
  rw [processLines_start_eq_follow, Act.runAt_map, plain]
  cases ending with
  | error error => cases reached
  | ok _ =>
    cases reached
    exact ⟨rfl, by rw [followed.calls_eq_calls, filterMap_call?_stepsFrom], (followed.ok_iff.mp rfl).2, rfl⟩

/-- The counter of each kind is the number of lines that give a name. -/
theorem counter_eq (reached : Reaches server executor contents s k state made t) (kind : DirectiveKind) :
    state.outcome.counter kind =
      ((Text.lines contents).take k).countP fun line => (kind.nameOn? line).isSome := by
  obtain ⟨same, calls, accepted, _⟩ := reached.eq_afterAll
  rw [same, SuiteOutcome.outcome_state, SuiteOutcome.counter_afterAll_of_accepted _ kind accepted, calls,
    countP_kind?_flatMap_lineCalls]
  cases kind <;> exact Nat.zero_add _

theorem counter_le (reached : Reaches server executor contents s k state made t) (kind : DirectiveKind) :
    state.outcome.counter kind ≤ k := by
  rw [reached.counter_eq]
  exact Nat.le_trans List.countP_le_length (List.length_take_le k (Text.lines contents))

theorem scenariosFailed_eq (reached : Reaches server executor contents s k state made t) :
    state.scenariosFailed = made.countP Exchange.isFailure := by
  obtain ⟨same, _⟩ := reached.eq_afterAll
  have counted := SuiteOutcome.scenariosFailed_afterAll ({} : ScanState).outcome made
  rw [same]
  exact counted.trans (Nat.zero_add _)

theorem isCoherent (reached : Reaches server executor contents s k state made t) : state.outcome.IsCoherent := by
  obtain ⟨same, _⟩ := reached.eq_afterAll
  rw [same, SuiteOutcome.outcome_state]
  exact SuiteOutcome.isCoherent_afterAll SuiteOutcome.isCoherent_start made

/-- A scan goes on from the state that it has reached. -/
theorem scanFeature_eq (reached : Reaches server executor contents s k state made t)
    (within : k ≤ (Text.lines contents).length) :
    (scanFeature server executor contents).runAt s =
      (ScanState.outcome <$> processLines server executor state (k + 1) ((Text.lines contents).drop k)).runAt t := by
  obtain ⟨_, _, _, run⟩ := reached.eq_afterAll
  have split := @processLines_append _ server executor {} 1 ((Text.lines contents).take k)
    ((Text.lines contents).drop k)
  rw [List.take_append_drop, List.length_take_of_le within, Nat.add_comm 1] at split
  have continued : (processLines server executor {} 1 (Text.lines contents)).runAt s =
      (processLines server executor state (k + 1) ((Text.lines contents).drop k)).runAt t := by
    rw [split, Act.runAt_bind_of_ok run]
  have scanned : scanFeature server executor contents =
      ScanState.outcome <$> processLines server executor {} 1 (Text.lines contents) := by
    unfold scanFeature
    rw [map_eq_pure_bind]
  rw [scanned, Act.runAt_map, Act.runAt_map, continued]

/-- What is reached later goes on from what was reached before, so that nothing is taken back. -/
theorem isBelow (reached : Reaches server executor contents s k state made t) {j : Nat} {earlier : ScanState}
    {first : List Exchange} {u : σ} (before : Reaches server executor contents s j earlier first u) (le : j ≤ k) :
    earlier.outcome.IsBelow state.outcome := by
  have split : (Text.lines contents).take k =
      (Text.lines contents).take j ++ ((Text.lines contents).take k).drop j := by
    have front : ((Text.lines contents).take k).take j = (Text.lines contents).take j := by
      rw [List.take_take, Nat.min_eq_left le]
    rw [← front, List.take_append_drop]
  obtain ⟨settled, _⟩ := before.eq_afterAll
  unfold Reaches at reached before
  rw [split, processLines_append, Act.runAt_bind_of_ok before, settled, processLines_eq_follow, Act.runAt_map] at reached
  rw [settled]
  generalize ({} : ScanState).outcome.afterAll first = outcome at reached
  obtain ⟨xs, ending, _, _, _, _, noted⟩ := follow_followed server executor
    (stepsFrom (1 + ((Text.lines contents).take j).length) (((Text.lines contents).take k).drop j)) outcome u
  rw [noted] at reached
  cases ending with
  | error error => cases reached
  | ok _ =>
    cases reached
    exact SuiteOutcome.isBelow_afterAll outcome xs

end Reaches

/-- What a counter of 64 bits cannot hold: `2 ^ 64`. -/
def counterLimit : Nat := 0x10000000000000000

/-- The state behind the first `k` lines of a scan. No check is pending; contracts and scenarios are counted by their
lines, failures by the statuses given, and the flag agrees with them. None of this goes back from line to line, and
while lines are left, neither their numbers nor the counters come near the limit. -/
theorem reached_state_counts {contents : String} {s t : σ} {k : Nat} {state : ScanState} {made : List Exchange}
    (reached : Reaches server executor contents s k state made t) :
    (k ≤ (Text.lines contents).length → (scanFeature server executor contents).runAt s =
      (ScanState.outcome <$> processLines server executor state (k + 1) ((Text.lines contents).drop k)).runAt t) ∧
    state.pendingCheck = false ∧
    state.contractsInitialised =
      ((Text.lines contents).take k).countP (fun line => (DirectiveKind.contract.nameOn? line).isSome) ∧
    state.scenariosRun =
      ((Text.lines contents).take k).countP (fun line => (DirectiveKind.scenario.nameOn? line).isSome) ∧
    state.scenariosFailed = made.countP Exchange.isFailure ∧
    state.scenariosFailed ≤ state.scenariosRun ∧ state.scenariosRun ≤ k ∧ state.contractsInitialised ≤ k ∧
    (state.suiteFailed = true ↔ 0 < state.scenariosFailed) ∧
    (∀ j earlier first u, j ≤ k → Reaches server executor contents s j earlier first u →
      earlier.outcome.IsBelow state.outcome) ∧
    (contents.utf8ByteSize < counterLimit → k < (Text.lines contents).length →
      k + 1 < counterLimit ∧ state.contractsInitialised + 1 < counterLimit ∧
      state.scenariosRun + 1 < counterLimit ∧ state.scenariosFailed + 1 < counterLimit) := by
  have coherent := reached.isCoherent
  have contracts : state.contractsInitialised ≤ k := reached.counter_le .contract
  have scenarios : state.scenariosRun ≤ k := reached.counter_le .scenario
  have failed : state.scenariosFailed ≤ state.scenariosRun := coherent.failed_le
  have settled : state.pendingCheck = false := by
    rw [reached.eq_afterAll.1]
    rfl
  refine ⟨reached.scanFeature_eq, settled, reached.counter_eq .contract, reached.counter_eq .scenario,
    reached.scenariosFailed_eq, failed, scenarios, contracts, coherent.suiteFailed_iff, ?_, ?_⟩
  · intro j earlier first u le before
    exact reached.isBelow before le
  · intro small further
    have lines := Text.length_lines_le contents
    omega

/-- A contract with a scenario on its line, and two more scenarios. -/
def checkoutFeature : String :=
  "@contract=pay Scenario: card\n\nScenario: cash\nScenario: cheque"

/-- One that fails after the contract, and one that is not over in time. -/
def checkoutRehearsal : Rehearsal where
  scenarioAnswers := [("card", .ok (.failed (some 3))), ("cash", .ok .timedOut)]

theorem reached_state_counts_checkout :
    ∃ state made t, Reaches checkoutRehearsal.server checkoutRehearsal.executor checkoutFeature [] 3 state made t ∧
      state = ⟨false, true, 1, 2, 2⟩ ∧ state.scenariosFailed = made.countP Exchange.isFailure ∧
      state.contractsInitialised + 1 < counterLimit := by
  have reached : Reaches checkoutRehearsal.server checkoutRehearsal.executor checkoutFeature [] 3
      ⟨false, true, 1, 2, 2⟩ [⟨.initContract "pay", .ok ()⟩, ⟨.runScenario "card", .ok (.failed (some 3))⟩,
        ⟨.checkExpectations, .ok ()⟩, ⟨.runScenario "cash", .ok .timedOut⟩]
      [.runScenario "cash", .checkExpectations, .runScenario "card", .initContract "pay"] := by
    have steps : stepsFrom 1 ((Text.lines checkoutFeature).take 3) = [.call (.initContract "pay"),
        .call (.runScenario "card"), .call .checkExpectations, .call (.runScenario "cash")] := by decide
    unfold Reaches
    rw [processLines_start_eq_follow, steps]
    rfl
  obtain ⟨_, _, _, _, failures, _, _, _, _, _, bounded⟩ := reached_state_counts reached
  exact ⟨_, _, _, reached, rfl, failures, (bounded (by decide +kernel) (by decide)).2.1⟩

end Scan

end ContractSuite
