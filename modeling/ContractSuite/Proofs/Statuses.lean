import ContractSuite.Proofs.Counters
import ContractSuite.Proofs.ScanTrace

namespace ContractSuite

namespace Answers

/-- Holds of answers that refuse the same calls with the same errors. -/
def RefuseAlike (first second : Answers) : Prop :=
  ∀ earlier call error, first earlier call = .error error ↔ second earlier call = .error error

theorem Gives.head {answers : Answers} {start : List Call} {x : Exchange} {xs : List Exchange}
    (gives : answers.Gives start (x :: xs)) : x.answer = answers start x.call := by
  have answered := gives [] x xs rfl
  rwa [List.map_nil, List.append_nil] at answered

theorem Gives.tail {answers : Answers} {start : List Call} {x : Exchange} {xs : List Exchange}
    (gives : answers.Gives start (x :: xs)) : answers.Gives (start ++ [x.call]) xs := by
  intro earlier y later split
  have answered := gives (x :: earlier) y later (by rw [split, List.cons_append])
  rwa [List.map_cons, ← List.singleton_append, ← List.append_assoc] at answered

end Answers

namespace Scan

open Plan

/-- After the same calls the next step is either refused in both scans or accepted in both, so that they never part. -/
theorem Followed.alike {first second : Answers} (alike : first.RefuseAlike second) {steps : List Step}
    {xs ys : List Exchange} {ending ending' : Except SuiteError Unit} {start : List Call}
    (followed : Followed steps xs ending) (gives : first.Gives start xs)
    (followed' : Followed steps ys ending') (gives' : second.Gives start ys) :
    xs.map Exchange.call = ys.map Exchange.call ∧ ending = ending' := by
  -- The calls made so far are the same in both scans, which is all that an answer depends on.
  induction followed generalizing ys ending' start with
  | finished =>
    cases followed'
    exact ⟨rfl, rfl⟩
  | stopped =>
    cases followed'
    exact ⟨rfl, rfl⟩
  | @refused call error more =>
    have refused := (alike start call error).mp gives.head.symm
    cases followed' with
    | refused =>
      cases refused.symm.trans gives'.head.symm
      exact ⟨rfl, rfl⟩
    | accepted _ => cases refused.symm.trans gives'.head.symm
  | @accepted call reply more xs ending rest ih =>
    cases followed' with
    | @refused _ error =>
      have refused := (alike start call error).mpr gives'.head.symm
      cases refused.symm.trans gives.head.symm
    | accepted rest' =>
      obtain ⟨calls, same⟩ := ih gives.tail rest' gives'.tail
      exact ⟨congrArg (call :: ·) calls, same⟩

/-- Scans whose collaborators refuse alike make the same calls and end alike. If they come to an outcome, their
outcomes differ in nothing but the scenarios that failed, which each scan counts from the statuses that it was given. -/
theorem statuses_do_not_steer {first second : Answers} (alike : first.RefuseAlike second) (contents : String) :
    (first.scan contents).2 = (second.scan contents).2 ∧
    ((∃ error, (first.scan contents).1 = .error error ∧ (second.scan contents).1 = .error error) ∨
      ∃ outcome outcome', (first.scan contents).1 = .ok outcome ∧ (second.scan contents).1 = .ok outcome' ∧
        outcome' = { outcome with
          suiteFailed := outcome'.suiteFailed
          scenariosFailed := outcome'.scenariosFailed } ∧
        outcome.scenariosFailed =
          (exchanges first.server first.executor contents []).countP Exchange.isFailure ∧
        outcome'.scenariosFailed =
          (exchanges second.server second.executor contents []).countP Exchange.isFailure) := by
  obtain ⟨ending, followed, gives, run⟩ := scan_exchanges first contents
  obtain ⟨ending', followed', gives', run'⟩ := scan_exchanges second contents
  obtain ⟨made, rfl⟩ := followed.alike alike gives followed' gives'
  rw [run, run']
  refine ⟨made, ?_⟩
  cases ending with
  | error error => exact Or.inl ⟨error, rfl, rfl⟩
  | ok _ =>
    have counted (kind : DirectiveKind) := SuiteOutcome.counter_afterAll_of_accepted
      ({} : ScanState).outcome kind (followed.ok_iff.mp rfl).2
    have counted' (kind : DirectiveKind) := SuiteOutcome.counter_afterAll_of_accepted
      ({} : ScanState).outcome kind (followed'.ok_iff.mp rfl).2
    simp only [made, ← counted'] at counted
    refine Or.inr ⟨_, _, rfl, rfl, SuiteOutcome.eq_of_counter counted, ?_, ?_⟩
    · rw [SuiteOutcome.scenariosFailed_afterAll]
      exact Nat.zero_add _
    · rw [SuiteOutcome.scenariosFailed_afterAll]
      exact Nat.zero_add _

end Scan

namespace Answers

/-- Answers that accept every call, with the status given for a scenario by the calls made before it. -/
def ofStatuses (status : List Call → ScenarioStatus) : Answers := fun earlier call =>
  match call with
  | .initContract _ => .ok ()
  | .runScenario _ => .ok (status earlier)
  | .checkExpectations => .ok ()

theorem refuseAlike_ofStatuses (status status' : List Call → ScenarioStatus) :
    (ofStatuses status).RefuseAlike (ofStatuses status') := by
  intro earlier call error
  cases call <;> simp [ofStatuses]

/-- All scenarios pass. -/
def promptAnswers : Answers :=
  ofStatuses fun _ => .passed

/-- The scenario that is run directly after the first contract is not over in time. -/
def lateAnswers : Answers :=
  ofStatuses fun earlier => if earlier.length = 1 then .timedOut else .passed

end Answers

namespace Scan

open Plan

/-- The first scenario stands on the line of a contract. -/
def paymentFeature : String :=
  "@contract=pay Scenario: card\nScenario: cash"

theorem statuses_do_not_steer_paymentFeature :
    Answers.promptAnswers.RefuseAlike Answers.lateAnswers ∧
    (Answers.promptAnswers.scan paymentFeature).2 = (Answers.lateAnswers.scan paymentFeature).2 ∧
    Answers.promptAnswers.scan paymentFeature =
      (.ok ⟨false, 1, 2, 0⟩,
        [.initContract "pay", .runScenario "card", .checkExpectations, .runScenario "cash"]) ∧
    (Answers.lateAnswers.scan paymentFeature).1 = .ok ⟨true, 1, 2, 1⟩ := by
  have alike : Answers.promptAnswers.RefuseAlike Answers.lateAnswers := Answers.refuseAlike_ofStatuses _ _
  have plan : steps paymentFeature =
      [.call (.initContract "pay"), .call (.runScenario "card"), .call .checkExpectations,
        .call (.runScenario "cash")] := by decide
  refine ⟨alike, (statuses_do_not_steer alike paymentFeature).1, ?_, ?_⟩
  · rw [Answers.scan, scanFeature_eq_follow, plan]
    rfl
  · rw [Answers.scan, scanFeature_eq_follow, plan]
    rfl

end Scan

end ContractSuite
