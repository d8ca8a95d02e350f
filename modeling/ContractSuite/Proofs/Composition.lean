import ContractSuite.Proofs.Counters
import ContractSuite.Text.Line

namespace ContractSuite

/-- The same directive below more lines. -/
def MalformedDirective.shift (count : Nat) (directive : MalformedDirective) : MalformedDirective :=
  { directive with lineNumber := directive.lineNumber + count }

namespace Plan

/-- The same step below more lines. -/
def Step.shift (count : Nat) : Step → Step
  | .call asked => .call asked
  | .defect directive => .defect (directive.shift count)

theorem directiveSteps_shift (count : Nat) (kind : DirectiveKind) (line : String) (lineNumber : Nat) :
    directiveSteps kind line (lineNumber + count) = (directiveSteps kind line lineNumber).map (Step.shift count) := by
  unfold directiveSteps
  split
  · rfl
  · cases kind.nameOn? line <;> rfl

theorem map_shift_checkSteps (count : Nat) (isDue : Bool) :
    (checkSteps isDue).map (Step.shift count) = checkSteps isDue := by
  cases isDue <;> rfl

theorem lineSteps_shift (count : Nat) (isPending : Bool) (line : String) (lineNumber : Nat) :
    lineSteps isPending line (lineNumber + count) = (lineSteps isPending line lineNumber).map (Step.shift count) := by
  unfold lineSteps
  rw [List.map_append, List.map_append, ← directiveSteps_shift, ← directiveSteps_shift, map_shift_checkSteps]

theorem stepsFrom_shift (count lineNumber : Nat) (lines : List String) :
    stepsFrom (lineNumber + count) lines = (stepsFrom lineNumber lines).map (Step.shift count) := by
  induction lines generalizing lineNumber with
  | nil => rfl
  | cons line more ih =>
    have later := ih (lineNumber + 1)
    rw [Nat.add_right_comm] at later
    rw [stepsFrom, stepsFrom, List.map_append, lineSteps_shift, later]

theorem steps_append {first : String} (ended : Text.EndsLine first) (second : String) :
    steps (first ++ second) = steps first ++ (steps second).map (Step.shift (Text.lines first).length) := by
  rw [steps, ended.lines_append, stepsFrom_append, stepsFrom_shift]
  rfl

end Plan

namespace Scan

open Plan

namespace Followed

theorem append {first rest : List Step} {xs ys : List Exchange} {ending : Except SuiteError Unit}
    (followed : Followed first xs (.ok ())) (later : Followed rest ys ending) :
    Followed (first ++ rest) (xs ++ ys) ending := by
  generalize succeeded : (Except.ok () : Except SuiteError Unit) = start at followed
  induction followed with
  | finished => exact later
  | stopped => cases succeeded
  | refused => cases succeeded
  | accepted _ ih => exact .accepted (ih succeeded)

theorem append_of_error {first : List Step} {xs : List Exchange} {error : SuiteError}
    (followed : Followed first xs (.error error)) (rest : List Step) : Followed (first ++ rest) xs (.error error) := by
  generalize failed : (Except.error error : Except SuiteError Unit) = ending at followed
  induction followed with
  | finished => cases failed
  | stopped => exact failed ▸ .stopped
  | refused => exact .refused
  | accepted _ ih => exact .accepted (ih failed)

/-- How steps end below more lines. A malformed directive that a collaborator has answered is no step, and keeps its
number. -/
def shiftEnding (count : Nat) (xs : List Exchange) : Except SuiteError Unit → Except SuiteError Unit
  | .error (.malformedDirective directive) =>
    .error (.malformedDirective (if xs.all (·.isAccepted) then directive.shift count else directive))
  | ending => ending

theorem shiftEnding_of_refused (count : Nat) (earlier : List Exchange) (call : Call) (error : SuiteError) :
    shiftEnding count (earlier ++ [⟨call, .error error⟩]) (.error error) = .error error := by
  have refused : (earlier ++ [Exchange.mk call (.error error)]).all (·.isAccepted) = false := by
    rw [List.all_append, List.all_cons, Exchange.isAccepted_error, Bool.false_and, Bool.and_false]
  cases error with
  | malformedDirective directive => rw [shiftEnding, refused]; rfl
  | _ => rfl

theorem shiftEnding_of_accepted (count : Nat) {xs : List Exchange} (accepted : ∀ x ∈ xs, x.isAccepted = true)
    (directive : MalformedDirective) :
    shiftEnding count xs (.error (.malformedDirective directive)) =
      .error (.malformedDirective (directive.shift count)) := by
  rw [shiftEnding, if_pos (List.all_eq_true.mpr accepted)]

theorem shift {steps : List Step} {xs : List Exchange} {ending : Except SuiteError Unit}
    (followed : Followed steps xs ending) (count : Nat) :
    Followed (steps.map (Step.shift count)) xs (shiftEnding count xs ending) := by
  induction followed with
  | finished => exact .finished
  | stopped => exact .stopped
  | @refused call error more =>
    have kept := shiftEnding_of_refused count [] call error
    rw [List.nil_append] at kept
    rw [kept]
    exact .refused
  | @accepted call reply more xs ending _ ih =>
    have same : shiftEnding count (⟨call, .ok reply⟩ :: xs) ending = shiftEnding count xs ending := by
      unfold shiftEnding
      rw [List.all_cons, Exchange.isAccepted_ok, Bool.true_and]
    rw [same]
    exact .accepted ih

/-- Below a text whose scan has failed nothing is read. -/
theorem steps_append_of_error {first : String} {xs : List Exchange} {error : SuiteError}
    (followed : Followed (steps first) xs (.error error)) (ended : Text.EndsLine first) (second : String) :
    Followed (steps (first ++ second)) xs (.error error) := by
  rw [steps_append ended]
  exact followed.append_of_error _

theorem steps_append_of_ok {first second : String} {xs ys : List Exchange} {ending : Except SuiteError Unit}
    (followed : Followed (steps first) xs (.ok ())) (ended : Text.EndsLine first)
    (later : Followed (steps second) ys ending) :
    Followed (steps (first ++ second)) (xs ++ ys) (shiftEnding (Text.lines first).length ys ending) := by
  rw [steps_append ended]
  exact followed.append (later.shift _)

end Followed

variable {σ : Type} {server : ContractServer σ} {executor : ScenarioExecutor σ}

theorem Performed.append {s t u : σ} {xs ys : List Exchange} (performed : Performed server executor s xs t)
    (later : Performed server executor t ys u) : Performed server executor s (xs ++ ys) u := by
  induction performed with
  | nil => exact later
  | cons run _ ih => exact .cons run (ih later)

variable (server executor)

/-- A scan of two texts that meet at a line end scans the first one and, unless that fails, the second one from the
state that it has left. Nothing but the number of a malformed directive tells that there were lines above; one that a
collaborator has answered stays as it is. -/
theorem scanFeature_append {first : String} (ended : Text.EndsLine first) (second : String) (s : σ) :
    (∀ error t, (scanFeature server executor first).runAt s = (.error error, t) →
      (scanFeature server executor (first ++ second)).runAt s = (.error error, t) ∧
      exchanges server executor (first ++ second) s = exchanges server executor first s) ∧
    ∀ outcome t, (scanFeature server executor first).runAt s = (.ok outcome, t) →
      exchanges server executor (first ++ second) s =
        exchanges server executor first s ++ exchanges server executor second t ∧
      (∀ outcome' u, (scanFeature server executor second).runAt t = (.ok outcome', u) →
        (scanFeature server executor (first ++ second)).runAt s = (.ok (outcome.plus outcome'), u)) ∧
      ∀ error u, (scanFeature server executor second).runAt t = (.error error, u) →
        (∃ earlier call, exchanges server executor second t = earlier ++ [⟨call, .error error⟩] ∧
          (scanFeature server executor (first ++ second)).runAt s = (.error error, u)) ∨
        ∃ directive, error = .malformedDirective directive ∧
          (∀ x ∈ exchanges server executor second t, x.isAccepted = true) ∧
          (scanFeature server executor (first ++ second)).runAt s =
            (.error (.malformedDirective
              { directive with lineNumber := directive.lineNumber + (Text.lines first).length }), u) := by
  obtain ⟨ending, t, followed, performed, run⟩ := scanFeature_followed server executor first s
  rw [run]
  cases ending with
  | error error =>
    obtain ⟨ran, made⟩ := (followed.steps_append_of_error ended second).scanFeature_eq performed
    refine ⟨?_, ?_⟩
    · rintro _ _ ⟨⟩
      exact ⟨ran, made⟩
    · rintro _ _ ⟨⟩
  | ok _ =>
    refine ⟨?_, ?_⟩
    · rintro _ _ ⟨⟩
    rintro _ _ ⟨⟩
    obtain ⟨ending', u, followed', performed', run'⟩ := scanFeature_followed server executor second t
    obtain ⟨ran, made⟩ := (followed.steps_append_of_ok ended followed').scanFeature_eq (performed.append performed')
    rw [run', ran]
    refine ⟨made, ?_, ?_⟩
    · intro outcome' v succeeded
      cases ending' with
      | error error => cases succeeded
      | ok _ =>
        cases succeeded
        rw [SuiteOutcome.afterAll_append]
        rfl
    · intro error v failed
      cases ending' with
      | ok _ => cases failed
      | error _ =>
        cases failed
        -- Only here it matters who reports the error: a refused call has the last exchange, a malformed line has none.
        rcases followed'.error_cases with ⟨earlier, call, refused, _⟩ | ⟨directive, more, _, accepted, rfl⟩
        · refine Or.inl ⟨earlier, call, refused, ?_⟩
          rw [refused, Followed.shiftEnding_of_refused]
          rfl
        · refine Or.inr ⟨directive, rfl, accepted, ?_⟩
          rw [Followed.shiftEnding_of_accepted _ accepted]
          rfl

/-- What stands on the second line of the second text stands on the third line of both. -/
theorem scanFeature_append_malformed :
    Text.EndsLine "Scenario: a\n" ∧
    (scanFeature ({} : Rehearsal).server ({} : Rehearsal).executor "Scenario: a\n").runAt [] =
      (.ok ⟨false, 0, 1, 0⟩, [.runScenario "a"]) ∧
    (scanFeature ({} : Rehearsal).server ({} : Rehearsal).executor "Feature: b\r\n@contract=").runAt
        [.runScenario "a"] =
      (.error (.malformedDirective ⟨.contract, 2, "@contract="⟩), [.runScenario "a"]) ∧
    (scanFeature ({} : Rehearsal).server ({} : Rehearsal).executor
        ("Scenario: a\n" ++ "Feature: b\r\n@contract=")).runAt [] =
      (.error (.malformedDirective ⟨.contract, 3, "@contract="⟩), [.runScenario "a"]) := by
  have ended : Text.EndsLine "Scenario: a\n" := by decide
  have firstPlan : steps "Scenario: a\n" = [.call (.runScenario "a")] := by decide
  have secondPlan : steps "Feature: b\r\n@contract=" = [.defect ⟨.contract, 2, "@contract="⟩] := by decide
  have first : (scanFeature ({} : Rehearsal).server ({} : Rehearsal).executor "Scenario: a\n").runAt [] =
      (.ok ⟨false, 0, 1, 0⟩, [.runScenario "a"]) := by
    rw [scanFeature_eq_follow, firstPlan]
    rfl
  have second : (scanFeature ({} : Rehearsal).server ({} : Rehearsal).executor "Feature: b\r\n@contract=").runAt
        [.runScenario "a"] =
      (.error (.malformedDirective ⟨.contract, 2, "@contract="⟩), [.runScenario "a"]) := by
    rw [scanFeature_eq_follow, secondPlan]
    rfl
  have silent : exchanges ({} : Rehearsal).server ({} : Rehearsal).executor "Feature: b\r\n@contract="
      [.runScenario "a"] = [] := by
    unfold exchanges
    rw [scanFeature_eq_follow, secondPlan]
    rfl
  refine ⟨ended, first, second, ?_⟩
  obtain ⟨_, _, failing⟩ := (scanFeature_append _ _ ended _ []).2 _ _ first
  rcases failing _ _ second with ⟨earlier, call, refused, _⟩ | ⟨directive, same, _, run⟩
  · rw [silent] at refused
    simp at refused
  · cases same
    exact run

/-- A collaborator that answers with a malformed directive of its own. -/
def citingRehearsal : Rehearsal where
  initAnswers := [.error (.malformedDirective ⟨.contract, 7, "@contract="⟩)]

/-- Its number is not that of a line here, and lines above do not change it. -/
theorem cited_lineNumber_unshifted :
    Text.EndsLine "\n" ∧ (Text.lines "\n").length = 1 ∧
    (scanFeature citingRehearsal.server citingRehearsal.executor "\n").runAt [] = (.ok ⟨false, 0, 0, 0⟩, []) ∧
    (scanFeature citingRehearsal.server citingRehearsal.executor "@contract=x").runAt [] =
      (.error (.malformedDirective ⟨.contract, 7, "@contract="⟩), [.initContract "x"]) ∧
    (scanFeature citingRehearsal.server citingRehearsal.executor ("\n" ++ "@contract=x")).runAt [] =
      (.error (.malformedDirective ⟨.contract, 7, "@contract="⟩), [.initContract "x"]) ∧
    (scanFeature citingRehearsal.server citingRehearsal.executor ("\n" ++ "@contract=x")).runAt [] ≠
      (.error (.malformedDirective ⟨.contract, 7 + (Text.lines "\n").length, "@contract="⟩), [.initContract "x"]) := by
  have length : (Text.lines "\n").length = 1 := by decide
  have firstPlan : steps "\n" = [] := by decide
  have secondPlan : steps "@contract=x" = [.call (.initContract "x"), .call .checkExpectations] := by decide
  have plan : steps ("\n" ++ "@contract=x") = [.call (.initContract "x"), .call .checkExpectations] := by decide
  have whole : (scanFeature citingRehearsal.server citingRehearsal.executor ("\n" ++ "@contract=x")).runAt [] =
      (.error (.malformedDirective ⟨.contract, 7, "@contract="⟩), [.initContract "x"]) := by
    rw [scanFeature_eq_follow, plan]
    rfl
  refine ⟨by decide, length, ?_, ?_, whole, ?_⟩
  · rw [scanFeature_eq_follow, firstPlan]
    rfl
  · rw [scanFeature_eq_follow, secondPlan]
    rfl
  · rw [whole, length]
    simp

end Scan

end ContractSuite
