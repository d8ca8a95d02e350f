import ContractSuite.Proofs.Exchange

namespace ContractSuite

/-- What the collaborators answer to a call, by the calls that were made before it. -/
abbrev Answers : Type :=
  List Call → (call : Call) → Except SuiteError call.Reply

namespace Answers

/-- Answers a call, and adds it to those that have been made. -/
def act (answers : Answers) (call : Call) : Act (List Call) call.Reply :=
  fun earlier => (answers earlier call, earlier ++ [call])

/-- The server that gives these answers. -/
def server (answers : Answers) : ContractServer (List Call) where
  initContract name := answers.act (.initContract name)
  checkExpectations := answers.act .checkExpectations

/-- The executor that gives these answers. -/
def executor (answers : Answers) : ScenarioExecutor (List Call) where
  runScenario name := answers.act (.runScenario name)

/-- What a scan comes to with these answers, and the calls that it makes. -/
def scan (answers : Answers) (contents : String) : Except SuiteError SuiteOutcome × List Call :=
  (Scan.scanFeature answers.server answers.executor contents).runAt []

/-- Holds when calls are accepted, each of them after those in front of it. -/
def Accepts (answers : Answers) (calls : List Call) : Prop :=
  ∀ earlier call later, calls = earlier ++ call :: later → ∃ reply, answers earlier call = .ok reply

/-- Holds when exchanges that begin after these calls have the answers in them. -/
def Gives (answers : Answers) (start : List Call) (xs : List Exchange) : Prop :=
  ∀ earlier x later, xs = earlier ++ x :: later → x.answer = answers (start ++ earlier.map Exchange.call) x.call

theorem Gives.cons {answers : Answers} {start : List Call} {call : Call} {xs : List Exchange}
    (gives : answers.Gives (start ++ [call]) xs) : answers.Gives start (⟨call, answers start call⟩ :: xs) := by
  intro earlier x later split
  cases earlier with
  | nil =>
    cases split
    rw [List.map_nil, List.append_nil]
  | cons first earlier =>
    simp only [List.cons_append, List.cons.injEq] at split
    obtain ⟨rfl, rfl⟩ := split
    simpa using gives earlier x later rfl

theorem Gives.of_append {answers : Answers} {start : List Call} {xs ys : List Exchange}
    (gives : answers.Gives start (xs ++ ys)) : answers.Gives start xs := by
  intro earlier x later split
  exact gives earlier x (later ++ ys) (by rw [split, List.append_assoc, List.cons_append])

theorem Gives.accepts_iff {answers : Answers} {xs : List Exchange} (gives : answers.Gives [] xs) :
    answers.Accepts (xs.map Exchange.call) ↔ ∀ x ∈ xs, x.isAccepted = true := by
  constructor
  · intro accepts x member
    obtain ⟨earlier, later, rfl⟩ := List.append_of_mem member
    obtain ⟨reply, answered⟩ := accepts (earlier.map Exchange.call) x.call (later.map Exchange.call) (by simp)
    rw [Exchange.isAccepted, gives earlier x later rfl, List.nil_append, answered]
    rfl
  · intro accepted earlier call later split
    obtain ⟨before, rest, rfl, rfl, tail⟩ := List.map_eq_append_iff.mp split
    obtain ⟨x, after, rfl, rfl, rfl⟩ := List.map_eq_cons_iff.mp tail
    have isAccepted := accepted x (by simp)
    rw [Exchange.isAccepted, gives before x after rfl, List.nil_append] at isAccepted
    cases answered : answers (before.map Exchange.call) x.call with
    | ok reply => exact ⟨reply, rfl⟩
    | error error =>
      rw [answered] at isAccepted
      cases isAccepted

end Answers

namespace Scan

open Plan

variable (answers : Answers)

theorem perform_answers (call : Call) :
    perform answers.server answers.executor call = answers.act call := by
  cases call <;> rfl

theorem Performed.gives {answers : Answers} {start later : List Call} {xs : List Exchange}
    (performed : Performed answers.server answers.executor start xs later) :
    answers.Gives start xs ∧ later = start ++ xs.map Exchange.call := by
  induction performed with
  | nil => exact ⟨by simp [Answers.Gives], by simp⟩
  | cons run _ ih =>
    rw [perform_answers] at run
    cases run
    exact ⟨ih.1.cons, by simpa using ih.2⟩

theorem follow_answers (steps : List Step) (outcome : SuiteOutcome) (start : List Call) :
    ∃ xs ending, Followed steps xs ending ∧ answers.Gives start xs ∧
      (follow answers.server answers.executor steps outcome).runAt start =
        (ending.map fun _ => outcome.afterAll xs, start ++ xs.map Exchange.call) := by
  obtain ⟨xs, ending, t, followed, performed, run, _⟩ :=
    follow_followed answers.server answers.executor steps outcome start
  obtain ⟨gives, rfl⟩ := performed.gives
  exact ⟨xs, ending, followed, gives, run⟩

theorem scan_exchanges (contents : String) :
    ∃ ending, Followed (steps contents) (exchanges answers.server answers.executor contents []) ending ∧
      answers.Gives [] (exchanges answers.server answers.executor contents []) ∧
      answers.scan contents =
        (ending.map fun _ => ({} : ScanState).outcome.afterAll (exchanges answers.server answers.executor contents []),
          (exchanges answers.server answers.executor contents []).map Exchange.call) := by
  obtain ⟨ending, t, followed, performed, run⟩ := scanFeature_followed answers.server answers.executor contents []
  obtain ⟨gives, rfl⟩ := performed.gives
  exact ⟨ending, followed, gives, run⟩

theorem scan_followed (contents : String) :
    ∃ xs ending, Followed (steps contents) xs ending ∧ answers.Gives [] xs ∧
      answers.scan contents =
        (ending.map fun _ => ({} : ScanState).outcome.afterAll xs, xs.map Exchange.call) :=
  ⟨_, scan_exchanges answers contents⟩

/-- The calls made on a line are among its own, and they come right after those of the lines above. -/
theorem line_contributes {contents line : String} {before after : List String} {state : ScanState}
    {earlier : List Call} (split : Text.lines contents = before ++ line :: after)
    (reached : (processLines answers.server answers.executor {} 1 before).runAt [] = (.ok state, earlier)) :
    earlier = before.flatMap lineCalls ∧ ∃ own, own <+: lineCalls line ∧
      ((processLine answers.server answers.executor state line (before.length + 1)).runAt earlier).2 =
        earlier ++ own ∧
      earlier ++ own <+: (answers.scan contents).2 := by
  obtain ⟨above, ending, followedAbove, _, runAbove⟩ :=
    follow_answers answers (stepsFrom 1 before) ({} : ScanState).outcome []
  rw [processLines_start_eq_follow answers.server answers.executor, Act.runAt_map, runAbove] at reached
  cases ending with
  | error error => cases reached
  | ok _ =>
    cases reached
    obtain ⟨xs, ending, followed, _, run⟩ := follow_answers answers (lineSteps false line (before.length + 1))
      (({} : ScanState).outcome.afterAll above) (above.map Exchange.call)
    refine ⟨?_, xs.map Exchange.call, ?_, ?_, ?_⟩
    · rw [List.nil_append, followedAbove.calls_eq_calls, filterMap_call?_stepsFrom]
    · rw [← filterMap_call?_lineSteps_false line (before.length + 1)]
      exact followed.calls_prefix_calls
    · rw [processLine_eq_follow answers.server answers.executor, Act.runAt_map]
      exact congrArg Prod.snd run
    · rw [Answers.scan, scanFeature_eq_follow, steps, split, stepsFrom_append, follow_append, Act.runAt_bind_of_ok runAbove,
        stepsFrom, Nat.add_comm 1, follow_append]
      cases ending with
      | error error => exact (congrArg Prod.snd (Act.runAt_bind_of_error run)) ▸ List.prefix_rfl
      | ok _ =>
        obtain ⟨below, _, _, _, runBelow⟩ := follow_answers answers (stepsFrom (before.length + 1 + 1) after)
          ((({} : ScanState).outcome.afterAll above).afterAll xs) (above.map Exchange.call ++ xs.map Exchange.call)
        rw [List.nil_append, Act.runAt_bind_of_ok run, runBelow]
        exact List.prefix_append _ _

/-- A scan succeeds exactly if no directive is malformed and each call of the plan is accepted. -/
theorem scan_ok_iff (contents : String) :
    (∃ outcome, (answers.scan contents).1 = .ok outcome) ↔
      IsWellFormed contents ∧ answers.Accepts (calls contents) := by
  obtain ⟨xs, ending, followed, gives, run⟩ := scan_followed answers contents
  rw [run]
  constructor
  · rintro ⟨outcome, succeeded⟩
    cases ending with
    | error error => cases succeeded
    | ok _ =>
      obtain ⟨wellFormed, made, accepted⟩ := followed.ok_iff_plan.mp rfl
      exact ⟨wellFormed, made ▸ gives.accepts_iff.mpr accepted⟩
  · rintro ⟨wellFormed, accepts⟩
    cases ending with
    | ok _ => exact ⟨_, rfl⟩
    | error error =>
      rcases followed.error_cases with ⟨earlier, call, rfl, accepted⟩ | ⟨directive, more, met, _, _⟩
      · obtain ⟨later, whole⟩ := followed.calls_prefix_calls
        rw [filterMap_call?_steps, List.map_append, List.append_assoc] at whole
        obtain ⟨reply, answered⟩ := accepts (earlier.map Exchange.call) call later whole.symm
        have refused := gives earlier ⟨call, .error error⟩ [] rfl
        rw [List.nil_append, answered] at refused
        cases refused
      · rw [wellFormed.steps_eq] at met
        have defect : Step.defect directive ∈ (calls contents).map Step.call := met ▸ by simp
        simp at defect

/-- A scan makes the calls of its plan, each line its own, and stops at the first of them that is refused or in
front of the first malformed directive, whichever comes first; its error is the one met there. -/
theorem scanFeature_follows_plan (answers : Answers) (contents : String) :
    (answers.scan contents).2 <+: calls contents ∧
    (∀ before line after state earlier, Text.lines contents = before ++ line :: after →
      (processLines answers.server answers.executor {} 1 before).runAt [] = (.ok state, earlier) →
      earlier = before.flatMap lineCalls ∧ ∃ own, own <+: lineCalls line ∧
        ((processLine answers.server answers.executor state line (before.length + 1)).runAt earlier).2 =
          earlier ++ own ∧
        earlier ++ own <+: (answers.scan contents).2) ∧
    ((∃ outcome, (answers.scan contents).1 = .ok outcome) ↔
      IsWellFormed contents ∧ answers.Accepts (calls contents)) ∧
    (∀ outcome, (answers.scan contents).1 = .ok outcome → (answers.scan contents).2 = calls contents) ∧
    (∀ error, (answers.scan contents).1 = .error error →
      (∃ earlier call, (answers.scan contents).2 = earlier ++ [call] ∧
        (answers.scan contents).2.map .call <+: steps contents ∧
        answers.Accepts earlier ∧ answers earlier call = .error error) ∨
      (∃ before line after kind, Text.lines contents = before ++ line :: after ∧
        (∀ above ∈ before, ∀ kind, DirectiveKind.isMalformedOn kind above = false) ∧
        DirectiveKind.isMalformedOn kind line = true ∧
        (kind = .scenario → DirectiveKind.contract.isMalformedOn line = false) ∧
        (answers.scan contents).2 = before.flatMap lineCalls ++ callsBefore kind line ∧
        answers.Accepts (answers.scan contents).2 ∧
        error = .malformedDirective ⟨kind, before.length + 1, line⟩)) := by
  obtain ⟨xs, ending, followed, gives, run⟩ := scan_followed answers contents
  have made : (answers.scan contents).2 = xs.map Exchange.call := congrArg Prod.snd run
  refine ⟨?_, ?_, scan_ok_iff answers contents, ?_, ?_⟩
  · rw [made, ← filterMap_call?_steps]
    exact followed.calls_prefix_calls
  · intro before line after state earlier split reached
    exact line_contributes answers split reached
  · intro outcome succeeded
    cases ending with
    | error error => cases (congrArg Prod.fst run).symm.trans succeeded
    | ok _ => rw [made, followed.calls_eq_calls, filterMap_call?_steps]
  · intro error failed
    cases ending with
    | ok _ => cases (congrArg Prod.fst run).symm.trans failed
    | error _ =>
      cases (congrArg Prod.fst run).symm.trans failed
      rcases followed.error_cases with ⟨earlier, call, rfl, accepted⟩ | ⟨directive, more, met, accepted, rfl⟩
      · left
        refine ⟨earlier.map Exchange.call, call, by simpa using made, ?_, ?_, ?_⟩
        · rw [made, List.map_map]
          exact followed.calls_prefix
        · exact gives.of_append.accepts_iff.mpr accepted
        · exact (gives earlier ⟨call, .error error⟩ [] rfl).symm
      · right
        have met : stepsFrom 1 (Text.lines contents) =
            (xs.map Exchange.call).map .call ++ .defect directive :: more := by rw [List.map_map]; exact met
        obtain ⟨before, line, after, kind, split, above, malformed, order, front, rfl⟩ := stepsFrom_defect met
        refine ⟨before, line, after, kind, split, above, malformed, order, made.trans front, ?_, ?_⟩
        · rw [made]
          exact gives.accepts_iff.mpr accepted
        · rw [Nat.add_comm]

end Scan

end ContractSuite
