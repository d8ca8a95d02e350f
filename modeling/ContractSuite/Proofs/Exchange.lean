import ContractSuite.Proofs.Plan

namespace ContractSuite

/-- A call and the answer to it. -/
structure Exchange where
  call : Call
  answer : Except SuiteError call.Reply

/-- Holds when the call has been accepted. -/
def Exchange.isAccepted (exchange : Exchange) : Bool :=
  exchange.answer.isOk

namespace Exchange

@[simp] theorem isAccepted_ok (call : Call) (reply : call.Reply) :
    isAccepted ⟨call, .ok reply⟩ = true := rfl

@[simp] theorem isAccepted_error (call : Call) (error : SuiteError) :
    isAccepted ⟨call, .error error⟩ = false := rfl

end Exchange

namespace SuiteOutcome

/-- The outcome so far after one more exchange. A refused call does not count. -/
def afterExchange (outcome : SuiteOutcome) : Exchange → SuiteOutcome
  | ⟨call, .ok reply⟩ => outcome.after call reply
  | ⟨_, .error _⟩ => outcome

/-- The outcome so far after more exchanges. -/
def afterAll (outcome : SuiteOutcome) (exchanges : List Exchange) : SuiteOutcome :=
  exchanges.foldl afterExchange outcome

end SuiteOutcome

variable {σ : Type}

/-- An action that is recorded as an exchange. -/
def Act.recorded (call : Call) (act : Act σ call.Reply) : Act (σ × List Exchange) call.Reply :=
  fun (s, record) =>
    let (answer, t) := act.runAt s
    (answer, (t, record ++ [⟨call, answer⟩]))

/-- A server whose exchanges are recorded. -/
def ContractServer.recorded (server : ContractServer σ) : ContractServer (σ × List Exchange) where
  initContract name := Act.recorded (.initContract name) (server.initContract name)
  checkExpectations := Act.recorded .checkExpectations server.checkExpectations

/-- An executor whose exchanges are recorded. -/
def ScenarioExecutor.recorded (executor : ScenarioExecutor σ) :
    ScenarioExecutor (σ × List Exchange) where
  runScenario name := Act.recorded (.runScenario name) (executor.runScenario name)

theorem Act.runAt_recorded (call : Call) (act : Act σ call.Reply) (s : σ) (record : List Exchange) :
    runAt (act.recorded call) (s, record) =
      ((runAt act s).1, ((runAt act s).2, record ++ [⟨call, (runAt act s).1⟩])) := rfl

namespace Scan

open Plan

/-- What comes of following steps: the exchanges, and how it ends. It ends with the first error. -/
inductive Followed : List Step → List Exchange → Except SuiteError Unit → Prop
  | finished : Followed [] [] (.ok ())
  | stopped {directive more} : Followed (.defect directive :: more) [] (.error (.malformedDirective directive))
  | refused {call error more} : Followed (.call call :: more) [⟨call, .error error⟩] (.error error)
  | accepted {call reply more exchanges ending} : Followed more exchanges ending →
      Followed (.call call :: more) (⟨call, .ok reply⟩ :: exchanges) ending

/-- Calls are made one after another, each in the state that the one before has left behind. -/
inductive Performed (server : ContractServer σ) (executor : ScenarioExecutor σ) :
    σ → List Exchange → σ → Prop
  | nil {s} : Performed server executor s [] s
  | cons {call answer exchanges s t u} : (perform server executor call).runAt s = (answer, t) →
      Performed server executor t exchanges u → Performed server executor s (⟨call, answer⟩ :: exchanges) u

/-- The exchanges of a scan, in order. -/
def exchanges (server : ContractServer σ) (executor : ScenarioExecutor σ) (contents : String) (s : σ) :
    List Exchange :=
  ((scanFeature server.recorded executor.recorded contents).runAt (s, [])).2.2

theorem filterMap_call?_map_call (xs : List Exchange) :
    (xs.map (Step.call ·.call)).filterMap Step.call? = xs.map Exchange.call := by
  rw [List.filterMap_map, ← List.filterMap_eq_map]
  rfl

namespace Followed

/-- No step is left out, and none is taken twice. -/
theorem calls_prefix {steps : List Step} {xs : List Exchange} {ending : Except SuiteError Unit}
    (followed : Followed steps xs ending) : (xs.map (Step.call ·.call)) <+: steps := by
  induction followed with
  | finished => exact List.nil_prefix
  | stopped => exact List.nil_prefix
  | refused => exact List.cons_prefix_cons.mpr ⟨rfl, List.nil_prefix⟩
  | accepted _ ih => exact List.cons_prefix_cons.mpr ⟨rfl, ih⟩

/-- The calls that are made are a prefix of those that the steps hold. -/
theorem calls_prefix_calls {steps : List Step} {xs : List Exchange} {ending : Except SuiteError Unit}
    (followed : Followed steps xs ending) : xs.map Exchange.call <+: steps.filterMap Step.call? := by
  have sifted := followed.calls_prefix.filterMap Step.call?
  rwa [filterMap_call?_map_call] at sifted

/-- The steps are taken to their end exactly if all of them are calls and each is accepted. -/
theorem ok_iff {steps : List Step} {xs : List Exchange} {ending : Except SuiteError Unit}
    (followed : Followed steps xs ending) :
    ending = .ok () ↔ xs.map (Step.call ·.call) = steps ∧ ∀ x ∈ xs, x.isAccepted = true := by
  induction followed with
  | finished => simp
  | stopped => simp
  | refused => simp
  | accepted _ ih => simp [ih]

theorem calls_eq_calls {steps : List Step} {xs : List Exchange} (followed : Followed steps xs (.ok ())) :
    xs.map Exchange.call = steps.filterMap Step.call? := by
  rw [← (followed.ok_iff.mp rfl).1, filterMap_call?_map_call]

/-- A plan is followed to its end exactly if no directive is malformed and each of its calls is made and accepted. -/
theorem ok_iff_plan {contents : String} {xs : List Exchange} {ending : Except SuiteError Unit}
    (followed : Followed (steps contents) xs ending) :
    ending = .ok () ↔
      IsWellFormed contents ∧ xs.map Exchange.call = calls contents ∧ ∀ x ∈ xs, x.isAccepted = true := by
  constructor
  · rintro rfl
    obtain ⟨complete, accepted⟩ := followed.ok_iff.mp rfl
    have made : xs.map Exchange.call = calls contents := by
      rw [followed.calls_eq_calls, filterMap_call?_steps]
    have wellFormed : IsWellFormed contents :=
      isWellFormed_of_steps (by rw [← complete, ← Function.comp_def, ← List.map_map])
    exact ⟨wellFormed, made, accepted⟩
  · rintro ⟨wellFormed, made, accepted⟩
    rw [followed.ok_iff, wellFormed.steps_eq, ← made, List.map_map]
    exact ⟨rfl, accepted⟩

/-- Nothing is done after an error, which comes from the last call or from a malformed directive. -/
theorem error_cases {steps : List Step} {xs : List Exchange} {error : SuiteError}
    (followed : Followed steps xs (.error error)) :
    (∃ earlier call, xs = earlier ++ [⟨call, .error error⟩] ∧ ∀ x ∈ earlier, x.isAccepted = true) ∨
    ∃ directive more, steps = xs.map (Step.call ·.call) ++ .defect directive :: more ∧
      (∀ x ∈ xs, x.isAccepted = true) ∧ error = .malformedDirective directive := by
  generalize ended : (Except.error error : Except SuiteError Unit) = ending at followed
  induction followed with
  | finished => cases ended
  | @stopped directive more =>
    cases ended
    exact Or.inr ⟨directive, more, rfl, by simp, rfl⟩
  | @refused call error more =>
    cases ended
    exact Or.inl ⟨[], call, rfl, by simp⟩
  | @accepted call reply more xs ending rest ih =>
    rcases ih ended with ⟨earlier, last, rfl, before⟩ | ⟨directive, later, rfl, before, rfl⟩
    · exact Or.inl ⟨_ :: earlier, last, rfl, List.forall_mem_cons.mpr ⟨rfl, before⟩⟩
    · exact Or.inr ⟨directive, later, rfl, List.forall_mem_cons.mpr ⟨rfl, before⟩, rfl⟩

end Followed

variable (server : ContractServer σ) (executor : ScenarioExecutor σ)

theorem perform_recorded (call : Call) :
    perform server.recorded executor.recorded call = (perform server executor call).recorded call := by
  cases call <;> rfl

variable {server executor}

/-- Exchanges that follow steps and can be performed are all that happens, recorded or not. -/
theorem Followed.run_eq {steps : List Step} {xs : List Exchange} {ending : Except SuiteError Unit} {s t : σ}
    (followed : Followed steps xs ending) (performed : Performed server executor s xs t) (outcome : SuiteOutcome) :
    (follow server executor steps outcome).runAt s = (ending.map fun _ => outcome.afterAll xs, t) ∧
      ∀ record, (follow server.recorded executor.recorded steps outcome).runAt (s, record) =
        (ending.map fun _ => outcome.afterAll xs, (t, record ++ xs)) := by
  induction followed generalizing s outcome with
  | finished =>
    cases performed
    exact ⟨rfl, fun record => by rw [List.append_nil]; rfl⟩
  | stopped =>
    cases performed
    exact ⟨rfl, fun record => by rw [List.append_nil]; rfl⟩
  | @refused call error more =>
    cases performed with
    | cons run nothing =>
      cases nothing
      have recorded (record : List Exchange) := Act.runAt_recorded call (perform server executor call) s record
      refine ⟨Act.runAt_bind_of_error run, fun record => ?_⟩
      rw [run, ← perform_recorded] at recorded
      exact Act.runAt_bind_of_error (recorded record)
  | @accepted call reply more xs ending _ ih =>
    cases performed with
    | cons run later =>
      have recorded (record : List Exchange) := Act.runAt_recorded call (perform server executor call) s record
      rw [run, ← perform_recorded] at recorded
      obtain ⟨plain, noted⟩ := ih later (outcome.after call reply)
      refine ⟨(Act.runAt_bind_of_ok run).trans plain, fun record => ?_⟩
      refine (Act.runAt_bind_of_ok (recorded record)).trans ?_
      rw [noted, List.append_assoc]
      rfl

theorem Followed.scanFeature_eq {contents : String} {xs : List Exchange} {ending : Except SuiteError Unit} {s t : σ}
    (followed : Followed (steps contents) xs ending) (performed : Performed server executor s xs t) :
    (scanFeature server executor contents).runAt s =
        (ending.map fun _ => ({} : ScanState).outcome.afterAll xs, t) ∧
      exchanges server executor contents s = xs := by
  obtain ⟨plain, noted⟩ := followed.run_eq performed ({} : ScanState).outcome
  unfold exchanges
  rw [scanFeature_eq_follow, scanFeature_eq_follow, noted, List.nil_append]
  exact ⟨plain, rfl⟩

variable (server executor)

theorem exists_followed (steps : List Step) (s : σ) :
    ∃ xs ending t, Followed steps xs ending ∧ Performed server executor s xs t := by
  induction steps generalizing s with
  | nil => exact ⟨[], .ok (), s, .finished, .nil⟩
  | cons step more ih =>
    cases step with
    | defect directive => exact ⟨[], _, s, .stopped, .nil⟩
    | call call =>
      rcases run : (perform server executor call).runAt s with ⟨answer, t⟩
      cases answer with
      | error error => exact ⟨_, _, t, .refused, .cons run .nil⟩
      | ok reply =>
        obtain ⟨xs, ending, u, followed, performed⟩ := ih t
        exact ⟨_, ending, u, .accepted followed, .cons run performed⟩

/-- Steps are followed in one way, whether or not the exchanges are recorded. -/
theorem follow_followed (steps : List Step) (outcome : SuiteOutcome) (s : σ) :
    ∃ xs ending t, Followed steps xs ending ∧ Performed server executor s xs t ∧
      (follow server executor steps outcome).runAt s = (ending.map fun _ => outcome.afterAll xs, t) ∧
      ∀ record, (follow server.recorded executor.recorded steps outcome).runAt (s, record) =
        (ending.map fun _ => outcome.afterAll xs, (t, record ++ xs)) := by
  obtain ⟨xs, ending, t, followed, performed⟩ := exists_followed server executor steps s
  exact ⟨xs, ending, t, followed, performed, followed.run_eq performed outcome⟩

/-- What a scan comes to: its exchanges follow its plan, and its outcome is counted from them. -/
theorem scanFeature_followed (contents : String) (s : σ) :
    ∃ ending t, Followed (steps contents) (exchanges server executor contents s) ending ∧
      Performed server executor s (exchanges server executor contents s) t ∧
      (scanFeature server executor contents).runAt s =
        (ending.map fun _ => ({} : ScanState).outcome.afterAll (exchanges server executor contents s), t) := by
  obtain ⟨xs, ending, t, followed, performed⟩ := exists_followed server executor (steps contents) s
  obtain ⟨run, made⟩ := followed.scanFeature_eq performed
  rw [made]
  exact ⟨ending, t, followed, performed, run⟩

/-- A scan that succeeds has made all calls of its plan, each was accepted, and its outcome is counted from them. -/
theorem scanFeature_ok {contents : String} {s t : σ} {outcome : SuiteOutcome}
    (run : (scanFeature server executor contents).runAt s = (.ok outcome, t)) :
    IsWellFormed contents ∧ (exchanges server executor contents s).map Exchange.call = calls contents ∧
      (∀ x ∈ exchanges server executor contents s, x.isAccepted = true) ∧
      outcome = ({} : ScanState).outcome.afterAll (exchanges server executor contents s) := by
  obtain ⟨ending, u, followed, _, ran⟩ := scanFeature_followed server executor contents s
  rw [run] at ran
  cases ending with
  | error error => cases ran
  | ok _ =>
    cases ran
    obtain ⟨wellFormed, made, accepted⟩ := followed.ok_iff_plan.mp rfl
    exact ⟨wellFormed, made, accepted, rfl⟩

end Scan

end ContractSuite
