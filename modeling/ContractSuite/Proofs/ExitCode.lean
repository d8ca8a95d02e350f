import ContractSuite.CommandLine
import ContractSuite.Proofs.SuiteEvents

namespace ContractSuite

/-- The scenario that a call runs, if it runs one. -/
def Call.scenario? : Call → Option String
  | .initContract _ => none
  | .runScenario name => some name
  | .checkExpectations => none

namespace Plan

/-- The scenarios that a feature file asks for. -/
def scenarios (contents : String) : List String :=
  (Text.lines contents).flatMap fun line => (DirectiveKind.scenario.nameOn? line).toList

end Plan

/-- Only an exit code of zero counts as success. -/
theorem ScenarioStatus.isSuccess_ofWait (outcome : Supervision.WaitOutcome) :
    (ofWait outcome).isSuccess = true ↔ outcome = .exited (.code 0) := by
  cases outcome with
  | exited status =>
    cases status with
    | code n => cases n <;> simp [ofWait, isSuccess]
    | signal n => simp [ofWait, isSuccess]
  | timedOut => simp [ofWait, isSuccess]

theorem SuiteOutcome.suiteFailed_after (outcome : SuiteOutcome) (name : String) (status : ScenarioStatus) :
    (outcome.after (.runScenario name) status).suiteFailed = (outcome.suiteFailed || !status.isSuccess) := by
  cases status <;> simp [after, ScenarioStatus.isSuccess]

theorem World.ends_eq (w : World) : w.ends = w.history.filterMap Event.end? := rfl

theorem World.Started.noEnd {program : String} {arguments : List String} {result : Except OsError Program}
    {events : List Event} (started : Started program arguments result events) :
    events.filterMap Event.end? = [] := by
  cases started <;> rfl

theorem World.Waited.end_eq {w : World} {program : Program} {arguments : List String} {budget : Nanoseconds}
    {outcome : Supervision.WaitOutcome} {events : List Event}
    (waited : Waited w program arguments budget (.ok outcome) events) :
    events.filterMap Event.end? = [(arguments, outcome)] := by
  cases waited <;> rfl

theorem ContractClient.Asked.noEnd {client : ContractClient} {path : String} {parameters : List (String × String)}
    {next : Url → Response → Except SuiteError Unit} {site : Site} {past : List Event} {answer : Except SuiteError Unit}
    {events : List Event} (asked : client.Asked path parameters next site past answer events) :
    events.filterMap Event.end? = [] := by
  rw [List.filterMap_eq_nil_iff]
  intro event inside
  rcases asked.eq_of_mem inside with ⟨_, rfl⟩ | ⟨_, rfl⟩ <;> rfl

/-- A scenario that has a status has an end of the runner, from which its status is taken. -/
theorem Executor.Outcome.end_eq {config : ExecutorConfig} {w : World} {scenario : String} {status : ScenarioStatus}
    {events : List Event} (outcome : Outcome config scenario w (.ok status) events) :
    ∃ ending, events.filterMap Event.end? = [(config.runnerArguments scenario, ending)] ∧
      status = .ofWait ending := by
  cases outcome with
  | invoked _ started _ _ isProbe _ invoked =>
    cases invoked with
    | @ended program u ending events _ _ waited _ =>
      have unprobed : (config.readiness.map fun readiness => Event.probed readiness.address).toList.filterMap
          Event.end? = [] := by cases config.readiness <;> rfl
      refine ⟨ending, ?_, rfl⟩
      rw [List.filterMap_append, List.filterMap_append, started.noEnd, isProbe, unprobed, List.filterMap_cons_none rfl,
        List.filterMap_cons_none rfl, waited.end_eq]
      rfl

namespace Exchange

variable {settings : Settings} {w u : World}

/-- An accepted exchange ends the runner if it runs a scenario, and marks the suite as failed if that end is no
success. -/
theorem Leaves.ends {x : Exchange} {events : List Event} (leaves : x.Leaves settings w events u)
    (accepted : x.isAccepted = true) :
    (events.filterMap Event.end?).map Prod.fst =
        (x.call.scenario?.map settings.executorConfig.runnerArguments).toList ∧
      ∀ outcome : SuiteOutcome, (outcome.afterExchange x).suiteFailed = true ↔
        outcome.suiteFailed = true ∨ ∃ e ∈ events.filterMap Event.end?, e.2 ≠ .exited (.code 0) := by
  cases leaves with
  | @init name answer events _ asked =>
    rw [asked.noEnd]
    refine ⟨rfl, fun outcome => ?_⟩
    cases answer <;> simp [SuiteOutcome.afterExchange, SuiteOutcome.after]
  | @run name answer events _ outcome =>
    cases answer with
    | error error => cases accepted
    | ok status =>
      obtain ⟨ending, same, rfl⟩ := outcome.end_eq
      rw [List.filterMap_cons_none rfl, same]
      refine ⟨rfl, fun outcome => ?_⟩
      rw [SuiteOutcome.afterExchange, SuiteOutcome.suiteFailed_after, Bool.or_eq_true, Bool.not_eq_true',
        ← Bool.not_eq_true, ScenarioStatus.isSuccess_ofWait]
      simp
  | @check answer events _ asked =>
    rw [asked.noEnd]
    refine ⟨rfl, fun outcome => ?_⟩
    cases answer <;> simp [SuiteOutcome.afterExchange, SuiteOutcome.after]

/-- Accepted exchanges end the runner once for each scenario. Their outcome tells of a failure exactly if one of
the ends is no success, whichever comes before or after it. -/
theorem Unfold.ends {xs : List Exchange} {events : List Event} (unfold : Unfold settings w xs events u)
    (accepted : ∀ x ∈ xs, x.isAccepted = true) (outcome : SuiteOutcome) :
    (events.filterMap Event.end?).map Prod.fst =
        ((xs.map Exchange.call).filterMap Call.scenario?).map settings.executorConfig.runnerArguments ∧
      ((outcome.afterAll xs).suiteFailed = true ↔
        outcome.suiteFailed = true ∨ ∃ e ∈ events.filterMap Event.end?, e.2 ≠ .exited (.code 0)) := by
  induction unfold generalizing outcome with
  | nil => simp [SuiteOutcome.afterAll]
  | @cons _ _ _ x xs events more leaves _ ih =>
    obtain ⟨isAccepted, others⟩ := List.forall_mem_cons.mp accepted
    obtain ⟨names, failed⟩ := leaves.ends isAccepted
    obtain ⟨namesLater, failedLater⟩ := ih others (outcome.afterExchange x)
    constructor
    · rw [List.filterMap_append, List.map_append, names, namesLater, List.map_cons, List.filterMap_cons]
      cases x.call.scenario? <;> rfl
    · have afterAll : outcome.afterAll (x :: xs) = (outcome.afterExchange x).afterAll xs := rfl
      rw [afterAll, failedLater, failed outcome, List.filterMap_append]
      simp only [List.mem_append, or_and_right, exists_or, or_assoc]

end Exchange

namespace Suite

/-- Holds when a run comes to its end. All directives are well-formed, each line has its contract initialised, its
scenario run and its contract checked, and none of that is refused; and these are the ends of the runner. -/
structure Completes (arguments : Arguments) (w : World) (settings : Settings) (contents : String)
    (ends : List (List String × Supervision.WaitOutcome)) : Prop where
  loads : settingsOf arguments w = .ok settings
  reads : contentsOf arguments w = .ok contents
  isWellFormed : Plan.IsWellFormed contents
  calls : (exchanges arguments w).map Exchange.call = Plan.calls contents
  accepted : ∀ x ∈ exchanges arguments w, x.isAccepted = true
  ends_eq : ((run arguments).runAt w).2.ends = w.ends ++ ends
  scenarios : ends.map Prod.fst = (Plan.scenarios contents).map settings.executorConfig.runnerArguments

section

variable {arguments : Arguments} {w : World} {settings : Settings} {contents : String}

/-- A run in which nothing is refused adds the ends of the runner to those before it. -/
theorem run_ends {t : World} (prepared : (prepare arguments).runAt w = (.ok (settings, contents), t))
    (sameHistory : t.history = w.history) (accepted : ∀ x ∈ exchanges arguments w, x.isAccepted = true) :
    ∃ ends, ((run arguments).runAt w).2.ends = w.ends ++ ends ∧
      ends.map Prod.fst = (((exchanges arguments w).map Exchange.call).filterMap Call.scenario?).map
        settings.executorConfig.runnerArguments ∧
      ((({} : ScanState).outcome.afterAll (exchanges arguments w)).suiteFailed = true ↔
        ∃ e ∈ ends, e.2 ≠ .exited (.code 0)) := by
  obtain ⟨ending, u, log, _, performed, ran⟩ := run_of_prepared prepared
  obtain ⟨events, unfold⟩ := performed.unfold
  obtain ⟨names, failed⟩ := unfold.ends accepted ({} : ScanState).outcome
  refine ⟨events.filterMap Event.end?, ?_, names, ?_⟩
  · have addedToRun : ((run arguments).runAt w).2.history = w.history ++ events := by
      rw [ran, ← sameHistory]
      exact unfold.history_eq
    rw [World.ends_eq, addedToRun, List.filterMap_append, World.ends_eq]
  · rw [failed]
    simp [ScanState.outcome]

theorem Completes.run_eq {ends : List (List String × Supervision.WaitOutcome)}
    (completes : Completes arguments w settings contents ends) :
    ∃ outcome, ((run arguments).runAt w).1 = .ok outcome ∧
      (outcome.suiteFailed = true ↔ ∃ e ∈ ends, e.2 ≠ .exited (.code 0)) := by
  obtain ⟨log, prepared⟩ := prepare_of_read completes.loads completes.reads
  obtain ⟨ending, u, _, followed, _, ran⟩ := run_of_prepared prepared
  obtain ⟨others, endsEq, _, failed⟩ := run_ends prepared rfl completes.accepted
  have same : ends = others := List.append_cancel_left (completes.ends_eq.symm.trans endsEq)
  have toTheEnd : ending = .ok () :=
    followed.ok_iff_plan.mpr ⟨completes.isWellFormed, completes.calls, completes.accepted⟩
  rw [ran, toTheEnd, same]
  exact ⟨_, rfl, failed⟩

end

end Suite

namespace CommandLine

end CommandLine

end ContractSuite
