import ContractSuite.Executor
import ContractSuite.Proofs.FileTree.Growth
import ContractSuite.Proofs.History
import ContractSuite.Proofs.LastPoll

namespace ContractSuite.Executor

open World

/-- What seeing to the directory for reports comes to. -/
def preparation (config : ExecutorConfig) (w : World) : Except SuiteError Unit :=
  ((w.site.files w.events w.tree).ensureDirectory config.resultsDir).2

/-- The world in which the directory for reports has been seen to. -/
def prepared (config : ExecutorConfig) (w : World) : World :=
  { w.record (.ensured config.resultsDir) with
    tree := ((w.site.files w.events w.tree).ensureDirectory config.resultsDir).1 }

theorem history_prepared (config : ExecutorConfig) (w : World) :
    (prepared config w).history = w.history ++ [.ensured config.resultsDir] :=
  history_record _ w

/-- The status of a scenario, told by what the runner has come to by a time. -/
structure TellsStatus (runner : Supervision.Child) (last : Nat) (status : ScenarioStatus) : Prop where
  passed_iff : status = .passed ↔ runner.HasEndedBy last ∧ runner.status = .code 0
  failed_iff : ∀ code, status = .failed (some code) ↔
    runner.HasEndedBy last ∧ ∃ n : Nat, runner.status = .code n ∧ n ≠ 0 ∧ code = n
  broken_iff : status = .failed none ↔ runner.HasEndedBy last ∧ ∃ signal, runner.status = .signal signal
  timedOut_iff : status = .timedOut ↔ ¬runner.HasEndedBy last

/-- What comes of a scenario once all is ready for the runner, and the events. -/
inductive Invocation (config : ExecutorConfig) (scenario : String) (w : World) :
    Except SuiteError ScenarioStatus → List Event → Prop
  | notStarted {error} : w.launch config.runner (config.runnerArguments scenario) = .error error →
      Invocation config scenario w (.error (.spawn config.runner error))
        [.attempted config.runner (config.runnerArguments scenario)]
  | brokenOff {program u error events} : w.launch config.runner (config.runnerArguments scenario) = .ok program →
      u = w.afterStart config.runner (config.runnerArguments scenario) program →
      Waited u program (config.runnerArguments scenario) config.runnerTimeout (.error error) events →
      Invocation config scenario w (.error (.wait config.runner error))
        (.attempted config.runner (config.runnerArguments scenario) ::
          .started program (config.runnerArguments scenario) :: events)
  | ended {program u outcome events} : w.launch config.runner (config.runnerArguments scenario) = .ok program →
      u = w.afterStart config.runner (config.runnerArguments scenario) program →
      Waited u program (config.runnerArguments scenario) config.runnerTimeout (.ok outcome) events →
      TellsStatus (u.site.conduct u.events program) (Supervision.lastPoll (u.site.lag u.events) config.runnerTimeout)
        (.ofWait outcome) →
      Invocation config scenario w (.ok (.ofWait outcome))
        (.attempted config.runner (config.runnerArguments scenario) ::
          .started program (config.runnerArguments scenario) :: events)

/-- What comes of a scenario that begins in a world, and the events behind that of seeing to the directory. The step
program is launched once, and it does not matter whether it starts; it is waited for only if there is an address for
that. -/
inductive Outcome (config : ExecutorConfig) (scenario : String) (w : World) :
    Except SuiteError ScenarioStatus → List Event → Prop
  | noResults {cause} : preparation config w = .error (.io config.resultsDir cause) →
      Outcome config scenario w (.error (.io config.resultsDir cause)) []
  | notReady {launch u readiness} : preparation config w = .ok () →
      Started config.steps [] ((prepared config w).launch config.steps []) launch →
      (prepared config w).Continues launch u →
      config.readiness = some readiness →
      ((surroundings u readiness.address).await readiness.timeout).1 = false →
      Outcome config scenario w (.error (.stepsNotReady readiness.address readiness.timeout))
        (launch ++ [.probed readiness.address])
  | invoked {launch u probe v answer events} : preparation config w = .ok () →
      Started config.steps [] ((prepared config w).launch config.steps []) launch →
      (prepared config w).Continues launch u →
      (∀ readiness ∈ config.readiness, ((surroundings u readiness.address).await readiness.timeout).1 = true) →
      probe = (config.readiness.map fun readiness => .probed readiness.address).toList →
      u.Continues probe v → Invocation config scenario v answer events →
      Outcome config scenario w answer (launch ++ (probe ++ events))

theorem error_of_ensureDirectory {t : FileTree} {directory : String} {error : SuiteError}
    (failed : (t.ensureDirectory directory).2 = .error error) : ∃ cause, error = .io directory cause :=
  (t.ensured_ensureDirectory directory).error_eq failed

theorem ensureResults_runAt (config : ExecutorConfig) (w : World) :
    (ensureResults config.resultsDir).runAt w = (preparation config w, prepared config w) := by
  unfold ensureResults preparation prepared
  rw [Act.runAt_bind_of_ok (Act.runAt_get w), Act.runAt_bind_of_ok (note_runAt _ w)]
  rcases (w.site.files w.events w.tree).ensureDirectory config.resultsDir with ⟨tree, _ | _⟩ <;> rfl

theorem launchSteps_runAt_of_error {program : String} {w : World} {error : OsError}
    (refused : w.launch program [] = .error error) : (launchSteps program).runAt w =
      (.ok (), (w.record (.attempted program [])).write ⟨.warn, logTarget, "failed to launch step process",
        [("program", program), ("error", error.text)]⟩) := by
  unfold launchSteps
  rw [Act.runAt_bind_of_ok (start_runAt_of_error refused)]
  rfl

theorem launchSteps_runAt_of_ok {program : String} {w : World} {found : Program}
    (launched : w.launch program [] = .ok found) : (launchSteps program).runAt w =
      (.ok (), { (w.afterStart program [] found).write ⟨.debug, logTarget, "step process launched",
        [("program", program)]⟩ with background := w.background ++ [found] }) := by
  unfold launchSteps
  rw [Act.runAt_bind_of_ok (start_runAt_of_ok launched)]
  rfl

/-- The step program is launched once. Its launch succeeds even if the program cannot be started. -/
theorem launchSteps_leads (program : String) (w : World) : ∃ events,
    Started program [] (w.launch program []) events ∧ (launchSteps program).Leads w (.ok ()) events := by
  cases launched : w.launch program [] with
  | error error =>
    refine ⟨_, .refused, _, launchSteps_runAt_of_error launched, rfl, rfl, ?_, (List.append_nil _).symm⟩
    exact history_record _ w
  | ok found =>
    refine ⟨_, .running, _, launchSteps_runAt_of_ok launched, rfl, rfl, ?_, rfl⟩
    refine (history_record _ (w.record (.attempted program []))).trans ?_
    rw [history_record, List.append_assoc]
    rfl

theorem awaitSteps_leads (readiness : Readiness) (w : World) : (awaitSteps readiness).Leads w
    (if isListening w readiness then .ok () else .error (.stepsNotReady readiness.address readiness.timeout))
    [.probed readiness.address] := by
  unfold awaitSteps
  refine .get (.bind (.note rfl) fun u _ => ?_)
  split
  · exact .say ..
  · exact .throw _

theorem report_leads (config : ExecutorConfig) (scenario : String) (status : ScenarioStatus) (w : World) :
    (report config scenario status).Leads w (.ok ()) [] := by
  cases status <;> exact .say ..

theorem tellsStatus_ofWait {runner : Supervision.Child} {last : Nat} {outcome : Supervision.WaitOutcome}
    (polled : runner.EndsAsPolled last outcome) : TellsStatus runner last (.ofWait outcome) := by
  cases outcome with
  | timedOut =>
    have runs := polled.timedOut_iff.mp rfl
    exact ⟨⟨nofun, fun ended => absurd ended.1 runs⟩, fun _ => ⟨nofun, fun ended => absurd ended.1 runs⟩,
      ⟨nofun, fun ended => absurd ended.1 runs⟩, ⟨fun _ => runs, fun _ => rfl⟩⟩
  | exited status =>
    obtain ⟨ended, rfl⟩ := (polled.exited_iff status).mp rfl
    cases exit : runner.status with
    | signal n => constructor <;> simp [ScenarioStatus.ofWait, exit, ended]
    | code n =>
      cases n with
      | zero => constructor <;> simp [ScenarioStatus.ofWait, exit, ended]
      | succ n => constructor <;> simp [ScenarioStatus.ofWait, exit, ended, eq_comm]

/-- A wait that comes to its end tells the status of its program as polled for the last time. -/
theorem tellsStatus_of_waited {w : World} {program : Program} {arguments : List String} {budget : Nanoseconds}
    {outcome : Supervision.WaitOutcome} {events : List Event}
    (waited : Waited w program arguments budget (.ok outcome) events) :
    TellsStatus (w.site.conduct w.events program) (Supervision.lastPoll (w.site.lag w.events) budget)
      (.ofWait outcome) := by
  have polled : (w.site.conduct w.events program).EndsAsPolled (Supervision.lastPoll (w.site.lag w.events) budget)
      (w.waitFor program budget).outcome := Supervision.Child.wait_endsAsPolled _ _ budget
  cases waited with
  | exited _ ended =>
    rw [ended] at polled
    exact tellsStatus_ofWait polled
  | timedOut _ ended =>
    rw [ended] at polled
    exact tellsStatus_ofWait polled

theorem invokeRunner_leads (config : ExecutorConfig) (scenario : String) (w : World) : ∃ answer events,
    Invocation config scenario w answer events ∧ (invokeRunner config scenario).Leads w answer events := by
  unfold invokeRunner
  cases launched : w.launch config.runner (config.runnerArguments scenario) with
  | error error => exact ⟨_, _, .notStarted launched, .after (start_runAt_of_error launched) (.record w rfl) (.throw _)⟩
  | ok program =>
    have started : w.Continues [.attempted config.runner (config.runnerArguments scenario),
        .started program (config.runnerArguments scenario)]
        (w.afterStart config.runner (config.runnerArguments scenario) program) :=
      (Continues.record w rfl).trans (.record _ rfl)
    obtain ⟨result, events, waited, awaits⟩ := await_leads
      (w.afterStart config.runner (config.runnerArguments scenario) program) program (config.runnerArguments scenario)
      config.runnerTimeout
    cases result with
    | error error =>
      refine ⟨_, _, .brokenOff launched rfl waited, .after (start_runAt_of_ok launched) started ?_⟩
      exact awaits.bind_quiet fun _ => .throw _
    | ok outcome =>
      refine ⟨_, _, .ended launched rfl waited (tellsStatus_of_waited waited),
        .after (start_runAt_of_ok launched) started ?_⟩
      exact awaits.bind_quiet fun _ => .pure _

/-- The part of a run that begins when all is ready for the runner. -/
theorem invoke_leads (config : ExecutorConfig) (scenario : String) (w : World) : ∃ v answer events,
    w.Continues [] v ∧ Invocation config scenario v answer events ∧
      (do
        say .info logTarget "running scenario" [("scenario", Text.quoted scenario)]
        let status ← invokeRunner config scenario
        report config scenario status
        return status).Leads w answer events := by
  obtain ⟨answer, events, invoked, leads⟩ := invokeRunner_leads config scenario
    (w.write ⟨.info, logTarget, "running scenario", [("scenario", Text.quoted scenario)]⟩)
  refine ⟨_, answer, events, .write w _, invoked, .after (say_runAt ..) (.write w _) ?_⟩
  cases answer with
  | error error => exact .bind_error leads
  | ok status =>
    exact leads.bind_quiet fun v => .bind_quiet (report_leads config scenario status v) fun _ => .pure _

/-- The part of a run that begins when the step program has been launched. -/
theorem ready_leads (config : ExecutorConfig) (scenario : String) {w u : World} {launch : List Event}
    (there : preparation config w = .ok ())
    (started : Started config.steps [] ((prepared config w).launch config.steps []) launch)
    (launched : (prepared config w).Continues launch u) : ∃ answer events,
    Outcome config scenario w answer (launch ++ events) ∧
      (do
        match config.readiness with
        | none => pure ()
        | some readiness => awaitSteps readiness
        say .info logTarget "running scenario" [("scenario", Text.quoted scenario)]
        let status ← invokeRunner config scenario
        report config scenario status
        return status).Leads u answer events := by
  cases ready : config.readiness with
  | none =>
    obtain ⟨v, answer, events, written, invoked, leads⟩ := invoke_leads config scenario u
    have told : Outcome config scenario w answer (launch ++ ([] ++ events)) :=
      .invoked there started launched (by simp [ready]) (by rw [ready]; rfl) written invoked
    exact ⟨answer, events, told, leads⟩
  | some readiness =>
    have probe := awaitSteps_leads readiness u
    cases listens : isListening u readiness with
    | false =>
      rw [listens] at probe
      exact ⟨_, _, .notReady there started launched ready listens, .bind_error probe⟩
    | true =>
      rw [listens] at probe
      obtain ⟨v, run, probed⟩ := probe
      obtain ⟨v', answer, events, written, invoked, leads⟩ := invoke_leads config scenario v
      have accepted : ∀ other ∈ config.readiness, ((surroundings u other.address).await other.timeout).1 = true := by
        simpa [ready, isListening] using listens
      have told : Outcome config scenario w answer (launch ++ ([.probed readiness.address] ++ events)) :=
        .invoked there started launched accepted (by rw [ready]; rfl) (probed.trans written) invoked
      exact ⟨answer, _, told, .after run probed leads⟩

theorem run_outcome (config : ExecutorConfig) (scenario : String) (w : World) : ∃ answer events u,
    (run config scenario).runAt w = (answer, u) ∧ Outcome config scenario w answer events ∧
      (prepared config w).Continues events u := by
  have ensured := ensureResults_runAt config w
  cases there : preparation config w with
  | error error =>
    rw [there] at ensured
    obtain ⟨cause, rfl⟩ := error_of_ensureDirectory there
    exact ⟨_, _, _, Act.runAt_bind_of_error ensured, .noResults there, .refl _⟩
  | ok =>
    rw [there] at ensured
    obtain ⟨launch, started, u, run, launched⟩ := launchSteps_leads config.steps (prepared config w)
    obtain ⟨answer, events, outcome, v, last, continues⟩ := ready_leads config scenario there started launched
    refine ⟨answer, _, v, ?_, outcome, launched.trans continues⟩
    exact (Act.runAt_bind_of_ok ensured).trans ((Act.runAt_bind_of_ok run).trans last)

/-- The wait for the runner breaks off only if one of its actions fails. -/
theorem Outcome.ne_wait {config : ExecutorConfig} {scenario : String} {w : World}
    {answer : Except SuiteError ScenarioStatus} {events : List Event}
    (outcome : Outcome config scenario w answer events) (faultless : ∀ past program, w.site.fault past program = none)
    (error : OsError) : answer ≠ .error (.wait config.runner error) := by
  rintro rfl
  cases outcome with
  | invoked _ _ launched _ _ probed invoked =>
    cases invoked with
    | @brokenOff program u _ _ _ isStarted waited =>
      have site_eq : u.site = w.site := by
        rw [isStarted]
        exact probed.site_eq.trans launched.site_eq
      obtain ⟨_, ended⟩ := waited.exists_ok fun past => by rw [site_eq, faultless]
      cases ended

theorem continues_of_prepared_write {config : ExecutorConfig} {w u : World} {line : Log.Line} {events : List Event}
    (continues : (prepared config (w.write line)).Continues events u) : (prepared config w).Continues events u := by
  have same : prepared config (w.write line) = (prepared config w).write line := rfl
  rw [same] at continues
  exact continues.of_write

theorem Outcome.of_write {config : ExecutorConfig} {scenario : String} {w : World} {line : Log.Line}
    {answer : Except SuiteError ScenarioStatus} {events : List Event}
    (outcome : Outcome config scenario (w.write line) answer events) : Outcome config scenario w answer events := by
  cases outcome with
  | noResults failed => exact .noResults failed
  | notReady there started launched ready silent =>
    exact .notReady there started (continues_of_prepared_write launched) ready silent
  | invoked there started launched listens isProbe probed invoked =>
    exact .invoked there started (continues_of_prepared_write launched) listens isProbe probed invoked

theorem executor_runScenario_outcome (config : ExecutorConfig) (scenario : String) (w : World) : ∃ answer events u,
    (config.executor.runScenario scenario).runAt w = (answer, u) ∧ Outcome config scenario w answer events ∧
      (prepared config w).Continues events u := by
  obtain ⟨answer, events, u, run, outcome, continues⟩ := run_outcome config scenario
    (w.write ⟨.debug, "contract_runner::scan", "scenario directive", [("scenario", Text.quoted scenario)]⟩)
  exact ⟨answer, events, u, (Act.runAt_bind_of_ok (say_runAt ..)).trans run, outcome.of_write,
    continues_of_prepared_write continues⟩

/-- Runs scenarios one after another, whatever comes of each. -/
def runEach (config : ExecutorConfig) : List String → World → World
  | [], w => w
  | scenario :: more, w => runEach config more ((run config scenario).runAt w).2

/-- Among these events nothing is killed or waited for but a runner of one of some scenarios, and it is killed directly
after its start. -/
structure SparesSteps (config : ExecutorConfig) (scenarios : List String) (events : List Event) : Prop where
  killed : ∀ before program after, events = before ++ .killed program :: after →
    ∃ scenario ∈ scenarios, ∃ earlier, before = earlier ++ [.started program (config.runnerArguments scenario)]
  ended : ∀ arguments outcome, .ended arguments outcome ∈ events →
    ∃ scenario ∈ scenarios, arguments = config.runnerArguments scenario

namespace SparesSteps

variable {config : ExecutorConfig} {scenarios : List String} {events first second : List Event}

theorem of_quiet (noKill : ∀ program, .killed program ∉ events)
    (noEnd : ∀ arguments outcome, .ended arguments outcome ∉ events) : SparesSteps config scenarios events where
  killed before program after cut := by
    refine absurd ?_ (noKill program)
    rw [cut]
    simp
  ended arguments outcome inside := absurd inside (noEnd arguments outcome)

theorem append (front : SparesSteps config scenarios first) (back : SparesSteps config scenarios second) :
    SparesSteps config scenarios (first ++ second) where
  killed before program after cut := by
    rcases List.append_eq_append_iff.mp cut with ⟨between, rfl, inBack⟩ | ⟨between, inFront, rest⟩
    · obtain ⟨scenario, isScenario, earlier, rfl⟩ := back.killed between program after inBack
      exact ⟨scenario, isScenario, first ++ earlier, (List.append_assoc ..).symm⟩
    · cases between with
      | nil =>
        obtain ⟨_, _, earlier, nothing⟩ := back.killed [] program after rest.symm
        exact absurd nothing.symm (by simp)
      | cons event between =>
        cases rest
        exact front.killed before program between inFront
  ended arguments outcome inside := by
    rcases List.mem_append.mp inside with inFront | inBack
    · exact front.ended arguments outcome inFront
    · exact back.ended arguments outcome inBack

theorem mono {more : List String} (spares : SparesSteps config scenarios events) (subset : scenarios ⊆ more) :
    SparesSteps config more events where
  killed before program after cut := by
    obtain ⟨scenario, isScenario, earlier, same⟩ := spares.killed before program after cut
    exact ⟨scenario, subset isScenario, earlier, same⟩
  ended arguments outcome inside := by
    obtain ⟨scenario, isScenario, same⟩ := spares.ended arguments outcome inside
    exact ⟨scenario, subset isScenario, same⟩

theorem of_started {program : String} {arguments : List String} {result : Except OsError Program}
    (started : Started program arguments result events) : SparesSteps config scenarios events := by
  cases started <;> exact of_quiet (by simp) (by simp)

theorem of_waited {program : Program} {scenario : String} {w : World} {budget : Nanoseconds}
    {result : Except OsError Supervision.WaitOutcome}
    (waited : Waited w program (config.runnerArguments scenario) budget result events) :
    SparesSteps config [scenario] (.started program (config.runnerArguments scenario) :: events) := by
  have isScenario : scenario ∈ [scenario] := List.mem_singleton_self scenario
  have start : SparesSteps config [scenario] [.started program (config.runnerArguments scenario)] :=
    of_quiet (by simp) (by simp)
  -- The program that is killed is the one whose start comes right before.
  have killed : SparesSteps config [scenario]
      [.started program (config.runnerArguments scenario), .killed program] := by
    refine ⟨fun before other after cut => ?_, by simp⟩
    match before, cut with
    | [], cut => cases cut
    | [_], cut =>
      cases cut
      exact ⟨scenario, isScenario, [], rfl⟩
    | _ :: _ :: _, cut => simp at cut
  have ended (outcome : Supervision.WaitOutcome) :
      SparesSteps config [scenario] [.ended (config.runnerArguments scenario) outcome] := by
    refine ⟨fun before other after cut => ?_, fun arguments outcome inside => ?_⟩
    · have inside : Event.killed other ∈ before ++ .killed other :: after := by simp
      rw [← cut] at inside
      simp at inside
    · obtain ⟨rfl, -⟩ : arguments = config.runnerArguments scenario ∧ _ := by simpa using inside
      exact ⟨scenario, isScenario, rfl⟩
  cases waited with
  | exited => exact start.append (ended _)
  | timedOut => exact killed.append (ended _)
  | brokeOff => exact start
  | notReaped => exact killed

theorem of_invocation {scenario : String} {w : World} {answer : Except SuiteError ScenarioStatus}
    (invoked : Invocation config scenario w answer events) : SparesSteps config [scenario] events := by
  have attempt : SparesSteps config [scenario] [.attempted config.runner (config.runnerArguments scenario)] :=
    of_quiet (by simp) (by simp)
  cases invoked with
  | notStarted => exact attempt
  | brokenOff _ _ waited => exact attempt.append (of_waited waited)
  | ended _ _ waited _ => exact attempt.append (of_waited waited)

theorem of_outcome {scenario : String} {w : World} {answer : Except SuiteError ScenarioStatus}
    (outcome : Outcome config scenario w answer events) : SparesSteps config [scenario] events := by
  have probed (probe : Option Readiness) :
      SparesSteps config [scenario] (probe.map fun readiness => Event.probed readiness.address).toList := by
    cases probe <;> exact of_quiet (by simp) (by simp)
  cases outcome with
  | noResults => exact of_quiet (by simp) (by simp)
  | @notReady launch _ readiness _ started => exact (of_started started).append (probed (some readiness))
  | invoked _ started _ _ isProbe _ invoked =>
    rw [isProbe]
    exact (of_started started).append ((probed config.readiness).append (of_invocation invoked))

end SparesSteps

theorem runEach_accounts (config : ExecutorConfig) (scenarios : List String) (w : World) : ∃ events,
    (runEach config scenarios w).history = w.history ++ events ∧
      (runEach config scenarios w).background = w.background ++ events.filterMap Event.stepLaunched? ∧
      SparesSteps config scenarios events := by
  induction scenarios generalizing w with
  | nil => exact ⟨[], (List.append_nil _).symm, (List.append_nil _).symm, .of_quiet (by simp) (by simp)⟩
  | cons scenario more ih =>
    obtain ⟨answer, events, u, run, outcome, continues⟩ := run_outcome config scenario w
    obtain ⟨later, history, background, spares⟩ := ih u
    have after : runEach config (scenario :: more) w = runEach config more u := by
      rw [runEach, run]
    have ensured : SparesSteps config [scenario] [.ensured config.resultsDir] := .of_quiet (by simp) (by simp)
    refine ⟨[.ensured config.resultsDir] ++ events ++ later, ?_, ?_, ?_⟩
    · rw [after, history, continues.history_eq, history_prepared]
      simp only [List.append_assoc]
    · rw [after, background, continues.background_eq, List.filterMap_append, List.filterMap_append, List.append_assoc]
      rfl
    · exact ((ensured.append (.of_outcome outcome)).mono (by simp)).append (spares.mono (by simp))

/-- Each run of a scenario comes to one of the outcomes, in which the wait for the runner breaks off only if one of its
actions fails. Over any runs, the background is joined by exactly the step programs that have been started, in order,
and none of them is killed or waited for. -/
theorem runs_come_to_outcomes (config : ExecutorConfig) :
    (∀ scenario w, ∃ answer events u, (run config scenario).runAt w = (answer, u) ∧
      Outcome config scenario w answer events ∧ (prepared config w).Continues events u ∧
      ((∀ past program, w.site.fault past program = none) → ∀ error, answer ≠ .error (.wait config.runner error)) ∧
      ∀ past, config.runnerTimeout < Supervision.lastPoll (w.site.lag past) config.runnerTimeout) ∧
    ∀ scenarios w, ∃ events, (runEach config scenarios w).history = w.history ++ events ∧
      (runEach config scenarios w).background = w.background ++ events.filterMap Event.stepLaunched? ∧
      SparesSteps config scenarios events := by
  refine ⟨fun scenario w => ?_, runEach_accounts config⟩
  obtain ⟨answer, events, u, run, outcome, continues⟩ := run_outcome config scenario w
  exact ⟨answer, events, u, run, outcome, continues, outcome.ne_wait, fun past => Supervision.budget_lt_lastPoll _ _⟩

end ContractSuite.Executor
