import ContractSuite.Suite
import ContractSuite.Proofs.Exchange
import ContractSuite.Proofs.Layers
import ContractSuite.Proofs.ScenarioRuns
import ContractSuite.Proofs.ServerRequests

namespace ContractSuite

/-- The events of an exchange with the collaborators that settings describe, made in one world and leaving another. -/
inductive Exchange.Leaves (settings : Settings) (w : World) : Exchange → List Event → World → Prop
  | init {name answer events u} :
      settings.client.Asked "/init" [(ContractClient.contractParameter, name)] (fun _ _ => .ok ()) w.site w.events
        answer events →
      w.Continues events u → Leaves settings w ⟨.initContract name, answer⟩ events u
  | run {name answer events u} : Executor.Outcome settings.executorConfig name w answer events →
      (Executor.prepared settings.executorConfig w).Continues events u →
      Leaves settings w ⟨.runScenario name, answer⟩ (.ensured settings.resultsDir :: events) u
  | check {answer events u} :
      settings.client.Asked "/expect" [] ContractClient.judge w.site w.events answer events →
      w.Continues events u → Leaves settings w ⟨.checkExpectations, answer⟩ events u

/-- The events of exchanges that are made one after another. -/
inductive Exchange.Unfold (settings : Settings) : World → List Exchange → List Event → World → Prop
  | nil {w} : Unfold settings w [] [] w
  | cons {w u v x xs events more} : x.Leaves settings w events u → Unfold settings u xs more v →
      Unfold settings w (x :: xs) (events ++ more) v

namespace Exchange

variable {settings : Settings} {w u : World}

theorem Leaves.site_eq {x : Exchange} {events : List Event} (leaves : x.Leaves settings w events u) :
    u.site = w.site := by
  cases leaves with
  | init _ continues => exact continues.site_eq
  | run _ continues => exact continues.site_eq
  | check _ continues => exact continues.site_eq

theorem Leaves.history_eq {x : Exchange} {events : List Event} (leaves : x.Leaves settings w events u) :
    u.history = w.history ++ events := by
  cases leaves with
  | init _ continues => exact continues.history_eq
  | run _ continues =>
    rw [continues.history_eq, Executor.history_prepared, List.append_assoc]
    rfl
  | check _ continues => exact continues.history_eq

theorem Unfold.history_eq {xs : List Exchange} {events : List Event} (unfold : Unfold settings w xs events u) :
    u.history = w.history ++ events := by
  induction unfold with
  | nil => exact (List.append_nil _).symm
  | cons leaves _ ih => rw [ih, leaves.history_eq, List.append_assoc]

end Exchange

namespace Scan

theorem perform_leaves (settings : Settings) (call : Call) (w : World) : ∃ answer events u,
    (perform settings.client.server settings.executorConfig.executor call).runAt w = (answer, u) ∧
      Exchange.Leaves settings w ⟨call, answer⟩ events u := by
  cases call with
  | initContract name =>
    obtain ⟨answer, events, asked, u, run, continues⟩ :=
      ContractClient.server_initContract_leads settings.client name w
    exact ⟨answer, events, u, run, .init asked continues⟩
  | runScenario name =>
    obtain ⟨answer, events, u, run, outcome, continues⟩ :=
      Executor.executor_runScenario_outcome settings.executorConfig name w
    exact ⟨answer, _, u, run, .run outcome continues⟩
  | checkExpectations =>
    obtain ⟨answer, events, asked, u, run, continues⟩ := ContractClient.checkExpectations_leads settings.client w
    exact ⟨answer, events, u, run, .check asked continues⟩

/-- What is performed leaves the events of its exchanges, and no others. -/
theorem Performed.unfold {settings : Settings} {w t : World} {xs : List Exchange}
    (performed : Performed settings.client.server settings.executorConfig.executor w xs t) :
    ∃ events, Exchange.Unfold settings w xs events t := by
  induction performed with
  | nil => exact ⟨[], .nil⟩
  | @cons call answer xs w t u run _ ih =>
    obtain ⟨found, events, v, ran, leaves⟩ := perform_leaves settings call w
    obtain ⟨more, unfold⟩ := ih
    rw [run] at ran
    cases ran
    exact ⟨events ++ more, .cons leaves unfold⟩

end Scan

/-- No settings are loaded under which a request has no time. -/
theorem Settings.timeout_ne_zero_of_load {t : FileTree} {e : Environment} {overrides : Overrides}
    {configPath : Option String} {s : Settings} (loaded : load t e overrides configPath = .ok s) :
    s.client.timeout ≠ 0 := by
  unfold load at loaded
  cases found : Config.discover t e configPath with
  | error error =>
    rw [found] at loaded
    cases loaded
  | ok file? =>
    rw [found] at loaded
    have valid := (ofLayers_eq_ok_iff.mp loaded).2
    have positive : s.httpTimeout ≠ 0 := by simpa [Key.offends] using validate_eq_ok_iff.mp valid .httpTimeout
    exact Nat.mul_ne_zero positive (by decide)

namespace Suite

/-- The settings of a run, if they can be loaded. -/
def settingsOf (arguments : Arguments) (w : World) : Except SuiteError Settings :=
  Settings.load w.tree w.site.environment arguments.overrides arguments.configPath

/-- The text of the feature file of a run, if it can be read. -/
def contentsOf (arguments : Arguments) (w : World) : Except SuiteError String :=
  w.tree.readFeature arguments.featureFile

/-- The exchanges of a run. There are none before its settings and its feature file are there. -/
def exchanges (arguments : Arguments) (w : World) : List Exchange :=
  match (prepare arguments).runAt w with
  | (.ok (settings, contents), t) =>
    Scan.exchanges settings.client.server settings.executorConfig.executor contents t
  | (.error _, _) => []

section

variable {arguments : Arguments} {w : World}

theorem loadSettings_of_error {error : SuiteError}
    (failed : settingsOf arguments w = .error error) :
    (loadSettings arguments).runAt w = (.error error, w) := by
  unfold settingsOf at failed
  unfold loadSettings
  rw [Act.runAt_bind_of_ok (Act.runAt_get w), failed]
  rfl

/-- The log line behind the settings. -/
def resolvedLine : Log.Line :=
  ⟨.debug, "contract_runner::settings", "settings resolved", []⟩

/-- The log line in front of the scan. -/
def scanningLine (arguments : Arguments) (settings : Settings) : Log.Line :=
  ⟨.info, "contract_runner", "scanning feature file",
    [("feature", arguments.featureFile), ("server", Text.quoted settings.client.baseUrl)]⟩

theorem loadSettings_of_ok {settings : Settings}
    (loaded : settingsOf arguments w = .ok settings) :
    (loadSettings arguments).runAt w = (.ok settings, w.write resolvedLine) := by
  unfold settingsOf at loaded
  unfold loadSettings
  rw [Act.runAt_bind_of_ok (Act.runAt_get w), loaded]
  rfl

/-- Once the settings are loaded, what remains to be prepared is the text of the feature file. -/
theorem prepare_runAt {settings : Settings} (loaded : settingsOf arguments w = .ok settings) :
    (prepare arguments).runAt w = match contentsOf arguments w with
      | .error error => (.error error, w.write resolvedLine)
      | .ok contents =>
        (.ok (settings, contents), (w.write resolvedLine).write (scanningLine arguments settings)) := by
  have same : (w.write resolvedLine).tree.readFeature arguments.featureFile = contentsOf arguments w := rfl
  unfold prepare
  rw [Act.runAt_bind_of_ok (loadSettings_of_ok loaded), Act.runAt_bind_of_ok (Act.runAt_get _), same]
  cases contentsOf arguments w <;> rfl

theorem prepare_of_noSettings {error : SuiteError}
    (failed : settingsOf arguments w = .error error) :
    (prepare arguments).runAt w = (.error error, w) :=
  Act.runAt_bind_of_error (loadSettings_of_error failed)

theorem prepare_of_noFeature {settings : Settings} {error : SuiteError}
    (loaded : settingsOf arguments w = .ok settings)
    (failed : contentsOf arguments w = .error error) :
    ∃ log, (prepare arguments).runAt w = (.error error, { w with log }) := by
  rw [prepare_runAt loaded, failed]
  exact ⟨_, rfl⟩

theorem prepare_of_read {settings : Settings} {contents : String}
    (loaded : settingsOf arguments w = .ok settings)
    (read : contentsOf arguments w = .ok contents) :
    ∃ log, (prepare arguments).runAt w = (.ok (settings, contents), { w with log }) := by
  rw [prepare_runAt loaded, read]
  exact ⟨_, rfl⟩

theorem run_of_notPrepared {error : SuiteError} {t : World}
    (failed : (prepare arguments).runAt w = (.error error, t)) :
    (run arguments).runAt w = (.error error, t) :=
  Act.runAt_bind_of_error failed

/-- Once all is prepared, a run is its scan, and one more log line if the scan succeeds. -/
theorem run_of_prepared {settings : Settings} {contents : String} {t : World}
    (prepared : (prepare arguments).runAt w = (.ok (settings, contents), t)) :
    ∃ ending u log, Scan.Followed (Plan.steps contents) (exchanges arguments w) ending ∧
      Scan.Performed settings.client.server settings.executorConfig.executor t (exchanges arguments w) u ∧
      (run arguments).runAt w =
        (ending.map fun _ => ({} : ScanState).outcome.afterAll (exchanges arguments w), { u with log }) := by
  have made : exchanges arguments w =
      Scan.exchanges settings.client.server settings.executorConfig.executor contents t := by
    unfold exchanges
    rw [prepared]
  obtain ⟨ending, u, followed, performed, scanned⟩ :=
    Scan.scanFeature_followed settings.client.server settings.executorConfig.executor contents t
  rw [← made] at followed performed scanned
  unfold run
  rw [Act.runAt_bind_of_ok prepared]
  cases ending with
  | error error => exact ⟨_, u, u.log, followed, performed, Act.runAt_bind_of_error scanned⟩
  | ok _ => exact ⟨_, u, _, followed, performed, Act.runAt_bind_of_ok scanned⟩

/-- The history of a run. Without settings or without a feature file nothing happens. Otherwise the exchanges of
the scan, which follow the plan of the file up to the first error, leave their events one after another; and if
no line has a directive, nothing happens. -/
theorem run_history (arguments : Arguments) (w : World) :
    (∀ error, settingsOf arguments w = .error error → (run arguments).runAt w = (.error error, w)) ∧
    (∀ settings error, settingsOf arguments w = .ok settings → contentsOf arguments w = .error error →
      ∃ log, (run arguments).runAt w = (.error error, { w with log })) ∧
    (∀ settings contents, settingsOf arguments w = .ok settings → contentsOf arguments w = .ok contents →
      settings.client.timeout ≠ 0 ∧
      (∃ log ending events u logLater, Scan.Followed (Plan.steps contents) (exchanges arguments w) ending ∧
        Exchange.Unfold settings { w with log } (exchanges arguments w) events u ∧
        (run arguments).runAt w =
          (ending.map fun _ => ({} : ScanState).outcome.afterAll (exchanges arguments w), { u with log := logLater }) ∧
        ((run arguments).runAt w).2.history = w.history ++ events) ∧
      ((∀ line ∈ Text.lines contents, ∀ kind lineNumber, directive? kind line lineNumber = .ok none) →
        ∃ log, (run arguments).runAt w = (.ok ({} : ScanState).outcome, { w with log }))) := by
  refine ⟨?_, ?_, fun settings contents loaded read => ?_⟩
  · intro error failed
    exact run_of_notPrepared (prepare_of_noSettings failed)
  · intro settings error loaded failed
    obtain ⟨log, prepared⟩ := prepare_of_noFeature loaded failed
    exact ⟨log, run_of_notPrepared prepared⟩
  · obtain ⟨log, prepared⟩ := prepare_of_read loaded read
    obtain ⟨ending, u, logLater, followed, performed, ran⟩ := run_of_prepared prepared
    refine ⟨Settings.timeout_ne_zero_of_load loaded, ?_, ?_⟩
    · obtain ⟨events, unfold⟩ := performed.unfold
      refine ⟨log, ending, events, u, logLater, followed, unfold, ran, ?_⟩
      rw [ran]
      exact unfold.history_eq
    · intro bare
      rw [ran]
      rw [Plan.steps_of_bare bare] at followed
      generalize exchanges arguments w = xs at followed performed
      cases followed with
      | finished =>
        cases performed with
        | nil => exact ⟨logLater, rfl⟩

end

end Suite

end ContractSuite
