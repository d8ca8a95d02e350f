import ContractSuite.Proofs.StepProgram
import ContractSuite.World.ServerScript

namespace ContractSuite

open World

/-- Holds when a program can be started at a site after all this, with these files. -/
def Site.canStart (site : Site) (past : List Event) (t : FileTree) (program : String) : Bool :=
  (({ site, tree := t, events := past } : World).launch program []).isOk

/-- Holds when a scenario has got as far as the launch of the step program: the directory for its report was there. -/
def Exchange.hasLaunch : Exchange → Bool
  | ⟨.runScenario _, .error (.io _ _)⟩ => false
  | ⟨.runScenario _, _⟩ => true
  | _ => false

/-- The attempt to start a step program. -/
def Event.isLaunch : Event → Bool
  | .attempted _ [] => true
  | _ => false

/-- What an exchange leaves: one launch of the step program if it gets as far as that and none otherwise, and for each
launch one start of the program, provided that it can be started. -/
structure Exchange.LeavesStarts (site : Site) (settings : Settings) (canStart : Bool) (x : Exchange)
    (events : List Event) : Prop where
  leaves : ∃ v u, v.site = site ∧ x.Leaves settings v events u
  launches : events.countP Event.isLaunch = if x.hasLaunch then 1 else 0
  starts : events.countP Event.isStepStart = if canStart then events.countP Event.isLaunch else 0

/-- Among these events no step program is launched. -/
def NoLaunch (events : List Event) : Prop :=
  ∀ event ∈ events, event.isLaunch = false ∧ event.isStepStart = false

namespace NoLaunch

variable {events : List Event}

theorem countP_isLaunch (quiet : NoLaunch events) : events.countP Event.isLaunch = 0 := by
  rw [List.countP_eq_zero]
  intro event member
  simp [(quiet event member).1]

theorem countP_isStepStart (quiet : NoLaunch events) : events.countP Event.isStepStart = 0 := by
  rw [List.countP_eq_zero]
  intro event member
  simp [(quiet event member).2]

theorem of_asked {client : ContractClient} {path : String} {parameters : List (String × String)}
    {next : Url → Response → Except SuiteError Unit} {site : Site} {past : List Event} {answer : Except SuiteError Unit}
    (asked : client.Asked path parameters next site past answer events) : NoLaunch events := by
  intro event inside
  rcases asked.eq_of_mem inside with ⟨_, rfl⟩ | ⟨_, rfl⟩ <;> exact ⟨rfl, rfl⟩

theorem of_waited {w : World} {program : Program} {arguments : List String} {budget : Nanoseconds}
    {result : Except OsError Supervision.WaitOutcome} (waited : Waited w program arguments budget result events) :
    NoLaunch events := by
  cases waited <;> simp [NoLaunch, Event.isLaunch, Event.isStepStart]

/-- The runner is started with arguments, a step program without. -/
theorem of_invocation {config : ExecutorConfig} {scenario : String} {w : World}
    {answer : Except SuiteError ScenarioStatus} (invoked : Executor.Invocation config scenario w answer events) :
    NoLaunch events := by
  have running {program : Program} {later : List Event} (quiet : NoLaunch later) :
      NoLaunch (.attempted config.runner (config.runnerArguments scenario) ::
        .started program (config.runnerArguments scenario) :: later) := by
    rintro event (_ | ⟨_, _ | ⟨_, member⟩⟩)
    · exact ⟨rfl, rfl⟩
    · exact ⟨rfl, rfl⟩
    · exact quiet event member
  cases invoked with
  | notStarted _ => simp [NoLaunch, ExecutorConfig.runnerArguments, Event.isLaunch, Event.isStepStart]
  | brokenOff _ _ waited => exact running (of_waited waited)
  | ended _ _ waited _ => exact running (of_waited waited)

end NoLaunch

namespace Executor

theorem hasLaunch_of_invocation {config : ExecutorConfig} {scenario : String} {w : World}
    {answer : Except SuiteError ScenarioStatus} {events : List Event}
    (invoked : Invocation config scenario w answer events) :
    Exchange.hasLaunch ⟨.runScenario scenario, answer⟩ = true := by
  cases invoked <;> rfl

/-- A launch starts the step program if it can be started. -/
theorem countP_of_started {program : String} {result : Except OsError Program} {events : List Event}
    (started : Started program [] result events) :
    events.countP Event.isLaunch = 1 ∧ events.countP Event.isStepStart = if result.isOk then 1 else 0 := by
  cases started <;> exact ⟨rfl, rfl⟩

/-- A scenario launches the step program once if the directory for its report is there. -/
theorem countP_of_outcome {config : ExecutorConfig} {scenario : String} {w : World}
    {answer : Except SuiteError ScenarioStatus} {events : List Event}
    (outcome : Outcome config scenario w answer events) :
    (events.countP Event.isLaunch = if Exchange.hasLaunch ⟨.runScenario scenario, answer⟩ then 1 else 0) ∧
      events.countP Event.isStepStart =
        if ((prepared config w).launch config.steps []).isOk then events.countP Event.isLaunch else 0 := by
  cases outcome with
  | noResults => exact ⟨rfl, (ite_self 0).symm⟩
  | notReady _ started =>
    obtain ⟨launches, starts⟩ := countP_of_started started
    rw [List.countP_append, List.countP_append, launches, starts]
    exact ⟨rfl, rfl⟩
  | @invoked _ _ probe _ _ later _ started _ _ isProbe _ invoked =>
    obtain ⟨launches, starts⟩ := countP_of_started started
    have quiet := NoLaunch.of_invocation invoked
    have probed : probe.countP Event.isLaunch = 0 ∧ probe.countP Event.isStepStart = 0 := by
      rw [isProbe]
      cases config.readiness <;> exact ⟨rfl, rfl⟩
    rw [hasLaunch_of_invocation invoked]
    simp only [List.countP_append]
    rw [launches, starts, probed.1, probed.2, quiet.countP_isLaunch, quiet.countP_isStepStart]
    exact ⟨rfl, rfl⟩

end Executor

namespace Exchange

variable {settings : Settings} {w u : World} {x : Exchange} {events : List Event}

theorem Leaves.tree_eq (leaves : x.Leaves settings w events u) :
    u.tree = w.tree ∨ u.tree = ((w.site.files w.events w.tree).ensureDirectory settings.resultsDir).1 := by
  cases leaves with
  | init _ continues => exact .inl continues.tree_eq
  | run _ continues => exact .inr continues.tree_eq
  | check _ continues => exact .inl continues.tree_eq

theorem Leaves.leavesStarts {canStart : Bool} (leaves : x.Leaves settings w events u)
    (can : ∀ past, w.site.canStart past ((w.site.files w.events w.tree).ensureDirectory settings.resultsDir).1
      settings.steps = canStart) : x.LeavesStarts w.site settings canStart events := by
  suffices told : (events.countP Event.isLaunch = if x.hasLaunch then 1 else 0) ∧
      events.countP Event.isStepStart = if canStart then events.countP Event.isLaunch else 0 from
    ⟨⟨w, u, rfl, leaves⟩, told.1, told.2⟩
  have quiet (noLaunch : NoLaunch events) (noScenario : x.hasLaunch = false) :
      (events.countP Event.isLaunch = if x.hasLaunch then 1 else 0) ∧
        events.countP Event.isStepStart = if canStart then events.countP Event.isLaunch else 0 := by
    rw [noScenario, noLaunch.countP_isLaunch, noLaunch.countP_isStepStart]
    exact ⟨rfl, (ite_self 0).symm⟩
  cases leaves with
  | init asked _ => exact quiet (.of_asked asked) rfl
  | check asked _ => exact quiet (.of_asked asked) rfl
  | run outcome _ =>
    obtain ⟨launches, starts⟩ := Executor.countP_of_outcome outcome
    have same : ((Executor.prepared settings.executorConfig w).launch settings.executorConfig.steps []).isOk =
        canStart := can (Executor.prepared settings.executorConfig w).events
    have noLaunch : ¬Event.isLaunch (.ensured settings.resultsDir) = true := Bool.false_ne_true
    have noStart : ¬Event.isStepStart (.ensured settings.resultsDir) = true := Bool.false_ne_true
    rw [same] at starts
    exact ⟨(List.countP_cons_of_neg noLaunch).trans launches, by
      rw [List.countP_cons_of_neg noStart, List.countP_cons_of_neg noLaunch, starts]⟩

/-- Exchanges leave their starts one after another, while a condition on files holds under which the step program can
be started or not. -/
theorem Unfold.leavesStarts {site : Site} {holds : FileTree → Prop} {canStart : Bool} {xs : List Exchange}
    (keeps : ∀ past t, holds t → holds ((site.files past t).ensureDirectory settings.resultsDir).1)
    (can : ∀ past past' t, holds t →
      site.canStart past' ((site.files past t).ensureDirectory settings.resultsDir).1 settings.steps = canStart)
    (unfold : Unfold settings w xs events u) (here : w.site = site) (start : holds w.tree) :
    ∃ told : List (Exchange × List Event), told.map Prod.fst = xs ∧ (told.map Prod.snd).flatten = events ∧
      ∀ x events, (x, events) ∈ told → x.LeavesStarts site settings canStart events := by
  induction unfold with
  | nil => exact ⟨[], rfl, rfl, by simp⟩
  | @cons w v _ x xs events more leaves _ ih =>
    subst here
    have stays : holds v.tree := by
      rcases leaves.tree_eq with same | ensured
      · exact same ▸ start
      · exact ensured ▸ keeps _ _ start
    obtain ⟨told, whole, added, fits⟩ := ih leaves.site_eq stays
    have first := leaves.leavesStarts fun past => can _ past _ start
    refine ⟨(x, events) :: told, congrArg (x :: ·) whole, congrArg (events ++ ·) added, ?_⟩
    rintro y later (_ | ⟨_, member⟩)
    · exact first
    · exact fits y later member

end Exchange

namespace Suite

variable {arguments : Arguments} {settings : Settings} {w : World}

/-- The events of a run are those of its exchanges, each of which starts the step program once if it gets as far as
the launch and the program can be started. -/
def StartsSteps (arguments : Arguments) (w : World) (settings : Settings) (canStart : Bool) : Prop :=
  ∃ told : List (Exchange × List Event), told.map Prod.fst = exchanges arguments w ∧
    ((run arguments).runAt w).2.history = w.history ++ (told.map Prod.snd).flatten ∧
    ∀ x events, (x, events) ∈ told → x.LeavesStarts w.site settings canStart events

theorem startsSteps (holds : FileTree → Prop) {canStart : Bool} (loaded : settingsOf arguments w = .ok settings)
    (start : holds w.tree)
    (keeps : ∀ past t, holds t → holds ((w.site.files past t).ensureDirectory settings.resultsDir).1)
    (can : ∀ past past' t, holds t →
      w.site.canStart past' ((w.site.files past t).ensureDirectory settings.resultsDir).1 settings.steps = canStart) :
    StartsSteps arguments w settings canStart := by
  cases read : contentsOf arguments w with
  | error error =>
    have prepared := prepare_runAt loaded
    rw [read] at prepared
    refine ⟨[], ?_, ?_, by simp⟩
    · unfold exchanges
      rw [prepared]
      rfl
    · rw [run_of_notPrepared prepared]
      exact (List.append_nil _).symm
  | ok contents =>
    obtain ⟨log, prepared⟩ := prepare_of_read loaded read
    obtain ⟨ending, u, later, _, performed, ran⟩ := run_of_prepared prepared
    obtain ⟨events, unfold⟩ := performed.unfold
    obtain ⟨told, whole, added, fits⟩ := unfold.leavesStarts keeps can rfl start
    refine ⟨told, whole, ?_, fits⟩
    rw [ran, added]
    exact unfold.history_eq

/-- The step program goes unnoticed. If two worlds differ only in what comes of starting it, a run answers alike in
both, whether with an outcome or with an error, sends the same requests, runs the runner with the same arguments and
makes the same exchanges; and the worlds that it leaves behind differ only in the step programs that were started. Each
scenario that gets as far as the launch starts the program once where it can be started, and otherwise not at all. -/
theorem run_overlooks_steps {related : FileTree → FileTree → Prop} {w' : World} {canStart canStart' : Bool}
    (loaded : settingsOf arguments w = .ok settings) (loaded' : settingsOf arguments w' = .ok settings)
    (unprobed : settings.stepsReadyAddress = none) (read : contentsOf arguments w' = contentsOf arguments w)
    (alike : w.AlikeBesidesSteps settings related w')
    (can : ∀ past t t', related t t' →
      w.site.canStart past (t.ensureDirectory settings.resultsDir).1 settings.steps = canStart)
    (can' : ∀ past t t', related t t' →
      w'.site.canStart past (t'.ensureDirectory settings.resultsDir).1 settings.steps = canStart') :
    ((run arguments).runAt w').1 = ((run arguments).runAt w).1 ∧
    ((run arguments).runAt w').2.requests = ((run arguments).runAt w).2.requests ∧
    ((run arguments).runAt w').2.runnerCalls = ((run arguments).runAt w).2.runnerCalls ∧
    exchanges arguments w' = exchanges arguments w ∧
    ((run arguments).runAt w).2.AlikeBesidesSteps settings related ((run arguments).runAt w').2 ∧
    StartsSteps arguments w settings canStart ∧ StartsSteps arguments w' settings canStart' := by
  obtain ⟨same, stays⟩ := run_agree loaded loaded' read unprobed alike
  have files (past : List Event) {t t' : FileTree} (relation : related t t') :
      related (w.site.files past t) (w'.site.files past t') := by
    rw [alike.site.rest]
    exact alike.site.files past past t t' rfl relation
  refine ⟨same, stays.requests_eq, stays.runnerCalls_eq, exchanges_agree loaded loaded' read unprobed alike, stays,
    ?_, ?_⟩
  · refine startsSteps (fun t => ∃ t', related t t') loaded ⟨_, alike.tree⟩ ?_ ?_
    · exact fun past t ⟨t', relation⟩ => ⟨_, (alike.site.ensure _ _ (files past relation)).2⟩
    · exact fun past past' t ⟨t', relation⟩ => can past' _ _ (files past relation)
  · refine startsSteps (fun t' => ∃ t, related t t') loaded' ⟨_, alike.tree⟩ ?_ ?_
    · exact fun past t' ⟨t, relation⟩ => ⟨_, (alike.site.ensure _ _ (files past relation)).2⟩
    · exact fun past past' t' ⟨t, relation⟩ => can' past' _ _ (files past relation)

/-- A script does not depend on the step programs that have been started. -/
theorem ignoresSteps_reactAt (script : ServerScript) (isServed : Url → Bool) :
    IgnoresSteps (script.reactAt isServed) := by
  intro past
  funext url
  unfold ServerScript.reactAt
  rw [filterMap_withoutSteps (fun event start => by cases event <;> first | rfl | cases start) past]

/-- Files for a suite of two scenarios, with or without the step program. -/
def stagedTree (hasSteps : Bool) : FileTree where
  nodes := [(["a.feature"], .file "@contract=pay Scenario: card\nScenario: cash".toUTF8.toList),
    (["results"], .directory), (["usr"], .directory), (["usr", "bin"], .directory),
    (["usr", "bin", "cucumber"], .program .runner)] ++ if hasSteps then [(["steps"], .program .steps)] else []

/-- There a script is served at every address, and the runner fails once it has been run before. -/
def stagedWorld (hasSteps : Bool) : World where
  site := {
    react := ServerScript.reactAt [("/init", [.answer {}, .silence])] fun _ => true
    launch := fun _ t program _ => t.findProgram program
    conduct := fun past _ => ⟨some 0, .code (past.filterMap Event.end?).length⟩ }
  tree := stagedTree hasSteps

/-- Whether the step program is among the files makes no difference. -/
theorem run_overlooks_steps_staged :
    settingsOf { featureFile := "a.feature" } (stagedWorld true) = .ok {} ∧
    ((run { featureFile := "a.feature" }).runAt (stagedWorld false)).1 =
      ((run { featureFile := "a.feature" }).runAt (stagedWorld true)).1 ∧
    StartsSteps { featureFile := "a.feature" } (stagedWorld true) {} true ∧
    StartsSteps { featureFile := "a.feature" } (stagedWorld false) {} false := by
  have loaded (hasSteps : Bool) : settingsOf { featureFile := "a.feature" } (stagedWorld hasSteps) = .ok {} :=
    eq_ok_of_toOption (by revert hasSteps; decide +kernel)
  have read (hasSteps : Bool) : contentsOf { featureFile := "a.feature" } (stagedWorld hasSteps) =
      .ok "@contract=pay Scenario: card\nScenario: cash" :=
    eq_ok_of_toOption (by revert hasSteps; decide +kernel)
  have stands (hasSteps : Bool) : (stagedTree hasSteps).ensureDirectory "results" = (stagedTree hasSteps, .ok ()) := by
    have opened : (stagedTree hasSteps).openDirectory "results" = .ok ["results"] :=
      eq_ok_of_toOption (by revert hasSteps; decide +kernel)
    unfold FileTree.ensureDirectory
    rw [opened]
  have runner (hasSteps : Bool) : (stagedTree hasSteps).findProgram "cucumber" = .ok .runner :=
    eq_ok_of_toOption (by revert hasSteps; decide +kernel)
  have react : IgnoresSteps (stagedWorld true).site.react :=
    ignoresSteps_reactAt [("/init", [.answer {}, .silence])] fun _ => true
  have conduct : IgnoresSteps (stagedWorld true).site.conduct := by
    intro past
    have ends : (withoutSteps past).filterMap Event.end? = past.filterMap Event.end? :=
      filterMap_withoutSteps (fun event start => by cases event <;> first | rfl | cases start) past
    unfold stagedWorld
    dsimp only
    rw [ends]
  have alike : (stagedWorld true).AlikeBesidesSteps {}
      (fun t t' => t = stagedTree true ∧ t' = stagedTree false) (stagedWorld false) := by
    refine ⟨⟨rfl, react, conduct, fun _ => rfl, fun _ => rfl, ?_, ?_, ?_⟩, ⟨rfl, rfl⟩, rfl, rfl⟩
    · exact fun _ _ _ _ _ relation => relation
    · rintro _ _ ⟨rfl, rfl⟩
      exact ⟨by rw [stands, stands], congrArg Prod.fst (stands true), congrArg Prod.fst (stands false)⟩
    · rintro _ _ _ _ _ _ ⟨rfl, rfl⟩
      exact (runner false).trans (runner true).symm
  have can (hasSteps : Bool) (past : List Event) : (stagedWorld hasSteps).site.canStart past
      ((stagedTree hasSteps).ensureDirectory "results").1 "./steps" = hasSteps := by
    have same : (stagedWorld hasSteps).site.canStart [] (stagedTree hasSteps) "./steps" = hasSteps := by
      revert hasSteps
      decide +kernel
    rw [stands]
    exact same
  obtain ⟨same, _, _, _, _, starts, noStarts⟩ := run_overlooks_steps (loaded true) (loaded false) rfl
    ((read false).trans (read true).symm) alike (fun past t t' ⟨here, _⟩ => here ▸ can true past)
    (fun past t t' ⟨_, here⟩ => here ▸ can false past)
  exact ⟨loaded true, same, starts, noStarts⟩

end Suite

end ContractSuite
