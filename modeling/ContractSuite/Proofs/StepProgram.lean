import ContractSuite.Proofs.Agreement
import ContractSuite.Proofs.SuiteEvents

namespace ContractSuite

/-- The start of a step program. It has no arguments, which the runner always has. -/
def Event.isStepStart : Event → Bool
  | .started _ [] => true
  | _ => false

/-- The arguments of a run of the runner. -/
def Event.runnerCall? : Event → Option (List String)
  | .started _ (argument :: more) => some (argument :: more)
  | _ => none

/-- The arguments with which the runner has been started, in order. -/
def World.runnerCalls (w : World) : List (List String) :=
  w.events.reverse.filterMap Event.runnerCall?

/-- A line about the launch of a step program. -/
def Log.Line.isOfLaunch (line : Log.Line) : Bool :=
  line.message == "step process launched" || line.message == "failed to launch step process"

/-- All that has happened but the starts of step programs. -/
def withoutSteps (past : List Event) : List Event :=
  past.filter (!·.isStepStart)

/-- Holds when a behaviour does not depend on the step programs that have been started. -/
def IgnoresSteps {α : Type} (behaviour : List Event → α) : Prop :=
  ∀ past, behaviour (withoutSteps past) = behaviour past

theorem IgnoresSteps.eq {α : Type} {behaviour : List Event → α} (ignores : IgnoresSteps behaviour)
    {past past' : List Event} (same : withoutSteps past' = withoutSteps past) : behaviour past' = behaviour past := by
  rw [← ignores past', same, ignores past]

/-- What is drawn from the events without regard to step programs does not depend on them. -/
theorem filterMap_withoutSteps {α : Type} {f : Event → Option α}
    (blind : ∀ event, event.isStepStart = true → f event = none) (past : List Event) :
    (withoutSteps past).filterMap f = past.filterMap f := by
  unfold withoutSteps
  rw [List.filterMap_filter]
  congr 1
  funext event
  cases start : event.isStepStart with
  | true => simp [blind event start]
  | false => simp

/-- Sites at which nothing differs but what comes of starting the step program, with files that differ at most as the
relation says. Whatever else happens there does not depend on the step programs that have been started: others do the
same to the files, the directory for reports is seen to alike, and the runner is started alike. -/
structure Site.AlikeBesidesSteps (settings : Settings) (related : FileTree → FileTree → Prop) (site site' : Site) :
    Prop where
  rest : site' = { site with launch := site'.launch }
  react : IgnoresSteps site.react
  conduct : IgnoresSteps site.conduct
  fault : IgnoresSteps site.fault
  lag : IgnoresSteps site.lag
  files : ∀ past past' t t', withoutSteps past' = withoutSteps past → related t t' →
    related (site.files past t) (site.files past' t')
  ensure : ∀ t t', related t t' →
    (t'.ensureDirectory settings.resultsDir).2 = (t.ensureDirectory settings.resultsDir).2 ∧
      related (t.ensureDirectory settings.resultsDir).1 (t'.ensureDirectory settings.resultsDir).1
  runner : ∀ past past' t t' arguments, withoutSteps past' = withoutSteps past → related t t' →
    site'.launch past' t' settings.runner arguments = site.launch past t settings.runner arguments

/-- Worlds that differ only in the step programs that have been started, and in their files as the relation says. -/
structure World.AlikeBesidesSteps (settings : Settings) (related : FileTree → FileTree → Prop) (w w' : World) :
    Prop where
  site : w.site.AlikeBesidesSteps settings related w'.site
  tree : related w.tree w'.tree
  events : withoutSteps w'.events = withoutSteps w.events
  log : w'.log.filter (!·.isOfLaunch) = w.log.filter (!·.isOfLaunch)

namespace World.AlikeBesidesSteps

variable {settings : Settings} {related : FileTree → FileTree → Prop} {w w' : World}

theorem record (alike : w.AlikeBesidesSteps settings related w') (event : Event) :
    (w.record event).AlikeBesidesSteps settings related (w'.record event) where
  site := alike.site
  tree := alike.tree
  events := by
    have same := alike.events
    unfold withoutSteps at same ⊢
    unfold World.record
    rw [List.filter_cons, List.filter_cons, same]
  log := alike.log

theorem write (alike : w.AlikeBesidesSteps settings related w') (line : Log.Line) :
    (w.write line).AlikeBesidesSteps settings related (w'.write line) where
  site := alike.site
  tree := alike.tree
  events := alike.events
  log := by
    unfold World.write
    rw [List.filter_cons, List.filter_cons, alike.log]

theorem filterMap_events {α : Type} (alike : w.AlikeBesidesSteps settings related w') {f : Event → Option α}
    (blind : ∀ event, event.isStepStart = true → f event = none) :
    w'.events.reverse.filterMap f = w.events.reverse.filterMap f := by
  rw [List.filterMap_reverse, List.filterMap_reverse, ← filterMap_withoutSteps blind, alike.events,
    filterMap_withoutSteps blind]

theorem requests_eq (alike : w.AlikeBesidesSteps settings related w') : w'.requests = w.requests := by
  refine alike.filterMap_events fun event start => ?_
  cases event <;> first | rfl | cases start

theorem runnerCalls_eq (alike : w.AlikeBesidesSteps settings related w') : w'.runnerCalls = w.runnerCalls := by
  refine alike.filterMap_events fun event start => ?_
  cases event with
  | started program arguments => cases arguments <;> first | rfl | cases start
  | _ => rfl

theorem react_eq (alike : w.AlikeBesidesSteps settings related w') :
    w'.site.react w'.events = w.site.react w.events := by
  rw [alike.site.rest]
  exact alike.site.react.eq alike.events

theorem waitFor_eq (alike : w.AlikeBesidesSteps settings related w') : w'.waitFor = w.waitFor := by
  have conduct : w'.site.conduct w'.events = w.site.conduct w.events := by
    rw [alike.site.rest]
    exact alike.site.conduct.eq alike.events
  have lag : w'.site.lag w'.events = w.site.lag w.events := by
    rw [alike.site.rest]
    exact alike.site.lag.eq alike.events
  unfold World.waitFor
  rw [conduct, lag]

theorem waitFailure?_eq (alike : w.AlikeBesidesSteps settings related w') : w'.waitFailure? = w.waitFailure? := by
  have fault : w'.site.fault w'.events = w.site.fault w.events := by
    rw [alike.site.rest]
    exact alike.site.fault.eq alike.events
  unfold World.waitFailure?
  rw [alike.waitFor_eq, fault]

theorem launch_runner (alike : w.AlikeBesidesSteps settings related w') (arguments : List String) :
    w'.launch settings.runner arguments = w.launch settings.runner arguments := by
  unfold World.launch
  rw [alike.site.runner w.events w'.events w.tree w'.tree arguments alike.events alike.tree]

theorem files (alike : w.AlikeBesidesSteps settings related w') :
    related (w.site.files w.events w.tree) (w'.site.files w'.events w'.tree) := by
  rw [alike.site.rest]
  exact alike.site.files w.events w'.events w.tree w'.tree alike.events alike.tree

end World.AlikeBesidesSteps

/-- An action that does not see which step programs are started. -/
abbrev Act.Overlooks {α : Type} (settings : Settings) (related : FileTree → FileTree → Prop) (act : Act World α) :
    Prop :=
  Act.Agree (World.AlikeBesidesSteps settings related) act act

open Act World

variable {settings : Settings} {related : FileTree → FileTree → Prop}

theorem note_overlooks (event : Event) : (note event).Overlooks settings related :=
  .change fun _ _ alike => alike.record event

theorem say_overlooks (level : Log.Level) (target message : String) (fields : List (String × String)) :
    (say level target message fields).Overlooks settings related :=
  .change fun _ _ alike => alike.write ⟨level, target, message, fields⟩

namespace ContractClient

theorem request_overlooks (url : Url) : (request url).Overlooks settings related := by
  unfold request
  refine .get fun w w' alike => ?_
  rw [alike.react_eq]
  exact Agree.bind (note_overlooks _) (fun _ => .pure _) w w' alike

theorem follow_overlooks (redirects : Nat) (url : Url) : (follow redirects url).Overlooks settings related := by
  induction redirects generalizing url with
  | zero =>
    unfold follow
    refine .bind (request_overlooks url) fun reaction => ?_
    cases verdict url reaction <;> exact .pure _
  | succ redirects ih =>
    unfold follow
    refine .bind (request_overlooks url) fun reaction => ?_
    cases verdict url reaction with
    | final response => exact .pure _
    | failure => exact .pure _
    | moved next => exact ih next

theorem fetch_overlooks (client : ContractClient) (url : Url) : (client.fetch url).Overlooks settings related := by
  unfold fetch
  refine .bind (note_overlooks _) fun _ => .bind (say_overlooks _ _ _ _) fun _ => ?_
  dsimp only
  split
  · exact .bind (.pure none) fun _ => .lift _
  · exact .bind (follow_overlooks redirectLimit url) fun _ => .lift _

theorem initContract_overlooks (client : ContractClient) (contract : String) :
    (client.initContract contract).Overlooks settings related :=
  .bind (.lift _) fun url => .bind (fetch_overlooks client url) fun _ => say_overlooks _ _ _ _

theorem checkExpectations_overlooks (client : ContractClient) : client.checkExpectations.Overlooks settings related :=
  .bind (.lift _) fun url => .bind (fetch_overlooks client url) fun _ => .bind (.lift _) fun _ => say_overlooks _ _ _ _

end ContractClient

namespace Executor

theorem ensureResults_overlooks : (ensureResults settings.resultsDir).Overlooks settings related := by
  intro w w' alike
  obtain ⟨same, stays⟩ := alike.site.ensure _ _ alike.files
  have noted := alike.record (.ensured settings.resultsDir)
  have run (u : World) : (ensureResults settings.resultsDir).runAt u =
      (preparation settings.executorConfig u, prepared settings.executorConfig u) :=
    ensureResults_runAt settings.executorConfig u
  unfold AgreeAt
  rw [run, run]
  exact ⟨same, noted.site, stays, noted.events, noted.log⟩

/-- Nothing but its start and a log line tell what comes of launching the step program. -/
theorem launchSteps_sifted (program : String) (w : World) :
    ∃ u, (launchSteps program).runAt w = (.ok (), u) ∧ u.site = w.site ∧ u.tree = w.tree ∧
      withoutSteps u.events = .attempted program [] :: withoutSteps w.events ∧
      u.log.filter (!·.isOfLaunch) = w.log.filter (!·.isOfLaunch) := by
  cases launched : w.launch program [] with
  | error error => exact ⟨_, launchSteps_runAt_of_error launched, rfl, rfl, rfl, rfl⟩
  | ok found => exact ⟨_, launchSteps_runAt_of_ok launched, rfl, rfl, rfl, rfl⟩

theorem launchSteps_overlooks : (launchSteps settings.steps).Overlooks settings related := by
  intro w w' alike
  obtain ⟨u, run, site, tree, events, log⟩ := launchSteps_sifted settings.steps w
  obtain ⟨u', run', site', tree', events', log'⟩ := launchSteps_sifted settings.steps w'
  unfold AgreeAt
  rw [run, run']
  refine ⟨rfl, ?_, ?_, ?_, ?_⟩
  · rw [site, site']
    exact alike.site
  · rw [tree, tree']
    exact alike.tree
  · rw [events, events', alike.events]
  · rw [log, log', alike.log]

theorem start_overlooks (arguments : List String) :
    (World.start settings.runner arguments).Overlooks settings related := by
  unfold World.start
  refine .get fun w w' alike => ?_
  rw [alike.launch_runner]
  refine Agree.bind (note_overlooks _) (fun _ => ?_) w w' alike
  cases w.launch settings.runner arguments with
  | error error => exact .pure _
  | ok found => exact .bind (note_overlooks _) fun _ => .pure _

theorem await_overlooks (program : Program) (arguments : List String) (budget : Nanoseconds) :
    (World.await program arguments budget).Overlooks settings related := by
  unfold World.await
  refine .get fun w w' alike => ?_
  rw [alike.waitFor_eq, alike.waitFailure?_eq]
  have killing {α : Type} {rest : Act World α} (isKilled : Bool) (overlooks : rest.Overlooks settings related) :
      (if isKilled then note (.killed program) >>= fun _ => rest else rest).Overlooks settings related := by
    cases isKilled with
    | false => exact overlooks
    | true => exact .bind (note_overlooks _) fun _ => overlooks
  cases w.waitFailure? program budget with
  | some failure => exact killing _ (.pure _) w w' alike
  | none => exact killing _ (.bind (note_overlooks _) fun _ => .pure _) w w' alike

theorem report_overlooks (config : ExecutorConfig) (scenario : String) (status : ScenarioStatus) :
    (report config scenario status).Overlooks settings related := by
  cases status <;> exact say_overlooks _ _ _ _

theorem invokeRunner_overlooks (scenario : String) :
    (invokeRunner settings.executorConfig scenario).Overlooks settings related := by
  unfold invokeRunner
  refine .bind (start_overlooks _) fun result => ?_
  cases result with
  | error error => exact .throw _
  | ok program =>
    refine .bind (await_overlooks _ _ _) fun result => ?_
    cases result with
    | error error => exact .throw _
    | ok outcome => exact .pure _

theorem run_overlooks (unprobed : settings.stepsReadyAddress = none) (scenario : String) :
    (run settings.executorConfig scenario).Overlooks settings related := by
  have noReadiness : settings.executorConfig.readiness = none := by
    unfold Settings.executorConfig
    rw [unprobed]
    rfl
  unfold run
  rw [noReadiness]
  refine .bind ensureResults_overlooks fun _ => .bind launchSteps_overlooks fun _ => ?_
  refine .bind (say_overlooks _ _ _ _) fun _ => .bind (invokeRunner_overlooks scenario) fun status => ?_
  exact .bind (report_overlooks _ _ _) fun _ => .pure status

end Executor

theorem Scan.perform_overlooks (unprobed : settings.stepsReadyAddress = none) (call : Call) :
    (perform settings.client.server settings.executorConfig.executor call).Overlooks settings related := by
  cases call with
  | initContract name =>
    exact .bind (say_overlooks _ _ _ _) fun _ => ContractClient.initContract_overlooks settings.client name
  | runScenario name => exact .bind (say_overlooks _ _ _ _) fun _ => Executor.run_overlooks unprobed name
  | checkExpectations => exact ContractClient.checkExpectations_overlooks settings.client

namespace Suite

variable {arguments : Arguments} {w w' : World}

theorem settings_of_prepared {prepared : Settings} {contents : String}
    (loaded : settingsOf arguments w = .ok settings)
    (answered : ((prepare arguments).runAt w).1 = .ok (prepared, contents)) : prepared = settings := by
  rw [prepare_runAt loaded] at answered
  cases read : contentsOf arguments w with
  | error error =>
    rw [read] at answered
    cases answered
  | ok found =>
    rw [read] at answered
    cases answered
    rfl

theorem prepare_agree (loaded : settingsOf arguments w = .ok settings)
    (loaded' : settingsOf arguments w' = .ok settings)
    (read : contentsOf arguments w' = contentsOf arguments w) (alike : w.AlikeBesidesSteps settings related w') :
    AgreeAt (World.AlikeBesidesSteps settings related) (prepare arguments) (prepare arguments) w w' := by
  have resolved := alike.write resolvedLine
  unfold AgreeAt
  rw [prepare_runAt loaded, prepare_runAt loaded', read]
  cases contentsOf arguments w with
  | error error => exact ⟨rfl, resolved⟩
  | ok contents => exact ⟨rfl, resolved.write (scanningLine arguments settings)⟩

theorem run_agree (loaded : settingsOf arguments w = .ok settings) (loaded' : settingsOf arguments w' = .ok settings)
    (read : contentsOf arguments w' = contentsOf arguments w) (unprobed : settings.stepsReadyAddress = none)
    (alike : w.AlikeBesidesSteps settings related w') :
    AgreeAt (World.AlikeBesidesSteps settings related) (run arguments) (run arguments) w w' := by
  refine (prepare_agree loaded loaded' read alike).bind fun ⟨prepared, contents⟩ answered => ?_
  obtain rfl := settings_of_prepared loaded answered
  dsimp only
  refine .bind (Scan.scanFeature_agree (Scan.perform_overlooks unprobed) contents) fun outcome => ?_
  exact .bind (say_overlooks _ _ _ _) fun _ => .pure outcome

theorem exchanges_agree (loaded : settingsOf arguments w = .ok settings)
    (loaded' : settingsOf arguments w' = .ok settings) (read : contentsOf arguments w' = contentsOf arguments w)
    (unprobed : settings.stepsReadyAddress = none) (alike : w.AlikeBesidesSteps settings related w') :
    exchanges arguments w' = exchanges arguments w := by
  obtain ⟨_, stays⟩ := prepare_agree loaded loaded' read alike
  unfold exchanges
  rw [prepare_runAt loaded, prepare_runAt loaded', read] at stays ⊢
  cases found : contentsOf arguments w with
  | error error => rfl
  | ok contents =>
    rw [found] at stays
    exact Scan.exchanges_agree (Scan.perform_overlooks unprobed) contents stays

end Suite

end ContractSuite
