import ContractSuite.Proofs.Act
import ContractSuite.World.Programs

namespace ContractSuite

/-- The program that an event tells to be a new step program: it is started without arguments. -/
def Event.stepLaunched? : Event → Option Program
  | .started program [] => some program
  | _ => none

namespace World

/-- What has happened in a world, in order. -/
def history (w : World) : List Event :=
  w.events.reverse

@[simp] theorem history_record (event : Event) (w : World) : (w.record event).history = w.history ++ [event] :=
  List.reverse_cons

theorem note_runAt (event : Event) (w : World) : (note event).runAt w = (.ok (), w.record event) := rfl

theorem say_runAt (level : Log.Level) (target message : String) (fields : List (String × String)) (w : World) :
    (say level target message fields).runAt w = (.ok (), w.write ⟨level, target, message, fields⟩) := rfl

/-- A world to which events have led, all of whose new step programs are in the background. Its log is left open. -/
structure Continues (w : World) (events : List Event) (u : World) : Prop where
  site_eq : u.site = w.site
  tree_eq : u.tree = w.tree
  history_eq : u.history = w.history ++ events
  background_eq : u.background = w.background ++ events.filterMap Event.stepLaunched?

namespace Continues

variable {w u v : World} {events first second : List Event}

theorem refl (w : World) : w.Continues [] w :=
  ⟨rfl, rfl, (List.append_nil _).symm, (List.append_nil _).symm⟩

theorem write (w : World) (line : Log.Line) : w.Continues [] (w.write line) :=
  ⟨rfl, rfl, (List.append_nil _).symm, (List.append_nil _).symm⟩

theorem record (w : World) {event : Event} (noLaunch : event.stepLaunched? = none) :
    w.Continues [event] (w.record event) where
  site_eq := rfl
  tree_eq := rfl
  history_eq := history_record event w
  background_eq := by
    rw [List.filterMap_cons_none noLaunch]
    exact (List.append_nil _).symm

theorem trans (before : w.Continues first u) (after : u.Continues second v) : w.Continues (first ++ second) v where
  site_eq := after.site_eq.trans before.site_eq
  tree_eq := after.tree_eq.trans before.tree_eq
  history_eq := by rw [after.history_eq, before.history_eq, List.append_assoc]
  background_eq := by rw [after.background_eq, before.background_eq, List.append_assoc, List.filterMap_append]

/-- What the behaviours of the site depend on: the past, with the latest event first. -/
theorem events_eq (continues : w.Continues events u) : u.events = events.reverse ++ w.events := by
  have same := congrArg List.reverse continues.history_eq
  unfold history at same
  rwa [List.reverse_append, List.reverse_reverse, List.reverse_reverse] at same

theorem of_write {line : Log.Line} (continues : (w.write line).Continues events u) : w.Continues events u :=
  ⟨continues.site_eq, continues.tree_eq, continues.history_eq, continues.background_eq⟩

end Continues

end World

/-- Holds when an action answers this and leaves these events. -/
def Act.Leads {α : Type} (act : Act World α) (w : World) (answer : Except SuiteError α) (events : List Event) : Prop :=
  ∃ u, act.runAt w = (answer, u) ∧ w.Continues events u

namespace Act.Leads

variable {α β : Type} {w : World}

theorem pure (a : α) : (Pure.pure a : Act World α).Leads w (.ok a) [] :=
  ⟨w, runAt_pure a w, .refl w⟩

theorem throw (error : SuiteError) : (MonadExcept.throw error : Act World α).Leads w (.error error) [] :=
  ⟨w, runAt_throw error w, .refl w⟩

theorem lift (x : Except SuiteError α) : (liftM x : Act World α).Leads w x [] :=
  ⟨w, runAt_lift x w, .refl w⟩

theorem note {event : Event} (noLaunch : event.stepLaunched? = none) : (World.note event).Leads w (.ok ()) [event] :=
  ⟨w.record event, World.note_runAt event w, .record w noLaunch⟩

theorem say (level : Log.Level) (target message : String) (fields : List (String × String)) :
    (World.say level target message fields).Leads w (.ok ()) [] :=
  ⟨_, World.say_runAt level target message fields w, .write w _⟩

theorem after {act : Act World α} {next : α → Act World β} {a : α} {answer : Except SuiteError β}
    {first second : List Event} {u : World} (run : act.runAt w = (.ok a, u)) (before : w.Continues first u)
    (more : (next a).Leads u answer second) : (act >>= next).Leads w answer (first ++ second) := by
  obtain ⟨v, runNext, after⟩ := more
  exact ⟨v, (runAt_bind_of_ok run).trans runNext, before.trans after⟩

theorem bind {act : Act World α} {next : α → Act World β} {a : α} {answer : Except SuiteError β}
    {first second : List Event} (leads : act.Leads w (.ok a) first)
    (more : ∀ u, w.Continues first u → (next a).Leads u answer second) :
    (act >>= next).Leads w answer (first ++ second) := by
  obtain ⟨u, run, before⟩ := leads
  exact after run before (more u before)

/-- An action may be followed by what leaves no events. -/
theorem bind_quiet {act : Act World α} {next : α → Act World β} {a : α} {answer : Except SuiteError β}
    {events : List Event} (leads : act.Leads w (.ok a) events) (quiet : ∀ u, (next a).Leads u answer []) :
    (act >>= next).Leads w answer events := by
  have told := leads.bind fun u _ => quiet u
  rwa [List.append_nil] at told

theorem bind_error {act : Act World α} {next : α → Act World β} {error : SuiteError} {events : List Event}
    (leads : act.Leads w (.error error) events) : (act >>= next).Leads w (.error error) events := by
  obtain ⟨u, run, continues⟩ := leads
  exact ⟨u, runAt_bind_of_error run, continues⟩

theorem get {next : World → Act World α} {answer : Except SuiteError α} {events : List Event}
    (leads : (next w).Leads w answer events) : (MonadState.get >>= next).Leads w answer events := by
  obtain ⟨u, run, continues⟩ := leads
  exact ⟨u, (runAt_bind_of_ok (runAt_get w)).trans run, continues⟩

end Act.Leads

namespace Supervision.Child

theorem kill_mem_waitFrom (child : Child) (lag : Nat → Nat) (budget seen now : Nat) :
    .kill ∈ (child.waitFrom lag budget seen now).actions ↔
      (child.waitFrom lag budget seen now).outcome = .timedOut := by
  fun_induction child.waitFrom lag budget seen now with
  | case1 => simp
  | case2 =>
    unfold giveUp
    split <;> simp [Wait.after]
  | case3 _ _ _ _ _ _ ih =>
    rw [Wait.outcome_after, ← ih]
    simp [Wait.after]

/-- A wait kills the program exactly if it gives it up. -/
theorem kill_mem_wait (child : Child) (lag : Nat → Nat) (budget : Nat) :
    .kill ∈ (child.wait lag budget).actions ↔ (child.wait lag budget).outcome = .timedOut :=
  child.kill_mem_waitFrom lag budget 0 0

end Supervision.Child

namespace World

/-- The events of an attempt to start a program. -/
inductive Started (program : String) (arguments : List String) : Except OsError Program → List Event → Prop
  | refused {error} : Started program arguments (.error error) [.attempted program arguments]
  | running {found} : Started program arguments (.ok found)
      [.attempted program arguments, .started found arguments]

/-- The world in which a program has just been started. -/
def afterStart (w : World) (program : String) (arguments : List String) (found : Program) : World :=
  (w.record (.attempted program arguments)).record (.started found arguments)

theorem start_runAt_of_error {w : World} {program : String} {arguments : List String} {error : OsError}
    (refused : w.launch program arguments = .error error) :
    (start program arguments).runAt w = (.ok (.error error), w.record (.attempted program arguments)) := by
  unfold start
  rw [Act.runAt_bind_of_ok (Act.runAt_get w), Act.runAt_bind_of_ok (note_runAt _ w), refused]
  rfl

theorem start_runAt_of_ok {w : World} {program : String} {arguments : List String} {found : Program}
    (launched : w.launch program arguments = .ok found) :
    (start program arguments).runAt w = (.ok (.ok found), w.afterStart program arguments found) := by
  unfold start
  rw [Act.runAt_bind_of_ok (Act.runAt_get w), Act.runAt_bind_of_ok (note_runAt _ w), launched]
  rfl

/-- What comes of the wait for a program that has just been started in this world, and the events. The program is
killed if the wait gives it up, and also if it can then not be reaped. -/
inductive Waited (w : World) (program : Program) (arguments : List String) (budget : Nanoseconds) :
    Except OsError Supervision.WaitOutcome → List Event → Prop
  | exited {status} : w.waitFailure? program budget = none →
      (w.waitFor program budget).outcome = .exited status →
      Waited w program arguments budget (.ok (.exited status)) [.ended arguments (.exited status)]
  | timedOut : w.waitFailure? program budget = none → (w.waitFor program budget).outcome = .timedOut →
      Waited w program arguments budget (.ok .timedOut) [.killed program, .ended arguments .timedOut]
  | brokeOff {failure} : w.waitFailure? program budget = some failure →
      .kill ∉ (w.waitFor program budget).performed (some failure) →
      Waited w program arguments budget (.error failure.error) []
  | notReaped {failure} : w.waitFailure? program budget = some failure →
      .kill ∈ (w.waitFor program budget).performed (some failure) →
      Waited w program arguments budget (.error failure.error) [.killed program]

/-- A wait none of whose actions fails comes to its end. -/
theorem Waited.exists_ok {w : World} {program : Program} {arguments : List String} {budget : Nanoseconds}
    {result : Except OsError Supervision.WaitOutcome} {events : List Event}
    (waited : Waited w program arguments budget result events)
    (faultless : ∀ past, w.site.fault past program = none) : ∃ outcome, result = .ok outcome := by
  have none_eq : w.waitFailure? program budget = none := by
    unfold waitFailure?
    rw [faultless]
    rfl
  cases waited with
  | exited | timedOut => exact ⟨_, rfl⟩
  | brokeOff breaks | notReaped breaks => cases none_eq.symm.trans breaks

theorem await_leads (w : World) (program : Program) (arguments : List String) (budget : Nanoseconds) :
    ∃ result events, Waited w program arguments budget result events ∧
      (await program arguments budget).Leads w (.ok result) events := by
  have gaveUp : .kill ∈ (w.waitFor program budget).actions ↔ (w.waitFor program budget).outcome = .timedOut :=
    Supervision.Child.kill_mem_wait _ _ budget
  unfold await
  cases breaks : w.waitFailure? program budget with
  | some failure =>
    by_cases killed : .kill ∈ (w.waitFor program budget).performed (some failure)
    · refine ⟨_, _, .notReaped breaks killed, .get ?_⟩
      rw [breaks, if_pos (by simpa using killed)]
      exact .bind_quiet (.note rfl) fun _ => .pure _
    · refine ⟨_, _, .brokeOff breaks killed, .get ?_⟩
      rw [breaks, if_neg (by simpa using killed)]
      exact .pure _
  | none =>
    cases outcome : (w.waitFor program budget).outcome with
    | exited status =>
      have spared : ¬((w.waitFor program budget).performed none).contains .kill = true := by
        intro killed
        have gone := gaveUp.mp (by simpa [Supervision.Wait.performed] using killed)
        cases outcome.symm.trans gone
      refine ⟨_, _, .exited breaks outcome, .get ?_⟩
      rw [breaks, if_neg spared, outcome]
      exact .bind_quiet (.note rfl) fun _ => .pure _
    | timedOut =>
      have killed : ((w.waitFor program budget).performed none).contains .kill = true := by
        simpa [Supervision.Wait.performed] using gaveUp.mpr outcome
      refine ⟨_, _, .timedOut breaks outcome, .get ?_⟩
      rw [breaks, if_pos killed, outcome]
      exact .bind (.note rfl) fun _ _ => .bind_quiet (.note rfl) fun _ => .pure _

end World

end ContractSuite
