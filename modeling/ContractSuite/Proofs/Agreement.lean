import ContractSuite.Proofs.Exchange

namespace ContractSuite

variable {σ α β : Type}

namespace Act

/-- Two actions, each begun in its own state, answer alike and leave related states behind. -/
def AgreeAt (related : σ → σ → Prop) (act act' : Act σ α) (s s' : σ) : Prop :=
  (act'.runAt s').1 = (act.runAt s).1 ∧ related (act.runAt s).2 (act'.runAt s').2

/-- So they do in all related states. -/
def Agree (related : σ → σ → Prop) (act act' : Act σ α) : Prop :=
  ∀ s s', related s s' → AgreeAt related act act' s s'

variable {related : σ → σ → Prop}

theorem AgreeAt.bind {act act' : Act σ β} {next next' : β → Act σ α} {s s' : σ}
    (agree : AgreeAt related act act' s s')
    (more : ∀ b, (act.runAt s).1 = .ok b → Agree related (next b) (next' b)) :
    AgreeAt related (act >>= next) (act' >>= next') s s' := by
  obtain ⟨same, stays⟩ := agree
  rcases run : act.runAt s with ⟨answer, t⟩
  rcases run' : act'.runAt s' with ⟨answer', t'⟩
  rw [run, run'] at same stays
  dsimp only at same stays
  subst same
  unfold AgreeAt
  cases answer' with
  | error error =>
    rw [runAt_bind_of_error run, runAt_bind_of_error run']
    exact ⟨rfl, stays⟩
  | ok b =>
    rw [runAt_bind_of_ok run, runAt_bind_of_ok run']
    exact more b (by rw [run]) t t' stays

namespace Agree

theorem bind {act act' : Act σ β} {next next' : β → Act σ α} (agree : Agree related act act')
    (more : ∀ b, Agree related (next b) (next' b)) : Agree related (act >>= next) (act' >>= next') :=
  fun s s' relation => (agree s s' relation).bind fun b _ => more b

theorem pure (a : α) : Agree related (Pure.pure a) (Pure.pure a) :=
  fun _ _ relation => ⟨rfl, relation⟩

theorem throw (error : SuiteError) : Agree related (MonadExcept.throw error : Act σ α) (MonadExcept.throw error) :=
  fun _ _ relation => ⟨rfl, relation⟩

theorem lift (x : Except SuiteError α) : Agree related (liftM x : Act σ α) (liftM x) :=
  fun _ _ relation => ⟨rfl, relation⟩

theorem change {f : σ → σ} (keeps : ∀ s s', related s s' → related (f s) (f s')) :
    Agree related (modify f : Act σ PUnit) (modify f) :=
  fun s s' relation => ⟨rfl, keeps s s' relation⟩

/-- What is done with a state has to agree for related states. -/
theorem get {next next' : σ → Act σ α} (more : ∀ s s', related s s' → AgreeAt related (next s) (next' s') s s') :
    Agree related (MonadState.get >>= next) (MonadState.get >>= next') := by
  intro s s' relation
  unfold AgreeAt
  rw [runAt_bind_of_ok (runAt_get s), runAt_bind_of_ok (runAt_get s')]
  exact more s s' relation

end Agree

end Act

namespace Scan

open Act Plan

variable {related : σ → σ → Prop} {server server' : ContractServer σ} {executor executor' : ScenarioExecutor σ}

theorem follow_agree (each : ∀ call, Agree related (perform server executor call) (perform server' executor' call))
    (steps : List Step) (outcome : SuiteOutcome) :
    Agree related (follow server executor steps outcome) (follow server' executor' steps outcome) := by
  induction steps generalizing outcome with
  | nil => exact .pure outcome
  | cons step more ih =>
    cases step with
    | call call => exact .bind (each call) fun reply => ih (outcome.after call reply)
    | defect directive => exact .throw (.malformedDirective directive)

/-- A scan does not see a difference that its collaborators do not see. -/
theorem scanFeature_agree (each : ∀ call, Agree related (perform server executor call) (perform server' executor' call))
    (contents : String) :
    Agree related (scanFeature server executor contents) (scanFeature server' executor' contents) := by
  rw [scanFeature_eq_follow, scanFeature_eq_follow]
  exact follow_agree each (steps contents) _

theorem recorded_agree {call : Call} {act act' : Act σ call.Reply} (agree : Agree related act act') :
    Agree (fun reached reached' => related reached.1 reached'.1 ∧ reached'.2 = reached.2)
      (act.recorded call) (act'.recorded call) := by
  rintro ⟨s, record⟩ ⟨s', record'⟩ ⟨relation, rfl⟩
  obtain ⟨same, stays⟩ := agree s s' relation
  unfold AgreeAt
  rw [runAt_recorded, runAt_recorded, same]
  exact ⟨rfl, stays, rfl⟩

/-- Nor do its exchanges tell of it. -/
theorem exchanges_agree (each : ∀ call, Agree related (perform server executor call) (perform server' executor' call))
    (contents : String) {s s' : σ} (relation : related s s') :
    exchanges server' executor' contents s' = exchanges server executor contents s := by
  have recorded (call : Call) := recorded_agree (each call)
  simp only [← perform_recorded] at recorded
  exact (scanFeature_agree recorded contents (s, []) (s', []) ⟨relation, rfl⟩).2.2

end Scan

end ContractSuite
