import ContractSuite.Proofs.Sharing.Unwinding

namespace ContractSuite.Sharing

namespace Phase

/-- Holds while a guard on its own is being made. -/
def isChanging : Phase → Bool
  | .locking (.change _) | .writing (.change _) => true
  | _ => false

end Phase

/-- What holds of a thread that makes guards only in scopes. -/
structure ThreadState.IsScoped (own : ThreadState) : Prop where
  scopes : ∀ holding ∈ own.holdings, holding.isScope = true
  notChanging : own.phase.isChanging = false
  busy : own.phase ≠ .idle → own.holdings ≠ []

namespace ThreadState

theorem IsScoped.of_idle {holdings : List Holding} (scopes : ∀ holding ∈ holdings, holding.isScope = true) :
    IsScoped ⟨holdings, .idle⟩ :=
  ⟨scopes, rfl, fun changed => absurd rfl changed⟩

theorem mem_owedAbove_zero {own : ThreadState} {guard : VariableGuard} :
    guard ∈ own.owedAbove 0 ↔ guard ∈ own.phase.guards ∨ ∃ holding ∈ own.holdings, guard ∈ holding.guards := by
  rw [owedAbove, Nat.sub_zero, List.take_length, List.mem_append, List.mem_flatMap]

theorem IsScoped.pos_of_ne_nil {own : ThreadState} {depth : Nat} (inScopes : own.IsScoped) (sound : own.IsSound depth)
    (has : own.holdings ≠ []) : 0 < depth := by
  obtain ⟨holding, mem⟩ := List.exists_mem_of_ne_nil _ has
  exact sound.pos_of_isScope mem (inScopes.scopes holding mem)

theorem IsScoped.depth_eq_zero {own : ThreadState} {depth : Nat} (inScopes : own.IsScoped) (sound : own.IsSound depth)
    (empty : own.holdings = []) : depth = 0 := by
  have idle : own.phase = .idle := by
    by_contra busy
    exact inScopes.busy busy empty
  rw [sound.depth_eq, empty, idle]
  rfl

theorem IsScoped.ne_nil_of_mem_owedAbove {own : ThreadState} (inScopes : own.IsScoped) {guard : VariableGuard}
    (owed : guard ∈ own.owedAbove 0) : own.holdings ≠ [] := by
  rcases mem_owedAbove_zero.mp owed with restoring | ⟨holding, has, _⟩
  · refine inScopes.busy fun idle => ?_
    rw [idle] at restoring
    exact List.not_mem_nil restoring
  · exact List.ne_nil_of_mem has

/-- A thread that does not hold the lock owes nothing. -/
theorem IsScoped.owedAbove_eq_nil {own : ThreadState} (inScopes : own.IsScoped) (sound : own.IsSound 0) :
    own.owedAbove 0 = [] := by
  rw [List.eq_nil_iff_forall_not_mem]
  intro guard owed
  exact Nat.lt_irrefl 0 (inScopes.pos_of_ne_nil sound (inScopes.ne_nil_of_mem_owedAbove owed))

end ThreadState

variable {Thread : Type} [DecidableEq Thread] {thread other : Thread}

namespace Advances

variable {shared shared' : Shared Thread} {action : Action} {own own' : ThreadState}

theorem isScoped (advances : Advances thread shared action own own' shared') (kind : action.isScoped = true)
    (inScopes : own.IsScoped) : own'.IsScoped := by
  obtain ⟨scopes, notChanging, busy⟩ := inScopes
  cases advances with
  | enter => exact .of_idle (List.forall_mem_cons.mpr ⟨rfl, scopes⟩)
  | keep | dropScope => exact .of_idle (List.forall_mem_cons.mpr ⟨rfl, (List.forall_mem_cons.mp scopes).2⟩)
  | finish =>
    rw [List.forall_mem_append, List.forall_mem_cons] at scopes
    refine .of_idle ?_
    rw [List.forall_mem_append, List.forall_mem_cons]
    exact ⟨scopes.1, rfl, scopes.2.2⟩
  | guard | lend => cases kind
  | dropGuard => cases (List.forall_mem_cons.mp scopes).1
  | @lock _ write =>
    cases write with
    | change => cases notChanging
    | restore => exact ⟨scopes, rfl, fun _ => busy Phase.noConfusion⟩
  | change => cases notChanging
  | restore => exact ⟨scopes, rfl, fun _ => busy Phase.noConfusion⟩
  | unlock => exact .of_idle scopes
  | close =>
    exact ⟨List.forall_mem_cons.mpr ⟨rfl, (List.forall_mem_cons.mp scopes).2⟩, rfl, fun _ => List.cons_ne_nil _ _⟩
  | leave => exact .of_idle (List.forall_mem_cons.mp scopes).2

/-- Whoever makes nothing new has something already. -/
theorem isAbove_zero (advances : Advances thread shared action own own' shared') (notMaking : action.isMaking = false) :
    own.IsAbove 0 := by
  cases advances with
  | enter | guard | lend => cases notMaking
  | keep | dropGuard | dropScope | close | leave => exact .inl (Nat.zero_lt_succ _)
  | finish => exact .inl (List.length_pos_of_ne_nil (by simp))
  | lock | change | restore | unlock => exact .of_busy rfl Phase.noConfusion (Nat.zero_le _)

theorem of_keep {change : VariableChange} (advances : Advances thread shared (.keep change) own own' shared') :
    change.key ∈ (own'.owedAbove 0).map VariableGuard.key ∧
      shared'.environment.get? change.key = change.value := by
  cases advances with
  | keep fresh =>
    refine ⟨List.mem_map.mpr ⟨(change.apply shared.environment).1, ?_, rfl⟩, ?_⟩
    · exact ThreadState.mem_owedAbove_zero.mpr
        (.inr ⟨_, List.mem_cons_self, List.mem_append_right _ (List.mem_singleton_self _)⟩)
    · exact (Environment.get?_put shared.environment change.key change.key change.value).trans (if_pos rfl)

/-- A thread goes on to owe a variable until it writes it. -/
theorem mem_keys_owedAbove (advances : Advances thread shared action own own' shared') {key : String}
    (spared : own.written? action ≠ some key) (owes : key ∈ (own.owedAbove 0).map VariableGuard.key) :
    key ∈ (own'.owedAbove 0).map VariableGuard.key := by
  obtain ⟨guard, owed, rfl⟩ := List.mem_map.mp owes
  rw [ThreadState.mem_owedAbove_zero] at owed
  refine List.mem_map_of_mem (ThreadState.mem_owedAbove_zero.mpr ?_)
  cases advances with
  | guard | lock | unlock => exact owed
  | enter | lend | change => exact owed.imp_right fun ⟨holding, has, mem⟩ => ⟨holding, List.mem_cons_of_mem _ has, mem⟩
  | finish perm =>
    simp only [List.mem_append, List.mem_cons, or_and_right, exists_or, exists_eq_left, Holding.guards,
      perm.mem_iff] at owed ⊢
    exact owed
  | restore =>
    refine owed.imp_left fun same => ?_
    rw [List.mem_singleton.mp same] at spared
    exact absurd rfl spared
  | keep =>
    rw [List.exists_mem_cons_iff] at owed ⊢
    exact owed.imp_right fun has => has.imp_left (List.mem_append_left _)
  | dropGuard =>
    rw [List.exists_mem_cons_iff] at owed
    exact owed.resolve_left List.not_mem_nil
  | dropScope =>
    rw [List.exists_mem_cons_iff] at owed ⊢
    exact owed
  | close =>
    rw [List.exists_mem_cons_iff] at owed ⊢
    rcases owed.resolve_left List.not_mem_nil with here | later
    · rcases List.mem_cons.mp here with same | rest
      · exact .inl (List.mem_singleton.mpr same)
      · exact .inr (.inl rest)
    · exact .inr (.inr later)
  | leave =>
    rw [List.exists_mem_cons_iff] at owed
    exact owed.imp_right fun has => has.resolve_left List.not_mem_nil

end Advances

namespace State

variable {e : Environment} {s s' : State Thread} {action : Action}

/-- All threads make guards only in scopes. -/
def IsScoped (s : State Thread) : Prop :=
  ∀ thread, (s.threads thread).IsScoped

omit [DecidableEq Thread] in
theorem isScoped_start (e : Environment) : (start e : State Thread).IsScoped := fun _ =>
  .of_idle fun _ has => absurd has List.not_mem_nil

theorem IsScoped.step (inScopes : s.IsScoped) (kind : action.isScoped = true)
    (step : s.step? thread action = some s') : s'.IsScoped := by
  obtain ⟨advances, same⟩ := exists_of_step? step
  intro other
  by_cases here : other = thread
  · rw [here]
    exact advances.isScoped kind (inScopes thread)
  · rw [same other here]
    exact inScopes other

/-- While one thread holds the lock, no other thread changes the environment. -/
theorem environment_of_ne (sound : s.IsSound) (held : 0 < s.lock.depthOf thread) (differs : other ≠ thread)
    (step : s.step? other action = some s') : s'.environment = s.environment := by
  obtain ⟨advances, _⟩ := exists_of_step? step
  exact advances.environment_of_not_pos (sound other) fun heldToo => differs (Lock.eq_of_depthOf_pos heldToo held)

theorem IsScoped.owedAbove_eq_nil (inScopes : s.IsScoped) (sound : s.IsSound) (free : s.lock.depthOf thread = 0) :
    (s.threads thread).owedAbove 0 = [] :=
  (inScopes thread).owedAbove_eq_nil (free ▸ sound thread)

/-- What the thread with the lock owes leads back to an environment; without such a thread, it is this one. -/
def IsRestorable (e : Environment) (s : State Thread) : Prop :=
  ∀ thread, (∀ other, 0 < s.lock.depthOf other → other = thread) →
    ∀ key, (EnvironmentScope.leave ⟨(s.threads thread).owedAbove 0⟩ s.environment).get? key = e.get? key

theorem IsRestorable.step (restorable : IsRestorable e s) (sound : s.IsSound) (inScopes : s.IsScoped)
    (kind : action.isScoped = true) (step : s.step? thread action = some s') : IsRestorable e s' := by
  obtain ⟨advances, same⟩ := exists_of_step? step
  have sameUndone (key : String) :
      (EnvironmentScope.leave ⟨(s'.threads thread).owedAbove 0⟩ s'.environment).get? key =
        (EnvironmentScope.leave ⟨(s.threads thread).owedAbove 0⟩ s.environment).get? key :=
    get?_leave_owedAbove sound step (Nat.zero_le _) advances.isAbove_zero (fun differs => absurd rfl differs) key
  intro other alone key
  have heldBefore {third : Thread} (differs : third ≠ thread) (held : 0 < s.lock.depthOf third) : third = other :=
    alone third (by rwa [advances.depthOf_of_ne (sound thread) differs])
  by_cases here : other = thread
  · subst here
    rw [sameUndone]
    refine restorable other (fun third held => ?_) key
    by_contra differs
    exact differs (heldBefore differs held)
  by_cases held : 0 < s.lock.depthOf thread
  · -- The thread has given up the lock, so that nobody owes anything any more.
    have undone := restorable thread (fun third heldToo => Lock.eq_of_depthOf_pos heldToo held) key
    have free (third : Thread) : s'.lock.depthOf third = 0 := by
      refine Nat.eq_zero_of_not_pos fun heldAfter => ?_
      obtain rfl := alone third heldAfter
      rw [advances.depthOf_of_ne (sound thread) here] at heldAfter
      exact here (Lock.eq_of_depthOf_pos heldAfter held)
    rw [← sameUndone, (inScopes.step kind step).owedAbove_eq_nil (sound.step step) (free thread)] at undone
    rw [(inScopes.step kind step).owedAbove_eq_nil (sound.step step) (free other)]
    exact undone
  · rw [same other here, advances.environment_of_not_pos (sound thread) held]
    refine restorable other (fun third heldThird => heldBefore ?_ heldThird) key
    rintro rfl
    exact held heldThird

end State

variable {e : Environment} {s s' : State Thread}

theorem Reaches.isScoped {allowed : State Thread → Thread → Action → Prop}
    (scopesOnly : ∀ m thread action, allowed m thread action → action.isScoped = true) (reached : Reaches allowed s s')
    (inScopes : s.IsScoped) : s'.IsScoped := by
  induction reached with
  | start => exact inScopes
  | step _ allows step ih => exact ih.step (scopesOnly _ _ _ allows) step

theorem Reaches.isRestorable (reached : Reaches (fun _ _ action => action.isScoped = true) (.start e) s) :
    s.IsRestorable e := by
  induction reached with
  | start => exact fun _ _ _ => rfl
  | step before allows step ih =>
    have sound := before.isSound (State.isSound_start e)
    have inScopes := before.isScoped (fun _ _ _ kind => kind) (State.isScoped_start e)
    exact ih.step sound inScopes allows step

/-- Holds of the steps in scopes by which a thread does not write a variable. -/
def SparesVariable (thread : Thread) (key : String) (s : State Thread) (other : Thread) (action : Action) : Prop :=
  action.isScoped = true ∧ (other = thread → (s.threads other).written? action ≠ some key)

/-- A variable that a thread owes is written by nobody else. -/
theorem Reaches.get?_of_owes {key : String} (reached : Reaches (SparesVariable thread key) s s') (sound : s.IsSound)
    (inScopes : s.IsScoped) (owes : key ∈ ((s.threads thread).owedAbove 0).map VariableGuard.key) :
    key ∈ ((s'.threads thread).owedAbove 0).map VariableGuard.key ∧
      s'.environment.get? key = s.environment.get? key := by
  induction reached with
  | start => exact ⟨owes, rfl⟩
  | @step m s'' other action before allows step ih =>
    obtain ⟨owesBefore, unchanged⟩ := ih
    have soundBefore := before.isSound sound
    have inScopesBefore := before.isScoped (fun _ _ _ spares => spares.1) inScopes
    obtain ⟨advances, same⟩ := State.exists_of_step? step
    by_cases here : other = thread
    · subst here
      have spares := allows.2 rfl
      exact ⟨advances.mem_keys_owedAbove spares owesBefore, (advances.get?_of_written?_ne spares).trans unchanged⟩
    · obtain ⟨guard, owed, _⟩ := List.mem_map.mp owesBefore
      have has := (inScopesBefore thread).ne_nil_of_mem_owedAbove owed
      have held := (inScopesBefore thread).pos_of_ne_nil (soundBefore thread) has
      rw [same thread (Ne.symm here), State.environment_of_ne soundBefore held here step]
      exact ⟨owesBefore, unchanged⟩

/-- While a thread has a scope, no step of another thread changes the environment. The value that a thread gives to a
variable stays until the thread writes the variable again. Whenever no thread has a scope, the environment is as it was
at the start. -/
theorem scopes_keep_apart (reached : Reaches (fun _ _ action => action.isScoped = true) (.start e) s)
    (thread : Thread) :
    ((∃ holding ∈ (s.threads thread).holdings, holding.isScope = true) →
      ∀ other action s', other ≠ thread → s.step? other action = some s' → s'.environment = s.environment) ∧
    (∀ change kept s', s.step? thread (.keep change) = some kept →
      Reaches (SparesVariable thread change.key) kept s' → s'.environment.get? change.key = change.value) ∧
    ((∀ other, (s.threads other).holdings = []) → ∀ key, s.environment.get? key = e.get? key) := by
  have sound : s.IsSound := reached.isSound (State.isSound_start e)
  have inScopes : s.IsScoped := reached.isScoped (fun _ _ _ kind => kind) (State.isScoped_start e)
  refine ⟨?_, ?_, ?_⟩
  · rintro ⟨holding, has, isScope⟩ other action s' differs step
    exact State.environment_of_ne sound ((sound thread).pos_of_isScope has isScope) differs step
  · intro change kept s' step run
    obtain ⟨owes, given⟩ := (State.exists_of_step? step).1.of_keep
    exact (run.get?_of_owes (sound.step step) (inScopes.step rfl step) owes).2.trans given
  · intro empty key
    have free (other : Thread) : s.lock.depthOf other = 0 := (inScopes other).depth_eq_zero (sound other) (empty other)
    have undone := reached.isRestorable thread (fun other held => absurd (free other) (Nat.ne_of_gt held)) key
    rw [inScopes.owedAbove_eq_nil sound (free thread)] at undone
    exact undone

/-- While one thread has a scope, another one waits with a scope and begins with a guard; then the scope is dropped. -/
theorem scopes_keep_apart_two_threads :
    ∃ s live s' : State Bool, Reaches (fun _ _ action => action.isScoped = true) (.start [("STEPS", "first")]) s ∧
      s.step? false .enter = none ∧
      (∃ begun, s.step? false (.guard ⟨"STEPS", none⟩) = some begun ∧ begun.environment = s.environment) ∧
      Reaches (SparesVariable true "STEPS") s live ∧ live.environment.get? "STEPS" = some "second" ∧
      Reaches (fun _ _ action => action.isScoped = true) live s' ∧
      ∀ key, s'.environment.get? key = Environment.get? [("STEPS", "first")] key := by
  let e : Environment := [("STEPS", "first")]
  let guard : VariableGuard := ⟨"STEPS", some "first"⟩
  let isFirst : State Bool → Bool → Action → Prop := fun _ actor action => actor = true ∧ action.isScoped = true
  have enters : advance? true ⟨e, .free⟩ .enter {} = some (⟨[.building []], .idle⟩, ⟨e, .held true 0⟩) := rfl
  obtain ⟨entered, enterStep, enteredOwn, enteredShared⟩ := State.exists_step? (s := .start e) rfl rfl enters
  have sets : advance? true ⟨e, .held true 0⟩ (.keep ⟨"STEPS", some "second"⟩) ⟨[.building []], .idle⟩ =
      some (⟨[.building [guard]], .idle⟩, ⟨[("STEPS", "second")], .held true 0⟩) := rfl
  obtain ⟨s, setStep, own, shared⟩ := State.exists_step? enteredOwn enteredShared sets
  have finishes : advance? true ⟨[("STEPS", "second")], .held true 0⟩ (.finish [guard]) ⟨[.building [guard]], .idle⟩ =
      some (⟨[.scope ⟨[guard]⟩], .idle⟩, ⟨[("STEPS", "second")], .held true 0⟩) := rfl
  obtain ⟨live, finishStep, liveOwn, liveShared⟩ := State.exists_step? own shared finishes
  have enteredReached : Reaches isFirst (.start e) entered := .step .start ⟨rfl, rfl⟩ enterStep
  have reached : Reaches isFirst (.start e) s := enteredReached.step ⟨rfl, rfl⟩ setStep
  have takes : (live.lock.take? true).isSome = true := by rw [liveShared]; rfl
  obtain ⟨dropped, s', dropStep, dropping, lastOwn, _⟩ := State.exists_dropped liveOwn rfl takes
  have closing : Reaches isFirst live s' :=
    (Reaches.step .start ⟨rfl, rfl⟩ dropStep).trans
      (dropping.mono fun _ _ _ allows => ⟨allows.1, by rw [allows.2.1]; rfl⟩)
  have inScopes {before after : State Bool} (run : Reaches isFirst before after) :
      Reaches (fun _ _ action => action.isScoped = true) before after := run.mono fun _ _ _ allows => allows.2
  have last : Reaches isFirst (.start e) s' := (reached.step ⟨rfl, rfl⟩ finishStep).trans closing
  have second (m : State Bool) (run : Reaches isFirst (.start e) m) : m.threads false = {} :=
    run.threads_of_ne (fun _ _ _ allows => allows.1) Bool.false_ne_true
  have begins : advance? false s.toShared (.guard ⟨"STEPS", none⟩) {} =
      some (⟨[], .locking (.change ⟨"STEPS", none⟩)⟩, s.toShared) := rfl
  obtain ⟨begun, beginStep, _, _⟩ := State.exists_step? (second s reached) rfl begins
  have finishRun : Reaches (SparesVariable true "STEPS") s live :=
    .step .start ⟨rfl, fun _ written => Option.some_ne_none _ written.symm⟩ finishStep
  refine ⟨s, live, s', inScopes reached, ?_, ⟨begun, beginStep, ?_⟩, finishRun, ?_, inScopes closing, ?_⟩
  · have waits : advance? false s.toShared .enter (s.threads false) = none := by
      rw [second s reached, shared]
      rfl
    rw [State.step?, waits]
    rfl
  · have has : .building [guard] ∈ (s.threads true).holdings := by
      rw [own]
      exact List.mem_cons_self
    exact (scopes_keep_apart (inScopes reached) true).1 ⟨_, has, rfl⟩ false _ begun Bool.false_ne_true beginStep
  · exact (scopes_keep_apart (inScopes enteredReached) true).2.1 _ s live setStep finishRun
  · refine (scopes_keep_apart (inScopes last) true).2.2 fun other => ?_
    cases other with
    | false => rw [second s' last]
    | true => rw [lastOwn]

end ContractSuite.Sharing
